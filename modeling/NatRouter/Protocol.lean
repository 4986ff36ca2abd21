import NatRouter.Lib.ByteMemory

/-!
# Packet headers (`sr_protocol.h`)

The packed header structs of `sr_protocol.h`, read and written in place in a packet buffer.  A
buffer is the memory behind a `uint8_t *` (`ByteMem`), and a header is a pointer into it: the IP
header at offset 0, the TCP or ICMP header at offset `ip_hl * 4`.  Fields are loaded as the
little-endian host of the Makefile (`-D_LINUX_`) loads them, so a multi-byte field of a packet is
held in network byte order until it goes through `ntohs` or `ntohl`, as in the source.
-/

namespace NatRouter

open ByteMemory

/-! ### Byte order -/

/-- `ntohs` on a little-endian host. -/
def ntohs (v : UInt16) : UInt16 := byteSwap16 v

/-- `htons` on a little-endian host. -/
def htons (v : UInt16) : UInt16 := byteSwap16 v

/-- `ntohl` on a little-endian host. -/
def ntohl (v : UInt32) : UInt32 := byteSwap32 v

/-- `htonl` on a little-endian host. -/
def htonl (v : UInt32) : UInt32 := byteSwap32 v

@[simp] lemma htons_ntohs (v : UInt16) : htons (ntohs v) = v := byteSwap16_byteSwap16 v

@[simp] lemma ntohs_htons (v : UInt16) : ntohs (htons v) = v := byteSwap16_byteSwap16 v

@[simp] lemma htonl_ntohl (v : UInt32) : htonl (ntohl v) = v := byteSwap32_byteSwap32 v

@[simp] lemma ntohl_htonl (v : UInt32) : ntohl (htonl v) = v := byteSwap32_byteSwap32 v

/-- Conversion to network order loses nothing. -/
lemma htons_inj {v v' : UInt16} : htons v = htons v' ↔ v = v' :=
  ⟨fun h => by rw [← ntohs_htons v, h, ntohs_htons], fun h => by rw [h]⟩

/-- Conversion to host order loses nothing. -/
lemma ntohl_inj {v v' : UInt32} : ntohl v = ntohl v' ↔ v = v' :=
  ⟨fun h => by rw [← htonl_ntohl v, h, htonl_ntohl], fun h => by rw [h]⟩

/-- Conversion to network order loses nothing. -/
lemma htonl_inj {v v' : UInt32} : htonl v = htonl v' ↔ v = v' := ntohl_inj

/-! ### Constants -/

/-- `ETHER_ADDR_LEN`. -/
def etherAddrLen : ℕ := 6

/-- `sizeof(sr_ethernet_hdr_t)`. -/
def sizeofEthernetHdr : ℕ := 14

/-- `sizeof(sr_ip_hdr_t)`. -/
def sizeofIpHdr : ℕ := 20

/-- `sizeof(sr_tcp_hdr_t)`. -/
def sizeofTcpHdr : ℕ := 20

/-- `sizeof(sr_tcp_pseudo_hdr_t)`. -/
def sizeofTcpPseudoHdr : ℕ := 12

/-- `sizeof(sr_icmp_hdr_t)`. -/
def sizeofIcmpHdr : ℕ := 8

/-- `ICMP_DATA_SIZE`. -/
def icmpDataSize : ℕ := 28

/-- `IP_MAXPACKET`. -/
def ipMaxpacket : UInt32 := 65535

/-- `ip_protocol_icmp`. -/
def ipProtocolIcmp : UInt8 := 0x01

/-- `ip_protocol_tcp`. -/
def ipProtocolTcp : UInt8 := 0x06

/-- `ip_protocol_udp`. -/
def ipProtocolUdp : UInt8 := 0x11

/-- `ethertype_arp`. -/
def ethertypeArp : UInt16 := 0x0806

/-- `ethertype_ip`. -/
def ethertypeIp : UInt16 := 0x0800

/-- `arp_op_request`. -/
def arpOpRequest : UInt16 := 0x0001

/-- `arp_op_reply`. -/
def arpOpReply : UInt16 := 0x0002

/-- `arp_hrd_ethernet`. -/
def arpHrdEthernet : UInt16 := 0x0001

/-- `arp_pro_ip`. -/
def arpProIp : UInt16 := 0x0800

/-- `icmp_type_echoreply`. -/
def icmpTypeEchoreply : UInt8 := 0x00

/-- `icmp_type_dstunreachable`. -/
def icmpTypeDstunreachable : UInt8 := 0x03

/-- `icmp_type_timeexceeded`. -/
def icmpTypeTimeexceeded : UInt8 := 0x0B

/-- `ip_broadcast_addr`, as `sr_init` sets it. -/
def ipBroadcastAddr : UInt32 := 0xFFFFFFFF

/-! ### `struct sr_ip_hdr` -/

namespace SrIpHdr

/-- `ip_hl`: header length in 32-bit words, the low four bits of the first byte. -/
def ipHl (p : ByteMem) : ℕ := (p 0).toNat % 16

/-- `ip_len`, in network byte order. -/
def ipLen (p : ByteMem) : UInt16 := load16 p 2

/-- `ip_off`, in network byte order. -/
def ipOff (p : ByteMem) : UInt16 := load16 p 6

/-- `ip_ttl`. -/
def ipTtl (p : ByteMem) : UInt8 := p 8

/-- `ip_p`: the protocol. -/
def ipP (p : ByteMem) : UInt8 := p 9

/-- `ip_sum`. -/
def ipSum (p : ByteMem) : UInt16 := load16 p 10

/-- `ip_src`, in network byte order. -/
def ipSrc (p : ByteMem) : UInt32 := load32 p 12

/-- `ip_dst`, in network byte order. -/
def ipDst (p : ByteMem) : UInt32 := load32 p 16

/-- `ip_header->ip_ttl = v`. -/
def setIpTtl (p : ByteMem) (v : UInt8) : ByteMem := store8 p 8 v

/-- `ip_header->ip_sum = v`. -/
def setIpSum (p : ByteMem) (v : UInt16) : ByteMem := store16 p 10 v

/-- `ip_header->ip_src = v`. -/
def setIpSrc (p : ByteMem) (v : UInt32) : ByteMem := store32 p 12 v

/-- `ip_header->ip_dst = v`. -/
def setIpDst (p : ByteMem) (v : UInt32) : ByteMem := store32 p 16 v

end SrIpHdr

/-- `(ip_header->ip_hl)*4`: the length of the IP header, and so the offset of what it carries. -/
def ipHeaderLen (p : ByteMem) : ℕ := SrIpHdr.ipHl p * 4

/-- The header length depends on the first byte only. -/
lemma ipHeaderLen_congr {p q : ByteMem} (h : q 0 = p 0) : ipHeaderLen q = ipHeaderLen p := by
  simp only [ipHeaderLen, SrIpHdr.ipHl, h]

/-- The header length is at most 60. -/
lemma ipHeaderLen_le (p : ByteMem) : ipHeaderLen p ≤ 60 := by
  have hlt := Nat.mod_lt (p 0).toNat (show 0 < 16 by omega)
  simp only [ipHeaderLen, SrIpHdr.ipHl]
  omega

/-! ### `struct sr_tcp_hdr` at offset `o` -/

namespace SrTcpHdr

/-- `src_port`, in network byte order. -/
def srcPort (p : ByteMem) (o : ℕ) : UInt16 := load16 p o

/-- `dst_port`, in network byte order. -/
def dstPort (p : ByteMem) (o : ℕ) : UInt16 := load16 p (o + 2)

/-- `seq_num`, in network byte order. -/
def seqNum (p : ByteMem) (o : ℕ) : UInt32 := load32 p (o + 4)

/-- The `FIN` flag. -/
def fin (p : ByteMem) (o : ℕ) : Bool := (p (o + 13)).toBitVec.getLsbD 0

/-- The `SYN` flag. -/
def syn (p : ByteMem) (o : ℕ) : Bool := (p (o + 13)).toBitVec.getLsbD 1

/-- The `ACK` flag. -/
def ack (p : ByteMem) (o : ℕ) : Bool := (p (o + 13)).toBitVec.getLsbD 4

/-- `tcp_header->src_port = v`. -/
def setSrcPort (p : ByteMem) (o : ℕ) (v : UInt16) : ByteMem := store16 p o v

/-- `tcp_header->dst_port = v`. -/
def setDstPort (p : ByteMem) (o : ℕ) (v : UInt16) : ByteMem := store16 p (o + 2) v

/-- `tcp_header->checksum = v`. -/
def setChecksum (p : ByteMem) (o : ℕ) (v : UInt16) : ByteMem := store16 p (o + 16) v

end SrTcpHdr

/-! ### `struct sr_icmp_hdr` at offset `o` -/

namespace SrIcmpHdr

/-- `icmp_type`. -/
def icmpType (p : ByteMem) (o : ℕ) : UInt8 := p o

/-- `icmp_sum`. -/
def icmpSum (p : ByteMem) (o : ℕ) : UInt16 := load16 p (o + 2)

/-- `identifier`, in network byte order. -/
def identifier (p : ByteMem) (o : ℕ) : UInt16 := load16 p (o + 4)

/-- `seq_num`, in network byte order. -/
def seqNum (p : ByteMem) (o : ℕ) : UInt16 := load16 p (o + 6)

/-- `icmp_header->icmp_sum = v`. -/
def setIcmpSum (p : ByteMem) (o : ℕ) (v : UInt16) : ByteMem := store16 p (o + 2) v

/-- `icmp_header->identifier = v`. -/
def setIdentifier (p : ByteMem) (o : ℕ) (v : UInt16) : ByteMem := store16 p (o + 4) v

end SrIcmpHdr

/-! ### Well-formed packets -/

/-- An ICMP packet in a receive buffer: an IP header of at least the 20 bytes an IP header has,
followed inside the buffer by an ICMP header. -/
structure IcmpPacket where
  /-- The memory behind the packet pointer. -/
  buf : ByteMem
  /-- The length handed on with the pointer. -/
  len : UInt32
  /-- The protocol field says ICMP. -/
  isIcmp : SrIpHdr.ipP buf = ipProtocolIcmp
  /-- The IP header is complete. -/
  headerLen : 5 ≤ SrIpHdr.ipHl buf
  /-- Both headers lie inside the packet. -/
  fits : ipHeaderLen buf + sizeofIcmpHdr ≤ len.toNat
  /-- The packet is not longer than an IP packet can be. -/
  len_le : len ≤ ipMaxpacket

/-- A TCP packet in a receive buffer: an IP header of at least the 20 bytes an IP header has,
followed inside the buffer by a TCP header. -/
structure TcpPacket where
  /-- The memory behind the packet pointer. -/
  buf : ByteMem
  /-- The length handed on with the pointer. -/
  len : UInt32
  /-- The protocol field says TCP. -/
  isTcp : SrIpHdr.ipP buf = ipProtocolTcp
  /-- The IP header is complete. -/
  headerLen : 5 ≤ SrIpHdr.ipHl buf
  /-- Both headers lie inside the packet. -/
  fits : ipHeaderLen buf + sizeofTcpHdr ≤ len.toNat
  /-- The packet is not longer than an IP packet can be. -/
  len_le : len ≤ ipMaxpacket

/-- The ICMP header of an ICMP packet starts behind its IP header. -/
lemma IcmpPacket.offset_ge (p : IcmpPacket) : 20 ≤ ipHeaderLen p.buf := by
  have := p.headerLen
  unfold ipHeaderLen
  omega

/-- The TCP header of a TCP packet starts behind its IP header. -/
lemma TcpPacket.offset_ge (p : TcpPacket) : 20 ≤ ipHeaderLen p.buf := by
  have := p.headerLen
  unfold ipHeaderLen
  omega

end NatRouter
