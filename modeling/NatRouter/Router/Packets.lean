import NatRouter.Network
import NatRouter.Utils

/-!
# Packets the router makes (`sr_router.c`)

The four constructors of packets: an Ethernet frame around a load, an ARP packet, an IP packet around
a load, and an ICMP message about a packet.  A block that the source allocates with `malloc` and
fills completely is built up from zeros here, as one from `calloc` is.
-/

namespace NatRouter

open ByteMemory

/-- `IP_ADDR_LEN`. -/
def ipAddrLen : UInt8 := 4

/-- `sizeof(sr_arp_packet_t)`. -/
def sizeofArpPacket : UInt32 := 28

/-- `sizeof(sr_icmp_packet_t)`. -/
def sizeofIcmpPacket : UInt32 := 36

/-- `DEFAULT_TTL`. -/
def defaultTtl : UInt8 := 64

/-- The first byte of a header with `ip_hl = DEFAULT_HDRLEN` and `ip_v = IPV4_VERSION`. -/
def defaultVersionHdrlen : UInt8 := 0x45

/-- `ether_broadcast_addr`, as `sr_init` sets it. -/
def etherBroadcastAddr : Mac := Vector.replicate 6 0xff

/-- Copy an Ethernet address to offset `i`. -/
def storeMac (b : ByteMem) (i : ℕ) (mac : Mac) : ByteMem :=
  storeBlock b i (ofBytes mac.toList) etherAddrLen

/-- The Ethernet address at offset `i`. -/
def loadMac (b : ByteMem) (i : ℕ) : Mac := Vector.ofFn fun k => b (i + k)

/-- A byte of an Ethernet address that was stored. -/
lemma storeMac_apply {b : ByteMem} {i j : ℕ} {mac : Mac} (h : j < etherAddrLen) :
    storeMac b i mac (i + j) = mac.toList.getD j 0 := by
  simp [storeMac, storeBlock, ofBytes, h]

/-- An Ethernet address is read from its six bytes. -/
lemma loadMac_congr {b b' : ByteMem} {k k' : ℕ} (h : ∀ j < 6, b' (k' + j) = b (k + j)) :
    loadMac b' k' = loadMac b k := by
  apply Vector.ext
  intro j hj
  rw [loadMac, loadMac, Vector.getElem_ofFn, Vector.getElem_ofFn, h j hj]

/-- An address that was stored is read back. -/
lemma loadMac_storeMac (b : ByteMem) (k : ℕ) (mac : Mac) : loadMac (storeMac b k mac) k = mac := by
  apply Vector.ext
  intro j hj
  rw [loadMac, Vector.getElem_ofFn, storeMac_apply hj]
  simp [hj]

/-- The bytes beside an address that is stored stay. -/
lemma storeMac_apply_of_disjoint {b : ByteMem} {k j : ℕ} {mac : Mac} (h : j < k ∨ k + 6 ≤ j) :
    storeMac b k mac j = b j := storeBlock_apply_of_disjoint h

/-! ### `struct sr_arp_packet` -/

namespace SrArpPacket

/-- `ar_hrd`, in network byte order. -/
def arHrd (p : ByteMem) : UInt16 := load16 p 0

/-- `ar_pro`, in network byte order. -/
def arPro (p : ByteMem) : UInt16 := load16 p 2

/-- `ar_op`, in network byte order. -/
def arOp (p : ByteMem) : UInt16 := load16 p 6

/-- `ar_sha`. -/
def arSha (p : ByteMem) : Mac := loadMac p 8

/-- `ar_sip`, in network byte order. -/
def arSip (p : ByteMem) : UInt32 := load32 p 14

end SrArpPacket

/-! ### Constructors -/

/-- `sr_create_etherframe`. -/
def srCreateEtherframe (loadLen : UInt32) (load : ByteMem) (destEtherAddr sourceEtherAddr : Mac)
    (etherType : UInt16) : ByteMem :=
  let frame := storeMac (fun _ => 0) 0 destEtherAddr
  let frame := storeMac frame 6 sourceEtherAddr
  let frame := store16 frame 12 (htons etherType)
  storeBlock frame sizeofEthernetHdr load loadLen.toNat

/-- `frame_len = sizeof(sr_ethernet_hdr_t) + load_len`, as an `unsigned int`. -/
def frameLen (loadLen : UInt32) : UInt32 := UInt32.ofNat sizeofEthernetHdr + loadLen

/-- `sr_create_arppacket`.  The target hardware address of a request stays zero. -/
def srCreateArppacket (arpType : UInt16) (sourceEtherAddr : Mac) (sourceIpAddr : UInt32)
    (destEtherAddr : Mac) (destIpAddr : UInt32) : ByteMem :=
  let arpPacket := store16 (fun _ => 0) 0 (htons arpHrdEthernet)
  let arpPacket := store16 arpPacket 2 (htons arpProIp)
  let arpPacket := store8 arpPacket 4 (UInt8.ofNat etherAddrLen)
  let arpPacket := store8 arpPacket 5 ipAddrLen
  let arpPacket := store16 arpPacket 6 (htons arpType)
  let arpPacket := storeMac arpPacket 8 sourceEtherAddr
  let arpPacket := store32 arpPacket 14 sourceIpAddr
  let arpPacket := if arpType = arpOpReply then storeMac arpPacket 18 destEtherAddr else arpPacket
  store32 arpPacket 24 destIpAddr

/-- `sr_create_ippacket`. -/
def srCreateIppacket (loadLen : UInt32) (load : ByteMem) (protocol : UInt8)
    (sourceIp destIp : UInt32) : ByteMem :=
  let packet := store8 (fun _ => 0) 0 defaultVersionHdrlen
  let packet := SrIpHdr.setIpTtl packet defaultTtl
  let packet := store16 packet 2 (htons (UInt32.ofNat sizeofIpHdr + loadLen).toUInt16)
  let packet := store8 packet 9 protocol
  let packet := SrIpHdr.setIpSrc packet sourceIp
  let packet := SrIpHdr.setIpDst packet destIp
  let packet := SrIpHdr.setIpSum packet (cksum packet sizeofIpHdr)
  storeBlock packet sizeofIpHdr load loadLen.toNat

/-- The length and the content, but for the checksum, of the ICMP message about the IP packet `data`.
An echo reply takes its length from `ip_len`: if that says less than the two headers, the length
wraps around and the copy runs over the block. -/
def icmpContent (data : ByteMem) (icmpType icmpCode : UInt8) : Except Fault (UInt32 × ByteMem) :=
  let header := store8 (store8 (fun _ => 0) 1 icmpCode) 0 icmpType
  if icmpType ≠ icmpTypeEchoreply then
    -- the IP header and 8 bytes of data, sequence number and identifier zero
    .ok (sizeofIcmpPacket, storeBlock header sizeofIcmpHdr data icmpDataSize)
  else
    let ipLen := (ntohs (SrIpHdr.ipLen data)).toNat
    if ipLen < sizeofIpHdr + sizeofIcmpHdr then .error .overrun
    else
      let icmpPacket := SrIcmpHdr.setIdentifier header 0 (SrIcmpHdr.identifier data sizeofIpHdr)
      let icmpPacket := store16 icmpPacket 6 (SrIcmpHdr.seqNum data sizeofIpHdr)
      .ok (UInt32.ofNat (ipLen - sizeofIpHdr),
        storeBlock icmpPacket sizeofIcmpHdr (fun i => data (sizeofIpHdr + sizeofIcmpHdr + i))
          (ipLen - sizeofIpHdr - sizeofIcmpHdr))

/-- `sr_create_icmppacket`: the message and its length. -/
def srCreateIcmppacket (data : ByteMem) (icmpType icmpCode : UInt8) :
    Except Fault (UInt32 × ByteMem) :=
  match icmpContent data icmpType icmpCode with
  | .error e => .error e
  | .ok (len, icmpPacket) =>
    let icmpPacket := SrIcmpHdr.setIcmpSum icmpPacket 0 0
    .ok (len, SrIcmpHdr.setIcmpSum icmpPacket 0 (cksum icmpPacket len.toNat))

/-- Behind its header a packet that the router makes holds its load. -/
lemma srCreateIppacket_apply_add {loadLen : UInt32} {load : ByteMem} {protocol : UInt8}
    {sourceIp destIp : UInt32} {k : ℕ} (hk : k < loadLen.toNat) :
    srCreateIppacket loadLen load protocol sourceIp destIp (sizeofIpHdr + k) = load k :=
  storeBlock_apply_add hk

end NatRouter
