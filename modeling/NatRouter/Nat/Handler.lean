import NatRouter.Lib.Interleaving
import NatRouter.Nat.Timeout
import NatRouter.Utils

/-!
# Translation of packets (`nat_handle_tcp`, `nat_handle_icmp`)

The two handlers that translate a packet in place.  Each is a program of lock-protected calls on
the NAT state: what other threads do to that state they do between two calls.  The result is the
return code and the packet as the handler leaves it.  The printing of the source is left out.
-/

namespace NatRouter

open ByteMemory Interleaving

/-- A program of NAT calls. -/
abbrev NatProg (α : Type) := Prog NatCall NatCall.Result Fault α

/-- `tcp_segment_len = ip_packet_len - ip_header_len`, converted to `int`. -/
def tcpSegmentLen (ipPacketLen : UInt32) (o : ℕ) : ℤ :=
  (ipPacketLen - UInt32.ofNat o).toBitVec.toInt

/-- The buffer that `nat_handle_tcp` sums: the pseudo header, then the segment. -/
def tcpChecksumBuffer (p : ByteMem) (o : ℕ) (segmentLen : ℤ) : ByteMem :=
  let pseudo : ByteMem := store16 (store8 (store8 (store32 (store32 (fun _ => 0) 0 (SrIpHdr.ipSrc p))
    4 (SrIpHdr.ipDst p)) 8 0) 9 (SrIpHdr.ipP p)) 10 (htons ⟨BitVec.ofInt 16 segmentLen⟩)
  fun i => if i < sizeofTcpPseudoHdr then pseudo i else p (o + (i - sizeofTcpPseudoHdr))

/-- The end of `nat_handle_tcp`, "update check sum": fill in both checksums and return 1.  With a
packet shorter than its IP header the segment length is negative and the copy of the segment runs
over its buffer. -/
def natTcpUpdateChecksum (p : ByteMem) (ipPacketLen : UInt32) (o : ℕ) : NatProg (ℤ × ByteMem) :=
  let segmentLen := tcpSegmentLen ipPacketLen o
  if segmentLen < 0 then .abort .overrun
  else
    let p := SrTcpHdr.setChecksum p o 0
    let p := SrTcpHdr.setChecksum p o
      (cksum (tcpChecksumBuffer p o segmentLen) (sizeofTcpPseudoHdr + segmentLen))
    let p := SrIpHdr.setIpSum p 0
    let p := SrIpHdr.setIpSum p (cksum p sizeofIpHdr)
    .ret (1, p)

/-- The source rewriting of `nat_handle_tcp`: the external port, and the address of the interface
that routes the destination. -/
def natTcpTranslateSource (cfg : NetConfig) (p : ByteMem) (ipPacketLen : UInt32) (o : ℕ)
    (mapping : SrNatMappingCopy) : NatProg (ℤ × ByteMem) :=
  let p := SrTcpHdr.setSrcPort p o (htons mapping.auxExt)
  match srRtLookup cfg.routingTable (SrIpHdr.ipDst p) with
  | .error e => .abort e
  | .ok none => .abort .nullDeref
  | .ok (some lpm) =>
    match srGetInterface cfg.ifList lpm.interface with
    | none => .abort .nullDeref
    | some interfaceInfo =>
      natTcpUpdateChecksum (SrIpHdr.setIpSrc p interfaceInfo.ip) ipPacketLen o

/-- The internal to external branch of `nat_handle_tcp`.  `print_state(conn->state)` reads the
connection that `sr_nat_insert_connection` returned. -/
def natTcpOutbound (cfg : NetConfig) (p : ByteMem) (ipPacketLen : UInt32) (o : ℕ) :
    NatProg (ℤ × ByteMem) :=
  let ipInt := ntohl (SrIpHdr.ipSrc p)
  let auxInt := ntohs (SrTcpHdr.srcPort p o)
  .call (.lookupInternal ipInt auxInt .natMappingTcp) fun
    | none =>
      .call (.insertMapping ipInt auxInt .natMappingTcp) fun (mapping : SrNatMappingCopy) =>
        .call (.insertConnection mapping.auxExt p .synSent) fun
          | none => .abort .nullConn
          | some _ => natTcpTranslateSource cfg p ipPacketLen o mapping
    | some mapping =>
      .call (.updateConnection mapping p ipPacketLen .internalToExternal) fun
        | none => .ret (0, p)
        | some _ => natTcpTranslateSource cfg p ipPacketLen o mapping

/-- The external to internal branch of `nat_handle_tcp`. -/
def natTcpInbound (p : ByteMem) (ipPacketLen : UInt32) (o : ℕ) : NatProg (ℤ × ByteMem) :=
  let auxExt := ntohs (SrTcpHdr.dstPort p o)
  if SrTcpHdr.syn p o ∧ ¬ SrTcpHdr.ack p o then
    .call (.lookupExternal auxExt .natMappingTcp) fun
      | some mapping =>
        .call (.updateConnection mapping p ipPacketLen .externalToInternal) fun _ => .ret (-1, p)
      | none => .call (.insertUnsolicitedPacket p ipPacketLen) fun _ => .ret (-1, p)
  else
    .call (.lookupExternal auxExt .natMappingTcp) fun
      | some mapping =>
        .call (.updateConnection mapping p ipPacketLen .externalToInternal) fun
          | none => .ret (0, p)
          | some _ =>
            let p := SrTcpHdr.setDstPort p o (htons mapping.auxInt)
            natTcpUpdateChecksum (SrIpHdr.setIpDst p (htonl mapping.ipInt)) ipPacketLen o
      | none => natTcpUpdateChecksum p ipPacketLen o

/-- `nat_handle_tcp`.  `isToNat` is true for a packet addressed to the router. -/
def natHandleTcp (cfg : NetConfig) (p : ByteMem) (ipPacketLen : UInt32) (isToNat : Bool) :
    NatProg (ℤ × ByteMem) :=
  let o := ipHeaderLen p
  if isPrivateIp (ntohl (SrIpHdr.ipSrc p)) ∧ isPrivateIp (ntohl (SrIpHdr.ipDst p)) then .ret (1, p)
  else if isPrivateIp (ntohl (SrIpHdr.ipSrc p)) then natTcpOutbound cfg p ipPacketLen o
  else if isToNat then natTcpInbound p ipPacketLen o
  else if isPrivateIp (ntohl (SrIpHdr.ipDst p)) then .ret (0, p)
  else .ret (1, p)

/-- The end of `nat_handle_icmp`, "update check sum": fill in both checksums and return 1. -/
def natIcmpUpdateChecksum (p : ByteMem) (o : ℕ) : NatProg (ℤ × ByteMem) :=
  let icmpLen : UInt32 := (ntohs (SrIpHdr.ipLen p)).toUInt32 - UInt32.ofNat sizeofIpHdr
  let p := SrIcmpHdr.setIcmpSum p o 0
  let p := SrIcmpHdr.setIcmpSum p o (cksum (fun i => p (o + i)) icmpLen.toBitVec.toInt)
  let p := SrIpHdr.setIpSum p 0
  let p := SrIpHdr.setIpSum p (cksum p sizeofIpHdr)
  .ret (1, p)

/-- The source rewriting of `nat_handle_icmp`: the external identifier, and the address of the
interface that routes the destination. -/
def natIcmpTranslateSource (cfg : NetConfig) (p : ByteMem) (o : ℕ) (lpm : SrRt)
    (mapping : SrNatMappingCopy) : NatProg (ℤ × ByteMem) :=
  let p := SrIcmpHdr.setIdentifier p o (htons mapping.auxExt)
  match srGetInterface cfg.ifList lpm.interface with
  | none => .abort .nullDeref
  | some interfaceInfo => natIcmpUpdateChecksum (SrIpHdr.setIpSrc p interfaceInfo.ip) o

/-- The internal to external branch of `nat_handle_icmp`. -/
def natIcmpOutbound (cfg : NetConfig) (p : ByteMem) (o : ℕ) : NatProg (ℤ × ByteMem) :=
  let ipInt := ntohl (SrIpHdr.ipSrc p)
  let auxInt := ntohs (SrIcmpHdr.identifier p o)
  match srRtLookup cfg.routingTable (SrIpHdr.ipDst p) with
  | .error e => .abort e
  | .ok none => .ret (0, p)
  | .ok (some lpm) =>
    .call (.lookupInternal ipInt auxInt .natMappingIcmp) fun
      | none =>
        .call (.insertMapping ipInt auxInt .natMappingIcmp) (natIcmpTranslateSource cfg p o lpm)
      | some mapping => natIcmpTranslateSource cfg p o lpm mapping

/-- The external to internal branch of `nat_handle_icmp`. -/
def natIcmpInbound (p : ByteMem) (o : ℕ) : NatProg (ℤ × ByteMem) :=
  .call (.lookupExternal (ntohs (SrIcmpHdr.identifier p o)) .natMappingIcmp) fun
    | some mapping =>
      let p := SrIcmpHdr.setIdentifier p o (htons mapping.auxInt)
      natIcmpUpdateChecksum (SrIpHdr.setIpDst p (htonl mapping.ipInt)) o
    | none => .ret (0, p)

/-- `nat_handle_icmp`. -/
def natHandleIcmp (cfg : NetConfig) (p : ByteMem) : NatProg (ℤ × ByteMem) :=
  let o := ipHeaderLen p
  if isPrivateIp (ntohl (SrIpHdr.ipSrc p)) ∧ isPrivateIp (ntohl (SrIpHdr.ipDst p)) then .ret (0, p)
  else if isPrivateIp (ntohl (SrIpHdr.ipSrc p)) then natIcmpOutbound cfg p o
  else natIcmpInbound p o

end NatRouter
