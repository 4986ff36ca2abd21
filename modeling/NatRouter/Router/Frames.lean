import NatRouter.Lib.Footprint
import NatRouter.Router.IpPacket

/-!
# Frames, and the bytes of them that are touched (`sr_handlepacket`)

`sr_handlepacket` looks at the Ethernet header of a frame and hands its load on, to `sr_handle_arp` or
to `sr_handle_ippacket`.

The namespace `InFrame` has the functions on the way of a frame once more, with the bytes of the frame
that they read and write: those that `sr_handlepacket`, `sr_handle_arp`, `sr_handle_ippacket`,
`nat_handle_icmp`, `nat_handle_tcp`, `cksum` and `sr_create_icmppacket` touch themselves.  Without
its accesses each of them is the function it is named after (`InFrame.erase_srHandlepacket`).
-/

namespace NatRouter

open ByteMemory Interleaving Footprint

/-- What becomes of a frame. -/
inductive FrameAction where
  /-- Nothing is done. -/
  | drop
  /-- Its load is an ARP packet, for `sr_handle_arp`. -/
  | arp (packet : ByteMem)
  /-- Its load is an IP packet, about which `sr_handle_ippacket` has decided. -/
  | ip (action : IpAction)

/-- The destination of a frame is neither the interface nor, as the test is made, a broadcast. -/
def isMisdirected (frame : ByteMem) (iface : SrIf) : Bool :=
  -- `memcmp(dest_macaddr, ether_broadcast_addr, ETHER_ADDR_LEN != 0)` compares one byte
  frame 0 ≠ 0xff ∧ loadMac frame 0 ≠ iface.addr

/-- The load of a frame. -/
def frameLoad (frame : ByteMem) : ByteMem := fun i => frame (sizeofEthernetHdr + i)

/-- `load_len`, which wraps around for a frame that is shorter than its header. -/
def frameLoadLen (len : UInt32) : UInt32 := len - UInt32.ofNat sizeofEthernetHdr

/-- `sr_handlepacket`, up to the handling of an ARP packet and to what is decided about an IP packet. -/
def srHandlepacket (cfg : NetConfig) (natEnabled : Bool) (packet : ByteMem) (len : UInt32)
    (interface : IfName) : NatProg FrameAction :=
  match srGetInterface cfg.ifList interface with
  | none => .abort .nullDeref
  | some iface =>
    if isMisdirected packet iface then .ret .drop
    else
      let ethertype := ntohs (load16 packet 12)
      if ethertype = ethertypeArp then .ret (.arp (frameLoad packet))
      else if ethertype = ethertypeIp then
        (ipAction cfg natEnabled (frameLoad packet) (frameLoadLen len)).map .ip
      else .ret .drop

namespace InFrame

/-- A program of NAT calls with its accesses to the frame. -/
abbrev FrameProg (α : Type) := TracedProg NatCall NatCall.Result Fault α

/-! ### Fields of the frame -/

/-- `ether_dhost`. -/
@[simp] def etherDhost : Span := ⟨0, 6⟩

/-- `ether_type`. -/
@[simp] def etherType : Span := ⟨12, 2⟩

/-- `n` bytes from index `i` of the load on. -/
@[simp] def load (i n : ℕ) : Span := ⟨sizeofEthernetHdr + i, n⟩

/-- `ar_hrd`. -/
@[simp] def arHrd : Span := load 0 2

/-- `ar_pro`. -/
@[simp] def arPro : Span := load 2 2

/-- `ar_op`. -/
@[simp] def arOp : Span := load 6 2

/-- `ar_sha`. -/
@[simp] def arSha : Span := load 8 6

/-- `ar_sip`. -/
@[simp] def arSip : Span := load 14 4

/-- `ip_hl`. -/
@[simp] def ipHl : Span := load 0 1

/-- `ip_len`. -/
@[simp] def ipLen : Span := load 2 2

/-- `ip_ttl`. -/
@[simp] def ipTtl : Span := load 8 1

/-- `ip_p`. -/
@[simp] def ipP : Span := load 9 1

/-- `ip_sum`. -/
@[simp] def ipSum : Span := load 10 2

/-- `ip_src`. -/
@[simp] def ipSrc : Span := load 12 4

/-- `ip_dst`. -/
@[simp] def ipDst : Span := load 16 4

/-- `src_port`. -/
@[simp] def srcPort (o : ℕ) : Span := load o 2

/-- `dst_port`. -/
@[simp] def dstPort (o : ℕ) : Span := load (o + 2) 2

/-- `SYN` and `ACK`. -/
@[simp] def flags (o : ℕ) : Span := load (o + 13) 1

/-- `checksum`. -/
@[simp] def checksum (o : ℕ) : Span := load (o + 16) 2

/-- `icmp_type`. -/
@[simp] def icmpType (o : ℕ) : Span := load o 1

/-- `icmp_sum`. -/
@[simp] def icmpSum (o : ℕ) : Span := load (o + 2) 2

/-- `identifier`. -/
@[simp] def identifier (o : ℕ) : Span := load (o + 4) 2

/-- `seq_num`. -/
@[simp] def seqNum (o : ℕ) : Span := load (o + 6) 2

/-- What `cksum` reads: nothing, for a negative length. -/
@[simp] def cksum (i : ℕ) (len : ℤ) : Span := load i len.toNat

/-! ### `nat_handle_tcp` -/

/-- The end of `nat_handle_tcp`.  The length of the copy is converted to `size_t`. -/
def natTcpUpdateChecksum (p : ByteMem) (ipPacketLen : UInt32) (o : ℕ) : FrameProg (ℤ × ByteMem) :=
  let segmentLen := tcpSegmentLen ipPacketLen o
  accessing [checksum o, ipSrc, ipDst, ipP, load o (BitVec.ofInt 64 segmentLen).toNat] <|
    if segmentLen < 0 then .abort .overrun
    else
      accessing [checksum o, ipSum, cksum 0 sizeofIpHdr, ipSum]
        (untraced (NatRouter.natTcpUpdateChecksum p ipPacketLen o))

/-- The source rewriting of `nat_handle_tcp`. -/
def natTcpTranslateSource (cfg : NetConfig) (p : ByteMem) (ipPacketLen : UInt32) (o : ℕ)
    (mapping : SrNatMappingCopy) : FrameProg (ℤ × ByteMem) :=
  let p := SrTcpHdr.setSrcPort p o (htons mapping.auxExt)
  accessing [srcPort o, ipDst] <|
    match srRtLookup cfg.routingTable (SrIpHdr.ipDst p) with
    | .error e => .abort e
    | .ok none => .abort .nullDeref
    | .ok (some lpm) =>
      match srGetInterface cfg.ifList lpm.interface with
      | none => .abort .nullDeref
      | some interfaceInfo =>
        accessing [ipSrc]
          (natTcpUpdateChecksum (SrIpHdr.setIpSrc p interfaceInfo.ip) ipPacketLen o)

/-- The internal to external branch of `nat_handle_tcp`. -/
def natTcpOutbound (cfg : NetConfig) (p : ByteMem) (ipPacketLen : UInt32) (o : ℕ) :
    FrameProg (ℤ × ByteMem) :=
  let ipInt := ntohl (SrIpHdr.ipSrc p)
  let auxInt := ntohs (SrTcpHdr.srcPort p o)
  accessing [ipSrc, srcPort o] <| calling (.lookupInternal ipInt auxInt .natMappingTcp) fun
    | none =>
      accessing [ipSrc, srcPort o] <|
        calling (.insertMapping ipInt auxInt .natMappingTcp) fun (mapping : SrNatMappingCopy) =>
          calling (.insertConnection mapping.auxExt p .synSent) fun
            | none => .abort .nullConn
            | some _ => natTcpTranslateSource cfg p ipPacketLen o mapping
    | some mapping =>
      calling (.updateConnection mapping p ipPacketLen .internalToExternal) fun
        | none => .ret (0, p)
        | some _ => natTcpTranslateSource cfg p ipPacketLen o mapping

/-- The external to internal branch of `nat_handle_tcp`. -/
def natTcpInbound (p : ByteMem) (ipPacketLen : UInt32) (o : ℕ) : FrameProg (ℤ × ByteMem) :=
  let auxExt := ntohs (SrTcpHdr.dstPort p o)
  accessing [flags o, dstPort o] <|
    if SrTcpHdr.syn p o ∧ ¬ SrTcpHdr.ack p o then
      calling (.lookupExternal auxExt .natMappingTcp) fun
        | some mapping =>
          calling (.updateConnection mapping p ipPacketLen .externalToInternal) fun _ => .ret (-1, p)
        | none => calling (.insertUnsolicitedPacket p ipPacketLen) fun _ => .ret (-1, p)
    else
      calling (.lookupExternal auxExt .natMappingTcp) fun
        | some mapping =>
          calling (.updateConnection mapping p ipPacketLen .externalToInternal) fun
            | none => .ret (0, p)
            | some _ =>
              let p := SrTcpHdr.setDstPort p o (htons mapping.auxInt)
              accessing [dstPort o, ipDst]
                (natTcpUpdateChecksum (SrIpHdr.setIpDst p (htonl mapping.ipInt)) ipPacketLen o)
        | none => natTcpUpdateChecksum p ipPacketLen o

/-- `nat_handle_tcp`. -/
def natHandleTcp (cfg : NetConfig) (p : ByteMem) (ipPacketLen : UInt32) (isToNat : Bool) :
    FrameProg (ℤ × ByteMem) :=
  let o := ipHeaderLen p
  accessing [ipHl, ipSrc] <|
    if isPrivateIp (ntohl (SrIpHdr.ipSrc p)) then
      accessing [ipDst] <|
        if isPrivateIp (ntohl (SrIpHdr.ipDst p)) then .ret (1, p)
        else natTcpOutbound cfg p ipPacketLen o
    else if isToNat then natTcpInbound p ipPacketLen o
    else
      accessing [ipDst] <|
        if isPrivateIp (ntohl (SrIpHdr.ipDst p)) then .ret (0, p) else .ret (1, p)

/-! ### `nat_handle_icmp` -/

/-- `icmp_len`, as `cksum` takes it. -/
def icmpLen (p : ByteMem) : ℤ :=
  ((ntohs (SrIpHdr.ipLen p)).toUInt32 - UInt32.ofNat sizeofIpHdr).toBitVec.toInt

/-- The end of `nat_handle_icmp`. -/
def natIcmpUpdateChecksum (p : ByteMem) (o : ℕ) : FrameProg (ℤ × ByteMem) :=
  accessing [ipLen, icmpSum o, cksum o (icmpLen p), icmpSum o, ipSum, cksum 0 sizeofIpHdr, ipSum]
    (untraced (NatRouter.natIcmpUpdateChecksum p o))

/-- The source rewriting of `nat_handle_icmp`. -/
def natIcmpTranslateSource (cfg : NetConfig) (p : ByteMem) (o : ℕ) (lpm : SrRt)
    (mapping : SrNatMappingCopy) : FrameProg (ℤ × ByteMem) :=
  let p := SrIcmpHdr.setIdentifier p o (htons mapping.auxExt)
  accessing [identifier o] <|
    match srGetInterface cfg.ifList lpm.interface with
    | none => .abort .nullDeref
    | some interfaceInfo =>
      accessing [ipSrc] (natIcmpUpdateChecksum (SrIpHdr.setIpSrc p interfaceInfo.ip) o)

/-- The internal to external branch of `nat_handle_icmp`. -/
def natIcmpOutbound (cfg : NetConfig) (p : ByteMem) (o : ℕ) : FrameProg (ℤ × ByteMem) :=
  let ipInt := ntohl (SrIpHdr.ipSrc p)
  let auxInt := ntohs (SrIcmpHdr.identifier p o)
  accessing [ipDst] <|
    match srRtLookup cfg.routingTable (SrIpHdr.ipDst p) with
    | .error e => .abort e
    | .ok none => .ret (0, p)
    | .ok (some lpm) =>
      accessing [ipSrc, identifier o] <| calling (.lookupInternal ipInt auxInt .natMappingIcmp) fun
        | none =>
          accessing [ipSrc, identifier o] <|
            calling (.insertMapping ipInt auxInt .natMappingIcmp)
              (natIcmpTranslateSource cfg p o lpm)
        | some mapping => natIcmpTranslateSource cfg p o lpm mapping

/-- The external to internal branch of `nat_handle_icmp`. -/
def natIcmpInbound (p : ByteMem) (o : ℕ) : FrameProg (ℤ × ByteMem) :=
  accessing [identifier o] <|
    calling (.lookupExternal (ntohs (SrIcmpHdr.identifier p o)) .natMappingIcmp) fun
      | some mapping =>
        let p := SrIcmpHdr.setIdentifier p o (htons mapping.auxInt)
        accessing [identifier o, ipDst]
          (natIcmpUpdateChecksum (SrIpHdr.setIpDst p (htonl mapping.ipInt)) o)
      | none => .ret (0, p)

/-- `nat_handle_icmp`. -/
def natHandleIcmp (cfg : NetConfig) (p : ByteMem) : FrameProg (ℤ × ByteMem) :=
  let o := ipHeaderLen p
  accessing [ipHl, ipSrc] <|
    if isPrivateIp (ntohl (SrIpHdr.ipSrc p)) then
      accessing [ipDst] <|
        if isPrivateIp (ntohl (SrIpHdr.ipDst p)) then .ret (0, p) else natIcmpOutbound cfg p o
    else natIcmpInbound p o

/-! ### `sr_handle_ippacket` -/

/-- `sr_create_icmppacket`, about a packet in the frame: the quote of an error, or the data of an echo
request, whose length is an `unsigned int`. -/
def srCreateIcmppacket (data : ByteMem) (icmpType : UInt8) : List Span :=
  if icmpType ≠ icmpTypeEchoreply then [load 0 icmpDataSize]
  else
    let dataLen : UInt32 := (ntohs (SrIpHdr.ipLen data)).toUInt32 - UInt32.ofNat sizeofIpHdr -
      UInt32.ofNat sizeofIcmpHdr
    [ipLen, identifier sizeofIpHdr, seqNum sizeofIpHdr,
      load (sizeofIpHdr + sizeofIcmpHdr) dataLen.toNat]

/-- What is touched of the packet in `sr_forward_ippacket`: `cksum` goes over its header, or an error
is sent about it. -/
def srForwardIppacket (cfg : NetConfig) (packet : ByteMem) : List Span :=
  match srRtLookup cfg.routingTable (SrIpHdr.ipDst packet) with
  | .error _ => []
  | .ok (some _) => [cksum 0 (ipHeaderLen packet)]
  | .ok none => srCreateIcmppacket packet icmpTypeDstunreachable

/-- What is touched when it is done what was decided. -/
def perform (cfg : NetConfig) : IpAction → List Span
  | .drop => []
  | .sendIcmp packet type _ => srCreateIcmppacket packet type
  | .forward packet => srForwardIppacket cfg packet

/-- A packet for the router that carries an ICMP message, after the test of its checksum. -/
def icmpAction (cfg : NetConfig) (natEnabled : Bool) (packet : ByteMem) : FrameProg IpAction :=
  let icmpType := SrIcmpHdr.icmpType packet (ipHeaderLen packet)
  accessing [InFrame.icmpType (ipHeaderLen packet)] <|
    if icmpType = 8 then .ret (.sendIcmp packet icmpTypeEchoreply 0)
    else if natEnabled ∧ icmpType = 0 then
      (natHandleIcmp cfg packet).map fun r => if r.1 ≠ 0 then .forward r.2 else .drop
    else .ret .drop

/-- A packet for the router. -/
def routerAction (cfg : NetConfig) (natEnabled : Bool) (packet : ByteMem) (len : UInt32) :
    FrameProg IpAction :=
  let headerLen := ipHeaderLen packet
  let protocol := SrIpHdr.ipP packet
  if protocol = ipProtocolIcmp then
    let sum := SrIcmpHdr.icmpSum packet headerLen
    let packet := SrIcmpHdr.setIcmpSum packet headerLen 0
    accessing [icmpSum headerLen, cksum headerLen (loadLength len headerLen)] <|
      if NatRouter.cksum (fun i => packet (headerLen + i)) (loadLength len headerLen) ≠ sum then
        .ret .drop
      else
        accessing [icmpSum headerLen]
          (icmpAction cfg natEnabled (SrIcmpHdr.setIcmpSum packet headerLen sum))
  else if protocol = ipProtocolTcp ∨ protocol = ipProtocolUdp then
    if natEnabled ∧ protocol = ipProtocolTcp then
      (natHandleTcp cfg packet len true).map fun r =>
        if r.1 = 1 then .forward r.2
        else if r.1 = -1 then .drop
        else .sendIcmp r.2 icmpTypeDstunreachable 3
    else .ret (.sendIcmp packet icmpTypeDstunreachable 3)
  else .ret (.sendIcmp packet icmpTypeDstunreachable 2)

/-- A packet for somebody else. -/
def transitAction (cfg : NetConfig) (natEnabled : Bool) (packet : ByteMem) (len : UInt32) :
    FrameProg IpAction :=
  let protocol := SrIpHdr.ipP packet
  accessing [ipTtl] <|
    if ((SrIpHdr.ipTtl packet).toNat : ℤ) - 1 = 0 then
      .ret (.sendIcmp packet icmpTypeTimeexceeded 0)
    else if natEnabled ∧ protocol = ipProtocolIcmp then
      (natHandleIcmp cfg packet).map fun r => .forward r.2
    else if natEnabled ∧ protocol = ipProtocolTcp then
      (natHandleTcp cfg packet len false).map fun r =>
        if r.1 = 0 then .sendIcmp r.2 icmpTypeDstunreachable 1 else .forward r.2
    else .ret (.forward packet)

/-- The decision of `sr_handle_ippacket`. -/
def ipAction (cfg : NetConfig) (natEnabled : Bool) (packet : ByteMem) (len : UInt32) :
    FrameProg IpAction :=
  if ipMaxpacket < len ∨ len ≤ UInt32.ofNat sizeofIpHdr then .ret .drop
  else
    let packetSum := SrIpHdr.ipSum packet
    let headerLen := ipHeaderLen packet
    let packet := SrIpHdr.setIpSum packet 0
    accessing [ipSum, ipHl, cksum 0 headerLen] <|
      if NatRouter.cksum packet headerLen ≠ packetSum then .ret .drop
      else
        let packet := SrIpHdr.setIpSum packet packetSum
        accessing [ipSum, ipP, ipDst] <|
          if isForRouter cfg (SrIpHdr.ipDst packet) then routerAction cfg natEnabled packet len
          else transitAction cfg natEnabled packet len

/-- `sr_handle_ippacket`: the decision, and what is touched when it is done what was decided. -/
def srHandleIppacket (cfg : NetConfig) (natEnabled : Bool) (packet : ByteMem) (len : UInt32) :
    FrameProg IpAction :=
  andThen (fun action => accessing (perform cfg action) (.ret action))
    (ipAction cfg natEnabled packet len)

/-! ### `sr_handlepacket` -/

/-- `sr_handle_arp`. -/
def srHandleArp (packet : ByteMem) : List Span :=
  if ntohs (SrArpPacket.arHrd packet) = arpHrdEthernet then
    if ntohs (SrArpPacket.arPro packet) = arpProIp then [arHrd, arPro, arSha, arSip, arOp]
    else [arHrd, arPro]
  else [arHrd]

/-- `sr_handlepacket`. -/
def srHandlepacket (cfg : NetConfig) (natEnabled : Bool) (packet : ByteMem) (len : UInt32)
    (interface : IfName) : FrameProg FrameAction :=
  accessing [etherDhost] <|
    match srGetInterface cfg.ifList interface with
    | none => .abort .nullDeref
    | some iface =>
      if isMisdirected packet iface then .ret .drop
      else
        let ethertype := ntohs (load16 packet 12)
        accessing [etherType] <|
          if ethertype = ethertypeArp then
            accessing (srHandleArp (frameLoad packet)) (.ret (.arp (frameLoad packet)))
          else if ethertype = ethertypeIp then
            (srHandleIppacket cfg natEnabled (frameLoad packet) (frameLoadLen len)).map .ip
          else .ret .drop

/-! ### Without the accesses -/

section Erase

variable {cfg : NetConfig} {natEnabled : Bool} {p : ByteMem} {len : UInt32} {o : ℕ}

lemma erase_natTcpUpdateChecksum :
    erase (natTcpUpdateChecksum p len o) = NatRouter.natTcpUpdateChecksum p len o := by
  unfold natTcpUpdateChecksum NatRouter.natTcpUpdateChecksum
  simp only [erase_accessing]
  split
  · rfl
  · rw [erase_accessing, erase_untraced]

lemma erase_natTcpTranslateSource (mapping : SrNatMappingCopy) :
    erase (natTcpTranslateSource cfg p len o mapping) =
      NatRouter.natTcpTranslateSource cfg p len o mapping := by
  unfold natTcpTranslateSource NatRouter.natTcpTranslateSource
  simp only [erase_accessing]
  rcases srRtLookup cfg.routingTable _ with e | _ | lpm
  · rfl
  · rfl
  · dsimp only
    rcases srGetInterface cfg.ifList lpm.interface with _ | i
    · rfl
    · exact erase_natTcpUpdateChecksum

lemma erase_natTcpOutbound :
    erase (natTcpOutbound cfg p len o) = NatRouter.natTcpOutbound cfg p len o := by
  unfold natTcpOutbound NatRouter.natTcpOutbound
  rw [erase_accessing]
  refine erase_calling fun r => ?_
  rcases r with _ | mapping
  · rw [erase_accessing]
    refine erase_calling fun mapping => erase_calling fun c => ?_
    rcases c with _ | c
    · rfl
    · exact erase_natTcpTranslateSource mapping
  · refine erase_calling fun c => ?_
    rcases c with _ | c
    · rfl
    · exact erase_natTcpTranslateSource mapping

lemma erase_natTcpInbound : erase (natTcpInbound p len o) = NatRouter.natTcpInbound p len o := by
  unfold natTcpInbound NatRouter.natTcpInbound
  simp only [erase_accessing]
  split_ifs
  · refine erase_calling fun r => ?_
    rcases r with _ | mapping <;> rfl
  · refine erase_calling fun r => ?_
    rcases r with _ | mapping
    · exact erase_natTcpUpdateChecksum
    · refine erase_calling fun c => ?_
      rcases c with _ | c
      · rfl
      · exact erase_natTcpUpdateChecksum

/-- The traced handler of TCP is the handler. -/
lemma erase_natHandleTcp (isToNat : Bool) :
    erase (natHandleTcp cfg p len isToNat) = NatRouter.natHandleTcp cfg p len isToNat := by
  unfold natHandleTcp NatRouter.natHandleTcp
  simp only [ite_and, erase_accessing]
  split_ifs
  · rfl
  · exact erase_natTcpOutbound
  · exact erase_natTcpInbound
  · rfl
  · rfl

lemma erase_natIcmpTranslateSource (lpm : SrRt) (mapping : SrNatMappingCopy) :
    erase (natIcmpTranslateSource cfg p o lpm mapping) =
      NatRouter.natIcmpTranslateSource cfg p o lpm mapping := by
  unfold natIcmpTranslateSource NatRouter.natIcmpTranslateSource
  simp only [erase_accessing]
  rcases srGetInterface cfg.ifList lpm.interface with _ | i
  · rfl
  · exact erase_untraced _

lemma erase_natIcmpOutbound :
    erase (natIcmpOutbound cfg p o) = NatRouter.natIcmpOutbound cfg p o := by
  unfold natIcmpOutbound NatRouter.natIcmpOutbound
  simp only [erase_accessing]
  rcases srRtLookup cfg.routingTable _ with e | _ | lpm
  · rfl
  · rfl
  · refine erase_calling fun r => ?_
    rcases r with _ | mapping
    · exact erase_calling fun mapping => erase_natIcmpTranslateSource lpm mapping
    · exact erase_natIcmpTranslateSource lpm mapping

lemma erase_natIcmpInbound : erase (natIcmpInbound p o) = NatRouter.natIcmpInbound p o := by
  unfold natIcmpInbound NatRouter.natIcmpInbound
  rw [erase_accessing]
  refine erase_calling fun r => ?_
  rcases r with _ | mapping
  · rfl
  · exact erase_untraced _

/-- The traced handler of ICMP is the handler. -/
lemma erase_natHandleIcmp : erase (natHandleIcmp cfg p) = NatRouter.natHandleIcmp cfg p := by
  unfold natHandleIcmp NatRouter.natHandleIcmp
  simp only [ite_and, erase_accessing]
  split_ifs
  · rfl
  · exact erase_natIcmpOutbound
  · exact erase_natIcmpInbound

/-- The traced decision about an ICMP message is the decision. -/
lemma erase_icmpAction :
    erase (icmpAction cfg natEnabled p) = NatRouter.icmpAction cfg natEnabled p := by
  unfold icmpAction NatRouter.icmpAction
  simp only [erase_accessing]
  split_ifs
  · rfl
  · rw [erase_map, erase_natHandleIcmp]
  · rfl

lemma erase_routerAction :
    erase (routerAction cfg natEnabled p len) = NatRouter.routerAction cfg natEnabled p len := by
  unfold routerAction NatRouter.routerAction
  simp only
  split_ifs
  · rfl
  · exact erase_icmpAction
  · rw [erase_map, erase_natHandleTcp]
  · rfl
  · rfl

lemma erase_transitAction :
    erase (transitAction cfg natEnabled p len) = NatRouter.transitAction cfg natEnabled p len := by
  unfold transitAction NatRouter.transitAction
  simp only [erase_accessing]
  split_ifs
  · rfl
  · rw [erase_map, erase_natHandleIcmp]
  · rw [erase_map, erase_natHandleTcp]
  · rfl

/-- The traced decision of `sr_handle_ippacket` is the decision. -/
lemma erase_ipAction :
    erase (ipAction cfg natEnabled p len) = NatRouter.ipAction cfg natEnabled p len := by
  unfold ipAction NatRouter.ipAction
  simp only
  split_ifs
  · rfl
  · rfl
  · exact erase_routerAction
  · exact erase_transitAction

/-- **The traced functions compute what the functions do**: without its accesses, what
`sr_handlepacket` does with a frame is what it does. -/
theorem erase_srHandlepacket (interface : IfName) :
    erase (srHandlepacket cfg natEnabled p len interface) =
      NatRouter.srHandlepacket cfg natEnabled p len interface := by
  unfold srHandlepacket NatRouter.srHandlepacket
  simp only [erase_accessing]
  rcases srGetInterface cfg.ifList interface with _ | iface
  · rfl
  · dsimp only
    split_ifs
    · rfl
    · rfl
    · rw [erase_accessing, erase_map, srHandleIppacket, erase_andThen_of_ret fun _ => rfl,
        erase_ipAction]
    · rfl

end Erase

end InFrame

end NatRouter
