import NatRouter.Nat.Handler
import NatRouter.Router.Instance

/-!
# IP packets (`sr_handle_ippacket`)

`sr_handle_ippacket` decides what becomes of an IP packet, and then does it: it drops the packet, has
an ICMP message sent about it, or gives it to `sr_forward_ippacket`.  Deciding is where it calls the
NAT, so the decision (`ipAction`) is a program of NAT calls; what is done in the end is not, and is
left to the functions that send.
-/

namespace NatRouter

open ByteMemory Interleaving

/-- What becomes of an IP packet. -/
inductive IpAction where
  /-- Nothing is done. -/
  | drop
  /-- `sr_send_icmp` is called. -/
  | sendIcmp (packet : ByteMem) (type code : UInt8)
  /-- `sr_forward_ippacket` is called. -/
  | forward (packet : ByteMem)

/-- The destination is one of the addresses of the router. -/
def isRouterIp (cfg : NetConfig) (destIp : UInt32) : Bool := cfg.ifList.any fun curr => curr.ip = destIp

/-- `matches_router_if || dest_ip == ip_broadcast_addr`: the packet is meant for the router. -/
def isForRouter (cfg : NetConfig) (destIp : UInt32) : Bool :=
  isRouterIp cfg destIp || destIp = ipBroadcastAddr

/-- `len - header_len`, converted to `int`. -/
def loadLength (len : UInt32) (o : ℕ) : ℤ := (len - UInt32.ofNat o).toBitVec.toInt

/-- A packet for the router that carries an ICMP message, after the test of its checksum. -/
def icmpAction (cfg : NetConfig) (natEnabled : Bool) (packet : ByteMem) : NatProg IpAction :=
  let icmpType := SrIcmpHdr.icmpType packet (ipHeaderLen packet)
  if icmpType = 8 then .ret (.sendIcmp packet icmpTypeEchoreply 0)
  else if natEnabled ∧ icmpType = 0 then
    (natHandleIcmp cfg packet).map fun r => if r.1 ≠ 0 then .forward r.2 else .drop
  else .ret .drop

/-- A packet for the router. -/
def routerAction (cfg : NetConfig) (natEnabled : Bool) (packet : ByteMem) (len : UInt32) :
    NatProg IpAction :=
  let headerLen := ipHeaderLen packet
  let protocol := SrIpHdr.ipP packet
  if protocol = ipProtocolIcmp then
    let icmpSum := SrIcmpHdr.icmpSum packet headerLen
    let packet := SrIcmpHdr.setIcmpSum packet headerLen 0
    if cksum (fun i => packet (headerLen + i)) (loadLength len headerLen) ≠ icmpSum then .ret .drop
    else icmpAction cfg natEnabled (SrIcmpHdr.setIcmpSum packet headerLen icmpSum)
  else if protocol = ipProtocolTcp ∨ protocol = ipProtocolUdp then
    if natEnabled ∧ protocol = ipProtocolTcp then
      (natHandleTcp cfg packet len true).map fun r =>
        if r.1 = 1 then .forward r.2
        else if r.1 = -1 then .drop
        else .sendIcmp r.2 icmpTypeDstunreachable 3
    else .ret (.sendIcmp packet icmpTypeDstunreachable 3)
  else .ret (.sendIcmp packet icmpTypeDstunreachable 2)

/-- A packet for somebody else.  The return code of `nat_handle_icmp` is ignored. -/
def transitAction (cfg : NetConfig) (natEnabled : Bool) (packet : ByteMem) (len : UInt32) :
    NatProg IpAction :=
  let protocol := SrIpHdr.ipP packet
  if ((SrIpHdr.ipTtl packet).toNat : ℤ) - 1 = 0 then .ret (.sendIcmp packet icmpTypeTimeexceeded 0)
  else if natEnabled ∧ protocol = ipProtocolIcmp then
    (natHandleIcmp cfg packet).map fun r => .forward r.2
  else if natEnabled ∧ protocol = ipProtocolTcp then
    (natHandleTcp cfg packet len false).map fun r =>
      if r.1 = 0 then .sendIcmp r.2 icmpTypeDstunreachable 1 else .forward r.2
  else .ret (.forward packet)

/-- The decision of `sr_handle_ippacket`. -/
def ipAction (cfg : NetConfig) (natEnabled : Bool) (packet : ByteMem) (len : UInt32) :
    NatProg IpAction :=
  if ipMaxpacket < len ∨ len ≤ UInt32.ofNat sizeofIpHdr then .ret .drop
  else
    let packetSum := SrIpHdr.ipSum packet
    let headerLen := ipHeaderLen packet
    let packet := SrIpHdr.setIpSum packet 0
    if cksum packet headerLen ≠ packetSum then .ret .drop
    else
      let packet := SrIpHdr.setIpSum packet packetSum
      if isForRouter cfg (SrIpHdr.ipDst packet) then routerAction cfg natEnabled packet len
      else transitAction cfg natEnabled packet len

/-- What `sr_handle_ippacket` does once it has decided. -/
def perform (ctx : Surroundings) (sr : SrInstance) (len : UInt32) (interface : IfName) :
    IpAction → Except Fault SrInstance
  | .drop => .ok sr
  | .sendIcmp packet type code => srSendIcmp ctx sr packet interface type code
  | .forward packet => srForwardIppacket ctx sr packet len interface

/-- `sr_handle_ippacket`, run alone. -/
def srHandleIppacket (ctx : Surroundings) (sr : SrInstance) (packet : ByteMem) (len : UInt32)
    (interface : IfName) : Except Fault SrInstance :=
  match (ipAction sr.cfg sr.natEnabled packet len).run natExec ctx.nat sr.nat with
  | .error e => .error e
  | .ok (action, nat) => perform ctx { sr with nat := nat } len interface action

/-! ### The two tests -/

/-- The packet passes the size test and the test of its header checksum. -/
def Accepted (packet : ByteMem) (len : UInt32) : Prop :=
  len ≤ ipMaxpacket ∧ UInt32.ofNat sizeofIpHdr < len ∧
    cksum (SrIpHdr.setIpSum packet 0) (ipHeaderLen packet) = SrIpHdr.ipSum packet

/-- The packet passes the test of its ICMP checksum. -/
def IcmpSumOk (packet : ByteMem) (len : UInt32) : Prop :=
  cksum (fun i => SrIcmpHdr.setIcmpSum packet (ipHeaderLen packet) 0 (ipHeaderLen packet + i))
    (loadLength len (ipHeaderLen packet)) = SrIcmpHdr.icmpSum packet (ipHeaderLen packet)

instance (packet : ByteMem) (len : UInt32) : Decidable (Accepted packet len) :=
  inferInstanceAs (Decidable (_ ∧ _ ∧ _))

instance (packet : ByteMem) (len : UInt32) : Decidable (IcmpSumOk packet len) :=
  inferInstanceAs (Decidable (_ = _))

section Tests

variable {cfg : NetConfig} {natEnabled : Bool} {packet : ByteMem} {len : UInt32}

/-- The test of the header checksum leaves the packet as it was. -/
lemma setIpSum_restore (packet : ByteMem) :
    SrIpHdr.setIpSum (SrIpHdr.setIpSum packet 0) (SrIpHdr.ipSum packet) = packet :=
  store16_store16_load16 packet 10 0

/-- The test of the ICMP checksum leaves the packet as it was. -/
lemma setIcmpSum_restore (packet : ByteMem) (o : ℕ) :
    SrIcmpHdr.setIcmpSum (SrIcmpHdr.setIcmpSum packet o 0) o (SrIcmpHdr.icmpSum packet o) = packet :=
  store16_store16_load16 packet (o + 2) 0

/-- A packet that fails a test is dropped. -/
lemma ipAction_of_not_accepted (h : ¬ Accepted packet len) :
    ipAction cfg natEnabled packet len = .ret .drop := by
  unfold ipAction
  split
  · rfl
  · rename_i hsize
    rw [not_or, UInt32.not_lt, UInt32.not_le] at hsize
    exact if_pos fun hsum => h ⟨hsize.1, hsize.2, hsum⟩

/-- A packet that passes the tests goes its way. -/
lemma ipAction_of_accepted (h : Accepted packet len) :
    ipAction cfg natEnabled packet len =
      if isForRouter cfg (SrIpHdr.ipDst packet) then routerAction cfg natEnabled packet len
      else transitAction cfg natEnabled packet len := by
  obtain ⟨hmax, hmin, hsum⟩ := h
  have hsize : ¬ (ipMaxpacket < len ∨ len ≤ UInt32.ofNat sizeofIpHdr) := by
    rw [not_or, UInt32.not_lt, UInt32.not_le]
    exact ⟨hmax, hmin⟩
  have hsum' : ¬ cksum (SrIpHdr.setIpSum packet 0) (ipHeaderLen packet) ≠ SrIpHdr.ipSum packet :=
    not_not.mpr hsum
  simp only [ipAction, if_neg hsize, if_neg hsum', setIpSum_restore]

/-- A packet for the router that carries ICMP. -/
lemma routerAction_icmp (hicmp : SrIpHdr.ipP packet = ipProtocolIcmp) :
    routerAction cfg natEnabled packet len =
      if IcmpSumOk packet len then icmpAction cfg natEnabled packet else .ret .drop := by
  simp only [routerAction, if_pos hicmp, setIcmpSum_restore, ite_not, IcmpSumOk]
  rfl

/-- The last hop, as the source computes it. -/
lemma ipTtl_sub_one_iff : ((SrIpHdr.ipTtl packet).toNat : ℤ) - 1 = 0 ↔ SrIpHdr.ipTtl packet = 1 := by
  rw [← UInt8.toNat_inj]
  simp only [UInt8.reduceToNat]
  omega

/-- A packet in transit on its last hop. -/
lemma ipAction_expired (hok : Accepted packet len)
    (hfor : isForRouter cfg (SrIpHdr.ipDst packet) = false) (httl : SrIpHdr.ipTtl packet = 1) :
    ipAction cfg natEnabled packet len = .ret (.sendIcmp packet icmpTypeTimeexceeded 0) := by
  rw [ipAction_of_accepted hok, hfor]
  simp only [Bool.false_eq_true, if_false, transitAction, ipTtl_sub_one_iff, if_pos httl]

end Tests

/-! ### The decision as a whole -/

/-- What becomes of a TCP packet when `nat_handle_tcp` has returned its code and the packet. -/
def tcpVerdict (isToNat : Bool) (r : ℤ × ByteMem) : IpAction :=
  if isToNat then
    if r.1 = 1 then .forward r.2
    else if r.1 = -1 then .drop
    else .sendIcmp r.2 icmpTypeDstunreachable 3
  else if r.1 = 0 then .sendIcmp r.2 icmpTypeDstunreachable 1
  else .forward r.2

/-- The decisions about a packet: it is made without the NAT and concerns the packet as it is, or it
follows from what a handler of the NAT returns. -/
inductive Decides (cfg : NetConfig) (natEnabled : Bool) (packet : ByteMem) (len : UInt32) :
    NatProg IpAction → Prop
  /-- The packet is dropped. -/
  | drop : Decides cfg natEnabled packet len (.ret .drop)
  /-- An ICMP message is sent about it. -/
  | sendIcmp (type code : UInt8) : Decides cfg natEnabled packet len (.ret (.sendIcmp packet type code))
  /-- It is forwarded as it is. -/
  | forward (hok : Accepted packet len) (hother : natEnabled = true →
      SrIpHdr.ipP packet ≠ ipProtocolIcmp ∧ SrIpHdr.ipP packet ≠ ipProtocolTcp) :
      Decides cfg natEnabled packet len (.ret (.forward packet))
  /-- It is an ICMP packet, which goes through the NAT. -/
  | natIcmp (hok : Accepted packet len) (hon : natEnabled = true)
      (hicmp : SrIpHdr.ipP packet = ipProtocolIcmp) {g : ℤ × ByteMem → IpAction}
      (hg : ∀ r, g r = .drop ∨ g r = .forward r.2) :
      Decides cfg natEnabled packet len ((natHandleIcmp cfg packet).map g)
  /-- It is a TCP packet, which goes through the NAT. -/
  | natTcp (hok : Accepted packet len) (hon : natEnabled = true)
      (htcp : SrIpHdr.ipP packet = ipProtocolTcp) {isToNat : Bool}
      (hfor : isForRouter cfg (SrIpHdr.ipDst packet) = isToNat) :
      Decides cfg natEnabled packet len
        ((natHandleTcp cfg packet len isToNat).map (tcpVerdict isToNat))

/-- **The decision of `sr_handle_ippacket`** is one of these. -/
lemma ipAction_decides (cfg : NetConfig) (natEnabled : Bool) (packet : ByteMem) (len : UInt32) :
    Decides cfg natEnabled packet len (ipAction cfg natEnabled packet len) := by
  by_cases hok : Accepted packet len
  · rw [ipAction_of_accepted hok]
    split_ifs with hfor
    · by_cases hp : SrIpHdr.ipP packet = ipProtocolIcmp
      · rw [routerAction_icmp hp]
        unfold icmpAction
        simp only
        split_ifs with hsum hecho hreply
        · exact .sendIcmp icmpTypeEchoreply 0
        · refine .natIcmp hok hreply.1 hp fun r => ?_
          split_ifs
          · exact .inr rfl
          · exact .inl rfl
        · exact .drop
        · exact .drop
      · unfold routerAction
        simp only [if_neg hp]
        split_ifs with htransport htcp
        · exact .natTcp hok htcp.1 htcp.2 hfor
        · exact .sendIcmp icmpTypeDstunreachable 3
        · exact .sendIcmp icmpTypeDstunreachable 2
    · unfold transitAction
      simp only
      split_ifs with httl hicmp htcp
      · exact .sendIcmp icmpTypeTimeexceeded 0
      · exact .natIcmp hok hicmp.1 hicmp.2 fun r => .inr rfl
      · exact .natTcp hok htcp.1 htcp.2 (Bool.eq_false_iff.mpr hfor)
      · exact .forward hok fun hon => ⟨fun hp => hicmp ⟨hon, hp⟩, fun hp => htcp ⟨hon, hp⟩⟩
  · rw [ipAction_of_not_accepted hok]
    exact .drop

/-- A decision makes the calls of the handlers. -/
lemma Decides.calls {cfg : NetConfig} {natEnabled : Bool} {packet : ByteMem} {len : UInt32}
    {P : NatProg IpAction} (h : Decides cfg natEnabled packet len P) {S : NatCall → Prop}
    (hicmp : SrIpHdr.ipP packet = ipProtocolIcmp → (natHandleIcmp cfg packet).Calls S)
    (htcp : Accepted packet len → SrIpHdr.ipP packet = ipProtocolTcp →
      ∀ isToNat, (natHandleTcp cfg packet len isToNat).Calls S) : P.Calls S := by
  cases h with
  | drop => trivial
  | sendIcmp type code => trivial
  | forward hok => trivial
  | natIcmp hok hon hp hg => exact Prog.calls_map (hicmp hp)
  | natTcp hok hon hp hfor => exact Prog.calls_map (htcp hok hp _)

/-- A TCP packet that passes the tests goes through the NAT, unless it is in transit on its last
hop. -/
lemma ipAction_natTcp {cfg : NetConfig} {packet : ByteMem} {len : UInt32} {isToNat : Bool}
    (hok : Accepted packet len) (htcp : SrIpHdr.ipP packet = ipProtocolTcp)
    (hfor : isForRouter cfg (SrIpHdr.ipDst packet) = isToNat)
    (httl : isToNat = false → SrIpHdr.ipTtl packet ≠ 1) :
    ipAction cfg true packet len =
      (natHandleTcp cfg packet len isToNat).map (tcpVerdict isToNat) := by
  have hicmp : ¬ ipProtocolTcp = ipProtocolIcmp := by decide
  rw [ipAction_of_accepted hok, hfor]
  cases isToNat with
  | true =>
    simp only [if_true, routerAction, htcp, if_neg hicmp, true_or, and_self]
    rfl
  | false =>
    simp only [Bool.false_eq_true, if_false, transitAction, ipTtl_sub_one_iff, if_neg (httl rfl),
      htcp, if_neg hicmp, and_self, true_and, if_true]
    rfl

end NatRouter
