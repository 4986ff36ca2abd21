import NatRouter.Router.Effects
import NatRouter.Router.IpPacket
import NatRouter.Router.Translation

/-!
# Which packets the router passes on

The packets that `sr_handle_ippacket` gives to `sr_forward_ippacket` (`IcmpOnward`, `TcpOnward`,
`PlainOnward`), told by the packet as it was received and the tables.  A packet that is given to
`sr_forward_ippacket` is forwarded if there is a route (`RoutesTo`).
-/

namespace NatRouter

open ByteMemory Interleaving

/-- An IP packet in a receive buffer, with a complete IP header. -/
structure IpPacket where
  /-- The memory behind the packet pointer. -/
  buf : ByteMem
  /-- The length handed on with the pointer. -/
  len : UInt32
  /-- The header has at least the 20 bytes an IP header has. -/
  headerLen : 5 ≤ SrIpHdr.ipHl buf
  /-- It lies inside the packet. -/
  fits : ipHeaderLen buf ≤ len.toNat

/-- What follows the header starts behind its fixed part. -/
lemma IpPacket.offset_ge (p : IpPacket) : 20 ≤ ipHeaderLen p.buf := by
  have := p.headerLen
  unfold ipHeaderLen
  omega

/-- `sr_handle_ippacket` forwards the packet `q`, along the route `lpm`, when it is given the packet
`p` of length `len`, and comes to the state `sr'`. -/
def Forwards (ctx : Surroundings) (sr : SrInstance) (p : ByteMem) (len : UInt32) (interface : IfName)
    (sr' : SrInstance) (q : ByteMem) (lpm : SrRt) : Prop :=
  srHandleIppacket ctx sr p len interface = .ok sr' ∧
    ∃ events, sr'.log = sr.log ++ events ∧ RouterEvent.forward q len lpm ∈ events

/-- There is a route to `dst`, and if the Ethernet address of its next hop is known, the interface to
send on exists. -/
structure RoutesTo (sr : SrInstance) (dst : UInt32) (lpm : SrRt) : Prop where
  /-- The route found. -/
  lookup : srRtLookup sr.cfg.routingTable dst = .ok (some lpm)
  /-- Its interface, which `sr_verify_routing_table` has checked to exist. -/
  interface : (srArpcacheLookup sr.cache lpm.gw).isSome →
    ∃ i, srGetInterface sr.cfg.ifList lpm.interface = some i

/-! ### Packets that are passed on -/

/-- As which packet an ICMP packet is passed on. -/
inductive IcmpOnward (cfg : NetConfig) (natEnabled : Bool) (s : SrNat) (p : ByteMem) (len : UInt32) :
    ByteMem → Prop
  /-- An echo reply to the router that the NAT translates. -/
  | reply {q : ByteMem} (hfor : isForRouter cfg (SrIpHdr.ipDst p) = true)
      (hsum : IcmpSumOk p len) (htype : SrIcmpHdr.icmpType p (ipHeaderLen p) = 0)
      (hon : natEnabled = true) (htrans : IcmpTranslates cfg s p q) :
      IcmpOnward cfg natEnabled s p len q
  /-- A packet in transit that the NAT translates. -/
  | translated {q : ByteMem} (hfor : isForRouter cfg (SrIpHdr.ipDst p) = false)
      (httl : SrIpHdr.ipTtl p ≠ 1) (hon : natEnabled = true) (htrans : IcmpTranslates cfg s p q) :
      IcmpOnward cfg natEnabled s p len q
  /-- A packet in transit that the NAT leaves alone. -/
  | untouched (hfor : isForRouter cfg (SrIpHdr.ipDst p) = false) (httl : SrIpHdr.ipTtl p ≠ 1)
      (hon : natEnabled = true) (huntouched : IcmpUntouched cfg s p) :
      IcmpOnward cfg natEnabled s p len p
  /-- A packet in transit, without NAT. -/
  | plain (hfor : isForRouter cfg (SrIpHdr.ipDst p) = false) (httl : SrIpHdr.ipTtl p ≠ 1)
      (hoff : natEnabled = false) : IcmpOnward cfg natEnabled s p len p

/-- As which packet a TCP packet is passed on. -/
inductive TcpOnward (cfg : NetConfig) (natEnabled : Bool) (s : SrNat) (p : ByteMem) (len : UInt32) :
    ByteMem → Prop
  /-- A segment to the router that the NAT lets pass. -/
  | toRouter {q : ByteMem} (hfor : isForRouter cfg (SrIpHdr.ipDst p) = true)
      (hon : natEnabled = true) (hpasses : TcpPasses cfg s p len true q) :
      TcpOnward cfg natEnabled s p len q
  /-- A segment in transit that the NAT lets pass. -/
  | transit {q : ByteMem} (hfor : isForRouter cfg (SrIpHdr.ipDst p) = false)
      (httl : SrIpHdr.ipTtl p ≠ 1) (hon : natEnabled = true)
      (hpasses : TcpPasses cfg s p len false q) : TcpOnward cfg natEnabled s p len q
  /-- A segment in transit, without NAT. -/
  | plain (hfor : isForRouter cfg (SrIpHdr.ipDst p) = false) (httl : SrIpHdr.ipTtl p ≠ 1)
      (hoff : natEnabled = false) : TcpOnward cfg natEnabled s p len p

/-- A packet of any other protocol is passed on as it is if it is in transit. -/
structure PlainOnward (cfg : NetConfig) (p : ByteMem) : Prop where
  /-- It does not carry ICMP. -/
  not_icmp : SrIpHdr.ipP p ≠ ipProtocolIcmp
  /-- It does not carry TCP. -/
  not_tcp : SrIpHdr.ipP p ≠ ipProtocolTcp
  /-- It is for somebody else. -/
  transit : isForRouter cfg (SrIpHdr.ipDst p) = false
  /-- It has not come to its last hop. -/
  ttl : SrIpHdr.ipTtl p ≠ 1

section Action

variable {cfg : NetConfig} {natEnabled : Bool} {s s' : SrNat} {amb : ℕ → Ambient} {p q : ByteMem}
  {len : UInt32}

/-- What is given to `sr_forward_ippacket` of an ICMP packet for the router. -/
lemma icmpAction_forward
    (h : (icmpAction cfg natEnabled p).run natExec amb s = .ok (.forward q, s')) :
    SrIcmpHdr.icmpType p (ipHeaderLen p) = 0 ∧ natEnabled = true ∧ IcmpTranslates cfg s p q := by
  unfold icmpAction at h
  simp only at h
  split_ifs at h with hecho hreply
  · cases h
  · obtain ⟨⟨code, q'⟩, hrun, hq⟩ := Prog.run_map_eq_ok.mp h
    simp only at hq
    split_ifs at hq with hcode
    cases hq
    rcases natHandleIcmp_run_cases hrun with ⟨-, htrans⟩ | ⟨hzero, -⟩
    · exact ⟨hreply.2, hreply.1, htrans⟩
    · exact absurd hzero hcode
  · cases h

/-- What is given to `sr_forward_ippacket` of a packet for the router. -/
lemma routerAction_forward (hfor : isForRouter cfg (SrIpHdr.ipDst p) = true)
    (h : (routerAction cfg natEnabled p len).run natExec amb s = .ok (.forward q, s')) :
    SrIpHdr.ipP p = ipProtocolIcmp ∧ IcmpOnward cfg natEnabled s p len q ∨
      SrIpHdr.ipP p = ipProtocolTcp ∧ TcpOnward cfg natEnabled s p len q := by
  by_cases hicmp : SrIpHdr.ipP p = ipProtocolIcmp
  · left
    rw [routerAction_icmp hicmp] at h
    split_ifs at h with hsum
    · obtain ⟨htype, hon, htrans⟩ := icmpAction_forward h
      exact ⟨hicmp, .reply hfor hsum htype hon htrans⟩
    · cases h
  · right
    unfold routerAction at h
    simp only [if_neg hicmp] at h
    split_ifs at h with htransport htcp
    · obtain ⟨⟨code, q'⟩, hrun, hq⟩ := Prog.run_map_eq_ok.mp h
      simp only at hq
      split_ifs at hq with hcode hdrop
      cases hq
      rcases natHandleTcp_run_cases hrun with hzero | ⟨hminus, -⟩ | ⟨-, hpasses⟩
      · cases hzero
        exact absurd hcode (by decide)
      · cases hminus
        exact absurd hcode (by decide)
      · exact ⟨htcp.2, .toRouter hfor htcp.1 hpasses⟩
    · cases h
    · cases h

/-- What is given to `sr_forward_ippacket` of a packet in transit. -/
lemma transitAction_forward (hfor : isForRouter cfg (SrIpHdr.ipDst p) = false)
    (h : (transitAction cfg natEnabled p len).run natExec amb s = .ok (.forward q, s')) :
    SrIpHdr.ipP p = ipProtocolIcmp ∧ IcmpOnward cfg natEnabled s p len q ∨
      SrIpHdr.ipP p = ipProtocolTcp ∧ TcpOnward cfg natEnabled s p len q ∨
      PlainOnward cfg p ∧ q = p := by
  unfold transitAction at h
  simp only [ipTtl_sub_one_iff] at h
  split_ifs at h with httl hicmp htcp
  · cases h
  · obtain ⟨⟨code, q'⟩, hrun, hq⟩ := Prog.run_map_eq_ok.mp h
    cases hq
    rcases natHandleIcmp_run_cases hrun with ⟨-, htrans⟩ | ⟨-, huntouched, rfl, -⟩
    · exact .inl ⟨hicmp.2, .translated hfor httl hicmp.1 htrans⟩
    · exact .inl ⟨hicmp.2, .untouched hfor httl hicmp.1 huntouched⟩
  · obtain ⟨⟨code, q'⟩, hrun, hq⟩ := Prog.run_map_eq_ok.mp h
    simp only at hq
    split_ifs at hq with hcode
    cases hq
    rcases natHandleTcp_run_cases hrun with hzero | ⟨-, hfalse⟩ | ⟨-, hpasses⟩
    · cases hzero
      exact absurd rfl hcode
    · exact absurd hfalse (by decide)
    · exact .inr (.inl ⟨htcp.2, .transit hfor httl htcp.1 hpasses⟩)
  · cases h
    cases hon : natEnabled with
    | false =>
      by_cases hp : SrIpHdr.ipP p = ipProtocolIcmp
      · exact .inl ⟨hp, .plain hfor httl rfl⟩
      · by_cases hp' : SrIpHdr.ipP p = ipProtocolTcp
        · exact .inr (.inl ⟨hp', .plain hfor httl rfl⟩)
        · exact .inr (.inr ⟨⟨hp, hp', hfor, httl⟩, rfl⟩)
    | true =>
      exact .inr (.inr ⟨⟨fun hp => hicmp ⟨hon, hp⟩, fun hp => htcp ⟨hon, hp⟩, hfor, httl⟩, rfl⟩)

/-- An ICMP packet is passed on as told. -/
lemma IcmpOnward.run (h : IcmpOnward cfg natEnabled s p len q)
    (hicmp : SrIpHdr.ipP p = ipProtocolIcmp) (hok : Accepted p len) (amb : ℕ → Ambient) :
    ∃ s', (ipAction cfg natEnabled p len).run natExec amb s = .ok (.forward q, s') := by
  rw [ipAction_of_accepted hok]
  cases h with
  | reply hfor hsum htype hon htrans =>
    obtain ⟨s', hrun⟩ := htrans.run amb
    refine ⟨s', ?_⟩
    rw [if_pos hfor, routerAction_icmp hicmp, if_pos hsum]
    have hecho : ¬ (0 : UInt8) = 8 := by decide
    simp only [icmpAction, htype, if_neg hecho, hon, and_self, if_true]
    exact Prog.run_map_eq_ok.mpr ⟨(1, q), hrun, if_pos one_ne_zero⟩
  | translated hfor httl hon htrans =>
    obtain ⟨s', hrun⟩ := htrans.run amb
    refine ⟨s', ?_⟩
    simp only [hfor, Bool.false_eq_true, if_false, transitAction, ipTtl_sub_one_iff, if_neg httl, hon,
      hicmp, and_self, if_true]
    exact Prog.run_map_eq_ok.mpr ⟨(1, q), hrun, rfl⟩
  | untouched hfor httl hon huntouched =>
    refine ⟨s, ?_⟩
    simp only [hfor, Bool.false_eq_true, if_false, transitAction, ipTtl_sub_one_iff, if_neg httl, hon,
      hicmp, and_self, if_true]
    exact Prog.run_map_eq_ok.mpr ⟨(0, p), huntouched.run amb, rfl⟩
  | plain hfor httl hoff =>
    refine ⟨s, ?_⟩
    simp only [hfor, Bool.false_eq_true, if_false, transitAction, ipTtl_sub_one_iff, if_neg httl, hoff,
      false_and]
    rfl

/-- A TCP packet is passed on as told. -/
lemma TcpOnward.run (h : TcpOnward cfg natEnabled s p len q)
    (htcp : SrIpHdr.ipP p = ipProtocolTcp) (hok : Accepted p len) (amb : ℕ → Ambient) :
    ∃ s', (ipAction cfg natEnabled p len).run natExec amb s = .ok (.forward q, s') := by
  rw [ipAction_of_accepted hok]
  have hicmp : ¬ ipProtocolTcp = ipProtocolIcmp := by decide
  cases h with
  | toRouter hfor hon hpasses =>
    obtain ⟨s', hrun⟩ := hpasses.run amb
    refine ⟨s', ?_⟩
    simp only [hfor, if_true, routerAction, htcp, if_neg hicmp, true_or, hon, and_self]
    exact Prog.run_map_eq_ok.mpr ⟨(1, q), hrun, rfl⟩
  | transit hfor httl hon hpasses =>
    obtain ⟨s', hrun⟩ := hpasses.run amb
    refine ⟨s', ?_⟩
    simp only [hfor, Bool.false_eq_true, if_false, transitAction, ipTtl_sub_one_iff, if_neg httl, hon,
      htcp, if_neg hicmp, and_self, if_true, true_and]
    exact Prog.run_map_eq_ok.mpr ⟨(1, q), hrun, rfl⟩
  | plain hfor httl hoff =>
    refine ⟨s, ?_⟩
    simp only [hfor, Bool.false_eq_true, if_false, transitAction, ipTtl_sub_one_iff, if_neg httl, hoff,
      false_and]
    rfl

/-- Any other packet in transit is passed on as it is. -/
lemma PlainOnward.run (h : PlainOnward cfg p) (hok : Accepted p len) (amb : ℕ → Ambient) :
    (ipAction cfg natEnabled p len).run natExec amb s = .ok (.forward p, s) := by
  rw [ipAction_of_accepted hok]
  simp only [h.transit, Bool.false_eq_true, if_false, transitAction, ipTtl_sub_one_iff,
    if_neg h.ttl, h.not_icmp, h.not_tcp, and_false]
  rfl

/-- **What is given to `sr_forward_ippacket`.** -/
lemma ipAction_forward
    (h : (ipAction cfg natEnabled p len).run natExec amb s = .ok (.forward q, s')) :
    Accepted p len ∧ (SrIpHdr.ipP p = ipProtocolIcmp ∧ IcmpOnward cfg natEnabled s p len q ∨
        SrIpHdr.ipP p = ipProtocolTcp ∧ TcpOnward cfg natEnabled s p len q ∨
        PlainOnward cfg p ∧ q = p) := by
  by_cases hok : Accepted p len
  · refine ⟨hok, ?_⟩
    rw [ipAction_of_accepted hok] at h
    split_ifs at h with hfor
    · rcases routerAction_forward hfor h with hicmp | htcp
      · exact .inl hicmp
      · exact .inr (.inl htcp)
    · exact transitAction_forward (Bool.eq_false_iff.mpr hfor) h
  · rw [ipAction_of_not_accepted hok] at h
    cases h

end Action

/-! ### Forwarding -/

section Forward

variable {ctx : Surroundings} {sr sr' : SrInstance} {p q q₀ : ByteMem} {len : UInt32}
  {interface : IfName} {lpm : SrRt} {o : ℕ}

/-- An entry of the log that says that a packet was forwarded. -/
def RouterEvent.isForward : RouterEvent → Bool
  | .forward .. => true
  | _ => false

/-- `sr_send_icmp` forwards nothing. -/
lemma srSendIcmp_log {packet : ByteMem} {type code : UInt8}
    (h : srSendIcmp ctx sr packet interface type code = .ok sr') :
    ∃ events, sr'.log = sr.log ++ events ∧ ∀ e ∈ events, e.isForward = false := by
  obtain ⟨loadLen, ipPacket, -, ⟨entry, frame, -, rfl⟩ | ⟨-, rfl⟩⟩ := srSendIcmp_cases h
  · refine ⟨_, List.append_assoc .., ?_⟩
    intro e he
    rcases List.mem_append.mp he with he | he <;> rw [List.mem_singleton.mp he] <;> rfl
  · refine ⟨_, List.append_assoc .., ?_⟩
    intro e he
    rcases List.mem_append.mp he with he | he
    · rw [List.mem_singleton.mp he]
      rfl
    · obtain ⟨pkt, -, rfl⟩ := List.mem_map.mp he
      rfl

/-- With a route to its destination a packet is forwarded. -/
lemma RoutesTo.forward {packet : ByteMem}
    (h : RoutesTo sr (SrIpHdr.ipDst packet) lpm) :
    ∃ sr' events, srForwardIppacket ctx sr packet len interface = .ok sr' ∧
      sr'.log = sr.log ++ .forward (decrementTtl packet) len lpm :: events := by
  cases hlookup : srArpcacheLookup sr.cache lpm.gw with
  | none => exact ⟨_, _, srForwardIppacket_miss h.lookup hlookup, List.append_assoc ..⟩
  | some entry =>
    obtain ⟨i, hi⟩ := h.interface (hlookup ▸ rfl)
    exact ⟨_, _, srForwardIppacket_hit h.lookup hlookup hi, List.append_assoc ..⟩

/-- What `sr_forward_ippacket` forwards is the packet with one hop less to live, along a route to its
destination. -/
lemma routesTo_of_forward {packet : ByteMem} {events : List RouterEvent}
    (h : srForwardIppacket ctx sr packet len interface = .ok sr')
    (hlog : sr'.log = sr.log ++ events) (hmem : RouterEvent.forward q len lpm ∈ events) :
    RoutesTo sr (SrIpHdr.ipDst packet) lpm ∧ q = decrementTtl packet := by
  obtain ⟨-, hsend⟩ | ⟨l, hroute, ⟨i, frame, hi, rfl⟩ | ⟨hmiss, rfl⟩⟩ := srForwardIppacket_cases h
  · obtain ⟨events', hlog', hother⟩ := srSendIcmp_log hsend
    obtain rfl : events = events' := List.append_cancel_left (hlog.symm.trans hlog')
    exact absurd (hother _ hmem) (by simp [RouterEvent.isForward])
  · obtain rfl := List.append_cancel_left (hlog.symm.trans (List.append_assoc ..))
    rcases List.mem_cons.mp hmem with heq | hmem
    · cases heq
      exact ⟨⟨hroute, fun _ => ⟨i, hi⟩⟩, rfl⟩
    · cases List.mem_singleton.mp hmem
  · obtain rfl := List.append_cancel_left (hlog.symm.trans (List.append_assoc ..))
    rcases List.mem_cons.mp hmem with heq | hmem
    · cases heq
      refine ⟨⟨hroute, fun hhit => ?_⟩, rfl⟩
      rw [hmiss] at hhit
      cases hhit
    · obtain ⟨pkt, -, heq⟩ := List.mem_map.mp hmem
      cases heq

/-- What `sr_handle_ippacket` forwards is what it gives to `sr_forward_ippacket`. -/
lemma action_of_forwards (h : Forwards ctx sr p len interface sr' q lpm) : ∃ q₀ nat',
    (ipAction sr.cfg sr.natEnabled p len).run natExec ctx.nat sr.nat =
      .ok (.forward q₀, nat') ∧ sr'.nat = nat' ∧
      RoutesTo sr (SrIpHdr.ipDst q₀) lpm ∧ q = decrementTtl q₀ := by
  obtain ⟨hhandle, events, hlog, hmem⟩ := h
  unfold srHandleIppacket at hhandle
  cases hrun : (ipAction sr.cfg sr.natEnabled p len).run natExec ctx.nat sr.nat with
  | error e =>
    rw [hrun] at hhandle
    cases hhandle
  | ok r =>
    obtain ⟨action, nat'⟩ := r
    rw [hrun] at hhandle
    cases action with
    | drop =>
      obtain rfl := Except.ok.inj hhandle
      obtain rfl := List.append_cancel_left (hlog.symm.trans (List.append_nil _).symm)
      exact absurd hmem List.not_mem_nil
    | sendIcmp packet type code =>
      obtain ⟨events', hlog', hother⟩ := srSendIcmp_log hhandle
      obtain rfl := List.append_cancel_left (hlog.symm.trans hlog')
      exact absurd (hother _ hmem) (by simp [RouterEvent.isForward])
    | forward q₀ =>
      obtain ⟨hroute, rfl⟩ := routesTo_of_forward hhandle hlog hmem
      exact ⟨q₀, nat', rfl, (sends_srForwardIppacket hhandle).nat,
        ⟨hroute.lookup, hroute.interface⟩, rfl⟩

/-- What `sr_handle_ippacket` gives to `sr_forward_ippacket` is forwarded if there is a route. -/
lemma forwards_of_action {nat' : SrNat}
    (hrun : (ipAction sr.cfg sr.natEnabled p len).run natExec ctx.nat sr.nat =
      .ok (.forward q₀, nat')) (hroute : RoutesTo sr (SrIpHdr.ipDst q₀) lpm) (interface : IfName) :
    ∃ sr', Forwards ctx sr p len interface sr' (decrementTtl q₀) lpm := by
  have hroute' : RoutesTo { sr with nat := nat' } (SrIpHdr.ipDst q₀) lpm :=
    ⟨hroute.lookup, hroute.interface⟩
  obtain ⟨sr', events, hforward, hlog⟩ := @RoutesTo.forward ctx _ len interface lpm q₀ hroute'
  refine ⟨sr', ?_, _, hlog, List.mem_cons_self ..⟩
  rw [srHandleIppacket, hrun]
  exact hforward

/-- An ICMP packet that is passed on and has a route is forwarded. -/
lemma IcmpOnward.forwards (h : IcmpOnward sr.cfg sr.natEnabled sr.nat p len q₀)
    (hicmp : SrIpHdr.ipP p = ipProtocolIcmp) (hok : Accepted p len)
    (hroute : RoutesTo sr (SrIpHdr.ipDst q₀) lpm) (ctx : Surroundings) (interface : IfName) :
    ∃ sr', Forwards ctx sr p len interface sr' (decrementTtl q₀) lpm := by
  obtain ⟨nat', hrun⟩ := h.run hicmp hok ctx.nat
  exact forwards_of_action hrun hroute interface

/-- A TCP packet that is passed on and has a route is forwarded. -/
lemma TcpOnward.forwards (h : TcpOnward sr.cfg sr.natEnabled sr.nat p len q₀)
    (htcp : SrIpHdr.ipP p = ipProtocolTcp) (hok : Accepted p len)
    (hroute : RoutesTo sr (SrIpHdr.ipDst q₀) lpm) (ctx : Surroundings) (interface : IfName) :
    ∃ sr', Forwards ctx sr p len interface sr' (decrementTtl q₀) lpm := by
  obtain ⟨nat', hrun⟩ := h.run htcp hok ctx.nat
  exact forwards_of_action hrun hroute interface

/-- Any other packet that is passed on and has a route is forwarded. -/
lemma PlainOnward.forwards (h : PlainOnward sr.cfg p) (hok : Accepted p len)
    (hroute : RoutesTo sr (SrIpHdr.ipDst p) lpm) (ctx : Surroundings) (interface : IfName) :
    ∃ sr', Forwards ctx sr p len interface sr' (decrementTtl p) lpm :=
  forwards_of_action (h.run hok ctx.nat) hroute interface

/-- A forwarded ICMP packet was passed on, and has a route. -/
lemma Forwards.icmp (h : Forwards ctx sr p len interface sr' q lpm)
    (hicmp : SrIpHdr.ipP p = ipProtocolIcmp) :
    Accepted p len ∧ ∃ q₀, IcmpOnward sr.cfg sr.natEnabled sr.nat p len q₀ ∧
      RoutesTo sr (SrIpHdr.ipDst q₀) lpm ∧ q = decrementTtl q₀ := by
  obtain ⟨q₀, nat', hrun, -, hroute, hq⟩ := action_of_forwards h
  obtain ⟨hok, ⟨-, hon⟩ | ⟨htcp, -⟩ | ⟨hplain, -⟩⟩ := ipAction_forward hrun
  · exact ⟨hok, q₀, hon, hroute, hq⟩
  · rw [hicmp] at htcp
    exact absurd htcp (by decide)
  · exact absurd hicmp hplain.not_icmp

/-- A forwarded TCP packet was passed on, and has a route. -/
lemma Forwards.tcp (h : Forwards ctx sr p len interface sr' q lpm)
    (htcp : SrIpHdr.ipP p = ipProtocolTcp) :
    Accepted p len ∧ ∃ q₀, TcpOnward sr.cfg sr.natEnabled sr.nat p len q₀ ∧
      RoutesTo sr (SrIpHdr.ipDst q₀) lpm ∧ q = decrementTtl q₀ := by
  obtain ⟨q₀, nat', hrun, -, hroute, hq⟩ := action_of_forwards h
  obtain ⟨hok, ⟨hicmp, -⟩ | ⟨-, hon⟩ | ⟨hplain, -⟩⟩ := ipAction_forward hrun
  · rw [htcp] at hicmp
    exact absurd hicmp (by decide)
  · exact ⟨hok, q₀, hon, hroute, hq⟩
  · exact absurd htcp hplain.not_tcp

/-- A forwarded packet of any other protocol was passed on as it is, and has a route. -/
lemma Forwards.plain (h : Forwards ctx sr p len interface sr' q lpm)
    (hicmp : SrIpHdr.ipP p ≠ ipProtocolIcmp) (htcp : SrIpHdr.ipP p ≠ ipProtocolTcp) :
    Accepted p len ∧ PlainOnward sr.cfg p ∧ RoutesTo sr (SrIpHdr.ipDst p) lpm ∧
      q = decrementTtl p := by
  obtain ⟨q₀, nat', hrun, -, hroute, rfl⟩ := action_of_forwards h
  obtain ⟨hok, ⟨hp, -⟩ | ⟨hp, -⟩ | ⟨hplain, rfl⟩⟩ := ipAction_forward hrun
  · exact absurd hp hicmp
  · exact absurd hp htcp
  · exact ⟨hok, hplain, hroute, rfl⟩

end Forward

/-! ### Packets whose checksums are right -/

/-- The packet with its header checksum filled in. -/
def sealIp (p : ByteMem) : ByteMem :=
  SrIpHdr.setIpSum p (cksum (SrIpHdr.setIpSum p 0) (ipHeaderLen p))

/-- Filling in the checksum changes no field. -/
lemma icmpFields_sealIp {o : ℕ} (ho : 20 ≤ o) (p : ByteMem) :
    icmpFields (sealIp p) o = icmpFields p o := icmpFields_setIpSum p ho _

/-- Filling in the checksum changes no field. -/
lemma tcpFields_sealIp {o : ℕ} (ho : 20 ≤ o) (p : ByteMem) :
    tcpFields (sealIp p) o = tcpFields p o := tcpFields_setIpSum p ho _

/-- The header keeps its length. -/
lemma ipHeaderLen_sealIp (p : ByteMem) : ipHeaderLen (sealIp p) = ipHeaderLen p :=
  congrArg (fun f => f.ipHl * 4) (icmpFields_sealIp le_rfl p)

/-- A packet of the right size whose checksum is filled in is accepted. -/
lemma accepted_sealIp (p : ByteMem) {len : UInt32} (hmax : len ≤ ipMaxpacket)
    (hmin : UInt32.ofNat sizeofIpHdr < len) : Accepted (sealIp p) len := by
  refine ⟨hmax, hmin, ?_⟩
  have hzero : SrIpHdr.setIpSum (sealIp p) 0 = SrIpHdr.setIpSum p 0 := store16_store16 p 10 _ 0
  have hsum : SrIpHdr.ipSum (sealIp p) = cksum (SrIpHdr.setIpSum p 0) (ipHeaderLen p) :=
    load16_store16_self p 10 _
  rw [hzero, hsum, ipHeaderLen_sealIp]

/-- An ICMP message with the given time to live and a correct header checksum. -/
def sealedMessage (ttl type : UInt8) (src dst : UInt32) (identifier : UInt16) : IpPacket where
  buf := sealIp (SrIpHdr.setIpTtl (icmpMessage type src dst identifier) ttl)
  len := 28
  headerLen := by
    have hfields := icmpFields_sealIp le_rfl
      (SrIpHdr.setIpTtl (icmpMessage type src dst identifier) ttl)
    rw [icmpFields_setIpTtl _ le_rfl, icmpFields_icmpMessage] at hfields
    exact (congrArg IcmpFields.ipHl hfields).ge
  fits := by
    have hfields := icmpFields_sealIp le_rfl
      (SrIpHdr.setIpTtl (icmpMessage type src dst identifier) ttl)
    rw [icmpFields_setIpTtl _ le_rfl, icmpFields_icmpMessage] at hfields
    have hlen := congrArg (fun f => f.ipHl * 4) hfields
    exact hlen.le.trans (show 20 ≤ 28 by decide)

/-- A TCP segment with the given time to live and flags, and a correct header checksum. -/
def sealedSegment (ttl flags : UInt8) (src dst : UInt32) (srcPort dstPort : UInt16) : IpPacket where
  buf := sealIp (SrIpHdr.setIpTtl (tcpSegment flags src dst srcPort dstPort) ttl)
  len := 40
  headerLen := by
    have hfields := tcpFields_sealIp le_rfl
      (SrIpHdr.setIpTtl (tcpSegment flags src dst srcPort dstPort) ttl)
    rw [tcpFields_setIpTtl _ le_rfl, tcpFields_tcpSegment] at hfields
    exact (congrArg TcpFields.ipHl hfields).ge
  fits := by
    have hfields := tcpFields_sealIp le_rfl
      (SrIpHdr.setIpTtl (tcpSegment flags src dst srcPort dstPort) ttl)
    rw [tcpFields_setIpTtl _ le_rfl, tcpFields_tcpSegment] at hfields
    have hlen := congrArg (fun f => f.ipHl * 4) hfields
    exact hlen.le.trans (show 20 ≤ 40 by decide)

section Sealed

variable (ttl type flags : UInt8) (src dst : UInt32) (identifier sport dport : UInt16)

/-- The fields of a sealed message. -/
lemma icmpFields_sealedMessage :
    icmpFields (sealedMessage ttl type src dst identifier).buf 20 =
      ⟨5, ttl, ipProtocolIcmp, htonl src, htonl dst, type, htons identifier⟩ := by
  rw [sealedMessage, icmpFields_sealIp le_rfl, icmpFields_setIpTtl _ le_rfl, icmpFields_icmpMessage]

/-- The fields of a sealed segment. -/
lemma tcpFields_sealedSegment :
    tcpFields (sealedSegment ttl flags src dst sport dport).buf 20 =
      ⟨5, ttl, ipProtocolTcp, htonl src, htonl dst, htons sport, htons dport⟩ := by
  rw [sealedSegment, tcpFields_sealIp le_rfl, tcpFields_setIpTtl _ le_rfl, tcpFields_tcpSegment]

/-- A sealed message is accepted. -/
lemma accepted_sealedMessage : Accepted (sealedMessage ttl type src dst identifier).buf
    (sealedMessage ttl type src dst identifier).len :=
  accepted_sealIp _ (show (28 : UInt32) ≤ ipMaxpacket by decide)
    (show UInt32.ofNat sizeofIpHdr < 28 by decide)

/-- A sealed segment is accepted. -/
lemma accepted_sealedSegment : Accepted (sealedSegment ttl flags src dst sport dport).buf
    (sealedSegment ttl flags src dst sport dport).len :=
  accepted_sealIp _ (show (40 : UInt32) ≤ ipMaxpacket by decide)
    (show UInt32.ofNat sizeofIpHdr < 40 by decide)

@[simp] lemma ipHeaderLen_sealedMessage :
    ipHeaderLen (sealedMessage ttl type src dst identifier).buf = 20 :=
  congrArg (fun f => f.ipHl * 4) (icmpFields_sealedMessage ttl type src dst identifier)

@[simp] lemma ipP_sealedMessage :
    SrIpHdr.ipP (sealedMessage ttl type src dst identifier).buf = ipProtocolIcmp :=
  congrArg IcmpFields.ipP (icmpFields_sealedMessage ttl type src dst identifier)

@[simp] lemma ipTtl_sealedMessage :
    SrIpHdr.ipTtl (sealedMessage ttl type src dst identifier).buf = ttl :=
  congrArg IcmpFields.ipTtl (icmpFields_sealedMessage ttl type src dst identifier)

@[simp] lemma ipSrc_sealedMessage :
    SrIpHdr.ipSrc (sealedMessage ttl type src dst identifier).buf = htonl src :=
  congrArg IcmpFields.ipSrc (icmpFields_sealedMessage ttl type src dst identifier)

@[simp] lemma ipDst_sealedMessage :
    SrIpHdr.ipDst (sealedMessage ttl type src dst identifier).buf = htonl dst :=
  congrArg IcmpFields.ipDst (icmpFields_sealedMessage ttl type src dst identifier)

@[simp] lemma identifier_sealedMessage :
    SrIcmpHdr.identifier (sealedMessage ttl type src dst identifier).buf 20 = htons identifier :=
  congrArg IcmpFields.identifier (icmpFields_sealedMessage ttl type src dst identifier)

@[simp] lemma ipHeaderLen_sealedSegment :
    ipHeaderLen (sealedSegment ttl flags src dst sport dport).buf = 20 :=
  congrArg (fun f => f.ipHl * 4) (tcpFields_sealedSegment ttl flags src dst sport dport)

@[simp] lemma ipP_sealedSegment :
    SrIpHdr.ipP (sealedSegment ttl flags src dst sport dport).buf = ipProtocolTcp :=
  congrArg TcpFields.ipP (tcpFields_sealedSegment ttl flags src dst sport dport)

@[simp] lemma ipTtl_sealedSegment :
    SrIpHdr.ipTtl (sealedSegment ttl flags src dst sport dport).buf = ttl :=
  congrArg TcpFields.ipTtl (tcpFields_sealedSegment ttl flags src dst sport dport)

@[simp] lemma ipSrc_sealedSegment :
    SrIpHdr.ipSrc (sealedSegment ttl flags src dst sport dport).buf = htonl src :=
  congrArg TcpFields.ipSrc (tcpFields_sealedSegment ttl flags src dst sport dport)

@[simp] lemma ipDst_sealedSegment :
    SrIpHdr.ipDst (sealedSegment ttl flags src dst sport dport).buf = htonl dst :=
  congrArg TcpFields.ipDst (tcpFields_sealedSegment ttl flags src dst sport dport)

@[simp] lemma srcPort_sealedSegment :
    SrTcpHdr.srcPort (sealedSegment ttl flags src dst sport dport).buf 20 = htons sport :=
  congrArg TcpFields.srcPort (tcpFields_sealedSegment ttl flags src dst sport dport)

@[simp] lemma dstPort_sealedSegment :
    SrTcpHdr.dstPort (sealedSegment ttl flags src dst sport dport).buf 20 = htons dport :=
  congrArg TcpFields.dstPort (tcpFields_sealedSegment ttl flags src dst sport dport)

/-- The flag byte of a sealed segment. -/
lemma flags_sealedSegment : (sealedSegment ttl flags src dst sport dport).buf 33 = flags := by
  change sealIp (SrIpHdr.setIpTtl (tcpSegment flags src dst sport dport) ttl) 33 = flags
  unfold sealIp SrIpHdr.setIpSum SrIpHdr.setIpTtl
  rw [store16_apply_of_disjoint (by omega), store8_apply_of_ne (by omega), flags_tcpSegment]

@[simp] lemma isTcpSyn_sealedSegment : isTcpSyn (sealedSegment ttl flags src dst sport dport).buf ↔
    flags.toBitVec.getLsbD 1 = true ∧ flags.toBitVec.getLsbD 4 = false := by
  simp only [isTcpSyn, SrTcpHdr.syn, SrTcpHdr.ack, ipHeaderLen_sealedSegment, Nat.reduceAdd,
    flags_sealedSegment]

@[simp] lemma srcPrivate_sealedSegment :
    srcPrivate (sealedSegment ttl flags src dst sport dport).buf ↔ isPrivateIp src = true := by
  simp [srcPrivate]

@[simp] lemma dstPrivate_sealedSegment :
    dstPrivate (sealedSegment ttl flags src dst sport dport).buf ↔ isPrivateIp dst = true := by
  simp [dstPrivate]

end Sealed

/-- An interface on the inside, with the address 10.0.1.1. -/
def innerInterface : SrIf := ⟨[0x65, 0x74, 0x68, 0x31], Vector.replicate 6 1, htonl 0x0a000101⟩

/-- A route to 10.0.0.0/8. -/
def innerRoute : SrRt := ⟨htonl 0x0a000000, htonl 0x0a000164, htonl 0xff000000, innerInterface.name⟩

/-- A router between 10.0.0.0/8 and 8.0.0.0/8. -/
def twoSided : NetConfig := ⟨[innerInterface, outerInterface], [innerRoute, outerRoute]⟩

/-- The router `twoSided` with an empty ARP cache and the given NAT state. -/
def natRouter (s : SrNat) : SrInstance := ⟨twoSided, srArpcacheInit, s, true, []⟩

/-- While the ARP cache is empty every route can be used. -/
lemma routesTo_natRouter {s : SrNat} {dst : UInt32} {lpm : SrRt}
    (h : srRtLookup twoSided.routingTable dst = .ok (some lpm)) :
    RoutesTo (natRouter s) dst lpm := by
  refine ⟨h, ?_⟩
  intro hhit
  rw [natRouter, srArpcacheLookup_init] at hhit
  cases hhit

end NatRouter
