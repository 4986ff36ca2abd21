import NatRouter.Nat.Changes
import NatRouter.Router.Buffered
import NatRouter.Router.SendSteps

/-!
# What errors are about

Every buffer that an ICMP error is made about was made from a received packet: the record of the run says
from which, and in the bytes received it differs from this packet at most in the hops and the header
checksum and, if the NAT has handled the packet, in the addresses and the two fields that its handler
writes (`errors_onRecord`).  There are two exceptions: messages of the router's own, which wait for the
address of their next hop like any packet, and what was on the unsolicited list to begin with, which
`sr_nat_init` leaves as it is.
-/

namespace NatRouter

open ByteMemory GroupedQueue Interleaving Relation

/-- A packet that goes through the NAT, if it passes the tests. -/
def NatHandles (natEnabled : Bool) (a : Arrival) : Prop :=
  natEnabled = true ∧
    (SrIpHdr.ipP a.packet = ipProtocolIcmp ∨ SrIpHdr.ipP a.packet = ipProtocolTcp)

/-- The fields of what a packet carries that the NAT writes when it handles it. -/
def natFields (p : ByteMem) : List ℕ :=
  if SrIpHdr.ipP p = ipProtocolIcmp then icmpTranslated p else tcpTranslated p

/-- The buffer was made from the packet: the bytes received are in it, but for the hops, the header
checksum, and what the NAT writes. -/
def MadeFrom (natEnabled : Bool) (a : Arrival) (b : ByteMem) : Prop :=
  ∀ i < a.len.toNat, i ≠ 8 ∧ i ≠ 10 ∧ i ≠ 11 →
    (NatHandles natEnabled a → ¬ (12 ≤ i ∧ i < 20) ∧ ∀ f ∈ natFields a.packet, i ≠ f ∧ i ≠ f + 1) →
    b i = a.packet i

/-- A buffer that was made from a received packet and is on record, a message of the router's own, or
a packet that was on the unsolicited list to begin with. -/
inductive IsKnown (natEnabled : Bool) (initial : UnsolList) (t : Trace) : ByteMem → Prop
  /-- It was made from a received packet. -/
  | received {b : ByteMem} {n : ℕ} {a : Arrival} (horigin : (b, n) ∈ t.origins)
      (hn : t.received[n]? = some a) (hmade : MadeFrom natEnabled a b) : IsKnown natEnabled initial t b
  /-- It is a message. -/
  | own {b : ByteMem} (h : IsOwnMessage b) : IsKnown natEnabled initial t b
  /-- It was there to begin with. -/
  | initial {pkts : List SrNatUnsolPkt} {q : SrNatUnsolPkt} (hlinked : initial = .linked pkts)
      (hq : q ∈ pkts) : IsKnown natEnabled initial t q.ipPacket

/-! ### What the router makes of a packet -/

section Made

variable {cfg : NetConfig} {natEnabled : Bool} {a : Arrival} {b q : ByteMem}

/-- The packet itself. -/
lemma MadeFrom.self (natEnabled : Bool) (a : Arrival) : MadeFrom natEnabled a a.packet :=
  fun _ _ _ _ => rfl

/-- A copy of what was made. -/
lemma MadeFrom.copied (h : MadeFrom natEnabled a b) (junk : ByteMem) :
    MadeFrom natEnabled a (copied b a.len.toNat junk) :=
  fun i hi hhop hnat => (if_pos hi).trans (h i hi hhop hnat)

/-- One hop less to live. -/
lemma MadeFrom.decrementTtl (h : MadeFrom natEnabled a b) :
    MadeFrom natEnabled a (decrementTtl b) :=
  fun i hi hhop hnat => (decrementTtl_apply hhop).trans (h i hi hhop hnat)

/-- What a handler of the NAT has written. -/
lemma MadeFrom.of_changedAt (hhandles : NatHandles natEnabled a)
    (h : ChangedAt (natFields a.packet) a.packet b) : MadeFrom natEnabled a b := by
  intro i _ hhop hnat
  obtain ⟨haddress, hfields⟩ := hnat hhandles
  exact h i (by omega) hfields

/-- What is decided upon was made from the packet. -/
def ActionMakes (natEnabled : Bool) (a : Arrival) : IpAction → Prop
  | .drop => True
  | .sendIcmp b _ _ => MadeFrom natEnabled a b
  | .forward b => MadeFrom natEnabled a b

/-- **What `sr_handle_ippacket` decides upon** was made from the packet. -/
lemma ipAction_makes (cfg : NetConfig) (natEnabled : Bool) (a : Arrival) :
    (ipAction cfg natEnabled a.packet a.len).Returns (ActionMakes natEnabled a) := by
  have hdecides := ipAction_decides cfg natEnabled a.packet a.len
  have hself : MadeFrom natEnabled a a.packet := .self natEnabled a
  generalize ipAction cfg natEnabled a.packet a.len = P at hdecides ⊢
  cases hdecides with
  | drop => trivial
  | sendIcmp type code => exact hself
  | forward hok => exact hself
  | natIcmp hok hon hp hg =>
    apply (natStart_changedAt (.icmp cfg a.packet)).map
    intro r hr
    have hfields : natFields a.packet = icmpTranslated a.packet := if_pos hp
    have hmade : MadeFrom natEnabled a r.2 := .of_changedAt ⟨hon, .inl hp⟩ (hfields ▸ hr)
    rcases hg r with hdrop | hforward
    · rw [hdrop]
      trivial
    · rw [hforward]
      exact hmade
  | @natTcp hok hon hp isToNat hfor =>
    apply (natStart_changedAt (.tcp cfg a.packet a.len isToNat)).map
    intro r hr
    have hfields : natFields a.packet = tcpTranslated a.packet := if_neg (by rw [hp]; decide)
    have hmade : MadeFrom natEnabled a r.2 := .of_changedAt ⟨hon, .inr hp⟩ (hfields ▸ hr)
    unfold tcpVerdict
    split_ifs <;> trivial

end Made

/-! ### What goes on record -/

section Buffers

variable {ctx : Surroundings} {sr sr' : SrInstance} {q b : ByteMem} {len : UInt32}
  {interface : IfName} {events : List RouterEvent}

/-- What is recorded of a packet that is forwarded: the packet, if there is no route, or the copy that
waits for the address of the next hop. -/
lemma forward_buffers (h : srForwardIppacket ctx sr q len interface = .ok sr')
    (hlog : sr'.log = sr.log ++ events) (hb : b ∈ (IpAction.forward q).buffers events) :
    (b = q ∧ srRtLookup sr.cfg.routingTable (SrIpHdr.ipDst q) = .ok none) ∨
      ∃ lpm junk, srRtLookup sr.cfg.routingTable (SrIpHdr.ipDst q) = .ok (some lpm) ∧
        srArpcacheLookup sr.cache lpm.gw = none ∧ b = copied (decrementTtl q) len.toNat junk := by
  obtain ⟨hlookup, hsend⟩ | ⟨lpm, hlookup, ⟨i, frame, -, rfl⟩ | ⟨hmiss, rfl⟩⟩ :=
    srForwardIppacket_cases h
  · left
    have hany := any_isError_of_srSendIcmp hsend hlog rfl
    simp only [IpAction.buffers, hany, if_true, List.mem_singleton] at hb
    exact ⟨hb, hlookup⟩
  · obtain rfl := List.append_cancel_left (hlog.symm.trans (List.append_assoc ..))
    cases hb
  · right
    obtain rfl := List.append_cancel_left (hlog.symm.trans (List.append_assoc ..))
    refine ⟨lpm, ctx.heap sr.cache.nextNode, hlookup, hmiss, ?_⟩
    change b ∈ (IpAction.forward q).buffers (.forward (decrementTtl q) len lpm ::
      (newPacket (ctx.heap sr.cache.nextNode) (decrementTtl q) len lpm.interface
        interface).toList.map (RouterEvent.queued lpm.gw)) at hb
    unfold newPacket at hb
    split_ifs at hb
    · exact List.mem_singleton.mp hb
    · cases hb

/-- What is recorded of a call of the NAT: a copy of the segment that it puts on the list. -/
lemma nat_origins {x x' : SrInstance × Trace} {n m : ℕ} {c : NatCall} {r : c.Result}
    (hcall : routerSem (.nat n c) x r x') (hb : (b, m) ∈ x'.2.origins) :
    (b, m) ∈ x.2.origins ∨
      (m = n ∧ ∃ p len junk, c.buffers r = some (p, len) ∧ b = copied p len.toNat junk) := by
  obtain ⟨amb, nat', hexec, rfl⟩ := hcall
  rcases List.mem_append.mp hb with hb | hb
  · exact .inl hb
  · right
    obtain ⟨q, hq, heq⟩ := List.mem_map.mp hb
    obtain ⟨rfl, rfl⟩ : q.ipPacket = b ∧ n = m := ⟨congrArg Prod.fst heq, congrArg Prod.snd heq⟩
    have heffect := natExec_unsol hexec
    generalize x.1.nat.unsolPkt = unsol, nat'.unsolPkt = unsol' at heffect hq
    cases heffect with
    | kept =>
      cases unsol with
      | linked pkts =>
        change q ∈ pkts.drop pkts.length at hq
        rw [List.drop_length] at hq
        cases hq
      | dangling => cases hq
    | @appended pkts p junk len now hbuffers =>
      change q ∈ (pkts ++ [_]).drop pkts.length at hq
      rw [List.drop_left] at hq
      obtain rfl := List.mem_singleton.mp hq
      exact ⟨rfl, p, len, junk, hbuffers, rfl⟩
    | broken => cases hq
    | @filtered pkts p =>
      change q ∈ (pkts.filter _).drop pkts.length at hq
      rw [List.drop_eq_nil_of_le (List.length_filter_le _ _)] at hq
      cases hq

/-- What goes on record of an action was made from the packet. -/
lemma ActionMakes.buffers {natEnabled : Bool} {a : Arrival} {action : IpAction}
    (h : ActionMakes natEnabled a action)
    (hperform : perform ctx sr a.len interface action = .ok sr') (hlog : sr'.log = sr.log ++ events)
    (hb : b ∈ action.buffers events) : MadeFrom natEnabled a b := by
  cases action with
  | drop => cases hb
  | sendIcmp packet type code => exact List.mem_singleton.mp hb ▸ h
  | forward packet =>
    rcases forward_buffers hperform hlog hb with ⟨rfl, -⟩ | ⟨lpm, junk, -, -, rfl⟩
    · exact h
    · exact (MadeFrom.decrementTtl h).copied junk

end Buffers

/-! ### What is put aside -/

/-- Nothing but buffers of a kind: those that wait for an address, and those that errors were made
about. -/
structure HoldsOnly (K : ByteMem → Prop) (sr : SrInstance) : Prop where
  /-- What waits for an address. -/
  waiting : ∀ w ∈ sr.cache.waiting, K w.2.buf
  /-- What errors were made about. -/
  errors : ∀ b interface type code, RouterEvent.icmp b interface type code ∈ sr.log →
    type ≠ icmpTypeEchoreply → K b

section Sending

variable {K : ByteMem → Prop} {ctx : Surroundings} {sr sr' : SrInstance} {packet : ByteMem}
  {len : UInt32} {interface : IfName}

/-- What is added to the log, if it is no message. -/
lemma HoldsOnly.record (h : HoldsOnly K sr) {events : List RouterEvent}
    (hother : ∀ b interface type code, RouterEvent.icmp b interface type code ∉ events) :
    HoldsOnly K (sr.record events) := by
  refine ⟨h.waiting, ?_⟩
  intro b interface type code hb htype
  rcases List.mem_append.mp hb with hold | hnew
  · exact h.errors b interface type code hold htype
  · exact absurd hnew (hother b interface type code)

/-- A packet that is sent. -/
lemma HoldsOnly.send (h : HoldsOnly K sr) (origin : Option SrPacket) (frame : ByteMem) (len : UInt32)
    (interface : IfName) : HoldsOnly K (srSendPacket sr origin frame len interface) :=
  h.record fun _ _ _ _ hb => nomatch List.mem_singleton.mp hb

/-- A packet that is put on the ARP queue. -/
lemma HoldsOnly.queuereq (h : HoldsOnly K sr) {heap : NodeId → ByteMem} {ip : UInt32}
    {iface sender : IfName} (hpkt : ∀ pkt,
      newPacket (heap sr.cache.nextNode) packet len iface sender = some pkt → K pkt.buf) :
    HoldsOnly K (sr.queuereq heap ip packet len iface sender) := by
  refine ⟨?_, ?_⟩
  · intro w hw
    have hwaiting := waiting_srArpcacheQueuereq (heap sr.cache.nextNode) ip packet len iface sender
      sr.cache
    rcases Multiset.mem_add.mp (hwaiting ▸ hw) with hold | hnew
    · exact h.waiting w hold
    · obtain ⟨pkt, hpkt', rfl⟩ := List.mem_map.mp (Multiset.mem_coe.mp hnew)
      exact hpkt pkt (Option.mem_toList.mp hpkt')
  · intro b interface type code hb
    rcases List.mem_append.mp hb with hold | hnew
    · exact h.errors b interface type code hold
    · obtain ⟨pkt, -, heq⟩ := List.mem_map.mp hnew
      cases heq

/-- A message about a buffer of the kind. -/
lemma HoldsOnly.message (h : HoldsOnly K sr) (hpacket : K packet) (interface : IfName)
    (type code : UInt8) : HoldsOnly K (sr.record [.icmp packet interface type code]) := by
  refine ⟨h.waiting, ?_⟩
  intro b interface' type' code' hb htype
  rcases List.mem_append.mp hb with hold | hnew
  · exact h.errors b interface' type' code' hold htype
  · cases List.mem_singleton.mp hnew
    exact hpacket

/-- What is sent step by step keeps to the buffers of the kind, if messages are made about these and
these are put aside. -/
lemma HoldsOnly.steps {M : SrInstance → ByteMem → UInt8 → UInt8 → Prop} {Q : ByteMem → Prop}
    (hM : ∀ sr b type code, HoldsOnly K sr → M sr b type code → K b) (hQ : ∀ b, Q b → K b)
    (h : HoldsOnly K sr) (hsteps : SendSteps M Q sr sr') : HoldsOnly K sr' := by
  refine hsteps.invariant (I := HoldsOnly K) ?_ h
  intro sr sr' h hstep
  cases hstep with
  | record hplain => exact h.record fun _ _ _ _ hb => absurd (hplain _ hb) Bool.false_ne_true
  | message hb => exact h.message (hM _ _ _ _ h hb) _ _ _
  | queuereq hqueued =>
    apply h.queuereq
    intro pkt hpkt
    unfold newPacket at hpkt
    split_ifs at hpkt
    cases hpkt
    exact hQ _ hqueued
  | cache hwaiting => exact ⟨fun w hw => h.waiting w (hwaiting w hw), h.errors⟩

/-- The sweep of the ARP queue makes its messages about what waited. -/
lemma HoldsOnly.srArpcacheTimeout (hown : ∀ b, IsOwnMessage b → K b) (h : HoldsOnly K sr)
    {curtime : Time} {clock : NodeId → Time × Time}
    (hsweep : srArpcacheTimeout ctx curtime clock sr = .ok sr') : HoldsOnly K sr' := by
  refine h.steps ?_ hown (sendSteps_srArpcacheTimeout hsweep)
  rintro sr b type code hsr ⟨-, -, w, hw, rfl⟩
  exact hsr.waiting w hw

/-- The messages of a sweep of the NAT are made about the packets that are reported. -/
lemma HoldsOnly.sendReported (hown : ∀ b, IsOwnMessage b → K b)
    {reported : List (SrNatUnsolPkt × SrRt)} (h : HoldsOnly K sr)
    (hreported : ∀ q ∈ reported.map Prod.fst, K q.ipPacket)
    (hsend : sendReported ctx reported sr = .ok sr') : HoldsOnly K sr' := by
  refine h.steps ?_ hown (sendSteps_sendReported (List.Subset.refl _) hsend)
  rintro sr b type code - ⟨-, -, q, hq, rfl⟩
  exact hreported q hq

/-- `sr_send_icmp` makes a message about its packet, and has a message of the router's own wait. -/
lemma HoldsOnly.srSendIcmp (hown : ∀ b, IsOwnMessage b → K b) (h : HoldsOnly K sr) {type code : UInt8}
    (hpacket : K packet) (hsend : srSendIcmp ctx sr packet interface type code = .ok sr') :
    HoldsOnly K sr' :=
  h.steps (M := fun _ b _ _ => b = packet) (fun _ _ _ _ _ hb => hb ▸ hpacket) hown
    (sendSteps_srSendIcmp rfl (fun _ hb => hb) hsend)

/-- What was decided about a packet is done with the buffers that go on record. -/
lemma HoldsOnly.perform (hown : ∀ b, IsOwnMessage b → K b) (h : HoldsOnly K sr) {action : IpAction}
    {events : List RouterEvent} (hbuffers : ∀ b ∈ action.buffers events, K b)
    (hperform : perform ctx sr len interface action = .ok sr') (hlog : sr'.log = sr.log ++ events) :
    HoldsOnly K sr' := by
  cases action with
  | drop =>
    obtain rfl : sr = sr' := Except.ok.inj hperform
    exact h
  | sendIcmp packet type code =>
    exact h.srSendIcmp hown (hbuffers packet List.mem_cons_self) hperform
  | forward packet =>
    have hrecord : ∀ lpm, HoldsOnly K (sr.record [.forward (decrementTtl packet) len lpm]) :=
      fun lpm => h.record fun _ _ _ _ hb => nomatch List.mem_singleton.mp hb
    obtain ⟨-, hsend⟩ | ⟨lpm, -, ⟨i, frame, -, rfl⟩ | ⟨-, rfl⟩⟩ := srForwardIppacket_cases hperform
    · apply h.srSendIcmp hown (hbuffers packet ?_) hsend
      have hany := any_isError_of_srSendIcmp hsend hlog rfl
      simp only [IpAction.buffers, hany, if_true, List.mem_singleton]
    · exact (hrecord lpm).send none frame _ _
    · obtain rfl := List.append_cancel_left (hlog.symm.trans (List.append_assoc ..))
      refine (hrecord lpm).queuereq fun pkt hpkt => hbuffers pkt.buf ?_
      change pkt.buf ∈ (IpAction.forward packet).buffers
        (.forward (decrementTtl packet) len lpm :: (newPacket (ctx.heap sr.cache.nextNode)
          (decrementTtl packet) len lpm.interface interface).toList.map (.queued lpm.gw))
      change newPacket (ctx.heap sr.cache.nextNode) _ _ _ _ = _ at hpkt
      rw [hpkt]
      exact List.mem_cons_self

end Sending

/-! ### Runs -/

section Runs

variable {natEnabled : Bool} {initial : UnsolList} {t t' : Trace} {x x' : SrInstance × Trace}

/-- What is on record stays on record. -/
lemma IsKnown.mono {b : ByteMem} (h : IsKnown natEnabled initial t b) (horigins : t.origins ⊆ t'.origins)
    (hreceived : ∀ (n : ℕ) a, t.received[n]? = some a → t'.received[n]? = some a) :
    IsKnown natEnabled initial t' b := by
  rcases h with ⟨horigin, hn, hmade⟩ | hown | ⟨hlinked, hq⟩
  · exact .received (horigins horigin) (hreceived _ _ hn) hmade
  · exact .own hown
  · exact .initial hlinked hq

/-- A packet on the list after a call of the NAT was there before, or the call has appended it as a copy
of its own packet. -/
lemma mem_of_natExec {amb : Ambient} {c : NatCall} {s s' : SrNat} {r : c.Result}
    (hexec : natExec amb c s = .ok (r, s')) {pkts' : List SrNatUnsolPkt}
    (hlinked : s'.unsolPkt = .linked pkts') {q : SrNatUnsolPkt} (hq : q ∈ pkts') :
    (∃ pkts, s.unsolPkt = .linked pkts ∧ q ∈ pkts) ∨ (q ∈ appended s.unsolPkt s'.unsolPkt ∧
      ∃ p len junk, c.buffers r = some (p, len) ∧ q.ipPacket = copied p len.toNat junk) := by
  have heffect := natExec_unsol hexec
  generalize s.unsolPkt = unsol, s'.unsolPkt = unsol' at heffect hlinked ⊢
  subst hlinked
  cases heffect with
  | kept => exact .inl ⟨pkts', rfl, hq⟩
  | @appended pkts p junk len now hbuffers =>
    rcases List.mem_append.mp hq with hold | hnew
    · exact .inl ⟨pkts, rfl, hold⟩
    · refine .inr ⟨?_, p, len, junk, hbuffers, List.mem_singleton.mp hnew ▸ rfl⟩
      change q ∈ (pkts ++ _).drop pkts.length
      rw [List.drop_left]
      exact hnew
  | @filtered pkts p => exact .inl ⟨pkts, rfl, (List.mem_filter.mp hq).1⟩

/-- What a call about a packet puts on the list is the packet, which has passed the tests. -/
lemma CallsAbout.of_buffers {a : Arrival} {c : NatCall} {r : c.Result} {p : ByteMem} {len : UInt32}
    (h : CallsAbout a c) (hbuffers : c.buffers r = some (p, len)) :
    Accepted a.packet a.len ∧ p = a.packet ∧ len = a.len := by
  rcases h with hmappings | ⟨hok, -, habout⟩
  · rw [(hmappings.kept r).1] at hbuffers
    cases hbuffers
  · exact ⟨hok, habout.of_buffers hbuffers⟩

/-- **All buffers are known**: those that wait, on the ARP queue and on the unsolicited list, and those
that errors were made about. -/
structure AllKnown (natEnabled : Bool) (initial : UnsolList) (x : SrInstance × Trace) : Prop where
  /-- On the ARP queue, and in the log. -/
  holds : HoldsOnly (IsKnown natEnabled initial x.2) x.1
  /-- On the unsolicited list. -/
  list : ∀ pkts, x.1.nat.unsolPkt = .linked pkts → ∀ q ∈ pkts,
    IsKnown natEnabled initial x.2 q.ipPacket

/-- They stay known when the record grows. -/
lemma AllKnown.mono (h : AllKnown natEnabled initial x) (hsr : x'.1 = x.1)
    (horigins : x.2.origins ⊆ x'.2.origins)
    (hreceived : ∀ (n : ℕ) a, x.2.received[n]? = some a → x'.2.received[n]? = some a) :
    AllKnown natEnabled initial x' := by
  have hmono : ∀ b, IsKnown natEnabled initial x.2 b → IsKnown natEnabled initial x'.2 b :=
    fun b hb => hb.mono horigins hreceived
  refine ⟨⟨?_, ?_⟩, ?_⟩
  · intro w hw
    exact hmono _ (h.holds.waiting w (hsr ▸ hw))
  · intro b interface type code hb htype
    exact hmono b (h.holds.errors b interface type code (hsr ▸ hb) htype)
  · intro pkts hlinked q hq
    exact hmono _ (h.list pkts (hsr ▸ hlinked) q hq)

/-- They stay known when something is sent. -/
lemma AllKnown.sends (h : AllKnown natEnabled initial x) (hsends : Sends x.1 x'.1) (htrace : x'.2 = x.2)
    (hholds : HoldsOnly (IsKnown natEnabled initial x.2) x'.1) : AllKnown natEnabled initial x' := by
  refine ⟨htrace ▸ hholds, ?_⟩
  rw [hsends.nat, htrace]
  exact h.list

/-- Every call keeps them known. -/
lemma AllKnown.call {c : RouterCall} {r : c.Result} (h : AllKnown natEnabled initial x)
    (hlegit : Legit CallsAbout (ActionMakes natEnabled) c x) (hcall : routerSem c x r x') :
    AllKnown natEnabled initial x' := by
  have hreceived : ∀ (n : ℕ) a, x.2.received[n]? = some a → x'.2.received[n]? = some a :=
    fun _ _ hn => routerSem_received hcall hn
  cases c with
  | receive a =>
    obtain ⟨-, rfl⟩ := hcall
    exact h.mono rfl (List.Subset.refl _) hreceived
  | nat n c =>
    obtain ⟨a, hn, hc⟩ := hlegit
    obtain ⟨amb, nat', hexec, rfl⟩ := hcall
    have hmono : AllKnown natEnabled initial
        (x.1, x.2.afterNat n (c.removes r) x.1.nat.unsolPkt nat'.unsolPkt) :=
      h.mono rfl (List.subset_append_left _ _) hreceived
    refine ⟨⟨hmono.holds.waiting, hmono.holds.errors⟩, ?_⟩
    intro pkts' hlinked q hq
    rcases mem_of_natExec hexec hlinked hq with
      ⟨pkts, hpkts, hold⟩ | ⟨hnew, p, len, junk, hbuffers, hcopy⟩
    · exact hmono.list pkts hpkts q hold
    · obtain ⟨-, rfl, rfl⟩ := hc.of_buffers hbuffers
      refine .received (List.mem_append_right _ (List.mem_map_of_mem hnew)) hn ?_
      rw [hcopy]
      exact (MadeFrom.self natEnabled a).copied junk
  | perform n len interface action =>
    obtain ⟨a, hn, rfl, rfl, hmakes⟩ := hlegit
    obtain ⟨ctx, events, hperform, hlog, htrace⟩ := hcall
    have hmono : AllKnown natEnabled initial (x.1, x'.2) :=
      h.mono rfl (htrace ▸ List.subset_append_left _ _) hreceived
    refine hmono.sends (sends_perform hperform) rfl ?_
    refine hmono.holds.perform (fun b hb => .own hb) (fun b hb => ?_) hperform hlog
    refine .received ?_ (hreceived n a hn) (hmakes.buffers hperform hlog hb)
    rw [htrace]
    exact List.mem_append_right _ (List.mem_map_of_mem hb)
  | arp packet interface =>
    obtain ⟨now, harp, htrace⟩ := hcall
    exact h.sends (sends_srHandleArp harp) htrace (h.holds.steps (M := noMessage)
      (fun _ _ _ _ _ hfalse => hfalse.elim) (fun _ hb => .own hb) (sendSteps_srHandleArp harp))

/-- So do the sweeps. -/
lemma AllKnown.env (h : AllKnown natEnabled initial x) (henv : RouterEnv x x') : AllKnown natEnabled initial x' := by
  cases henv with
  | @nat sr sr' t ctx curtime nat' reported hsweep hsend =>
    obtain ⟨pkts, hlinked, hreported, hkept⟩ := natTimeout_unsol hsweep
    have hlist := h.list pkts hlinked
    have hswept : AllKnown natEnabled initial ({ sr with nat := nat' }, t) := by
      refine ⟨⟨h.holds.waiting, h.holds.errors⟩, ?_⟩
      intro pkts' hlinked' q hq
      obtain rfl := UnsolList.linked.inj (hkept.symm.trans hlinked')
      exact hlist q (List.mem_filter.mp hq).1
    have hsent : AllKnown natEnabled initial (sr', t) := by
      refine hswept.sends (sends_sendReported hsend) rfl ?_
      refine hswept.holds.sendReported (fun b hb => .own hb) (fun q hq => ?_) hsend
      rw [hreported] at hq
      exact hlist q (List.mem_filter.mp hq).1
    rw [hlinked]
    exact hsent.mono rfl (List.Subset.refl _) fun _ _ hn => hn
  | arp h' => exact h.sends (sends_srArpcacheTimeout h') rfl (h.holds.srArpcacheTimeout
      (fun b hb => .own hb) h')

/-- All along a run all buffers are known. -/
lemma allKnown_of_steps {guard : RouterCall → SrInstance × Trace → Prop} {cfg : NetConfig}
    {x : SrInstance × Trace} (hinit : RouterInit cfg x) {c : RouterConf}
    (hrun : RouterSteps guard cfg natEnabled (.idle, x) c) :
    AllKnown natEnabled x.1.nat.unsolPkt c.2 := by
  have hx : AllKnown natEnabled x.1.nat.unsolPkt x := by
    refine ⟨⟨?_, ?_⟩, ?_⟩
    · intro w hw
      exact absurd hw (hinit.waiting_notMem w)
    · intro b interface type code hb
      exact absurd hb (hinit.log_notMem _)
    · intro pkts hlinked q hq
      exact .initial hlinked hq
  exact router_invariant (ipAction_callsAbout cfg natEnabled) (ipAction_makes cfg natEnabled)
    (fun _ _ _ _ _ hlegit hI hcall => hI.call hlegit hcall) (fun _ _ hI henv => hI.env henv) hx hrun

/-- **Every error is about a buffer on record** that was made from the packet received, in every run. -/
theorem errors_onRecord {guard : RouterCall → SrInstance × Trace → Prop} {cfg : NetConfig}
    {natEnabled : Bool} {x : SrInstance × Trace} (hinit : RouterInit cfg x) {c : RouterConf}
    (hrun : RouterSteps guard cfg natEnabled (.idle, x) c) {b : ByteMem} {interface : IfName}
    {type code : UInt8} (hb : RouterEvent.icmp b interface type code ∈ c.2.1.log)
    (htype : type ≠ icmpTypeEchoreply) : IsKnown natEnabled x.1.nat.unsolPkt c.2.2 b :=
  (allKnown_of_steps hinit hrun).holds.errors b interface type code hb htype

end Runs

end NatRouter
