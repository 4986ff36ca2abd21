import NatRouter.Arp.Handler
import NatRouter.Nat.Unsolicited
import NatRouter.Router.IpPacket

/-!
# Runs of the router

The whole router as a system of three threads.  The packet thread takes one packet after the other:
an ARP packet is handled at one go; an IP packet is decided upon by a program of NAT calls, and what
was decided is done at one go.  Beside it run the threads of `sr_nat_timeout` and of
`sr_arpcache_timeout`, which hold a lock during a whole pass.

A run keeps a record of what the theorems about ICMP errors ask for, and no function reads
(`Trace`): which packets were received, which of them every packet on the unsolicited list is a copy
of, which buffers were made from which of them, and which of them an error was sent about.
-/

namespace NatRouter

open ByteMemory Interleaving Relation

/-- An IP packet as it is received. -/
structure Arrival where
  /-- The packet. -/
  packet : ByteMem
  /-- Its length. -/
  len : UInt32
  /-- The interface it comes in on. -/
  interface : IfName

/-- The record of a run.  Received packets are numbered from 0 on. -/
structure Trace where
  /-- The IP packets received so far. -/
  received : List Arrival
  /-- For each packet on the unsolicited list the number of the received packet it is a copy of; those
  that were there to begin with have none. -/
  owners : List (Option ℕ)
  /-- The buffers that were put aside or that an error was sent about, each with the number of the
  received packet it was made from. -/
  origins : List (ByteMem × ℕ)
  /-- For each ICMP error sent by `sr_handle_ippacket` or by `sr_nat_timeout` the number of the packet
  it is about. -/
  errors : List (Option ℕ)

/-- The calls of the packet thread; `n` is the number of the packet that is handled. -/
inductive RouterCall where
  /-- An IP packet is received. -/
  | receive (a : Arrival)
  /-- A call of the NAT. -/
  | nat (n : ℕ) (c : NatCall)
  /-- What was decided is done. -/
  | perform (n : ℕ) (len : UInt32) (interface : IfName) (action : IpAction)
  /-- An ARP packet is received and handled. -/
  | arp (packet : ByteMem) (interface : IfName)

/-- What a call returns: a received packet gets its number. -/
def RouterCall.Result : RouterCall → Type
  | .receive _ => ℕ
  | .nat _ c => c.Result
  | .perform .. => Unit
  | .arp .. => Unit

/-- A program of the packet thread. -/
abbrev RouterProg := Prog RouterCall RouterCall.Result Fault Unit

/-- What the packet thread is given. -/
inductive RouterJob where
  /-- An IP packet. -/
  | ip (a : Arrival)
  /-- An ARP packet. -/
  | arp (packet : ByteMem) (interface : IfName)

/-- The handling of the packet with number `n`: the decision, and what follows from it. -/
def handleArrival (cfg : NetConfig) (natEnabled : Bool) (a : Arrival) (n : ℕ) : RouterProg :=
  (ipAction cfg natEnabled a.packet a.len).embed (.nat n) (fun _ r => r) fun action =>
    .call (.perform n a.len a.interface action) fun _ => .ret ()

/-- The program of a job. -/
def routerStart (cfg : NetConfig) (natEnabled : Bool) : RouterJob → RouterProg
  | .ip a => .call (.receive a) fun (n : ℕ) => handleArrival cfg natEnabled a n
  | .arp packet interface => .call (.arp packet interface) fun _ => .ret ()

/-! ### The record -/

/-- The packets of a list that are kept, and what goes with them. -/
def keepWith {α β : Type} (keep : α → Bool) (l : List α) (l' : List β) : List β :=
  ((l.zip l').filter fun x => keep x.1).map Prod.snd

/-- The owners of the packets that a call leaves on the list. -/
def keptOwners (removed : Option ByteMem) (unsol : UnsolList) (owners : List (Option ℕ)) :
    List (Option ℕ) :=
  match removed, unsol with
  | some p, .linked pkts => keepWith (fun q => !sameSegment p q.ipPacket) pkts owners
  | _, _ => owners

/-- The packets that a call has appended. -/
def appended : UnsolList → UnsolList → List SrNatUnsolPkt
  | .linked pkts, .linked pkts' => pkts'.drop pkts.length
  | _, _ => []

/-- The record after a call of the NAT, about the packet with number `n`. -/
def Trace.afterNat (t : Trace) (n : ℕ) (removed : Option ByteMem) (unsol unsol' : UnsolList) :
    Trace :=
  { t with
    owners := keptOwners removed unsol t.owners ++ (appended unsol unsol').map fun _ => some n
    origins := t.origins ++ (appended unsol unsol').map fun q => (q.ipPacket, n) }

/-- An entry of the log that says that an ICMP error is made. -/
def RouterEvent.isError : RouterEvent → Bool
  | .icmp _ _ type _ => type ≠ icmpTypeEchoreply
  | _ => false

/-- The buffers that an action, which has made the given entries of the log, has put aside or sent an
error about: what was forwarded and has to wait, or the packet itself. -/
def IpAction.buffers : IpAction → List RouterEvent → List ByteMem
  | .drop, _ => []
  | .sendIcmp packet _ _, _ => [packet]
  | .forward packet, events =>
    if events.any RouterEvent.isError then [packet]
    else events.filterMap fun
      | .queued _ pkt => some pkt.buf
      | _ => none

/-- The record after an action about the packet with number `n`. -/
def Trace.afterAction (t : Trace) (n : ℕ) (action : IpAction) (events : List RouterEvent) : Trace :=
  { t with
    origins := t.origins ++ (action.buffers events).map fun b => (b, n)
    errors := t.errors ++ (events.filter RouterEvent.isError).map fun _ => some n }

/-- The record after a sweep of the NAT. -/
def Trace.afterSweep (t : Trace) (routingTable : List SrRt) (curtime : Time) (unsol : UnsolList) :
    Trace :=
  match unsol with
  | .linked pkts =>
    { t with
      owners := keepWith (fun q => !isReported routingTable curtime q) pkts t.owners
      errors := t.errors ++ keepWith (isReported routingTable curtime) pkts t.owners }
  | .dangling => t

/-! ### The semantics -/

/-- The calls of the packet thread. -/
def routerSem : Sem RouterCall RouterCall.Result (SrInstance × Trace) := fun c x r x' =>
  match c, r with
  | .receive a, (n : ℕ) =>
    n = x.2.received.length ∧ x' = (x.1, { x.2 with received := x.2.received ++ [a] })
  | .nat n c, r =>
    ∃ amb nat', natExec amb c x.1.nat = .ok (r, nat') ∧
      x' = ({ x.1 with nat := nat' },
        x.2.afterNat n (c.removes r) x.1.nat.unsolPkt nat'.unsolPkt)
  | .perform n len interface action, _ =>
    ∃ ctx events, perform ctx x.1 len interface action = .ok x'.1 ∧
      x'.1.log = x.1.log ++ events ∧ x'.2 = x.2.afterAction n action events
  | .arp packet interface, _ =>
    ∃ now, srHandleArp x.1 now packet interface = .ok x'.1 ∧ x'.2 = x.2

/-- The messages of a sweep of the NAT. -/
def sendReported (ctx : Surroundings) :
    List (SrNatUnsolPkt × SrRt) → SrInstance → Except Fault SrInstance
  | [], sr => .ok sr
  | (curr, lpm) :: rest, sr => do
    let sr ← srSendIcmp ctx sr curr.ipPacket lpm.interface icmpTypeDstunreachable 3
    sendReported ctx rest sr

/-- The two sweeps. -/
inductive RouterEnv : SrInstance × Trace → SrInstance × Trace → Prop
  /-- A pass of `sr_nat_timeout`. -/
  | nat {sr sr' : SrInstance} {t : Trace} {ctx : Surroundings} {curtime : Time} {nat' : SrNat}
      {reported : List (SrNatUnsolPkt × SrRt)}
      (hsweep : natTimeout sr.cfg.routingTable curtime sr.nat = .ok (reported, nat'))
      (hsend : sendReported ctx reported { sr with nat := nat' } = .ok sr') :
      RouterEnv (sr, t) (sr', t.afterSweep sr.cfg.routingTable curtime sr.nat.unsolPkt)
  /-- A pass of `sr_arpcache_timeout`. -/
  | arp {sr sr' : SrInstance} {t : Trace} {ctx : Surroundings} {curtime : Time}
      {clock : NodeId → Time × Time} (h : srArpcacheTimeout ctx curtime clock sr = .ok sr') :
      RouterEnv (sr, t) (sr', t)

/-- A configuration of the system. -/
abbrev RouterConf := Thread RouterCall RouterCall.Result Fault Unit RouterJob × SrInstance × Trace

/-- Runs in which the calls of the packet thread satisfy a guard. -/
abbrev RouterSteps (guard : RouterCall → SrInstance × Trace → Prop) (cfg : NetConfig)
    (natEnabled : Bool) : RouterConf → RouterConf → Prop :=
  Steps (Sem.guarded guard routerSem) RouterEnv (routerStart cfg natEnabled)

/-- No guard. -/
def unguarded : RouterCall → SrInstance × Trace → Prop := fun _ _ => True

/-- What goes with the packets that are on the unsolicited list to begin with. -/
def UnsolList.noOwners : UnsolList → List (Option ℕ)
  | .linked pkts => pkts.map fun _ => none
  | .dangling => []

/-- The states the router starts in. -/
structure RouterInit (cfg : NetConfig) (x : SrInstance × Trace) : Prop where
  /-- The interfaces and routes have been loaded. -/
  cfg : x.1.cfg = cfg
  /-- The ARP cache is empty. -/
  cache : x.1.cache = srArpcacheInit
  /-- `sr_nat_init` has been called. -/
  nat : IsInitial x.1.nat
  /-- Nothing has happened. -/
  log : x.1.log = []
  /-- Nothing is on record. -/
  trace : x.2 = ⟨[], x.1.nat.unsolPkt.noOwners, [], []⟩

namespace RouterInit

variable {cfg : NetConfig} {x : SrInstance × Trace}

/-- Nothing waits. -/
lemma waiting_notMem (h : RouterInit cfg x) (w : UInt32 × SrPacket) : w ∉ x.1.cache.waiting := by
  rw [h.cache, waiting_srArpcacheInit]
  exact Multiset.notMem_zero w

/-- Nothing is on the log. -/
lemma log_notMem (h : RouterInit cfg x) (e : RouterEvent) : e ∉ x.1.log := by
  rw [h.log]
  exact List.not_mem_nil

end RouterInit

section Owners

variable {α β : Type} {keep : α → Bool} {l : List α} {l' : List β}

/-- What goes with the packets that are kept, packet by packet. -/
lemma keepWith_cons (a : α) (b : β) : keepWith keep (a :: l) (b :: l') =
    if keep a then b :: keepWith keep l l' else keepWith keep l l' := by
  unfold keepWith
  rw [List.zip_cons_cons, List.filter_cons]
  split_ifs <;> rfl

/-- No more goes with the packets that are kept than with all of them. -/
lemma keepWith_sublist : (keepWith keep l l').Sublist l' := by
  induction l generalizing l' with
  | nil => exact List.nil_sublist l'
  | cons a l ih =>
    cases l' with
    | nil => exact List.Sublist.refl []
    | cons b l' =>
      rw [keepWith_cons]
      split_ifs
      · exact ih.cons_cons b
      · exact ih.cons b

/-- There is one for each packet that is kept. -/
lemma length_keepWith (h : l'.length = l.length) :
    (keepWith keep l l').length = (l.filter keep).length := by
  induction l generalizing l' with
  | nil => rfl
  | cons a l ih =>
    cases l' with
    | nil => cases h
    | cons b l' =>
      have hrest := ih (Nat.succ.inj h)
      rw [keepWith_cons, List.filter_cons]
      split_ifs
      · exact congrArg Nat.succ hrest
      · exact hrest

/-- What goes with the packets that are taken off and what goes with those that are kept, together. -/
lemma keepWith_perm (h : l'.length = l.length) :
    (keepWith keep l l' ++ keepWith (fun a => !keep a) l l').Perm l' := by
  induction l generalizing l' with
  | nil =>
    obtain rfl := List.length_eq_zero_iff.mp h
    exact List.Perm.refl []
  | cons a l ih =>
    cases l' with
    | nil => cases h
    | cons b l' =>
      have hrest := ih (Nat.succ.inj h)
      rw [keepWith_cons, keepWith_cons]
      cases keep a with
      | true => exact hrest.cons b
      | false => exact List.perm_middle.trans (hrest.cons b)

/-- There is one owner for each packet on the list. -/
def OwnersMatch (x : SrInstance × Trace) : Prop :=
  ∀ pkts, x.1.nat.unsolPkt = .linked pkts → x.2.owners.length = pkts.length

end Owners

section Record

variable {t : Trace} {n : ℕ}

/-- A call that leaves the list alone leaves the owners alone. -/
lemma afterNat_kept (unsol : UnsolList) : (t.afterNat n none unsol unsol).owners = t.owners := by
  have hnone : appended unsol unsol = [] := by
    cases unsol with
    | linked pkts => exact List.drop_length
    | dangling => rfl
  have hkept : keptOwners none unsol t.owners = t.owners := rfl
  simp only [Trace.afterNat, hnone, hkept, List.map_nil, List.append_nil]

/-- A call that appends a packet is recorded as its owner's. -/
lemma afterNat_appended (pkts : List SrNatUnsolPkt) (q : SrNatUnsolPkt) :
    (t.afterNat n none (.linked pkts) (.linked (pkts ++ [q]))).owners = t.owners ++ [some n] := by
  simp [Trace.afterNat, appended, keptOwners]

/-- A call that takes packets off takes their owners off. -/
lemma afterNat_filtered (p : ByteMem) (pkts : List SrNatUnsolPkt) :
    (t.afterNat n (some p) (.linked pkts)
      (.linked (pkts.filter fun q => !sameSegment p q.ipPacket))).owners =
      keepWith (fun q => !sameSegment p q.ipPacket) pkts t.owners := by
  have hnone : (pkts.filter fun q => !sameSegment p q.ipPacket).drop pkts.length = [] :=
    List.drop_eq_nil_of_le (List.length_filter_le _ _)
  simp only [Trace.afterNat, appended, hnone, keptOwners, List.map_nil, List.append_nil]

/-- So does a call that breaks the list. -/
lemma afterNat_broken (p : ByteMem) (pkts : List SrNatUnsolPkt) :
    (t.afterNat n (some p) (.linked pkts) .dangling).owners =
      keepWith (fun q => !sameSegment p q.ipPacket) pkts t.owners :=
  List.append_nil _

end Record

/-! ### Errors in the log -/

/-- To put packets on the queue is no error. -/
lemma filter_isError_queued (ip : UInt32) (pkts : List SrPacket) :
    (pkts.map (RouterEvent.queued ip)).filter RouterEvent.isError = [] := by
  apply List.filter_eq_nil_iff.mpr
  intro event hevent
  obtain ⟨pkt, -, rfl⟩ := List.mem_map.mp hevent
  exact Bool.false_ne_true

/-- `sr_send_icmp` logs one error, if its message is one. -/
lemma srSendIcmp_errors {ctx : Surroundings} {sr sr' : SrInstance} {packet : ByteMem}
    {interface : IfName} {type code : UInt8}
    (h : srSendIcmp ctx sr packet interface type code = .ok sr') : ∃ events,
      sr'.log = sr.log ++ events ∧ events.filter RouterEvent.isError =
        [RouterEvent.icmp packet interface type code].filter RouterEvent.isError := by
  obtain ⟨loadLen, ipPacket, -, ⟨entry, frame, -, rfl⟩ | ⟨-, rfl⟩⟩ := srSendIcmp_cases h
  · refine ⟨_, List.append_assoc .., ?_⟩
    rw [List.filter_append]
    exact List.append_nil _
  · refine ⟨_, List.append_assoc .., ?_⟩
    rw [List.filter_append, filter_isError_queued, List.append_nil]

/-- The error is in the log then. -/
lemma mem_of_filter_isError {events : List RouterEvent} {event : RouterEvent}
    (h : events.filter RouterEvent.isError = [event].filter RouterEvent.isError)
    (herror : event.isError = true) : event ∈ events := by
  have hmem : event ∈ events.filter RouterEvent.isError := by
    rw [h, List.filter_cons_of_pos herror]
    exact List.mem_cons_self
  exact (List.mem_filter.mp hmem).1

/-- The log says so then. -/
lemma any_isError_of_srSendIcmp {ctx : Surroundings} {sr sr' : SrInstance} {packet : ByteMem}
    {interface : IfName} {type code : UInt8} {events : List RouterEvent}
    (h : srSendIcmp ctx sr packet interface type code = .ok sr') (hlog : sr'.log = sr.log ++ events)
    (herror : (RouterEvent.icmp packet interface type code).isError = true) :
    events.any RouterEvent.isError = true := by
  obtain ⟨events', hlog', herrors⟩ := srSendIcmp_errors h
  obtain rfl : events = events' := List.append_cancel_left (hlog.symm.trans hlog')
  exact List.any_eq_true.mpr ⟨_, mem_of_filter_isError herrors herror, herror⟩

/-- What was decided about a packet leads to one error at most, and to none if it is dropped. -/
lemma perform_errors {ctx : Surroundings} {sr sr' : SrInstance} {len : UInt32} {interface : IfName}
    {action : IpAction} {events : List RouterEvent}
    (h : perform ctx sr len interface action = .ok sr') (hlog : sr'.log = sr.log ++ events) :
    (events.filter RouterEvent.isError).length ≤ 1 ∧ (action = .drop → events = []) := by
  have hicmp : ∀ {packet : ByteMem} {type code : UInt8},
      srSendIcmp ctx sr packet interface type code = .ok sr' →
      (events.filter RouterEvent.isError).length ≤ 1 := by
    intro packet type code hsend
    obtain ⟨events', hlog', herrors⟩ := srSendIcmp_errors hsend
    obtain rfl : events = events' := List.append_cancel_left (hlog.symm.trans hlog')
    rw [herrors]
    exact List.length_filter_le _ [_]
  cases action with
  | drop =>
    obtain rfl : sr = sr' := Except.ok.inj h
    obtain rfl : events = [] := List.append_cancel_left (hlog.symm.trans (List.append_nil _).symm)
    exact ⟨Nat.zero_le 1, fun _ => rfl⟩
  | sendIcmp packet type code => exact ⟨hicmp h, fun hdrop => nomatch hdrop⟩
  | forward packet =>
    refine ⟨?_, fun hdrop => nomatch hdrop⟩
    have hnone : events.filter RouterEvent.isError = [] →
        (events.filter RouterEvent.isError).length ≤ 1 := by
      intro hnone
      rw [hnone]
      exact Nat.zero_le 1
    obtain ⟨-, hsend⟩ | ⟨lpm, -, ⟨i, frame, -, rfl⟩ | ⟨-, rfl⟩⟩ := srForwardIppacket_cases h
    · exact hicmp hsend
    · obtain rfl := List.append_cancel_left (hlog.symm.trans (List.append_assoc ..))
      exact hnone rfl
    · obtain rfl := List.append_cancel_left (hlog.symm.trans (List.append_assoc ..))
      exact hnone (filter_isError_queued lpm.gw _)

/-! ### What is left alone -/

section Sends

variable {ctx : Surroundings} {sr sr' : SrInstance} {packet : ByteMem} {len : UInt32}
  {interface : IfName}

/-- What was decided about a packet is done by sending. -/
lemma sends_perform {action : IpAction} (h : perform ctx sr len interface action = .ok sr') :
    Sends sr sr' := by
  cases action with
  | drop =>
    obtain rfl : sr = sr' := Except.ok.inj h
    exact ⟨rfl, rfl⟩
  | sendIcmp packet type code => exact sends_srSendIcmp h
  | forward packet => exact sends_srForwardIppacket h

/-- The messages of a sweep of the NAT are sent. -/
lemma sends_sendReported {reported : List (SrNatUnsolPkt × SrRt)}
    (h : sendReported ctx reported sr = .ok sr') : Sends sr sr' := by
  induction reported generalizing sr with
  | nil =>
    obtain rfl : sr = sr' := Except.ok.inj h
    exact ⟨rfl, rfl⟩
  | cons curr rest ih =>
    obtain ⟨mid, hcurr, hrest⟩ := bind_eq_ok.mp h
    exact (sends_srSendIcmp hcurr).trans (ih hrest)

end Sends

/-! ### The owners in a run -/

section OwnersMatch

variable {x x' : SrInstance × Trace}

/-- There are owners for the packets that are there to begin with. -/
lemma RouterInit.ownersMatch {cfg : NetConfig} (h : RouterInit cfg x) : OwnersMatch x := by
  intro pkts hlinked
  rw [h.trace, hlinked]
  exact List.length_map _

/-- **What a call of the NAT does to the owners**: it takes some off, or the packet that it puts on the
list is recorded as one about the packet that is handled. -/
lemma OwnersMatch.nat (h : OwnersMatch x) {n : ℕ} {c : NatCall} {r : c.Result}
    (hcall : routerSem (.nat n c) x r x') : OwnersMatch x' ∧
      (x'.2.owners.Sublist x.2.owners ∨
        ((c.buffers r).isSome ∧ x'.2.owners = x.2.owners ++ [some n])) := by
  obtain ⟨amb, nat', hexec, rfl⟩ := hcall
  have heffect := natExec_unsol hexec
  unfold OwnersMatch at h ⊢
  simp only
  generalize x.1.nat.unsolPkt = unsol, nat'.unsolPkt = unsol' at h heffect ⊢
  cases heffect with
  | kept hremoves =>
    rw [hremoves, afterNat_kept]
    exact ⟨h, .inl (List.Sublist.refl _)⟩
  | appended hbuffers =>
    have hsome : (c.buffers r).isSome := by
      rw [hbuffers]
      rfl
    rw [NatCall.removes_of_buffers hsome, afterNat_appended]
    refine ⟨fun pkts' hlinked => ?_, .inr ⟨hsome, rfl⟩⟩
    obtain rfl := UnsolList.linked.inj hlinked
    rw [List.length_append, List.length_append, h _ rfl, List.length_singleton,
      List.length_singleton]
  | broken hremoves =>
    rw [hremoves, afterNat_broken]
    exact ⟨fun pkts' hlinked => (nomatch hlinked), .inl keepWith_sublist⟩
  | filtered hremoves =>
    rw [hremoves, afterNat_filtered]
    refine ⟨fun pkts' hlinked => ?_, .inl keepWith_sublist⟩
    obtain rfl := UnsolList.linked.inj hlinked
    exact length_keepWith (h _ rfl)

/-- Sending leaves the owners alone. -/
lemma OwnersMatch.sends (h : OwnersMatch x) (hsends : Sends x.1 x'.1)
    (howners : x'.2.owners = x.2.owners) : OwnersMatch x' := by
  intro pkts hlinked
  rw [howners]
  refine h pkts ?_
  rw [← hsends.nat]
  exact hlinked

/-- **What a sweep does to the owners**: those whose packets are reported become those of errors. -/
lemma OwnersMatch.env (h : OwnersMatch x) (henv : RouterEnv x x') : OwnersMatch x' ∧
    (x'.2.errors ++ x'.2.owners).Perm (x.2.errors ++ x.2.owners) := by
  cases henv with
  | @nat sr sr' t ctx curtime nat' reported hsweep hsend =>
    obtain ⟨pkts, hlinked, -, hkept⟩ := natTimeout_unsol hsweep
    have hlen := h pkts hlinked
    have hsends := sends_sendReported hsend
    have hunsol : sr'.nat.unsolPkt = nat'.unsolPkt := congrArg SrNat.unsolPkt hsends.nat
    rw [hlinked]
    refine ⟨?_, ?_⟩
    · intro pkts' hlinked'
      change sr'.nat.unsolPkt = _ at hlinked'
      rw [hunsol, hkept] at hlinked'
      obtain rfl := UnsolList.linked.inj hlinked'
      change (keepWith (fun q => !isReported sr.cfg.routingTable curtime q) pkts t.owners).length = _
      exact length_keepWith hlen
    · simp only [Trace.afterSweep, List.append_assoc]
      exact (keepWith_perm hlen).append_left _
  | arp h' => exact ⟨h.sends (sends_srArpcacheTimeout h') rfl, List.Perm.refl _⟩

end OwnersMatch

/-! ### Invariants of runs -/

section Runs

variable {guard : RouterCall → SrInstance × Trace → Prop} {cfg : NetConfig} {natEnabled : Bool}
  {x x' : SrInstance × Trace}

/-- What is known of a call of the packet thread in a state: it is about a packet that was received,
and one that the decision about that packet makes or leads to. -/
def Legit (S : Arrival → NatCall → Prop) (T : Arrival → IpAction → Prop) :
    RouterCall → SrInstance × Trace → Prop
  | .nat n c, x => ∃ a, x.2.received[n]? = some a ∧ S a c
  | .perform n len interface action, x =>
    ∃ a, x.2.received[n]? = some a ∧ len = a.len ∧ interface = a.interface ∧ T a action
  | _, _ => True

/-- A call forgets no packet that was received. -/
lemma routerSem_received {c : RouterCall} {r : c.Result} (h : routerSem c x r x') {n : ℕ} {a : Arrival}
    (hn : x.2.received[n]? = some a) : x'.2.received[n]? = some a := by
  cases c with
  | receive b =>
    obtain ⟨-, rfl⟩ := h
    exact List.getElem?_append_left (List.getElem?_eq_some_iff.mp hn).1 ▸ hn
  | nat m c =>
    obtain ⟨amb, nat', -, rfl⟩ := h
    exact hn
  | perform m len interface action =>
    obtain ⟨ctx, events, -, -, htrace⟩ := h
    rw [htrace]
    exact hn
  | arp packet interface =>
    obtain ⟨now, -, htrace⟩ := h
    rw [htrace]
    exact hn

/-- Nor does a sweep. -/
lemma RouterEnv.received (h : RouterEnv x x') : x'.2.received = x.2.received := by
  cases h with
  | @nat sr sr' t ctx curtime nat' reported hsweep hsend =>
    unfold Trace.afterSweep
    split <;> rfl
  | arp h => rfl

/-- **Invariants of the router**: what the sweeps keep, and every call keeps of which is known that
it is about a packet received, holds in every state of a run. -/
theorem router_invariant {I : SrInstance × Trace → Prop} {S : Arrival → NatCall → Prop}
    {T : Arrival → IpAction → Prop}
    (hcalls : ∀ a, (ipAction cfg natEnabled a.packet a.len).Calls (S a))
    (hreturns : ∀ a, (ipAction cfg natEnabled a.packet a.len).Returns (T a))
    (hsem : ∀ c x r x', guard c x → Legit S T c x → I x → routerSem c x r x' → I x')
    (henv : ∀ x x', I x → RouterEnv x x' → I x') (hx : I x) {c : RouterConf}
    (hrun : RouterSteps guard cfg natEnabled (.idle, x) c) : I c.2 := by
  refine (server_invariant_of_idle (Q := fun _ _ => I) henv ?_ hx hrun).1
  intro j x hx
  cases j with
  | arp packet interface =>
    intro x₁ r x₂ he hc
    have hx₂ : I x₂ := hsem (.arp packet interface) x₁ r x₂ hc.1 trivial (stable_of_env henv hx he) hc.2
    exact ⟨hx₂, fun x₃ he' => stable_of_env henv hx₂ he'⟩
  | ip a =>
    intro x₁ (n : ℕ) x₂ he hc
    have hx₂ : I x₂ :=
      hsem (.receive a) x₁ n x₂ hc.1 trivial (stable_of_env henv hx he) hc.2
    refine ⟨hx₂, ?_⟩
    -- from here on the packet is on record under its number
    have hn : x₂.2.received[n]? = some a := by
      obtain ⟨-, rfl, rfl⟩ := hc
      exact List.getElem?_concat_length
    have hkind : (handleArrival cfg natEnabled a n).Calls fun c => match c with
        | .nat m c => m = n ∧ S a c
        | .perform m len interface action =>
          m = n ∧ len = a.len ∧ interface = a.interface ∧ T a action
        | _ => False :=
      Prog.calls_embed (Prog.Calls.imp (fun _ hS => ⟨rfl, hS⟩) (hcalls a)) (hreturns a)
        fun action hT => ⟨⟨rfl, rfl, rfl, hT⟩, fun _ => trivial⟩
    have halways := @Prog.always_of_calls _ _ _ _ _ (Sem.guarded guard routerSem) RouterEnv
      (fun x => I x ∧ x.2.received[n]? = some a) _ (fun c x r x' hkind hI hc => ?_)
      (fun x x' hI he => ⟨henv x x' hI.1 he, he.received ▸ hI.2⟩) _ hkind x₂ ⟨hx₂, hn⟩
    · exact (halways.weaken fun _ h => h.1).imp fun _ _ h => h.1
    · refine ⟨hsem c x r x' hc.1 ?_ hI.1 hc.2, routerSem_received hc.2 hI.2⟩
      cases c with
      | receive b => exact trivial
      | arp packet interface => exact trivial
      | nat m c =>
        obtain ⟨rfl, hS⟩ := hkind
        exact ⟨a, hI.2, hS⟩
      | perform m len interface action =>
        obtain ⟨rfl, hrest⟩ := hkind
        exact ⟨a, hI.2, hrest⟩

end Runs

/-! ### A job run alone -/

/-- What an idle router records of a packet that it handles without interruption. -/
structure Handled (a : Arrival) (action : IpAction) (events : List RouterEvent) (x : SrInstance × Trace)
    (x' : SrInstance × Trace) : Prop where
  /-- The packet was received. -/
  received : x'.2.received = x.2.received ++ [a]
  /-- There is an owner for each packet on the list. -/
  ownersMatch : OwnersMatch x'
  /-- A new owner is this packet. -/
  owners : ∀ o ∈ x'.2.owners, o ∈ x.2.owners ∨ o = some x.2.received.length
  /-- Its buffers are on record. -/
  origins : ∀ b ∈ action.buffers events, (b, x.2.received.length) ∈ x'.2.origins
  /-- And so are the errors about it. -/
  errors : x'.2.errors =
    x.2.errors ++ (events.filter RouterEvent.isError).map fun _ => some x.2.received.length

/-- A packet that is handled without interruption, by calls that satisfy the guard. -/
lemma routerSteps_ip {guard : RouterCall → SrInstance × Trace → Prop} {cfg : NetConfig}
    {natEnabled : Bool} {x : SrInstance × Trace} {a : Arrival} {action : IpAction} {nat' : SrNat}
    {ctx : Surroundings} {sr' : SrInstance} {events : List RouterEvent} (hmatch : OwnersMatch x)
    (hrun : (ipAction cfg natEnabled a.packet a.len).Runs (Sem.guarded (fun c s =>
      ∀ y : SrInstance × Trace, y.1.nat = s → guard (.nat x.2.received.length c) y) natSem)
      x.1.nat action nat')
    (hperform : perform ctx { x.1 with nat := nat' } a.len a.interface action = .ok sr')
    (hlog : sr'.log = x.1.log ++ events) (hreceive : guard (.receive a) x)
    (hdone : ∀ y, y.1 = { x.1 with nat := nat' } →
      guard (.perform x.2.received.length a.len a.interface action) y) :
    ∃ t', RouterSteps guard cfg natEnabled (.idle, x) (.idle, (sr', t')) ∧
      Handled a action events x (sr', t') := by
  let n := x.2.received.length
  let start : Trace := { x.2 with received := x.2.received ++ [a] }
  -- while the NAT is called, nothing else changes
  let rel : SrNat → SrInstance × Trace → Prop := fun s y =>
    y.1 = { x.1 with nat := s } ∧ y.2.received = start.received ∧ y.2.errors = x.2.errors ∧
      OwnersMatch y ∧ ∀ o ∈ y.2.owners, o ∈ x.2.owners ∨ o = some n
  have hsem : ∀ c s r s' y, Sem.guarded (fun c s => ∀ y : SrInstance × Trace, y.1.nat = s →
      guard (.nat n c) y) natSem c s r s' → rel s y →
      ∃ r' y', Sem.guarded guard routerSem (.nat n c) y r' y' ∧ r' = r ∧ rel s' y' := by
    rintro c s r s' y ⟨hguard, amb, hexec⟩ ⟨hy, hreceived, herrors, hmatch, howners⟩
    have hs : y.1.nat = s := congrArg SrInstance.nat hy
    have hcall : routerSem (.nat n c) y r ({ y.1 with nat := s' },
        y.2.afterNat n (c.removes r) y.1.nat.unsolPkt s'.unsolPkt) := ⟨amb, s', hs ▸ hexec, rfl⟩
    obtain ⟨hmatch', hchange⟩ := hmatch.nat hcall
    refine ⟨r, _, ⟨hguard y hs, hcall⟩, rfl, ?_, hreceived, herrors, hmatch', ?_⟩
    · rw [hy]
    · intro o ho
      rcases hchange with hsub | ⟨-, happend⟩
      · exact howners o (hsub.subset ho)
      · rw [happend] at ho
        rcases List.mem_append.mp ho with ho | ho
        · exact howners o ho
        · exact .inr (List.mem_singleton.mp ho)
  have hstart : rel x.1.nat (x.1, start) := ⟨rfl, rfl, rfl, hmatch, fun o ho => .inl ho⟩
  obtain ⟨⟨sr₁, t₁⟩, ⟨hsr, hreceived, herrors, hmatch', howners⟩, hrest⟩ :=
    @Prog.Runs.embed _ _ _ RouterCall.Result _ _ Unit _ _ _ (Sem.guarded guard routerSem) rel
      (.nat n) (fun _ r => r) hsem _ _ _ _ hrun _ hstart
  obtain rfl : sr₁ = { x.1 with nat := nat' } := hsr
  refine ⟨t₁.afterAction n action events, ?_, hreceived, ?_, howners, ?_, ?_⟩
  · have hfirst : Sem.guarded guard routerSem (.receive a) x n (x.1, start) :=
      ⟨hreceive, rfl, rfl⟩
    have hlast : Sem.guarded guard routerSem (.perform n a.len a.interface action)
        ({ x.1 with nat := nat' }, t₁) () (sr', t₁.afterAction n action events) :=
      ⟨hdone _ rfl, ctx, events, hperform, hlog, rfl⟩
    have hjob : (routerStart cfg natEnabled (.ip a)).Runs (Sem.guarded guard routerSem) x ()
        (sr', t₁.afterAction n action events) :=
      .call hfirst (hrest _ () _ (.call hlast (.ret () _)))
    exact hjob.job
  · exact hmatch'.sends (sends_perform hperform) rfl
  · intro b hb
    exact List.mem_append_right _ (List.mem_map_of_mem hb)
  · exact congrArg (· ++ _) herrors

/-- A packet that is handled without interruption, by any calls. -/
lemma routerSteps_ip_unguarded {cfg : NetConfig} {natEnabled : Bool} {x : SrInstance × Trace}
    {a : Arrival} {action : IpAction} {nat' : SrNat} {ctx : Surroundings} {sr' : SrInstance}
    {events : List RouterEvent} (hmatch : OwnersMatch x)
    (hrun : (ipAction cfg natEnabled a.packet a.len).Runs natSem x.1.nat action nat')
    (hperform : perform ctx { x.1 with nat := nat' } a.len a.interface action = .ok sr')
    (hlog : sr'.log = x.1.log ++ events) :
    ∃ t', RouterSteps unguarded cfg natEnabled (.idle, x) (.idle, (sr', t')) ∧
      Handled a action events x (sr', t') :=
  routerSteps_ip hmatch (hrun.mono fun _ _ _ _ h => ⟨fun _ _ => trivial, h⟩) hperform hlog trivial
    fun _ _ => trivial

end NatRouter
