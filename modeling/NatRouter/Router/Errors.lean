import NatRouter.Router.Buffered

/-!
# One error for a packet

A TCP packet that the NAT refuses is either put on the unsolicited list, for the sweep to report it, or
its sender is told at once.  When `sr_nat_update_connection` finds no connection, it puts the packet on
the list, and unless the packet is a SYN from outside `nat_handle_tcp` returns 0 besides, so that both
happen.  Where `sr_nat_update_connection` fails for SYNs from outside only, there is one error for a
packet at most (`atMostOneError_of_reportsOnce`).

What is counted are the errors sent and the packets on the list together: a packet comes to be among
them once, and sweeps only move it from the list to the errors.
-/

namespace NatRouter

open ByteMemory Interleaving Relation

/-- There is one error at most for each TCP packet received. -/
def AtMostOneError (x : SrInstance × Trace) : Prop :=
  ∀ n a, x.2.received[n]? = some a → SrIpHdr.ipP a.packet = ipProtocolTcp →
    x.2.errors.count (some n) ≤ 1

/-- `sr_nat_update_connection` finds a connection for every segment but a SYN from outside. -/
def ReportsOnce : RouterCall → SrInstance × Trace → Prop
  | .nat _ (.updateConnection mapping p len direction), x =>
    FindsConn x.1.nat mapping p direction ∨ (NatCall.updateConnection mapping p len direction).ForSyn
  | _, _ => True

/-- What an error was sent about, or may be. -/
def Trace.reports (t : Trace) : List (Option ℕ) := t.errors ++ t.owners

section Programs

variable {cfg : NetConfig} {natEnabled : Bool} {p : ByteMem} {len : UInt32}

/-- Once a SYN from outside has been put on the list, the handler returns -1. -/
lemma natHandleTcp_follows (cfg : NetConfig) (p : ByteMem) (len : UInt32) (isToNat : Bool) :
    (natHandleTcp cfg p len isToNat).Follows fun c r P =>
      (c.buffers r).isSome → c.ForSyn → isToNat = true ∧ P = .ret (-1, p) := by
  have hquiet : ∀ {P : NatProg (ℤ × ByteMem)}, P.Calls NatCall.OnMappings → P.Follows fun c r P =>
      (c.buffers r).isSome → c.ForSyn → isToNat = true ∧ P = .ret (-1, p) := by
    intro P hP
    apply hP.follows
    intro c hc r P hsome
    rw [(hc.kept r).1] at hsome
    cases hsome
  apply TcpRules.natHandleTcp
  constructor
  · exact fun _ => trivial
  · exact fun _ => trivial
  · exact fun c k _ hlast hk r => ⟨hlast r, hk r⟩
  · exact fun _ _ mapping => hquiet (natTcpTranslateSource_calls cfg p len _ mapping)
  · exact fun q _ => hquiet (natTcpUpdateChecksum_calls q len _)

/-- Once a SYN from outside has been put on the list, nothing is left to do. -/
def DropsBuffered (c : NatCall) (r : c.Result) (P : NatProg IpAction) : Prop :=
  (c.buffers r).isSome → c.ForSyn → P = .ret .drop

/-- The decision about a packet is of this kind. -/
lemma ipAction_follows (cfg : NetConfig) (natEnabled : Bool) (p : ByteMem) (len : UInt32) :
    (ipAction cfg natEnabled p len).Follows DropsBuffered := by
  have hdecides := ipAction_decides cfg natEnabled p len
  generalize ipAction cfg natEnabled p len = P at hdecides ⊢
  cases hdecides with
  | drop => trivial
  | sendIcmp type code => trivial
  | forward hok => trivial
  | natIcmp hok hon hp hg =>
    apply (Prog.calls_map (natHandleIcmp_onMappings cfg p)).follows
    intro c hc r P hsome
    rw [(hc.kept r).1] at hsome
    cases hsome
  | natTcp hok hon hp hfor =>
    apply (natHandleTcp_follows cfg p len _).map
    intro c r P h hsome hsyn
    obtain ⟨rfl, rfl⟩ := h hsome hsyn
    rfl

end Programs

section Counting

variable {cfg : NetConfig} {natEnabled : Bool} {x x' : SrInstance × Trace} {n : ℕ}

/-- **The record is in order**: each packet is on the list once or had one error, and no packet is
recorded before it is received. -/
structure OnRecord (x : SrInstance × Trace) : Prop where
  /-- There is an owner for each packet on the list. -/
  ownersMatch : OwnersMatch x
  /-- No packet is recorded twice. -/
  once : ∀ n, x.2.reports.count (some n) ≤ 1
  /-- Only packets received are recorded. -/
  known : ∀ n, some n ∈ x.2.reports → n < x.2.received.length

/-- A packet that is being handled and has not been recorded yet. -/
structure Unrecorded (n : ℕ) (x : SrInstance × Trace) : Prop where
  /-- The record is in order. -/
  onRecord : OnRecord x
  /-- The packet is not recorded. -/
  fresh : some n ∉ x.2.reports
  /-- It was received. -/
  lt : n < x.2.received.length

/-- The record stays in order if nothing is recorded. -/
lemma OnRecord.of_subperm (h : OnRecord x) (hmatch : OwnersMatch x')
    (hreceived : x.2.received.length ≤ x'.2.received.length)
    (hsub : x'.2.reports.Subperm x.2.reports) : OnRecord x' :=
  ⟨hmatch, fun n => (hsub.count_le _).trans (h.once n),
    fun n hn => (h.known n (hsub.subset hn)).trans_le hreceived⟩

/-- The packet that is being handled remains unrecorded then. -/
lemma Unrecorded.of_subperm (h : Unrecorded n x) (hmatch : OwnersMatch x')
    (hreceived : x.2.received.length ≤ x'.2.received.length)
    (hsub : x'.2.reports.Subperm x.2.reports) : Unrecorded n x' :=
  ⟨h.onRecord.of_subperm hmatch hreceived hsub, fun hmem => h.fresh (hsub.subset hmem),
    h.lt.trans_le hreceived⟩

/-- The record stays in order when it is recorded. -/
lemma Unrecorded.record (h : Unrecorded n x) (hmatch : OwnersMatch x')
    (hreceived : x'.2.received = x.2.received)
    (hperm : x'.2.reports.Perm (some n :: x.2.reports)) : OnRecord x' := by
  refine ⟨hmatch, ?_, ?_⟩
  · intro m
    rw [hperm.count_eq]
    by_cases hmn : some n = some m
    · rw [← hmn, List.count_cons_self, List.count_eq_zero.mpr h.fresh]
    · rw [List.count_cons_of_ne hmn]
      exact h.onRecord.once m
  · intro m hm
    rw [hreceived]
    rcases List.mem_cons.mp (hperm.mem_iff.mp hm) with heq | hm
    · exact Option.some.inj heq ▸ h.lt
    · exact h.onRecord.known m hm

/-- A sweep keeps the record in order. -/
lemma OnRecord.env (h : OnRecord x) (henv : RouterEnv x x') : OnRecord x' := by
  obtain ⟨hmatch, hperm⟩ := h.ownersMatch.env henv
  exact h.of_subperm hmatch (congrArg List.length henv.received).ge hperm.subperm

/-- It records no packet that is being handled. -/
lemma Unrecorded.env (h : Unrecorded n x) (henv : RouterEnv x x') : Unrecorded n x' := by
  obtain ⟨hmatch, hperm⟩ := h.onRecord.ownersMatch.env henv
  exact h.of_subperm hmatch (congrArg List.length henv.received).ge hperm.subperm

/-- A call that puts its packet on the list is one for a SYN. -/
lemma forSyn_of_buffers {c : NatCall} {r : c.Result} (hguard : ReportsOnce (.nat n c) x)
    (hcall : routerSem (.nat n c) x r x') (hsome : (c.buffers r).isSome) : c.ForSyn := by
  obtain ⟨amb, nat', hexec, -⟩ := hcall
  cases c with
  | updateConnection mapping p len direction =>
    rcases hguard with hfinds | hsyn
    · obtain ⟨c', t, hfound⟩ := findsConn_iff.mpr hfinds
      have hr : r = some c' := congrArg Prod.fst (Except.ok.inj (hexec.symm.trans hfound))
      subst hr
      cases hsome
    · exact hsyn
  | insertUnsolicitedPacket p len => trivial
  | lookupExternal auxExt type => trivial
  | lookupInternal ipInt auxInt type => trivial
  | insertMapping ipInt auxInt type => trivial
  | insertConnection ext p state => trivial

/-- A call either leaves the packet unrecorded, or puts it on the list. -/
lemma Unrecorded.nat (h : Unrecorded n x) {c : NatCall} {r : c.Result}
    (hcall : routerSem (.nat n c) x r x') :
    Unrecorded n x' ∨ ((c.buffers r).isSome ∧ OnRecord x') := by
  obtain ⟨hmatch, hchange⟩ := h.onRecord.ownersMatch.nat hcall
  have hrest : x'.2.received = x.2.received ∧ x'.2.errors = x.2.errors := by
    obtain ⟨amb, nat', -, rfl⟩ := hcall
    exact ⟨rfl, rfl⟩
  rcases hchange with hsub | ⟨hsome, happend⟩
  · left
    refine h.of_subperm hmatch (congrArg List.length hrest.1).ge ?_
    unfold Trace.reports
    rw [hrest.2]
    exact (hsub.append_left _).subperm
  · right
    refine ⟨hsome, h.record hmatch hrest.1 ?_⟩
    unfold Trace.reports
    rw [hrest.2, happend, ← List.append_assoc]
    exact List.perm_append_singleton _ _

/-- What was decided records the packet at most once. -/
lemma Unrecorded.perform (h : Unrecorded n x) {len : UInt32} {interface : IfName} {action : IpAction}
    (hcall : routerSem (.perform n len interface action) x () x') : OnRecord x' := by
  obtain ⟨ctx, events, hperform, hlog, htrace⟩ := hcall
  have hmatch : OwnersMatch x' :=
    h.onRecord.ownersMatch.sends (sends_perform hperform) (by rw [htrace]; rfl)
  have hreceived : x'.2.received = x.2.received := by
    rw [htrace]
    rfl
  have hreports : x'.2.reports = x.2.errors ++
      ((events.filter RouterEvent.isError).map fun _ => some n) ++ x.2.owners := by
    rw [htrace]
    rfl
  have hone := (perform_errors hperform hlog).1
  generalize events.filter RouterEvent.isError = errors at hone hreports
  match errors, hone with
  | [], _ =>
    refine h.onRecord.of_subperm hmatch (congrArg List.length hreceived).ge ?_
    rw [hreports, List.map_nil, List.append_nil]
    exact List.Subperm.refl _
  | [_], _ =>
    refine h.record hmatch hreceived ?_
    rw [hreports, List.map_cons, List.map_nil, List.append_assoc]
    exact List.perm_middle

/-- To drop a packet records nothing. -/
lemma OnRecord.drop (h : OnRecord x) {len : UInt32} {interface : IfName}
    (hcall : routerSem (.perform n len interface .drop) x () x') : OnRecord x' := by
  obtain ⟨ctx, events, hperform, hlog, htrace⟩ := hcall
  obtain rfl := (perform_errors hperform hlog).2 rfl
  have hreports : x'.2.reports = x.2.reports := by
    rw [htrace]
    exact congrArg (· ++ _) (List.append_nil _)
  have hmatch : OwnersMatch x' :=
    h.ownersMatch.sends (sends_perform hperform) (by rw [htrace]; rfl)
  refine h.of_subperm hmatch ?_ (hreports ▸ List.Subperm.refl _)
  rw [htrace]
  exact le_rfl

/-- The semantics of the guarded calls. -/
abbrev onceSem : Sem RouterCall RouterCall.Result (SrInstance × Trace) :=
  Sem.guarded ReportsOnce routerSem

/-- What remains of the handling of a packet when `P` remains of the decision. -/
def carryOut (n : ℕ) (len : UInt32) (interface : IfName) (P : NatProg IpAction) : RouterProg :=
  P.embed (RouterCall.nat n) (fun _ r => r) fun action =>
    .call (.perform n len interface action) fun _ => .ret ()

/-- A packet that is to be dropped. -/
lemma OnRecord.always_drop (h : OnRecord x) (len : UInt32) (interface : IfName) :
    (carryOut n len interface (.ret .drop)).Always onceSem RouterEnv OnRecord
      (fun _ => OnRecord) x := by
  intro x₁ r x₂ he hc
  have hx₂ : OnRecord x₂ := (stable_of_env (fun _ _ h he => h.env he) h he).drop hc.2
  exact ⟨hx₂, fun x₃ he' => stable_of_env (fun _ _ h he => h.env he) hx₂ he'⟩

/-- A packet that is unrecorded. -/
lemma Unrecorded.always {P : NatProg IpAction} (hP : P.Follows DropsBuffered) (len : UInt32)
    (interface : IfName) (h : Unrecorded n x) :
    (carryOut n len interface P).Always onceSem RouterEnv OnRecord (fun _ => OnRecord) x := by
  induction P generalizing x with
  | ret action =>
    intro x₁ r x₂ he hc
    have hx₁ : Unrecorded n x₁ := stable_of_env (fun _ _ h he => h.env he) h he
    have hx₂ : OnRecord x₂ := hx₁.perform hc.2
    exact ⟨hx₂, fun x₃ he' => stable_of_env (fun _ _ h he => h.env he) hx₂ he'⟩
  | abort e => trivial
  | call c k ih =>
    intro x₁ r x₂ he hc
    have hx₁ : Unrecorded n x₁ := stable_of_env (fun _ _ h he => h.env he) h he
    rcases hx₁.nat hc.2 with hx₂ | ⟨hsome, hx₂⟩
    · exact ⟨hx₂.onRecord, ih r (hP r).2 hx₂⟩
    · -- the packet is on the list, and is dropped
      have hdrop : k r = .ret .drop := (hP r).1 hsome (forSyn_of_buffers hc.1 hc.2 hsome)
      have hrest : (carryOut n len interface (k r)).Always onceSem RouterEnv OnRecord
          (fun _ => OnRecord) x₂ := by
        rw [hdrop]
        exact hx₂.always_drop len interface
      exact ⟨hx₂, hrest⟩

end Counting

/-- The record is in order to begin with. -/
lemma RouterInit.onRecord {cfg : NetConfig} {x : SrInstance × Trace} (h : RouterInit cfg x) :
    OnRecord x := by
  have hnone : ∀ n, some n ∉ x.2.reports := by
    intro n hn
    rw [h.trace] at hn
    unfold Trace.reports UnsolList.noOwners at hn
    simp only [List.nil_append] at hn
    split at hn
    · obtain ⟨q, -, hq⟩ := List.mem_map.mp hn
      cases hq
    · cases hn
  exact ⟨h.ownersMatch, fun n => (List.count_eq_zero.mpr (hnone n)).le.trans zero_le_one,
    fun n hn => absurd hn (hnone n)⟩

/-- **One error for a packet**: in every run in which `sr_nat_update_connection` fails for SYNs from
outside only, there is one error at most for each TCP packet. -/
theorem atMostOneError_of_reportsOnce {cfg : NetConfig} {natEnabled : Bool} {x : SrInstance × Trace}
    (hinit : RouterInit cfg x) {c : RouterConf}
    (hrun : RouterSteps ReportsOnce cfg natEnabled (.idle, x) c) : AtMostOneError c.2 := by
  have hc : OnRecord c.2 := by
    refine (server_invariant_of_idle (Q := fun _ _ => OnRecord) (fun _ _ h he => h.env he) ?_
      hinit.onRecord hrun).1
    intro j x hx
    cases j with
    | arp packet interface =>
      intro x₁ r x₂ he hcall
      obtain ⟨-, now, harp, htrace⟩ := hcall
      have hx₁ : OnRecord x₁ := stable_of_env (fun _ _ h he => h.env he) hx he
      have hx₂ : OnRecord x₂ := by
        refine hx₁.of_subperm (hx₁.ownersMatch.sends (sends_srHandleArp harp) (by rw [htrace])) ?_ ?_
        · rw [htrace]
        · rw [htrace]
      exact ⟨hx₂, fun x₃ he' => stable_of_env (fun _ _ h he => h.env he) hx₂ he'⟩
    | ip a =>
      intro x₁ (n : ℕ) x₂ he hcall
      have hx₁ : OnRecord x₁ := stable_of_env (fun _ _ h he => h.env he) hx he
      obtain ⟨-, rfl, rfl⟩ := hcall
      -- the number of the packet is new
      have hlen : x₁.2.received.length < (x₁.2.received ++ [a]).length := by simp
      have hx₂ : Unrecorded x₁.2.received.length
          (x₁.1, { x₁.2 with received := x₁.2.received ++ [a] }) := by
        refine ⟨hx₁.of_subperm hx₁.ownersMatch hlen.le (List.Subperm.refl _), fun hmem => ?_, hlen⟩
        exact lt_irrefl _ (hx₁.known _ hmem)
      exact ⟨hx₂.onRecord, hx₂.always (ipAction_follows cfg natEnabled a.packet a.len) a.len
        a.interface⟩
  intro n a _ _
  have hcount := hc.once n
  unfold Trace.reports at hcount
  rw [List.count_append] at hcount
  exact (Nat.le_add_right _ _).trans hcount

/-! ### Two runs -/

/-- When its time is up, the sweep reports a packet that waits alone. -/
lemma exists_sweep {x : SrInstance × Trace} {q : SrNatUnsolPkt} {lpm : SrRt} {i : SrIf}
    {o : Option ℕ} (hlinked : x.1.nat.unsolPkt = .linked [q])
    (hroute : srRtLookup x.1.cfg.routingTable (SrIpHdr.ipSrc q.ipPacket) = .ok (some lpm))
    (hinterface : srGetInterface x.1.cfg.ifList lpm.interface = some i)
    (howners : x.2.owners = [o]) : ∃ x', RouterEnv x x' ∧ x'.2.errors = x.2.errors ++ [o] := by
  obtain ⟨sr, t⟩ := x
  simp only at hlinked hroute hinterface howners
  have hold : defaultTcpSynTo < (q.lastUpdated + defaultTcpSynTo + 1) - q.lastUpdated := by
    change (defaultTcpSynTo : ℤ) < ((q.lastUpdated : ℤ) + defaultTcpSynTo + 1) - q.lastUpdated
    omega
  have hreported : isReported sr.cfg.routingTable (q.lastUpdated + defaultTcpSynTo + 1) q = true := by
    rw [isReported_of_lookup hroute]
    exact decide_eq_true hold
  have hunsol : sweepUnsol sr.cfg.routingTable (q.lastUpdated + defaultTcpSynTo + 1) [q] =
      .ok ([(q, lpm)], []) := by
    simp only [sweepUnsol, hroute, if_pos hold]
  obtain ⟨nat', hsweep⟩ : ∃ nat', natTimeout sr.cfg.routingTable
      (q.lastUpdated + defaultTcpSynTo + 1) sr.nat = .ok ([(q, lpm)], nat') := by
    simp only [natTimeout, hlinked, hunsol, Except.ok.injEq, Prod.mk.injEq, true_and, exists_eq']
  obtain ⟨sr', hsend⟩ := @srSendIcmp_of_interface quietSurroundings { sr with nat := nat' }
    q.ipPacket lpm.interface icmpTypeDstunreachable 3 (by decide) i hinterface
  have hsend' : sendReported quietSurroundings [(q, lpm)] { sr with nat := nat' } = .ok sr' :=
    bind_eq_ok.mpr ⟨sr', hsend, rfl⟩
  refine ⟨_, .nat hsweep hsend', ?_⟩
  rw [hlinked]
  change t.errors ++ keepWith _ [q] t.owners = _
  rw [howners, keepWith_cons, if_pos hreported]
  rfl

/-- A SYN from outside that waits too long is reported, once. -/
theorem atMostOneError_callingSyn : ∃ x, RouterInit twoSided freshRouter ∧
    RouterSteps ReportsOnce twoSided true (.idle, freshRouter) (.idle, x) ∧
    x.2.errors = [some 0] ∧ AtMostOneError x := by
  obtain ⟨x, hsteps, hx, hhandled⟩ := @steps_callingSyn ReportsOnce (fun _ _ => trivial)
    (fun _ _ => trivial) (fun _ _ => trivial) fun _ _ _ _ _ => trivial
  have hlinked : x.1.nat.unsolPkt = .linked [callingPkt] :=
    congrArg (fun sr => sr.nat.unsolPkt) hx
  have hroute : srRtLookup x.1.cfg.routingTable (SrIpHdr.ipSrc callingPkt.ipPacket) =
      .ok (some outerRoute) := by
    have hsrc : SrIpHdr.ipSrc callingPkt.ipPacket = htonl 0x08080808 :=
      (ipSrc_copied (by decide)).trans (ipSrc_sealedSegment ..)
    rw [hsrc, hx]
    rfl
  have hinterface : srGetInterface x.1.cfg.ifList outerRoute.interface = some outerInterface := by
    rw [hx]
    rfl
  obtain ⟨o, ho⟩ := List.length_eq_one_iff.mp (hhandled.ownersMatch [callingPkt] hlinked)
  obtain hmem | rfl := hhandled.owners o (ho ▸ List.mem_singleton_self o)
  · cases hmem
  · obtain ⟨x', henv, herrors⟩ := exists_sweep hlinked hroute hinterface ho
    have hrun := hsteps.tail (.env henv)
    refine ⟨x', routerInit_freshRouter, hrun, ?_,
      atMostOneError_of_reportsOnce routerInit_freshRouter hrun⟩
    rw [herrors, hhandled.errors]
    rfl

/-- The sender of the stray ACK is told twice. -/
theorem strayAck_reportedTwice : ∃ x c, RouterInit twoSided x ∧
    RouterSteps unguarded twoSided true (.idle, x) c ∧ ¬ AtMostOneError c.2 := by
  obtain ⟨x, hsteps, hnat, hcfg, hreceived, howners, herror⟩ := steps_strayAck
  have hroute : srRtLookup x.1.cfg.routingTable (SrIpHdr.ipSrc strayPkt.ipPacket) =
      .ok (some outerRoute) := by
    have hsrc : SrIpHdr.ipSrc strayPkt.ipPacket = htonl 0x08080404 :=
      (ipSrc_copied (by decide)).trans (ipSrc_sealedSegment ..)
    rw [hsrc, hcfg]
    rfl
  have hinterface : srGetInterface x.1.cfg.ifList outerRoute.interface = some outerInterface := by
    rw [hcfg]
    rfl
  obtain ⟨x', henv, herrors⟩ := exists_sweep (congrArg SrNat.unsolPkt hnat) hroute hinterface howners
  refine ⟨freshRouter, (.idle, x'), routerInit_freshRouter, hsteps.tail (.env henv), ?_⟩
  intro hone
  have hcount := hone 1 strayAck (by rw [henv.received, hreceived]; rfl) (ipP_sealedSegment ..)
  have hpos : 0 < x.2.errors.count (some 1) := List.count_pos_iff.mpr herror
  rw [herrors, List.count_append, List.count_singleton_self] at hcount
  omega

end NatRouter
