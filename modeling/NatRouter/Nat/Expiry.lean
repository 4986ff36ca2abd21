import Mathlib.Data.List.Flatten
import NatRouter.Nat.Allocation
import NatRouter.Nat.Flows

/-!
# What a sweep lets live

Two things that a sweep of `sr_nat_timeout` should keep: a connection that is open and has not been
idle for longer than its state allows, and an ICMP mapping that has been used less than
`icmp_query_to` seconds ago.

The first is decided by a chain of `else if`, whose last test does not ask for the state: it also
catches the established connections.  The second is decided by `last_updated`, which is written when
the mapping is made and never again: the lookups return copies.
-/

namespace NatRouter

open ByteMemory Interleaving Relation

/-! ### Connections -/

/-- How long a connection may be idle in its state. -/
def SrNat.idleLimit (s : SrNat) (c : SrNatConnection) : ℕ :=
  if c.state = .estab then s.tcpEstabIdleTo.toNat else s.tcpTransitoryTo.toNat

/-- A connection that a sweep at `curtime` should keep: it is not `CLOSED`, and not idle for longer
than its state allows. -/
def SrNat.live (s : SrNat) (curtime : Time) (c : SrNatConnection) : Bool :=
  c.state ≠ .closed ∧ curtime - c.lastUpdated ≤ s.idleLimit c

/-- All connections of the table, mapping by mapping. -/
def SrNat.connections (s : SrNat) : List SrNatConnection := s.mappings.flatMap SrNatMapping.conns

/-- From `s` to `s'` no connection is removed that a sweep at `curtime` should keep. -/
def KeepsLive (curtime : Time) (s s' : SrNat) : Prop :=
  s'.connections.filter (s.live curtime) = s.connections.filter (s.live curtime)

/-- A connection of a mapping that the sweep keeps, and the mapping with it. -/
def SrNat.spared (s : SrNat) (curtime : Time) (m : SrNatMapping) (c : SrNatConnection) : Bool :=
  match m.type with
  | .natMappingIcmp => curtime - m.lastUpdated ≤ s.icmpQueryTo.toNat
  | .natMappingTcp => !connExpired s curtime c

/-- Two appended sublists make up the whole only if each does. -/
lemma append_eq_of_sublist {α : Type} {l₁ l₂ l₁' l₂' : List α} (h₁ : l₁.Sublist l₁')
    (h₂ : l₂.Sublist l₂') (h : l₁ ++ l₂ = l₁' ++ l₂') : l₁ = l₁' ∧ l₂ = l₂' := by
  have hlength := congrArg List.length h
  rw [List.length_append, List.length_append] at hlength
  have hle₁ := h₁.length_le
  have hle₂ := h₂.length_le
  exact ⟨h₁.eq_of_length (by omega), h₂.eq_of_length (by omega)⟩

/-- A filter that depends on the group takes nothing away if it lets pass, in each group, what the
other filter lets pass. -/
lemma filter_flatMap_filter_eq_iff {α β : Type} (f : α → List β) (p : α → β → Bool) (q : β → Bool)
    (l : List α) :
    (l.flatMap fun a => (f a).filter (p a)).filter q = (l.flatMap f).filter q ↔
      ∀ a ∈ l, ∀ b ∈ f a, q b = true → p a b = true := by
  induction l with
  | nil => simp
  | cons a l ih =>
    have hgroup : ((f a).filter (p a)).filter q = (f a).filter q ↔
        ∀ b ∈ f a, q b = true → p a b = true := by
      rw [List.filter_comm, List.filter_eq_self]
      simp only [List.mem_filter, and_imp]
    rw [List.flatMap_cons, List.flatMap_cons, List.filter_append, List.filter_append,
      List.forall_mem_cons, ← ih, ← hgroup]
    constructor
    · intro h
      refine append_eq_of_sublist ?_ ?_ h
      · exact List.filter_sublist.filter q
      · exact (List.Sublist.flatMap_right l fun b _ => List.filter_sublist).filter q
    · rintro ⟨h₁, h₂⟩
      rw [h₁, h₂]

/-- The connections that a sweep leaves are those it spares. -/
lemma connections_of_sweep {rt : List SrRt} {t : Time} {s s' : SrNat}
    {reported : List (SrNatUnsolPkt × SrRt)} (h : natTimeout rt t s = .ok (reported, s')) :
    s'.connections = s.mappings.flatMap fun m => m.conns.filter (s.spared t m) := by
  have hone : ∀ m : SrNatMapping, (sweepMapping s t m).toList.flatMap SrNatMapping.conns =
      m.conns.filter (s.spared t m) := by
    intro m
    unfold sweepMapping SrNat.spared
    cases m.type with
    | natMappingIcmp =>
      by_cases hold : (s.icmpQueryTo.toNat : ℤ) < t - m.lastUpdated
      · simp only [if_pos hold, decide_eq_false (Int.not_le.mpr hold)]
        simp
      · simp only [if_neg hold, decide_eq_true (Int.not_lt.mp hold)]
        simp
    | natMappingTcp =>
      change _ = sweepConns s t m.conns
      cases sweepConns s t m.conns <;> simp
  rw [SrNat.connections, (natTimeout_cases h).1]
  induction s.mappings with
  | nil => rfl
  | cons m l ih =>
    rw [List.flatMap_cons, ← hone m, ← ih]
    cases hsweep : sweepMapping s t m with
    | none => rw [List.filterMap_cons_none hsweep, Option.toList_none, List.flatMap_nil, List.nil_append]
    | some m' => simp [List.filterMap_cons_some hsweep]

/-- An open connection of a TCP mapping that its state allows to live is spared unless it is
established and the transitory timeout has passed. -/
lemma not_connExpired_iff {s : SrNat} {t : Time} {c : SrNatConnection} (hlive : s.live t c = true) :
    connExpired s t c = false ↔
      (c.state = .estab → t - c.lastUpdated ≤ s.tcpTransitoryTo.toNat) := by
  obtain ⟨hopen, hidle⟩ : c.state ≠ .closed ∧ t - c.lastUpdated ≤ s.idleLimit c := by
    simpa [SrNat.live] using hlive
  unfold SrNat.idleLimit at hidle
  by_cases hestab : c.state = .estab
  · rw [if_pos hestab] at hidle
    simp [connExpired, hestab, Int.not_lt.mpr hidle]
  · rw [if_neg hestab] at hidle
    simp [connExpired, hestab, hopen, hidle]

/-- **A sweep keeps the connections it should keep** exactly if no established connection of a TCP
mapping has been idle for longer than the transitory timeout but not than its own, and no mapping it
removes for being an old ICMP mapping has such connections. -/
theorem sweep_keepsLive {rt : List SrRt} {t : Time} {s s' : SrNat}
    {reported : List (SrNatUnsolPkt × SrRt)} (h : natTimeout rt t s = .ok (reported, s')) :
    KeepsLive t s s' ↔ ∀ m ∈ s.mappings, match m.type with
      | .natMappingTcp => ∀ c ∈ m.conns, c.state = .estab →
          s.tcpTransitoryTo.toNat < t - c.lastUpdated → s.tcpEstabIdleTo.toNat < t - c.lastUpdated
      | .natMappingIcmp => s.icmpQueryTo.toNat < t - m.lastUpdated →
          ∀ c ∈ m.conns, s.live t c = false := by
  rw [KeepsLive, connections_of_sweep h, SrNat.connections, filter_flatMap_filter_eq_iff]
  apply forall₂_congr
  intro m _
  unfold SrNat.spared
  cases m.type with
  | natMappingIcmp =>
    simp only [decide_eq_true_eq]
    constructor
    · intro hspared hold c hc
      by_contra hlive
      exact absurd (hspared c hc (Bool.not_eq_false _ ▸ hlive)) (Int.not_le.mpr hold)
    · intro hdead c hc hlive
      by_contra hold
      exact absurd (hdead (Int.not_le.mp hold) c hc) (Bool.not_eq_false _ ▸ hlive)
  | natMappingTcp =>
    apply forall₂_congr
    intro c _
    by_cases hlive : s.live t c = true
    · have hidle : t - c.lastUpdated ≤ s.idleLimit c := by
        have := hlive
        simp only [SrNat.live, decide_eq_true_eq] at this
        exact this.2
      simp only [hlive, forall_true_left, Bool.not_eq_true', not_connExpired_iff hlive]
      apply forall_congr'
      intro hestab
      rw [SrNat.idleLimit, if_pos hestab] at hidle
      constructor
      · intro hle hlt
        exact absurd hle (Int.not_le.mpr hlt)
      · intro hlt
        by_contra hle
        exact absurd (hlt (Int.not_le.mp hle)) (Int.not_lt.mpr hidle)
    · apply iff_of_true (fun h => absurd h hlive)
      intro hestab htrans
      by_contra hidle
      refine hlive ?_
      simp only [SrNat.live, SrNat.idleLimit, hestab, decide_eq_true_eq]
      exact ⟨by decide, Int.not_lt.mp hidle⟩

/-- An established connection, last used at time 0. -/
def establishedConnection : SrNatConnection := { synConnection with state := .estab }

/-- A state with one mapping, that has one established connection. -/
def establishedState : SrNat :=
  { synState with mappings := [{ synMapping with conns := [establishedConnection] }] }

/-- At the end of the transitory timeout the connection is still kept. -/
theorem sweep_keepsLive_established : ∃ s',
    natTimeout oneRoute.routingTable 300 establishedState = .ok ([], s') ∧
      KeepsLive 300 establishedState s' := by
  refine ⟨_, rfl, (@sweep_keepsLive oneRoute.routingTable _ _ _ [] rfl).mpr ?_⟩
  rintro m (_ | ⟨_, hm⟩)
  · rintro c (_ | ⟨_, hc⟩)
    · intro _ htrans
      exact absurd htrans (by decide)
    · exact absurd hc List.not_mem_nil
  · exact absurd hm List.not_mem_nil

/-- One second later it is removed, long before the established timeout. -/
theorem sweep_drops_established : ∃ s',
    natTimeout oneRoute.routingTable 301 establishedState = .ok ([], s') ∧
      ¬ KeepsLive 301 establishedState s' := by
  refine ⟨_, rfl, ?_⟩
  intro hkeeps
  exact absurd (congrArg List.length hkeeps) (by decide)

/-! ### ICMP mappings -/

/-- The uses of ICMP mappings so far: the node, and the time. -/
abbrev Uses := List (NodeId × Time)

/-- A use through the copy that a lookup returned, if that is an ICMP mapping. -/
def copyUse (now : Time) : Option SrNatMappingCopy → Uses
  | some mapping => if mapping.type = .natMappingIcmp then [(mapping.node, now)] else []
  | none => []

/-- The use that `nat_handle_icmp` makes of a mapping by a call at time `now`. -/
def icmpUse (now : Time) : (c : NatCall) → c.Result → Uses
  | .lookupExternal _ .natMappingIcmp, mapping => copyUse now mapping
  | .lookupInternal _ _ .natMappingIcmp, mapping => copyUse now mapping
  | .insertMapping _ _ .natMappingIcmp, mapping => copyUse now (some mapping)
  | _, _ => []

/-- The calls of the handlers, with a record of the uses of ICMP mappings. -/
def useSem : Sem NatCall NatCall.Result (SrNat × Uses) := fun c x r x' =>
  ∃ amb, natExec amb c x.1 = .ok (r, x'.1) ∧ x'.2 = x.2 ++ icmpUse amb.now c r

/-- A sweep uses no mapping. -/
def useEnv (x x' : SrNat × Uses) : Prop := natEnv x.1 x'.1 ∧ x'.2 = x.2

/-- A configuration of the system, with a record of the uses of ICMP mappings. -/
abbrev UseConf := Thread NatCall NatCall.Result Fault (ℤ × ByteMem) NatJob × SrNat × Uses

/-- Runs of the system, with a record of the uses of ICMP mappings. -/
abbrev UseSteps : UseConf → UseConf → Prop := Steps useSem useEnv natStart

/-- The mappings that have been used are ICMP mappings, and none of their nodes is used again for
another mapping. -/
structure UsesOk (x : SrNat × Uses) : Prop where
  /-- The table is well formed. -/
  heapOk : HeapOk x.1
  /-- A node that was used has been allocated. -/
  lt : ∀ use ∈ x.2, use.1 < x.1.nextNode
  /-- If it is still in the table, it is that of an ICMP mapping. -/
  icmp : ∀ use ∈ x.2, ∀ m ∈ x.1.mappings, m.node = use.1 → m.type = .natMappingIcmp

section Uses

variable {x x' : SrNat × Uses}

/-- What keeps the mappings, as far as they stay, keeps the uses of them. -/
lemma UsesOk.of_kept (h : UsesOk x) {s' : SrNat} (hkept : Kept SrNatMapping.bare x.1 s')
    (hheap : HeapOk s') : UsesOk (s', x.2) := by
  refine ⟨hheap, fun use huse => (h.lt use huse).trans_le hkept.nextNode_le, ?_⟩
  intro use huse m' hm' hnode
  obtain ⟨m, hm, hmnode, hbare⟩ := hkept.exists_mem m' hm' (hnode ▸ h.lt use huse)
  have htype := congrArg SrNatMapping.type hbare
  rw [SrNatMapping.bare_type, SrNatMapping.bare_type] at htype
  rw [← htype]
  exact h.icmp use huse m hm (hmnode.trans hnode)

/-- One more use, of a mapping of the table. -/
lemma UsesOk.use (h : UsesOk x) {m : SrNatMapping} (hm : m ∈ x.1.mappings) (now : Time) :
    UsesOk (x.1, x.2 ++ copyUse now (some m.copy)) := by
  unfold copyUse
  simp only
  split_ifs with htype
  · refine ⟨h.heapOk, ?_, ?_⟩
    · intro use huse
      rcases List.mem_append.mp huse with huse | huse
      · exact h.lt use huse
      · rw [List.mem_singleton.mp huse]
        exact h.heapOk.node_lt hm
    · intro use huse m' hm' hnode
      rcases List.mem_append.mp huse with huse | huse
      · exact h.icmp use huse m' hm' hnode
      · rw [List.mem_singleton.mp huse] at hnode
        exact h.heapOk.mapping_eq hm' hm hnode ▸ htype
  · rwa [List.append_nil]

/-- Every call keeps the record right. -/
lemma UsesOk.call (h : UsesOk x) {c : NatCall} {r : c.Result} (hcall : useSem c x r x') :
    UsesOk x' := by
  obtain ⟨amb, hexec, huses⟩ := hcall
  obtain ⟨s, uses⟩ := x
  obtain ⟨s', uses'⟩ := x'
  obtain rfl : uses' = _ := huses
  have hkept := h.of_kept (natSem_keptBare ⟨amb, hexec⟩) (natExec_heapOk h.heapOk hexec)
  have hnone : icmpUse amb.now c r = [] → UsesOk (s', uses ++ icmpUse amb.now c r) := by
    intro hnil
    rwa [hnil, List.append_nil]
  cases c with
  | lookupExternal auxExt type =>
    cases type with
    | natMappingTcp => exact hnone rfl
    | natMappingIcmp =>
      cases hexec
      cases hlookup : srNatLookupExternal s auxExt .natMappingIcmp with
      | none => exact hlookup ▸ hnone (by rw [hlookup]; rfl)
      | some mapping =>
        obtain ⟨m, hfind, rfl⟩ := Option.map_eq_some_iff.mp hlookup
        exact h.use (List.mem_of_find?_eq_some hfind) amb.now
  | lookupInternal ipInt auxInt type =>
    cases type with
    | natMappingTcp => exact hnone rfl
    | natMappingIcmp =>
      cases hexec
      cases hlookup : srNatLookupInternal s ipInt auxInt .natMappingIcmp with
      | none => exact hlookup ▸ hnone (by rw [hlookup]; rfl)
      | some mapping =>
        obtain ⟨m, hfind, rfl⟩ := Option.map_eq_some_iff.mp hlookup
        exact h.use (List.mem_of_find?_eq_some hfind) amb.now
  | insertMapping ipInt auxInt type =>
    cases type with
    | natMappingTcp => exact hnone rfl
    | natMappingIcmp =>
      cases hexec
      exact hkept.use (List.mem_cons_self ..) amb.now
  | insertConnection extPort p state => exact hnone rfl
  | updateConnection mapping p len direction => exact hnone rfl
  | insertUnsolicitedPacket p len => exact hnone rfl

/-- In every run the record is right. -/
lemma usesOk_of_steps {s₀ : SrNat} (hs₀ : IsInitial s₀) {c : UseConf}
    (h : UseSteps (.idle, s₀, []) c) : UsesOk c.2 := by
  have hinit : UsesOk (s₀, []) := ⟨HeapOk.initial hs₀, by simp, by simp⟩
  have hsem : ∀ c x r x', UsesOk x → useSem c x r x' → UsesOk x' :=
    fun c x r x' hx hcall => hx.call hcall
  have henv : ∀ x x', UsesOk x → useEnv x x' → UsesOk x' := by
    rintro x ⟨s', uses'⟩ hx ⟨he, rfl⟩
    exact hx.of_kept (natEnv_keptBare he) (natEnv_heapOk hx.heapOk he)
  exact (server_invariant_of_idle henv
    (fun j _ hx => Prog.always_of_preserved hsem henv (natStart j) hx) hinit h).1

/-- A run with the record is a run. -/
lemma UseSteps.steps {c c' : UseConf} (h : UseSteps c c') :
    NatSteps (c.1, c.2.1) (c'.1, c'.2.1) := by
  obtain ⟨s, hsteps, rfl⟩ := @Steps.simulate _ _ _ _ _ _ useSem useEnv natStart _ natSem natEnv
    (fun x s => s = x.1) (fun c x r x' s hc hs => ⟨x'.1, hs ▸ hc.imp fun _ h => h.1, rfl⟩)
    (fun x x' s he hs => ⟨x'.1, hs ▸ he.1, rfl⟩) _ _ h _ rfl
  exact hsteps

end Uses

/-- What a sweep does with an ICMP mapping. -/
lemma icmp_swept_iff {rt : List SrRt} {t : Time} {s s' : SrNat}
    {reported : List (SrNatUnsolPkt × SrRt)} (hs : HeapOk s)
    (h : natTimeout rt t s = .ok (reported, s')) {m : SrNatMapping} (hm : m ∈ s.mappings)
    (htype : m.type = .natMappingIcmp) :
    (∃ m' ∈ s'.mappings, m'.node = m.node) ↔ t - m.lastUpdated ≤ s.icmpQueryTo.toNat := by
  rw [(natTimeout_cases h).1]
  constructor
  · rintro ⟨m', hm', hnode⟩
    obtain ⟨m₁, hm₁, hsweep⟩ := List.mem_filterMap.mp hm'
    have hnode₁ := congrArg SrNatMapping.node (sweepMapping_bare hsweep)
    rw [SrNatMapping.bare_node, SrNatMapping.bare_node, hnode] at hnode₁
    obtain rfl := hs.mapping_eq hm₁ hm hnode₁.symm
    simp only [sweepMapping, htype] at hsweep
    split_ifs at hsweep with hold
    exact Int.not_lt.mp hold
  · intro hyoung
    refine ⟨m, List.mem_filterMap.mpr ⟨m, hm, ?_⟩, rfl⟩
    simp only [sweepMapping, htype, if_neg (Int.not_lt.mpr hyoung)]

/-- **A used ICMP mapping is kept for `icmp_query_to` seconds from its use** exactly if the use falls
no later than the making of the mapping, or if no sweep gets as far as the table because the
unsolicited list is broken. -/
theorem icmpMapping_kept_iff {s₀ : SrNat} (hs₀ : IsInitial s₀) {c : UseConf}
    (hrun : UseSteps (.idle, s₀, []) c) {m : SrNatMapping} (hm : m ∈ c.2.1.mappings) {t : Time}
    (huse : (m.node, t) ∈ c.2.2) :
    (∀ rt t' reported s', natTimeout rt t' c.2.1 = .ok (reported, s') →
        t' ≤ t + c.2.1.icmpQueryTo.toNat → ∃ m' ∈ s'.mappings, m'.node = m.node) ↔
      t ≤ m.lastUpdated ∨ c.2.1.unsolPkt = .dangling := by
  have hok : UsesOk c.2 := usesOk_of_steps hs₀ hrun
  have htype : m.type = .natMappingIcmp := hok.icmp _ huse m hm rfl
  constructor
  · intro hkept
    cases hunsol : c.2.1.unsolPkt with
    | dangling => exact .inr rfl
    | linked pkts =>
      left
      obtain ⟨reported, s', kept, hsweep, -⟩ := exists_natTimeout
        (List.cons_ne_nil outerRoute []) (t + c.2.1.icmpQueryTo.toNat) hunsol
      have hyoung := (icmp_swept_iff hok.heapOk hsweep hm htype).mp
        (hkept _ _ reported s' hsweep le_rfl)
      have hcancel : ∀ a b d : ℤ, a + d - b ≤ d → a ≤ b := by
        intro a b d h
        omega
      exact hcancel _ _ _ hyoung
  · rintro (hfresh | hdangling) rt t' reported s' hsweep ht'
    · have hbound : ∀ a b d e : ℤ, a ≤ b → e ≤ a + d → e - b ≤ d := by
        intro a b d e hab hed
        omega
      exact (icmp_swept_iff hok.heapOk hsweep hm htype).mpr (hbound _ _ _ _ hfresh ht')
    · simp only [natTimeout, hdangling] at hsweep
      cases hsweep

/-- An echo request of 10.0.0.1 with identifier 7 to 8.8.8.8. -/
def ping : ByteMem := icmpMessage 8 0x0a000001 0x08080808 7

/-- How an outgoing message with a route is handled. -/
lemma natIcmpOutbound_eq {cfg : NetConfig} {p : ByteMem} {o : ℕ} {lpm : SrRt} {ipInt : UInt32}
    {auxInt : UInt16} (hroute : srRtLookup cfg.routingTable (SrIpHdr.ipDst p) = .ok (some lpm))
    (hip : ntohl (SrIpHdr.ipSrc p) = ipInt) (haux : ntohs (SrIcmpHdr.identifier p o) = auxInt) :
    ∃ k, natIcmpOutbound cfg p o = .call (.lookupInternal ipInt auxInt .natMappingIcmp) k ∧
      k none = .call (.insertMapping ipInt auxInt .natMappingIcmp)
        (natIcmpTranslateSource cfg p o lpm) ∧
      ∀ mapping, k (some mapping) = natIcmpTranslateSource cfg p o lpm mapping := by
  subst hip haux
  simp only [natIcmpOutbound, hroute]
  exact ⟨_, rfl, rfl, fun _ => rfl⟩

/-- How the request is handled. -/
lemma natHandleIcmp_ping : ∃ k,
    natHandleIcmp oneRoute ping = .call (.lookupInternal 0x0a000001 7 .natMappingIcmp) k ∧
      k none = .call (.insertMapping 0x0a000001 7 .natMappingIcmp)
        (natIcmpTranslateSource oneRoute ping 20 outerRoute) ∧
      ∀ mapping, k (some mapping) = natIcmpTranslateSource oneRoute ping 20 outerRoute mapping := by
  have hsrc : srcPrivate ping := by
    rw [ping, srcPrivate_icmpMessage]
    decide
  have hdst : ¬ dstPrivate ping := by
    rw [ping, dstPrivate_icmpMessage]
    decide
  have hroute : srRtLookup oneRoute.routingTable (SrIpHdr.ipDst ping) = .ok (some outerRoute) := by
    rw [ping, ipDst_icmpMessage]
    exact hasRoute_oneRoute.lookup
  have hlen : ipHeaderLen ping = 20 := ipHeaderLen_icmpMessage ..
  rw [natHandleIcmp_outbound hsrc hdst, hlen]
  exact natIcmpOutbound_eq hroute (by rw [ping, ipSrc_icmpMessage, ntohl_htonl])
    (by rw [ping, identifier_icmpMessage, ntohs_htons])

/-- The request, of an endpoint that has no mapping. -/
lemma ping_runs_new {s : SrNat} (uses : Uses) (now : Time)
    (hlookup : srNatLookupInternal s 0x0a000001 7 .natMappingIcmp = none) :
    ∃ a, (natHandleIcmp oneRoute ping).Runs useSem (s, uses) a
      ((srNatInsertMapping s now 0x0a000001 7 .natMappingIcmp).2, uses ++ [(s.nextNode, now)]) := by
  have hsource := natIcmpTranslateSource_eq ping 20 hasRoute_oneRoute.interface
    (newMapping s now 0x0a000001 7 .natMappingIcmp).copy
  have hcall : useSem (.lookupInternal 0x0a000001 7 .natMappingIcmp) (s, uses) none (s, uses) :=
    ⟨⟨now, fun _ => 0⟩, congrArg (fun r => Except.ok (r, s)) hlookup, (List.append_nil _).symm⟩
  have hinsert : useSem (.insertMapping 0x0a000001 7 .natMappingIcmp) (s, uses)
      (newMapping s now 0x0a000001 7 .natMappingIcmp).copy
      ((srNatInsertMapping s now 0x0a000001 7 .natMappingIcmp).2, uses ++ [(s.nextNode, now)]) :=
    ⟨⟨now, fun _ => 0⟩, rfl, rfl⟩
  obtain ⟨k, hk, hnone, -⟩ := natHandleIcmp_ping
  refine ⟨(1, icmpSourced ping 20 outerInterface.ip
    (htons (toUint16 (findNextId s.bitmap).1))), ?_⟩
  rw [hk]
  refine .call hcall ?_
  rw [hnone]
  refine .call hinsert ?_
  rw [hsource]
  exact .ret _ _

/-- The request, of an endpoint that has an ICMP mapping. -/
lemma ping_runs_known {s : SrNat} (uses : Uses) (now : Time) {mapping : SrNatMappingCopy}
    (hlookup : srNatLookupInternal s 0x0a000001 7 .natMappingIcmp = some mapping) :
    ∃ a, (natHandleIcmp oneRoute ping).Runs useSem (s, uses) a
      (s, uses ++ copyUse now (some mapping)) := by
  have hcall : useSem (.lookupInternal 0x0a000001 7 .natMappingIcmp) (s, uses) (some mapping)
      (s, uses ++ copyUse now (some mapping)) :=
    ⟨⟨now, fun _ => 0⟩, congrArg (fun r => Except.ok (r, s)) hlookup, rfl⟩
  obtain ⟨k, hk, -, hsome⟩ := natHandleIcmp_ping
  refine ⟨(1, icmpSourced ping 20 outerInterface.ip (htons mapping.auxExt)), ?_⟩
  rw [hk]
  refine .call hcall ?_
  rw [hsome, natIcmpTranslateSource_eq ping 20 hasRoute_oneRoute.interface mapping]
  exact .ret _ _

/-- The state after the first request. -/
def pingState : SrNat := (srNatInsertMapping startState 0 0x0a000001 7 .natMappingIcmp).2

/-- The mapping of the first request. -/
def pingMapping : SrNatMapping := newMapping startState 0 0x0a000001 7 .natMappingIcmp

/-- The request is sent at time 0, and again at time 60. -/
lemma useSteps_ping : UseSteps (.idle, startState, []) (.idle, pingState, [(0, 0), (0, 60)]) := by
  obtain ⟨a, hfirst⟩ := @ping_runs_new startState [] 0 rfl
  obtain ⟨b, hsecond⟩ := @ping_runs_known pingState [(0, 0)] 60 pingMapping.copy rfl
  have hjob₁ : (natStart (.icmp oneRoute ping)).Runs useSem (startState, []) a
      (pingState, [(0, 0)]) := hfirst
  have hjob₂ : (natStart (.icmp oneRoute ping)).Runs useSem (pingState, [(0, 0)]) b
      (pingState, [(0, 0), (0, 60)]) := hsecond
  exact hjob₁.job.trans hjob₂.job

/-- At time 60, counted from its first use, the mapping is still there. -/
theorem icmpMapping_kept_ping : ∃ s', natTimeout oneRoute.routingTable 60 pingState = .ok ([], s') ∧
    ∃ m' ∈ s'.mappings, m'.node = pingMapping.node := by
  obtain ⟨s', hsweep⟩ : ∃ s', natTimeout oneRoute.routingTable 60 pingState = .ok ([], s') := ⟨_, rfl⟩
  have hkept := (icmpMapping_kept_iff isInitial_startState useSteps_ping
    (List.mem_cons_self (a := pingMapping)) (List.mem_cons_self (a := (0, 0)))).mpr (.inl le_rfl)
  exact ⟨s', hsweep, hkept _ _ _ _ hsweep (by decide)⟩

/-- One second after the second use the mapping is removed. -/
theorem icmpMapping_expires : UseSteps (.idle, startState, []) (.idle, pingState, [(0, 0), (0, 60)]) ∧
    pingMapping ∈ pingState.mappings ∧ pingMapping.node = 0 ∧
    ∃ s', natTimeout oneRoute.routingTable 61 pingState = .ok ([], s') ∧
      (61 : ℤ) ≤ 60 + pingState.icmpQueryTo.toNat ∧ s'.mappings = [] :=
  ⟨useSteps_ping, List.mem_cons_self .., rfl, _, rfl, by decide, rfl⟩

end NatRouter
