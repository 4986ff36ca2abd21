import NatRouter.Nat.Expiry

/-!
# What an idle NAT gives back

Every bit that is set in the bitmap is the external id of a mapping, in every run, even if the ids
have run out on the way (`idsHeld_of_steps`).  So no id is lost: once the NAT has been idle for longer
than its timeouts for ICMP queries and for transitory connections, one sweep leaves an empty table and
a bitmap without a set bit (`reclaimed`).  The timeout for established connections plays no part in it.
-/

namespace NatRouter

open ByteMemory PackedBits Interleaving

/-! ### Ids -/

/-- Every id that is marked is the id of a mapping. -/
def IdsHeld (s : SrNat) : Prop :=
  ∀ k, testBit s.bitmap k = true → ∃ m ∈ s.mappings, m.auxExt.toNat = k

namespace IdsHeld

variable {s s' : SrNat}

/-- The empty table. -/
lemma initial (h : IsInitial s) : IdsHeld s := by
  obtain ⟨icmpTo, estabTo, transTo, unsol, rfl⟩ := h
  intro k hk
  rw [srNatInit, testBit_replicate_zero] at hk
  cases hk

/-- It does not depend on the connections. -/
lemma of_sameTable (h : IdsHeld s) (ht : SameTable s s') : IdsHeld s' := by
  intro k hk
  rw [ht.bitmap] at hk
  obtain ⟨m, hm, hid⟩ := h k hk
  obtain ⟨m', hm', hbare⟩ := ht.exists_mem' hm
  exact ⟨m', hm', by rw [← m'.bare_auxExt, hbare, m.bare_auxExt, hid]⟩

/-- A new mapping has the id that was marked for it, if there was one. -/
lemma insertMapping (h : IdsHeld s) (now : Time) (ipInt : UInt32) (auxInt : UInt16)
    (type : SrNatMappingType) : IdsHeld (srNatInsertMapping s now ipInt auxInt type).2 := by
  have hold : ∀ k, testBit s.bitmap k = true →
      ∃ m ∈ newMapping s now ipInt auxInt type :: s.mappings, m.auxExt.toNat = k := by
    intro k hk
    obtain ⟨m, hm, hid⟩ := h k hk
    exact ⟨m, List.mem_cons_of_mem _ hm, hid⟩
  intro k hk
  by_cases hleft : (findNextId s.bitmap).1 = -1
  · -- no id is left, and no bit is set
    refine hold k ?_
    rcases findNextId_cases s.bitmap with ⟨j, -, hfind⟩ | ⟨-, hfind⟩
    · rw [hfind] at hleft
      exact absurd hleft (by omega)
    · rw [srNatInsertMapping, hfind] at hk
      exact hk
  · obtain ⟨j, ⟨-, hhi, -⟩, hfind⟩ := exists_of_findNextId_ne hleft
    have hnew : (newMapping s now ipInt auxInt type).auxExt.toNat = j := by
      simp only [newMapping, hfind]
      exact toNat_toUint16 hhi
    have hbits : testBit (setBit s.bitmap j) k = true := by
      rw [srNatInsertMapping, hfind] at hk
      exact hk
    rw [testBit_setBit _ (show j < 2048 * 32 from hhi), Bool.or_eq_true, decide_eq_true_eq] at hbits
    rcases hbits with rfl | hbit
    · exact ⟨_, List.mem_cons_self, hnew⟩
    · exact hold k hbit

/-- A sweep clears the bits of the mappings that it removes. -/
lemma sweep (h : IdsHeld s) (he : natEnv s s') : IdsHeld s' := by
  obtain ⟨rt, t, reported, he⟩ := he
  obtain ⟨hmap, hbitmap, -⟩ := natTimeout_cases he
  intro k hk
  rw [hbitmap, testBit_sweepMappings_snd] at hk
  obtain ⟨m, hm, hid⟩ := h k hk.1
  cases hsweep : sweepMapping s t m with
  | none => exact absurd hid (hk.2 m hm hsweep)
  | some m' =>
    refine ⟨m', hmap ▸ List.mem_filterMap.mpr ⟨m, hm, hsweep⟩, ?_⟩
    rw [← m'.bare_auxExt, sweepMapping_bare hsweep, m.bare_auxExt, hid]

/-- A call keeps it, whether an id is left or not. -/
lemma call (h : IdsHeld s) {amb : Ambient} {c : NatCall} {r : c.Result}
    (hexec : natExec amb c s = .ok (r, s')) : IdsHeld s' := by
  rcases natExec_cases hexec with ht | ⟨ipInt, auxInt, type, rfl, rfl⟩
  · exact h.of_sameTable ht
  · exact h.insertMapping amb.now ipInt auxInt type

end IdsHeld

/-! ### Times -/

/-- No mapping and no connection was used after a time. -/
structure IdleSince (T : Time) (s : SrNat) : Prop where
  /-- The mappings. -/
  mappings : ∀ m ∈ s.mappings, m.lastUpdated ≤ T
  /-- The connections. -/
  conns : ∀ m ∈ s.mappings, ∀ c ∈ m.conns, c.lastUpdated ≤ T

/-- The calls that are made up to a time. -/
abbrev natSemUntil (T : Time) : Sem NatCall NatCall.Result SrNat :=
  Sem.ofExecWhere (fun amb => amb.now ≤ T) natExec

/-- The runs in which packets are handled up to a time. -/
abbrev NatStepsUntil (T : Time) : NatConf → NatConf → Prop := Steps (natSemUntil T) natEnv natStart

section Times

variable {s s' : SrNat} {m' : SrNatMapping} {d : SrNatConnection}

/-- A connection after `sr_nat_insert_connection` was there before, or it is new. -/
lemma srNatInsertConnection_conns {now : Time} {extPort : UInt16} {p : ByteMem}
    {state : SrTcpStateType} {r : Option SrNatConnection}
    (h : srNatInsertConnection s now extPort p state = .ok (r, s')) (hm' : m' ∈ s'.mappings)
    (hd : d ∈ m'.conns) : d.lastUpdated = now ∨ ∃ m ∈ s.mappings, d ∈ m.conns := by
  unfold srNatInsertConnection at h
  split at h
  · cases h
    exact .inr ⟨m', hm', hd⟩
  · split at h
    · cases h
    · cases h
      obtain ⟨m, hm, rfl⟩ := List.mem_map.mp hm'
      split at hd
      · rcases List.mem_cons.mp hd with rfl | hold
        · exact .inl rfl
        · exact .inr ⟨m, hm, hold⟩
      · exact .inr ⟨m, hm, hd⟩

/-- A connection after `sr_nat_update_connection` was there before, or it is the one updated. -/
lemma srNatUpdateConnection_conns {amb : Ambient} {mapping : SrNatMappingCopy} {p : ByteMem}
    {len : UInt32} {direction : Direction} {r : Option SrNatConnection}
    (h : srNatUpdateConnection s amb mapping p len direction = .ok (r, s'))
    (hm' : m' ∈ s'.mappings) (hd : d ∈ m'.conns) :
    d.lastUpdated = amb.now ∨ ∃ m ∈ s.mappings, d ∈ m.conns := by
  unfold srNatUpdateConnection at h
  simp only at h
  split at h
  · cases h
  · split at h
    · cases h
      obtain ⟨m, hm, rfl⟩ := List.mem_map.mp hm'
      obtain ⟨c, hc, rfl⟩ := List.mem_map.mp hd
      split
      · exact .inl rfl
      · exact .inr ⟨m, hm, hc⟩
    · split at h
      · cases h
      · cases h
        exact .inr ⟨m', hm', hd⟩

/-- The connections after a call were there before it, or the call has given them its time. -/
lemma natExec_conns {amb : Ambient} {c : NatCall} {r : c.Result}
    (h : natExec amb c s = .ok (r, s')) (hm' : m' ∈ s'.mappings) (hd : d ∈ m'.conns) :
    d.lastUpdated = amb.now ∨ ∃ m ∈ s.mappings, d ∈ m.conns := by
  cases c with
  | lookupExternal auxExt type =>
    cases h
    exact .inr ⟨m', hm', hd⟩
  | lookupInternal ipInt auxInt type =>
    cases h
    exact .inr ⟨m', hm', hd⟩
  | insertMapping ipInt auxInt type =>
    cases h
    rcases List.mem_cons.mp hm' with rfl | hold
    · cases hd
    · exact .inr ⟨m', hold, hd⟩
  | insertConnection extPort p state => exact srNatInsertConnection_conns h hm' hd
  | updateConnection mapping p len direction => exact srNatUpdateConnection_conns h hm' hd
  | insertUnsolicitedPacket p len =>
    simp only [natExec] at h
    split at h
    · cases h
    · cases h
      exact .inr ⟨m', hm', hd⟩

end Times

namespace IdleSince

variable {s s' : SrNat} {T : Time}

/-- The empty table. -/
lemma initial (h : IsInitial s) : IdleSince T s := by
  obtain ⟨icmpTo, estabTo, transTo, unsol, rfl⟩ := h
  constructor <;> intro m hm <;> cases hm

/-- A call that is made up to that time keeps it. -/
lemma call (h : IdleSince T s) {amb : Ambient} (hnow : amb.now ≤ T) {c : NatCall} {r : c.Result}
    (hexec : natExec amb c s = .ok (r, s')) : IdleSince T s' where
  mappings m' hm' := by
    rcases natExec_cases hexec with ht | ⟨ipInt, auxInt, type, rfl, rfl⟩
    · obtain ⟨m, hm, hbare⟩ := ht.exists_mem hm'
      have htime : m.bare.lastUpdated = m'.bare.lastUpdated := congrArg _ hbare
      exact htime ▸ h.mappings m hm
    · rcases List.mem_cons.mp hm' with rfl | hold
      · exact hnow
      · exact h.mappings m' hold
  conns m' hm' d hd := by
    rcases natExec_conns hexec hm' hd with htime | ⟨m, hm, hold⟩
    · exact htime ▸ hnow
    · exact h.conns m hm d hold

/-- A sweep only removes. -/
lemma sweep (h : IdleSince T s) (he : natEnv s s') : IdleSince T s' := by
  obtain ⟨rt, t, reported, he⟩ := he
  have hkept : ∀ m' ∈ s'.mappings, ∃ m ∈ s.mappings, sweepMapping s t m = some m' := by
    intro m' hm'
    rw [(natTimeout_cases he).1] at hm'
    exact List.mem_filterMap.mp hm'
  constructor
  · intro m' hm'
    obtain ⟨m, hm, hsweep⟩ := hkept m' hm'
    have htime : m.bare.lastUpdated = m'.bare.lastUpdated := congrArg _ (sweepMapping_bare hsweep).symm
    exact htime ▸ h.mappings m hm
  · intro m' hm' d hd
    obtain ⟨m, hm, hsweep⟩ := hkept m' hm'
    refine h.conns m hm d ?_
    rcases sweepMapping_conns hsweep with ⟨-, hsame⟩ | ⟨-, hsame, -⟩
    · exact hsame ▸ hd
    · rw [hsame] at hd
      exact List.mem_of_mem_filter hd

/-- A sweep that is made later than the timeouts allow removes every mapping. -/
lemma sweepMapping_eq_none (h : IdleSince T s) {t : Time}
    (hicmp : (s.icmpQueryTo.toNat : ℤ) < t - T) (htcp : (s.tcpTransitoryTo.toNat : ℤ) < t - T)
    {m : SrNatMapping} (hm : m ∈ s.mappings) : sweepMapping s t m = none := by
  unfold sweepMapping
  split
  · exact if_pos (hicmp.trans_le (sub_le_sub_left (h.mappings m hm) t))
  · have hempty : sweepConns s t m.conns = [] := by
      apply List.filter_eq_nil_iff.mpr
      intro c hc
      have hidle := htcp.trans_le (sub_le_sub_left (h.conns m hm c hc) t)
      -- whatever its state, the last of the three tests finds it expired
      have hexpired : connExpired s t c = true := by
        unfold connExpired
        split_ifs <;> rfl
      simp [hexpired]
    rw [hempty]

end IdleSince

/-! ### All runs -/

section Runs

variable {s₀ : SrNat} {c : NatConf} {T : Time}

/-- **No id is lost**, in any run. -/
lemma idsHeld_of_steps (hs₀ : IsInitial s₀) (h : NatSteps (.idle, s₀) c) : IdsHeld c.2 :=
  natInvariant (fun _ _ _ _ hI ⟨_, hexec⟩ => hI.call hexec) (fun _ _ hI he => hI.sweep he)
    (.initial hs₀) h

/-- A run in which packets are handled up to a time. -/
lemma idleSince_of_steps (hs₀ : IsInitial s₀) (h : NatStepsUntil T (.idle, s₀) c) :
    IdleSince T c.2 :=
  natInvariant (fun _ _ _ _ hI ⟨_, hnow, hexec⟩ => hI.call hnow hexec)
    (fun _ _ hI he => hI.sweep he) (.initial hs₀) h

/-- Such a run is a run. -/
lemma NatStepsUntil.steps {c' : NatConf} (h : NatStepsUntil T c c') : NatSteps c c' := by
  obtain ⟨s, hsteps, rfl⟩ := @Steps.simulate _ _ _ _ _ _ (natSemUntil T) natEnv natStart _ natSem
    natEnv (fun s t => t = s) (fun c s r s' t ⟨amb, _, hc⟩ ht => ⟨s', ht ▸ ⟨amb, hc⟩, rfl⟩)
    (fun s s' t he ht => ⟨s', ht ▸ he, rfl⟩) _ _ h _ rfl
  exact hsteps

/-- **An idle NAT gives back everything**: in any run in which packets are handled up to a time, a
sweep that is made later than the timeouts for ICMP queries and for transitory connections allow
leaves no mapping and no marked id, also if the ids ran out in the run. -/
theorem reclaimed (hs₀ : IsInitial s₀) (h : NatStepsUntil T (.idle, s₀) c) {rt : List SrRt} {t : Time}
    {reported : List (SrNatUnsolPkt × SrRt)} {s' : SrNat}
    (hsweep : natTimeout rt t c.2 = .ok (reported, s'))
    (hicmp : (c.2.icmpQueryTo.toNat : ℤ) < t - T) (htcp : (c.2.tcpTransitoryTo.toNat : ℤ) < t - T) :
    s'.mappings = [] ∧ s'.bitmap = Vector.replicate 2048 0#32 := by
  have hidle := idleSince_of_steps hs₀ h
  have hempty : s'.mappings = [] := by
    rw [(natTimeout_cases hsweep).1]
    apply List.filterMap_eq_nil_iff.mpr
    exact fun m hm => hidle.sweepMapping_eq_none hicmp htcp hm
  refine ⟨hempty, ?_⟩
  have hheld : IdsHeld s' := (idsHeld_of_steps hs₀ h.steps).sweep ⟨rt, t, reported, hsweep⟩
  refine eq_of_testBit fun k _ => ?_
  rw [testBit_replicate_zero, Bool.eq_false_iff]
  intro hset
  obtain ⟨m, hm, -⟩ := hheld k hset
  rw [hempty] at hm
  cases hm

/-- After an echo request at time 0, at time 301. -/
theorem reclaimed_ping : pingMapping ∈ pingState.mappings ∧
    ∃ s', natTimeout oneRoute.routingTable 301 pingState = .ok ([], s') ∧
      s'.mappings = [] ∧ s'.bitmap = Vector.replicate 2048 0#32 := by
  obtain ⟨a, hrun⟩ := @echoRequest_run startState 0x0a000001 7 (by decide) rfl
  have hruns := Prog.runs_of_run_where (W := fun amb => amb.now ≤ 0) (fun _ => le_rfl) hrun
  have hsteps : NatStepsUntil 0 (.idle, startState) (.idle, pingState) :=
    Prog.Runs.job (j := NatJob.icmp oneRoute (icmpMessage 8 0x0a000001 0x08080808 7)) hruns
  obtain ⟨s', hsweep⟩ : ∃ s', natTimeout oneRoute.routingTable 301 pingState = .ok ([], s') :=
    ⟨_, rfl⟩
  exact ⟨List.mem_cons_self, s', hsweep,
    reclaimed isInitial_startState hsteps hsweep (by decide) (by decide)⟩

end Runs

end NatRouter
