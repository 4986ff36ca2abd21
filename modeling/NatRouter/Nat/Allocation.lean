import Mathlib.Data.Finset.Card
import Mathlib.Data.Fintype.Card
import Mathlib.Order.Interval.Finset.Nat
import NatRouter.Nat.Execution

/-!
# Allocation of external ids

`IdsExact` ties the bitmap to the table: the external ids in use are pairwise distinct, none is
below `DEFAULT_ID`, and the set bits of the bitmap are exactly the ids in use.  Every call and every
sweep keeps this as long as `find_next_id` finds a free id (`externalIds_exclusive`).

When it finds none, its result -1 is stored as 65535 in the new mapping all the same, and that id is
in use already.  More internal endpoints than ids are enough for it (`externalIds_exhausted`).
-/

namespace NatRouter

open ByteMemory PackedBits Interleaving Relation

/-- The external ids of the table are allocated exclusively. -/
structure IdsExact (s : SrNat) : Prop where
  /-- No two mappings share an external id. -/
  nodup : (s.mappings.map SrNatMapping.auxExt).Nodup
  /-- The ids are taken from `DEFAULT_ID` on. -/
  mem_Icc : ∀ m ∈ s.mappings, m.auxExt.toNat ∈ Set.Icc 1024 65535
  /-- The bitmap marks the ids in use. -/
  testBit_iff : ∀ k, testBit s.bitmap k = true ↔ ∃ m ∈ s.mappings, m.auxExt.toNat = k

/-! ### The invariant -/

namespace IdsExact

variable {s s' : SrNat}

/-- The empty table. -/
lemma initial (h : IsInitial s) : IdsExact s := by
  obtain ⟨icmpTo, estabTo, transTo, unsol, rfl⟩ := h
  exact ⟨List.nodup_nil, fun m hm => absurd hm List.not_mem_nil,
    fun k => by simp [srNatInit, testBit_replicate_zero]⟩

/-- Two entries with the same external id are the same. -/
lemma eq_of_auxExt_eq (h : IdsExact s) {m m' : SrNatMapping} (hm : m ∈ s.mappings)
    (hm' : m' ∈ s.mappings) (hid : m.auxExt = m'.auxExt) : m = m' :=
  List.inj_on_of_nodup_map h.nodup hm hm' hid

/-- The invariant does not depend on the connections. -/
lemma of_sameTable (h : IdsExact s) (ht : SameTable s s') : IdsExact s' := by
  refine ⟨?_, ?_, ?_⟩
  · rw [ht.map_eq SrNatMapping.auxExt fun _ => rfl]
    exact h.nodup
  · intro m' hm'
    obtain ⟨m, hm, hbare⟩ := ht.exists_mem hm'
    rw [← m'.bare_auxExt, ← hbare, m.bare_auxExt]
    exact h.mem_Icc m hm
  · intro k
    rw [ht.bitmap, h.testBit_iff k]
    constructor
    · rintro ⟨m, hm, hk⟩
      obtain ⟨m', hm', hbare⟩ := ht.exists_mem' hm
      exact ⟨m', hm', by rw [← m'.bare_auxExt, hbare, m.bare_auxExt, hk]⟩
    · rintro ⟨m', hm', hk⟩
      obtain ⟨m, hm, hbare⟩ := ht.exists_mem hm'
      exact ⟨m, hm, by rw [← m.bare_auxExt, hbare, m'.bare_auxExt, hk]⟩

/-- An insertion that finds a free id keeps the invariant. -/
lemma insertMapping (h : IdsExact s) (now : Time) (ipInt : UInt32) (auxInt : UInt16)
    (type : SrNatMappingType) (hleft : (findNextId s.bitmap).1 ≠ -1) :
    IdsExact (srNatInsertMapping s now ipInt auxInt type).2 := by
  obtain ⟨k, ⟨hlo, hhi, hclear, -⟩, hfind⟩ := exists_of_findNextId_ne hleft
  have hnew : (newMapping s now ipInt auxInt type).auxExt.toNat = k := by
    simp only [newMapping, hfind]
    exact toNat_toUint16 hhi
  have hfree : ∀ m ∈ s.mappings, m.auxExt.toNat ≠ k := by
    intro m hm hk
    rw [(h.testBit_iff k).mpr ⟨m, hm, hk⟩] at hclear
    cases hclear
  refine ⟨?_, ?_, ?_⟩
  · refine List.nodup_cons.mpr ⟨fun hmem => ?_, h.nodup⟩
    obtain ⟨m, hm, hid⟩ := List.mem_map.mp hmem
    exact hfree m hm (by rw [hid, hnew])
  · rintro m (_ | ⟨_, hm⟩)
    · rw [hnew]
      exact ⟨hlo, by omega⟩
    · exact h.mem_Icc m hm
  · intro j
    simp only [srNatInsertMapping, hfind, testBit_setBit _ (show k < 2048 * 32 from hhi),
      Bool.or_eq_true, decide_eq_true_eq, List.mem_cons, exists_eq_or_imp, hnew, h.testBit_iff j]
    rw [eq_comm]

/-- An insertion that finds no free id breaks the invariant: all ids are in use, 65535 too. -/
lemma not_insertMapping (h : IdsExact s) (now : Time) (ipInt : UInt32) (auxInt : UInt16)
    (type : SrNatMappingType) (hfull : (findNextId s.bitmap).1 = -1) :
    ¬ IdsExact (srNatInsertMapping s now ipInt auxInt type).2 := by
  intro h'
  have hset : testBit s.bitmap 65535 = true := by
    by_contra hclear
    exact findNextId_ne_of_clear (by omega) (by omega) (Bool.not_eq_true _ ▸ hclear) hfull
  obtain ⟨m, hm, hid⟩ := (h.testBit_iff 65535).mp hset
  have hnew : (newMapping s now ipInt auxInt type).auxExt = 65535 := by
    simp only [newMapping, hfull]
    decide
  have hmem : (newMapping s now ipInt auxInt type).auxExt ∈ s.mappings.map SrNatMapping.auxExt := by
    rw [hnew, show (65535 : UInt16) = m.auxExt from UInt16.toNat_inj.mp hid.symm]
    exact List.mem_map_of_mem hm
  exact (List.nodup_cons.mp h'.nodup).1 hmem

/-- A sweep keeps the invariant: with distinct ids, the bits it clears are those of the mappings it
removes. -/
lemma sweep (h : IdsExact s) (he : natEnv s s') : IdsExact s' := by
  obtain ⟨rt, t, reported, he⟩ := he
  obtain ⟨hmap, hbitmap, -⟩ := natTimeout_cases he
  have hid : ∀ {m m'}, sweepMapping s t m = some m' → m'.auxExt = m.auxExt := by
    intro m m' hm
    rw [← m'.bare_auxExt, sweepMapping_bare hm, m.bare_auxExt]
  refine ⟨?_, ?_, ?_⟩
  · rw [hmap]
    exact h.nodup.sublist (map_filterMap_sweepMapping_sublist s t _ _ fun _ => rfl)
  · intro m' hm'
    obtain ⟨m, hm, hsweep⟩ := List.mem_filterMap.mp (hmap ▸ hm')
    rw [hid hsweep]
    exact h.mem_Icc m hm
  · intro k
    rw [hbitmap, testBit_sweepMappings_snd, h.testBit_iff k, hmap]
    constructor
    · rintro ⟨⟨m, hm, hk⟩, hkept⟩
      cases hsweep : sweepMapping s t m with
      | none => exact absurd hk (hkept m hm hsweep)
      | some m' => exact ⟨m', List.mem_filterMap.mpr ⟨m, hm, hsweep⟩, by rw [hid hsweep, hk]⟩
    · rintro ⟨m', hm', hk⟩
      obtain ⟨m, hm, hsweep⟩ := List.mem_filterMap.mp hm'
      rw [hid hsweep] at hk
      refine ⟨⟨m, hm, hk⟩, ?_⟩
      intro x hx hremoved hxk
      have hxm : x = m := h.eq_of_auxExt_eq hx hm (UInt16.toNat_inj.mp (hxk.trans hk.symm))
      rw [hxm, hsweep] at hremoved
      cases hremoved

/-- A call that does not run out of ids keeps the invariant. -/
lemma call (h : IdsExact s) {c : NatCall} {r : c.Result} (hc : natSemIdLeft c s r s') :
    IdsExact s' := by
  obtain ⟨hleft, amb, hexec⟩ := hc
  rcases natExec_cases hexec with ht | ⟨ipInt, auxInt, type, rfl, rfl⟩
  · exact h.of_sameTable ht
  · exact h.insertMapping amb.now ipInt auxInt type hleft

end IdsExact

/-- The invariant holds all along a run in which every new mapping finds a free id. -/
lemma idsExact_of_steps {s : SrNat} (hs : IsInitial s) {c : NatConf}
    (h : NatStepsIdLeft (.idle, s) c) : IdsExact c.2 :=
  natInvariant (fun _ _ _ _ hI hc => hI.call hc) (fun _ _ hI he => hI.sweep he)
    (IdsExact.initial hs) h

/-! ### Exhaustion -/

/-- At most 64512 ids can be in use. -/
lemma IdsExact.length_le {s : SrNat} (h : IdsExact s) : s.mappings.length ≤ 64512 := by
  have hnodup : (s.mappings.map fun m => m.auxExt.toNat).Nodup := by
    have := h.nodup.map (f := UInt16.toNat) fun _ _ => UInt16.toNat_inj.mp
    rwa [List.map_map] at this
  have hsub : (s.mappings.map fun m => m.auxExt.toNat).toFinset ⊆ Finset.Icc 1024 65535 := by
    intro k hk
    obtain ⟨m, hm, rfl⟩ := List.mem_map.mp (List.mem_toFinset.mp hk)
    exact Finset.mem_Icc.mpr (h.mem_Icc m hm)
  have hcard := Finset.card_le_card hsub
  rw [List.toFinset_card_of_nodup hnodup, List.length_map, Nat.card_Icc] at hcard
  exact hcard

/-- While there are fewer mappings a free id is found. -/
lemma IdsExact.findNextId_ne {s : SrNat} (h : IdsExact s) (hlt : s.mappings.length < 64512) :
    (findNextId s.bitmap).1 ≠ -1 := by
  intro hfull
  have hsub : Finset.Icc 1024 65535 ⊆ (s.mappings.map fun m => m.auxExt.toNat).toFinset := by
    intro k hk
    obtain ⟨hlo, hhi⟩ := Finset.mem_Icc.mp hk
    have hset : testBit s.bitmap k = true := by
      by_contra hclear
      exact findNextId_ne_of_clear hlo (by omega) (Bool.not_eq_true _ ▸ hclear) hfull
    obtain ⟨m, hm, hid⟩ := (h.testBit_iff k).mp hset
    exact List.mem_toFinset.mpr (List.mem_map.mpr ⟨m, hm, hid⟩)
  have hcard := (Finset.card_le_card hsub).trans (List.toFinset_card_le _)
  rw [List.length_map, Nat.card_Icc] at hcard
  omega

/-- The echo request from 10.0.0.1 with identifier `n`, sent to 8.8.8.8. -/
def nthRequest (n : ℕ) : ByteMem := icmpMessage 8 0x0a000001 0x08080808 (UInt16.ofNat n)

/-- The handling of the `n`-th request makes a new mapping if all endpoints in the table have smaller
identifiers. -/
lemma nthRequest_runs {s : SrNat} {n : ℕ} (hn : n < 65536)
    (hs : ∀ m ∈ s.mappings, m.auxInt.toNat < n) :
    ∃ a, (natHandleIcmp oneRoute (nthRequest n)).Runs natSem s a
      (srNatInsertMapping s 0 0x0a000001 (UInt16.ofNat n) .natMappingIcmp).2 := by
  refine echoRequest_runs (by decide) (Option.map_eq_none_iff.mpr (List.find?_eq_none.mpr ?_))
  intro m hm
  have hlt := hs m hm
  have hne : m.auxInt ≠ UInt16.ofNat n := by
    rintro heq
    rw [heq, UInt16.toNat_ofNat_of_lt' hn] at hlt
    exact Nat.lt_irrefl n hlt
  simp [hne]

/-- After `n` requests there are `n` mappings. -/
lemma exists_run_of_requests (s₀ : SrNat) (hs₀ : s₀.mappings = []) {n : ℕ} (hn : n ≤ 65536) :
    ∃ s, ReflTransGen (SeqStep natSem) s₀ s ∧ s.mappings.length = n ∧
      ∀ m ∈ s.mappings, m.auxInt.toNat < n := by
  induction n with
  | zero => exact ⟨s₀, .refl, by simp [hs₀]⟩
  | succ n ih =>
    obtain ⟨s, hrun, hlength, hlt⟩ := ih (by omega)
    obtain ⟨a, hstep⟩ := nthRequest_runs (by omega) hlt
    refine ⟨_, hrun.tail (.handle (.icmp oneRoute (nthRequest n)) hstep), ?_, ?_⟩
    · simp [srNatInsertMapping, hlength]
    · rintro m (_ | ⟨_, hm⟩)
      · exact (UInt16.toNat_ofNat_of_lt' (show n < 65536 by omega)).le.trans_lt (Nat.lt_succ_self n)
      · exact (hlt m hm).trans (Nat.lt_succ_self n)

/-- **External ids are allocated exclusively** in every configuration of a run in which every new
mapping finds a free id, and a further call keeps this up exactly if it does not run out of ids. -/
theorem externalIds_exclusive {s₀ : SrNat} (hs₀ : IsInitial s₀) {c : NatConf}
    (h : NatStepsIdLeft (.idle, s₀) c) :
    IdsExact c.2 ∧ ∀ call r s', natSem call c.2 r s' → (IdsExact s' ↔ IdLeft call c.2) := by
  have hids : IdsExact c.2 := idsExact_of_steps hs₀ h
  refine ⟨hids, fun call r s' hcall => ⟨fun hs' => ?_, fun hleft => hids.call ⟨hleft, hcall⟩⟩⟩
  cases call with
  | insertMapping ipInt auxInt type =>
    obtain ⟨now, hins⟩ := natSem_insertMapping hcall
    intro hfull
    refine hids.not_insertMapping now ipInt auxInt type hfull ?_
    rwa [hins]
  | _ => trivial

/-- Up to 64512 requests find a free id each. -/
lemma exists_idLeft_run_of_requests {n : ℕ} (hn : n ≤ 64512) :
    ∃ s, NatStepsIdLeft (.idle, startState) (.idle, s) ∧ s.mappings.length = n ∧
      ∀ m ∈ s.mappings, m.auxInt.toNat < n := by
  induction n with
  | zero => exact ⟨startState, .refl, rfl, fun m hm => absurd hm List.not_mem_nil⟩
  | succ n ih =>
    obtain ⟨s, hsteps, hlength, hlt⟩ := ih (by omega)
    obtain ⟨a, hrun⟩ := nthRequest_runs (by omega) hlt
    have hleft := (idsExact_of_steps isInitial_startState hsteps).findNextId_ne
      (show s.mappings.length < 64512 by omega)
    have hjob : (natStart (.icmp oneRoute (nthRequest n))).Runs natSemIdLeft s a _ :=
      natStart_runs_idLeft hleft hrun
    refine ⟨_, hsteps.trans hjob.job, ?_, ?_⟩
    · simp [srNatInsertMapping, hlength]
    · rintro m (_ | ⟨_, hm⟩)
      · exact (UInt16.toNat_ofNat_of_lt' (show n < 65536 by omega)).le.trans_lt (Nat.lt_succ_self n)
      · exact (hlt m hm).trans (Nat.lt_succ_self n)

/-- With all ids in use. -/
theorem externalIds_exclusive_full : ∃ c : NatConf,
    NatStepsIdLeft (.idle, startState) c ∧ c.2.mappings.length = 64512 ∧ IdsExact c.2 ∧
      ∀ call r s', natSem call c.2 r s' → (IdsExact s' ↔ IdLeft call c.2) := by
  obtain ⟨s, hsteps, hlength, -⟩ := exists_idLeft_run_of_requests (le_refl 64512)
  obtain ⟨hexact, hcalls⟩ := externalIds_exclusive isInitial_startState hsteps
  exact ⟨(.idle, s), hsteps, hlength, hexact, hcalls⟩

/-- **The ids run out**: 64513 endpoints that ask for a mapping get one each, so two of them share an
external id. -/
theorem externalIds_exhausted : ∃ s₀ c, IsInitial s₀ ∧ NatSteps (.idle, s₀) c ∧ ¬ IdsExact c.2 := by
  obtain ⟨s, hrun, hlength, -⟩ := exists_run_of_requests startState rfl
    (show 64513 ≤ 65536 by omega)
  refine ⟨_, (.idle, s), isInitial_startState, SeqStep.steps hrun, ?_⟩
  intro h
  have hle : s.mappings.length ≤ 64512 := h.length_le
  omega

end NatRouter
