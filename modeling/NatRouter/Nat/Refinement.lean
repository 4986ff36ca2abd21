import NatRouter.Nat.Allocation
import NatRouter.Nat.Endpoints

/-!
# The table as an allocator of ids

What the table is there for is to bind internal endpoints to external ids, one to one: `bindings` is
the partial bijection that it stands for.  As long as there are external ids left, the NAT refines the
abstract allocator `Binding.Step`, state by state (`bindings_refine`): a step of a run, be it a call of
a handler or a sweep, binds an endpoint that has no id to an id that has no endpoint, or releases
bindings, and only a sweep does the latter.  So an endpoint that stays in the table keeps its id
(`boundId_stable`).
-/

namespace NatRouter

open Interleaving Relation KeyedList

/-- A table that binds endpoints to ids one to one. -/
structure IsBinding (s : SrNat) : Prop where
  /-- No endpoint has two mappings. -/
  keys : (s.mappings.map SrNatMapping.key).Nodup
  /-- No id has two mappings. -/
  ids : (s.mappings.map SrNatMapping.auxExt).Nodup

instance (s : SrNat) : Decidable (IsBinding s) :=
  decidable_of_iff ((s.mappings.map SrNatMapping.key).Nodup ∧
    (s.mappings.map SrNatMapping.auxExt).Nodup) ⟨fun h => ⟨h.1, h.2⟩, fun h => ⟨h.1, h.2⟩⟩

/-- The binding that a table stands for, and none if it is not one to one. -/
def bindings (s : SrNat) : UInt32 × UInt16 ≃. UInt16 :=
  if h : IsBinding s then toPEquiv SrNatMapping.key SrNatMapping.auxExt s.mappings h.keys h.ids
  else ⊥

section Steps

variable {s s' : SrNat}

/-- An endpoint is bound to the id of its mapping. -/
lemma IsBinding.mem_bindings (h : IsBinding s) {k : UInt32 × UInt16} {i : UInt16} :
    i ∈ bindings s k ↔ ∃ m ∈ s.mappings, m.key = k ∧ m.auxExt = i := by
  unfold bindings
  rw [dif_pos h]
  exact mem_toPEquiv

/-- An endpoint that has no mapping is not bound. -/
lemma IsBinding.bindings_eq_none (h : IsBinding s) {k : UInt32 × UInt16}
    (hk : k ∉ s.mappings.map SrNatMapping.key) : bindings s k = none := by
  apply Option.eq_none_iff_forall_not_mem.mpr
  intro i hi
  obtain ⟨m, hm, rfl, -⟩ := h.mem_bindings.mp hi
  exact hk (List.mem_map_of_mem hm)

/-- Nor is an id. -/
lemma IsBinding.symm_bindings_eq_none (h : IsBinding s) {i : UInt16}
    (hi : i ∉ s.mappings.map SrNatMapping.auxExt) : (bindings s).symm i = none := by
  apply Option.eq_none_iff_forall_not_mem.mpr
  intro k hk
  obtain ⟨m, hm, -, rfl⟩ := h.mem_bindings.mp ((bindings s).mem_iff_mem.mp hk)
  exact hi (List.mem_map_of_mem hm)

/-- A table whose mappings were all there before, up to connections, has released bindings. -/
lemma IsBinding.release (h : IsBinding s) (h' : IsBinding s')
    (hsub : ∀ m' ∈ s'.mappings, ∃ m ∈ s.mappings, m.bare = m'.bare) :
    Binding.Step (bindings s) (bindings s') := by
  refine .release fun k i hi => ?_
  obtain ⟨m', hm', hkey, hid⟩ := h'.mem_bindings.mp hi
  obtain ⟨m, hm, hbare⟩ := hsub m' hm'
  refine h.mem_bindings.mpr ⟨m, hm, ?_, ?_⟩
  · rw [← m.bare_key, hbare, m'.bare_key, hkey]
  · rw [← m.bare_auxExt, hbare, m'.bare_auxExt, hid]

/-- A table whose mappings are all still there, up to connections, has released none. -/
lemma IsBinding.bindings_le (h : IsBinding s) (h' : IsBinding s')
    (hsub : ∀ m ∈ s.mappings, ∃ m' ∈ s'.mappings, m'.bare = m.bare) : bindings s ≤ bindings s' := by
  intro k i hi
  obtain ⟨m, hm, hkey, hid⟩ := h.mem_bindings.mp hi
  obtain ⟨m', hm', hbare⟩ := hsub m hm
  refine h'.mem_bindings.mpr ⟨m', hm', ?_, ?_⟩
  · rw [← m'.bare_key, hbare, m.bare_key, hkey]
  · rw [← m'.bare_auxExt, hbare, m.bare_auxExt, hid]

/-- A new mapping binds its endpoint to its id. -/
lemma IsBinding.bind (h : IsBinding s) {now : Time} {ipInt : UInt32} {auxInt : UInt16}
    {type : SrNatMappingType} (h' : IsBinding (srNatInsertMapping s now ipInt auxInt type).2) :
    Binding.Step (bindings s) (bindings (srNatInsertMapping s now ipInt auxInt type).2) := by
  let m := newMapping s now ipInt auxInt type
  -- the table after the step is one to one, so neither was in use before it
  have hkey : m.key ∉ s.mappings.map SrNatMapping.key := (List.nodup_cons.mp h'.keys).1
  have hid : m.auxExt ∉ s.mappings.map SrNatMapping.auxExt := (List.nodup_cons.mp h'.ids).1
  refine .bind m.key m.auxExt (h.bindings_eq_none hkey) (h.symm_bindings_eq_none hid) ?_
  intro k i
  rw [h'.mem_bindings, h.mem_bindings]
  constructor
  · rintro ⟨m', hm', rfl, rfl⟩
    rcases List.mem_cons.mp hm' with rfl | hold
    · exact .inr ⟨rfl, rfl⟩
    · exact .inl ⟨m', hold, rfl, rfl⟩
  · rintro (⟨m', hold, rfl, rfl⟩ | ⟨rfl, rfl⟩)
    · exact ⟨m', List.mem_cons_of_mem _ hold, rfl, rfl⟩
    · exact ⟨m, List.mem_cons_self, rfl, rfl⟩

end Steps

/-- A step of the system. -/
abbrev NatStepIdLeft : NatConf → NatConf → Prop := Step natSemIdLeft natEnv natStart

/-- The step is one of the allocator, and only a sweep releases bindings. -/
structure StepRefines (c c' : NatConf) : Prop where
  /-- The step of the allocator. -/
  step : Binding.Step (bindings c.2) (bindings c'.2)
  /-- All bindings are kept, or it was a sweep. -/
  kept : bindings c.2 ≤ bindings c'.2 ∨ natEnv c.2 c'.2

/-- **One step** between two tables that are one to one is a step of the allocator. -/
lemma bindings_step {c c' : NatConf} (hstep : NatStepIdLeft c c') (h : IsBinding c.2)
    (h' : IsBinding c'.2) : StepRefines c c' := by
  have hsame : ∀ s, IsBinding s → Binding.Step (bindings s) (bindings s) :=
    fun s hs => hs.release hs fun m hm => ⟨m, hm, rfl⟩
  rcases hstep with ⟨j, s⟩ | ⟨-, amb, hexec⟩ | ⟨j, a, s⟩ | henv
  · exact ⟨hsame s h, .inl le_rfl⟩
  · rcases natExec_cases hexec with htable | ⟨ipInt, auxInt, type, rfl, rfl⟩
    · exact ⟨h.release h' fun m' hm' => htable.exists_mem hm',
        .inl (h.bindings_le h' fun m hm => htable.exists_mem' hm)⟩
    · exact ⟨h.bind h', .inl (h.bindings_le h' fun m hm => ⟨m, List.mem_cons_of_mem _ hm, rfl⟩)⟩
  · exact ⟨hsame s h, .inl le_rfl⟩
  · exact ⟨h.release h' fun m' hm' => exists_bare_of_env (.single henv) hm', .inr henv⟩

/-- All along a run in which ids are left the table is one to one. -/
lemma isBinding_of_steps {s : SrNat} (hs : IsInitial s) {c : NatConf}
    (h : NatStepsIdLeft (.idle, s) c) : IsBinding c.2 :=
  ⟨(keysUnique_of_steps hs h.steps).1, (idsExact_of_steps hs h).nodup⟩

/-- To begin with nothing is bound. -/
lemma bindings_of_isInitial {s : SrNat} (hs : IsInitial s) : bindings s = ⊥ := by
  obtain ⟨icmpTo, estabTo, transTo, unsol, rfl⟩ := hs
  have hb : IsBinding (srNatInit icmpTo estabTo transTo unsol) := ⟨List.nodup_nil, List.nodup_nil⟩
  exact PEquiv.ext fun k => hb.bindings_eq_none List.not_mem_nil

/-- **The NAT refines the allocator**, state by state: the table of every state of a run in which ids
are left stands for a binding, nothing is bound at the start, and each step of the run is a step of the
allocator between the bindings, which keeps them all unless it is a sweep. -/
theorem bindings_refine {s₀ : SrNat} (hs₀ : IsInitial s₀) {run : List NatConf}
    (hrun : List.IsChain NatStepIdLeft ((.idle, s₀) :: run)) :
    bindings s₀ = ⊥ ∧
      (∀ c ∈ (.idle, s₀) :: run, ∀ k i,
        i ∈ bindings c.2 k ↔ ∃ m ∈ c.2.mappings, m.key = k ∧ m.auxExt = i) ∧
      List.IsChain StepRefines ((.idle, s₀) :: run) := by
  have hsteps : ∀ c ∈ (.idle, s₀) :: run, NatStepsIdLeft (.idle, s₀) c :=
    hrun.induction (NatStepsIdLeft (.idle, s₀)) _ (fun _ _ hstep h => h.tail hstep) fun _ => .refl
  have hbinding : ∀ c ∈ (.idle, s₀) :: run, IsBinding c.2 :=
    fun c hc => isBinding_of_steps hs₀ (hsteps c hc)
  refine ⟨bindings_of_isInitial hs₀, fun c hc k i => (hbinding c hc).mem_bindings, ?_⟩
  exact hrun.imp_of_mem_imp fun c c' hc hc' hstep =>
    bindings_step hstep (hbinding c hc) (hbinding c' hc')

/-- The state after the first of the requests. -/
def firstState : SrNat := (srNatInsertMapping startState 0 0x0a000001 0 .natMappingIcmp).2

/-- The mapping that is made then. -/
def firstMapping : SrNatMapping := newMapping startState 0 0x0a000001 0 .natMappingIcmp

/-- The first request is handled. -/
lemma steps_firstState : NatStepsIdLeft (.idle, startState) (.idle, firstState) := by
  have hempty : ∀ m ∈ startState.mappings, m.auxInt.toNat < 0 :=
    fun m hm => absurd hm List.not_mem_nil
  obtain ⟨a, hrun⟩ := nthRequest_runs (show 0 < 65536 by omega) hempty
  have hjob : (natStart (.icmp oneRoute (nthRequest 0))).Runs natSemIdLeft startState a firstState :=
    natStart_runs_idLeft findNextId_startState hrun
  exact hjob.job

/-- A run that handles the first request is one of the allocator. -/
theorem bindings_refine_first : ∃ run : List NatConf,
    List.IsChain NatStepIdLeft ((.idle, startState) :: run) ∧
      ((.idle, startState) :: run).getLast (List.cons_ne_nil _ _) = (.idle, firstState) ∧
      firstMapping ∈ firstState.mappings ∧
      List.IsChain StepRefines ((.idle, startState) :: run) := by
  obtain ⟨run, hrun, hlast⟩ := List.exists_isChain_cons_of_relationReflTransGen steps_firstState
  exact ⟨run, hrun, hlast, List.mem_cons_self, (bindings_refine isInitial_startState hrun).2.2⟩

/-- **An endpoint that stays in the table keeps its id**, whatever becomes of its mapping. -/
theorem boundId_stable {s₀ : SrNat} (hs₀ : IsInitial s₀) {c c' : NatConf} {k : UInt32 × UInt16}
    (h : NatStepsIdLeft (.idle, s₀) c)
    (h' : ReflTransGen (fun c c' => NatStepIdLeft c c' ∧ k ∈ c'.2.mappings.map SrNatMapping.key) c c')
    {m m' : SrNatMapping} (hm : m ∈ c.2.mappings) (hm' : m' ∈ c'.2.mappings) (hk : m.key = k)
    (hk' : m'.key = k) : m.auxExt = m'.auxExt := by
  have hsteps : ∀ {c'}, ReflTransGen (fun c c' => NatStepIdLeft c c' ∧
      k ∈ c'.2.mappings.map SrNatMapping.key) c c' → NatStepsIdLeft (.idle, s₀) c' :=
    fun hrun => h.trans (ReflTransGen.mono (fun _ _ hstep => hstep.1) _ _ hrun)
  have hbound : ReflTransGen (fun f g : UInt32 × UInt16 ≃. UInt16 =>
      Binding.Step f g ∧ (g k).isSome) (bindings c.2) (bindings c'.2) := by
    clear hm'
    induction h' with
    | refl => exact .refl
    | @tail mid last hrun hstep ih =>
      have hlast := isBinding_of_steps hs₀ ((hsteps hrun).tail hstep.1)
      refine ih.tail ⟨(bindings_step hstep.1 (isBinding_of_steps hs₀ (hsteps hrun)) hlast).step, ?_⟩
      obtain ⟨m', hm', hk'⟩ := List.mem_map.mp hstep.2
      exact Option.isSome_iff_exists.mpr ⟨_, hlast.mem_bindings.mpr ⟨m', hm', hk', rfl⟩⟩
  have hi : m.auxExt ∈ bindings c.2 k :=
    (isBinding_of_steps hs₀ h).mem_bindings.mpr ⟨m, hm, hk, rfl⟩
  have hj : m'.auxExt ∈ bindings c'.2 k :=
    (isBinding_of_steps hs₀ (hsteps h')).mem_bindings.mpr ⟨m', hm', hk', rfl⟩
  exact Binding.stable_of_steps hbound hi hj

/-- A sweep keeps the mapping of the first request, with its id. -/
theorem boundId_stable_first : ∃ s' m', natEnv firstState s' ∧ m' ∈ s'.mappings ∧
    m'.key = firstMapping.key ∧ firstMapping.auxExt = m'.auxExt := by
  obtain ⟨s', hsweep, hmap⟩ : ∃ s', natTimeout oneRoute.routingTable 0 firstState = .ok ([], s') ∧
      s'.mappings = [firstMapping] := ⟨_, rfl, rfl⟩
  have henv : natEnv firstState s' := ⟨oneRoute.routingTable, 0, [], hsweep⟩
  have hmem : firstMapping ∈ s'.mappings := hmap ▸ List.mem_cons_self
  have hstep : NatStepIdLeft (.idle, firstState) (.idle, s') := .env henv
  exact ⟨s', firstMapping, henv, hmem, rfl, boundId_stable isInitial_startState steps_firstState
    (.single ⟨hstep, List.mem_map_of_mem hmem⟩) (m := firstMapping) List.mem_cons_self hmem rfl rfl⟩

end NatRouter
