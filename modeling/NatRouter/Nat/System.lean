import NatRouter.Nat.Effects

/-!
# Runs of the NAT

The NAT as a system of two threads: the packet thread, which takes one packet after the other and
runs its handler, and the thread of `sr_nat_timeout`.  What they share is the NAT state, touched in
critical sections under `nat->lock` only, so a run is an interleaving of the calls of the handlers
with sweeps.  The clock is left free: every call and every sweep may read any time.

A sequential run, in which no sweep falls between two calls of a handler, is a run of the system
(`SeqStep.steps`).
-/

namespace NatRouter

open ByteMemory PackedBits Interleaving Relation

/-- A packet given to one of the two handlers. -/
inductive NatJob where
  /-- A call of `nat_handle_icmp`. -/
  | icmp (cfg : NetConfig) (p : ByteMem)
  /-- A call of `nat_handle_tcp`. -/
  | tcp (cfg : NetConfig) (p : ByteMem) (ipPacketLen : UInt32) (isToNat : Bool)

/-- The packet of a job. -/
def NatJob.packet : NatJob → ByteMem
  | .icmp _ p => p
  | .tcp _ p _ _ => p

/-- The program of a job. -/
def natStart : NatJob → NatProg (ℤ × ByteMem)
  | .icmp cfg p => natHandleIcmp cfg p
  | .tcp cfg p ipPacketLen isToNat => natHandleTcp cfg p ipPacketLen isToNat

/-- `sr_nat_init`.  It leaves `nat->unsol_pkt` as it finds it. -/
def srNatInit (icmpQueryTo tcpEstabIdleTo tcpTransitoryTo : UInt32) (unsol : UnsolList) : SrNat where
  mappings := []
  icmpQueryTo := icmpQueryTo
  tcpEstabIdleTo := tcpEstabIdleTo
  tcpTransitoryTo := tcpTransitoryTo
  bitmap := Vector.replicate 2048 0#32
  unsolPkt := unsol
  nextNode := 0

/-- The states the NAT starts in. -/
def IsInitial (s : SrNat) : Prop := ∃ icmpTo estabTo transTo unsol,
  s = srNatInit icmpTo estabTo transTo unsol

/-- The calls of the handlers, in any surroundings. -/
abbrev natSem : Sem NatCall NatCall.Result SrNat := Sem.ofExec natExec

/-- A call does not run out of external ids. -/
def IdLeft : NatCall → SrNat → Prop
  | .insertMapping .., s => (findNextId s.bitmap).1 ≠ -1
  | _, _ => True

/-- The calls of the handlers that find an external id when they need one. -/
abbrev natSemIdLeft : Sem NatCall NatCall.Result SrNat := Sem.guarded IdLeft natSem

/-- One sweep, at any time and with any routing table. -/
def natEnv (s s' : SrNat) : Prop := ∃ rt now reported, natTimeout rt now s = .ok (reported, s')

/-- A configuration of the system: where the packet thread is, and the NAT state. -/
abbrev NatConf := Thread NatCall NatCall.Result Fault (ℤ × ByteMem) NatJob × SrNat

/-- Runs of the system. -/
abbrev NatSteps : NatConf → NatConf → Prop := Steps natSem natEnv natStart

/-- Runs of the system in which every new mapping finds an external id. -/
abbrev NatStepsIdLeft : NatConf → NatConf → Prop := Steps natSemIdLeft natEnv natStart

/-! ### The calls, one by one -/

section Calls

variable {s s' : SrNat}

/-- `sr_nat_lookup_internal` answers from the table and leaves it alone. -/
lemma natSem_lookupInternal {ipInt : UInt32} {auxInt : UInt16} {type : SrNatMappingType}
    {r : Option SrNatMappingCopy} (h : natSem (.lookupInternal ipInt auxInt type) s r s') :
    r = srNatLookupInternal s ipInt auxInt type ∧ s' = s := by
  obtain ⟨amb, h⟩ := h
  cases h
  exact ⟨rfl, rfl⟩

/-- `sr_nat_lookup_external` answers from the table and leaves it alone. -/
lemma natSem_lookupExternal {auxExt : UInt16} {type : SrNatMappingType}
    {r : Option SrNatMappingCopy} (h : natSem (.lookupExternal auxExt type) s r s') :
    r = srNatLookupExternal s auxExt type ∧ s' = s := by
  obtain ⟨amb, h⟩ := h
  cases h
  exact ⟨rfl, rfl⟩

/-- `sr_nat_insert_mapping` at some time. -/
lemma natSem_insertMapping {ipInt : UInt32} {auxInt : UInt16} {type : SrNatMappingType}
    {r : SrNatMappingCopy} (h : natSem (.insertMapping ipInt auxInt type) s r s') :
    ∃ now, srNatInsertMapping s now ipInt auxInt type = (r, s') := by
  obtain ⟨amb, h⟩ := h
  exact ⟨amb.now, Except.ok.inj h⟩

/-- `sr_nat_insert_connection` at some time. -/
lemma natSem_insertConnection {extPort : UInt16} {p : ByteMem} {state : SrTcpStateType}
    {r : Option SrNatConnection} (h : natSem (.insertConnection extPort p state) s r s') :
    ∃ now, srNatInsertConnection s now extPort p state = .ok (r, s') := by
  obtain ⟨amb, h⟩ := h
  exact ⟨amb.now, h⟩

/-- `sr_nat_update_connection` in some surroundings. -/
lemma natSem_updateConnection {mapping : SrNatMappingCopy} {p : ByteMem} {len : UInt32}
    {direction : Direction} {r : Option SrNatConnection}
    (h : natSem (.updateConnection mapping p len direction) s r s') :
    ∃ amb, srNatUpdateConnection s amb mapping p len direction = .ok (r, s') := h

end Calls

/-! ### Sequential runs -/

/-- Sequential runs: a handler runs from its first call to its last without a sweep in between. -/
inductive SeqStep (sem : Sem NatCall NatCall.Result SrNat) : SrNat → SrNat → Prop
  /-- A packet is handled. -/
  | handle (j : NatJob) {a : ℤ × ByteMem} {s s' : SrNat} (h : (natStart j).Runs sem s a s') :
      SeqStep sem s s'
  /-- A sweep is made. -/
  | sweep {s s' : SrNat} (h : natEnv s s') : SeqStep sem s s'

/-- A guarded step of the system is a step of the system. -/
lemma NatStepsIdLeft.steps {c c' : NatConf} (h : NatStepsIdLeft c c') : NatSteps c c' := by
  obtain ⟨s, hsteps, rfl⟩ := @Steps.simulate _ _ _ _ _ _ natSemIdLeft natEnv natStart _ natSem natEnv
    (fun s t => t = s) (fun c s r s' t hc ht => ⟨s', ht ▸ hc.2, rfl⟩)
    (fun s s' t he ht => ⟨s', ht ▸ he, rfl⟩) _ _ h _ rfl
  exact hsteps

/-- A sequential run is a run of the system between states in which the packet thread is idle. -/
lemma SeqStep.steps {sem : Sem NatCall NatCall.Result SrNat} {s s' : SrNat}
    (h : ReflTransGen (SeqStep sem) s s') :
    Steps sem natEnv natStart (.idle, s) (.idle, s') := by
  induction h with
  | refl => exact .refl
  | tail _ hstep ih =>
    cases hstep with
    | handle j h => exact ih.trans (Prog.Runs.job h)
    | sweep h => exact ih.tail (.env h)

/-- A sequential run in which new mappings find an external id is a sequential run. -/
lemma SeqStep.run_mono {s s' : SrNat} (h : ReflTransGen (SeqStep natSemIdLeft) s s') :
    ReflTransGen (SeqStep natSem) s s' := by
  refine ReflTransGen.mono (fun _ _ hstep => ?_) _ _ h
  cases hstep with
  | handle j h => exact .handle j (h.mono fun _ _ _ _ h => h.2)
  | sweep h => exact .sweep h

/-- A property that holds initially, that every call keeps and every sweep keeps, holds in all
configurations of a run. -/
lemma natInvariant {sem : Sem NatCall NatCall.Result SrNat} {I : SrNat → Prop}
    (hsem : ∀ c s r s', I s → sem c s r s' → I s') (henv : ∀ s s', I s → natEnv s s' → I s')
    {s : SrNat} (hs : I s) {c : NatConf} (h : Steps sem natEnv natStart (.idle, s) c) : I c.2 :=
  (server_invariant_of_idle henv
    (fun j _ ht => Prog.always_of_preserved hsem henv (natStart j) ht) hs h).1

end NatRouter
