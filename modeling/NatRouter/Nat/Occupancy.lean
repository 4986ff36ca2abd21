import NatRouter.Nat.Allocation

/-!
# Tables with any number of ids in use

Echo requests from one inside address, with a new identifier each, fill the table of the NAT: after
`n` of them the external ids from `DEFAULT_ID` on are in use up to `n` of them (`Occupied`), and no
others.  All these states are reached (`reached_afterRequests`), the full table included.
-/

namespace NatRouter

open ByteMemory PackedBits Interleaving Relation

/-- The states of the NAT in which no packet is being handled. -/
def Reached (s : SrNat) : Prop := ∃ s₀, IsInitial s₀ ∧ NatSteps (.idle, s₀) (.idle, s)

/-- The NAT after `n` echo requests from `ip`. -/
def afterRequests (ip : UInt32) : ℕ → SrNat
  | 0 => startState
  | n + 1 => (srNatInsertMapping (afterRequests ip n) 0 ip (UInt16.ofNat n) .natMappingIcmp).2

/-- `n` identifiers of `ip` have the first `n` external ids. -/
structure Occupied (ip : UInt32) (n : ℕ) (s : SrNat) : Prop where
  /-- The ids are allocated exclusively. -/
  exact : IdsExact s
  /-- All mappings are for identifiers of `ip`, and without connections. -/
  internal : ∀ m ∈ s.mappings, m.ipInt = ip ∧ m.auxInt.toNat < n ∧ m.conns = []
  /-- The ids in use. -/
  inUse : ∀ k, (∃ m ∈ s.mappings, m.auxExt.toNat = k) ↔ 1024 ≤ k ∧ k < 1024 + n
  /-- No packet is buffered. -/
  unsol : s.unsolPkt = .linked []

/-- The initial state is reached. -/
lemma reached_startState : Reached startState := ⟨startState, isInitial_startState, .refl⟩

/-- A request of an endpoint that has no mapping. -/
lemma Reached.echoRequest {s : SrNat} (h : Reached s) {ip : UInt32} {identifier : UInt16}
    (hip : isPrivateIp ip = true)
    (hlookup : srNatLookupInternal s ip identifier .natMappingIcmp = none) :
    Reached (srNatInsertMapping s 0 ip identifier .natMappingIcmp).2 := by
  obtain ⟨s₀, hs₀, hsteps⟩ := h
  obtain ⟨a, hruns⟩ := echoRequest_runs hip hlookup
  refine ⟨s₀, hs₀, hsteps.trans (SeqStep.steps (.single ?_))⟩
  exact .handle (.icmp oneRoute _) hruns

namespace Occupied

variable {ip : UInt32} {n : ℕ} {s : SrNat}

/-- The next external id. -/
lemma findNextId (h : Occupied ip n s) (hn : n < 64512) :
    findNextId s.bitmap = (((1024 + n : ℕ) : ℤ), setBit s.bitmap (1024 + n)) := by
  have hclear : testBit s.bitmap (1024 + n) = false := by
    rw [← Bool.not_eq_true, h.exact.testBit_iff, h.inUse]
    omega
  obtain ⟨k, ⟨hlo, hhi, hk, hbelow⟩, hfind⟩ :=
    exists_of_findNextId_ne (findNextId_ne_of_clear (by omega) (by omega) hclear)
  obtain rfl : k = 1024 + n := by
    rw [← Bool.not_eq_true, h.exact.testBit_iff, h.inUse] at hk
    by_contra hne
    have hset := hbelow (1024 + n) (by omega) (by omega)
    rw [hclear] at hset
    cases hset
  exact hfind

/-- An identifier that is not among those of `ip` has no mapping. -/
lemma lookupInternal_eq_none (h : Occupied ip n s) {ip' : UInt32} {identifier : UInt16}
    (hnew : ip' = ip → n ≤ identifier.toNat) (type : SrNatMappingType) :
    srNatLookupInternal s ip' identifier type = none := by
  refine Option.map_eq_none_iff.mpr (List.find?_eq_none.mpr fun m hm => ?_)
  obtain ⟨hip, hlt, -⟩ := h.internal m hm
  rw [decide_eq_true_eq, not_and]
  rintro heq rfl
  exact absurd (hnew (heq.symm.trans hip)) (not_le.mpr hlt)

/-- An id in use has a mapping. -/
lemma exists_lookupExternal (h : Occupied ip n s) {auxExt : UInt16} (hlo : 1024 ≤ auxExt.toNat)
    (hhi : auxExt.toNat < 1024 + n) (type : SrNatMappingType) :
    ∃ mapping, srNatLookupExternal s auxExt type = some mapping := by
  obtain ⟨m, hm, hid⟩ := (h.inUse auxExt.toNat).mpr ⟨hlo, hhi⟩
  refine Option.isSome_iff_exists.mp ?_
  rw [srNatLookupExternal, Option.isSome_map, List.find?_isSome]
  exact ⟨m, hm, decide_eq_true (UInt16.toNat_inj.mp hid)⟩

/-- One more request. -/
lemma echoRequest (h : Occupied ip n s) (hn : n < 64512) :
    Occupied ip (n + 1) (srNatInsertMapping s 0 ip (UInt16.ofNat n) .natMappingIcmp).2 := by
  have hfind := h.findNextId hn
  have hleft : (NatRouter.findNextId s.bitmap).1 ≠ -1 := by
    rw [hfind]
    exact ne_of_beq_false rfl
  have hnew : (newMapping s 0 ip (UInt16.ofNat n) .natMappingIcmp).auxExt.toNat = 1024 + n := by
    simp only [newMapping, hfind]
    exact toNat_toUint16 (by omega)
  refine ⟨h.exact.insertMapping 0 ip (UInt16.ofNat n) .natMappingIcmp hleft, ?_, fun k => ?_,
    h.unsol⟩
  · rintro m (_ | ⟨_, hm⟩)
    · refine ⟨rfl, ?_, rfl⟩
      exact (UInt16.toNat_ofNat_of_lt' (show n < 65536 by omega)).le.trans_lt (Nat.lt_succ_self n)
    · obtain ⟨hip, hlt, hconns⟩ := h.internal m hm
      exact ⟨hip, hlt.trans (Nat.lt_succ_self n), hconns⟩
  · simp only [srNatInsertMapping, List.mem_cons, exists_eq_or_imp, hnew, h.inUse]
    omega

end Occupied

/-- **All fillings of the table are reached.** -/
lemma reached_afterRequests {ip : UInt32} (hip : isPrivateIp ip = true) {n : ℕ} (hn : n ≤ 64512) :
    Reached (afterRequests ip n) ∧ Occupied ip n (afterRequests ip n) := by
  induction n with
  | zero =>
    refine ⟨reached_startState, IdsExact.initial isInitial_startState,
      fun m hm => absurd hm List.not_mem_nil, fun k => ?_, rfl⟩
    simp [afterRequests, startState, srNatInit]
  | succ n ih =>
    obtain ⟨hreached, hocc⟩ := ih (by omega)
    refine ⟨hreached.echoRequest hip (hocc.lookupInternal_eq_none (fun _ => ?_) _),
      hocc.echoRequest (by omega)⟩
    exact (UInt16.toNat_ofNat_of_lt' (show n < 65536 by omega)).ge

/-! ### What an endpoint may meet -/

/-- An inside address has no mapping, and its first one will have external id `k`. -/
structure Fresh (ip : UInt32) (k : ℕ) (s : SrNat) : Prop where
  /-- The state is reached. -/
  reached : Reached s
  /-- There is no mapping for the address. -/
  lookup : ∀ auxInt type, srNatLookupInternal s ip auxInt type = none
  /-- The next external id. -/
  nextId : (findNextId s.bitmap).1 = k
  /-- No packet is buffered. -/
  unsol : s.unsolPkt = .linked []

/-- It may come to any id: other addresses have the ids below it. -/
lemma exists_fresh (ip : UInt32) {k : ℕ} (hlo : 1024 ≤ k) (hhi : k < 65536) : ∃ s, Fresh ip k s := by
  obtain ⟨other, hother, hne⟩ : ∃ other, isPrivateIp other = true ∧ other ≠ ip := by
    by_cases hip : ip = 0x0a000001
    · exact ⟨0x0a000002, by decide, by rw [hip]; decide⟩
    · exact ⟨0x0a000001, by decide, Ne.symm hip⟩
  obtain ⟨n, rfl⟩ := Nat.exists_eq_add_of_le hlo
  obtain ⟨hreached, hocc⟩ := reached_afterRequests hother (show n ≤ 64512 by omega)
  refine ⟨_, hreached, fun auxInt type => ?_, ?_, hocc.unsol⟩
  · exact hocc.lookupInternal_eq_none (fun heq => absurd heq.symm hne) type
  · rw [hocc.findNextId (by omega)]

/-- The first mapping of an address. -/
lemma Fresh.newMapping_auxExt {ip : UInt32} {k : ℕ} {s : SrNat} (h : Fresh ip k s) (now : Time)
    (auxInt : UInt16) (type : SrNatMappingType) :
    (newMapping s now ip auxInt type).auxExt = toUint16 k := by
  rw [newMapping, h.nextId]

/-- A connection is inserted into it. -/
lemma Fresh.insertConnection {ip : UInt32} {k : ℕ} {s : SrNat} (h : Fresh ip k s) (auxInt : UInt16)
    (type : SrNatMappingType) (p : ByteMem) (state : SrTcpStateType) :
    ∃ c s', srNatInsertConnection (srNatInsertMapping s 0 ip auxInt type).2 0
      (newMapping s 0 ip auxInt type).auxExt p state = .ok (some c, s') := by
  simp [srNatInsertConnection, srNatInsertMapping, h.unsol, srNatRemoveUnsolicitedPacket]

/-- An inside endpoint may have a mapping without connections. -/
lemma exists_known {ip : UInt32} (hip : isPrivateIp ip = true) (auxInt : UInt16) :
    ∃ s mapping, Reached s ∧ (∀ type, srNatLookupInternal s ip auxInt type = some mapping) ∧
      mapping.conns = none ∧ s.unsolPkt = .linked [] := by
  refine ⟨(srNatInsertMapping startState 0 ip auxInt .natMappingIcmp).2,
    (newMapping startState 0 ip auxInt .natMappingIcmp).copy,
    reached_startState.echoRequest hip rfl, fun type => ?_, rfl, rfl⟩
  simp [srNatLookupInternal, srNatInsertMapping, newMapping]

/-- Any external id may have a mapping. -/
lemma exists_lookupExternal {auxExt : UInt16} (hlo : 1024 ≤ auxExt.toNat) :
    ∃ s mapping, Reached s ∧ ∀ type, srNatLookupExternal s auxExt type = some mapping := by
  have hlt := auxExt.toNat_lt
  obtain ⟨hreached, hocc⟩ :=
    reached_afterRequests (show isPrivateIp 0x0a000001 = true by decide) (le_refl 64512)
  obtain ⟨mapping, hlookup⟩ := hocc.exists_lookupExternal hlo (by omega) .natMappingIcmp
  exact ⟨_, mapping, hreached, fun type => hlookup⟩

end NatRouter
