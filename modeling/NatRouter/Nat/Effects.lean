import NatRouter.Lib.KeyedList
import NatRouter.Nat.Handler

/-!
# What the NAT calls and the sweep do to the table

One lemma for each operation, which says everything the later proofs need to know about it.  The
calls of the handlers either put a new mapping at the head of the table (`insertMapping`) or leave
the table as it is up to the connections of the mappings (`SameTable`); the sweep keeps a sublist of
the mappings, again up to connections, and clears the bits of the others.
-/

namespace NatRouter

open ByteMemory PackedBits

/-! ### The table up to connections -/

/-- A mapping without its connections. -/
def SrNatMapping.bare (m : SrNatMapping) : SrNatMapping := { m with conns := [] }

/-- The internal endpoint of a mapping, the key of `sr_nat_lookup_internal`. -/
def SrNatMapping.key (m : SrNatMapping) : UInt32 × UInt16 := (m.ipInt, m.auxInt)

@[simp] lemma SrNatMapping.bare_node (m : SrNatMapping) : m.bare.node = m.node := rfl

@[simp] lemma SrNatMapping.bare_type (m : SrNatMapping) : m.bare.type = m.type := rfl

@[simp] lemma SrNatMapping.bare_auxExt (m : SrNatMapping) : m.bare.auxExt = m.auxExt := rfl

@[simp] lemma SrNatMapping.bare_key (m : SrNatMapping) : m.bare.key = m.key := rfl

/-- Two NAT states whose mapping tables differ in connections only. -/
structure SameTable (s s' : SrNat) : Prop where
  /-- The mappings are the same up to connections, in the same order. -/
  bare : s'.mappings.map SrNatMapping.bare = s.mappings.map SrNatMapping.bare
  /-- The bitmaps are the same. -/
  bitmap : s'.bitmap = s.bitmap
  /-- Allocations only go on. -/
  nextNode : s.nextNode ≤ s'.nextNode

/-- A state has the same table as itself. -/
lemma SameTable.refl (s : SrNat) : SameTable s s := ⟨rfl, rfl, Nat.le_refl _⟩

/-- One change of connections after the other. -/
lemma SameTable.trans {s s' s'' : SrNat} (h : SameTable s s') (h' : SameTable s' s'') :
    SameTable s s'' :=
  ⟨h'.bare.trans h.bare, h'.bitmap.trans h.bitmap, h.nextNode.trans h'.nextNode⟩

/-- What does not read the connections is the same all over the table. -/
lemma SameTable.map_eq {s s' : SrNat} (h : SameTable s s') {β : Type} (f : SrNatMapping → β)
    (hf : ∀ m, f m.bare = f m) : s'.mappings.map f = s.mappings.map f := by
  have hcomp : ∀ l : List SrNatMapping, l.map f = (l.map SrNatMapping.bare).map f := by
    intro l
    rw [List.map_map]
    exact List.map_congr_left fun m _ => (hf m).symm
  rw [hcomp, h.bare, ← hcomp]

/-- A mapping of one of the tables is, up to connections, a mapping of the other. -/
lemma SameTable.exists_mem {s s' : SrNat} (h : SameTable s s') {m' : SrNatMapping}
    (hm' : m' ∈ s'.mappings) : ∃ m ∈ s.mappings, m.bare = m'.bare := by
  have hbare : m'.bare ∈ s.mappings.map SrNatMapping.bare :=
    h.bare ▸ List.mem_map_of_mem hm'
  exact List.mem_map.mp hbare

/-- The relation is symmetric but for the allocation counter. -/
lemma SameTable.exists_mem' {s s' : SrNat} (h : SameTable s s') {m : SrNatMapping}
    (hm : m ∈ s.mappings) : ∃ m' ∈ s'.mappings, m'.bare = m.bare := by
  have hbare : m.bare ∈ s'.mappings.map SrNatMapping.bare :=
    h.bare.symm ▸ List.mem_map_of_mem hm
  exact List.mem_map.mp hbare

/-- Rewriting the connections of mappings leaves the table the same. -/
lemma map_bare_of_bare_eq {l : List SrNatMapping} {f : SrNatMapping → SrNatMapping}
    (hf : ∀ m ∈ l, (f m).bare = m.bare) :
    (l.map f).map SrNatMapping.bare = l.map SrNatMapping.bare := by
  rw [List.map_map]
  exact List.map_congr_left hf

/-! ### The allocator -/

/-- **What `find_next_id` does**: it finds the first clear bit from `DEFAULT_ID` on and sets it, or
there is none. -/
lemma findNextId_cases (bitmap : Bitmap) :
    (∃ k, IsFirstClear (testBit bitmap) 1024 65536 k ∧
      findNextId bitmap = ((k : ℤ), setBit bitmap k)) ∨
    (∀ k, 1024 ≤ k → k < 65536 → testBit bitmap k = true) ∧ findNextId bitmap = (-1, bitmap) := by
  cases hscan : scanWords bitmap (defaultId / 32) (totalPorts / 32 - defaultId / 32) with
  | none => exact .inr ⟨scanWords_eq_none bitmap hscan, by simp [findNextId, hscan]⟩
  | some k => exact .inl ⟨k, scanWords_isFirstClear bitmap hscan, by simp [findNextId, hscan]⟩

/-- **Ids are handed out exactly**: the least one whose bit is clear is returned and its bit is set,
and `ClearBit` then restores the bitmap; or all of them are in use, and nothing changes. -/
theorem findNextId_exact (bitmap : Bitmap) :
    (∃ k, IsLeast {j | 1024 ≤ j ∧ j ≤ 65535 ∧ testBit bitmap j = false} k ∧
      (findNextId bitmap).1 = k ∧
      (∀ j, testBit (findNextId bitmap).2 j = true ↔ j = k ∨ testBit bitmap j = true) ∧
      clearBit (findNextId bitmap).2 k = bitmap) ∨
    (∀ j, 1024 ≤ j → j ≤ 65535 → testBit bitmap j = true) ∧ findNextId bitmap = (-1, bitmap) := by
  rcases findNextId_cases bitmap with ⟨k, hfirst, heq⟩ | ⟨hset, heq⟩
  · obtain ⟨hlo, hhi, hclear, -⟩ := id hfirst
    left
    refine ⟨k, ?_, ?_, ?_, ?_⟩
    · simpa only [Nat.lt_succ_iff] using hfirst.isLeast
    · rw [heq]
    · intro j
      rw [heq, testBit_setBit bitmap hhi, Bool.or_eq_true, decide_eq_true_iff]
    · rw [heq]
      exact clearBit_setBit bitmap hhi hclear
  · right
    exact ⟨fun j hlo hhi => hset j hlo (Nat.lt_succ_of_le hhi), heq⟩

/-- A free id is the first clear bit of the bitmap, which is then set. -/
lemma exists_of_findNextId_ne {bitmap : Bitmap} (h : (findNextId bitmap).1 ≠ -1) :
    ∃ k, IsFirstClear (testBit bitmap) 1024 65536 k ∧
      findNextId bitmap = ((k : ℤ), setBit bitmap k) := by
  rcases findNextId_cases bitmap with hfound | ⟨-, heq⟩
  · exact hfound
  · exact absurd (congrArg Prod.fst heq) h

/-- A clear bit from `DEFAULT_ID` on is enough for the allocator to succeed. -/
lemma findNextId_ne_of_clear {bitmap : Bitmap} {k : ℕ} (hlo : 1024 ≤ k) (hhi : k < 65536)
    (hclear : testBit bitmap k = false) : (findNextId bitmap).1 ≠ -1 := by
  rcases findNextId_cases bitmap with ⟨j, -, heq⟩ | ⟨hset, -⟩
  · rw [heq]
    omega
  · rw [hset k hlo hhi] at hclear
    cases hclear

/-- An id survives the conversion to 16 bits. -/
lemma toNat_toUint16 {k : ℕ} (hk : k < 65536) : (toUint16 (k : ℤ)).toNat = k := by
  change (BitVec.ofInt 16 (k : ℤ)).toNat = k
  rw [BitVec.toNat_ofInt]
  omega

/-! ### The calls -/

/-- An insertion into the unsolicited list leaves the table the same. -/
lemma sameTable_unsol (s : SrNat) (unsol : UnsolList) : SameTable s { s with unsolPkt := unsol } :=
  ⟨rfl, rfl, Nat.le_refl _⟩

/-- `sr_nat_insert_connection` leaves the table the same. -/
lemma srNatInsertConnection_sameTable {s s' : SrNat} {now : Time} {extPort : UInt16} {p : ByteMem}
    {state : SrTcpStateType} {r : Option SrNatConnection}
    (h : srNatInsertConnection s now extPort p state = .ok (r, s')) : SameTable s s' := by
  unfold srNatInsertConnection at h
  split at h
  · cases h
    exact .refl s
  · split at h
    · cases h
    · cases h
      refine ⟨map_bare_of_bare_eq fun m _ => ?_, rfl, Nat.le_succ _⟩
      split <;> rfl

/-- `sr_nat_update_connection` leaves the table the same. -/
lemma srNatUpdateConnection_sameTable {s s' : SrNat} {amb : Ambient} {mapping : SrNatMappingCopy}
    {p : ByteMem} {len : UInt32} {direction : Direction} {r : Option SrNatConnection}
    (h : srNatUpdateConnection s amb mapping p len direction = .ok (r, s')) : SameTable s s' := by
  unfold srNatUpdateConnection at h
  simp only at h
  split at h
  · cases h
  · split at h
    · cases h
      exact ⟨map_bare_of_bare_eq fun m _ => rfl, rfl, Nat.le_refl _⟩
    · split at h
      · cases h
      · cases h
        exact sameTable_unsol s _

/-- **What a call does to the table**: an insertion puts a new mapping at its head, every other call
leaves it the same. -/
lemma natExec_cases {amb : Ambient} {c : NatCall} {s s' : SrNat} {r : c.Result}
    (h : natExec amb c s = .ok (r, s')) :
    SameTable s s' ∨ ∃ ipInt auxInt type, c = .insertMapping ipInt auxInt type ∧
      s' = (srNatInsertMapping s amb.now ipInt auxInt type).2 := by
  cases c with
  | lookupExternal auxExt type =>
    cases h
    exact .inl (.refl s)
  | lookupInternal ipInt auxInt type =>
    cases h
    exact .inl (.refl s)
  | insertMapping ipInt auxInt type =>
    cases h
    exact .inr ⟨ipInt, auxInt, type, rfl, rfl⟩
  | insertConnection extPort p state => exact .inl (srNatInsertConnection_sameTable h)
  | updateConnection mapping p len direction => exact .inl (srNatUpdateConnection_sameTable h)
  | insertUnsolicitedPacket p len =>
    cases hins : srNatInsertUnsolicitedPacket amb s.unsolPkt p len with
    | error e => simp [natExec, hins] at h
    | ok unsol =>
      simp only [natExec, hins] at h
      cases h
      exact .inl (sameTable_unsol s _)

/-! ### The sweep -/

/-- A mapping that the sweep keeps is the same up to connections. -/
lemma sweepMapping_bare {s : SrNat} {t : Time} {m m' : SrNatMapping}
    (h : sweepMapping s t m = some m') : m'.bare = m.bare := by
  unfold sweepMapping at h
  split at h
  · split_ifs at h
    cases h
    rfl
  · split at h
    · cases h
    · cases h
      rfl

/-- The connections of a mapping that the sweep keeps. -/
lemma sweepMapping_conns {s : SrNat} {t : Time} {m m' : SrNatMapping}
    (h : sweepMapping s t m = some m') :
    m.type = .natMappingIcmp ∧ m'.conns = m.conns ∨
      m.type = .natMappingTcp ∧ m'.conns = sweepConns s t m.conns ∧ m'.conns ≠ [] := by
  unfold sweepMapping at h
  split at h
  · split_ifs at h
    cases h
    exact .inl ⟨‹_›, rfl⟩
  · split at h
    · cases h
    · rename_i hne
      cases h
      exact .inr ⟨‹_›, rfl, hne⟩

/-- The walk over the table keeps what `sweepMapping` keeps. -/
lemma sweepMappings_fst (s : SrNat) (t : Time) (l : List SrNatMapping) (bitmap : Bitmap) :
    (sweepMappings s t l bitmap).1 = l.filterMap (sweepMapping s t) := by
  induction l generalizing bitmap with
  | nil => rfl
  | cons m l ih =>
    unfold sweepMappings
    split
    · rename_i h
      rw [ih, List.filterMap_cons_none h]
    · rename_i h
      rw [List.filterMap_cons_some h]
      simp [ih]

/-- The walk over the table clears the bits of the mappings it removes and no others. -/
lemma testBit_sweepMappings_snd (s : SrNat) (t : Time) (l : List SrNatMapping) (bitmap : Bitmap)
    (k : ℕ) :
    testBit (sweepMappings s t l bitmap).2 k = true ↔
      testBit bitmap k = true ∧ ∀ m ∈ l, sweepMapping s t m = none → m.auxExt.toNat ≠ k := by
  induction l generalizing bitmap with
  | nil => simp [sweepMappings]
  | cons m l ih =>
    unfold sweepMappings
    split
    · rename_i h
      have hlt : m.auxExt.toNat < 2048 * 32 := m.auxExt.toNat_lt
      rw [ih, testBit_clearBit _ hlt]
      simp only [Bool.and_eq_true, Bool.not_eq_true', decide_eq_false_iff_not, List.mem_cons,
        forall_eq_or_imp, h, forall_true_left]
      grind
    · rename_i h
      simp only [ih, List.mem_cons, forall_eq_or_imp, h, reduceCtorEq, false_implies, true_and]

/-- A sweep of a proper unsolicited list, with a routing table to look up in, comes to an end and
leaves a proper list. -/
lemma exists_natTimeout {rt : List SrRt} (hrt : rt ≠ []) (t : Time) {s : SrNat}
    {pkts : List SrNatUnsolPkt} (hs : s.unsolPkt = .linked pkts) :
    ∃ reported s' kept, natTimeout rt t s = .ok (reported, s') ∧ s'.unsolPkt = .linked kept := by
  have hlookup : ∀ ip, srRtLookup rt ip = .ok (srRtLookupLoop ip rt none 0) := by
    intro ip
    unfold srRtLookup
    rw [if_neg (by simpa [List.isEmpty_iff] using hrt)]
  have hsweep : ∀ l : List SrNatUnsolPkt, ∃ r, sweepUnsol rt t l = .ok r := by
    intro l
    induction l with
    | nil => exact ⟨_, rfl⟩
    | cons curr rest ih =>
      obtain ⟨⟨reported, kept⟩, hrest⟩ := ih
      simp only [sweepUnsol, hlookup, hrest]
      split
      · split <;> exact ⟨_, rfl⟩
      · exact ⟨_, rfl⟩
  obtain ⟨⟨reported, kept⟩, hunsol⟩ := hsweep pkts
  simp only [natTimeout, hs, hunsol]
  exact ⟨_, _, kept, rfl, rfl⟩

/-- **What a sweep does**: the table keeps what `sweepMapping` keeps of each mapping, the bits of
the removed mappings are cleared, and nothing but the unsolicited list changes besides. -/
lemma natTimeout_cases {rt : List SrRt} {t : Time} {s s' : SrNat}
    {reported : List (SrNatUnsolPkt × SrRt)} (h : natTimeout rt t s = .ok (reported, s')) :
    s'.mappings = s.mappings.filterMap (sweepMapping s t) ∧
      s'.bitmap = (sweepMappings s t s.mappings s.bitmap).2 ∧
      s'.nextNode = s.nextNode := by
  unfold natTimeout at h
  split at h
  · cases h
  · split at h
    · cases h
    · cases h
      exact ⟨sweepMappings_fst _ _ _ _, rfl, rfl⟩

/-- What does not read the connections keeps its order over a swept table. -/
lemma map_filterMap_sweepMapping_sublist (s : SrNat) (t : Time) (l : List SrNatMapping) {β : Type}
    (f : SrNatMapping → β) (hf : ∀ m, f m.bare = f m) :
    List.Sublist ((l.filterMap (sweepMapping s t)).map f) (l.map f) := by
  induction l with
  | nil => exact .slnil
  | cons m l ih =>
    cases h : sweepMapping s t m with
    | none =>
      rw [List.filterMap_cons_none h]
      exact ih.cons _
    | some m' =>
      rw [List.filterMap_cons_some h, List.map_cons, List.map_cons,
        show f m' = f m by rw [← hf m', sweepMapping_bare h, hf m]]
      exact ih.cons_cons _

end NatRouter
