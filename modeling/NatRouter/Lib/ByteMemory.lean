import Mathlib.Data.Nat.Notation
import Mathlib.Tactic.Common

/-!
# Byte memory behind a pointer

A C function that receives a `uint8_t *` sees a run of bytes with no recorded end: it may be
handed the length in another argument, and it may read or write past that length.  `ByteMem` is
the view from such a pointer, one byte for each offset.  What lies past the end of the buffer is
whatever the surrounding memory holds, so a statement about all `ByteMem`s is also a statement
about every content of that surrounding memory.

Multi-byte fields are read and written in little-endian order (`load16`, `store16`, `load32`,
`store32`).  The laws below are the ones packet code needs: a field reads back what was last
stored in it, and a store leaves every disjoint field alone.
-/

namespace ByteMemory

/-- The bytes seen through a pointer, indexed by their offset from it. -/
abbrev ByteMem := ℕ → UInt8

/-- Store one byte. -/
def store8 (b : ByteMem) (i : ℕ) (v : UInt8) : ByteMem :=
  fun j => if j = i then v else b j

/-- Load a 16-bit field, least significant byte first. -/
def load16 (b : ByteMem) (i : ℕ) : UInt16 :=
  ⟨(b (i + 1)).toBitVec ++ (b i).toBitVec⟩

/-- Store a 16-bit field, least significant byte first. -/
def store16 (b : ByteMem) (i : ℕ) (v : UInt16) : ByteMem :=
  fun j =>
    if j = i then ⟨v.toBitVec.extractLsb' 0 8⟩
    else if j = i + 1 then ⟨v.toBitVec.extractLsb' 8 8⟩
    else b j

/-- Load a 32-bit field, least significant byte first. -/
def load32 (b : ByteMem) (i : ℕ) : UInt32 :=
  ⟨(b (i + 3)).toBitVec ++ (b (i + 2)).toBitVec ++ ((b (i + 1)).toBitVec ++ (b i).toBitVec)⟩

/-- Store a 32-bit field, least significant byte first. -/
def store32 (b : ByteMem) (i : ℕ) (v : UInt32) : ByteMem :=
  fun j =>
    if j = i then ⟨v.toBitVec.extractLsb' 0 8⟩
    else if j = i + 1 then ⟨v.toBitVec.extractLsb' 8 8⟩
    else if j = i + 2 then ⟨v.toBitVec.extractLsb' 16 8⟩
    else if j = i + 3 then ⟨v.toBitVec.extractLsb' 24 8⟩
    else b j

/-- A block of `len` bytes copied from `b` into memory that held `junk` before: past the copied
bytes the old content shows through. -/
def copied (b : ByteMem) (len : ℕ) (junk : ByteMem) : ByteMem :=
  fun j => if j < len then b j else junk j

/-- `len` bytes of `src` copied to offset `i` of `b`. -/
def storeBlock (b : ByteMem) (i : ℕ) (src : ByteMem) (len : ℕ) : ByteMem :=
  fun j => if i ≤ j ∧ j < i + len then src (j - i) else b j

/-- The bytes of a buffer of length `len`, in order. -/
def bytes (b : ByteMem) (len : ℕ) : List UInt8 :=
  (List.range len).map b

/-- The memory at a list of bytes, with zeros behind it. -/
def ofBytes (l : List UInt8) : ByteMem :=
  fun j => l.getD j 0

/-! ### Runs of bytes -/

/-- The length of a run of bytes. -/
@[simp] lemma length_bytes (b : ByteMem) (n : ℕ) : (bytes b n).length = n := by
  simp [bytes]

/-- A buffer is its first bytes and the others. -/
lemma bytes_add (b : ByteMem) (m n : ℕ) :
    bytes b (m + n) = bytes b m ++ bytes (fun j => b (m + j)) n := by
  simp only [bytes, List.range_add, List.map_append, List.map_map, Function.comp_def]

/-- A buffer is its first byte and the others. -/
lemma bytes_succ (b : ByteMem) (n : ℕ) : bytes b (n + 1) = b 0 :: bytes (fun j => b (1 + j)) n := by
  rw [Nat.add_comm n 1, bytes_add]
  rfl

/-- A byte is read back from the bytes of a buffer. -/
lemma ofBytes_bytes {b : ByteMem} {n i : ℕ} (h : i < n) : ofBytes (bytes b n) i = b i := by
  simp [ofBytes, bytes, h]

/-- The bytes of a buffer, one by one. -/
lemma getElem?_bytes (b : ByteMem) (n i : ℕ) :
    (bytes b n)[i]? = if i < n then some (b i) else none := by
  rw [bytes, List.getElem?_map]
  split_ifs with hi
  · rw [List.getElem?_range hi, Option.map_some]
  · rw [List.getElem?_eq_none (by rwa [List.length_range, ← Nat.not_lt]), Option.map_none]

/-- The memory at the first elements of a list. -/
lemma ofBytes_take {l : List UInt8} {n j : ℕ} (hj : j < n) :
    ofBytes (l.take n) j = ofBytes l j := by
  simp [ofBytes, List.getElem?_take_of_lt hj]

/-- The memory at the others. -/
lemma ofBytes_drop (l : List UInt8) (n j : ℕ) : ofBytes (l.drop n) j = ofBytes l (n + j) := by
  simp [ofBytes, List.getElem?_drop]

/-- From offset `i` on, the memory holds the bytes of a list. -/
def Holds (b : ByteMem) (i : ℕ) (l : List UInt8) : Prop :=
  ∀ j (hj : j < l.length), b (i + j) = l[j]

/-- To hold two runs of bytes one behind the other. -/
lemma holds_append {b : ByteMem} {i : ℕ} {l l' : List UInt8} :
    Holds b i (l ++ l') ↔ Holds b i l ∧ Holds b (i + l.length) l' := by
  constructor
  · intro h
    constructor
    · intro j hj
      rw [h j (by rw [List.length_append]; omega), List.getElem_append_left hj]
    · intro j hj
      rw [Nat.add_assoc, h (l.length + j) (by rw [List.length_append]; omega),
        List.getElem_append_right (Nat.le_add_right _ _)]
      simp only [Nat.add_sub_cancel_left]
  · rintro ⟨h, h'⟩ j hj
    by_cases hlt : j < l.length
    · rw [h j hlt, List.getElem_append_left hlt]
    · rw [List.length_append] at hj
      have hoff : i + j = i + l.length + (j - l.length) := by omega
      rw [hoff, h' (j - l.length) (by omega), List.getElem_append_right (by omega)]

/-- The bytes of a buffer are those it holds from its start on. -/
lemma holds_iff_bytes {b : ByteMem} {l : List UInt8} : Holds b 0 l ↔ bytes b l.length = l := by
  constructor
  · intro h
    refine List.ext_getElem (length_bytes b _) fun j hj hj' => ?_
    rw [← h j hj', Nat.zero_add]
    simp [bytes]
  · intro h j hj
    have hj' : j < (bytes b l.length).length := by rwa [length_bytes]
    have hget := List.getElem_of_eq h hj'
    rw [← hget, Nat.zero_add]
    simp [bytes]

/-- Memory that is the same there holds the same. -/
lemma Holds.congr {b b' : ByteMem} {i : ℕ} {l : List UInt8} (h : Holds b i l)
    (hb : ∀ j, i ≤ j → j < i + l.length → b' j = b j) : Holds b' i l := by
  intro j hj
  rw [hb (i + j) (Nat.le_add_right _ _) (by omega), h j hj]

/-- The view from a pointer further on. -/
lemma Holds.shift {b : ByteMem} {i k : ℕ} {l : List UInt8} (h : Holds b (i + k) l) :
    Holds (fun j => b (i + j)) k l := by
  intro j hj
  change b (i + (k + j)) = l[j]
  rw [← Nat.add_assoc, h j hj]

/-- A list laid out in memory is held. -/
lemma holds_ofBytes (l : List UInt8) : Holds (ofBytes l) 0 l := by
  intro j hj
  simp [ofBytes, hj]

/-- A block that was stored holds what its source holds. -/
lemma holds_storeBlock (b : ByteMem) (i : ℕ) {src : ByteMem} {l : List UInt8} {len : ℕ}
    (h : Holds src 0 l) (hlen : l.length ≤ len) : Holds (storeBlock b i src len) i l := by
  intro j hj
  have hin : i ≤ i + j ∧ i + j < i + len := ⟨Nat.le_add_right i j, by omega⟩
  rw [← h j hj, storeBlock, if_pos hin, Nat.add_sub_cancel_left, Nat.zero_add]

/-- A block stored elsewhere leaves a run of bytes alone. -/
lemma Holds.storeBlock {b src : ByteMem} {i o len : ℕ} {l : List UInt8} (h : Holds b i l)
    (hout : i + l.length ≤ o ∨ o + len ≤ i) : Holds (storeBlock b o src len) i l :=
  h.congr fun j hlo hhi => if_neg fun hblock => by omega

/-! ### Reading bytes after a store -/

/-- A byte store leaves every other byte alone. -/
lemma store8_apply_of_ne {b : ByteMem} {i j : ℕ} {v : UInt8} (h : j ≠ i) :
    store8 b i v j = b j := by
  simp [store8, h]

/-- The byte just stored is read back. -/
@[simp] lemma store8_apply_self (b : ByteMem) (i : ℕ) (v : UInt8) : store8 b i v i = v := by
  simp [store8]

/-- A byte stored behind `n` bytes. -/
lemma bytes_store8_succ (b : ByteMem) (n : ℕ) (v : UInt8) :
    bytes (store8 b n v) (n + 1) = bytes b n ++ [v] := by
  have hkept : bytes (store8 b n v) n = bytes b n :=
    List.map_congr_left fun j hj => store8_apply_of_ne (Nat.ne_of_lt (List.mem_range.mp hj))
  rw [bytes, List.range_succ, List.map_append, ← bytes, hkept, List.map_singleton,
    store8_apply_self]

/-- A 16-bit store leaves every byte outside its two alone. -/
lemma store16_apply_of_disjoint {b : ByteMem} {i j : ℕ} {v : UInt16} (h : j < i ∨ i + 2 ≤ j) :
    store16 b i v j = b j := by
  have h0 : j ≠ i := by omega
  have h1 : j ≠ i + 1 := by omega
  simp [store16, h0, h1]

/-- A 32-bit store leaves every byte outside its four alone. -/
lemma store32_apply_of_disjoint {b : ByteMem} {i j : ℕ} {v : UInt32} (h : j < i ∨ i + 4 ≤ j) :
    store32 b i v j = b j := by
  have h0 : j ≠ i := by omega
  have h1 : j ≠ i + 1 := by omega
  have h2 : j ≠ i + 2 := by omega
  have h3 : j ≠ i + 3 := by omega
  simp [store32, h0, h1, h2, h3]

/-- A 16-bit store elsewhere leaves a run of bytes alone. -/
lemma Holds.store16 {b : ByteMem} {i o : ℕ} {v : UInt16} {l : List UInt8} (h : Holds b i l)
    (hout : i + l.length ≤ o ∨ o + 2 ≤ i) : Holds (store16 b o v) i l :=
  h.congr fun j hlo hhi => store16_apply_of_disjoint (by omega)

/-- A 32-bit store elsewhere leaves a run of bytes alone. -/
lemma Holds.store32 {b : ByteMem} {i o : ℕ} {v : UInt32} {l : List UInt8} (h : Holds b i l)
    (hout : i + l.length ≤ o ∨ o + 4 ≤ i) : Holds (store32 b o v) i l :=
  h.congr fun j hlo hhi => store32_apply_of_disjoint (by omega)

/-! ### Fields depend on their own bytes only -/

/-- Two memories with the same two bytes hold the same 16-bit field there. -/
lemma load16_congr {b b' : ByteMem} {i : ℕ} (h : ∀ j, i ≤ j → j < i + 2 → b j = b' j) :
    load16 b i = load16 b' i := by
  unfold load16
  rw [h i (by omega) (by omega), h (i + 1) (by omega) (by omega)]

/-- Two memories with the same four bytes hold the same 32-bit field there. -/
lemma load32_congr {b b' : ByteMem} {i : ℕ} (h : ∀ j, i ≤ j → j < i + 4 → b j = b' j) :
    load32 b i = load32 b' i := by
  unfold load32
  rw [h i (by omega) (by omega), h (i + 1) (by omega) (by omega),
    h (i + 2) (by omega) (by omega), h (i + 3) (by omega) (by omega)]

/-- A copied block has the 16-bit fields of the original. -/
lemma load16_copied {b junk : ByteMem} {i len : ℕ} (h : i + 2 ≤ len) :
    load16 (copied b len junk) i = load16 b i :=
  load16_congr fun _ _ hj => if_pos (Nat.lt_of_lt_of_le hj h)

/-- A copied block has the 32-bit fields of the original. -/
lemma load32_copied {b junk : ByteMem} {i len : ℕ} (h : i + 4 ≤ len) :
    load32 (copied b len junk) i = load32 b i :=
  load32_congr fun _ _ hj => if_pos (Nat.lt_of_lt_of_le hj h)

/-- A block stored behind a field leaves it alone. -/
lemma load32_storeBlock {b src : ByteMem} {i o len : ℕ} (h : i + 4 ≤ o) :
    load32 (storeBlock b o src len) i = load32 b i :=
  load32_congr fun j _ hj => if_neg fun hblock => by omega

section Frame

variable {b : ByteMem} {i j : ℕ}

/-- A byte store outside a 16-bit field leaves the field alone. -/
lemma load16_store8_of_disjoint {v : UInt8} (h : i < j ∨ j + 2 ≤ i) :
    load16 (store8 b i v) j = load16 b j :=
  load16_congr fun _ _ _ => store8_apply_of_ne (by omega)

/-- A byte store outside a 32-bit field leaves the field alone. -/
lemma load32_store8_of_disjoint {v : UInt8} (h : i < j ∨ j + 4 ≤ i) :
    load32 (store8 b i v) j = load32 b j :=
  load32_congr fun _ _ _ => store8_apply_of_ne (by omega)

/-- A 16-bit store leaves a disjoint 16-bit field alone. -/
lemma load16_store16_of_disjoint {v : UInt16} (h : i + 2 ≤ j ∨ j + 2 ≤ i) :
    load16 (store16 b i v) j = load16 b j :=
  load16_congr fun _ _ _ => store16_apply_of_disjoint (by omega)

/-- A 16-bit store leaves a disjoint 32-bit field alone. -/
lemma load32_store16_of_disjoint {v : UInt16} (h : i + 2 ≤ j ∨ j + 4 ≤ i) :
    load32 (store16 b i v) j = load32 b j :=
  load32_congr fun _ _ _ => store16_apply_of_disjoint (by omega)

/-- A 32-bit store leaves a disjoint 16-bit field alone. -/
lemma load16_store32_of_disjoint {v : UInt32} (h : i + 4 ≤ j ∨ j + 2 ≤ i) :
    load16 (store32 b i v) j = load16 b j :=
  load16_congr fun _ _ _ => store32_apply_of_disjoint (by omega)

/-- A 32-bit store leaves a disjoint 32-bit field alone. -/
lemma load32_store32_of_disjoint {v : UInt32} (h : i + 4 ≤ j ∨ j + 4 ≤ i) :
    load32 (store32 b i v) j = load32 b j :=
  load32_congr fun _ _ _ => store32_apply_of_disjoint (by omega)

end Frame

/-! ### Read back -/

/-- A 32-bit vector is put together from its four bytes. -/
lemma append_extractLsb'_bytes (v : BitVec 32) :
    v.extractLsb' 24 8 ++ v.extractLsb' 16 8 ++ (v.extractLsb' 8 8 ++ v.extractLsb' 0 8) = v := by
  have high : v.extractLsb' 24 8 ++ v.extractLsb' 16 8 = v.extractLsb' 16 16 :=
    BitVec.extractLsb'_append_extractLsb'_eq_extractLsb' rfl
  have low : v.extractLsb' 8 8 ++ v.extractLsb' 0 8 = v.extractLsb' 0 16 :=
    BitVec.extractLsb'_append_extractLsb'_eq_extractLsb' rfl
  rw [high, low]
  exact @BitVec.extractLsb'_append_extractLsb' 16 16 v

/-- A 16-bit field reads back what was stored in it. -/
@[simp] lemma load16_store16_self (b : ByteMem) (i : ℕ) (v : UInt16) :
    load16 (store16 b i v) i = v := by
  apply UInt16.eq_of_toBitVec_eq
  have hv : v.toBitVec.extractLsb' 8 8 ++ v.toBitVec.extractLsb' 0 8 = v.toBitVec :=
    @BitVec.extractLsb'_append_extractLsb' 8 8 v.toBitVec
  simpa [load16, store16] using hv

/-- A 16-bit field that is overwritten and then given back its old value is as it was. -/
lemma store16_store16_load16 (b : ByteMem) (i : ℕ) (v : UInt16) :
    store16 (store16 b i v) i (load16 b i) = b := by
  funext j
  by_cases h0 : j = i
  · subst h0
    apply UInt8.eq_of_toBitVec_eq
    simpa [store16, load16] using BitVec.extractLsb'_append_eq_right
  · by_cases h1 : j = i + 1
    · subst h1
      apply UInt8.eq_of_toBitVec_eq
      simpa [store16, load16] using BitVec.extractLsb'_append_eq_left
    · simp [store16, h0, h1]

/-- A second store to a field undoes the first. -/
lemma store16_store16 (b : ByteMem) (i : ℕ) (v w : UInt16) :
    store16 (store16 b i v) i w = store16 b i w := by
  funext j
  by_cases h0 : j = i
  · simp [store16, h0]
  · by_cases h1 : j = i + 1 <;> simp [store16, h0, h1]

/-- A 32-bit field reads back what was stored in it. -/
@[simp] lemma load32_store32_self (b : ByteMem) (i : ℕ) (v : UInt32) :
    load32 (store32 b i v) i = v := by
  apply UInt32.eq_of_toBitVec_eq
  simpa [load32, store32] using append_extractLsb'_bytes v.toBitVec

/-! ### Fields that overlap

Two fields of a packet can share bytes.  A 32-bit field is two 16-bit ones, so for fields at even
offsets it is enough to know which 16-bit fields a store reaches. -/

/-- The first two bytes of a 32-bit field. -/
def firstHalf (v : UInt32) : UInt16 := ⟨v.toBitVec.extractLsb' 0 16⟩

/-- The last two bytes of a 32-bit field. -/
def secondHalf (v : UInt32) : UInt16 := ⟨v.toBitVec.extractLsb' 16 16⟩

/-- A 32-bit field put together from its halves. -/
def ofHalves (a b : UInt16) : UInt32 := ⟨b.toBitVec ++ a.toBitVec⟩

/-- The first byte of a 16-bit field. -/
def firstByte (v : UInt16) : UInt8 := ⟨v.toBitVec.extractLsb' 0 8⟩

/-- A 16-bit field with another first byte. -/
def setFirstByte (v : UInt16) (a : UInt8) : UInt16 := ⟨v.toBitVec.extractLsb' 8 8 ++ a.toBitVec⟩

/-- A 32-bit field is read half by half. -/
lemma load32_eq_ofHalves (b : ByteMem) (i : ℕ) :
    load32 b i = ofHalves (load16 b i) (load16 b (i + 2)) := rfl

/-- The halves of a field make up the field. -/
@[simp] lemma ofHalves_halves (v : UInt32) : ofHalves (firstHalf v) (secondHalf v) = v :=
  UInt32.eq_of_toBitVec_eq (@BitVec.extractLsb'_append_extractLsb' 16 16 v.toBitVec)

/-- The first half of a field put together. -/
@[simp] lemma firstHalf_ofHalves (a b : UInt16) : firstHalf (ofHalves a b) = a :=
  UInt16.eq_of_toBitVec_eq BitVec.extractLsb'_append_eq_right

/-- Its second half. -/
@[simp] lemma secondHalf_ofHalves (a b : UInt16) : secondHalf (ofHalves a b) = b :=
  UInt16.eq_of_toBitVec_eq BitVec.extractLsb'_append_eq_left

/-- The first half of what is read. -/
@[simp] lemma firstHalf_load32 (b : ByteMem) (i : ℕ) : firstHalf (load32 b i) = load16 b i := by
  rw [load32_eq_ofHalves, firstHalf_ofHalves]

/-- Its second half. -/
@[simp] lemma secondHalf_load32 (b : ByteMem) (i : ℕ) :
    secondHalf (load32 b i) = load16 b (i + 2) := by
  rw [load32_eq_ofHalves, secondHalf_ofHalves]

/-- The first byte of what is read. -/
@[simp] lemma firstByte_load16 (b : ByteMem) (i : ℕ) : firstByte (load16 b i) = b i :=
  UInt8.eq_of_toBitVec_eq BitVec.extractLsb'_append_eq_right

/-- The first byte of a field that got another one. -/
@[simp] lemma firstByte_setFirstByte (v : UInt16) (a : UInt8) :
    firstByte (setFirstByte v a) = a :=
  UInt8.eq_of_toBitVec_eq BitVec.extractLsb'_append_eq_right

section Even

variable {b : ByteMem} {i j : ℕ}

/-- A 16-bit store reaches one 16-bit field. -/
lemma load16_store16_of_even (h : i % 2 = j % 2) (v : UInt16) :
    load16 (store16 b j v) i = if i = j then v else load16 b i := by
  split_ifs with hij
  · rw [hij, load16_store16_self]
  · exact load16_store16_of_disjoint (by omega)

/-- A 32-bit store reaches two. -/
lemma load16_store32_of_even (h : i % 2 = j % 2) (v : UInt32) :
    load16 (store32 b j v) i =
      if i = j then firstHalf v else if i = j + 2 then secondHalf v else load16 b i := by
  split_ifs with hfirst hsecond
  · rw [hfirst, ← firstHalf_load32, load32_store32_self]
  · rw [hsecond, ← secondHalf_load32, load32_store32_self]
  · exact load16_store32_of_disjoint (by omega)

/-- The store of a byte reaches the first one of a field. -/
lemma load16_store8_of_even (h : i % 2 = j % 2) (v : UInt8) :
    load16 (store8 b j v) i = if i = j then setFirstByte (load16 b i) v else load16 b i := by
  split_ifs with hij
  · subst hij
    apply UInt16.eq_of_toBitVec_eq
    have hsecond : ((b (i + 1)).toBitVec ++ (b i).toBitVec : BitVec 16).extractLsb' 8 8 =
        (b (i + 1)).toBitVec := BitVec.extractLsb'_append_eq_left
    simp [load16, store8, setFirstByte, hsecond]
  · exact load16_store8_of_disjoint (by omega)

end Even

/-! ### Byte order -/

/-- The two bytes of a 16-bit value exchanged. -/
def byteSwap16 (v : UInt16) : UInt16 :=
  ⟨v.toBitVec.extractLsb' 0 8 ++ v.toBitVec.extractLsb' 8 8⟩

/-- The four bytes of a 32-bit value in reverse order. -/
def byteSwap32 (v : UInt32) : UInt32 :=
  ⟨v.toBitVec.extractLsb' 0 8 ++ v.toBitVec.extractLsb' 8 8 ++
    (v.toBitVec.extractLsb' 16 8 ++ v.toBitVec.extractLsb' 24 8)⟩

/-- Exchanging the bytes twice is the identity. -/
@[simp] lemma byteSwap16_byteSwap16 (v : UInt16) : byteSwap16 (byteSwap16 v) = v := by
  apply UInt16.eq_of_toBitVec_eq
  have hlow : ∀ a b : BitVec 8, (a ++ b : BitVec 16).extractLsb' 0 8 = b :=
    fun a b => BitVec.extractLsb'_append_eq_right
  have hhigh : ∀ a b : BitVec 8, (a ++ b : BitVec 16).extractLsb' 8 8 = a :=
    fun a b => BitVec.extractLsb'_append_eq_left
  simp only [byteSwap16, hlow, hhigh]
  exact @BitVec.extractLsb'_append_extractLsb' 8 8 v.toBitVec

/-- The bytes of a 32-bit vector put together from four. -/
lemma extractLsb'_append_bytes (a b c d : BitVec 8) :
    (a ++ b ++ (c ++ d) : BitVec 32).extractLsb' 0 8 = d ∧
      (a ++ b ++ (c ++ d) : BitVec 32).extractLsb' 8 8 = c ∧
      (a ++ b ++ (c ++ d) : BitVec 32).extractLsb' 16 8 = b ∧
      (a ++ b ++ (c ++ d) : BitVec 32).extractLsb' 24 8 = a := by
  have hlow : ∀ (x y : BitVec 16) (i : ℕ), i + 8 ≤ 16 →
      (x ++ y : BitVec 32).extractLsb' i 8 = y.extractLsb' i 8 :=
    fun x y i hi => BitVec.extractLsb'_append_eq_of_add_le hi
  have hhigh : ∀ (x y : BitVec 16) (i : ℕ), 16 ≤ i →
      (x ++ y : BitVec 32).extractLsb' i 8 = x.extractLsb' (i - 16) 8 :=
    fun x y i hi => BitVec.extractLsb'_append_eq_of_le hi
  have hright : ∀ x y : BitVec 8, (x ++ y : BitVec 16).extractLsb' 0 8 = y :=
    fun x y => BitVec.extractLsb'_append_eq_right
  have hleft : ∀ x y : BitVec 8, (x ++ y : BitVec 16).extractLsb' 8 8 = x :=
    fun x y => BitVec.extractLsb'_append_eq_left
  simp only [hlow _ _ 0 (by omega), hlow _ _ 8 (by omega), hhigh _ _ 16 (by omega),
    hhigh _ _ 24 (by omega), Nat.sub_self, Nat.reduceSub, hright, hleft, and_self]

/-- The bytes of the reversed value are those of the value, last to first. -/
lemma extractLsb'_byteSwap32 (v : UInt32) :
    (byteSwap32 v).toBitVec.extractLsb' 0 8 = v.toBitVec.extractLsb' 24 8 ∧
      (byteSwap32 v).toBitVec.extractLsb' 8 8 = v.toBitVec.extractLsb' 16 8 ∧
      (byteSwap32 v).toBitVec.extractLsb' 16 8 = v.toBitVec.extractLsb' 8 8 ∧
      (byteSwap32 v).toBitVec.extractLsb' 24 8 = v.toBitVec.extractLsb' 0 8 :=
  extractLsb'_append_bytes _ _ _ _

/-- Inside the block the copied bytes are read. -/
lemma storeBlock_apply_add {b src : ByteMem} {i len j : ℕ} (hj : j < len) :
    storeBlock b i src len (i + j) = src j := by
  rw [storeBlock, if_pos (by omega), Nat.add_sub_cancel_left]

/-- Outside of it the memory is as it was. -/
lemma storeBlock_apply_of_disjoint {b src : ByteMem} {i len j : ℕ} (hj : j < i ∨ i + len ≤ j) :
    storeBlock b i src len j = b j := if_neg (by omega)

/-- A stored block depends on its own bytes only. -/
lemma storeBlock_congr {b src src' : ByteMem} {i len : ℕ} (h : ∀ j < len, src j = src' j) :
    storeBlock b i src len = storeBlock b i src' len := by
  funext j
  unfold storeBlock
  split_ifs with hin
  · exact h _ (by omega)
  · rfl

/-- A 16-bit field that is copied is copied byte by byte. -/
lemma store16_load16_apply (b p : ByteMem) (i k : ℕ) {j : ℕ} (hj : j < 2) :
    store16 b i (load16 p k) (i + j) = p (k + j) := by
  have hlow : ((p (k + 1)).toBitVec ++ (p k).toBitVec : BitVec 16).extractLsb' 0 8 =
      (p k).toBitVec := BitVec.extractLsb'_append_eq_right
  have hhigh : ((p (k + 1)).toBitVec ++ (p k).toBitVec : BitVec 16).extractLsb' 8 8 =
      (p (k + 1)).toBitVec := BitVec.extractLsb'_append_eq_left
  apply UInt8.eq_of_toBitVec_eq
  match j with
  | 0 => simpa [store16, load16] using hlow
  | 1 => simpa [store16, load16] using hhigh

/-- A 32-bit field that is copied is copied byte by byte. -/
lemma store32_load32_apply (b p : ByteMem) (i k : ℕ) {j : ℕ} (hj : j < 4) :
    store32 b i (load32 p k) (i + j) = p (k + j) := by
  obtain ⟨h0, h8, h16, h24⟩ := extractLsb'_append_bytes (p (k + 3)).toBitVec (p (k + 2)).toBitVec
    (p (k + 1)).toBitVec (p k).toBitVec
  apply UInt8.eq_of_toBitVec_eq
  match j with
  | 0 => simpa [store32, load32] using h0
  | 1 => simpa [store32, load32] using h8
  | 2 => simpa [store32, load32] using h16
  | 3 => simpa [store32, load32] using h24

/-- Reversing the bytes twice is the identity. -/
@[simp] lemma byteSwap32_byteSwap32 (v : UInt32) : byteSwap32 (byteSwap32 v) = v := by
  apply UInt32.eq_of_toBitVec_eq
  obtain ⟨h0, h8, h16, h24⟩ := extractLsb'_byteSwap32 v
  have hswap : (byteSwap32 (byteSwap32 v)).toBitVec =
      (byteSwap32 v).toBitVec.extractLsb' 0 8 ++ (byteSwap32 v).toBitVec.extractLsb' 8 8 ++
        ((byteSwap32 v).toBitVec.extractLsb' 16 8 ++
          (byteSwap32 v).toBitVec.extractLsb' 24 8) := rfl
  rw [hswap, h0, h8, h16, h24]
  exact append_extractLsb'_bytes v.toBitVec

end ByteMemory
