import Mathlib.Algebra.GroupWithZero.Nat
import NatRouter.Lib.ByteMemory

/-!
# Packed binary data (`struct` of Python)

`pack` and `unpack` of Python's `struct` module for formats in network byte order (`>`), which knows
no alignment: a format is a list of codes, `I` for an unsigned 32-bit integer and `ns` for a string
of `n` bytes.  A string is cut or padded with zero bytes to its width, an integer that does not fit
is an error, and so is a buffer that is not exactly as long as the format.

What is packed has the size of the format (`length_of_pack`) and is unpacked to the values, the
strings padded (`unpack_of_pack`).  In memory, a big-endian word is what a little-endian machine
loads with its bytes reversed (`load32_of_holds`, `holds_store32`), and a padded string read up to
its first zero byte is the string (`takeWhile_padded`).
-/

namespace StructPack

open ByteMemory

/-- A code of a format. -/
inductive Code where
  /-- `I`: an unsigned 32-bit integer. -/
  | u32
  /-- `ns`: a string of `n` bytes. -/
  | str (n : ℕ)

/-- A value to be packed. -/
inductive Value where
  /-- An integer. -/
  | int (v : ℕ)
  /-- A string. -/
  | str (s : List UInt8)
  deriving DecidableEq

/-- The four bytes of a word, most significant first. -/
def be32 (v : UInt32) : List UInt8 :=
  [⟨v.toBitVec.extractLsb' 24 8⟩, ⟨v.toBitVec.extractLsb' 16 8⟩, ⟨v.toBitVec.extractLsb' 8 8⟩,
    ⟨v.toBitVec.extractLsb' 0 8⟩]

/-- The two bytes of a short word, most significant first. -/
def be16 (v : UInt16) : List UInt8 :=
  [⟨v.toBitVec.extractLsb' 8 8⟩, ⟨v.toBitVec.extractLsb' 0 8⟩]

/-- The short word that the first two bytes make. -/
def ofBe16 (l : List UInt8) : UInt16 := ⟨(l.getD 0 0).toBitVec ++ (l.getD 1 0).toBitVec⟩

/-- The word that the first four bytes make. -/
def ofBe32 (l : List UInt8) : UInt32 :=
  ⟨(l.getD 0 0).toBitVec ++ (l.getD 1 0).toBitVec ++
    ((l.getD 2 0).toBitVec ++ (l.getD 3 0).toBitVec)⟩

/-- A string cut or padded with zero bytes to width `n`. -/
def padded (n : ℕ) (s : List UInt8) : List UInt8 := s.take n ++ List.replicate (n - s.length) 0

/-- The width of a code. -/
def Code.size : Code → ℕ
  | .u32 => 4
  | .str n => n

/-- `struct.calcsize`. -/
def calcsize (fmt : List Code) : ℕ := (fmt.map Code.size).sum

/-- One value packed. -/
def Code.pack : Code → Value → Option (List UInt8)
  | .u32, .int v => if v < 2 ^ 32 then some (be32 (UInt32.ofNat v)) else none
  | .str n, .str s => some (padded n s)
  | _, _ => none

/-- `struct.pack`. -/
def pack : List Code → List Value → Option (List UInt8)
  | [], [] => some []
  | code :: fmt, v :: vs =>
    match code.pack v, pack fmt vs with
    | some l, some rest => some (l ++ rest)
    | _, _ => none
  | _, _ => none

/-- The values in a buffer that is long enough. -/
def unpackFrom : List Code → List UInt8 → List Value
  | [], _ => []
  | .u32 :: fmt, l => .int (ofBe32 l).toNat :: unpackFrom fmt (l.drop 4)
  | .str n :: fmt, l => .str (l.take n) :: unpackFrom fmt (l.drop n)

/-- `struct.unpack`. -/
def unpack (fmt : List Code) (l : List UInt8) : Option (List Value) :=
  if l.length = calcsize fmt then some (unpackFrom fmt l) else none

/-- What is unpacked of a value that was packed. -/
def Code.stored : Code → Value → Value
  | .str n, .str s => .str (padded n s)
  | _, v => v

/-! ### Words and strings -/

@[simp] lemma length_be32 (v : UInt32) : (be32 v).length = 4 := rfl

@[simp] lemma length_be16 (v : UInt16) : (be16 v).length = 2 := rfl

@[simp] lemma length_padded (n : ℕ) (s : List UInt8) : (padded n s).length = n := by
  simp only [padded, List.length_append, List.length_take, List.length_replicate]
  omega

/-- A word is read back. -/
@[simp] lemma ofBe32_be32_append (v : UInt32) (l : List UInt8) : ofBe32 (be32 v ++ l) = v :=
  UInt32.eq_of_toBitVec_eq (append_extractLsb'_bytes v.toBitVec)

/-- A short word is read back. -/
@[simp] lemma ofBe16_be16 (v : UInt16) : ofBe16 (be16 v) = v := by
  apply UInt16.eq_of_toBitVec_eq
  exact @BitVec.extractLsb'_append_extractLsb' 8 8 v.toBitVec

lemma ofBe32_be32 (v : UInt32) : ofBe32 (be32 v) = v := by
  simpa using ofBe32_be32_append v []

/-- Four bytes are those of the word they make. -/
lemma be32_ofBe32 {l : List UInt8} (h : l.length = 4) : be32 (ofBe32 l) = l := by
  obtain ⟨a, b, c, d, rfl⟩ : ∃ a b c d, l = [a, b, c, d] := by
    match l, h with
    | [a, b, c, d], _ => exact ⟨a, b, c, d, rfl⟩
  obtain ⟨h0, h8, h16, h24⟩ := extractLsb'_append_bytes a.toBitVec b.toBitVec c.toBitVec d.toBitVec
  simp [be32, ofBe32, h0, h8, h16, h24]

/-- A string that fits is padded only. -/
lemma padded_of_le {n : ℕ} {s : List UInt8} (h : s.length ≤ n) :
    padded n s = s ++ List.replicate (n - s.length) 0 := by
  rw [padded, List.take_of_length_le h]

/-- A padded string with more zero bytes behind it, read up to its first zero byte. -/
lemma takeWhile_padded {n : ℕ} {s : List UInt8} (hs : 0 ∉ s) (h : s.length < n) (l : List UInt8) :
    (padded n s ++ l).takeWhile (· ≠ 0) = s := by
  obtain ⟨k, hk⟩ : ∃ k, n - s.length = k + 1 := ⟨n - s.length - 1, by omega⟩
  have hall : ∀ x ∈ s, decide (x ≠ 0) = true := fun x hx => decide_eq_true fun h0 => hs (h0 ▸ hx)
  rw [padded_of_le (Nat.le_of_lt h), hk, List.replicate_succ, List.append_assoc,
    List.takeWhile_append_of_pos hall]
  simp

/-- A padded string without its zero bytes. -/
lemma filter_padded {n : ℕ} {s : List UInt8} (hs : 0 ∉ s) (h : s.length ≤ n) :
    (padded n s).filter (· ≠ 0) = s := by
  have hall : ∀ x ∈ s, decide (x ≠ 0) = true := fun x hx => decide_eq_true fun h0 => hs (h0 ▸ hx)
  rw [padded_of_le h, List.filter_append, List.filter_eq_self.mpr hall]
  simp

/-! ### Packing and unpacking -/

/-- A packed value has the width of its code. -/
lemma Code.length_of_pack {code : Code} {v : Value} {l : List UInt8} (h : code.pack v = some l) :
    l.length = code.size := by
  cases code with
  | u32 =>
    cases v with
    | int v =>
      simp only [Code.pack] at h
      split_ifs at h
      cases h
      rfl
    | str s => cases h
  | str n =>
    cases v with
    | int v => cases h
    | str s =>
      cases h
      exact length_padded n s

/-- A buffer that was packed is as long as its format. -/
lemma length_of_pack {fmt : List Code} {vs : List Value} {l : List UInt8}
    (h : pack fmt vs = some l) : l.length = calcsize fmt := by
  induction fmt generalizing vs l with
  | nil =>
    cases vs with
    | nil =>
      cases h
      rfl
    | cons v vs => cases h
  | cons code fmt ih =>
    cases vs with
    | nil => cases h
    | cons v vs =>
      unfold pack at h
      split at h
      · rename_i l₁ l₂ hv hrest
        cases h
        rw [List.length_append, Code.length_of_pack hv, ih hrest]
        rfl
      · cases h

/-- The values of a buffer that was packed, whatever comes behind it. -/
lemma unpackFrom_of_pack {fmt : List Code} {vs : List Value} {l : List UInt8}
    (h : pack fmt vs = some l) (l' : List UInt8) :
    unpackFrom fmt (l ++ l') = List.zipWith Code.stored fmt vs := by
  induction fmt generalizing vs l with
  | nil =>
    cases vs with
    | nil => rfl
    | cons v vs => cases h
  | cons code fmt ih =>
    cases vs with
    | nil => cases h
    | cons v vs =>
      unfold pack at h
      split at h
      · rename_i l₁ l₂ hv hrest
        cases h
        have htail := ih hrest
        rw [List.append_assoc]
        cases code with
        | u32 =>
          cases v with
          | int v =>
            simp only [Code.pack] at hv
            split_ifs at hv with hlt
            cases hv
            rw [unpackFrom, ofBe32_be32_append, List.drop_left' (length_be32 _), htail,
              UInt32.toNat_ofNat_of_lt' hlt]
            rfl
          | str s => cases hv
        | str n =>
          cases v with
          | int v => cases hv
          | str s =>
            cases hv
            rw [unpackFrom, List.take_left' (length_padded n s), List.drop_left' (length_padded n s),
              htail]
            rfl
      · cases h

/-- **Round trip**: what was packed is unpacked to the values, the strings padded. -/
theorem unpack_of_pack {fmt : List Code} {vs : List Value} {l : List UInt8}
    (h : pack fmt vs = some l) : unpack fmt l = some (List.zipWith Code.stored fmt vs) := by
  have hfrom := unpackFrom_of_pack h []
  rw [List.append_nil] at hfrom
  rw [unpack, if_pos (length_of_pack h), hfrom]

/-! ### Words in memory -/

/-- A big-endian word in memory, loaded by a little-endian machine. -/
lemma load32_of_holds {b : ByteMem} {i : ℕ} {v : UInt32} (h : Holds b i (be32 v)) :
    load32 b i = byteSwap32 v := by
  have h0 : b i = ⟨v.toBitVec.extractLsb' 24 8⟩ := h 0 (by simp)
  have h1 : b (i + 1) = ⟨v.toBitVec.extractLsb' 16 8⟩ := h 1 (by simp)
  have h2 : b (i + 2) = ⟨v.toBitVec.extractLsb' 8 8⟩ := h 2 (by simp)
  have h3 : b (i + 3) = ⟨v.toBitVec.extractLsb' 0 8⟩ := h 3 (by simp)
  rw [load32, h0, h1, h2, h3]
  rfl

/-- A word that a little-endian machine stores with its bytes reversed is big-endian. -/
lemma holds_store32 (b : ByteMem) (i : ℕ) (v : UInt32) :
    Holds (store32 b i (byteSwap32 v)) i (be32 v) := by
  obtain ⟨h0, h8, h16, h24⟩ := extractLsb'_byteSwap32 v
  intro j hj
  have hcases : j = 0 ∨ j = 1 ∨ j = 2 ∨ j = 3 := by
    rw [length_be32] at hj
    omega
  rcases hcases with rfl | rfl | rfl | rfl <;> simp [store32, be32, h0, h8, h16, h24]

/-- So is a short word. -/
lemma holds_store16 (b : ByteMem) (i : ℕ) (v : UInt16) :
    Holds (store16 b i (byteSwap16 v)) i (be16 v) := by
  have hlow : ∀ a b : BitVec 8, (a ++ b : BitVec 16).extractLsb' 0 8 = b :=
    fun a b => BitVec.extractLsb'_append_eq_right
  have hhigh : ∀ a b : BitVec 8, (a ++ b : BitVec 16).extractLsb' 8 8 = a :=
    fun a b => BitVec.extractLsb'_append_eq_left
  intro j hj
  have hcases : j = 0 ∨ j = 1 := by
    rw [length_be16] at hj
    omega
  rcases hcases with rfl | rfl <;> simp [store16, byteSwap16, be16, hlow, hhigh]

end StructPack
