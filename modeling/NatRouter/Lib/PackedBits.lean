import Mathlib.Data.Nat.Notation
import Mathlib.Tactic.Ring

/-!
# Bit arrays packed in words

A set of small numbers kept as an array of `n` machine words of `w` bits: bit `k` of the array is
bit `k % w` of word `k / w`.  `setBit` and `clearBit` are the usual read-modify-write of one word
with a shifted one; `scanWords` is the search for the first clear bit that walks the words in order
and, inside a word, tests the lowest bit and shifts right.  The shift is the arithmetic one, as on
a signed word: the sign bits it brings in are never reached, because a word is shifted fewer than
`w` times.

`testBit_setBit` and `testBit_clearBit` reduce every fact about an updated array to facts about the
old one, and an array is known by its bits (`eq_of_testBit`), so that setting a clear bit is undone
by clearing it (`clearBit_setBit`); `scanWords_isFirstClear` and `scanWords_eq_none` say what the
search finds.
-/

namespace PackedBits

/-- `n` words of `w` bits. -/
abbrev Words (w n : ℕ) := Vector (BitVec w) n

variable {w n : ℕ}

/-- The word at index `i`, zero past the end. -/
def word (A : Words w n) (i : ℕ) : BitVec w := A[i]?.getD 0#w

/-- Bit `k` of the array. -/
def testBit (A : Words w n) (k : ℕ) : Bool := (word A (k / w)).getLsbD (k % w)

/-- The array with bit `k` set. -/
def setBit (A : Words w n) (k : ℕ) : Words w n :=
  A.setIfInBounds (k / w) (word A (k / w) ||| 1#w <<< (k % w))

/-- The array with bit `k` cleared. -/
def clearBit (A : Words w n) (k : ℕ) : Words w n :=
  A.setIfInBounds (k / w) (word A (k / w) &&& ~~~(1#w <<< (k % w)))

/-! ### Reading an updated array -/

/-- Writing one word leaves the other words alone. -/
lemma word_setIfInBounds (A : Words w n) (i j : ℕ) (v : BitVec w) (hi : i < n) :
    word (A.setIfInBounds i v) j = if j = i then v else word A j := by
  unfold word
  by_cases hj : j = i
  · subst hj
    simp [hi]
  · have hne : i ≠ j := fun h => hj h.symm
    simp [hj, Vector.getElem?_setIfInBounds_ne hne]

/-- Bits in different places of the array are in different words or at different places of their
word. -/
lemma eq_of_div_eq_of_mod_eq {j k : ℕ} (hd : j / w = k / w) (hm : j % w = k % w) : j = k := by
  rw [← Nat.div_add_mod j w, ← Nat.div_add_mod k w, hd, hm]

/-- The word of a bit below `n * w` is one of the `n`. -/
lemma div_lt_of_lt {k : ℕ} (hk : k < n * w) : k / w < n :=
  Nat.div_lt_of_lt_mul (by rwa [Nat.mul_comm])

/-- A word width that leaves room for a bit is positive. -/
lemma pos_of_lt {k : ℕ} (hk : k < n * w) : 0 < w :=
  Nat.pos_of_ne_zero fun h => by simp [h] at hk

/-- Setting a bit sets that bit and no other. -/
lemma testBit_setBit (A : Words w n) {k : ℕ} (hk : k < n * w) (j : ℕ) :
    testBit (setBit A k) j = (decide (j = k) || testBit A j) := by
  have hw : 0 < w := pos_of_lt hk
  have hjm : j % w < w := Nat.mod_lt _ hw
  unfold testBit setBit
  rw [word_setIfInBounds _ _ _ _ (div_lt_of_lt hk)]
  by_cases hd : j / w = k / w
  · rw [if_pos hd, BitVec.getLsbD_or, hd, BitVec.getLsbD_shiftLeft, BitVec.getLsbD_one, Bool.or_comm]
    congr 1
    rw [Bool.eq_iff_iff]
    simp only [hjm, decide_true, Bool.true_and, Bool.and_eq_true, Bool.not_eq_true',
      decide_eq_false_iff_not, decide_eq_true_eq]
    constructor
    · rintro ⟨hle, -, h0⟩
      exact eq_of_div_eq_of_mod_eq hd (by omega)
    · rintro rfl
      omega
  · have hne : j ≠ k := fun h => hd (by rw [h])
    simp [hd, hne]

/-- Clearing a bit clears that bit and no other. -/
lemma testBit_clearBit (A : Words w n) {k : ℕ} (hk : k < n * w) (j : ℕ) :
    testBit (clearBit A k) j = (!decide (j = k) && testBit A j) := by
  have hw : 0 < w := pos_of_lt hk
  have hjm : j % w < w := Nat.mod_lt _ hw
  unfold testBit clearBit
  rw [word_setIfInBounds _ _ _ _ (div_lt_of_lt hk)]
  by_cases hd : j / w = k / w
  · rw [if_pos hd, BitVec.getLsbD_and, hd, BitVec.getLsbD_not, BitVec.getLsbD_shiftLeft,
      BitVec.getLsbD_one, Bool.and_comm]
    congr 1
    rw [Bool.eq_iff_iff]
    simp only [hjm, decide_true, Bool.true_and, Bool.not_eq_true', Bool.and_eq_false_imp,
      decide_eq_false_iff_not, decide_eq_true_eq]
    constructor
    · rintro h rfl
      exact absurd (h (by omega) (by omega)) (by omega)
    · intro hne hle _ h0
      exact hne (eq_of_div_eq_of_mod_eq hd (by omega))
  · have hne : j ≠ k := fun h => hd (by rw [h])
    simp [hd, hne]

/-- Bit `r` of word `i` is bit `i * w + r` of the array. -/
lemma testBit_word (A : Words w n) {i r : ℕ} (hr : r < w) :
    testBit A (i * w + r) = (word A i).getLsbD r := by
  have hw : 0 < w := by omega
  unfold testBit
  rw [Nat.mul_comm i w, Nat.mul_add_div hw, Nat.div_eq_of_lt hr, Nat.mul_add_mod,
    Nat.mod_eq_of_lt hr, Nat.add_zero]

/-- An array is known by its bits. -/
theorem eq_of_testBit {A B : Words w n} (h : ∀ k < n * w, testBit A k = testBit B k) : A = B := by
  apply Vector.ext
  intro i hi
  apply BitVec.eq_of_getLsbD_eq
  intro r hr
  have hlt : i * w + r < n * w := by
    have hle : (i + 1) * w ≤ n * w := Nat.mul_le_mul_right w hi
    rw [Nat.add_mul] at hle
    omega
  have hbit := h (i * w + r) hlt
  rw [testBit_word A hr, testBit_word B hr] at hbit
  simpa [word, hi] using hbit

/-- **Clearing undoes setting**: a bit that was clear is set and cleared again. -/
theorem clearBit_setBit (A : Words w n) {k : ℕ} (hk : k < n * w) (h : testBit A k = false) :
    clearBit (setBit A k) k = A := by
  refine eq_of_testBit fun j _ => ?_
  rw [testBit_clearBit _ hk, testBit_setBit _ hk]
  by_cases hj : j = k
  · rw [hj, h, decide_eq_true rfl, Bool.not_true, Bool.false_and]
  · rw [decide_eq_false hj, Bool.not_false, Bool.true_and, Bool.false_or]

/-- The all-zero array has no bit set. -/
lemma testBit_replicate_zero (k : ℕ) : testBit (Vector.replicate n 0#w) k = false := by
  unfold testBit word
  rw [Vector.getElem?_replicate]
  split <;> simp

/-! ### Searching for a clear bit -/

/-- Search a word for a clear bit: test the lowest bit, shift right, `fuel` times.  `j` is the
number of shifts made so far. -/
def scanWord (num : BitVec w) (j : ℕ) : ℕ → Option ℕ
  | 0 => none
  | fuel + 1 =>
    if num.getLsbD 0 = false then some j else scanWord (num.sshiftRight 1) (j + 1) fuel

/-- Search `fuel` words, from word `i` on, for the first clear bit. -/
def scanWords (A : Words w n) (i : ℕ) : ℕ → Option ℕ
  | 0 => none
  | fuel + 1 =>
    match scanWord (word A i) 0 w with
    | some j => some (i * w + j)
    | none => scanWords A (i + 1) fuel

/-- `k` is the first index of `[lo, hi)` at which `p` is false. -/
def IsFirstClear (p : ℕ → Bool) (lo hi k : ℕ) : Prop :=
  lo ≤ k ∧ k < hi ∧ p k = false ∧ ∀ j, lo ≤ j → j < k → p j = true

/-- It is the least of the indices of the interval at which `p` is false. -/
lemma IsFirstClear.isLeast {p : ℕ → Bool} {lo hi k : ℕ} (h : IsFirstClear p lo hi k) :
    IsLeast {j | lo ≤ j ∧ j < hi ∧ p j = false} k := by
  obtain ⟨hlo, hhi, hclear, hbelow⟩ := h
  refine ⟨⟨hlo, hhi, hclear⟩, ?_⟩
  rintro j ⟨hj, -, hfalse⟩
  by_contra hlt
  rw [hbelow j hj (Nat.not_le.mp hlt)] at hfalse
  cases hfalse

/-- A result of the word search is the first clear bit of the word: `num` is `orig` shifted `j`
times, so the bit tested next is bit `j` of `orig`. -/
lemma scanWord_isFirstClear {orig num : BitVec w} {j fuel r : ℕ} (hfuel : j + fuel ≤ w)
    (hnum : ∀ i, j + i < w → num.getLsbD i = orig.getLsbD (j + i))
    (h : scanWord num j fuel = some r) : IsFirstClear orig.getLsbD j (j + fuel) r := by
  induction fuel generalizing num j with
  | zero => simp [scanWord] at h
  | succ fuel ih =>
    have hbit : num.getLsbD 0 = orig.getLsbD j := by simpa using hnum 0 (by omega)
    unfold scanWord at h
    split_ifs at h with hclear
    · obtain rfl : j = r := by simpa using h
      exact ⟨Nat.le_refl _, by omega, hbit ▸ hclear, fun i hi hlt => absurd hlt (by omega)⟩
    · have hnum' : ∀ i, j + 1 + i < w →
          (num.sshiftRight 1).getLsbD i = orig.getLsbD (j + 1 + i) := by
        intro i hi
        rw [BitVec.getLsbD_sshiftRight, if_pos (by omega), hnum (1 + i) (by omega)]
        simp [show ¬ w ≤ i by omega, Nat.add_assoc]
      obtain ⟨hlo, hhi, hr, hbelow⟩ := ih (by omega) hnum' h
      refine ⟨by omega, by omega, hr, ?_⟩
      intro i hi hlt
      rcases Nat.eq_or_lt_of_le hi with rfl | hi'
      · rw [← hbit]; simpa using hclear
      · exact hbelow i hi' hlt

/-- The word search fails only on a word whose bits are all set. -/
lemma scanWord_eq_none {orig num : BitVec w} {j fuel : ℕ} (hfuel : j + fuel ≤ w)
    (hnum : ∀ i, j + i < w → num.getLsbD i = orig.getLsbD (j + i))
    (h : scanWord num j fuel = none) : ∀ i, j ≤ i → i < j + fuel → orig.getLsbD i = true := by
  induction fuel generalizing num j with
  | zero => intro i hi hlt; omega
  | succ fuel ih =>
    have hbit : num.getLsbD 0 = orig.getLsbD j := by simpa using hnum 0 (by omega)
    unfold scanWord at h
    split_ifs at h with hclear
    have hnum' : ∀ i, j + 1 + i < w →
        (num.sshiftRight 1).getLsbD i = orig.getLsbD (j + 1 + i) := by
      intro i hi
      rw [BitVec.getLsbD_sshiftRight, if_pos (by omega), hnum (1 + i) (by omega)]
      simp [show ¬ w ≤ i by omega, Nat.add_assoc]
    intro i hi hlt
    rcases Nat.eq_or_lt_of_le hi with rfl | hi'
    · rw [← hbit]; simpa using hclear
    · exact ih (by omega) hnum' h i hi' (by omega)

/-- A result of the array search is the first clear bit of the words searched. -/
lemma scanWords_isFirstClear (A : Words w n) {i fuel k : ℕ} (h : scanWords A i fuel = some k) :
    IsFirstClear (testBit A) (i * w) ((i + fuel) * w) k := by
  induction fuel generalizing i with
  | zero => simp [scanWords] at h
  | succ fuel ih =>
    have hstep : (i + (fuel + 1)) * w = i * w + w + fuel * w := by ring
    unfold scanWords at h
    cases hscan : scanWord (word A i) 0 w with
    | some r =>
      rw [hscan] at h
      obtain rfl : i * w + r = k := by simpa using h
      obtain ⟨-, hr, hclear, hbelow⟩ : IsFirstClear (word A i).getLsbD 0 (0 + w) r :=
        scanWord_isFirstClear (by omega) (by simp) hscan
      have hrw : r < w := by omega
      refine ⟨by omega, by omega, by rw [testBit_word A hrw]; exact hclear, ?_⟩
      intro j hj hlt
      obtain ⟨d, rfl⟩ := Nat.exists_eq_add_of_le hj
      rw [testBit_word A (by omega)]
      exact hbelow d (by omega) (by omega)
    | none =>
      rw [hscan] at h
      have hset : ∀ d, 0 ≤ d → d < 0 + w → (word A i).getLsbD d = true :=
        scanWord_eq_none (by omega) (by simp) hscan
      obtain ⟨hlo, hhi, hclear, hbelow⟩ := ih h
      have hnext : (i + 1) * w = i * w + w := by ring
      refine ⟨by omega, by rw [hstep]; rw [Nat.add_mul, hnext] at hhi; exact hhi, hclear,
        fun j hj hlt => ?_⟩
      rcases Nat.lt_or_ge j (i * w + w) with hin | hout
      · obtain ⟨d, rfl⟩ := Nat.exists_eq_add_of_le hj
        rw [testBit_word A (by omega)]
        exact hset d (by omega) (by omega)
      · exact hbelow j (by omega) hlt

/-- The array search fails only where every bit is set. -/
lemma scanWords_eq_none (A : Words w n) {i fuel : ℕ} (h : scanWords A i fuel = none) :
    ∀ k, i * w ≤ k → k < (i + fuel) * w → testBit A k = true := by
  induction fuel generalizing i with
  | zero => intro k hk hlt; simp at hlt; omega
  | succ fuel ih =>
    unfold scanWords at h
    cases hscan : scanWord (word A i) 0 w with
    | some r => simp [hscan] at h
    | none =>
      rw [hscan] at h
      have hset : ∀ d, 0 ≤ d → d < 0 + w → (word A i).getLsbD d = true :=
        scanWord_eq_none (by omega) (by simp) hscan
      have hnext : (i + 1) * w = i * w + w := by ring
      have hstep : (i + 1 + fuel) * w = (i + (fuel + 1)) * w := by ring
      intro k hk hlt
      rcases Nat.lt_or_ge k (i * w + w) with hin | hout
      · obtain ⟨d, rfl⟩ := Nat.exists_eq_add_of_le hk
        rw [testBit_word A (by omega)]
        exact hset d (by omega) (by omega)
      · exact ih h k (by omega) (by rw [hstep]; exact hlt)

end PackedBits
