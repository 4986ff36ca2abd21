import Mathlib.Algebra.BigOperators.Group.List.Defs
import Mathlib.Algebra.GroupWithZero.Nat
import NatRouter.Lib.ByteMemory

/-!
# The Internet checksum

A message is checked by adding up its 16-bit words, in network byte order, in one's complement: the
carry out of the top comes back in at the bottom (`onesAdd`).  If the message contains the right checksum
the sum is all ones (`onesSum`).

One's complement addition is addition modulo 65535 with two zeros, 0 and 65535, and it comes to the first
only if nothing was added but zeros (`onesSum_eq_ones_iff`).  So statements about checksums are statements
about sums of numbers, and these are told byte by byte: a byte at an even offset counts 256 times its
value (`spanSum`), a stretch of bytes can be cut anywhere (`spanSum_add`), and what a field adds to it is
its value (`spanSum_store16`).
-/

namespace InternetChecksum

open ByteMemory

/-- The sum of two 16-bit words in one's complement. -/
def onesAdd (a b : ℕ) : ℕ := if a + b < 65536 then a + b else a + b - 65535

/-- The sum of 16-bit words in one's complement. -/
def onesSum (ws : List ℕ) : ℕ := ws.foldl onesAdd 0

/-- The 16-bit words of the `n` bytes from offset `i` on.  A last odd byte is the high byte of a word. -/
def words (b : ByteMem) : ℕ → ℕ → List ℕ
  | _, 0 => []
  | i, 1 => [256 * (b i).toNat]
  | i, n + 2 => (256 * (b i).toNat + (b (i + 1)).toNat) :: words b (i + 2) n

/-- What a byte at offset `j` of a message counts. -/
def weight (j : ℕ) : ℕ := if j % 2 = 0 then 256 else 1

/-- What the `n` bytes from offset `lo` on of the message at `i` count. -/
def spanSum (b : ByteMem) (i lo : ℕ) : ℕ → ℕ
  | 0 => 0
  | n + 1 => spanSum b i lo n + weight (lo + n) * (b (i + (lo + n))).toNat

/-! ### Sums in one's complement -/

/-- Adding up from `a` on. -/
lemma foldl_onesAdd {a : ℕ} {ws : List ℕ} (ha : a ≤ 65535) (hws : ∀ w ∈ ws, w ≤ 65535) :
    ws.foldl onesAdd a ≤ 65535 ∧ ws.foldl onesAdd a % 65535 = (a + ws.sum) % 65535 ∧
      (ws.foldl onesAdd a = 0 ↔ a + ws.sum = 0) := by
  induction ws generalizing a with
  | nil => exact ⟨ha, rfl, Iff.rfl⟩
  | cons w ws ih =>
    have hw : w ≤ 65535 := hws w List.mem_cons_self
    have hadd : onesAdd a w ≤ 65535 ∧ onesAdd a w % 65535 = (a + w) % 65535 ∧
        (onesAdd a w = 0 ↔ a + w = 0) := by
      unfold onesAdd
      split <;> omega
    obtain ⟨hle, hmod, hzero⟩ := ih hadd.1 fun x hx => hws x (List.mem_cons_of_mem _ hx)
    rw [List.foldl_cons, List.sum_cons]
    omega

/-- **What the sum is**: a 16-bit number that is the sum of the words modulo 65535, and 0 only if all
of them are. -/
theorem onesSum_spec {ws : List ℕ} (hws : ∀ w ∈ ws, w ≤ 65535) :
    onesSum ws ≤ 65535 ∧ onesSum ws % 65535 = ws.sum % 65535 ∧ (onesSum ws = 0 ↔ ws.sum = 0) := by
  have hfold := foldl_onesAdd (Nat.zero_le _) hws
  rw [Nat.zero_add] at hfold
  exact hfold

/-- **The sum is all ones** if it is a multiple of 65535, and not of zeros only. -/
theorem onesSum_eq_ones_iff {ws : List ℕ} (hws : ∀ w ∈ ws, w ≤ 65535) :
    onesSum ws = 0xffff ↔ 65535 ∣ ws.sum ∧ 0 < ws.sum := by
  obtain ⟨hle, hmod, hzero⟩ := onesSum_spec hws
  omega

/-! ### The words of a message -/

section Spans

variable {b b' : ByteMem} {i lo k n : ℕ}

/-- The words of a message have 16 bits. -/
lemma words_le (b : ByteMem) (i n : ℕ) : ∀ w ∈ words b i n, w ≤ 65535 := by
  fun_induction words b i n with
  | case1 i => simp
  | case2 i =>
    have hlt := (b i).toNat_lt
    simp
    omega
  | case3 i n ih =>
    have hlt := (b i).toNat_lt
    have hlt' := (b (i + 1)).toNat_lt
    intro w hw
    rcases List.mem_cons.mp hw with rfl | hw
    · omega
    · exact ih w hw

/-- A stretch of bytes can be cut. -/
lemma spanSum_add (b : ByteMem) (i lo m n : ℕ) :
    spanSum b i lo (m + n) = spanSum b i lo m + spanSum b i (lo + m) n := by
  induction n with
  | zero => rfl
  | succ n ih => rw [← Nat.add_assoc, spanSum, spanSum, ih, Nat.add_assoc lo m n, Nat.add_assoc]

/-- A stretch of bytes counts what its bytes do, wherever the message is. -/
lemma spanSum_congr {i' : ℕ} (h : ∀ j, lo ≤ j → j < lo + n → b (i + j) = b' (i' + j)) :
    spanSum b i lo n = spanSum b' i' lo n := by
  induction n with
  | zero => rfl
  | succ n ih =>
    rw [spanSum, spanSum, ih fun j hlo hhi => h j hlo (by omega), h (lo + n) (by omega) (by omega)]

/-- Behind an even number of bytes a message can be taken to begin. -/
lemma spanSum_shift (hk : k % 2 = 0) : spanSum b i (k + lo) n = spanSum b (i + k) lo n := by
  induction n with
  | zero => rfl
  | succ n ih =>
    have hweight : weight (k + lo + n) = weight (lo + n) := by
      unfold weight
      rw [show (k + lo + n) % 2 = (lo + n) % 2 by omega]
    rw [spanSum, spanSum, ih, hweight, show i + (k + lo + n) = i + k + (lo + n) by omega]

/-- A byte counts at most 65280. -/
lemma spanSum_le (b : ByteMem) (i lo n : ℕ) : spanSum b i lo n ≤ 65280 * n := by
  induction n with
  | zero => exact Nat.le_refl _
  | succ n ih =>
    have hlt := (b (i + (lo + n))).toNat_lt
    have hbyte : weight (lo + n) * (b (i + (lo + n))).toNat ≤ 65280 := by
      unfold weight
      split <;> omega
    rw [spanSum]
    omega

/-- The words of a message count what its bytes do. -/
lemma sum_words (b : ByteMem) (i n : ℕ) : (words b i n).sum = spanSum b i 0 n := by
  fun_induction words b i n with
  | case1 i => rfl
  | case2 i => simp [spanSum, weight]
  | case3 i n ih =>
    have hfirst : spanSum b i 0 2 = 256 * (b i).toNat + (b (i + 1)).toNat := by
      simp [spanSum, weight]
    have hrest : spanSum b i (2 + 0) n = spanSum b (i + 2) 0 n := spanSum_shift rfl
    rw [List.sum_cons, ih, show n.succ.succ = 2 + n by omega, spanSum_add, hfirst, ← hrest]

/-- **A message is right** if what its bytes count is a multiple of 65535, and not nothing. -/
theorem onesSum_words_iff (b : ByteMem) (i n : ℕ) :
    onesSum (words b i n) = 0xffff ↔ 65535 ∣ spanSum b i 0 n ∧ 0 < spanSum b i 0 n := by
  rw [onesSum_eq_ones_iff (words_le b i n), sum_words]

/-! ### Fields -/

/-- A 16-bit field at an even offset counts its value in network byte order. -/
lemma spanSum_load16 (hk : k % 2 = 0) :
    spanSum b i k 2 = (byteSwap16 (load16 b (i + k))).toNat := by
  have hvalue : ∀ x y : UInt8, (byteSwap16 ⟨y.toBitVec ++ x.toBitVec⟩).toNat =
      256 * x.toNat + y.toNat := by
    intro x y
    have hlow : (y.toBitVec ++ x.toBitVec : BitVec 16).extractLsb' 0 8 = x.toBitVec :=
      BitVec.extractLsb'_append_eq_right
    have hhigh : (y.toBitVec ++ x.toBitVec : BitVec 16).extractLsb' 8 8 = y.toBitVec :=
      BitVec.extractLsb'_append_eq_left
    have hlt : y.toBitVec.toNat < 2 ^ 8 := y.toBitVec.isLt
    unfold byteSwap16
    simp only [hlow, hhigh]
    change (x.toBitVec ++ y.toBitVec).toNat = _
    rw [BitVec.toNat_append, ← Nat.shiftLeft_add_eq_or_of_lt hlt, Nat.shiftLeft_eq]
    change x.toNat * 2 ^ 8 + y.toNat = _
    omega
  have hweight : weight k = 256 ∧ weight (k + 1) = 1 := by
    unfold weight
    constructor
    · rw [if_pos hk]
    · rw [if_neg (by omega)]
  unfold load16
  rw [hvalue]
  simp [spanSum, hweight.1, hweight.2, Nat.add_assoc]

/-- **What a field adds is its value**: a message in which a field has been written counts the new value
in place of the old one. -/
lemma spanSum_store16 (hk : k % 2 = 0) (hfits : k + 2 ≤ n) (v : UInt16) :
    spanSum (store16 b (i + k) v) i 0 n + (byteSwap16 (load16 b (i + k))).toNat =
      spanSum b i 0 n + (byteSwap16 v).toNat := by
  have hcut : ∀ c : ByteMem, spanSum c i 0 n =
      spanSum c i 0 k + (byteSwap16 (load16 c (i + k))).toNat + spanSum c i (k + 2) (n - (k + 2)) := by
    intro c
    have hn : n = k + 2 + (n - (k + 2)) := by omega
    conv_lhs => rw [hn]
    rw [spanSum_add, spanSum_add, Nat.zero_add, Nat.zero_add, spanSum_load16 hk]
  have hbefore : spanSum (store16 b (i + k) v) i 0 k = spanSum b i 0 k :=
    spanSum_congr fun j _ hj => store16_apply_of_disjoint (by omega)
  have hbehind : spanSum (store16 b (i + k) v) i (k + 2) (n - (k + 2)) =
      spanSum b i (k + 2) (n - (k + 2)) :=
    spanSum_congr fun j hj _ => store16_apply_of_disjoint (by omega)
  rw [hcut, hcut b, hbefore, hbehind, load16_store16_self]
  omega

end Spans

end InternetChecksum
