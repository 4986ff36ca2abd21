import Mathlib.Data.Int.Notation
import Mathlib.Logic.Relation
import NatRouter.Protocol

/-!
# Checksum and address classes (`sr_utils.c`)

`cksum` is the Internet checksum the router verifies and writes; `isPrivateIp` is the test by which
the NAT tells an inside address from an outside one.
-/

namespace NatRouter

open ByteMemory Relation

/-- The accumulation loop of `cksum`: the big-endian 16-bit words of `data` from offset `i` on,
`len` bytes, a last odd byte counting as the high byte of a word.  The sum is a `uint32_t`. -/
def cksumSum (data : ByteMem) : ℕ → ℕ → UInt32 → UInt32
  | 0, _, sum => sum
  | 1, i, sum => sum + (data i).toUInt32 <<< 8
  | len + 2, i, sum =>
    cksumSum data len (i + 2) (sum + ((data i).toUInt32 <<< 8 ||| (data (i + 1)).toUInt32))

/-- The loop `while (sum > 0xffff) sum = (sum >> 16) + (sum & 0xffff)`, at most `fuel` times. -/
def cksumFold : ℕ → UInt32 → UInt32
  | 0, sum => sum
  | fuel + 1, sum =>
    if 0xffff < sum then cksumFold fuel ((sum >>> 16) + (sum &&& 0xffff)) else sum

/-- One pass of that loop: its condition holds, and its body is run. -/
def FoldStep (sum sum' : UInt32) : Prop := 0xffff < sum ∧ sum' = (sum >>> 16) + (sum &&& 0xffff)

/-- `cksumFold` makes passes of the loop. -/
lemma foldSteps_cksumFold (fuel : ℕ) (sum : UInt32) :
    ReflTransGen FoldStep sum (cksumFold fuel sum) := by
  induction fuel generalizing sum with
  | zero => exact .refl
  | succ fuel ih =>
    rw [cksumFold]
    split_ifs with hlt
    · exact .head ⟨hlt, rfl⟩ (ih _)
    · exact .refl

/-- One round of the folding loop, on numbers. -/
lemma toNat_foldStep (s : UInt32) :
    ((s >>> 16) + (s &&& 0xffff)).toNat = s.toNat / 65536 + s.toNat % 65536 := by
  have hlt : s.toNat < 4294967296 := s.toNat_lt
  have hand : s.toNat &&& 65535 = s.toNat % 65536 := Nat.and_two_pow_sub_one_eq_mod s.toNat 16
  simp only [UInt32.toNat_add, UInt32.toNat_shiftRight, UInt32.toNat_and, UInt32.reduceToNat,
    Nat.reduceMod, Nat.shiftRight_eq_div_pow, Nat.reducePow, hand]
  omega

/-- Two rounds of the folding loop are enough for every sum: what they leave has 16 bits.  It is the
sum modulo 65535, and 0 only if the sum is. -/
lemma cksumFold_two_spec (s : UInt32) : (cksumFold 2 s).toNat ≤ 0xffff ∧
    (cksumFold 2 s).toNat % 65535 = s.toNat % 65535 ∧
    ((cksumFold 2 s).toNat = 0 ↔ s.toNat = 0) := by
  have hlt : s.toNat < 4294967296 := s.toNat_lt
  have hstep := toNat_foldStep s
  have hstep' := toNat_foldStep ((s >>> 16) + (s &&& 0xffff))
  simp only [cksumFold, UInt32.lt_iff_toNat_lt, UInt32.reduceToNat]
  split_ifs <;> omega

/-- The folded sum has 16 bits. -/
lemma cksumFold_two_le (s : UInt32) : (cksumFold 2 s).toNat ≤ 0xffff := (cksumFold_two_spec s).1

/-- So the loop of `cksum` ends, and `cksumFold 2` is what it computes. -/
lemma not_foldStep_cksumFold_two (s s' : UInt32) : ¬ FoldStep (cksumFold 2 s) s' := by
  rintro ⟨hlt, -⟩
  exact Nat.not_lt.mpr (cksumFold_two_le s) (UInt32.lt_iff_toNat_lt.mp hlt)

/-- `cksum`: the complement of the folded sum in network byte order, with 0 sent as 0xffff.  The
length is a C `int`: a negative one sums nothing. -/
def cksum (data : ByteMem) (len : ℤ) : UInt16 :=
  let sum := htons (~~~ (cksumFold 2 (cksumSum data len.toNat 0 0))).toUInt16
  if sum ≠ 0 then sum else 0xffff

/-- The folded sum is the sum modulo 65535. -/
lemma cksumFold_two_mod (s : UInt32) : (cksumFold 2 s).toNat % 65535 = s.toNat % 65535 :=
  (cksumFold_two_spec s).2.1

/-- The complement of the folded sum, as a number. -/
lemma toNat_complement_cksumFold (s : UInt32) :
    (~~~ (cksumFold 2 s)).toUInt16.toNat = 65535 - (cksumFold 2 s).toNat := by
  have hle := cksumFold_two_le s
  have hsize : UInt32.size = 4294967296 := rfl
  rw [UInt32.toNat_toUInt16, UInt32.toNat_not]
  omega

/-- The checksum is 0xffff exactly if the sum is a multiple of 65535. -/
lemma cksum_eq_ffff_iff (data : ByteMem) (len : ℤ) :
    cksum data len = 0xffff ↔ 65535 ∣ (cksumSum data len.toNat 0 0).toNat := by
  have hle := cksumFold_two_le (cksumSum data len.toNat 0 0)
  have hmod := cksumFold_two_mod (cksumSum data len.toNat 0 0)
  have hnot := toNat_complement_cksumFold (cksumSum data len.toNat 0 0)
  have hzero : ∀ x : UInt16, htons x = 0 ↔ x = 0 := fun x => @htons_inj x 0
  have hones : ∀ x : UInt16, htons x = 0xffff ↔ x = 0xffff := fun x => @htons_inj x 0xffff
  unfold cksum
  simp only [ite_not, hzero]
  split_ifs with h
  · rw [← UInt16.toNat_inj, hnot, UInt16.toNat_zero] at h
    rw [eq_self, true_iff]
    omega
  · rw [← UInt16.toNat_inj, hnot, UInt16.toNat_zero] at h
    rw [hones, ← UInt16.toNat_inj, hnot, show UInt16.toNat 0xffff = 65535 from rfl]
    omega

/-- What is summed up already is added to the sum of the rest. -/
lemma cksumSum_add (data : ByteMem) (n i : ℕ) (s t : UInt32) :
    cksumSum data n i (s + t) = s + cksumSum data n i t := by
  fun_induction cksumSum data n i t generalizing s with
  | case1 i t => rfl
  | case2 i t => rw [cksumSum, UInt32.add_assoc]
  | case3 n i t ih => rw [cksumSum, UInt32.add_assoc, ih]

/-- The loop that sums `m` bytes and more has, on its way, summed these. -/
lemma cksumSum_pass (data : ByteMem) {m : ℕ} (hm : m % 2 = 0) (n i : ℕ) (s : UInt32) :
    cksumSum data (m + n) i s = cksumSum data n (i + m) (cksumSum data m i s) := by
  fun_induction cksumSum data m i s with
  | case1 i s => rw [Nat.zero_add, Nat.add_zero]
  | case2 i s => cases hm
  | case3 m i s ih =>
    rw [show m + 2 + n = (m + n) + 2 by omega, cksumSum, ih (by omega),
      show i + 2 + m = i + (m + 2) by omega]

/-- Bytes before the offset do not matter. -/
lemma cksumSum_congr {data data' : ByteMem} {n i : ℕ} {s : UInt32}
    (h : ∀ j, i ≤ j → j < i + n → data j = data' j) :
    cksumSum data n i s = cksumSum data' n i s := by
  fun_induction cksumSum data n i s with
  | case1 i s => rfl
  | case2 i s => rw [cksumSum, h i (Nat.le_refl _) (by omega)]
  | case3 n i s ih =>
    rw [cksumSum, ih fun j hj hlt => h j (by omega) (by omega), h i (Nat.le_refl _) (by omega),
      h (i + 1) (by omega) (by omega)]

/-- The checksum depends on the bytes that it is the checksum of. -/
lemma cksum_congr {data data' : ByteMem} {n : ℕ} (h : ∀ j < n, data j = data' j) :
    cksum data n = cksum data' n := by
  have hsum : cksumSum data n 0 0 = cksumSum data' n 0 0 :=
    cksumSum_congr fun j _ hj => h j (by omega)
  unfold cksum
  rw [Int.toNat_natCast, hsum]

/-- A byte adds at most 65535 to the sum. -/
lemma cksumSum_le (data : ByteMem) (n i : ℕ) (s : UInt32) :
    (cksumSum data n i s).toNat ≤ s.toNat + 65535 * n := by
  have hbyte : ∀ i, ((data i).toUInt32 <<< 8).toNat < 2 ^ 16 := by
    intro i
    have hlt := (data i).toNat_lt
    rw [UInt32.toNat_shiftLeft, UInt8.toNat_toUInt32, Nat.shiftLeft_eq]
    simp only [UInt32.reduceToNat, Nat.reduceMod, Nat.reducePow]
    omega
  fun_induction cksumSum data n i s with
  | case1 i s => omega
  | case2 i s =>
    have hlt := hbyte i
    rw [UInt32.toNat_add]
    omega
  | case3 n i s ih =>
    have hword : ((data i).toUInt32 <<< 8 ||| (data (i + 1)).toUInt32).toNat < 2 ^ 16 := by
      rw [UInt32.toNat_or]
      refine Nat.or_lt_two_pow (hbyte i) ?_
      have hlt := (data (i + 1)).toNat_lt
      rw [UInt8.toNat_toUInt32]
      omega
    rw [UInt32.toNat_add] at ih
    omega

/-- `is_private_ip`: true if the address, in host order, is taken for a private one. -/
def isPrivateIp (ip : UInt32) : Bool :=
  -- Class A: 10.0.0.0 — 10.255.255.255
  if ip &&& 0xff000000 = 0x0a000000 then true
  -- Class B: 172.16.0.0 — 172.31.255.255
  else if ip &&& 0xffff0000 = 0xac100000 then true
  -- Class C: 192.168.0.0 — 192.168.255.255
  else if ip &&& 0xffff0000 = 0xc0a80000 then true
  else false

end NatRouter
