import NatRouter.Fields
import NatRouter.Lib.InternetChecksum
import NatRouter.Utils

/-!
# What `cksum` computes

`cksum` computes the complement of the one's complement sum of the string, in network byte order, but
never 0 (`cksum_law`).  What it returns is the one value other than 0 that makes the bytes it sums add
up to a multiple of 65535 (`cksum_eq_iff`).  So a message in which it has been filled in is right
(`cksum_filled`), and the test by which the router checks a message, which computes the checksum again
and compares, fails for a message that is right with the checksum 0 (`cksum_test_iff`).

What it means for a packet that its checksums are right is said here as well, in terms of the one's
complement sum and of the total length in its IP header.
-/

namespace NatRouter

open ByteMemory InternetChecksum Relation

/-! ### The function -/

/-- The sum that `cksum` accumulates, in 32 bits. -/
lemma toNat_cksumSum (data : ByteMem) (n i : ℕ) (s : UInt32) :
    (cksumSum data n i s).toNat = (s.toNat + spanSum data i 0 n) % 4294967296 := by
  have hhigh : ∀ x : UInt8, (x.toUInt32 <<< 8).toNat = 256 * x.toNat := by
    intro x
    have hlt := x.toNat_lt
    rw [UInt32.toNat_shiftLeft, UInt8.toNat_toUInt32, Nat.shiftLeft_eq]
    simp only [UInt32.reduceToNat, Nat.reduceMod, Nat.reducePow]
    omega
  have hword : ∀ x y : UInt8, (x.toUInt32 <<< 8 ||| y.toUInt32).toNat = 256 * x.toNat + y.toNat := by
    intro x y
    have hlt := y.toNat_lt
    have hor : 2 ^ 8 * x.toNat + y.toNat = 2 ^ 8 * x.toNat ||| y.toNat :=
      Nat.two_pow_add_eq_or_of_lt hlt x.toNat
    rw [UInt32.toNat_or, hhigh, UInt8.toNat_toUInt32]
    exact hor.symm
  fun_induction cksumSum data n i s with
  | case1 i s =>
    have hlt := s.toNat_lt
    simp only [spanSum]
    omega
  | case2 i s =>
    rw [UInt32.toNat_add, hhigh]
    simp [spanSum, weight]
  | case3 n i s ih =>
    have hfirst : spanSum data i 0 2 = 256 * (data i).toNat + (data (i + 1)).toNat := by
      simp [spanSum, weight]
    have hrest : spanSum data i (2 + 0) n = spanSum data (i + 2) 0 n := spanSum_shift rfl
    have hall : spanSum data i 0 (n + 2) =
        256 * (data i).toNat + (data (i + 1)).toNat + spanSum data (i + 2) 0 n := by
      rw [Nat.add_comm n 2, spanSum_add, hfirst, ← hrest]
    rw [ih, UInt32.toNat_add, hword, hall]
    omega

/-- The accumulator does not overflow: a pseudo header and the longest IP packet behind it count less
than 2^32. -/
lemma toNat_cksumSum_of_le {data : ByteMem} {n : ℕ} (hn : n ≤ 65547) :
    (cksumSum data n 0 0).toNat = (words data 0 n).sum := by
  have hle := spanSum_le data 0 0 n
  have hacc := toNat_cksumSum data n 0 0
  rw [UInt32.toNat_zero, Nat.zero_add] at hacc
  rw [hacc, sum_words]
  exact Nat.mod_eq_of_lt (by omega)

/-- What the folding loop leaves is the sum in one's complement. -/
lemma toNat_cksumFold_cksumSum {data : ByteMem} {n : ℕ} (hn : n ≤ 65547) :
    (cksumFold 2 (cksumSum data n 0 0)).toNat = onesSum (words data 0 n) := by
  have hfold := cksumFold_two_spec (cksumSum data n 0 0)
  have hones := onesSum_spec (words_le data 0 n)
  rw [toNat_cksumSum_of_le hn] at hfold
  omega

/-- What `cksum` returns, in host order: the complement of the sum, or 0xffff if that is 0. -/
lemma toNat_ntohs_cksum {data : ByteMem} {n : ℕ} (hn : n ≤ 65547) :
    (ntohs (cksum data n)).toNat =
      if 0xffff - onesSum (words data 0 n) = 0 then 0xffff else 0xffff - onesSum (words data 0 n) := by
  have hnot := toNat_complement_cksumFold (cksumSum data n 0 0)
  rw [toNat_cksumFold_cksumSum hn] at hnot
  have hzero : ∀ x : UInt16, htons x = 0 ↔ x = 0 := fun x => @htons_inj x 0
  unfold cksum
  rw [Int.toNat_natCast]
  simp only [ite_not, hzero, ne_eq, ← UInt16.toNat_inj, UInt16.toNat_zero, hnot]
  split_ifs
  · rfl
  · rw [ntohs_htons, hnot]

/-- **What `cksum` returns**: not 0, and otherwise what makes the sum a multiple of 65535. -/
theorem cksum_eq_iff {data : ByteMem} {n : ℕ} (hn : n ≤ 65547) {v : UInt16} :
    cksum data n = v ↔ v ≠ 0 ∧ 65535 ∣ spanSum data 0 0 n + (ntohs v).toNat := by
  obtain ⟨hle, hmod, -⟩ := onesSum_spec (words_le data 0 n)
  have hval := @toNat_ntohs_cksum data n hn
  have hlt := (ntohs v).toNat_lt
  have hinj : cksum data n = v ↔ (ntohs (cksum data n)).toNat = (ntohs v).toNat := by
    rw [UInt16.toNat_inj]
    exact htons_inj.symm
  have hzero : v = 0 ↔ (ntohs v).toNat = 0 := by
    rw [← UInt16.toNat_zero, UInt16.toNat_inj]
    exact (@htons_inj v 0).symm
  rw [sum_words] at hmod
  rw [hinj, ne_eq, hzero, hval]
  split_ifs <;> omega

/-- What a field holds in which the checksum of the `n` bytes from offset `i` on has been filled in: it
is not 0, and the message is right. -/
lemma cksum_filled {b : ByteMem} {i k n : ℕ} (hk : k % 2 = 0) (hfits : k + 2 ≤ n) (hn : n ≤ 65547)
    (hzero : load16 b (i + k) = 0) :
    cksum (fun j => b (i + j)) n ≠ 0 ∧
      65535 ∣ spanSum (store16 b (i + k) (cksum (fun j => b (i + j)) n)) i 0 n := by
  set v := cksum (fun j => b (i + j)) n
  obtain ⟨hne, hdvd⟩ := (cksum_eq_iff hn).mp (rfl : v = v)
  have hmessage : spanSum (fun j => b (i + j)) 0 0 n = spanSum b i 0 n :=
    spanSum_congr fun j _ _ => by rw [Nat.zero_add]
  have hfilled := @spanSum_store16 b i k n hk hfits v
  have hcleared : (byteSwap16 (load16 b (i + k))).toNat = 0 := by
    rw [hzero]
    rfl
  have hval : (byteSwap16 v).toNat = (ntohs v).toNat := rfl
  refine ⟨hne, ?_⟩
  omega

/-- A message with a checksum that is not 0 does not consist of zeros. -/
lemma spanSum_pos {b : ByteMem} {i k n : ℕ} (hk : k % 2 = 0) (hfits : k + 2 ≤ n)
    (hne : load16 b (i + k) ≠ 0) : 0 < spanSum b i 0 n := by
  have hcleared := @spanSum_store16 b i k n hk hfits 0
  have hzero : (byteSwap16 0).toNat = 0 := rfl
  have hval : (byteSwap16 (load16 b (i + k))).toNat ≠ 0 := fun h =>
    hne ((@htons_inj _ 0).mp (UInt16.toNat_inj.mp h))
  omega

/-- **The test by which the router checks a message**: the message passes it if it is right, and its
checksum is not 0. -/
theorem cksum_test_iff {b : ByteMem} {i k n : ℕ} (hk : k % 2 = 0) (hfits : k + 2 ≤ n)
    (hn : n ≤ 65547) :
    cksum (fun j => store16 b (i + k) 0 (i + j)) n = load16 b (i + k) ↔
      load16 b (i + k) ≠ 0 ∧ 65535 ∣ spanSum b i 0 n := by
  have hmessage : spanSum (fun j => store16 b (i + k) 0 (i + j)) 0 0 n =
      spanSum (store16 b (i + k) 0) i 0 n :=
    spanSum_congr fun j _ _ => by rw [Nat.zero_add]
  have hcleared := @spanSum_store16 b i k n hk hfits 0
  have hzero : (byteSwap16 0).toNat = 0 := rfl
  have hval : (byteSwap16 (load16 b (i + k))).toNat = (ntohs (load16 b (i + k))).toNat := rfl
  rw [cksum_eq_iff hn, hmessage]
  refine and_congr_right fun _ => ?_
  omega

/-! ### The law -/

/-- **What `cksum` is to do** with a string of `n` bytes. -/
structure ChecksumLaw (data : ByteMem) (n : ℕ) : Prop where
  /-- The loop over the words comes through every even length `m`.  What it has accumulated by then is
  the sum of the words in natural numbers, so no addition has overflowed. -/
  passes : ∀ m ≤ n, m % 2 = 0 →
    cksumSum data n 0 0 = cksumSum data (n - m) m (cksumSum data m 0 0) ∧
      (cksumSum data m 0 0).toNat = (words data 0 m).sum
  /-- Nor does the last addition overflow, be it that of an odd byte. -/
  accumulated : (cksumSum data n 0 0).toNat = (words data 0 n).sum
  /-- The folding loop makes some passes and ends. -/
  folded : ReflTransGen FoldStep (cksumSum data n 0 0) (cksumFold 2 (cksumSum data n 0 0)) ∧
    ∀ sum, ¬ FoldStep (cksumFold 2 (cksumSum data n 0 0)) sum
  /-- Written into a field of zeros at an even offset, the result makes the string right. -/
  filled : ∀ k, k % 2 = 0 → k + 2 ≤ n → load16 data k = 0 →
    onesSum (words (store16 data k (cksum data n)) 0 n) = 0xffff
  /-- It is the complement of the sum in one's complement, with 0xffff in the place of 0. -/
  complement : (ntohs (cksum data n)).toNat =
    if 0xffff - onesSum (words data 0 n) = 0 then 0xffff else 0xffff - onesSum (words data 0 n)

/-- **The law holds** of every string up to a pseudo header and 65535 bytes. -/
theorem cksum_law {data : ByteMem} {n : ℕ} (hn : n ≤ 65547) : ChecksumLaw data n where
  passes := by
    intro m hm heven
    have hpass := cksumSum_pass data heven (n - m) 0 0
    rw [Nat.add_sub_cancel' hm, Nat.zero_add] at hpass
    exact ⟨hpass, toNat_cksumSum_of_le (Nat.le_trans hm hn)⟩
  accumulated := toNat_cksumSum_of_le hn
  folded := ⟨foldSteps_cksumFold 2 _, not_foldStep_cksumFold_two _⟩
  filled := by
    intro k hk hfits hzero
    have hstring : (fun j => data (0 + j)) = data := funext fun j => congrArg data (Nat.zero_add j)
    have hfilled := @cksum_filled data 0 k n hk hfits hn ((Nat.zero_add k).symm ▸ hzero)
    rw [hstring, Nat.zero_add] at hfilled
    obtain ⟨hne, hdvd⟩ := hfilled
    have hpos : 0 < spanSum (store16 data k (cksum data n)) 0 0 n := by
      refine spanSum_pos hk hfits ?_
      rw [Nat.zero_add, load16_store16_self]
      exact hne
    exact (onesSum_words_iff _ 0 n).mpr ⟨hdvd, hpos⟩
  complement := toNat_ntohs_cksum hn

/-- The law for five bytes that begin with a field of zeros. -/
theorem cksum_law_oddString : cksum (ofBytes [0, 0, 0xf2, 0x03, 0xf4]) 5 = htons 0x19fb ∧
    ChecksumLaw (ofBytes [0, 0, 0xf2, 0x03, 0xf4]) 5 :=
  ⟨by decide, cksum_law (by decide)⟩

/-! ### Packets with the right checksums -/

/-- The total length in the IP header. -/
def ipTotalLen (p : ByteMem) : ℕ := (ntohs (SrIpHdr.ipLen p)).toNat

/-- The length of what the packet carries. -/
def ipLoadLen (p : ByteMem) : ℕ := ipTotalLen p - ipHeaderLen p

/-- The header and what lies behind it are the packet. -/
lemma ipHeaderLen_add_ipLoadLen {p : ByteMem} (h : ipHeaderLen p ≤ ipTotalLen p) :
    ipHeaderLen p + ipLoadLen p = ipTotalLen p :=
  Nat.add_sub_of_le h

/-- The header checksum is right. -/
def IpSumValid (p : ByteMem) : Prop := onesSum (words p 0 (ipHeaderLen p)) = 0xffff

/-- The checksum of the `n` bytes behind the IP header is right, as that of an ICMP message. -/
def IcmpSumValid (p : ByteMem) (n : ℕ) : Prop := onesSum (words p (ipHeaderLen p) n) = 0xffff

/-- The words of the pseudo header of a TCP segment of `n` bytes: the two addresses, the protocol behind
a byte of zeros, and the length. -/
def pseudoWords (p : ByteMem) (n : ℕ) : List ℕ := words p 12 8 ++ [(SrIpHdr.ipP p).toNat, n]

/-- The checksum of the `n` bytes behind the IP header is right, as that of a TCP segment. -/
def TcpSumValid (p : ByteMem) (n : ℕ) : Prop :=
  onesSum (pseudoWords p n ++ words p (ipHeaderLen p) n) = 0xffff

instance (p : ByteMem) : Decidable (IpSumValid p) := inferInstanceAs (Decidable (_ = _))

instance (p : ByteMem) (n : ℕ) : Decidable (IcmpSumValid p n) := inferInstanceAs (Decidable (_ = _))

instance (p : ByteMem) (n : ℕ) : Decidable (TcpSumValid p n) := inferInstanceAs (Decidable (_ = _))

/-- What the pseudo header counts. -/
lemma sum_pseudoWords (p : ByteMem) (n : ℕ) :
    (pseudoWords p n).sum = spanSum p 12 0 8 + (SrIpHdr.ipP p).toNat + n := by
  rw [pseudoWords, List.sum_append, sum_words]
  simp [Nat.add_assoc]

/-- A TCP checksum is right if the pseudo header and the segment count a multiple of 65535. -/
lemma tcpSumValid_iff {p : ByteMem} {n : ℕ} (hpos : 0 < n) (hn : n ≤ 65535) :
    TcpSumValid p n ↔ 65535 ∣ (pseudoWords p n).sum + spanSum p (ipHeaderLen p) 0 n := by
  have hproto := (SrIpHdr.ipP p).toNat_lt
  have hwords : ∀ w ∈ pseudoWords p n ++ words p (ipHeaderLen p) n, w ≤ 65535 := by
    intro w hw
    rcases List.mem_append.mp hw with hw | hw
    · rcases List.mem_append.mp hw with hw | hw
      · exact words_le p 12 8 w hw
      · simp only [List.mem_cons, List.not_mem_nil, or_false] at hw
        omega
    · exact words_le p _ n w hw
  rw [TcpSumValid, onesSum_eq_ones_iff hwords, List.sum_append, sum_words]
  have hsum := sum_pseudoWords p n
  exact and_iff_left (by omega)

end NatRouter
