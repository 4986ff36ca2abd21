import NatRouter.Checksums
import NatRouter.Router.Passage

/-!
# Which checksums the router takes for right

`sr_handle_ippacket` tests the header checksum of every packet, and the ICMP checksum of a message to the
router.  Each test takes the stored checksum out, computes it again and compares.  A checksum that is
right has two spellings where its value is zero, and `cksum` writes the other one: a header with the
checksum 0 is dropped as corrupt however right it is.

The ICMP test is made over everything the packet was handed on with.  So it is a test of the message if
what lies behind the message adds nothing to the sum.
-/

namespace NatRouter

open ByteMemory InternetChecksum

variable {p : IpPacket}

/-- The header test: the header is right, and its checksum is not 0. -/
lemma headerTest_iff (p : IpPacket) :
    cksum (SrIpHdr.setIpSum p.buf 0) (ipHeaderLen p.buf) = SrIpHdr.ipSum p.buf ↔
      SrIpHdr.ipSum p.buf ≠ 0 ∧ 65535 ∣ spanSum p.buf 0 0 (ipHeaderLen p.buf) := by
  have ho := p.offset_ge
  have hle : ipHeaderLen p.buf ≤ 60 := ipHeaderLen_le p.buf
  have htest := @cksum_test_iff p.buf 0 10 (ipHeaderLen p.buf) rfl (by omega) (by omega)
  simp only [Nat.zero_add] at htest
  exact htest

/-- A header is right if it counts a multiple of 65535: it does not consist of zeros. -/
lemma ipSumValid_iff (p : IpPacket) :
    IpSumValid p.buf ↔ 65535 ∣ spanSum p.buf 0 0 (ipHeaderLen p.buf) := by
  have hhl : 5 ≤ (p.buf 0).toNat % 16 := p.headerLen
  have hpos : 0 < spanSum p.buf 0 0 (ipHeaderLen p.buf) := by
    have ho := p.offset_ge
    have hcut := spanSum_add p.buf 0 0 1 (ipHeaderLen p.buf - 1)
    have hfirst : spanSum p.buf 0 0 1 = 256 * (p.buf 0).toNat := by
      simp [spanSum, weight]
    rw [Nat.add_sub_cancel' (by omega), hfirst] at hcut
    omega
  exact (onesSum_words_iff _ _ _).trans (and_iff_left hpos)

/-- What is accepted of the packets that pass the size test. -/
lemma accepted_iff_ipSumValid (hmax : p.len ≤ ipMaxpacket) (hmin : UInt32.ofNat sizeofIpHdr < p.len) :
    Accepted p.buf p.len ↔ SrIpHdr.ipSum p.buf ≠ 0 ∧ IpSumValid p.buf := by
  rw [ipSumValid_iff, ← headerTest_iff]
  exact ⟨fun h => h.2.2, fun h => ⟨hmax, hmin, h⟩⟩

/-- The ICMP test: everything behind the header is right, and its checksum is not 0. -/
lemma icmpSumOk_iff (hmax : p.len ≤ ipMaxpacket) (hload : ipHeaderLen p.buf + 4 ≤ p.len.toNat) :
    IcmpSumOk p.buf p.len ↔ SrIcmpHdr.icmpSum p.buf (ipHeaderLen p.buf) ≠ 0 ∧
      65535 ∣ spanSum p.buf (ipHeaderLen p.buf) 0 (p.len.toNat - ipHeaderLen p.buf) := by
  have hle : p.len.toNat ≤ 65535 := UInt32.le_iff_toNat_le.mp hmax
  have hlen : loadLength p.len (ipHeaderLen p.buf) =
      ((p.len.toNat - ipHeaderLen p.buf : ℕ) : ℤ) := tcpSegmentLen_eq p.fits hmax
  unfold IcmpSumOk
  rw [hlen]
  exact @cksum_test_iff p.buf (ipHeaderLen p.buf) 2 (p.len.toNat - ipHeaderLen p.buf) rfl (by omega)
    (by omega)

/-- A message is right if it counts a multiple of 65535, unless it consists of zeros. -/
lemma icmpSumValid_iff {q : ByteMem} {n : ℕ} (hn : 4 ≤ n)
    (hsum : SrIcmpHdr.icmpSum q (ipHeaderLen q) ≠ 0) :
    IcmpSumValid q n ↔ 65535 ∣ spanSum q (ipHeaderLen q) 0 n :=
  (onesSum_words_iff _ _ _).trans (and_iff_left (@spanSum_pos q (ipHeaderLen q) 2 n rfl hn hsum))

/-- **The tests and the checksums.**  The header test is passed by the headers that are right, if the
checksum is not 0 or the header is not right anyhow.  The ICMP test is passed by the messages of `n` bytes
that are right, if the checksum is not 0 and what lies behind the message counts a multiple of 65535, or
neither the message nor all of it together with what lies behind is right with a checksum that is not 0. -/
theorem checksum_tests_exact_iff (p : IpPacket) (hmax : p.len ≤ ipMaxpacket)
    (hmin : UInt32.ofNat sizeofIpHdr < p.len) :
    ((Accepted p.buf p.len ↔ IpSumValid p.buf) ↔
      SrIpHdr.ipSum p.buf ≠ 0 ∨ ¬ IpSumValid p.buf) ∧
    ∀ n, 4 ≤ n → ipHeaderLen p.buf + n ≤ p.len.toNat →
      ((IcmpSumOk p.buf p.len ↔ IcmpSumValid p.buf n) ↔
        SrIcmpHdr.icmpSum p.buf (ipHeaderLen p.buf) ≠ 0 ∧
            65535 ∣ spanSum p.buf (ipHeaderLen p.buf) n (p.len.toNat - ipHeaderLen p.buf - n) ∨
          ¬ IcmpSumValid p.buf n ∧ (SrIcmpHdr.icmpSum p.buf (ipHeaderLen p.buf) = 0 ∨
            ¬ IcmpSumValid p.buf (p.len.toNat - ipHeaderLen p.buf))) := by
  constructor
  · rw [accepted_iff_ipSumValid hmax hmin]
    tauto
  · intro n hn hload
    rw [icmpSumOk_iff hmax (by omega)]
    by_cases hsum : SrIcmpHdr.icmpSum p.buf (ipHeaderLen p.buf) = 0
    · simp [hsum]
    · have hcut := spanSum_add p.buf (ipHeaderLen p.buf) 0 n (p.len.toNat - ipHeaderLen p.buf - n)
      rw [Nat.add_sub_cancel' (by omega), Nat.zero_add] at hcut
      rw [icmpSumValid_iff hn hsum, icmpSumValid_iff (by omega) hsum, hcut]
      simp only [hsum, ne_eq, not_false_eq_true, true_and, false_or]
      -- With the sums of the two parts as numbers the rest is divisibility.
      generalize spanSum p.buf (ipHeaderLen p.buf) 0 n = message
      generalize spanSum p.buf (ipHeaderLen p.buf) n _ = behind
      omega

/-- A ping from 10.0.0.1 to 8.8.104.217.  The words of its header other than the checksum add up to all
ones, so that its checksum is 0. -/
def zeroSumPing : IpPacket where
  buf := ofBytes [0x45, 0, 0, 28, 0, 0, 0, 0, 64, 1, 0, 0, 10, 0, 0, 1, 8, 8, 104, 217,
    8, 0, 0xf7, 0xff]
  len := 28
  headerLen := by decide
  fits := by decide

/-- The header test is not passed by all headers that are right, and the ICMP test is passed by the
message. -/
theorem checksum_tests_exact_zeroSumPing :
    ¬ (Accepted zeroSumPing.buf zeroSumPing.len ↔ IpSumValid zeroSumPing.buf) ∧
      (IcmpSumOk zeroSumPing.buf zeroSumPing.len ↔ IcmpSumValid zeroSumPing.buf 8) := by
  obtain ⟨hheader, hicmp⟩ := checksum_tests_exact_iff zeroSumPing (by decide) (by decide)
  constructor
  · rw [hheader]
    decide +kernel
  · rw [hicmp 8 (by decide) (by decide)]
    decide +kernel

/-- A header that is right is dropped. -/
theorem zero_checksum_dropped :
    IpSumValid zeroSumPing.buf ∧ ¬ Accepted zeroSumPing.buf zeroSumPing.len ∧
      ipAction twoSided true zeroSumPing.buf zeroSumPing.len = .ret .drop := by
  have hdropped : ¬ Accepted zeroSumPing.buf zeroSumPing.len := by decide +kernel
  exact ⟨by decide +kernel, hdropped, ipAction_of_not_accepted hdropped⟩

end NatRouter
