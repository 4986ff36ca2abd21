import NatRouter.Checksums
import NatRouter.Nat.Execution

/-!
# The checksums of a translated packet

The handlers fill in both checksums of a packet they have translated.  The checksum of a TCP segment is
that of as many bytes as the packet was handed on with, that of an ICMP message of as many as the packet
would have behind an IP header without options, and the header checksum that of the first 20 bytes.  What
the three sums come to is said here.
-/

namespace NatRouter

open ByteMemory InternetChecksum Interleaving

/-- The buffer that `nat_handle_tcp` sums counts what the pseudo header and the segment do. -/
lemma spanSum_tcpChecksumBuffer (p : ByteMem) (o : ℕ) {n : ℕ} (hn : n ≤ 65535) :
    spanSum (tcpChecksumBuffer p o n) 0 0 (12 + n) = (pseudoWords p n).sum + spanSum p o 0 n := by
  have hpseudo : ∀ j < 12, tcpChecksumBuffer p o n j = store16 (store8 (store8 (store32 (store32
      (fun _ => 0) 0 (SrIpHdr.ipSrc p)) 4 (SrIpHdr.ipDst p)) 8 0) 9 (SrIpHdr.ipP p)) 10
        (htons ⟨BitVec.ofInt 16 n⟩) j := fun j hj => if_pos hj
  have haddresses : spanSum (tcpChecksumBuffer p o n) 0 0 8 = spanSum p 12 0 8 := by
    refine spanSum_congr fun j _ hj => ?_
    rw [Nat.zero_add, hpseudo j (by omega), store16_apply_of_disjoint (by omega),
      store8_apply_of_ne (by omega), store8_apply_of_ne (by omega)]
    rcases Nat.lt_or_ge j 4 with hlow | hhigh
    · rw [store32_apply_of_disjoint (by omega)]
      have hcopy := store32_load32_apply (fun _ => 0) p 0 12 hlow
      rwa [Nat.zero_add] at hcopy
    · obtain ⟨m, rfl⟩ := Nat.exists_eq_add_of_le hhigh
      rw [show 12 + (4 + m) = 16 + m by omega]
      exact store32_load32_apply _ p 4 16 (by omega)
  have hproto : spanSum (tcpChecksumBuffer p o n) 0 8 2 = (SrIpHdr.ipP p).toNat := by
    have h8 : tcpChecksumBuffer p o n 8 = 0 := hpseudo 8 (by decide)
    have h9 : tcpChecksumBuffer p o n 9 = SrIpHdr.ipP p := hpseudo 9 (by decide)
    simp [spanSum, weight, h8, h9]
  have hlen : spanSum (tcpChecksumBuffer p o n) 0 10 2 = n := by
    have hfield : load16 (tcpChecksumBuffer p o n) 10 = htons ⟨BitVec.ofInt 16 n⟩ :=
      (load16_congr fun j _ hj => hpseudo j (by omega)).trans (load16_store16_self _ _ _)
    have hint : (BitVec.ofInt 16 (n : ℤ)).toNat = n := by
      rw [BitVec.toNat_ofInt]
      omega
    rw [spanSum_load16 rfl, Nat.zero_add, hfield]
    exact (congrArg UInt16.toNat (ntohs_htons _)).trans hint
  have hsegment : spanSum (tcpChecksumBuffer p o n) 0 12 n = spanSum p o 0 n := by
    have hshift : spanSum (tcpChecksumBuffer p o n) 0 (12 + 0) n =
        spanSum (tcpChecksumBuffer p o n) (0 + 12) 0 n := spanSum_shift rfl
    refine hshift.trans (spanSum_congr fun j _ _ => ?_)
    have hbehind : ¬ 12 + j < sizeofTcpPseudoHdr := Nat.not_lt.mpr (Nat.le_add_right 12 j)
    have happly : tcpChecksumBuffer p o n (12 + j) = p (o + (12 + j - sizeofTcpPseudoHdr)) :=
      if_neg hbehind
    rw [Nat.zero_add, happly, show 12 + j - sizeofTcpPseudoHdr = j from Nat.add_sub_cancel_left 12 j]
  rw [spanSum_add, show 12 = 8 + 2 + 2 from rfl, spanSum_add, spanSum_add, sum_pseudoWords]
  simp only [Nat.zero_add, Nat.reduceAdd]
  omega

/-- The pseudo header counts what its bytes do. -/
lemma sum_pseudoWords_congr {p q : ByteMem} (n : ℕ) (hproto : q 9 = p 9)
    (haddresses : ∀ j, 12 ≤ j → j < 20 → q j = p j) :
    (pseudoWords q n).sum = (pseudoWords p n).sum := by
  have hspan : spanSum q 12 0 8 = spanSum p 12 0 8 :=
    spanSum_congr fun j _ hj => haddresses (12 + j) (by omega) (by omega)
  rw [sum_pseudoWords, sum_pseudoWords, hspan, SrIpHdr.ipP, SrIpHdr.ipP, hproto]

/-! ### What the handlers leave behind -/

/-- A packet `r` that differs from `p` in the header checksum, the addresses and the first `k` bytes behind
the header at most. -/
def SameOutside (k : ℕ) (p r : ByteMem) : Prop :=
  ∀ j, j < 10 ∨ 20 ≤ j ∧ j < ipHeaderLen p ∨ ipHeaderLen p + k ≤ j → r j = p j

/-- A packet `p` whose header checksum has been filled in over the first 20 bytes, after the addresses and the
first `k` bytes behind the header. -/
structure HeaderFilled (p q : ByteMem) (k : ℕ) : Prop where
  /-- The checksum is not 0. -/
  ipSum_ne : SrIpHdr.ipSum q ≠ 0
  /-- The first 20 bytes are right. -/
  header : 65535 ∣ spanSum q 0 0 20
  /-- The rest is as it was. -/
  kept : SameOutside k p q

/-- A TCP packet whose checksums have been filled in, that of the segment over `n` bytes. -/
structure TcpFilled (p q : ByteMem) (n : ℕ) : Prop extends HeaderFilled p q sizeofTcpHdr where
  /-- The segment and its pseudo header are right. -/
  segment : 65535 ∣ (pseudoWords q n).sum + spanSum q (ipHeaderLen p) 0 n

/-- An ICMP packet whose checksums have been filled in, that of the message over `n` bytes. -/
structure IcmpFilled (p q : ByteMem) (n : ℕ) : Prop extends HeaderFilled p q sizeofIcmpHdr where
  /-- The checksum is not 0. -/
  icmpSum_ne : SrIcmpHdr.icmpSum q (ipHeaderLen p) ≠ 0
  /-- The message is right. -/
  message : 65535 ∣ spanSum q (ipHeaderLen p) 0 n

/-- The last step of both handlers. -/
lemma headerFilled_setIpSum {p r : ByteMem} {k : ℕ} (hkept : SameOutside k p r)
    (ho : 20 ≤ ipHeaderLen p) :
    HeaderFilled p (SrIpHdr.setIpSum (SrIpHdr.setIpSum r 0)
      (cksum (SrIpHdr.setIpSum r 0) sizeofIpHdr)) k := by
  have hzero : load16 (SrIpHdr.setIpSum r 0) (0 + 10) = 0 := load16_store16_self r 10 0
  obtain ⟨hne, hdvd⟩ := cksum_filled (n := 20) rfl (by omega) (by omega) hzero
  simp only [Nat.zero_add] at hne hdvd
  refine ⟨?_, hdvd, fun j hj => ?_⟩
  · exact (load16_store16_self _ _ _).trans_ne hne
  · simp (disch := omega) only [SrIpHdr.setIpSum, store16_apply_of_disjoint]
    exact hkept j hj

/-! ### TCP -/

section Tcp

variable {cfg : NetConfig} {p r : ByteMem} {len : UInt32}

/-- The end of `nat_handle_tcp`. -/
lemma natTcpUpdateChecksum_filled (ho : 20 ≤ ipHeaderLen p)
    (hfits : ipHeaderLen p + sizeofTcpHdr ≤ len.toNat) (hlen : len ≤ ipMaxpacket)
    (hkept : SameOutside sizeofTcpHdr p r) :
    (natTcpUpdateChecksum r len (ipHeaderLen p)).Returns fun a =>
      a.1 = 1 ∧ TcpFilled p a.2 (len.toNat - ipHeaderLen p) := by
  have hle : len.toNat ≤ 65535 := UInt32.le_iff_toNat_le.mp hlen
  unfold sizeofTcpHdr at *
  set o := ipHeaderLen p
  set n := len.toNat - o with hn
  have hsegment : tcpSegmentLen len o = (n : ℤ) := tcpSegmentLen_eq (by omega) hlen
  unfold natTcpUpdateChecksum
  rw [hsegment]
  simp only [Int.not_lt.mpr (Int.natCast_nonneg n), if_false]
  set cleared := SrTcpHdr.setChecksum r o 0 with hcleared
  set v := cksum (tcpChecksumBuffer cleared o n) (sizeofTcpPseudoHdr + n) with hv
  have hsame : SameOutside 20 p (SrTcpHdr.setChecksum cleared o v) := by
    intro j hj
    simp (disch := omega) only [hcleared, SrTcpHdr.setChecksum, store16_apply_of_disjoint]
    exact hkept j hj
  refine ⟨rfl, headerFilled_setIpSum hsame ho, ?_⟩
  obtain ⟨-, hdvd⟩ := (@cksum_eq_iff _ (12 + n) (by omega) v).mp rfl
  rw [spanSum_tcpChecksumBuffer cleared o (by omega)] at hdvd
  set q := SrIpHdr.setIpSum (SrIpHdr.setIpSum (SrTcpHdr.setChecksum cleared o v) 0) _ with hq
  have hpseudo : (pseudoWords q n).sum = (pseudoWords cleared n).sum := by
    refine sum_pseudoWords_congr n ?_ fun j _ _ => ?_ <;>
    simp (disch := omega) only [hq, SrIpHdr.setIpSum, SrTcpHdr.setChecksum, store16_apply_of_disjoint]
  have hload : spanSum q o 0 n = spanSum (store16 cleared (o + 16) v) o 0 n := by
    refine spanSum_congr fun j _ _ => ?_
    simp (disch := omega) only [hq, SrIpHdr.setIpSum, SrTcpHdr.setChecksum, store16_apply_of_disjoint]
  have hfilled := @spanSum_store16 cleared o 16 n rfl (by omega) v
  have hzero : (byteSwap16 (load16 cleared (o + 16))).toNat = 0 := by
    rw [hcleared, SrTcpHdr.setChecksum, load16_store16_self]
    rfl
  have hval : (byteSwap16 v).toNat = (ntohs v).toNat := rfl
  rw [hpseudo, hload]
  omega

/-- The source rewriting of `nat_handle_tcp`. -/
lemma natTcpTranslateSource_filled (ho : 20 ≤ ipHeaderLen p)
    (hfits : ipHeaderLen p + sizeofTcpHdr ≤ len.toNat) (hlen : len ≤ ipMaxpacket)
    (mapping : SrNatMappingCopy) :
    (natTcpTranslateSource cfg p len (ipHeaderLen p) mapping).Returns fun a =>
      a.1 = 1 ∧ TcpFilled p a.2 (len.toNat - ipHeaderLen p) := by
  unfold natTcpTranslateSource
  simp only
  split
  · trivial
  · trivial
  · split
    · trivial
    · refine natTcpUpdateChecksum_filled ho hfits hlen fun j hj => ?_
      unfold sizeofTcpHdr at hj
      simp (disch := omega) only [SrIpHdr.setIpSrc, SrTcpHdr.setSrcPort, store32_apply_of_disjoint,
        store16_apply_of_disjoint]

/-- The internal to external branch of `nat_handle_tcp`. -/
lemma natTcpOutbound_filled (ho : 20 ≤ ipHeaderLen p)
    (hfits : ipHeaderLen p + sizeofTcpHdr ≤ len.toNat) (hlen : len ≤ ipMaxpacket) :
    (natTcpOutbound cfg p len (ipHeaderLen p)).Returns fun a =>
      a.1 = 1 → TcpFilled p a.2 (len.toNat - ipHeaderLen p) :=
  natTcpOutbound_returns (fun h => absurd h (show (0 : ℤ) ≠ 1 by decide)) fun mapping =>
    (natTcpTranslateSource_filled ho hfits hlen mapping).imp fun _ ha _ => ha.2

/-- The external to internal branch of `nat_handle_tcp`. -/
lemma natTcpInbound_filled (ho : 20 ≤ ipHeaderLen p)
    (hfits : ipHeaderLen p + sizeofTcpHdr ≤ len.toNat) (hlen : len ≤ ipMaxpacket) :
    (natTcpInbound p len (ipHeaderLen p)).Returns fun a =>
      a.1 = 1 → TcpFilled p a.2 (len.toNat - ipHeaderLen p) := by
  have hupdate : ∀ r, SameOutside sizeofTcpHdr p r → (natTcpUpdateChecksum r len
      (ipHeaderLen p)).Returns fun a => a.1 = 1 → TcpFilled p a.2 (len.toNat - ipHeaderLen p) :=
    fun r hr => (natTcpUpdateChecksum_filled ho hfits hlen hr).imp fun a ha _ => ha.2
  refine natTcpInbound_returns (fun h => absurd h (show (0 : ℤ) ≠ 1 by decide))
    (fun h => absurd h (show (-1 : ℤ) ≠ 1 by decide)) (hupdate p fun _ _ => rfl)
    fun port ip => hupdate _ fun j hj => ?_
  unfold sizeofTcpHdr at hj
  simp (disch := omega) only [SrIpHdr.setIpDst, SrTcpHdr.setDstPort, store32_apply_of_disjoint,
    store16_apply_of_disjoint]

/-- The packets that `nat_handle_tcp` takes for its business: from inside to outside, and from outside
to the router. -/
def TcpTranslated (p : ByteMem) (isToNat : Bool) : Prop :=
  srcPrivate p ∧ ¬ dstPrivate p ∨ ¬ srcPrivate p ∧ isToNat = true

/-- **What `nat_handle_tcp` leaves behind** when it lets a packet pass. -/
lemma natHandleTcp_filled (ho : 20 ≤ ipHeaderLen p)
    (hfits : ipHeaderLen p + sizeofTcpHdr ≤ len.toNat) (hlen : len ≤ ipMaxpacket) {isToNat : Bool}
    (htrans : TcpTranslated p isToNat) :
    (natHandleTcp cfg p len isToNat).Returns fun a =>
      a.1 = 1 → TcpFilled p a.2 (len.toNat - ipHeaderLen p) := by
  rcases htrans with ⟨hsrc, hdst⟩ | ⟨hsrc, rfl⟩
  · rw [natHandleTcp_outbound hsrc hdst]
    exact natTcpOutbound_filled ho hfits hlen
  · rw [natHandleTcp_inbound hsrc]
    exact natTcpInbound_filled ho hfits hlen

end Tcp

/-! ### ICMP -/

section Icmp

variable {cfg : NetConfig} {p r : ByteMem}

/-- The end of `nat_handle_icmp`. -/
lemma natIcmpUpdateChecksum_filled (ho : 20 ≤ ipHeaderLen p)
    (hmin : ipHeaderLen p + sizeofIcmpHdr ≤ ipTotalLen p) (hkept : SameOutside sizeofIcmpHdr p r) :
    (natIcmpUpdateChecksum r (ipHeaderLen p)).Returns fun a =>
      a.1 = 1 ∧ IcmpFilled p a.2 (ipTotalLen p - sizeofIpHdr) := by
  have hfield : SrIpHdr.ipLen r = SrIpHdr.ipLen p :=
    load16_congr fun j _ hj => hkept j (.inl (by omega))
  have hlt := (ntohs (SrIpHdr.ipLen p)).toNat_lt
  have htotal : (ntohs (SrIpHdr.ipLen p)).toUInt32.toNat = ipTotalLen p := UInt16.toNat_toUInt32 _
  unfold sizeofIcmpHdr at *
  set o := ipHeaderLen p
  set n := ipTotalLen p - sizeofIpHdr with hn
  unfold sizeofIpHdr at hn
  have hlen : ((ntohs (SrIpHdr.ipLen r)).toUInt32 - UInt32.ofNat sizeofIpHdr).toBitVec.toInt =
      (n : ℤ) := by
    have hsize := @tcpSegmentLen_eq (ntohs (SrIpHdr.ipLen p)).toUInt32 20 (by omega)
      (UInt32.le_iff_toNat_le.mpr (by
        rw [htotal]
        exact Nat.le_of_lt_succ hlt))
    rw [hfield]
    rwa [htotal, ← hn] at hsize
  unfold natIcmpUpdateChecksum
  simp only [hlen]
  set cleared := SrIcmpHdr.setIcmpSum r o 0 with hcleared
  set v := cksum (fun i => cleared (o + i)) n with hv
  have hsame : SameOutside 8 p (SrIcmpHdr.setIcmpSum cleared o v) := by
    intro j hj
    simp (disch := omega) only [hcleared, SrIcmpHdr.setIcmpSum, store16_apply_of_disjoint]
    exact hkept j hj
  have hzero : load16 cleared (o + 2) = 0 := load16_store16_self r (o + 2) 0
  have hle : ipTotalLen p ≤ 65535 := Nat.le_of_lt_succ hlt
  obtain ⟨hne, hdvd⟩ := cksum_filled (n := n) rfl (by omega) (by omega) hzero
  refine ⟨rfl, headerFilled_setIpSum hsame ho, ?_, ?_⟩
  · change load16 _ (o + 2) ≠ 0
    simp (disch := omega) only [SrIpHdr.setIpSum, SrIcmpHdr.setIcmpSum, load16_store16_of_disjoint,
      load16_store16_self]
    exact hne
  · have hload : ∀ q : ByteMem, (∀ j, o ≤ j → q j = store16 cleared (o + 2) v j) →
        spanSum q o 0 n = spanSum (store16 cleared (o + 2) v) o 0 n := fun q hq =>
      spanSum_congr fun j _ _ => hq (o + j) (by omega)
    rw [hload _ fun j hj => ?_]
    · exact hdvd
    · simp (disch := omega) only [SrIpHdr.setIpSum, SrIcmpHdr.setIcmpSum, store16_apply_of_disjoint]

/-- The source rewriting of `nat_handle_icmp`. -/
lemma natIcmpTranslateSource_filled (ho : 20 ≤ ipHeaderLen p)
    (hmin : ipHeaderLen p + sizeofIcmpHdr ≤ ipTotalLen p) (lpm : SrRt) (mapping : SrNatMappingCopy) :
    (natIcmpTranslateSource cfg p (ipHeaderLen p) lpm mapping).Returns fun a =>
      a.1 = 1 ∧ IcmpFilled p a.2 (ipTotalLen p - sizeofIpHdr) := by
  unfold natIcmpTranslateSource
  simp only
  split
  · trivial
  · refine natIcmpUpdateChecksum_filled ho hmin fun j hj => ?_
    unfold sizeofIcmpHdr at hj
    simp (disch := omega) only [SrIpHdr.setIpSrc, SrIcmpHdr.setIdentifier, store32_apply_of_disjoint,
      store16_apply_of_disjoint]

/-- **What `nat_handle_icmp` leaves behind** when it has translated a packet. -/
lemma natHandleIcmp_filled (ho : 20 ≤ ipHeaderLen p)
    (hmin : ipHeaderLen p + sizeofIcmpHdr ≤ ipTotalLen p) :
    (natHandleIcmp cfg p).Returns fun a =>
      a.1 = 1 → IcmpFilled p a.2 (ipTotalLen p - sizeofIpHdr) := by
  have hzero : ((0, p) : ℤ × ByteMem).1 = 1 → IcmpFilled p p (ipTotalLen p - sizeofIpHdr) :=
    fun h => absurd h (show (0 : ℤ) ≠ 1 by decide)
  by_cases hsrc : srcPrivate p
  · by_cases hdst : dstPrivate p
    · rw [natHandleIcmp_inside hsrc hdst]
      exact hzero
    · rw [natHandleIcmp_outbound hsrc hdst]
      exact natIcmpOutbound_returns hzero fun lpm mapping =>
        (natIcmpTranslateSource_filled ho hmin lpm mapping).imp fun _ ha _ => ha.2
  · rw [natHandleIcmp_inbound hsrc]
    refine natIcmpInbound_returns hzero fun identifier ip =>
      (natIcmpUpdateChecksum_filled ho hmin fun j hj => ?_).imp fun a ha _ => ha.2
    unfold sizeofIcmpHdr at hj
    simp (disch := omega) only [SrIpHdr.setIpDst, SrIcmpHdr.setIdentifier,
      store32_apply_of_disjoint, store16_apply_of_disjoint]

end Icmp

end NatRouter
