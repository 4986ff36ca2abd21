import NatRouter.Nat.Rewriting
import NatRouter.Nat.System

/-!
# What the handlers write

The two handlers work on the packet in place.  All they write is the header checksum, one of the
addresses, and two fields of what the packet carries: the port of the side that is translated, or the
identifier, and the checksum (`natStart_changedAt`).
-/

namespace NatRouter

open ByteMemory Interleaving

/-- A packet `q` that differs from `p` in the header checksum, the addresses and the given 16-bit fields
at most. -/
def ChangedAt (fields : List ℕ) (p q : ByteMem) : Prop :=
  ∀ i, ¬ (10 ≤ i ∧ i < 20) → (∀ f ∈ fields, i ≠ f ∧ i ≠ f + 1) → q i = p i

section ChangedAt

variable {fields : List ℕ} {p q : ByteMem} {o : ℕ}

/-- Nothing is changed. -/
lemma ChangedAt.refl (fields : List ℕ) (p : ByteMem) : ChangedAt fields p p := fun _ _ _ => rfl

/-- One of the fields is written. -/
lemma ChangedAt.store16 (h : ChangedAt fields p q) {f : ℕ} (hf : f ∈ fields) (v : UInt16) :
    ChangedAt fields p (store16 q f v) := by
  intro i hi hne
  obtain ⟨h0, h1⟩ := hne f hf
  rw [store16_apply_of_disjoint (by omega), h i hi hne]

/-- The header checksum is written. -/
lemma ChangedAt.setIpSum (h : ChangedAt fields p q) (v : UInt16) :
    ChangedAt fields p (SrIpHdr.setIpSum q v) := by
  intro i hi hne
  rw [SrIpHdr.setIpSum, store16_apply_of_disjoint (by omega), h i hi hne]

/-- An address is written. -/
lemma ChangedAt.store32 (h : ChangedAt fields p q) {k : ℕ} (hlo : 10 ≤ k) (hhi : k ≤ 16) (v : UInt32) :
    ChangedAt fields p (store32 q k v) := by
  intro i hi hne
  rw [store32_apply_of_disjoint (by omega), h i hi hne]

/-- The end of `nat_handle_tcp`. -/
lemma natTcpUpdateChecksum_changedAt (hsum : o + 16 ∈ fields) (h : ChangedAt fields p q)
    (len : UInt32) : (natTcpUpdateChecksum q len o).Returns fun a => ChangedAt fields p a.2 := by
  unfold natTcpUpdateChecksum
  simp only
  split
  · trivial
  · exact (((h.store16 hsum _).store16 hsum _).setIpSum _).setIpSum _

/-- The end of `nat_handle_icmp`. -/
lemma natIcmpUpdateChecksum_changedAt (hsum : o + 2 ∈ fields) (h : ChangedAt fields p q) :
    (natIcmpUpdateChecksum q o).Returns fun a => ChangedAt fields p a.2 :=
  (((h.store16 hsum _).store16 hsum _).setIpSum _).setIpSum _

end ChangedAt

/-- The fields of what it carries that `nat_handle_icmp` writes in a packet. -/
def icmpTranslated (p : ByteMem) : List ℕ := [ipHeaderLen p + 4, ipHeaderLen p + 2]

/-- Those that `nat_handle_tcp` writes. -/
def tcpTranslated (p : ByteMem) : List ℕ :=
  [if isPrivateIp (ntohl (SrIpHdr.ipSrc p)) then ipHeaderLen p else ipHeaderLen p + 2,
    ipHeaderLen p + 16]

/-- The fields of what a packet carries that its handler writes: the port of the side that is translated,
or the identifier, and the checksum. -/
def NatJob.translated : NatJob → List ℕ
  | .icmp _ p => icmpTranslated p
  | .tcp _ p _ _ => tcpTranslated p

/-- Nothing else is written. -/
lemma natStart_changedAt (j : NatJob) :
    (natStart j).Returns fun a => ChangedAt j.translated j.packet a.2 := by
  have hself : ChangedAt j.translated j.packet j.packet := .refl _ _
  cases j with
  | icmp cfg p =>
    have hid : ipHeaderLen p + 4 ∈ (NatJob.icmp cfg p).translated := List.mem_cons_self
    have hsum : ipHeaderLen p + 2 ∈ (NatJob.icmp cfg p).translated :=
      List.mem_cons_of_mem _ List.mem_cons_self
    change (natHandleIcmp cfg p).Returns _
    by_cases hsrc : srcPrivate p
    · by_cases hdst : dstPrivate p
      · rw [natHandleIcmp_inside hsrc hdst]
        exact hself
      · rw [natHandleIcmp_outbound hsrc hdst]
        refine natIcmpOutbound_returns hself fun lpm mapping => ?_
        unfold natIcmpTranslateSource
        simp only
        split
        · trivial
        · exact natIcmpUpdateChecksum_changedAt hsum
            ((hself.store16 hid _).store32 (by omega) (by omega) _)
    · rw [natHandleIcmp_inbound hsrc]
      exact natIcmpInbound_returns hself fun identifier ip => natIcmpUpdateChecksum_changedAt hsum
        ((hself.store16 hid _).store32 (by omega) (by omega) _)
  | tcp cfg p len isToNat =>
    have hsum : ipHeaderLen p + 16 ∈ (NatJob.tcp cfg p len isToNat).translated :=
      List.mem_cons_of_mem _ List.mem_cons_self
    change (natHandleTcp cfg p len isToNat).Returns _
    by_cases hsrc : srcPrivate p
    · have hport : ipHeaderLen p ∈ (NatJob.tcp cfg p len isToNat).translated :=
        List.mem_cons.mpr (.inl (if_pos hsrc).symm)
      by_cases hdst : dstPrivate p
      · rw [natHandleTcp_inside hsrc hdst]
        exact hself
      · rw [natHandleTcp_outbound hsrc hdst]
        refine natTcpOutbound_returns hself fun mapping => ?_
        unfold natTcpTranslateSource
        simp only
        split
        · trivial
        · trivial
        · split
          · trivial
          · exact natTcpUpdateChecksum_changedAt hsum
              ((hself.store16 hport _).store32 (by omega) (by omega) _) len
    · have hport : ipHeaderLen p + 2 ∈ (NatJob.tcp cfg p len isToNat).translated :=
        List.mem_cons.mpr (.inl (if_neg hsrc).symm)
      cases isToNat with
      | true =>
        rw [natHandleTcp_inbound hsrc]
        exact natTcpInbound_returns hself hself (natTcpUpdateChecksum_changedAt hsum hself len)
          fun port ip => natTcpUpdateChecksum_changedAt hsum
            ((hself.store16 hport _).store32 (by omega) (by omega) _) len
      | false =>
        rw [natHandleTcp_transit hsrc]
        exact hself

end NatRouter
