import NatRouter.Nat.Memory
import NatRouter.Nat.SimultaneousOpen
import NatRouter.Router.Translation

/-!
# The segments on the unsolicited list

A segment is told from others by its addresses, its ports and its sequence number (`segmentId`), which
lie behind the IP header of its own packet.  The functions on the unsolicited list read the header of a
queued packet where that of the packet passed in would lie.  While the header lengths are the same there
is no difference; when they are not, a queued packet may be `Misread`.

With that, and with the head pointer that `sr_nat_remove_unsolicited_packet` does not write, it is told
when the removal is exact (`removal_exact_iff`), and when the insertion keeps the segments on the list
apart (`insertion_exact_iff_and_queued_apart`).
-/

namespace NatRouter

open ByteMemory Interleaving LinkedHeap

/-- What tells one segment from another: addresses, ports and sequence number. -/
def segmentId (p : ByteMem) : UInt32 × UInt32 × UInt16 × UInt16 × UInt32 :=
  (SrIpHdr.ipSrc p, SrIpHdr.ipDst p, SrTcpHdr.srcPort p (ipHeaderLen p),
    SrTcpHdr.dstPort p (ipHeaderLen p), SrTcpHdr.seqNum p (ipHeaderLen p))

/-- A queued packet `q` that is compared with `p` wrongly: its header has another length, and whether it
has the values of `p` where those of `p` lie is not whether it is the same segment. -/
def Misread (p q : ByteMem) : Prop :=
  ipHeaderLen q ≠ ipHeaderLen p ∧ ¬ (sameSegment p q = true ↔ segmentId q = segmentId p)

section Comparison

variable {p q : ByteMem}

/-- A copy has the header length of the packet. -/
lemma ipHeaderLen_copied {junk : ByteMem} {n : ℕ} (hn : 0 < n) :
    ipHeaderLen (copied p n junk) = ipHeaderLen p := by
  have hbyte : copied p n junk 0 = p 0 := if_pos hn
  simp only [ipHeaderLen, SrIpHdr.ipHl, hbyte]

/-- Between headers of one length the comparison is right. -/
lemma sameSegment_iff (h : ipHeaderLen q = ipHeaderLen p) :
    sameSegment p q = true ↔ segmentId q = segmentId p := by
  simp only [sameSegment, segmentId, h, decide_eq_true_eq, Prod.mk.injEq]
  constructor
  · rintro ⟨hsrc, hdst, hsport, hdport, hseq⟩
    exact ⟨hsrc.symm, hdst.symm, hsport.symm, hdport.symm, hseq.symm⟩
  · rintro ⟨hsrc, hdst, hsport, hdport, hseq⟩
    exact ⟨hsrc.symm, hdst.symm, hsport.symm, hdport.symm, hseq.symm⟩

/-- What is not misread is compared rightly. -/
lemma not_misread_iff : ¬ Misread p q ↔ (sameSegment p q = true ↔ segmentId q = segmentId p) := by
  constructor
  · intro hread
    by_cases hlen : ipHeaderLen q = ipHeaderLen p
    · exact sameSegment_iff hlen
    · exact not_not.mp fun hwrong => hread ⟨hlen, hwrong⟩
  · exact fun hright hread => hread.2 hright

/-- The copy of a packet that reaches over its addresses, ports and sequence number is the same segment. -/
lemma segmentId_copied {junk : ByteMem} {n : ℕ} (hmin : 20 ≤ n) (hfits : ipHeaderLen p + 8 ≤ n) :
    segmentId (copied p n junk) = segmentId p := by
  have hlen : ipHeaderLen (copied p n junk) = ipHeaderLen p := ipHeaderLen_copied (by omega)
  unfold segmentId
  rw [hlen]
  simp only [SrIpHdr.ipSrc, SrIpHdr.ipDst, SrTcpHdr.srcPort, SrTcpHdr.dstPort, SrTcpHdr.seqNum,
    Prod.mk.injEq]
  exact ⟨load32_copied (by omega), load32_copied (by omega), load16_copied (by omega),
    load16_copied (by omega), load32_copied (by omega)⟩

end Comparison

/-! ### Removal -/

/-- The removal of `p` leaves the queued packets that are other segments, in their order, linked from the
head pointer. -/
def RemovesExactly (M : NatMemory) (pkts : List SrNatUnsolPkt) (p : ByteMem) : Prop :=
  ∀ fuel, pkts.length < fuel → ∃ M', M.srNatRemoveUnsolicitedPacket fuel p = .ok M' ∧
    (UnsolList.linked (pkts.filter fun q => segmentId q.ipPacket ≠ segmentId p)).LiesIn
      M'.unsolNodes M'.unsolPkt

/-- The header of the SYN on the list has no options. -/
lemma ipHeaderLen_peerSynPkt : ipHeaderLen peerSynPkt.ipPacket = 20 := by
  have hfields : tcpFields peerSynPkt.ipPacket 20 = tcpFields peerSyn.buf 20 :=
    tcpFields_copied (show 20 ≤ 40 by decide) (show 24 ≤ 40 by decide)
  exact (congrArg (fun f => f.ipHl * 4) hfields).trans
    (ipHeaderLen_tcpSegment 0x02 0x08080808 0xac400301 80 1024)

section Removal

variable {M : NatMemory} {pkts : List SrNatUnsolPkt} {p : ByteMem}

/-- The packets that the loop keeps are the other segments if it misreads none. -/
lemma filter_sameSegment_eq_iff :
    (pkts.filter fun q => !sameSegment p q.ipPacket) =
        (pkts.filter fun q => segmentId q.ipPacket ≠ segmentId p) ↔
      ∀ q ∈ pkts, ¬ Misread p q.ipPacket := by
  rw [filter_eq_filter_iff]
  refine forall₂_congr fun q _ => ?_
  rw [not_misread_iff, Bool.eq_iff_iff, Bool.not_eq_true', decide_eq_true_eq, ← Bool.not_eq_true]
  exact not_iff_not

/-- Whether the removal is exact is told by the removal on lists. -/
lemma removesExactly_iff (hlies : (UnsolList.linked pkts).LiesIn M.unsolNodes M.unsolPkt)
    (hfresh : ∀ i, M.nextNode ≤ i → M.unsolNodes i = none) (p : ByteMem) :
    RemovesExactly M pkts p ↔ srNatRemoveUnsolicitedPacket (.linked pkts) p =
      .ok (.linked (pkts.filter fun q => segmentId q.ipPacket ≠ segmentId p)) := by
  have hrefines := fun fuel => @NatMemory.srNatRemoveUnsolicitedPacket_refines M fuel pkts hlies
    (hfresh _ (Nat.le_refl _)) p
  constructor
  · intro hexact
    obtain ⟨M', hrun, hleft⟩ := hexact _ (Nat.lt_succ_self _)
    obtain ⟨M'', unsol, hrun', hremove, hlies'⟩ := hrefines _ (Nat.lt_succ_self _)
    obtain rfl : M' = M'' := Except.ok.inj (hrun.symm.trans hrun')
    rw [hremove, hlies'.unique hleft]
  · intro hremove fuel hfuel
    obtain ⟨M', unsol, hrun, hremove', hlies'⟩ := hrefines fuel hfuel
    rw [hremove] at hremove'
    obtain rfl := Except.ok.inj hremove'
    exact ⟨M', hrun, hlies'⟩

/-- **When the removal is exact**: if the head pointer need not be written, that is the first packet is
not taken for the segment, and if no queued packet is misread. -/
theorem removal_exact_iff (hlies : (UnsolList.linked pkts).LiesIn M.unsolNodes M.unsolPkt)
    (hfresh : ∀ i, M.nextNode ≤ i → M.unsolNodes i = none) (p : ByteMem) :
    RemovesExactly M pkts p ↔
      (∀ q ∈ pkts.head?, sameSegment p q.ipPacket = false) ∧ ∀ q ∈ pkts, ¬ Misread p q.ipPacket := by
  have hhead : (pkts.head?.any fun q => sameSegment p q.ipPacket) = false ↔
      ∀ q ∈ pkts.head?, sameSegment p q.ipPacket = false := by
    cases pkts.head? <;> simp
  rw [← hhead, ← filter_sameSegment_eq_iff, removesExactly_iff hlies hfresh,
    srNatRemoveUnsolicitedPacket_linked, Except.ok.injEq]
  constructor
  · intro hremove
    split_ifs at hremove with hbroken
    exact ⟨Bool.eq_false_iff.mpr hbroken, UnsolList.linked.inj hremove⟩
  · rintro ⟨hkept, hfilter⟩
    rw [hkept, if_neg Bool.false_ne_true, hfilter]

/-- The SYN of `peerSynState` stays when a connection is opened. -/
theorem removal_exact_outboundSyn :
    RemovesExactly (memoryOf peerSynState) [peerSynPkt] outboundSyn.buf := by
  have hrep : Represents (memoryOf peerSynState) peerSynState :=
    represents_memoryOf (heapOk_waiting _)
  have hlen : ipHeaderLen peerSynPkt.ipPacket = ipHeaderLen outboundSyn.buf :=
    ipHeaderLen_peerSynPkt.trans (ipHeaderLen_tcpSegment ..).symm
  refine (removal_exact_iff hrep.unsol (fun i hi => (hrep.fresh i hi).1) outboundSyn.buf).mpr
    ⟨?_, ?_⟩
  · intro q hq
    obtain rfl : peerSynPkt = q := Option.some.inj hq
    exact sameSegment_outboundSyn
  · intro q hq
    rw [List.mem_singleton.mp hq]
    exact fun hread => hread.1 hlen

/-- The SYN from 10.0.0.1:5000, put on the list when it had a mapping but no connection. -/
def retriedPkt : SrNatUnsolPkt := ⟨copied outboundSyn.buf outboundSyn.len.toNat fun _ => 0, 0⟩

/-- The state in which it is sent again: its mapping has expired, and it is still queued. -/
def retriedState : SrNat := { startState with unsolPkt := .linked [retriedPkt] }

/-- When the first packet is the segment, nothing is left to be reached from the head pointer. -/
theorem removal_of_first :
    ¬ RemovesExactly (memoryOf retriedState) [retriedPkt] outboundSyn.buf := by
  have hrep : Represents (memoryOf retriedState) retriedState := represents_memoryOf (heapOk_waiting _)
  have hfits : ipHeaderLen outboundSyn.buf + 20 ≤ outboundSyn.len.toNat := outboundSyn.fits
  have hsame : sameSegment outboundSyn.buf retriedPkt.ipPacket = true :=
    (sameSegment_iff (ipHeaderLen_copied (by omega))).mpr (segmentId_copied (by omega) (by omega))
  rw [removesExactly_iff hrep.unsol fun i hi => (hrep.fresh i hi).1]
  simp [srNatRemoveUnsolicitedPacket, hsame]

end Removal

/-! ### Insertion -/

/-- The insertion of `p` leaves the list alone if the segment is queued, and else appends a copy. -/
def InsertsExactly (M : NatMemory) (pkts : List SrNatUnsolPkt) (amb : Ambient) (p : ByteMem)
    (len : UInt32) : Prop :=
  ∀ fuel, pkts.length < fuel → ∃ M', M.srNatInsertUnsolicitedPacket fuel amb p len = .ok M' ∧
    (UnsolList.linked (if pkts.any fun q => segmentId q.ipPacket = segmentId p then pkts
      else pkts ++ [⟨copied p len.toNat amb.junk, amb.now⟩])).LiesIn M'.unsolNodes M'.unsolPkt

/-- The list is searched rightly for `p`: the segment is queued with a header of the same length, or it
is taken for one of the others exactly if it is one of them. -/
def FindsRightly (p : ByteMem) (pkts : List SrNatUnsolPkt) : Prop :=
  (∃ q ∈ pkts, ipHeaderLen q.ipPacket = ipHeaderLen p ∧ segmentId q.ipPacket = segmentId p) ∨
    ((∃ q ∈ pkts, ipHeaderLen q.ipPacket ≠ ipHeaderLen p ∧ sameSegment p q.ipPacket = true) ↔
      ∃ q ∈ pkts, ipHeaderLen q.ipPacket ≠ ipHeaderLen p ∧ segmentId q.ipPacket = segmentId p)

/-- A packet that reaches over its addresses, ports and sequence number, and whose segment the list is
searched rightly for. -/
def AppendsRightly (s : SrNat) (p : ByteMem) (len : UInt32) : Prop :=
  20 ≤ len.toNat ∧ ipHeaderLen p + 8 ≤ len.toNat ∧
    ∀ pkts, s.unsolPkt = .linked pkts → FindsRightly p pkts

/-- The calls that put their packet on the list find rightly whether it is there. -/
def QueuesApart : NatCall → SrNat → Prop
  | .updateConnection mapping p len direction, s =>
    FindsConn s mapping p direction ∨ AppendsRightly s p len
  | .insertUnsolicitedPacket p len, s => AppendsRightly s p len
  | _, _ => True

/-- No two queued packets are the same segment. -/
def QueuedApart (s : SrNat) : Prop :=
  ∀ pkts, s.unsolPkt = .linked pkts → (pkts.map fun q => segmentId q.ipPacket).Nodup

section Insertion

variable {M : NatMemory} {pkts : List SrNatUnsolPkt} {p : ByteMem} {len : UInt32} {s s' : SrNat}

/-- The list is searched rightly if the comparisons find the segment exactly if it is there. -/
lemma findsRightly_iff : FindsRightly p pkts ↔
    (pkts.any fun q => sameSegment p q.ipPacket) =
      pkts.any fun q => segmentId q.ipPacket = segmentId p := by
  have hlogic : ∀ A B C : Prop, (A ∨ (B ↔ C)) ↔ ((A ∨ B) ↔ (A ∨ C)) := by
    intro A B C
    by_cases hA : A <;> simp [hA]
  have hsplit : ∀ P : SrNatUnsolPkt → Prop, (∃ q ∈ pkts, P q) ↔
      (∃ q ∈ pkts, ipHeaderLen q.ipPacket = ipHeaderLen p ∧ P q) ∨
        ∃ q ∈ pkts, ipHeaderLen q.ipPacket ≠ ipHeaderLen p ∧ P q := by
    intro P
    constructor
    · rintro ⟨q, hq, hP⟩
      by_cases hlen : ipHeaderLen q.ipPacket = ipHeaderLen p
      · exact .inl ⟨q, hq, hlen, hP⟩
      · exact .inr ⟨q, hq, hlen, hP⟩
    · rintro (⟨q, hq, -, hP⟩ | ⟨q, hq, -, hP⟩)
      · exact ⟨q, hq, hP⟩
      · exact ⟨q, hq, hP⟩
  have hsame : (∃ q ∈ pkts, ipHeaderLen q.ipPacket = ipHeaderLen p ∧ sameSegment p q.ipPacket = true) ↔
      ∃ q ∈ pkts, ipHeaderLen q.ipPacket = ipHeaderLen p ∧ segmentId q.ipPacket = segmentId p := by
    constructor
    · rintro ⟨q, hq, hlen, hq'⟩
      exact ⟨q, hq, hlen, (sameSegment_iff hlen).mp hq'⟩
    · rintro ⟨q, hq, hlen, hq'⟩
      exact ⟨q, hq, hlen, (sameSegment_iff hlen).mpr hq'⟩
  have hfound := hsplit fun q => sameSegment p q.ipPacket = true
  have hthere := hsplit fun q => segmentId q.ipPacket = segmentId p
  rw [hsame] at hfound
  rw [Bool.eq_iff_iff, List.any_eq_true, List.any_eq_true, hfound]
  simp only [decide_eq_true_eq]
  rw [hthere]
  exact hlogic _ _ _

/-- The insertion on lists. -/
lemma srNatInsertUnsolicitedPacket_linked (amb : Ambient) (pkts : List SrNatUnsolPkt) (p : ByteMem)
    (len : UInt32) : srNatInsertUnsolicitedPacket amb (.linked pkts) p len =
      .ok (.linked (if pkts.any fun q => sameSegment p q.ipPacket then pkts
        else pkts ++ [⟨copied p len.toNat amb.junk, amb.now⟩])) := by
  simp only [srNatInsertUnsolicitedPacket]
  split_ifs <;> rfl

/-- Whether the insertion is exact is told by the insertion on lists. -/
lemma insertsExactly_iff (hlies : (UnsolList.linked pkts).LiesIn M.unsolNodes M.unsolPkt)
    (hfresh : ∀ i, M.nextNode ≤ i → M.unsolNodes i = none) (amb : Ambient) (p : ByteMem)
    (len : UInt32) : InsertsExactly M pkts amb p len ↔
      (pkts.any fun q => sameSegment p q.ipPacket) =
        pkts.any fun q => segmentId q.ipPacket = segmentId p := by
  have hrefines := fun fuel =>
    @NatMemory.srNatInsertUnsolicitedPacket_refines M fuel pkts hlies hfresh amb p len
  rw [srNatInsertUnsolicitedPacket_linked] at hrefines
  constructor
  · intro hexact
    obtain ⟨M', hrun, hleft⟩ := hexact _ (Nat.lt_succ_self _)
    obtain ⟨M'', unsol, hrun', hinsert, hlies'⟩ := hrefines _ (Nat.lt_succ_self _)
    obtain rfl : M' = M'' := Except.ok.inj (hrun.symm.trans hrun')
    obtain rfl := Except.ok.inj hinsert
    have hlists := UnsolList.linked.inj (hlies'.unique hleft)
    have hlong : pkts ++ [⟨copied p len.toNat amb.junk, amb.now⟩] ≠ pkts := by simp
    -- the two lists differ in length if the two searches do
    cases hfound : pkts.any fun q => sameSegment p q.ipPacket with
    | true =>
      cases hthere : pkts.any fun q => decide (segmentId q.ipPacket = segmentId p) with
      | true => rfl
      | false =>
        rw [hfound, hthere, if_pos rfl, if_neg Bool.false_ne_true] at hlists
        exact absurd hlists.symm hlong
    | false =>
      cases hthere : pkts.any fun q => decide (segmentId q.ipPacket = segmentId p) with
      | true =>
        rw [hfound, hthere, if_pos rfl, if_neg Bool.false_ne_true] at hlists
        exact absurd hlists hlong
      | false => rfl
  · intro hfinds fuel hfuel
    obtain ⟨M', unsol, hrun, hinsert, hlies'⟩ := hrefines fuel hfuel
    obtain rfl := Except.ok.inj hinsert
    rw [hfinds] at hlies'
    exact ⟨M', hrun, hlies'⟩

/-- A call that puts its packet on the list inserts it. -/
lemma natExec_inserts {amb : Ambient} {c : NatCall} {r : c.Result}
    (h : natExec amb c s = .ok (r, s')) (hbuffers : c.buffers r = some (p, len)) :
    srNatInsertUnsolicitedPacket amb s.unsolPkt p len = .ok s'.unsolPkt := by
  cases c with
  | lookupExternal auxExt type => cases hbuffers
  | lookupInternal ipInt auxInt type => cases hbuffers
  | insertMapping ipInt auxInt type => cases hbuffers
  | insertConnection ext p' state => cases hbuffers
  | updateConnection mapping p' n direction =>
    cases r with
    | some conn => cases hbuffers
    | none =>
      cases hbuffers
      change srNatUpdateConnection s amb mapping p len direction = .ok (none, s') at h
      unfold srNatUpdateConnection at h
      simp only at h
      split at h
      · cases h
      · split at h
        · cases h
        · split at h
          · cases h
          · rename_i unsol hinsert
            cases h
            exact hinsert
  | insertUnsolicitedPacket p' n =>
    cases hbuffers
    cases hinsert : srNatInsertUnsolicitedPacket amb s.unsolPkt p len with
    | error e => simp [natExec, hinsert] at h
    | ok unsol =>
      simp only [natExec, hinsert] at h
      cases h
      rfl

/-- A guarded call that puts its packet on the list finds rightly whether it is there. -/
lemma QueuesApart.appendsRightly {amb : Ambient} {c : NatCall} {r : c.Result}
    (hguard : QueuesApart c s) (h : natExec amb c s = .ok (r, s'))
    (hbuffers : c.buffers r = some (p, len)) : AppendsRightly s p len := by
  cases c with
  | lookupExternal auxExt type => cases hbuffers
  | lookupInternal ipInt auxInt type => cases hbuffers
  | insertMapping ipInt auxInt type => cases hbuffers
  | insertConnection ext p' state => cases hbuffers
  | insertUnsolicitedPacket p' n =>
    cases hbuffers
    exact hguard
  | updateConnection mapping p' n direction =>
    cases r with
    | some conn => cases hbuffers
    | none =>
      cases hbuffers
      refine hguard.resolve_left fun hfinds => ?_
      obtain ⟨c, t, hsome⟩ := (@findsConn_iff s amb mapping p len direction).mpr hfinds
      have hnone : srNatUpdateConnection s amb mapping p len direction = .ok (none, s') := h
      rw [hsome] at hnone
      cases hnone

/-- What an insertion that finds rightly does to the list. -/
lemma QueuedApart.insert (hs : QueuedApart s) (hright : AppendsRightly s p len) {amb : Ambient}
    (h : srNatInsertUnsolicitedPacket amb s.unsolPkt p len = .ok s'.unsolPkt) : QueuedApart s' := by
  obtain ⟨hmin, hfits, hfinds⟩ := hright
  intro pkts' hpkts'
  cases hlinked : s.unsolPkt with
  | dangling =>
    rw [hlinked] at h
    cases h
  | linked pkts =>
    have hapart := hs pkts hlinked
    rw [hlinked, srNatInsertUnsolicitedPacket_linked, findsRightly_iff.mp (hfinds pkts hlinked),
      hpkts', Except.ok.injEq, UnsolList.linked.injEq] at h
    split_ifs at h with hthere
    · rw [← h]
      exact hapart
    · have hnew : segmentId p ∉ pkts.map fun q => segmentId q.ipPacket := by
        intro hmem
        obtain ⟨q, hq, hid⟩ := List.mem_map.mp hmem
        exact hthere (List.any_eq_true.mpr ⟨q, hq, decide_eq_true hid⟩)
      rw [← h, List.map_append, List.map_singleton, segmentId_copied hmin hfits, ← List.concat_eq_append]
      exact hapart.concat hnew

/-- A call keeps the segments on the list apart. -/
lemma QueuedApart.call (hs : QueuedApart s) {c : NatCall} {r : c.Result}
    (h : natSem.guarded QueuesApart c s r s') : QueuedApart s' := by
  obtain ⟨hguard, amb, hexec⟩ := h
  cases hbuffers : c.buffers r with
  | some packet => exact hs.insert (hguard.appendsRightly hexec hbuffers) (natExec_inserts hexec hbuffers)
  | none =>
    have heffect := natExec_unsol hexec
    unfold QueuedApart at hs ⊢
    generalize s.unsolPkt = unsol, s'.unsolPkt = unsol' at hs heffect ⊢
    cases heffect with
    | kept => exact hs
    | broken =>
      intro pkts hpkts
      cases hpkts
    | appended hsome =>
      rw [hbuffers] at hsome
      cases hsome
    | filtered =>
      intro pkts hpkts
      obtain rfl := UnsolList.linked.inj hpkts
      exact (hs _ rfl).sublist (List.filter_sublist.map _)

/-- So does a sweep. -/
lemma QueuedApart.sweep (hs : QueuedApart s) (h : natEnv s s') : QueuedApart s' := by
  obtain ⟨rt, now, reported, hsweep⟩ := h
  obtain ⟨pkts, hlinked, -, hkept⟩ := natTimeout_unsol hsweep
  intro pkts' hpkts'
  rw [hkept] at hpkts'
  obtain rfl := UnsolList.linked.inj hpkts'
  exact (hs pkts hlinked).sublist (List.filter_sublist.map _)

end Insertion

/-- **When the insertion is exact, and what follows for runs**: an insertion does what it is for if the
list is searched rightly; and if that is so in every insertion of a run, and the packets inserted reach
over their addresses, ports and sequence numbers, no two queued packets are ever the same segment. -/
theorem insertion_exact_iff_and_queued_apart (icmpQueryTo tcpEstabIdleTo tcpTransitoryTo : UInt32) :
    (∀ (M : NatMemory) (pkts : List SrNatUnsolPkt) (amb : Ambient) (p : ByteMem) (len : UInt32),
      (UnsolList.linked pkts).LiesIn M.unsolNodes M.unsolPkt →
      (∀ i, M.nextNode ≤ i → M.unsolNodes i = none) →
        (InsertsExactly M pkts amb p len ↔ FindsRightly p pkts)) ∧
    ∀ c : NatConf, Steps (natSem.guarded QueuesApart) natEnv natStart
        (.idle, srNatInit icmpQueryTo tcpEstabIdleTo tcpTransitoryTo (.linked [])) c →
      QueuedApart c.2 := by
  constructor
  · intro M pkts amb p len hlies hfresh
    rw [insertsExactly_iff hlies hfresh, findsRightly_iff]
  · intro c hsteps
    refine natInvariant (fun _ _ _ _ hs hcall => hs.call hcall) (fun _ _ hs henv => hs.sweep henv) ?_ hsteps
    intro pkts hpkts
    obtain rfl := UnsolList.linked.inj hpkts
    exact List.nodup_nil

/-- The list of `startState` lies in its memory. -/
lemma linked_memoryOf_startState :
    (UnsolList.linked []).LiesIn (memoryOf startState).unsolNodes (memoryOf startState).unsolPkt :=
  (represents_memoryOf (HeapOk.initial isInitial_startState)).unsol

/-- A SYN is put on the empty list, as a call of its own and in a run. -/
theorem insertion_exact_peerSyn :
    InsertsExactly (memoryOf startState) [] ⟨0, fun _ => 0⟩ peerSyn.buf peerSyn.len ∧
      QueuedApart peerSynState := by
  have hnone : FindsRightly peerSyn.buf [] := by simp [FindsRightly]
  have hboth := insertion_exact_iff_and_queued_apart 60 7440 300
  refine ⟨(hboth.1 (memoryOf startState) [] ⟨0, fun _ => 0⟩ peerSyn.buf peerSyn.len
    linked_memoryOf_startState ?_).mpr hnone, ?_⟩
  · intro i hi
    exact ((represents_memoryOf (HeapOk.initial isInitial_startState)).fresh i hi).1
  · refine hboth.2 (.idle, peerSynState)
      (Prog.Runs.job (j := .tcp oneRoute peerSyn.buf peerSyn.len true) (a := (-1, peerSyn.buf)) ?_)
    have hright : AppendsRightly startState peerSyn.buf peerSyn.len := by
      have hfits : ipHeaderLen peerSyn.buf + 20 ≤ peerSyn.len.toNat := peerSyn.fits
      refine ⟨by omega, by omega, fun pkts hpkts => ?_⟩
      obtain rfl := UnsolList.linked.inj hpkts
      exact hnone
    have hlookup : natSem.guarded QueuesApart (.lookupExternal 1024 .natMappingTcp) startState none
        startState := ⟨trivial, ⟨0, fun _ => 0⟩, rfl⟩
    have hinsert : natSem.guarded QueuesApart (.insertUnsolicitedPacket peerSyn.buf peerSyn.len)
        startState () peerSynState := ⟨hright, ⟨0, fun _ => 0⟩, rfl⟩
    obtain ⟨k, hk, hfree, -⟩ := natTcpInbound_syn peerSyn.len isTcpSyn_peerSyn
    rw [natStart, natHandleTcp_inbound not_srcPrivate_peerSyn, hk, dstPort_peerSyn]
    refine .call hlookup ?_
    rw [hfree]
    exact .call hinsert (.ret _ _)

/-- A SYN from 8.8.8.8:80 to port 1024 of the router with the sequence number 7. -/
def plainSyn : ByteMem :=
  ofBytes [0x45, 0, 0, 40, 0, 0, 0, 0, 64, 6, 0, 0, 8, 8, 8, 8, 172, 64, 3, 1,
    0, 80, 4, 0, 0, 0, 0, 7, 0, 0, 0, 0, 0x50, 2, 0, 0, 0, 0, 0, 0]

/-- The same SYN with four bytes of IP options. -/
def optionSyn : ByteMem :=
  ofBytes [0x46, 0, 0, 44, 0, 0, 0, 0, 64, 6, 0, 0, 8, 8, 8, 8, 172, 64, 3, 1, 1, 1, 1, 1,
    0, 80, 4, 0, 0, 0, 0, 7, 0, 0, 0, 0, 0x50, 2, 0, 0, 0, 0, 0, 0]

/-- The state in which the plain SYN waits. -/
def plainState : SrNat := { startState with unsolPkt := .linked [⟨plainSyn, 0⟩] }

/-- Behind the plain SYN the one with options is queued as well, and the list has its segment twice. -/
theorem insertion_of_optionSyn :
    segmentId optionSyn = segmentId plainSyn ∧
    ¬ InsertsExactly (memoryOf plainState) [⟨plainSyn, 0⟩] ⟨0, fun _ => 0⟩ optionSyn 44 ∧
    ∃ s', natExec ⟨0, fun _ => 0⟩ (.insertUnsolicitedPacket optionSyn 44) plainState = .ok ((), s') ∧
      ¬ QueuedApart s' := by
  have hid : segmentId optionSyn = segmentId plainSyn := by decide
  have hother : sameSegment optionSyn plainSyn = false := by decide
  have hrep : Represents (memoryOf plainState) plainState := represents_memoryOf (heapOk_waiting _)
  refine ⟨hid, ?_, ?_⟩
  · rw [insertsExactly_iff hrep.unsol fun i hi => (hrep.fresh i hi).1]
    simp [hother, hid]
  · have hinsert : srNatInsertUnsolicitedPacket ⟨0, fun _ => 0⟩ plainState.unsolPkt optionSyn 44 =
        .ok (.linked [⟨plainSyn, 0⟩, ⟨copied optionSyn 44 fun _ => 0, 0⟩]) := by
      simp [plainState, srNatInsertUnsolicitedPacket, hother]
    refine ⟨{ plainState with
      unsolPkt := .linked [⟨plainSyn, 0⟩, ⟨copied optionSyn 44 fun _ => 0, 0⟩] }, ?_, fun hapart => ?_⟩
    · simp only [natExec, hinsert]
    · have hcopy : segmentId (copied optionSyn 44 fun _ => 0) = segmentId optionSyn :=
        segmentId_copied (by decide) (by decide)
      have hnodup := hapart _ rfl
      simp [hcopy, hid] at hnodup

end NatRouter
