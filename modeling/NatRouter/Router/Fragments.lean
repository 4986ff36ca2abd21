import NatRouter.Nat.Changes
import NatRouter.Nat.Checksums
import NatRouter.Router.Leaks

/-!
# The fragment field

The handlers translate what lies at the place of the ports or of the identifier, behind the IP header.
They do not look at the fragment field, by which a packet says that it is a later piece of a larger one
and that something else lies there: packets that differ in that field fare alike (`natStart_alike`).  Nor
does `nat_handle_icmp` look at the type of a message, by which an error has no identifier
(`runs_insideError`).

What they change of a packet are two 16-bit fields of what it carries, besides the header
(`natStart_changedAt`), and of a packet that they do not translate they change nothing
(`natStart_leftAlone`).
-/

namespace NatRouter

open ByteMemory Interleaving

/-- `ip_off & IP_OFFMASK`: where the packet belongs in the one it is a fragment of, in units of eight
bytes. -/
def fragmentOffset (p : ByteMem) : ℕ := (ntohs (SrIpHdr.ipOff p)).toNat % 8192

/-- Two packets that differ in the fragment field and the header checksum at most. -/
def SameButFragment (p p' : ByteMem) : Prop :=
  ∀ j, j ≠ 6 → j ≠ 7 → j ≠ 10 → j ≠ 11 → p' j = p j

/-! ### What is read of a packet -/

section Read

variable {p p' : ByteMem}

/-- They have the same header length. -/
lemma SameButFragment.ipHeaderLen_eq (h : SameButFragment p p') : ipHeaderLen p' = ipHeaderLen p :=
  ipHeaderLen_congr (h 0 (by omega) (by omega) (by omega) (by omega))

/-- They have the same 16-bit fields behind the header checksum. -/
lemma SameButFragment.load16_eq (h : SameButFragment p p') {i : ℕ} (hi : 12 ≤ i) :
    load16 p' i = load16 p i :=
  load16_congr fun j _ _ => h j (by omega) (by omega) (by omega) (by omega)

/-- They have the same 32-bit fields there. -/
lemma SameButFragment.load32_eq (h : SameButFragment p p') {i : ℕ} (hi : 12 ≤ i) :
    load32 p' i = load32 p i :=
  load32_congr fun j _ _ => h j (by omega) (by omega) (by omega) (by omega)

/-- They have the same source. -/
lemma SameButFragment.ipSrc_eq (h : SameButFragment p p') : SrIpHdr.ipSrc p' = SrIpHdr.ipSrc p :=
  h.load32_eq (by omega)

/-- They have the same destination. -/
lemma SameButFragment.ipDst_eq (h : SameButFragment p p') : SrIpHdr.ipDst p' = SrIpHdr.ipDst p :=
  h.load32_eq (by omega)

/-- They have the same total length. -/
lemma SameButFragment.ipLen_eq (h : SameButFragment p p') : SrIpHdr.ipLen p' = SrIpHdr.ipLen p :=
  load16_congr fun j _ _ => h j (by omega) (by omega) (by omega) (by omega)

/-- A 16-bit field is written alike. -/
lemma SameButFragment.store16 (h : SameButFragment p p') (i : ℕ) (v : UInt16) :
    SameButFragment (store16 p i v) (store16 p' i v) := by
  intro j h6 h7 h10 h11
  simp only [ByteMemory.store16, h j h6 h7 h10 h11]

/-- A 32-bit field is written alike. -/
lemma SameButFragment.store32 (h : SameButFragment p p') (i : ℕ) (v : UInt32) :
    SameButFragment (store32 p i v) (store32 p' i v) := by
  intro j h6 h7 h10 h11
  simp only [ByteMemory.store32, h j h6 h7 h10 h11]

/-- The header checksums may differ. -/
lemma SameButFragment.setIpSum (h : SameButFragment p p') (v v' : UInt16) :
    SameButFragment (SrIpHdr.setIpSum p v) (SrIpHdr.setIpSum p' v') := by
  intro j h6 h7 h10 h11
  simp only [SrIpHdr.setIpSum, ByteMemory.store16, if_neg h10, if_neg h11, h j h6 h7 h10 h11]

/-- They belong to the same connections. -/
lemma SameButFragment.isPeer_eq (h : SameButFragment p p') (ho : 20 ≤ ipHeaderLen p)
    (direction : Direction) : isPeer direction p' = isPeer direction p := by
  funext c
  have hsrc : SrTcpHdr.srcPort p' (ipHeaderLen p) = SrTcpHdr.srcPort p (ipHeaderLen p) :=
    h.load16_eq (by omega)
  have hdst : SrTcpHdr.dstPort p' (ipHeaderLen p) = SrTcpHdr.dstPort p (ipHeaderLen p) :=
    h.load16_eq (by omega)
  rw [Bool.eq_iff_iff]
  cases direction with
  | internalToExternal =>
    simp only [isPeer, decide_eq_true_eq, h.ipHeaderLen_eq, h.ipDst_eq, hdst]
  | externalToInternal =>
    simp only [isPeer, decide_eq_true_eq, h.ipHeaderLen_eq, h.ipSrc_eq, hsrc]

/-- They have the same flags. -/
lemma SameButFragment.flags_eq (h : SameButFragment p p') (ho : 20 ≤ ipHeaderLen p) :
    SrTcpHdr.fin p' (ipHeaderLen p) = SrTcpHdr.fin p (ipHeaderLen p) ∧
      SrTcpHdr.syn p' (ipHeaderLen p) = SrTcpHdr.syn p (ipHeaderLen p) ∧
      SrTcpHdr.ack p' (ipHeaderLen p) = SrTcpHdr.ack p (ipHeaderLen p) := by
  have hbyte : p' (ipHeaderLen p + 13) = p (ipHeaderLen p + 13) :=
    h _ (by omega) (by omega) (by omega) (by omega)
  simp only [SrTcpHdr.fin, SrTcpHdr.syn, SrTcpHdr.ack, hbyte, and_self]

/-- They advance a connection alike. -/
lemma SameButFragment.updatedConnection_eq (h : SameButFragment p p') (ho : 20 ≤ ipHeaderLen p)
    (now : Time) (c : SrNatConnection) : updatedConnection now p' c = updatedConnection now p c := by
  obtain ⟨hfin, hsyn, hack⟩ := h.flags_eq ho
  unfold updatedConnection determineState
  rw [h.ipHeaderLen_eq, hfin, hsyn, hack]

/-- They are taken for the same segment. -/
lemma SameButFragment.sameSegment_eq (h : SameButFragment p p') (ho : 20 ≤ ipHeaderLen p) :
    sameSegment p' = sameSegment p := by
  funext q
  rw [Bool.eq_iff_iff]
  simp only [sameSegment, decide_eq_true_eq]
  simp only [h.ipHeaderLen_eq, h.ipSrc_eq, h.ipDst_eq, SrTcpHdr.srcPort,
    SrTcpHdr.dstPort, SrTcpHdr.seqNum, h.load16_eq (show 12 ≤ ipHeaderLen p by omega),
    h.load16_eq (show 12 ≤ ipHeaderLen p + 2 by omega),
    h.load32_eq (show 12 ≤ ipHeaderLen p + 4 by omega)]

/-- They open the same connection. -/
lemma SameButFragment.srNatInsertConnection_eq (h : SameButFragment p p') (ho : 20 ≤ ipHeaderLen p)
    (nat : SrNat) (now : Time) (extPort : UInt16) (state : SrTcpStateType) :
    srNatInsertConnection nat now extPort p' state = srNatInsertConnection nat now extPort p state := by
  have hnew : newConnection nat now p' state = newConnection nat now p state := by
    simp only [newConnection, h.ipHeaderLen_eq, h.ipDst_eq, SrTcpHdr.dstPort,
      h.load16_eq (show 12 ≤ ipHeaderLen p + 2 by omega)]
  simp only [srNatInsertConnection, srNatRemoveUnsolicitedPacket, hnew, h.sameSegment_eq ho]

/-- They are put on the unsolicited list, or not. -/
lemma SameButFragment.srNatInsertUnsolicitedPacket_cases (h : SameButFragment p p')
    (ho : 20 ≤ ipHeaderLen p) (amb : Ambient) (unsol : UnsolList) (len : UInt32) :
    (∃ e, srNatInsertUnsolicitedPacket amb unsol p len = .error e ∧
        srNatInsertUnsolicitedPacket amb unsol p' len = .error e) ∨
      ∃ l l', srNatInsertUnsolicitedPacket amb unsol p len = .ok l ∧
        srNatInsertUnsolicitedPacket amb unsol p' len = .ok l' := by
  cases unsol with
  | dangling => exact .inl ⟨_, rfl, rfl⟩
  | linked pkts =>
    refine .inr ?_
    simp only [srNatInsertUnsolicitedPacket, h.sameSegment_eq ho]
    split
    · exact ⟨_, _, rfl, rfl⟩
    · exact ⟨_, _, rfl, rfl⟩

/-- They advance the same connection, or are both put on the unsolicited list. -/
lemma SameButFragment.srNatUpdateConnection_cases (h : SameButFragment p p')
    (ho : 20 ≤ ipHeaderLen p) (s : SrNat) (amb : Ambient) (mapping : SrNatMappingCopy) (len : UInt32)
    (direction : Direction) :
    (∃ e, srNatUpdateConnection s amb mapping p len direction = .error e ∧
        srNatUpdateConnection s amb mapping p' len direction = .error e) ∨
      (∃ c s₁, srNatUpdateConnection s amb mapping p len direction = .ok (some c, s₁) ∧
        srNatUpdateConnection s amb mapping p' len direction = .ok (some c, s₁)) ∨
      ∃ l l', srNatUpdateConnection s amb mapping p len direction =
          .ok (none, { s with unsolPkt := l }) ∧
        srNatUpdateConnection s amb mapping p' len direction = .ok (none, { s with unsolPkt := l' }) := by
  simp only [srNatUpdateConnection, h.updatedConnection_eq ho]
  split
  · exact .inl ⟨_, rfl, rfl⟩
  · rename_i conns _
    have hpeer : conns.find? (isPeer direction p') = conns.find? (isPeer direction p) := by
      rw [h.isPeer_eq ho]
    cases hfind : conns.find? (isPeer direction p) with
    | some c =>
      rw [hfind] at hpeer
      simp only [hpeer]
      exact .inr (.inl ⟨_, _, rfl, rfl⟩)
    | none =>
      rw [hfind] at hpeer
      simp only [hpeer]
      rcases h.srNatInsertUnsolicitedPacket_cases ho amb s.unsolPkt len with
        ⟨e, he, he'⟩ | ⟨l, l', hl, hl'⟩
      · rw [he, he']
        exact .inl ⟨e, rfl, rfl⟩
      · rw [hl, hl']
        exact .inr (.inr ⟨l, l', rfl, rfl⟩)

end Read

/-! ### Programs that fare alike -/

/-- Two runs of a handler that fare alike: with the same return code, with packets that differ in the
fragment field and the header checksum at most, and with states that differ in what is on the unsolicited
list at most; or with the same undefined operation. -/
inductive FareAlike :
    Except Fault ((ℤ × ByteMem) × SrNat) → Except Fault ((ℤ × ByteMem) × SrNat) → Prop
  /-- Both return. -/
  | ret {code : ℤ} {q q' : ByteMem} {s s' : SrNat} (hq : SameButFragment q q')
      (hs : s' = { s with unsolPkt := s'.unsolPkt }) :
      FareAlike (.ok ((code, q), s)) (.ok ((code, q'), s'))
  /-- Both come to the same undefined operation. -/
  | fault (e : Fault) : FareAlike (.error e) (.error e)

section FareAlike

variable {p p' : ByteMem} {amb : ℕ → Ambient} {s : SrNat}

/-- Two programs that fare alike from every state. -/
def ProgsAlike (P P' : NatProg (ℤ × ByteMem)) : Prop :=
  ∀ amb s, FareAlike (P.run natExec amb s) (P'.run natExec amb s)

/-- The same return code. -/
lemma progsAlike_ret (code : ℤ) (h : SameButFragment p p') :
    ProgsAlike (.ret (code, p)) (.ret (code, p')) := fun _ _ => .ret h rfl

/-- The same undefined operation. -/
lemma progsAlike_abort (e : Fault) : ProgsAlike (.abort e) (.abort e) := fun _ _ => .fault e

/-- The same call. -/
lemma progsAlike_call {c : NatCall} {k k' : c.Result → NatProg (ℤ × ByteMem)}
    (hk : ∀ r, ProgsAlike (k r) (k' r)) : ProgsAlike (.call c k) (.call c k') := by
  intro amb s
  unfold Prog.run
  split
  · exact hk _ _ _
  · exact .fault _

/-- The same external id is looked up. -/
lemma progsAlike_lookupExternal {auxExt auxExt' : UInt16} {type : SrNatMappingType}
    {k k' : Option SrNatMappingCopy → NatProg (ℤ × ByteMem)} (haux : auxExt' = auxExt)
    (hk : ∀ r, ProgsAlike (k r) (k' r)) :
    ProgsAlike (.call (.lookupExternal auxExt type) k) (.call (.lookupExternal auxExt' type) k') := by
  subst haux
  exact progsAlike_call hk

/-- A connection is inserted. -/
lemma progsAlike_insertConnection (h : SameButFragment p p') (ho : 20 ≤ ipHeaderLen p)
    {extPort : UInt16} {state : SrTcpStateType} {k k' : Option SrNatConnection → NatProg (ℤ × ByteMem)}
    (hk : ∀ r, ProgsAlike (k r) (k' r)) :
    ProgsAlike (.call (.insertConnection extPort p state) k)
      (.call (.insertConnection extPort p' state) k') := by
  intro amb s
  have heq := h.srNatInsertConnection_eq ho s (amb 0).now extPort state
  cases hexec : srNatInsertConnection s (amb 0).now extPort p state with
  | error e =>
    have hrun := @Prog.run_call_of_error _ _ _ _ _ _ natExec
      (.insertConnection extPort p state) k amb s e hexec
    have hrun' := @Prog.run_call_of_error _ _ _ _ _ _ natExec
      (.insertConnection extPort p' state) k' amb s e (heq.trans hexec)
    rw [hrun, hrun']
    exact .fault e
  | ok r =>
    have hrun := @Prog.run_call_of_ok _ _ _ _ _ _ natExec
      (.insertConnection extPort p state) k amb s r.2 r.1 hexec
    have hrun' := @Prog.run_call_of_ok _ _ _ _ _ _ natExec
      (.insertConnection extPort p' state) k' amb s r.2 r.1 (heq.trans hexec)
    rw [hrun, hrun']
    exact hk r.1 _ r.2

/-- A connection is advanced; without one the handler returns. -/
lemma progsAlike_updateConnection (h : SameButFragment p p') (ho : 20 ≤ ipHeaderLen p)
    {mapping : SrNatMappingCopy} {len : UInt32} {direction : Direction}
    {k k' : Option SrNatConnection → NatProg (ℤ × ByteMem)} {code : ℤ}
    (hsome : ∀ c, ProgsAlike (k (some c)) (k' (some c))) (hnone : k none = .ret (code, p))
    (hnone' : k' none = .ret (code, p')) :
    ProgsAlike (.call (.updateConnection mapping p len direction) k)
      (.call (.updateConnection mapping p' len direction) k') := by
  intro amb s
  rcases h.srNatUpdateConnection_cases ho s (amb 0) mapping len direction with
    ⟨e, he, he'⟩ | ⟨c, s₁, hc, hc'⟩ | ⟨l, l', hl, hl'⟩
  · have hrun := @Prog.run_call_of_error _ _ _ _ _ _ natExec
      (.updateConnection mapping p len direction) k amb s e he
    have hrun' := @Prog.run_call_of_error _ _ _ _ _ _ natExec
      (.updateConnection mapping p' len direction) k' amb s e he'
    rw [hrun, hrun']
    exact .fault e
  · have hrun := @Prog.run_call_of_ok _ _ _ _ _ _ natExec
      (.updateConnection mapping p len direction) k amb s s₁ (some c) hc
    have hrun' := @Prog.run_call_of_ok _ _ _ _ _ _ natExec
      (.updateConnection mapping p' len direction) k' amb s s₁ (some c) hc'
    rw [hrun, hrun']
    exact hsome c _ s₁
  · have hrun := @Prog.run_call_of_ok _ _ _ _ _ _ natExec
      (.updateConnection mapping p len direction) k amb s _ none hl
    have hrun' := @Prog.run_call_of_ok _ _ _ _ _ _ natExec
      (.updateConnection mapping p' len direction) k' amb s _ none hl'
    rw [hrun, hrun', hnone, hnone']
    exact .ret h rfl

/-- The packet is put on the unsolicited list, and the handler returns. -/
lemma progsAlike_insertUnsolicited (h : SameButFragment p p') (ho : 20 ≤ ipHeaderLen p) (len : UInt32)
    (code : ℤ) :
    ProgsAlike (.call (.insertUnsolicitedPacket p len) fun _ => .ret (code, p))
      (.call (.insertUnsolicitedPacket p' len) fun _ => .ret (code, p')) := by
  intro amb s
  simp only [Prog.run, natExec]
  rcases h.srNatInsertUnsolicitedPacket_cases ho (amb 0) s.unsolPkt len with
    ⟨e, he, he'⟩ | ⟨l, l', hl, hl'⟩
  · rw [he, he']
    exact .fault e
  · rw [hl, hl']
    exact .ret h rfl

end FareAlike

/-! ### The handlers -/

section Handlers

variable {cfg : NetConfig} {p p' : ByteMem} {len : UInt32} {o : ℕ}

/-- The end of `nat_handle_tcp`. -/
lemma natTcpUpdateChecksum_alike (h : SameButFragment p p') (ho : 20 ≤ o) :
    ProgsAlike (natTcpUpdateChecksum p len o) (natTcpUpdateChecksum p' len o) := by
  have hbuffer : ∀ {r r' : ByteMem}, SameButFragment r r' → ∀ n,
      tcpChecksumBuffer r' o n = tcpChecksumBuffer r o n := by
    intro r r' hr n
    have hproto : SrIpHdr.ipP r' = SrIpHdr.ipP r := hr 9 (by omega) (by omega) (by omega) (by omega)
    funext j
    simp only [tcpChecksumBuffer, hr.ipSrc_eq, hr.ipDst_eq, hproto]
    split
    · rfl
    · exact hr _ (by omega) (by omega) (by omega) (by omega)
  have hcleared := h.store16 (o + 16) 0
  unfold natTcpUpdateChecksum
  simp only [SrTcpHdr.setChecksum]
  split
  · exact progsAlike_abort _
  · rw [hbuffer hcleared]
    exact progsAlike_ret 1 (((hcleared.store16 (o + 16) _).setIpSum 0 0).setIpSum _ _)

/-- The source rewriting of `nat_handle_tcp`. -/
lemma natTcpTranslateSource_alike (h : SameButFragment p p') (ho : 20 ≤ o)
    (mapping : SrNatMappingCopy) :
    ProgsAlike (natTcpTranslateSource cfg p len o mapping)
      (natTcpTranslateSource cfg p' len o mapping) := by
  have hport := h.store16 o (htons mapping.auxExt)
  unfold natTcpTranslateSource
  simp only [SrTcpHdr.setSrcPort, hport.ipDst_eq]
  split
  · exact progsAlike_abort _
  · exact progsAlike_abort _
  · split
    · exact progsAlike_abort _
    · exact natTcpUpdateChecksum_alike (hport.store32 12 _) ho

/-- The internal to external branch of `nat_handle_tcp`. -/
lemma natTcpOutbound_alike (h : SameButFragment p p') (ho : 20 ≤ ipHeaderLen p) :
    ProgsAlike (natTcpOutbound cfg p len (ipHeaderLen p))
      (natTcpOutbound cfg p' len (ipHeaderLen p)) := by
  have hport : SrTcpHdr.srcPort p' (ipHeaderLen p) = SrTcpHdr.srcPort p (ipHeaderLen p) :=
    h.load16_eq (by omega)
  unfold natTcpOutbound
  simp only
  rw [h.ipSrc_eq, hport]
  refine progsAlike_call fun r => ?_
  cases r with
  | none =>
    refine progsAlike_call fun mapping => ?_
    refine progsAlike_insertConnection h ho fun r => ?_
    cases r with
    | none => exact progsAlike_abort _
    | some c => exact natTcpTranslateSource_alike h ho mapping
  | some mapping =>
    exact progsAlike_updateConnection h ho (fun c => natTcpTranslateSource_alike h ho mapping) rfl rfl

/-- The external to internal branch of `nat_handle_tcp`. -/
lemma natTcpInbound_alike (h : SameButFragment p p') (ho : 20 ≤ ipHeaderLen p) :
    ProgsAlike (natTcpInbound p len (ipHeaderLen p)) (natTcpInbound p' len (ipHeaderLen p)) := by
  have hport : SrTcpHdr.dstPort p' (ipHeaderLen p) = SrTcpHdr.dstPort p (ipHeaderLen p) :=
    h.load16_eq (by omega)
  obtain ⟨-, hsyn, hack⟩ := h.flags_eq ho
  unfold natTcpInbound
  simp only
  rw [hport, hsyn, hack]
  by_cases hinit : SrTcpHdr.syn p (ipHeaderLen p) = true ∧ ¬ SrTcpHdr.ack p (ipHeaderLen p) = true
  · rw [if_pos hinit, if_pos hinit]
    refine progsAlike_call fun r => ?_
    cases r with
    | none => exact progsAlike_insertUnsolicited h ho len (-1)
    | some mapping =>
      exact progsAlike_updateConnection h ho (fun _ => progsAlike_ret (-1) h) rfl rfl
  · rw [if_neg hinit, if_neg hinit]
    refine progsAlike_call fun r => ?_
    cases r with
    | none => exact natTcpUpdateChecksum_alike h ho
    | some mapping =>
      refine progsAlike_updateConnection h ho (fun _ => ?_) rfl rfl
      exact natTcpUpdateChecksum_alike ((h.store16 _ _).store32 16 _) ho

/-- The end of `nat_handle_icmp`. -/
lemma natIcmpUpdateChecksum_alike (h : SameButFragment p p') (ho : 20 ≤ o) :
    ProgsAlike (natIcmpUpdateChecksum p o) (natIcmpUpdateChecksum p' o) := by
  have hcleared := h.store16 (o + 2) 0
  have hload : (fun i => store16 p' (o + 2) 0 (o + i)) = fun i => store16 p (o + 2) 0 (o + i) :=
    funext fun i => hcleared _ (by omega) (by omega) (by omega) (by omega)
  unfold natIcmpUpdateChecksum
  simp only [SrIcmpHdr.setIcmpSum, h.ipLen_eq, hload]
  exact progsAlike_ret 1 (((hcleared.store16 (o + 2) _).setIpSum 0 0).setIpSum _ _)

/-- The source rewriting of `nat_handle_icmp`. -/
lemma natIcmpTranslateSource_alike (h : SameButFragment p p') (ho : 20 ≤ o) (lpm : SrRt)
    (mapping : SrNatMappingCopy) :
    ProgsAlike (natIcmpTranslateSource cfg p o lpm mapping)
      (natIcmpTranslateSource cfg p' o lpm mapping) := by
  unfold natIcmpTranslateSource
  simp only
  split
  · exact progsAlike_abort _
  · exact natIcmpUpdateChecksum_alike ((h.store16 (o + 4) _).store32 12 _) ho

/-- The internal to external branch of `nat_handle_icmp`. -/
lemma natIcmpOutbound_alike (h : SameButFragment p p') (ho : 20 ≤ o) :
    ProgsAlike (natIcmpOutbound cfg p o) (natIcmpOutbound cfg p' o) := by
  have hid : SrIcmpHdr.identifier p' o = SrIcmpHdr.identifier p o := h.load16_eq (by omega)
  unfold natIcmpOutbound
  simp only
  rw [h.ipSrc_eq, h.ipDst_eq, hid]
  split
  · exact progsAlike_abort _
  · exact progsAlike_ret 0 h
  · refine progsAlike_call fun r => ?_
    cases r with
    | none => exact progsAlike_call fun mapping => natIcmpTranslateSource_alike h ho _ mapping
    | some mapping => exact natIcmpTranslateSource_alike h ho _ mapping

/-- The external to internal branch of `nat_handle_icmp`. -/
lemma natIcmpInbound_alike (h : SameButFragment p p') (ho : 20 ≤ o) :
    ProgsAlike (natIcmpInbound p o) (natIcmpInbound p' o) := by
  have hid : SrIcmpHdr.identifier p' o = SrIcmpHdr.identifier p o := h.load16_eq (by omega)
  refine progsAlike_lookupExternal (congrArg ntohs hid) fun r => ?_
  cases r with
  | none => exact progsAlike_ret 0 h
  | some mapping => exact natIcmpUpdateChecksum_alike ((h.store16 (o + 4) _).store32 16 _) ho

/-- `nat_handle_tcp`. -/
lemma natHandleTcp_alike (h : SameButFragment p p') (ho : 20 ≤ ipHeaderLen p) (isToNat : Bool) :
    ProgsAlike (natHandleTcp cfg p len isToNat) (natHandleTcp cfg p' len isToNat) := by
  have hsrc' : srcPrivate p' ↔ srcPrivate p := by rw [srcPrivate, h.ipSrc_eq, srcPrivate]
  have hdst' : dstPrivate p' ↔ dstPrivate p := by rw [dstPrivate, h.ipDst_eq, dstPrivate]
  by_cases hsrc : srcPrivate p
  · by_cases hdst : dstPrivate p
    · rw [natHandleTcp_inside hsrc hdst, natHandleTcp_inside (hsrc'.mpr hsrc) (hdst'.mpr hdst)]
      exact progsAlike_ret 1 h
    · rw [natHandleTcp_outbound hsrc hdst,
        natHandleTcp_outbound (hsrc'.mpr hsrc) (mt hdst'.mp hdst), h.ipHeaderLen_eq]
      exact natTcpOutbound_alike h ho
  · cases isToNat with
    | true =>
      rw [natHandleTcp_inbound hsrc, natHandleTcp_inbound (mt hsrc'.mp hsrc), h.ipHeaderLen_eq]
      exact natTcpInbound_alike h ho
    | false =>
      rw [natHandleTcp_transit hsrc, natHandleTcp_transit (mt hsrc'.mp hsrc)]
      by_cases hdst : dstPrivate p
      · rw [if_pos hdst, if_pos (hdst'.mpr hdst)]
        exact progsAlike_ret 0 h
      · rw [if_neg hdst, if_neg (mt hdst'.mp hdst)]
        exact progsAlike_ret 1 h

/-- `nat_handle_icmp`. -/
lemma natHandleIcmp_alike (h : SameButFragment p p') (ho : 20 ≤ ipHeaderLen p) :
    ProgsAlike (natHandleIcmp cfg p) (natHandleIcmp cfg p') := by
  have hsrc' : srcPrivate p' ↔ srcPrivate p := by rw [srcPrivate, h.ipSrc_eq, srcPrivate]
  have hdst' : dstPrivate p' ↔ dstPrivate p := by rw [dstPrivate, h.ipDst_eq, dstPrivate]
  by_cases hsrc : srcPrivate p
  · by_cases hdst : dstPrivate p
    · rw [natHandleIcmp_inside hsrc hdst, natHandleIcmp_inside (hsrc'.mpr hsrc) (hdst'.mpr hdst)]
      exact progsAlike_ret 0 h
    · rw [natHandleIcmp_outbound hsrc hdst,
        natHandleIcmp_outbound (hsrc'.mpr hsrc) (mt hdst'.mp hdst), h.ipHeaderLen_eq]
      exact natIcmpOutbound_alike h ho
  · rw [natHandleIcmp_inbound hsrc, natHandleIcmp_inbound (mt hsrc'.mp hsrc), h.ipHeaderLen_eq]
    exact natIcmpInbound_alike h ho

end Handlers

/-- The job of another packet. -/
def NatJob.withPacket (p' : ByteMem) : NatJob → NatJob
  | .icmp cfg _ => .icmp cfg p'
  | .tcp cfg _ ipPacketLen isToNat => .tcp cfg p' ipPacketLen isToNat

/-- **The fragment field is not looked at**: packets that differ in it fare alike. -/
lemma natStart_alike {j : NatJob} {p' : ByteMem} (h : SameButFragment j.packet p')
    (ho : 20 ≤ ipHeaderLen j.packet) : ProgsAlike (natStart j) (natStart (j.withPacket p')) := by
  cases j with
  | icmp cfg p => exact natHandleIcmp_alike h ho
  | tcp cfg p len isToNat => exact natHandleTcp_alike h ho isToNat

/-! ### What is left alone -/

/-- The packets that a handler lets pass untranslated, with the code 1: the segments between inside hosts,
and those in transit between outside hosts.  `nat_handle_icmp` has the code 1 for what it translates
only. -/
def NatJob.PassesUntranslated : NatJob → Prop
  | .icmp _ _ => False
  | .tcp _ p _ isToNat => ¬ TcpTranslated p isToNat

section LeftAlone

variable {cfg : NetConfig} {p : ByteMem} {len : UInt32} {o : ℕ} {amb : ℕ → Ambient} {s s' : SrNat}
  {a : ℤ × ByteMem}

/-- A segment from inside that is not translated. -/
lemma natTcpOutbound_leftAlone (h : (natTcpOutbound cfg p len o).run natExec amb s = .ok (a, s'))
    (hne : a.1 ≠ 1) : a.2 = p ∧ SameTable s s' := by
  have hsource : ∀ mapping amb t, (natTcpTranslateSource cfg p len o mapping).run natExec amb t ≠
      .ok (a, s') := by
    intro mapping amb t hrun
    rcases natTcpTranslateSource_cases cfg p len o mapping with ⟨e, he, -⟩ | ⟨q, i, hq, -⟩
    · rw [he] at hrun
      cases hrun
    · rw [hq] at hrun
      cases hrun
      exact hne rfl
  cases hlookup : srNatLookupInternal s (ntohl (SrIpHdr.ipSrc p)) (ntohs (SrTcpHdr.srcPort p o))
      .natMappingTcp with
  | some mapping =>
    cases hupdate : srNatUpdateConnection s (amb 1) mapping p len .internalToExternal with
    | error e =>
      rw [natTcpOutbound_run_error hlookup hupdate] at h
      cases h
    | ok r =>
      obtain ⟨_ | c, s₁⟩ := r
      · rw [natTcpOutbound_run_unsolicited hlookup hupdate] at h
        cases h
        exact ⟨rfl, srNatUpdateConnection_sameTable hupdate⟩
      · rw [natTcpOutbound_run_some hlookup hupdate] at h
        exact absurd h (hsource _ _ _)
  | none =>
    cases hinsert : srNatInsertConnection (srNatInsertMapping s (amb 1).now (ntohl (SrIpHdr.ipSrc p))
        (ntohs (SrTcpHdr.srcPort p o)) .natMappingTcp).2 (amb 2).now
        (toUint16 (findNextId s.bitmap).1) p .synSent with
    | error e =>
      rw [natTcpOutbound_run_none_error hlookup hinsert] at h
      cases h
    | ok r =>
      obtain ⟨_ | c, s₁⟩ := r
      · exact absurd hinsert srNatInsertConnection_new_ne_none
      · rw [natTcpOutbound_run_none hlookup hinsert] at h
        exact absurd h (hsource _ _ _)

/-- A segment from outside that is not translated. -/
lemma natTcpInbound_leftAlone (h : (natTcpInbound p len o).run natExec amb s = .ok (a, s'))
    (hne : a.1 ≠ 1) : a.2 = p ∧ SameTable s s' := by
  have hupdate : ∀ q, (natTcpUpdateChecksum q len o).Returns fun a => a.1 ≠ 1 → a.2 = p := by
    intro q
    unfold natTcpUpdateChecksum
    simp only
    split
    · trivial
    · exact fun hne => absurd rfl hne
  have hreturns : (natTcpInbound p len o).Returns fun a => a.1 ≠ 1 → a.2 = p :=
    natTcpInbound_returns (fun _ => rfl) (fun _ => rfl) (hupdate p) fun _ _ => hupdate _
  exact ⟨hreturns.of_run h hne, sameTable_of_calls (natTcpInbound_calls p len o) h⟩

/-- A message from inside that is not translated. -/
lemma natIcmpOutbound_leftAlone (h : (natIcmpOutbound cfg p o).run natExec amb s = .ok (a, s'))
    (hne : a.1 ≠ 1) : a.2 = p ∧ SameTable s s' := by
  cases hroute : srRtLookup cfg.routingTable (SrIpHdr.ipDst p) with
  | error e =>
    simp only [natIcmpOutbound, hroute] at h
    cases h
  | ok lpm =>
    cases lpm with
    | none =>
      simp only [natIcmpOutbound, hroute] at h
      cases h
      exact ⟨rfl, .refl s⟩
    | some lpm =>
      cases hi : srGetInterface cfg.ifList lpm.interface with
      | none =>
        have hsource : ∀ mapping, (natIcmpTranslateSource cfg p o lpm mapping).Returns
            fun _ => False := by
          intro mapping
          rw [natIcmpTranslateSource_eq_abort p o hi]
          trivial
        have habort : (natIcmpOutbound cfg p o).Returns fun _ => False := by
          simp only [natIcmpOutbound, hroute]
          intro r
          cases r with
          | none => exact hsource
          | some mapping => exact hsource mapping
        exact (habort.of_run h).elim
      | some i =>
        cases hlookup : srNatLookupInternal s (ntohl (SrIpHdr.ipSrc p))
            (ntohs (SrIcmpHdr.identifier p o)) .natMappingIcmp with
        | some mapping =>
          have hrun := @natIcmpOutbound_run_known cfg p o amb s _ _ _ ⟨hroute, hi⟩ hlookup
          obtain ⟨rfl, -⟩ := Prod.mk.inj (Except.ok.inj (h.symm.trans hrun))
          exact absurd rfl hne
        | none =>
          have hrun := @natIcmpOutbound_run_new cfg p o amb s _ _ ⟨hroute, hi⟩ hlookup
          obtain ⟨rfl, -⟩ := Prod.mk.inj (Except.ok.inj (h.symm.trans hrun))
          exact absurd rfl hne

/-- A message from outside that is not translated. -/
lemma natIcmpInbound_leftAlone (h : (natIcmpInbound p o).run natExec amb s = .ok (a, s'))
    (hne : a.1 ≠ 1) : a.2 = p ∧ SameTable s s' := by
  have hreturns : (natIcmpInbound p o).Returns fun a => a.1 ≠ 1 → a.2 = p :=
    natIcmpInbound_returns (fun _ => rfl) fun _ _ hne => absurd rfl hne
  exact ⟨hreturns.of_run h hne, sameTable_of_calls (natIcmpInbound_calls p o) h⟩

end LeftAlone

/-- **A packet that is not translated** is left as it is, and nothing is made of it. -/
lemma natStart_leftAlone {j : NatJob} {amb : ℕ → Ambient} {s s' : SrNat} {a : ℤ × ByteMem}
    (h : (natStart j).run natExec amb s = .ok (a, s')) (hne : a.1 ≠ 1 ∨ j.PassesUntranslated) :
    a.2 = j.packet ∧ SameTable s s' := by
  have hret : ∀ {code : ℤ}, (Prog.ret (code, j.packet) : NatProg (ℤ × ByteMem)).run natExec amb s =
      .ok (a, s') → a.2 = j.packet ∧ SameTable s s' := by
    intro code hrun
    cases hrun
    exact ⟨rfl, .refl s⟩
  cases j with
  | icmp cfg p =>
    have hcode : a.1 ≠ 1 := hne.resolve_right not_false
    change (natHandleIcmp cfg p).run natExec amb s = _ at h
    by_cases hsrc : srcPrivate p
    · by_cases hdst : dstPrivate p
      · rw [natHandleIcmp_inside hsrc hdst] at h
        exact hret h
      · rw [natHandleIcmp_outbound hsrc hdst] at h
        exact natIcmpOutbound_leftAlone h hcode
    · rw [natHandleIcmp_inbound hsrc] at h
      exact natIcmpInbound_leftAlone h hcode
  | tcp cfg p len isToNat =>
    change (natHandleTcp cfg p len isToNat).run natExec amb s = _ at h
    by_cases hsrc : srcPrivate p
    · by_cases hdst : dstPrivate p
      · rw [natHandleTcp_inside hsrc hdst] at h
        exact hret h
      · rw [natHandleTcp_outbound hsrc hdst] at h
        exact natTcpOutbound_leftAlone h (hne.resolve_right (not_not.mpr (.inl ⟨hsrc, hdst⟩)))
    · cases isToNat with
      | true =>
        rw [natHandleTcp_inbound hsrc] at h
        exact natTcpInbound_leftAlone h (hne.resolve_right (not_not.mpr (.inr ⟨hsrc, rfl⟩)))
      | false =>
        rw [natHandleTcp_transit hsrc] at h
        exact hret h

/-- A message to the router gets to the NAT only if it is an echo reply. -/
lemma icmpAction_of_not_reply {cfg : NetConfig} {natEnabled : Bool} {packet : ByteMem}
    (htype : SrIcmpHdr.icmpType packet (ipHeaderLen packet) ≠ 0) :
    icmpAction cfg natEnabled packet = .ret .drop ∨
      icmpAction cfg natEnabled packet = .ret (.sendIcmp packet icmpTypeEchoreply 0) := by
  unfold icmpAction
  simp only
  split_ifs with hecho hreply
  · exact .inr rfl
  · exact absurd hreply.2 htype
  · exact .inl rfl

/-- **Translation looks at neither fragments nor types.**  Of what a packet carries a handler changes the
port or the identifier and the checksum only, at the place where they are in a packet that is not a
fragment; a packet that is not translated is left as it is and no mapping is made of it.  Packets that
differ in the fragment field fare alike.  An ICMP message of any type is translated by its addresses and
what lies at the place of an identifier; but a message to the router gets to the NAT only if it is an echo
reply. -/
theorem translation_ignores_fragments (j : NatJob) (amb : ℕ → Ambient) (s : SrNat) :
    (∀ a s', (natStart j).run natExec amb s = .ok (a, s') →
      ChangedAt j.translated j.packet a.2 ∧
        (a.1 ≠ 1 ∨ j.PassesUntranslated → a.2 = j.packet ∧ SameTable s s')) ∧
    (20 ≤ ipHeaderLen j.packet → ∀ p', SameButFragment j.packet p' →
      FareAlike ((natStart j).run natExec amb s) ((natStart (j.withPacket p')).run natExec amb s)) ∧
    (∀ cfg p q, IcmpTranslates cfg s p q →
      ∃ s', (natStart (.icmp cfg p)).run natExec amb s = .ok ((1, q), s')) ∧
    ∀ cfg natEnabled p len, isForRouter cfg (SrIpHdr.ipDst p) = true →
      SrIpHdr.ipP p = ipProtocolIcmp → SrIcmpHdr.icmpType p (ipHeaderLen p) ≠ 0 →
        ∃ action, ipAction cfg natEnabled p len = .ret action ∧ ∀ q, action ≠ .forward q := by
  refine ⟨fun a s' h => ⟨(natStart_changedAt j).of_run h, natStart_leftAlone h⟩,
    fun ho p' h => natStart_alike h ho amb s, fun cfg p q h => h.run amb, ?_⟩
  intro cfg natEnabled p len hfor hicmp htype
  by_cases hok : Accepted p len
  · rw [ipAction_of_accepted hok, if_pos hfor, routerAction_icmp hicmp]
    split_ifs
    · rcases icmpAction_of_not_reply htype with h | h
      · exact ⟨_, h, fun q hq => by cases hq⟩
      · exact ⟨_, h, fun q hq => by cases hq⟩
    · exact ⟨_, rfl, fun q hq => by cases hq⟩
  · exact ⟨_, ipAction_of_not_accepted hok, fun q hq => by cases hq⟩

/-- A later fragment of a TCP segment from 10.0.0.1 to 8.8.8.8, with the bytes from A to U. -/
def laterFragment : TcpPacket where
  buf := ofBytes [0x45, 0, 0, 41, 0, 0, 0, 185, 64, 6, 0x60, 0x06, 10, 0, 0, 1, 8, 8, 8, 8,
    65, 66, 67, 68, 69, 70, 71, 72, 73, 74, 75, 76, 77, 78, 79, 80, 81, 82, 83, 84, 85]
  len := 41
  isTcp := rfl
  headerLen := by decide
  fits := by decide
  len_le := by decide

/-- With another offset it fares alike. -/
theorem translation_ignores_fragments_laterFragment :
    FareAlike
      ((natHandleTcp oneRoute laterFragment.buf laterFragment.len false).run natExec quiet startState)
      ((natHandleTcp oneRoute (store16 laterFragment.buf 6 0) laterFragment.len false).run natExec quiet
        startState) := by
  have hsame : SameButFragment laterFragment.buf (store16 laterFragment.buf 6 0) :=
    fun j h6 h7 _ _ => store16_apply_of_disjoint (by omega)
  exact (translation_ignores_fragments (.tcp oneRoute laterFragment.buf laterFragment.len false) quiet
    startState).2.1 laterFragment.offset_ge (store16 laterFragment.buf 6 0) hsame

/-- The first two bytes of the fragment are taken for a port: they are rewritten, and a mapping is made
of them. -/
lemma runs_laterFragment : ∃ q s',
    (natHandleTcp oneRoute laterFragment.buf laterFragment.len false).run natExec quiet startState =
      .ok ((1, q), s') ∧
    SrTcpHdr.srcPort laterFragment.buf 20 = htons 0x4142 ∧ SrTcpHdr.srcPort q 20 = htons 1024 ∧
      mappedId startState (0x0a000001, 0x4142) = none ∧
        mappedId s' (0x0a000001, 0x4142) = some 1024 := by
  have hsrc : srcPrivate laterFragment.buf :=
    show isPrivateIp (ntohl (SrIpHdr.ipSrc laterFragment.buf)) = true by decide +kernel
  have hdst : ¬ dstPrivate laterFragment.buf :=
    show ¬ isPrivateIp (ntohl (SrIpHdr.ipDst laterFragment.buf)) = true by decide +kernel
  have hkey : tcpKey laterFragment.buf = (0x0a000001, 0x4142) := by decide +kernel
  have hid : externalId startState (tcpKey laterFragment.buf) = 1024 := by decide +kernel
  have hroute : HasRoute oneRoute (routedDst laterFragment.buf (ipHeaderLen laterFragment.buf)
      (htons (externalId startState (tcpKey laterFragment.buf)))) outerRoute outerInterface := by
    have hip : SrIpHdr.ipDst laterFragment.buf = htonl 0x08080808 := by decide +kernel
    rw [routedDst_eq _ laterFragment.offset_ge, hip]
    exact hasRoute_oneRoute
  have hpasses : TcpPasses oneRoute startState laterFragment.buf laterFragment.len false _ :=
    .outbound hsrc hdst (takesOn_startState laterFragment.buf) laterFragment.tcpSegmentLen_nonneg hroute
  obtain ⟨s', hrun⟩ := hpasses.run quiet
  have hmapped := mappedId_tcpOutbound hsrc hdst rfl hrun
  rw [hid, hkey] at hmapped
  have hfields := tcpFields_tcpSourced laterFragment.buf laterFragment.len laterFragment.offset_ge
    outerInterface.ip (htons (externalId startState (tcpKey laterFragment.buf)))
  refine ⟨_, s', hrun, by decide +kernel, ?_, rfl, hmapped⟩
  exact (congrArg TcpFields.srcPort hfields).trans (congrArg htons hid)

/-- An ICMP error (destination unreachable) of 10.0.0.1 to 8.8.8.8. -/
def insideError : IpPacket := sealedMessage 64 3 0x0a000001 0x08080808 0

/-- The unused bytes of the error are taken for an identifier: they are rewritten, and a mapping is made
of them. -/
lemma runs_insideError : ∃ q s',
    (natHandleIcmp oneRoute insideError.buf).run natExec quiet startState = .ok ((1, q), s') ∧
    SrIcmpHdr.identifier insideError.buf 20 = htons 0 ∧ SrIcmpHdr.identifier q 20 = htons 1024 ∧
      mappedId startState (0x0a000001, 0) = none ∧ mappedId s' (0x0a000001, 0) = some 1024 := by
  have hip : SrIpHdr.ipSrc insideError.buf = htonl 0x0a000001 := ipSrc_sealedMessage ..
  have hlen : ipHeaderLen insideError.buf = 20 := ipHeaderLen_sealedMessage ..
  have hident : SrIcmpHdr.identifier insideError.buf 20 = htons 0 := identifier_sealedMessage ..
  have hto : SrIpHdr.ipDst insideError.buf = htonl 0x08080808 := ipDst_sealedMessage ..
  have hsrc : srcPrivate insideError.buf := by
    rw [srcPrivate, hip]
    decide
  have hdst : ¬ dstPrivate insideError.buf := by
    rw [dstPrivate, hto]
    decide
  have hkey : icmpKey insideError.buf = (0x0a000001, 0) := by
    rw [icmpKey, hip, hlen, hident]
    decide
  have hid : externalId startState (icmpKey insideError.buf) = 1024 := by
    rw [hkey]
    decide +kernel
  have hroute : HasRoute oneRoute (SrIpHdr.ipDst insideError.buf) outerRoute outerInterface := by
    rw [hto]
    exact hasRoute_oneRoute
  have htrans : IcmpTranslates oneRoute startState insideError.buf _ := .outbound hsrc hdst hroute
  obtain ⟨s', hrun⟩ := htrans.run quiet
  have hmapped := mappedId_icmpOutbound hsrc hdst hroute hrun
  rw [hid, hkey] at hmapped
  have hfields := icmpFields_icmpSourced insideError.buf insideError.offset_ge outerInterface.ip
    (htons (externalId startState (icmpKey insideError.buf)))
  rw [hlen] at hfields
  refine ⟨_, s', hrun, hident, ?_, rfl, hmapped⟩
  rw [hlen]
  exact (congrArg IcmpFields.identifier hfields).trans (congrArg htons hid)

/-- A later fragment and an ICMP error are rewritten, and mappings are made of their bytes. -/
theorem payloads_rewritten :
    (fragmentOffset laterFragment.buf = 185 ∧ Accepted laterFragment.buf laterFragment.len ∧ ∃ q s',
      (natHandleTcp oneRoute laterFragment.buf laterFragment.len false).run natExec quiet startState =
        .ok ((1, q), s') ∧
      SrTcpHdr.srcPort laterFragment.buf 20 = htons 0x4142 ∧ SrTcpHdr.srcPort q 20 = htons 1024 ∧
        mappedId startState (0x0a000001, 0x4142) = none ∧
          mappedId s' (0x0a000001, 0x4142) = some 1024) ∧
    SrIcmpHdr.icmpType insideError.buf 20 = icmpTypeDstunreachable ∧
      Accepted insideError.buf insideError.len ∧ ∃ q s',
      (natHandleIcmp oneRoute insideError.buf).run natExec quiet startState = .ok ((1, q), s') ∧
      SrIcmpHdr.identifier insideError.buf 20 = htons 0 ∧ SrIcmpHdr.identifier q 20 = htons 1024 ∧
        mappedId startState (0x0a000001, 0) = none ∧ mappedId s' (0x0a000001, 0) = some 1024 :=
  ⟨⟨by decide +kernel, by decide +kernel, runs_laterFragment⟩,
    congrArg IcmpFields.icmpType (icmpFields_sealedMessage 64 3 0x0a000001 0x08080808 0),
    accepted_sealedMessage .., runs_insideError⟩

end NatRouter
