import NatRouter.Nat.Rewriting
import NatRouter.Nat.System

/-!
# The handlers run alone

What a handler returns when no sweep comes between its calls, branch by branch: the return code, the
packet, and the NAT state.
-/

namespace NatRouter

open ByteMemory PackedBits Interleaving

variable {cfg : NetConfig} {p : ByteMem} {len : UInt32} {o : ℕ} {amb : ℕ → Ambient} {s : SrNat}

/-! ### ICMP -/

/-- An outgoing message of an endpoint that has a mapping. -/
lemma natIcmpOutbound_run_known {lpm : SrRt} {i : SrIf} {mapping : SrNatMappingCopy}
    (hroute : HasRoute cfg (SrIpHdr.ipDst p) lpm i)
    (hlookup : srNatLookupInternal s (ntohl (SrIpHdr.ipSrc p)) (ntohs (SrIcmpHdr.identifier p o))
      .natMappingIcmp = some mapping) :
    (natIcmpOutbound cfg p o).run natExec amb s =
      .ok ((1, icmpSourced p o i.ip (htons mapping.auxExt)), s) := by
  simp only [natIcmpOutbound, hroute.lookup, Prog.run, natExec, hlookup,
    natIcmpTranslateSource_eq p o hroute.interface]

/-- An outgoing message of an endpoint that has none. -/
lemma natIcmpOutbound_run_new {lpm : SrRt} {i : SrIf}
    (hroute : HasRoute cfg (SrIpHdr.ipDst p) lpm i)
    (hlookup : srNatLookupInternal s (ntohl (SrIpHdr.ipSrc p)) (ntohs (SrIcmpHdr.identifier p o))
      .natMappingIcmp = none) :
    (natIcmpOutbound cfg p o).run natExec amb s =
      .ok ((1, icmpSourced p o i.ip (htons (toUint16 (findNextId s.bitmap).1))),
        (srNatInsertMapping s (amb 1).now (ntohl (SrIpHdr.ipSrc p))
          (ntohs (SrIcmpHdr.identifier p o)) .natMappingIcmp).2) := by
  simp only [natIcmpOutbound, hroute.lookup]
  refine (Prog.run_call_of_ok (congrArg (fun r => Except.ok (r, s)) hlookup)).trans ?_
  refine (Prog.run_call_of_ok rfl).trans ?_
  rw [natIcmpTranslateSource_eq p o hroute.interface]
  rfl

/-- An incoming message with the external id of a mapping. -/
lemma natIcmpInbound_run_found {mapping : SrNatMappingCopy}
    (hlookup : srNatLookupExternal s (ntohs (SrIcmpHdr.identifier p o)) .natMappingIcmp =
      some mapping) :
    (natIcmpInbound p o).run natExec amb s =
      .ok ((1, icmpDestined p o (htonl mapping.ipInt) (htons mapping.auxInt)), s) := by
  simp only [natIcmpInbound, Prog.run, natExec, hlookup, natIcmpUpdateChecksum_eq, icmpDestined]

/-- An incoming message with any other identifier. -/
lemma natIcmpInbound_run_unknown
    (hlookup : srNatLookupExternal s (ntohs (SrIcmpHdr.identifier p o)) .natMappingIcmp = none) :
    (natIcmpInbound p o).run natExec amb s = .ok ((0, p), s) := by
  simp only [natIcmpInbound, Prog.run, natExec, hlookup]

/-! ### TCP -/

/-- An outgoing segment of an endpoint that has a mapping, with a connection for its peer. -/
lemma natTcpOutbound_run_some {mapping : SrNatMappingCopy} {c : SrNatConnection} {s' : SrNat}
    (hlookup : srNatLookupInternal s (ntohl (SrIpHdr.ipSrc p)) (ntohs (SrTcpHdr.srcPort p o))
      .natMappingTcp = some mapping)
    (hupdate : srNatUpdateConnection s (amb 1) mapping p len .internalToExternal =
      .ok (some c, s')) :
    (natTcpOutbound cfg p len o).run natExec amb s =
      (natTcpTranslateSource cfg p len o mapping).run natExec (fun n => amb (n + 1 + 1)) s' := by
  simp only [natTcpOutbound, Prog.run, natExec, hlookup, hupdate]

/-- It is translated if there is a route. -/
lemma natTcpOutbound_run_known (hlen : 0 ≤ tcpSegmentLen len o) {lpm : SrRt} {i : SrIf}
    {mapping : SrNatMappingCopy} {c : SrNatConnection} {s' : SrNat}
    (hroute : HasRoute cfg (routedDst p o (htons mapping.auxExt)) lpm i)
    (hlookup : srNatLookupInternal s (ntohl (SrIpHdr.ipSrc p)) (ntohs (SrTcpHdr.srcPort p o))
      .natMappingTcp = some mapping)
    (hupdate : srNatUpdateConnection s (amb 1) mapping p len .internalToExternal =
      .ok (some c, s')) :
    (natTcpOutbound cfg p len o).run natExec amb s =
      .ok ((1, tcpSourced p len o i.ip (htons mapping.auxExt)), s') := by
  rw [natTcpOutbound_run_some hlookup hupdate, natTcpTranslateSource_eq hlen hroute]
  rfl

/-- An outgoing segment of an endpoint that has a mapping, without a connection for its peer. -/
lemma natTcpOutbound_run_unsolicited {mapping : SrNatMappingCopy} {s' : SrNat}
    (hlookup : srNatLookupInternal s (ntohl (SrIpHdr.ipSrc p)) (ntohs (SrTcpHdr.srcPort p o))
      .natMappingTcp = some mapping)
    (hupdate : srNatUpdateConnection s (amb 1) mapping p len .internalToExternal =
      .ok (none, s')) :
    (natTcpOutbound cfg p len o).run natExec amb s = .ok ((0, p), s') := by
  simp only [natTcpOutbound, Prog.run, natExec, hlookup, hupdate]

/-- An outgoing segment whose update fails. -/
lemma natTcpOutbound_run_error {mapping : SrNatMappingCopy} {e : Fault}
    (hlookup : srNatLookupInternal s (ntohl (SrIpHdr.ipSrc p)) (ntohs (SrTcpHdr.srcPort p o))
      .natMappingTcp = some mapping)
    (hupdate : srNatUpdateConnection s (amb 1) mapping p len .internalToExternal = .error e) :
    (natTcpOutbound cfg p len o).run natExec amb s = .error e := by
  refine (Prog.run_call_of_ok (congrArg (fun r => Except.ok (r, s)) hlookup)).trans ?_
  exact Prog.run_call_of_error hupdate

/-- An outgoing segment of an endpoint that has no mapping: a mapping is inserted, then a
connection. -/
lemma natTcpOutbound_run_none {c : SrNatConnection} {s' : SrNat}
    (hlookup : srNatLookupInternal s (ntohl (SrIpHdr.ipSrc p)) (ntohs (SrTcpHdr.srcPort p o))
      .natMappingTcp = none)
    (hinsert : srNatInsertConnection (srNatInsertMapping s (amb 1).now (ntohl (SrIpHdr.ipSrc p))
      (ntohs (SrTcpHdr.srcPort p o)) .natMappingTcp).2 (amb 2).now
      (toUint16 (findNextId s.bitmap).1) p .synSent = .ok (some c, s')) :
    (natTcpOutbound cfg p len o).run natExec amb s =
      (natTcpTranslateSource cfg p len o (newMapping s (amb 1).now (ntohl (SrIpHdr.ipSrc p))
        (ntohs (SrTcpHdr.srcPort p o)) .natMappingTcp).copy).run natExec
        (fun n => amb (n + 1 + 1 + 1)) s' := by
  refine (Prog.run_call_of_ok (congrArg (fun r => Except.ok (r, s)) hlookup)).trans ?_
  refine (Prog.run_call_of_ok rfl).trans ?_
  refine (Prog.run_call_of_ok hinsert).trans ?_
  rfl

/-- The insertion of the connection fails. -/
lemma natTcpOutbound_run_none_error {e : Fault}
    (hlookup : srNatLookupInternal s (ntohl (SrIpHdr.ipSrc p)) (ntohs (SrTcpHdr.srcPort p o))
      .natMappingTcp = none)
    (hinsert : srNatInsertConnection (srNatInsertMapping s (amb 1).now (ntohl (SrIpHdr.ipSrc p))
      (ntohs (SrTcpHdr.srcPort p o)) .natMappingTcp).2 (amb 2).now
      (toUint16 (findNextId s.bitmap).1) p .synSent = .error e) :
    (natTcpOutbound cfg p len o).run natExec amb s = .error e := by
  refine (Prog.run_call_of_ok (congrArg (fun r => Except.ok (r, s)) hlookup)).trans ?_
  refine (Prog.run_call_of_ok rfl).trans ?_
  exact Prog.run_call_of_error hinsert

/-- It is translated if there is a route. -/
lemma natTcpOutbound_run_new (hlen : 0 ≤ tcpSegmentLen len o) {lpm : SrRt} {i : SrIf}
    {c : SrNatConnection} {s' : SrNat}
    (hroute : HasRoute cfg (routedDst p o (htons (toUint16 (findNextId s.bitmap).1))) lpm i)
    (hlookup : srNatLookupInternal s (ntohl (SrIpHdr.ipSrc p)) (ntohs (SrTcpHdr.srcPort p o))
      .natMappingTcp = none)
    (hinsert : srNatInsertConnection (srNatInsertMapping s (amb 1).now (ntohl (SrIpHdr.ipSrc p))
      (ntohs (SrTcpHdr.srcPort p o)) .natMappingTcp).2 (amb 2).now
      (toUint16 (findNextId s.bitmap).1) p .synSent = .ok (some c, s')) :
    (natTcpOutbound cfg p len o).run natExec amb s =
      .ok ((1, tcpSourced p len o i.ip (htons (toUint16 (findNextId s.bitmap).1))), s') := by
  have hsource : natTcpTranslateSource cfg p len o (newMapping s (amb 1).now
      (ntohl (SrIpHdr.ipSrc p)) (ntohs (SrTcpHdr.srcPort p o)) .natMappingTcp).copy =
      .ret (1, tcpSourced p len o i.ip (htons (toUint16 (findNextId s.bitmap).1))) :=
    natTcpTranslateSource_eq hlen hroute
  rw [natTcpOutbound_run_none hlookup hinsert, hsource]
  rfl

/-- An incoming segment, other than a SYN, with the external port of a mapping that has a connection
for its peer. -/
lemma natTcpInbound_run_found (hlen : 0 ≤ tcpSegmentLen len (ipHeaderLen p)) (hsyn : ¬ isTcpSyn p)
    {mapping : SrNatMappingCopy} {c : SrNatConnection} {s' : SrNat}
    (hlookup : srNatLookupExternal s (ntohs (SrTcpHdr.dstPort p (ipHeaderLen p))) .natMappingTcp =
      some mapping)
    (hupdate : srNatUpdateConnection s (amb 1) mapping p len .externalToInternal =
      .ok (some c, s')) :
    (natTcpInbound p len (ipHeaderLen p)).run natExec amb s =
      .ok ((1, tcpDestined p len (ipHeaderLen p) (htonl mapping.ipInt) (htons mapping.auxInt)),
        s') := by
  have hsyn' : ¬ (SrTcpHdr.syn p (ipHeaderLen p) = true ∧
      ¬ SrTcpHdr.ack p (ipHeaderLen p) = true) := by
    rwa [Bool.not_eq_true]
  simp only [natTcpInbound, if_neg hsyn', Prog.run, natExec, hlookup, hupdate,
    natTcpUpdateChecksum_eq _ hlen, tcpDestined]

/-- An incoming segment, other than a SYN, to a port that is no external id. -/
lemma natTcpInbound_run_unknown (hlen : 0 ≤ tcpSegmentLen len (ipHeaderLen p)) (hsyn : ¬ isTcpSyn p)
    (hlookup : srNatLookupExternal s (ntohs (SrTcpHdr.dstPort p (ipHeaderLen p))) .natMappingTcp =
      none) :
    (natTcpInbound p len (ipHeaderLen p)).run natExec amb s =
      .ok ((1, tcpFilled p len (ipHeaderLen p)), s) := by
  have hsyn' : ¬ (SrTcpHdr.syn p (ipHeaderLen p) = true ∧
      ¬ SrTcpHdr.ack p (ipHeaderLen p) = true) := by
    rwa [Bool.not_eq_true]
  simp only [natTcpInbound, if_neg hsyn', Prog.run, natExec, hlookup, natTcpUpdateChecksum_eq p hlen]

/-! ### The programs of jobs -/

/-- The programs of jobs: a packet that is not outgoing may be left as it is, and the others go through
the handlers for one direction. -/
inductive Starts : NatJob → NatProg (ℤ × ByteMem) → Prop
  /-- A packet that is left as it is. -/
  | ret {j : NatJob} {code : ℤ} (hpass : srcPrivate j.packet → dstPrivate j.packet) :
      Starts j (.ret (code, j.packet))
  /-- An outgoing ICMP packet. -/
  | icmpOutbound {cfg : NetConfig} {p : ByteMem} (hsrc : srcPrivate p) (hdst : ¬ dstPrivate p) :
      Starts (.icmp cfg p) (natIcmpOutbound cfg p (ipHeaderLen p))
  /-- An ICMP packet from outside. -/
  | icmpInbound {cfg : NetConfig} {p : ByteMem} (hsrc : ¬ srcPrivate p) :
      Starts (.icmp cfg p) (natIcmpInbound p (ipHeaderLen p))
  /-- An outgoing TCP segment. -/
  | tcpOutbound {cfg : NetConfig} {p : ByteMem} {len : UInt32} {isToNat : Bool} (hsrc : srcPrivate p)
      (hdst : ¬ dstPrivate p) : Starts (.tcp cfg p len isToNat) (natTcpOutbound cfg p len (ipHeaderLen p))
  /-- A TCP segment from outside, to the router. -/
  | tcpInbound {cfg : NetConfig} {p : ByteMem} {len : UInt32} (hsrc : ¬ srcPrivate p) :
      Starts (.tcp cfg p len true) (natTcpInbound p len (ipHeaderLen p))

/-- **The program of a job** is one of these. -/
lemma natStart_starts (j : NatJob) : Starts j (natStart j) := by
  cases j with
  | icmp cfg p =>
    change Starts _ (natHandleIcmp cfg p)
    by_cases hsrc : srcPrivate p
    · by_cases hdst : dstPrivate p
      · rw [natHandleIcmp_inside hsrc hdst]
        exact .ret fun _ => hdst
      · rw [natHandleIcmp_outbound hsrc hdst]
        exact .icmpOutbound hsrc hdst
    · rw [natHandleIcmp_inbound hsrc]
      exact .icmpInbound hsrc
  | tcp cfg p len isToNat =>
    change Starts _ (natHandleTcp cfg p len isToNat)
    by_cases hsrc : srcPrivate p
    · by_cases hdst : dstPrivate p
      · rw [natHandleTcp_inside hsrc hdst]
        exact .ret fun _ => hdst
      · rw [natHandleTcp_outbound hsrc hdst]
        exact .tcpOutbound hsrc hdst
    · cases isToNat with
      | false =>
        rw [natHandleTcp_transit hsrc]
        exact .ret fun h => absurd h hsrc
      | true =>
        rw [natHandleTcp_inbound hsrc]
        exact .tcpInbound hsrc

/-! ### Ids for a run -/

/-- Run alone, a handler needs an id at most for its first mapping, so a free id at its start is
enough. -/
lemma natStart_runs_idLeft {j : NatJob} {s s' : SrNat} {a : ℤ × ByteMem}
    (hleft : (findNextId s.bitmap).1 ≠ -1) (h : (natStart j).Runs natSem s a s') :
    (natStart j).Runs natSemIdLeft s a s' := by
  have hkeeps : ∀ {P : NatProg (ℤ × ByteMem)} {t t' : SrNat}, P.Calls NatCall.KeepsTable →
      P.Runs natSem t a t' → P.Runs natSemIdLeft t a t' := fun hP hrun =>
    hrun.guarded (fun c _ hc => by cases c <;> trivial) hP
  have hstarts := natStart_starts j
  generalize natStart j = P at hstarts h ⊢
  cases hstarts with
  | ret hpass => exact hkeeps trivial h
  | @icmpOutbound cfg p hsrc hdst =>
    unfold natIcmpOutbound at h ⊢
    simp only at h ⊢
    split at h
    · exact absurd h Prog.not_runs_abort
    · exact hkeeps trivial h
    obtain ⟨r, s₁, hcall, h⟩ := Prog.runs_call_iff.mp h
    obtain ⟨-, rfl⟩ := natSem_lookupInternal hcall
    refine .call ⟨trivial, hcall⟩ ?_
    cases r with
    | none =>
      obtain ⟨r, s₂, hcall, h⟩ := Prog.runs_call_iff.mp h
      exact .call ⟨hleft, hcall⟩ (hkeeps (natIcmpTranslateSource_calls cfg p _ _ _) h)
    | some mapping => exact hkeeps (natIcmpTranslateSource_calls cfg p _ _ mapping) h
  | icmpInbound hsrc => exact hkeeps (natIcmpInbound_calls _ _) h
  | @tcpOutbound cfg p len isToNat hsrc hdst =>
    obtain ⟨r, s₁, hcall, h⟩ := Prog.runs_call_iff.mp h
    obtain ⟨-, rfl⟩ := natSem_lookupInternal hcall
    refine .call ⟨trivial, hcall⟩ ?_
    cases r with
    | none =>
      obtain ⟨r, s₂, hcall, h⟩ := Prog.runs_call_iff.mp h
      obtain ⟨conn, s₃, hcall', h⟩ := Prog.runs_call_iff.mp h
      refine .call ⟨hleft, hcall⟩ (.call ⟨trivial, hcall'⟩ (hkeeps ?_ h))
      cases conn with
      | none => trivial
      | some conn => exact natTcpTranslateSource_calls cfg p len _ _
    | some mapping =>
      refine hkeeps ⟨trivial, ?_⟩ h
      intro r
      cases r with
      | none => trivial
      | some conn => exact natTcpTranslateSource_calls cfg p len _ mapping
  | tcpInbound hsrc => exact hkeeps (natTcpInbound_calls _ _ _) h

/-! ### Packets with given fields -/

/-- An ICMP message of the given type, its checksums left open. -/
def icmpMessage (type : UInt8) (src dst : UInt32) (identifier : UInt16) : ByteMem :=
  SrIcmpHdr.setIdentifier (SrIpHdr.setIpDst (SrIpHdr.setIpSrc
    (ofBytes [0x45, 0, 0, 28, 0, 0, 0, 0, 64, ipProtocolIcmp, 0, 0, 0, 0, 0, 0, 0, 0, 0, 0, type])
    (htonl src)) (htonl dst)) 20 (htons identifier)

/-- A TCP segment with the given flag byte, its checksums left open. -/
def tcpSegment (flags : UInt8) (src dst : UInt32) (srcPort dstPort : UInt16) : ByteMem :=
  SrTcpHdr.setDstPort (SrTcpHdr.setSrcPort (SrIpHdr.setIpDst (SrIpHdr.setIpSrc
    (ofBytes ([0x45, 0, 0, 40, 0, 0, 0, 0, 64, ipProtocolTcp] ++ List.replicate 23 0 ++ [flags]))
    (htonl src)) (htonl dst)) 20 (htons srcPort)) 20 (htons dstPort)

/-- The fields of an ICMP message. -/
lemma icmpFields_icmpMessage (type : UInt8) (src dst : UInt32) (identifier : UInt16) :
    icmpFields (icmpMessage type src dst identifier) 20 =
      ⟨5, 64, ipProtocolIcmp, htonl src, htonl dst, type, htons identifier⟩ := by
  unfold icmpMessage
  rw [icmpFields_setIdentifier _ le_rfl, icmpFields_setIpDst _ le_rfl, icmpFields_setIpSrc _ le_rfl]
  simp [icmpFields, SrIpHdr.ipHl, SrIpHdr.ipTtl, SrIpHdr.ipP, SrIcmpHdr.icmpType, ofBytes]

/-- The fields of a TCP segment. -/
lemma tcpFields_tcpSegment (flags : UInt8) (src dst : UInt32) (srcPort dstPort : UInt16) :
    tcpFields (tcpSegment flags src dst srcPort dstPort) 20 =
      ⟨5, 64, ipProtocolTcp, htonl src, htonl dst, htons srcPort, htons dstPort⟩ := by
  unfold tcpSegment
  rw [tcpFields_setDstPort _ le_rfl, tcpFields_setSrcPort _ le_rfl, tcpFields_setIpDst _ le_rfl,
    tcpFields_setIpSrc _ le_rfl]
  simp [tcpFields, SrIpHdr.ipHl, SrIpHdr.ipTtl, SrIpHdr.ipP, ofBytes]

section Message

variable (type flags : UInt8) (src dst : UInt32) (identifier sport dport : UInt16)

@[simp] lemma ipHeaderLen_icmpMessage : ipHeaderLen (icmpMessage type src dst identifier) = 20 :=
  congrArg (fun f => f.ipHl * 4) (icmpFields_icmpMessage type src dst identifier)

@[simp] lemma ipSrc_icmpMessage : SrIpHdr.ipSrc (icmpMessage type src dst identifier) = htonl src :=
  congrArg IcmpFields.ipSrc (icmpFields_icmpMessage type src dst identifier)

@[simp] lemma ipDst_icmpMessage : SrIpHdr.ipDst (icmpMessage type src dst identifier) = htonl dst :=
  congrArg IcmpFields.ipDst (icmpFields_icmpMessage type src dst identifier)

@[simp] lemma identifier_icmpMessage :
    SrIcmpHdr.identifier (icmpMessage type src dst identifier) 20 = htons identifier :=
  congrArg IcmpFields.identifier (icmpFields_icmpMessage type src dst identifier)

@[simp] lemma ipHeaderLen_tcpSegment : ipHeaderLen (tcpSegment flags src dst sport dport) = 20 :=
  congrArg (fun f => f.ipHl * 4) (tcpFields_tcpSegment flags src dst sport dport)

@[simp] lemma ipSrc_tcpSegment :
    SrIpHdr.ipSrc (tcpSegment flags src dst sport dport) = htonl src :=
  congrArg TcpFields.ipSrc (tcpFields_tcpSegment flags src dst sport dport)

@[simp] lemma ipDst_tcpSegment :
    SrIpHdr.ipDst (tcpSegment flags src dst sport dport) = htonl dst :=
  congrArg TcpFields.ipDst (tcpFields_tcpSegment flags src dst sport dport)

@[simp] lemma srcPort_tcpSegment :
    SrTcpHdr.srcPort (tcpSegment flags src dst sport dport) 20 = htons sport :=
  congrArg TcpFields.srcPort (tcpFields_tcpSegment flags src dst sport dport)

@[simp] lemma dstPort_tcpSegment :
    SrTcpHdr.dstPort (tcpSegment flags src dst sport dport) 20 = htons dport :=
  congrArg TcpFields.dstPort (tcpFields_tcpSegment flags src dst sport dport)

/-- The flag byte of a segment. -/
lemma flags_tcpSegment : tcpSegment flags src dst sport dport 33 = flags := by
  unfold tcpSegment SrTcpHdr.setDstPort SrTcpHdr.setSrcPort SrIpHdr.setIpDst SrIpHdr.setIpSrc
  rw [store16_apply_of_disjoint (by omega), store16_apply_of_disjoint (by omega),
    store32_apply_of_disjoint (by omega), store32_apply_of_disjoint (by omega)]
  rfl

@[simp] lemma isTcpSyn_tcpSegment : isTcpSyn (tcpSegment flags src dst sport dport) ↔
    flags.toBitVec.getLsbD 1 = true ∧ flags.toBitVec.getLsbD 4 = false := by
  simp only [isTcpSyn, SrTcpHdr.syn, SrTcpHdr.ack, ipHeaderLen_tcpSegment, Nat.reduceAdd,
    flags_tcpSegment]

@[simp] lemma srcPrivate_icmpMessage :
    srcPrivate (icmpMessage type src dst identifier) ↔ isPrivateIp src = true := by
  simp [srcPrivate]

@[simp] lemma dstPrivate_icmpMessage :
    dstPrivate (icmpMessage type src dst identifier) ↔ isPrivateIp dst = true := by
  simp [dstPrivate]

@[simp] lemma srcPrivate_tcpSegment :
    srcPrivate (tcpSegment flags src dst sport dport) ↔ isPrivateIp src = true := by
  simp [srcPrivate]

@[simp] lemma dstPrivate_tcpSegment :
    dstPrivate (tcpSegment flags src dst sport dport) ↔ isPrivateIp dst = true := by
  simp [dstPrivate]

end Message

/-- An ICMP message as a well-formed packet. -/
def icmpMessagePacket (type : UInt8) (src dst : UInt32) (identifier : UInt16) : IcmpPacket where
  buf := icmpMessage type src dst identifier
  len := 28
  isIcmp := congrArg IcmpFields.ipP (icmpFields_icmpMessage type src dst identifier)
  headerLen := (congrArg IcmpFields.ipHl (icmpFields_icmpMessage type src dst identifier)).ge
  fits := by simp [sizeofIcmpHdr]
  len_le := by decide

/-- A TCP segment as a well-formed packet. -/
def tcpSegmentPacket (flags : UInt8) (src dst : UInt32) (sport dport : UInt16) : TcpPacket where
  buf := tcpSegment flags src dst sport dport
  len := 40
  isTcp := congrArg TcpFields.ipP (tcpFields_tcpSegment flags src dst sport dport)
  headerLen := (congrArg TcpFields.ipHl (tcpFields_tcpSegment flags src dst sport dport)).ge
  fits := by simp [sizeofTcpHdr]
  len_le := by decide

/-- The only interface of `oneRoute`, with the address 172.64.3.1. -/
def outerInterface : SrIf := ⟨[0x65, 0x74, 0x68, 0x32], Vector.replicate 6 2, htonl 0xac400301⟩

/-- The only route of `oneRoute`, to 8.0.0.0/8. -/
def outerRoute : SrRt := ⟨htonl 0x08000000, htonl 0xac400302, htonl 0xff000000, outerInterface.name⟩

/-- A router with one interface and one route. -/
def oneRoute : NetConfig := ⟨[outerInterface], [outerRoute]⟩

/-- `oneRoute` has a route to 8.8.8.8. -/
lemma hasRoute_oneRoute : HasRoute oneRoute (htonl 0x08080808) outerRoute outerInterface :=
  ⟨rfl, rfl⟩

/-- `oneRoute` has a route to 8.8.4.4. -/
lemma hasRoute_oneRoute' : HasRoute oneRoute (htonl 0x08080404) outerRoute outerInterface :=
  ⟨rfl, rfl⟩

/-- Surroundings in which the clock stands still at 0. -/
def quiet : ℕ → Ambient := fun _ => ⟨0, fun _ => 0⟩

/-- An initial state. -/
def startState : SrNat := srNatInit 60 7440 300 (.linked [])

/-- `startState` is initial. -/
lemma isInitial_startState : IsInitial startState := ⟨_, _, _, _, rfl⟩

/-- `startState` has a free id. -/
lemma findNextId_startState : (findNextId startState.bitmap).1 ≠ -1 :=
  findNextId_ne_of_clear le_rfl (by omega) (testBit_replicate_zero 1024)

/-- The handling of an echo request from inside makes a new mapping if there is none for it. -/
lemma echoRequest_run {s : SrNat} {ip : UInt32} {identifier : UInt16} (hip : isPrivateIp ip = true)
    (hlookup : srNatLookupInternal s ip identifier .natMappingIcmp = none) :
    ∃ a, (natHandleIcmp oneRoute (icmpMessage 8 ip 0x08080808 identifier)).run natExec quiet s =
      .ok (a, (srNatInsertMapping s 0 ip identifier .natMappingIcmp).2) := by
  have hsrc : srcPrivate (icmpMessage 8 ip 0x08080808 identifier) := by
    simpa only [srcPrivate, ipSrc_icmpMessage, ntohl_htonl] using hip
  have hdst : ¬ dstPrivate (icmpMessage 8 ip 0x08080808 identifier) := by
    simp only [dstPrivate, ipDst_icmpMessage, ntohl_htonl]
    decide
  have hroute : HasRoute oneRoute (SrIpHdr.ipDst (icmpMessage 8 ip 0x08080808 identifier)) outerRoute
      outerInterface := by
    rw [ipDst_icmpMessage]
    exact hasRoute_oneRoute
  rw [natHandleIcmp_outbound hsrc hdst]
  have hrun := @natIcmpOutbound_run_new oneRoute
    (icmpMessage 8 ip 0x08080808 identifier) 20 quiet s outerRoute outerInterface hroute
    (by simpa using hlookup)
  simp only [ipHeaderLen_icmpMessage, ipSrc_icmpMessage, identifier_icmpMessage, ntohl_htonl,
    ntohs_htons] at hrun ⊢
  exact ⟨_, hrun⟩

/-- It is a run of the handler. -/
lemma echoRequest_runs {s : SrNat} {ip : UInt32} {identifier : UInt16} (hip : isPrivateIp ip = true)
    (hlookup : srNatLookupInternal s ip identifier .natMappingIcmp = none) :
    ∃ a, (natHandleIcmp oneRoute (icmpMessage 8 ip 0x08080808 identifier)).Runs natSem s a
      (srNatInsertMapping s 0 ip identifier .natMappingIcmp).2 := by
  obtain ⟨a, hrun⟩ := echoRequest_run hip hlookup
  exact ⟨a, Prog.runs_of_run hrun⟩

end NatRouter
