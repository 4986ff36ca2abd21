import NatRouter.Router.Boundary

/-!
# Private addresses outside

A packet from a private address to a public one should leave the router with the address of the
outgoing interface and the external id of a mapping as its source.  The NAT translates the packets
whose source `is_private_ip` takes for private.  A packet from 172.17.0.0 to 172.31.255.255 is not one
of them: the NAT takes it for a packet from outside.  And in a header with an `ip_hl` below 5 the
translated source may share its bytes with what is written after it.
-/

namespace NatRouter

open ByteMemory Interleaving

/-- The external id of the mapping of an internal endpoint, if it has one. -/
def mappedId (s : SrNat) (key : UInt32 × UInt16) : Option UInt16 :=
  (srNatLookupInternal s key.1 key.2 .natMappingTcp).map SrNatMappingCopy.auxExt

/-- The endpoint a packet comes from. -/
def sourceKey (p : ByteMem) : UInt32 × UInt16 :=
  if SrIpHdr.ipP p = ipProtocolIcmp then icmpKey p else tcpKey p

/-- The number of the source of a packet that was made of `p`: the identifier of an ICMP packet, the
source port of a TCP packet. -/
def sourceId (p q : ByteMem) : UInt16 :=
  if SrIpHdr.ipP p = ipProtocolIcmp then SrIcmpHdr.identifier q (ipHeaderLen p)
  else SrTcpHdr.srcPort q (ipHeaderLen p)

/-- The address is that of the interface that the route goes out of. -/
def IsInterfaceOf (sr : SrInstance) (lpm : SrRt) (ip : UInt32) : Prop :=
  ∃ i, srGetInterface sr.cfg.ifList lpm.interface = some i ∧ ip = i.ip

/-- The source of the packet `q` made of `p` and sent along `lpm` is the external endpoint of the
mapping that the source of `p` has afterwards. -/
def Hidden (sr sr' : SrInstance) (p q : ByteMem) (lpm : SrRt) : Prop :=
  IsInterfaceOf sr lpm (SrIpHdr.ipSrc q) ∧
    ∃ e, mappedId sr'.nat (sourceKey p) = some e ∧ sourceId p q = htons e

/-- The packets that get outside with another source than they should, kind by kind, each with a route:
those from 172.17.0.0 to 172.31.255.255, which the NAT takes for packets from outside and lets pass,
unless their source is already what it should become; and those whose source is translated in a short
header, if what is written afterwards changes it. -/
inductive Leaks (sr : SrInstance) (p : ByteMem) (len : UInt32) : Prop
  /-- An ICMP packet that the NAT takes for one from outside. -/
  | missedMessage {f : IcmpSent} {lpm : SrRt} (hicmp : SrIpHdr.ipP p = ipProtocolIcmp)
      (hmissed : IsMissedIp (ntohl (SrIpHdr.ipSrc p))) (hcrosses : IcmpCrosses sr p len f)
      (hroute : RoutesTo sr f.ipDst lpm)
      (hnot : ¬ (IsInterfaceOf sr lpm f.ipSrc ∧
        ∃ e, mappedId sr.nat (icmpKey p) = some e ∧
          (f.hop (SrIpHdr.ipHl p)).identifier = htons e))
  /-- A TCP packet that the NAT takes for one from outside. -/
  | missedSegment {f : TcpSent} {lpm : SrRt} (htcp : SrIpHdr.ipP p = ipProtocolTcp)
      (hmissed : IsMissedIp (ntohl (SrIpHdr.ipSrc p))) (hcrosses : TcpCrosses sr p len f)
      (hroute : RoutesTo sr f.ipDst lpm)
      (hnot : ¬ (IsInterfaceOf sr lpm f.ipSrc ∧
        ∃ e, mappedId sr.nat (tcpKey p) = some e ∧ (f.hop (SrIpHdr.ipHl p)).srcPort = htons e))
  /-- An ICMP packet whose source is translated in a short header. -/
  | shortMessage {f : IcmpSent} {lpm lpm' : SrRt} {i : SrIf}
      (hicmp : SrIpHdr.ipP p = ipProtocolIcmp) (hreach : IcmpReachesNat sr.cfg p len)
      (hsrc : srcPrivate p) (hhas : HasRoute sr.cfg (SrIpHdr.ipDst p) lpm' i)
      (hf : f = icmpWithSource p i.ip (htons (externalId sr.nat (icmpKey p))))
      (hhl : SrIpHdr.ipHl p < 5) (hroute : RoutesTo sr f.ipDst lpm)
      (hnot : ¬ (IsInterfaceOf sr lpm f.ipSrc ∧
        (f.hop (SrIpHdr.ipHl p)).identifier = htons (externalId sr.nat (icmpKey p))))
  /-- A TCP packet whose source is translated in a short header. -/
  | shortSegment {f : TcpSent} {lpm lpm' : SrRt} {i : SrIf}
      (htcp : SrIpHdr.ipP p = ipProtocolTcp) (hreach : TcpReachesNat sr.cfg p)
      (hsrc : srcPrivate p) (htakes : TakesOn sr.nat p)
      (hlen : 0 ≤ tcpSegmentLen len (ipHeaderLen p))
      (hhas : HasRoute sr.cfg
        (routedDst p (ipHeaderLen p) (htons (externalId sr.nat (tcpKey p)))) lpm' i)
      (hf : f = tcpWithSource p len i.ip (htons (externalId sr.nat (tcpKey p))))
      (hhl : SrIpHdr.ipHl p < 5) (hroute : RoutesTo sr f.ipDst lpm)
      (hnot : ¬ (IsInterfaceOf sr lpm f.ipSrc ∧
        (f.hop (SrIpHdr.ipHl p)).srcPort = htons (externalId sr.nat (tcpKey p))))

/-! ### The mapping afterwards -/

section Mapped

variable {cfg : NetConfig} {s s' : SrNat} {p : ByteMem} {len : UInt32} {amb : ℕ → Ambient}
  {a : ℤ × ByteMem}

/-- The external id of an endpoint can be read off the table without its connections. -/
lemma mappedId_eq (s : SrNat) (key : UInt32 × UInt16) :
    mappedId s key = ((s.mappings.map SrNatMapping.bare).find? fun m =>
      m.ipInt = key.1 ∧ m.auxInt = key.2).map SrNatMapping.auxExt := by
  rw [mappedId, srNatLookupInternal, Option.map_map, List.find?_map, Option.map_map]
  rfl

/-- What changes connections only leaves the external ids alone. -/
lemma SameTable.mappedId_eq (h : SameTable s s') (key : UInt32 × UInt16) :
    mappedId s' key = mappedId s key := by
  rw [NatRouter.mappedId_eq, h.bare, ← NatRouter.mappedId_eq]

/-- A new mapping is the first one of its endpoint. -/
lemma mappedId_insertMapping (s : SrNat) (now : Time) (key : UInt32 × UInt16)
    (type : SrNatMappingType) :
    mappedId (srNatInsertMapping s now key.1 key.2 type).2 key =
      some (toUint16 (findNextId s.bitmap).1) := by
  simp [mappedId, srNatLookupInternal, srNatInsertMapping, newMapping, SrNatMapping.copy]

/-- The external id of an endpoint that has a mapping already. -/
lemma mappedId_of_some {key : UInt32 × UInt16} {mapping : SrNatMappingCopy}
    (h : srNatLookupInternal s key.1 key.2 .natMappingTcp = some mapping) :
    mappedId s key = some (externalId s key) := by
  rw [mappedId, h, externalId_of_some h]
  rfl

/-- The translation of the source leaves the table alone. -/
lemma translateSource_state {o : ℕ} {mapping : SrNatMappingCopy}
    (h : (natTcpTranslateSource cfg p len o mapping).run natExec amb s = .ok (a, s')) : s' = s := by
  rcases natTcpTranslateSource_cases cfg p len o mapping with ⟨e, he, -⟩ | ⟨q, i, hq, -⟩
  · rw [he] at h
    cases h
  · rw [hq] at h
    cases h
    rfl

/-- Calls that insert nothing leave the table the same. -/
lemma sameTable_of_calls {α : Type} {P : NatProg α} {b : α} (hP : P.Calls NatCall.KeepsTable)
    (hrun : P.run natExec amb s = .ok (b, s')) : SameTable s s' := by
  have hsem : ∀ c t r t', NatCall.KeepsTable c → SameTable s t → natSem c t r t' → SameTable s t' := by
    rintro c t r t' hc htable ⟨amb, hexec⟩
    rcases natExec_cases hexec with hsame | ⟨ipInt, auxInt, type, rfl, -⟩
    · exact htable.trans hsame
    · exact hc.elim
  exact (Prog.runs_of_run hrun).preserves hsem hP (.refl s)

/-- They leave the external ids alone. -/
lemma mappedId_of_calls {α : Type} {P : NatProg α} {b : α} (hP : P.Calls NatCall.KeepsTable)
    (hrun : P.run natExec amb s = .ok (b, s')) (key : UInt32 × UInt16) :
    mappedId s' key = mappedId s key := (sameTable_of_calls hP hrun).mappedId_eq key

/-- After an outgoing message has been translated, its endpoint has a mapping with its external id. -/
lemma mappedId_icmpOutbound (hsrc : srcPrivate p) (hdst : ¬ dstPrivate p) {lpm : SrRt} {i : SrIf}
    (hroute : HasRoute cfg (SrIpHdr.ipDst p) lpm i)
    (hrun : (natHandleIcmp cfg p).run natExec amb s = .ok (a, s')) :
    mappedId s' (icmpKey p) = some (externalId s (icmpKey p)) := by
  rw [natHandleIcmp_outbound hsrc hdst] at hrun
  cases hlookup : srNatLookupInternal s (icmpKey p).1 (icmpKey p).2 .natMappingTcp with
  | some mapping =>
    have hrun' := @natIcmpOutbound_run_known cfg p (ipHeaderLen p) amb s _ _ _ hroute hlookup
    obtain ⟨-, rfl⟩ := Prod.mk.inj (Except.ok.inj (hrun.symm.trans hrun'))
    exact mappedId_of_some hlookup
  | none =>
    have hrun' := @natIcmpOutbound_run_new cfg p (ipHeaderLen p) amb s _ _ hroute hlookup
    obtain ⟨-, rfl⟩ := Prod.mk.inj (Except.ok.inj (hrun.symm.trans hrun'))
    rw [externalId_of_none hlookup]
    exact mappedId_insertMapping s _ (icmpKey p) _

/-- After an outgoing segment has been taken on, its endpoint has a mapping with its external id. -/
lemma mappedId_tcpOutbound (hsrc : srcPrivate p) (hdst : ¬ dstPrivate p) {isToNat : Bool}
    (hone : a.1 = 1) (hrun : (natHandleTcp cfg p len isToNat).run natExec amb s = .ok (a, s')) :
    mappedId s' (tcpKey p) = some (externalId s (tcpKey p)) := by
  rw [natHandleTcp_outbound hsrc hdst] at hrun
  cases hlookup : srNatLookupInternal s (tcpKey p).1 (tcpKey p).2 .natMappingTcp with
  | some mapping =>
    cases hupdate : srNatUpdateConnection s (amb 1) mapping p len .internalToExternal with
    | error e =>
      rw [natTcpOutbound_run_error hlookup hupdate] at hrun
      cases hrun
    | ok r =>
      obtain ⟨_ | c, s₁⟩ := r
      · rw [natTcpOutbound_run_unsolicited hlookup hupdate] at hrun
        cases hrun
        exact absurd hone (show ¬ (0 : ℤ) = 1 by decide)
      · rw [natTcpOutbound_run_some hlookup hupdate] at hrun
        rw [translateSource_state hrun, (srNatUpdateConnection_sameTable hupdate).mappedId_eq,
          mappedId_of_some hlookup]
  | none =>
    cases hinsert : srNatInsertConnection (srNatInsertMapping s (amb 1).now (tcpKey p).1
        (tcpKey p).2 .natMappingTcp).2 (amb 2).now (toUint16 (findNextId s.bitmap).1) p .synSent with
    | error e =>
      rw [natTcpOutbound_run_none_error hlookup hinsert] at hrun
      cases hrun
    | ok r =>
      have htable := srNatInsertConnection_sameTable hinsert
      obtain ⟨_ | c, s₁⟩ := r
      · exact absurd hinsert srNatInsertConnection_new_ne_none
      · rw [natTcpOutbound_run_none hlookup hinsert] at hrun
        rw [translateSource_state hrun, htable.mappedId_eq, externalId_of_none hlookup]
        exact mappedId_insertMapping s _ (tcpKey p) _

end Mapped

/-! ### The router -/

section Router

variable {ctx : Surroundings} {sr sr' : SrInstance} {p q : ByteMem} {len : UInt32}
  {interface : IfName} {lpm : SrRt}

/-- Deciding about a packet from outside inserts no mapping. -/
lemma ipAction_calls (cfg : NetConfig) (natEnabled : Bool) (len : UInt32) (hsrc : ¬ srcPrivate p) :
    (ipAction cfg natEnabled p len).Calls NatCall.KeepsTable := by
  apply (ipAction_decides cfg natEnabled p len).calls
  · intro _
    rw [natHandleIcmp_inbound hsrc]
    exact natIcmpInbound_calls p _
  · rintro _ _ (_ | _)
    · rw [natHandleTcp_transit hsrc]
      trivial
    · rw [natHandleTcp_inbound hsrc]
      exact natTcpInbound_calls p len _

/-- Forwarding a packet from outside leaves the external ids alone. -/
lemma Forwards.mappedId_outside (h : Forwards ctx sr p len interface sr' q lpm)
    (hsrc : ¬ srcPrivate p) (key : UInt32 × UInt16) :
    mappedId sr'.nat key = mappedId sr.nat key := by
  obtain ⟨q₀, nat', hrun, rfl, -, -⟩ := action_of_forwards h
  exact mappedId_of_calls (ipAction_calls sr.cfg sr.natEnabled len hsrc) hrun key

/-- An ICMP packet that is passed on has gone through `nat_handle_icmp`. -/
lemma natHandleIcmp_of_ipAction {cfg : NetConfig} {s nat' : SrNat} {amb : ℕ → Ambient}
    (hicmp : SrIpHdr.ipP p = ipProtocolIcmp)
    (h : (ipAction cfg true p len).run natExec amb s = .ok (.forward q, nat')) :
    ∃ a, (natHandleIcmp cfg p).run natExec amb s = .ok (a, nat') := by
  have hdecides := ipAction_decides cfg true p len
  generalize ipAction cfg true p len = P at hdecides h
  cases hdecides with
  | drop => cases h
  | sendIcmp type code => cases h
  | forward hok hother => exact absurd hicmp (hother rfl).1
  | natIcmp hok hon hp hg =>
    obtain ⟨a, hrun, -⟩ := Prog.run_map_eq_ok.mp h
    exact ⟨a, hrun⟩
  | natTcp hok hon hp hfor =>
    rw [hicmp] at hp
    exact absurd hp (by decide)

/-- A TCP packet that is passed on has gone through `nat_handle_tcp`, with the code 1. -/
lemma natHandleTcp_of_ipAction {cfg : NetConfig} {s nat' : SrNat} {amb : ℕ → Ambient}
    (htcp : SrIpHdr.ipP p = ipProtocolTcp)
    (h : (ipAction cfg true p len).run natExec amb s = .ok (.forward q, nat')) :
    ∃ a isToNat, (natHandleTcp cfg p len isToNat).run natExec amb s = .ok (a, nat') ∧ a.1 = 1 := by
  have hdecides := ipAction_decides cfg true p len
  generalize ipAction cfg true p len = P at hdecides h
  cases hdecides with
  | drop => cases h
  | sendIcmp type code => cases h
  | forward hok hother => exact absurd htcp (hother rfl).2
  | natIcmp hok hon hp hg =>
    rw [htcp] at hp
    exact absurd hp (by decide)
  | @natTcp hok hon hp isToNat hfor =>
    obtain ⟨a, hrun, ha⟩ := Prog.run_map_eq_ok.mp h
    refine ⟨a, isToNat, hrun, ?_⟩
    -- with the other two codes it is not passed on
    rcases natHandleTcp_run_cases hrun with rfl | ⟨rfl, rfl⟩ | ⟨hone, -⟩
    · cases isToNat <;> cases ha
    · cases ha
    · exact hone

/-- After a message from inside to outside has been forwarded, its source has the external id told. -/
lemma Forwards.mappedId_icmp (h : Forwards ctx sr p len interface sr' q lpm)
    (hon : sr.natEnabled = true) (hicmp : SrIpHdr.ipP p = ipProtocolIcmp) (hsrc : srcPrivate p)
    (hdst : ¬ dstPrivate p) {lpm' : SrRt} {i : SrIf}
    (hhas : HasRoute sr.cfg (SrIpHdr.ipDst p) lpm' i) :
    mappedId sr'.nat (icmpKey p) = some (externalId sr.nat (icmpKey p)) := by
  obtain ⟨q₀, nat', hrun, rfl, -, -⟩ := action_of_forwards h
  rw [hon] at hrun
  obtain ⟨a, hhandle⟩ := natHandleIcmp_of_ipAction hicmp hrun
  exact mappedId_icmpOutbound hsrc hdst hhas hhandle

/-- After a segment from inside to outside has been forwarded, its source has the external id told. -/
lemma Forwards.mappedId_tcp (h : Forwards ctx sr p len interface sr' q lpm)
    (hon : sr.natEnabled = true) (htcp : SrIpHdr.ipP p = ipProtocolTcp) (hsrc : srcPrivate p)
    (hdst : ¬ dstPrivate p) : mappedId sr'.nat (tcpKey p) = some (externalId sr.nat (tcpKey p)) := by
  obtain ⟨q₀, nat', hrun, rfl, -, -⟩ := action_of_forwards h
  rw [hon] at hrun
  obtain ⟨a, isToNat, hhandle, hone⟩ := natHandleTcp_of_ipAction htcp hrun
  exact mappedId_tcpOutbound hsrc hdst hone hhandle

/-- Whether an ICMP packet sent with the fields told is hidden. -/
lemma hidden_icmp_iff {f : IcmpSent} (hicmp : SrIpHdr.ipP p = ipProtocolIcmp)
    (hsent : icmpSent q (ipHeaderLen p) = f.hop (SrIpHdr.ipHl p)) :
    Hidden sr sr' p q lpm ↔ IsInterfaceOf sr lpm f.ipSrc ∧
      ∃ e, mappedId sr'.nat (icmpKey p) = some e ∧
        (f.hop (SrIpHdr.ipHl p)).identifier = htons e := by
  have hipSrc : SrIpHdr.ipSrc q = f.ipSrc := congrArg IcmpSent.ipSrc hsent
  have hid : SrIcmpHdr.identifier q (ipHeaderLen p) = (f.hop (SrIpHdr.ipHl p)).identifier :=
    congrArg IcmpSent.identifier hsent
  rw [Hidden, sourceKey, sourceId, if_pos hicmp, if_pos hicmp, hipSrc, hid]

/-- Whether a TCP packet sent with the fields told is hidden. -/
lemma hidden_tcp_iff {f : TcpSent} (htcp : SrIpHdr.ipP p = ipProtocolTcp)
    (hsent : tcpSent q (ipHeaderLen p) = f.hop (SrIpHdr.ipHl p)) :
    Hidden sr sr' p q lpm ↔ IsInterfaceOf sr lpm f.ipSrc ∧
      ∃ e, mappedId sr'.nat (tcpKey p) = some e ∧
        (f.hop (SrIpHdr.ipHl p)).srcPort = htons e := by
  have hicmp : ¬ SrIpHdr.ipP p = ipProtocolIcmp := by
    rw [htcp]
    decide
  have hipSrc : SrIpHdr.ipSrc q = f.ipSrc := congrArg TcpSent.ipSrc hsent
  have hport : SrTcpHdr.srcPort q (ipHeaderLen p) = (f.hop (SrIpHdr.ipHl p)).srcPort :=
    congrArg TcpSent.srcPort hsent
  rw [Hidden, sourceKey, sourceId, if_neg hicmp, if_neg hicmp, hipSrc, hport]

/-- Whether a forwarded ICMP packet from inside is hidden. -/
lemma Forwards.hidden_icmp_iff {f : IcmpSent} {lpm' : SrRt} {i : SrIf}
    (h : Forwards ctx sr p len interface sr' q lpm) (hon : sr.natEnabled = true)
    (hicmp : SrIpHdr.ipP p = ipProtocolIcmp) (hsrc : srcPrivate p) (hdst : ¬ dstPrivate p)
    (hhas : HasRoute sr.cfg (SrIpHdr.ipDst p) lpm' i)
    (hsent : icmpSent q (ipHeaderLen p) = f.hop (SrIpHdr.ipHl p)) :
    Hidden sr sr' p q lpm ↔ IsInterfaceOf sr lpm f.ipSrc ∧
      (f.hop (SrIpHdr.ipHl p)).identifier = htons (externalId sr.nat (icmpKey p)) := by
  rw [NatRouter.hidden_icmp_iff hicmp hsent, h.mappedId_icmp hon hicmp hsrc hdst hhas]
  simp

/-- Whether a forwarded TCP packet from inside is hidden. -/
lemma Forwards.hidden_tcp_iff {f : TcpSent} (h : Forwards ctx sr p len interface sr' q lpm)
    (hon : sr.natEnabled = true) (htcp : SrIpHdr.ipP p = ipProtocolTcp) (hsrc : srcPrivate p)
    (hdst : ¬ dstPrivate p) (hsent : tcpSent q (ipHeaderLen p) = f.hop (SrIpHdr.ipHl p)) :
    Hidden sr sr' p q lpm ↔ IsInterfaceOf sr lpm f.ipSrc ∧
      (f.hop (SrIpHdr.ipHl p)).srcPort = htons (externalId sr.nat (tcpKey p)) := by
  rw [NatRouter.hidden_tcp_iff htcp hsent, h.mappedId_tcp hon htcp hsrc hdst]
  simp

/-- A message whose source is translated behind a complete header goes out of the interface whose address
it has got. -/
lemma isInterfaceOf_icmpWithSource {lpm' : SrRt} {i : SrIf} {id : UInt16}
    (hhl : 5 ≤ SrIpHdr.ipHl p) (hhas : HasRoute sr.cfg (SrIpHdr.ipDst p) lpm' i)
    (hroute : RoutesTo sr (icmpWithSource p i.ip id).ipDst lpm) :
    IsInterfaceOf sr lpm (icmpWithSource p i.ip id).ipSrc ∧
      ((icmpWithSource p i.ip id).hop (SrIpHdr.ipHl p)).identifier = id := by
  rw [icmpWithSource_of_le hhl] at hroute ⊢
  obtain rfl := Option.some.inj (Except.ok.inj (hroute.lookup.symm.trans hhas.lookup))
  rw [IcmpSent.hop_of_le _ hhl]
  exact ⟨⟨i, hhas.interface, rfl⟩, rfl⟩

/-- A segment whose source is translated behind a complete header goes out of the interface whose address
it has got. -/
lemma isInterfaceOf_tcpWithSource {lpm' : SrRt} {i : SrIf} {port : UInt16}
    (hhl : 5 ≤ SrIpHdr.ipHl p) (hhas : HasRoute sr.cfg (routedDst p (ipHeaderLen p) port) lpm' i)
    (hroute : RoutesTo sr (tcpWithSource p len i.ip port).ipDst lpm) :
    IsInterfaceOf sr lpm (tcpWithSource p len i.ip port).ipSrc ∧
      ((tcpWithSource p len i.ip port).hop (SrIpHdr.ipHl p)).srcPort = port := by
  rw [routedDst_of_ne_four (by omega)] at hhas
  rw [tcpWithSource_of_le hhl] at hroute ⊢
  obtain rfl := Option.some.inj (Except.ok.inj (hroute.lookup.symm.trans hhas.lookup))
  rw [TcpSent.hop_of_le _ hhl]
  exact ⟨⟨i, hhas.interface, rfl⟩, rfl⟩

/-- A forwarded message from inside is hidden or leaks, if the NAT knows that it is from inside. -/
lemma Forwards.hidden_icmp (h : Forwards ctx sr p len interface sr' q lpm)
    (hon : sr.natEnabled = true) (hsrc : srcPrivate p) (hdst : ¬ dstPrivate p)
    (hicmp : SrIpHdr.ipP p = ipProtocolIcmp) :
    Hidden sr sr' p q lpm ∨ Accepted p len ∧ Leaks sr p len := by
  obtain ⟨hok, f, hcrosses, hroute, hsent⟩ := h.icmpCrosses hon hicmp
  cases hcrosses with
  | outbound hreach _ _ hhas =>
    rw [h.hidden_icmp_iff hon hicmp hsrc hdst hhas hsent]
    by_cases hhl : 5 ≤ SrIpHdr.ipHl p
    · exact .inl (isInterfaceOf_icmpWithSource hhl hhas hroute)
    · refine or_iff_not_imp_left.mpr fun hhidden => ⟨hok, ?_⟩
      exact .shortMessage hicmp hreach hsrc hhas rfl (Nat.not_le.mp hhl) hroute hhidden
  | inbound _ hsrc' => exact absurd hsrc hsrc'
  | untouched _ _ huntouched =>
    cases huntouched with
    | inside _ hdst' => exact absurd hdst' hdst
    | unroutable _ _ hnone => cases hroute.lookup.symm.trans hnone
    | unknown hsrc' => exact absurd hsrc hsrc'

/-- A forwarded segment from inside is hidden or leaks, if the NAT knows that it is from inside. -/
lemma Forwards.hidden_tcp (h : Forwards ctx sr p len interface sr' q lpm)
    (hon : sr.natEnabled = true) (hsrc : srcPrivate p) (hdst : ¬ dstPrivate p)
    (htcp : SrIpHdr.ipP p = ipProtocolTcp) :
    Hidden sr sr' p q lpm ∨ Accepted p len ∧ Leaks sr p len := by
  obtain ⟨hok, f, hcrosses, hroute, hsent⟩ := h.tcpCrosses hon htcp
  rw [h.hidden_tcp_iff hon htcp hsrc hdst hsent]
  cases hcrosses with
  | inside _ _ hdst' => exact absurd hdst' hdst
  | outbound hreach _ _ htakes hlen hhas =>
    by_cases hhl : 5 ≤ SrIpHdr.ipHl p
    · exact .inl (isInterfaceOf_tcpWithSource hhl hhas hroute)
    · refine or_iff_not_imp_left.mpr fun hhidden => ⟨hok, ?_⟩
      exact .shortSegment htcp hreach hsrc htakes hlen hhas rfl (Nat.not_le.mp hhl) hroute hhidden
  | inbound _ hsrc' => exact absurd hsrc hsrc'
  | unknown _ hsrc' => exact absurd hsrc hsrc'
  | outside _ _ hsrc' => exact absurd hsrc hsrc'

/-- What is forwarded of a packet that leaks is not hidden. -/
lemma Leaks.forwards (h : Leaks sr p len) (hon : sr.natEnabled = true) (hdst : ¬ dstPrivate p)
    (hok : Accepted p len) (ctx : Surroundings) (interface : IfName) :
    ∃ sr' q lpm, Forwards ctx sr p len interface sr' q lpm ∧ ¬ Hidden sr sr' p q lpm := by
  cases h with
  | missedMessage hicmp hmissed hcrosses hroute hnot =>
    have hpublic : ¬ srcPrivate p := (isMissedIp_iff.mp hmissed).2
    obtain ⟨sr', q, hforwards, hsent⟩ := hcrosses.forwards hon hicmp hok hroute ctx interface
    refine ⟨sr', q, _, hforwards, ?_⟩
    rwa [hidden_icmp_iff hicmp hsent, hforwards.mappedId_outside hpublic]
  | missedSegment htcp hmissed hcrosses hroute hnot =>
    have hpublic : ¬ srcPrivate p := (isMissedIp_iff.mp hmissed).2
    obtain ⟨sr', q, hforwards, hsent⟩ := hcrosses.forwards hon htcp hok hroute ctx interface
    refine ⟨sr', q, _, hforwards, ?_⟩
    rwa [hidden_tcp_iff htcp hsent, hforwards.mappedId_outside hpublic]
  | shortMessage hicmp hreach hsrc hhas hf hhl hroute hnot =>
    have hcrosses : IcmpCrosses sr p len _ := .outbound hreach hsrc hdst hhas
    rw [← hf] at hcrosses
    obtain ⟨sr', q, hforwards, hsent⟩ := hcrosses.forwards hon hicmp hok hroute ctx interface
    refine ⟨sr', q, _, hforwards, ?_⟩
    rwa [hforwards.hidden_icmp_iff hon hicmp hsrc hdst hhas hsent]
  | shortSegment htcp hreach hsrc htakes hlen hhas hf hhl hroute hnot =>
    have hcrosses : TcpCrosses sr p len _ := .outbound hreach hsrc hdst htakes hlen hhas
    rw [← hf] at hcrosses
    obtain ⟨sr', q, hforwards, hsent⟩ := hcrosses.forwards hon htcp hok hroute ctx interface
    refine ⟨sr', q, _, hforwards, ?_⟩
    rwa [hforwards.hidden_tcp_iff hon htcp hsrc hdst hsent]

/-- **No private address gets outside**, exactly if the packet fails the tests or does not leak. -/
theorem hidden_iff (ctx : Surroundings) {sr : SrInstance} {p : ByteMem} (len : UInt32)
    (interface : IfName) (hon : sr.natEnabled = true) (hsrc : IsReservedIp (ntohl (SrIpHdr.ipSrc p)))
    (hdst : ¬ IsReservedIp (ntohl (SrIpHdr.ipDst p)))
    (hproto : SrIpHdr.ipP p = ipProtocolIcmp ∨ SrIpHdr.ipP p = ipProtocolTcp) :
    (∀ sr' q lpm, Forwards ctx sr p len interface sr' q lpm → Hidden sr sr' p q lpm) ↔
      ¬ (Accepted p len ∧ Leaks sr p len) := by
  have hpublicDst : ¬ dstPrivate p := fun h => hdst (isReservedIp_of_isPrivateIp h)
  constructor
  · rintro h ⟨hok, hleaks⟩
    obtain ⟨sr', q, lpm, hforwards, hnot⟩ := hleaks.forwards hon hpublicDst hok ctx interface
    exact hnot (h sr' q lpm hforwards)
  · intro h sr' q lpm hforwards
    by_cases hprivate : srcPrivate p
    · rcases hproto with hicmp | htcp
      · exact (hforwards.hidden_icmp hon hprivate hpublicDst hicmp).resolve_right h
      · exact (hforwards.hidden_tcp hon hprivate hpublicDst htcp).resolve_right h
    · by_contra hnot
      have hmissed := isMissedIp_iff.mpr ⟨hsrc, hprivate⟩
      rcases hproto with hicmp | htcp
      · obtain ⟨hok, f, hcrosses, hroute, hsent⟩ := hforwards.icmpCrosses hon hicmp
        rw [hidden_icmp_iff hicmp hsent, hforwards.mappedId_outside hprivate] at hnot
        exact h ⟨hok, .missedMessage hicmp hmissed hcrosses hroute hnot⟩
      · obtain ⟨hok, f, hcrosses, hroute, hsent⟩ := hforwards.tcpCrosses hon htcp
        rw [hidden_tcp_iff htcp hsent, hforwards.mappedId_outside hprivate] at hnot
        exact h ⟨hok, .missedSegment htcp hmissed hcrosses hroute hnot⟩

end Router

/-- An echo request of 172.17.0.5 to 8.8.8.8. -/
def leakingRequest : IpPacket := sealedMessage 64 8 0xac110005 0x08080808 7

/-- The address 172.17.0.5 is one that `is_private_ip` does not know. -/
lemma isMissedIp_leakingRequest : IsMissedIp (ntohl (SrIpHdr.ipSrc leakingRequest.buf)) := by
  rw [leakingRequest, ipSrc_sealedMessage, ntohl_htonl, IsMissedIp]
  decide

/-- The destination of the request is public. -/
lemma not_isReservedIp_leakingRequest :
    ¬ IsReservedIp (ntohl (SrIpHdr.ipDst leakingRequest.buf)) := by
  rw [leakingRequest, ipDst_sealedMessage, ntohl_htonl, IsReservedIp]
  decide

/-- The request leaks. -/
lemma leaks_leakingRequest : Leaks (natRouter startState) leakingRequest.buf leakingRequest.len := by
  have hcrosses : IcmpCrosses (natRouter startState) leakingRequest.buf leakingRequest.len
      (icmpSent leakingRequest.buf (ipHeaderLen leakingRequest.buf)) := by
    refine .untouched ?_ ?_ (.unknown (isMissedIp_iff.mp isMissedIp_leakingRequest).2 rfl)
    · rw [leakingRequest, ipDst_sealedMessage]
      decide
    · rw [leakingRequest, ipTtl_sealedMessage]
      decide
  have hroute : RoutesTo (natRouter startState) (SrIpHdr.ipDst leakingRequest.buf) outerRoute := by
    rw [leakingRequest, ipDst_sealedMessage]
    exact routesTo_natRouter rfl
  refine .missedMessage (ipP_sealedMessage ..) isMissedIp_leakingRequest hcrosses hroute ?_
  rintro ⟨-, e, hmapped, -⟩
  cases hmapped

/-- The theorem for the request. -/
theorem hidden_iff_leakingRequest :
    ¬ ∀ sr' q lpm, Forwards quietSurroundings (natRouter startState) leakingRequest.buf
      leakingRequest.len innerInterface.name sr' q lpm →
        Hidden (natRouter startState) sr' leakingRequest.buf q lpm :=
  fun h => (hidden_iff quietSurroundings _ innerInterface.name rfl
    (isMissedIp_iff.mp isMissedIp_leakingRequest).1 not_isReservedIp_leakingRequest
    (.inl (ipP_sealedMessage ..))).mp h ⟨accepted_sealedMessage .., leaks_leakingRequest⟩

/-- The request gets outside with its private source address. -/
theorem privateAddress_leaks : ∃ sr' q lpm,
    Forwards quietSurroundings (natRouter startState) leakingRequest.buf leakingRequest.len
      innerInterface.name sr' q lpm ∧ ¬ Hidden (natRouter startState) sr' leakingRequest.buf q lpm :=
  leaks_leakingRequest.forwards rfl
    (fun h => not_isReservedIp_leakingRequest (isReservedIp_of_isPrivateIp h))
    (accepted_sealedMessage ..) quietSurroundings innerInterface.name

end NatRouter
