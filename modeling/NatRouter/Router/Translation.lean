import NatRouter.Nat.Flows

/-!
# What the NAT makes of a packet

The outcomes of the two handlers run alone, told by the packet and the tables: `IcmpTranslates` and
`IcmpUntouched` for `nat_handle_icmp`, `TcpPasses` for the packets that `nat_handle_tcp` lets pass with
the code 1.  They name the packet that comes out, whatever its header length.
-/

namespace NatRouter

open ByteMemory Interleaving

/-! ### The tables -/

/-- The external id of an internal endpoint: that of its mapping, or the one a new mapping gets. -/
def externalId (s : SrNat) (key : UInt32 × UInt16) : UInt16 :=
  match srNatLookupInternal s key.1 key.2 .natMappingTcp with
  | some mapping => mapping.auxExt
  | none => toUint16 (findNextId s.bitmap).1

/-- Among the connections linked from a copied mapping there is one of the packet's peer. -/
def FindsConn (s : SrNat) (mapping : SrNatMappingCopy) (p : ByteMem) (direction : Direction) : Prop :=
  ∃ a conns, mapping.conns = some a ∧ connsFrom s.mappings a = some conns ∧
    ∃ c ∈ conns, isPeer direction p c = true

/-- The NAT takes an outgoing segment on: its endpoint has no mapping yet, or one with a connection
to its peer.  A new mapping needs a proper unsolicited list. -/
def TakesOn (s : SrNat) (p : ByteMem) : Prop :=
  match srNatLookupInternal s (tcpKey p).1 (tcpKey p).2 .natMappingTcp with
  | some mapping => FindsConn s mapping p .internalToExternal
  | none => s.unsolPkt ≠ .dangling

/-- While it has no mappings and its list is in order, it takes every segment on. -/
lemma takesOn_startState (p : ByteMem) : TakesOn startState p :=
  show UnsolList.linked [] ≠ .dangling from fun h => by cases h

/-- The external id of an endpoint that has a mapping. -/
lemma externalId_of_some {s : SrNat} {key : UInt32 × UInt16} {mapping : SrNatMappingCopy}
    (h : srNatLookupInternal s key.1 key.2 .natMappingTcp = some mapping) :
    externalId s key = mapping.auxExt := by
  simp only [externalId, h]

/-- The external id of an endpoint that has none. -/
lemma externalId_of_none {s : SrNat} {key : UInt32 × UInt16}
    (h : srNatLookupInternal s key.1 key.2 .natMappingTcp = none) :
    externalId s key = toUint16 (findNextId s.bitmap).1 := by
  simp only [externalId, h]

/-- `sr_nat_update_connection` returns a connection if there is one of the peer. -/
lemma findsConn_iff {s : SrNat} {amb : Ambient} {mapping : SrNatMappingCopy} {p : ByteMem}
    {len : UInt32} {direction : Direction} :
    (∃ c s', srNatUpdateConnection s amb mapping p len direction = .ok (some c, s')) ↔
      FindsConn s mapping p direction := by
  constructor
  · rintro ⟨c', s', h⟩
    obtain ⟨a, conns, c, ha, hfrom, hc, hpeer, -, -⟩ := srNatUpdateConnection_some h
    exact ⟨a, conns, ha, hfrom, c, hc, hpeer⟩
  · rintro ⟨a, conns, ha, hfrom, c, hc, hpeer⟩
    have hsome : (conns.find? (isPeer direction p)).isSome := List.find?_isSome.mpr ⟨c, hc, hpeer⟩
    obtain ⟨d, hd⟩ := Option.isSome_iff_exists.mp hsome
    refine ⟨updatedConnection amb.now p d, s.storeConn (updatedConnection amb.now p d), ?_⟩
    simp only [srNatUpdateConnection, ha, hfrom, hd]

/-! ### ICMP -/

section Icmp

variable {cfg : NetConfig} {s s' : SrNat} {p q : ByteMem} {amb : ℕ → Ambient}

/-- What `nat_handle_icmp` makes of the packets it translates. -/
inductive IcmpTranslates (cfg : NetConfig) (s : SrNat) (p : ByteMem) : ByteMem → Prop
  /-- From inside to outside: the source becomes the external endpoint. -/
  | outbound {lpm : SrRt} {i : SrIf} (hsrc : srcPrivate p) (hdst : ¬ dstPrivate p)
      (hroute : HasRoute cfg (SrIpHdr.ipDst p) lpm i) :
      IcmpTranslates cfg s p
        (icmpSourced p (ipHeaderLen p) i.ip (htons (externalId s (icmpKey p))))
  /-- From outside, with the external id of a mapping: the destination becomes the internal
  endpoint. -/
  | inbound {mapping : SrNatMappingCopy} (hsrc : ¬ srcPrivate p)
      (hlookup : srNatLookupExternal s (ntohs (SrIcmpHdr.identifier p (ipHeaderLen p)))
        .natMappingIcmp = some mapping) :
      IcmpTranslates cfg s p
        (icmpDestined p (ipHeaderLen p) (htonl mapping.ipInt) (htons mapping.auxInt))

/-- The packets that `nat_handle_icmp` leaves alone. -/
inductive IcmpUntouched (cfg : NetConfig) (s : SrNat) (p : ByteMem) : Prop
  /-- Between inside hosts. -/
  | inside (hsrc : srcPrivate p) (hdst : dstPrivate p)
  /-- From inside to where there is no route to. -/
  | unroutable (hsrc : srcPrivate p) (hdst : ¬ dstPrivate p)
      (hroute : srRtLookup cfg.routingTable (SrIpHdr.ipDst p) = .ok none)
  /-- From outside, with an identifier that is no external id. -/
  | unknown (hsrc : ¬ srcPrivate p)
      (hlookup : srNatLookupExternal s (ntohs (SrIcmpHdr.identifier p (ipHeaderLen p)))
        .natMappingIcmp = none)

/-- A packet is translated as told. -/
lemma IcmpTranslates.run (h : IcmpTranslates cfg s p q) (amb : ℕ → Ambient) :
    ∃ s', (natHandleIcmp cfg p).run natExec amb s = .ok ((1, q), s') := by
  cases h with
  | outbound hsrc hdst hroute =>
    rw [natHandleIcmp_outbound hsrc hdst]
    cases hlookup : srNatLookupInternal s (icmpKey p).1 (icmpKey p).2 .natMappingTcp with
    | some mapping =>
      rw [externalId_of_some hlookup]
      exact ⟨s, natIcmpOutbound_run_known hroute hlookup⟩
    | none =>
      rw [externalId_of_none hlookup]
      exact ⟨_, natIcmpOutbound_run_new hroute hlookup⟩
  | inbound hsrc hlookup =>
    rw [natHandleIcmp_inbound hsrc]
    exact ⟨s, natIcmpInbound_run_found hlookup⟩

/-- A packet that is left alone. -/
lemma IcmpUntouched.run (h : IcmpUntouched cfg s p) (amb : ℕ → Ambient) :
    (natHandleIcmp cfg p).run natExec amb s = .ok ((0, p), s) := by
  cases h with
  | inside hsrc hdst =>
    rw [natHandleIcmp_inside hsrc hdst]
    rfl
  | unroutable hsrc hdst hroute =>
    rw [natHandleIcmp_outbound hsrc hdst]
    simp only [natIcmpOutbound, hroute]
    rfl
  | unknown hsrc hlookup =>
    rw [natHandleIcmp_inbound hsrc]
    exact natIcmpInbound_run_unknown hlookup

/-- **What `nat_handle_icmp` does** when it returns: it translates the packet, or leaves it alone. -/
lemma natHandleIcmp_cases (cfg : NetConfig) (s : SrNat) (p : ByteMem) :
    (∃ q, IcmpTranslates cfg s p q) ∨ IcmpUntouched cfg s p ∨
      ∀ amb, ∃ e, (natHandleIcmp cfg p).run natExec amb s = .error e := by
  by_cases hsrc : srcPrivate p
  · by_cases hdst : dstPrivate p
    · exact .inr (.inl (.inside hsrc hdst))
    · have hrun : ∀ amb, (natHandleIcmp cfg p).run natExec amb s =
          (natIcmpOutbound cfg p (ipHeaderLen p)).run natExec amb s := fun amb => by
        rw [natHandleIcmp_outbound hsrc hdst]
      cases hroute : srRtLookup cfg.routingTable (SrIpHdr.ipDst p) with
      | error e =>
        refine .inr (.inr fun amb => ⟨e, ?_⟩)
        rw [hrun]
        simp only [natIcmpOutbound, hroute]
        rfl
      | ok lpm =>
        cases lpm with
        | none => exact .inr (.inl (.unroutable hsrc hdst hroute))
        | some lpm =>
          cases hi : srGetInterface cfg.ifList lpm.interface with
          | some i => exact .inl ⟨_, .outbound hsrc hdst ⟨hroute, hi⟩⟩
          | none =>
            refine .inr (.inr fun amb => ⟨.nullDeref, ?_⟩)
            rw [hrun]
            simp only [natIcmpOutbound, hroute]
            refine (Prog.run_call_of_ok rfl).trans ?_
            split
            · refine (Prog.run_call_of_ok rfl).trans ?_
              rw [natIcmpTranslateSource_eq_abort p _ hi]
              rfl
            · rw [natIcmpTranslateSource_eq_abort p _ hi]
              rfl
  · cases hlookup : srNatLookupExternal s (ntohs (SrIcmpHdr.identifier p (ipHeaderLen p)))
        .natMappingIcmp with
    | some mapping => exact .inl ⟨_, .inbound hsrc hlookup⟩
    | none => exact .inr (.inl (.unknown hsrc hlookup))

/-- The result of a run. -/
lemma natHandleIcmp_run_cases {code : ℤ}
    (h : (natHandleIcmp cfg p).run natExec amb s = .ok ((code, q), s')) :
    code = 1 ∧ IcmpTranslates cfg s p q ∨ code = 0 ∧ IcmpUntouched cfg s p ∧ q = p ∧ s' = s := by
  rcases natHandleIcmp_cases cfg s p with ⟨q', htrans⟩ | huntouched | hfault
  · obtain ⟨t, hrun⟩ := htrans.run amb
    rw [h] at hrun
    cases hrun
    exact .inl ⟨rfl, htrans⟩
  · have hrun := huntouched.run amb
    rw [h] at hrun
    cases hrun
    exact .inr ⟨rfl, huntouched, rfl, rfl⟩
  · obtain ⟨e, hrun⟩ := hfault amb
    rw [h] at hrun
    cases hrun

end Icmp

/-! ### TCP -/

section Tcp

variable {cfg : NetConfig} {s s' : SrNat} {p q : ByteMem} {len : UInt32} {isToNat : Bool}
  {amb : ℕ → Ambient}

/-- What becomes of the packets that `nat_handle_tcp` lets pass. -/
inductive TcpPasses (cfg : NetConfig) (s : SrNat) (p : ByteMem) (len : UInt32) :
    Bool → ByteMem → Prop
  /-- Between inside hosts nothing is changed. -/
  | inside {isToNat : Bool} (hsrc : srcPrivate p) (hdst : dstPrivate p) :
      TcpPasses cfg s p len isToNat p
  /-- From inside to outside: the source becomes the external endpoint. -/
  | outbound {isToNat : Bool} {lpm : SrRt} {i : SrIf} (hsrc : srcPrivate p) (hdst : ¬ dstPrivate p)
      (htakes : TakesOn s p) (hlen : 0 ≤ tcpSegmentLen len (ipHeaderLen p))
      (hroute : HasRoute cfg (routedDst p (ipHeaderLen p) (htons (externalId s (tcpKey p)))) lpm i) :
      TcpPasses cfg s p len isToNat
        (tcpSourced p len (ipHeaderLen p) i.ip (htons (externalId s (tcpKey p))))
  /-- From outside, over a connection of a mapping: the destination becomes the internal endpoint. -/
  | inbound {mapping : SrNatMappingCopy} (hsrc : ¬ srcPrivate p) (hsyn : ¬ isTcpSyn p)
      (hlookup : srNatLookupExternal s (ntohs (SrTcpHdr.dstPort p (ipHeaderLen p)))
        .natMappingTcp = some mapping)
      (hconn : FindsConn s mapping p .externalToInternal)
      (hlen : 0 ≤ tcpSegmentLen len (ipHeaderLen p)) :
      TcpPasses cfg s p len true
        (tcpDestined p len (ipHeaderLen p) (htonl mapping.ipInt) (htons mapping.auxInt))
  /-- From outside to the router, to a port that is no external id: only the checksums are filled
  in. -/
  | unknown (hsrc : ¬ srcPrivate p) (hsyn : ¬ isTcpSyn p)
      (hlookup : srNatLookupExternal s (ntohs (SrTcpHdr.dstPort p (ipHeaderLen p)))
        .natMappingTcp = none) (hlen : 0 ≤ tcpSegmentLen len (ipHeaderLen p)) :
      TcpPasses cfg s p len true (tcpFilled p len (ipHeaderLen p))
  /-- Between outside hosts nothing is changed. -/
  | outside (hsrc : ¬ srcPrivate p) (hdst : ¬ dstPrivate p) :
      TcpPasses cfg s p len false p

/-- The insertion of a connection finds the mapping just inserted. -/
lemma srNatInsertConnection_new_ne_none {now now' : Time} {ipInt : UInt32} {auxInt : UInt16}
    {type : SrNatMappingType} {state : SrTcpStateType} :
    srNatInsertConnection (srNatInsertMapping s now ipInt auxInt type).2 now'
      (toUint16 (findNextId s.bitmap).1) p state ≠ .ok (none, s') := by
  rintro hinsert
  unfold srNatInsertConnection at hinsert
  simp only [srNatInsertMapping, newMapping, List.find?_cons, decide_true] at hinsert
  split at hinsert <;> cases hinsert

/-- A segment that is taken on and has a route comes out translated. -/
lemma natTcpOutbound_run_takesOn (hlen : 0 ≤ tcpSegmentLen len (ipHeaderLen p)) {lpm : SrRt} {i : SrIf}
    (htakes : TakesOn s p)
    (hroute : HasRoute cfg (routedDst p (ipHeaderLen p) (htons (externalId s (tcpKey p)))) lpm i)
    (amb : ℕ → Ambient) : ∃ s', (natTcpOutbound cfg p len (ipHeaderLen p)).run natExec amb s =
      .ok ((1, tcpSourced p len (ipHeaderLen p) i.ip (htons (externalId s (tcpKey p)))), s') := by
  unfold TakesOn at htakes
  cases hlookup : srNatLookupInternal s (tcpKey p).1 (tcpKey p).2 .natMappingTcp with
  | some mapping =>
    simp only [hlookup] at htakes
    obtain ⟨c, s', hupdate⟩ := (@findsConn_iff s (amb 1) mapping p len _).mpr htakes
    rw [externalId_of_some hlookup] at hroute ⊢
    exact ⟨s', natTcpOutbound_run_known hlen hroute hlookup hupdate⟩
  | none =>
    simp only [hlookup] at htakes
    obtain ⟨unsol, hremove⟩ := exists_of_removeUnsolicited htakes p
    have hinsert : ∃ c s', srNatInsertConnection (srNatInsertMapping s (amb 1).now (tcpKey p).1
        (tcpKey p).2 .natMappingTcp).2 (amb 2).now (toUint16 (findNextId s.bitmap).1) p .synSent =
          .ok (some c, s') := by
      simp [srNatInsertConnection, srNatInsertMapping, newMapping, hremove]
    obtain ⟨c, s', hinsert⟩ := hinsert
    rw [externalId_of_none hlookup] at hroute ⊢
    exact ⟨s', natTcpOutbound_run_new hlen hroute hlookup hinsert⟩

/-- The translation of the source needs a route. -/
lemma hasRoute_of_translateSource {mapping : SrNatMappingCopy} {e : UInt16} (he : mapping.auxExt = e)
    {a : ℤ × ByteMem} (h : (natTcpTranslateSource cfg p len (ipHeaderLen p) mapping).run natExec amb s =
      .ok (a, s')) : ∃ lpm i, a = (1, tcpSourced p len (ipHeaderLen p) (SrIf.ip i) (htons e)) ∧
      0 ≤ tcpSegmentLen len (ipHeaderLen p) ∧
      HasRoute cfg (routedDst p (ipHeaderLen p) (htons e)) lpm i := by
  subst he
  rcases natTcpTranslateSource_cases cfg p len (ipHeaderLen p) mapping with
    ⟨e, heq, -⟩ | ⟨lpm, i, heq, hlen, hroute⟩
  · rw [heq] at h
    cases h
  · rw [heq] at h
    cases h
    exact ⟨lpm, i, rfl, hlen, hroute⟩

/-- What becomes of a segment from inside to outside, when the handler returns. -/
lemma natTcpOutbound_run_cases {a : ℤ × ByteMem}
    (h : (natTcpOutbound cfg p len (ipHeaderLen p)).run natExec amb s = .ok (a, s')) :
    a = (0, p) ∨ TakesOn s p ∧ ∃ lpm i,
      a = (1, tcpSourced p len (ipHeaderLen p) (SrIf.ip i) (htons (externalId s (tcpKey p)))) ∧
      0 ≤ tcpSegmentLen len (ipHeaderLen p) ∧
      HasRoute cfg (routedDst p (ipHeaderLen p) (htons (externalId s (tcpKey p)))) lpm i := by
  cases hlookup : srNatLookupInternal s (tcpKey p).1 (tcpKey p).2 .natMappingTcp with
  | some mapping =>
    cases hupdate : srNatUpdateConnection s (amb 1) mapping p len .internalToExternal with
    | error e =>
      rw [natTcpOutbound_run_error hlookup hupdate] at h
      cases h
    | ok r =>
      obtain ⟨_ | c, s₁⟩ := r
      · rw [natTcpOutbound_run_unsolicited hlookup hupdate] at h
        cases h
        exact .inl rfl
      · rw [natTcpOutbound_run_some hlookup hupdate] at h
        have htakes : TakesOn s p := by
          simp only [TakesOn, hlookup]
          exact findsConn_iff.mp ⟨c, s₁, hupdate⟩
        exact .inr ⟨htakes, hasRoute_of_translateSource (externalId_of_some hlookup).symm h⟩
  | none =>
    cases hinsert : srNatInsertConnection (srNatInsertMapping s (amb 1).now (tcpKey p).1
        (tcpKey p).2 .natMappingTcp).2 (amb 2).now (toUint16 (findNextId s.bitmap).1) p .synSent with
    | error e =>
      rw [natTcpOutbound_run_none_error hlookup hinsert] at h
      cases h
    | ok r =>
      have htakes : TakesOn s p := by
        simp only [TakesOn, hlookup]
        rintro hdangling
        simp [srNatInsertConnection, srNatInsertMapping, newMapping, hdangling,
          srNatRemoveUnsolicitedPacket] at hinsert
      obtain ⟨_ | c, s₁⟩ := r
      · exact absurd hinsert srNatInsertConnection_new_ne_none
      · rw [natTcpOutbound_run_none hlookup hinsert] at h
        exact .inr ⟨htakes, hasRoute_of_translateSource (externalId_of_none hlookup).symm h⟩

/-- Filling in the checksums needs a segment of some length. -/
lemma natTcpUpdateChecksum_run (q : ByteMem) {a : ℤ × ByteMem}
    (h : (natTcpUpdateChecksum q len (ipHeaderLen p)).run natExec amb s = .ok (a, s')) :
    a = (1, tcpFilled q len (ipHeaderLen p)) ∧ 0 ≤ tcpSegmentLen len (ipHeaderLen p) := by
  by_cases hlen : tcpSegmentLen len (ipHeaderLen p) < 0
  · rw [natTcpUpdateChecksum_eq_abort q hlen] at h
    cases h
  · rw [natTcpUpdateChecksum_eq q (Int.not_lt.mp hlen)] at h
    cases h
    exact ⟨rfl, Int.not_lt.mp hlen⟩

/-- What becomes of a segment from outside to the router, when the handler returns. -/
lemma natTcpInbound_run_cases (cfg : NetConfig) (hsrc : ¬ srcPrivate p) {a : ℤ × ByteMem}
    (h : (natTcpInbound p len (ipHeaderLen p)).run natExec amb s = .ok (a, s')) :
    a = (0, p) ∨ a = (-1, p) ∨ a.1 = 1 ∧ TcpPasses cfg s p len true a.2 := by
  by_cases hsyn : isTcpSyn p
  · have hsyn' : SrTcpHdr.syn p (ipHeaderLen p) = true ∧ ¬ SrTcpHdr.ack p (ipHeaderLen p) = true := by
      rwa [Bool.not_eq_true]
    refine .inr (.inl ?_)
    simp only [natTcpInbound, if_pos hsyn'] at h
    cases hlookup : srNatLookupExternal s (ntohs (SrTcpHdr.dstPort p (ipHeaderLen p)))
        .natMappingTcp <;>
    · rw [Prog.run_call_of_ok (congrArg (fun r => Except.ok (r, s)) hlookup)] at h
      exact Prog.eq_of_run_call_ret h
  · have hsyn' : ¬ (SrTcpHdr.syn p (ipHeaderLen p) = true ∧
        ¬ SrTcpHdr.ack p (ipHeaderLen p) = true) := by
      rwa [Bool.not_eq_true]
    cases hlookup : srNatLookupExternal s (ntohs (SrTcpHdr.dstPort p (ipHeaderLen p)))
        .natMappingTcp with
    | none =>
      simp only [natTcpInbound, if_neg hsyn', Prog.run, natExec, hlookup] at h
      obtain ⟨rfl, hlen⟩ := natTcpUpdateChecksum_run p h
      exact .inr (.inr ⟨rfl, .unknown hsrc hsyn hlookup hlen⟩)
    | some mapping =>
      cases hupdate : srNatUpdateConnection s (amb 1) mapping p len .externalToInternal with
      | error e =>
        simp only [natTcpInbound, if_neg hsyn', Prog.run, natExec, hlookup, hupdate] at h
        cases h
      | ok r =>
        obtain ⟨_ | c, s₁⟩ := r
        · simp only [natTcpInbound, if_neg hsyn', Prog.run, natExec, hlookup, hupdate] at h
          cases h
          exact .inl rfl
        · simp only [natTcpInbound, if_neg hsyn', Prog.run, natExec, hlookup, hupdate] at h
          obtain ⟨rfl, hlen⟩ := natTcpUpdateChecksum_run _ h
          exact .inr (.inr ⟨rfl, .inbound hsrc hsyn hlookup (findsConn_iff.mp ⟨c, s₁, hupdate⟩) hlen⟩)

/-- **What `nat_handle_tcp` does** when it returns: it refuses the packet, keeps it, or lets it pass. -/
lemma natHandleTcp_run_cases {a : ℤ × ByteMem}
    (h : (natHandleTcp cfg p len isToNat).run natExec amb s = .ok (a, s')) :
    a = (0, p) ∨ a = (-1, p) ∧ isToNat = true ∨ a.1 = 1 ∧ TcpPasses cfg s p len isToNat a.2 := by
  by_cases hsrc : srcPrivate p
  · by_cases hdst : dstPrivate p
    · rw [natHandleTcp_inside hsrc hdst] at h
      cases h
      exact .inr (.inr ⟨rfl, .inside hsrc hdst⟩)
    · rw [natHandleTcp_outbound hsrc hdst] at h
      obtain hrefused | ⟨htakes, lpm, i, rfl, hlen, hroute⟩ := natTcpOutbound_run_cases h
      · exact .inl hrefused
      · exact .inr (.inr ⟨rfl, .outbound hsrc hdst htakes hlen hroute⟩)
  · cases isToNat with
    | true =>
      rw [natHandleTcp_inbound hsrc] at h
      obtain hrefused | hkept | ⟨hcode, hpasses⟩ := natTcpInbound_run_cases cfg hsrc h
      · exact .inl hrefused
      · exact .inr (.inl ⟨hkept, rfl⟩)
      · exact .inr (.inr ⟨hcode, hpasses⟩)
    | false =>
      rw [natHandleTcp_transit hsrc] at h
      by_cases hdst : dstPrivate p
      · rw [if_pos hdst] at h
        cases h
        exact .inl rfl
      · rw [if_neg hdst] at h
        cases h
        exact .inr (.inr ⟨rfl, .outside hsrc hdst⟩)

/-- A packet passes as told. -/
lemma TcpPasses.run (h : TcpPasses cfg s p len isToNat q) (amb : ℕ → Ambient) :
    ∃ s', (natHandleTcp cfg p len isToNat).run natExec amb s = .ok ((1, q), s') := by
  cases h with
  | inside hsrc hdst =>
    rw [natHandleTcp_inside hsrc hdst]
    exact ⟨s, rfl⟩
  | outbound hsrc hdst htakes hlen hroute =>
    rw [natHandleTcp_outbound hsrc hdst]
    exact natTcpOutbound_run_takesOn hlen htakes hroute amb
  | inbound hsrc hsyn hlookup hconn hlen =>
    rw [natHandleTcp_inbound hsrc]
    obtain ⟨c, s', hupdate⟩ := (@findsConn_iff s (amb 1) _ p len _).mpr hconn
    exact ⟨s', natTcpInbound_run_found hlen hsyn hlookup hupdate⟩
  | unknown hsrc hsyn hlookup hlen =>
    rw [natHandleTcp_inbound hsrc]
    exact ⟨s, natTcpInbound_run_unknown hlen hsyn hlookup⟩
  | outside hsrc hdst =>
    rw [natHandleTcp_transit hsrc, if_neg hdst]
    exact ⟨s, rfl⟩

end Tcp

end NatRouter
