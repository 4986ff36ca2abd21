import NatRouter.Router.Crossing

/-!
# The last hop

Two things a router should never do with a packet: send it on with no hop left to live, and send it on
to itself.  `sr_handle_ippacket` looks at the time to live in transit only, and there for the value 1
alone; and it relies on the NAT handlers to rewrite the destination of what they let pass of the
packets for the router.  Behind an `ip_hl` below 5 what they write may be the hops or a part of the
destination.
-/

namespace NatRouter

open ByteMemory

variable {ctx : Surroundings} {sr sr' : SrInstance} {p q : ByteMem} {len : UInt32}
  {interface : IfName} {lpm : SrRt}

/-- The NAT lets the packet pass, or does not look at it, and there is a route to where it goes. -/
inductive PassedOn (sr : SrInstance) (p : ByteMem) (len : UInt32) : Prop
  /-- It carries ICMP and crosses the NAT. -/
  | icmp {f : IcmpSent} {lpm : SrRt} (hon : sr.natEnabled = true)
      (hicmp : SrIpHdr.ipP p = ipProtocolIcmp) (hcrosses : IcmpCrosses sr p len f)
      (hroute : RoutesTo sr f.ipDst lpm)
  /-- It carries TCP and crosses the NAT. -/
  | tcp {f : TcpSent} {lpm : SrRt} (hon : sr.natEnabled = true)
      (htcp : SrIpHdr.ipP p = ipProtocolTcp) (hcrosses : TcpCrosses sr p len f)
      (hroute : RoutesTo sr f.ipDst lpm)
  /-- The NAT is off or it carries something else, and it is in transit. -/
  | past {lpm : SrRt} (hpast : PastNat sr p) (hfor : isForRouter sr.cfg (SrIpHdr.ipDst p) = false)
      (httl : SrIpHdr.ipTtl p ≠ 1) (hroute : RoutesTo sr (SrIpHdr.ipDst p) lpm)

/-- The packets in which the hops are the first byte of the number that the NAT writes, which has another
value, each with a route. -/
inductive HopsOverwritten (sr : SrInstance) (p : ByteMem) (len : UInt32) : Prop
  /-- A message from inside, whose identifier starts at offset 8. -/
  | outboundMessage {lpm : SrRt} {i : SrIf} (hicmp : SrIpHdr.ipP p = ipProtocolIcmp)
      (hreach : IcmpReachesNat sr.cfg p len) (hsrc : srcPrivate p) (hdst : ¬ dstPrivate p)
      (hroute : HasRoute sr.cfg (SrIpHdr.ipDst p) lpm i) (hhl : SrIpHdr.ipHl p = 1)
      (hbyte : firstByte (htons (externalId sr.nat (icmpKey p))) ≠ SrIpHdr.ipTtl p)
  /-- A message from outside that has the external id of a mapping. -/
  | inboundMessage {mapping : SrNatMappingCopy} {lpm : SrRt}
      (hicmp : SrIpHdr.ipP p = ipProtocolIcmp) (hreach : IcmpReachesNat sr.cfg p len)
      (hsrc : ¬ srcPrivate p)
      (hlookup : srNatLookupExternal sr.nat (ntohs (SrIcmpHdr.identifier p (ipHeaderLen p)))
        .natMappingIcmp = some mapping)
      (hroute : RoutesTo sr (htonl mapping.ipInt) lpm) (hhl : SrIpHdr.ipHl p = 1)
      (hbyte : firstByte (htons mapping.auxInt) ≠ SrIpHdr.ipTtl p)
  /-- A segment from inside, whose source port starts at offset 8. -/
  | outboundSegment {lpm : SrRt} {i : SrIf} (htcp : SrIpHdr.ipP p = ipProtocolTcp)
      (hreach : TcpReachesNat sr.cfg p) (hsrc : srcPrivate p) (hdst : ¬ dstPrivate p)
      (htakes : TakesOn sr.nat p) (hlen : 0 ≤ tcpSegmentLen len (ipHeaderLen p))
      (hroute : HasRoute sr.cfg (SrIpHdr.ipDst p) lpm i) (hhl : SrIpHdr.ipHl p = 2)
      (hbyte : firstByte (htons (externalId sr.nat (tcpKey p))) ≠ SrIpHdr.ipTtl p)

/-- A route out of an existing interface can be used whatever the ARP cache holds. -/
lemma HasRoute.routesTo {dst : UInt32} {i : SrIf} (h : HasRoute sr.cfg dst lpm i) :
    RoutesTo sr dst lpm := ⟨h.lookup, fun _ => ⟨i, h.interface⟩⟩

/-! ### The time to live -/

/-- A message that crosses the NAT is in transit and not on its last hop, or for the router. -/
lemma IcmpReachesNat.lastHop (h : IcmpReachesNat sr.cfg p len) :
    isForRouter sr.cfg (SrIpHdr.ipDst p) = true ∨ SrIpHdr.ipTtl p ≠ 1 := by
  unfold IcmpReachesNat at h
  split_ifs at h with hfor
  · exact .inl hfor
  · exact .inr h

/-- A message that crosses the NAT is in transit and not on its last hop, or for the router. -/
lemma IcmpCrosses.lastHop {f : IcmpSent} (h : IcmpCrosses sr p len f) :
    isForRouter sr.cfg (SrIpHdr.ipDst p) = true ∨ SrIpHdr.ipTtl p ≠ 1 := by
  cases h with
  | outbound hreach => exact hreach.lastHop
  | inbound hreach => exact hreach.lastHop
  | untouched _ httl => exact .inr httl

/-- So is a segment. -/
lemma TcpCrosses.lastHop {f : TcpSent} (h : TcpCrosses sr p len f) :
    isForRouter sr.cfg (SrIpHdr.ipDst p) = true ∨ SrIpHdr.ipTtl p ≠ 1 := by
  cases h with
  | inside hreach => exact hreach
  | outbound hreach => exact hreach
  | inbound hfor => exact .inl hfor
  | unknown hfor => exact .inl hfor
  | outside _ httl => exact .inr httl

/-- The hops that a message is given are those received, unless they are overwritten. -/
lemma IcmpCrosses.ipTtl {f : IcmpSent} (h : IcmpCrosses sr p len f)
    (hicmp : SrIpHdr.ipP p = ipProtocolIcmp) (hroute : RoutesTo sr f.ipDst lpm) :
    f.ipTtl = SrIpHdr.ipTtl p ∨ HopsOverwritten sr p len := by
  by_cases hone : SrIpHdr.ipHl p = 1
  · by_cases hsame : f.ipTtl = SrIpHdr.ipTtl p
    · exact .inl hsame
    · right
      cases h with
      | @outbound lpm' i hreach hsrc hdst hhas =>
        refine .outboundMessage hicmp hreach hsrc hdst hhas hone ?_
        rwa [icmpWithSource, if_pos hone] at hsame
      | inbound hreach hsrc hlookup =>
        simp only [icmpWithDestination, hone, Nat.reduceEqDiff, if_false, if_true] at hroute hsame
        exact .inboundMessage hicmp hreach hsrc hlookup hroute hone hsame
      | untouched => exact absurd rfl hsame
  · left
    cases h with
    | outbound => exact if_neg hone
    | inbound => exact if_neg hone
    | untouched => rfl

/-- The hops that a segment is given are those received, unless they are overwritten. -/
lemma TcpCrosses.ipTtl {f : TcpSent} (h : TcpCrosses sr p len f)
    (htcp : SrIpHdr.ipP p = ipProtocolTcp) :
    f.ipTtl = SrIpHdr.ipTtl p ∨ HopsOverwritten sr p len := by
  cases h with
  | outbound hreach hsrc hdst htakes hlen hhas =>
    by_cases htwo : SrIpHdr.ipHl p = 2
    · by_cases hsame : firstByte (htons (externalId sr.nat (tcpKey p))) = SrIpHdr.ipTtl p
      · exact .inl ((if_pos htwo).trans hsame)
      · rw [routedDst_of_ne_four (by omega)] at hhas
        exact .inr (.outboundSegment htcp hreach hsrc hdst htakes hlen hhas htwo hsame)
    · exact .inl (if_neg htwo)
  | inside => exact .inl rfl
  | inbound => exact .inl rfl
  | unknown => exact .inl rfl
  | outside => exact .inl rfl

/-- One hop less is something else for other hops. -/
lemma sub_one_injective {s t : UInt8} (h : s - 1 = t - 1) : s = t := by
  have hback := congrArg (· + 1) h
  simpa only [UInt8.sub_add_cancel] using hback

/-- A packet that is passed on is forwarded. -/
lemma PassedOn.forwards (h : PassedOn sr p len) (hok : Accepted p len) (ctx : Surroundings)
    (interface : IfName) : ∃ sr' q lpm, Forwards ctx sr p len interface sr' q lpm := by
  cases h with
  | icmp hon hicmp hcrosses hroute =>
    obtain ⟨sr', q, hforwards, -⟩ := hcrosses.forwards hon hicmp hok hroute ctx interface
    exact ⟨sr', q, _, hforwards⟩
  | tcp hon htcp hcrosses hroute =>
    obtain ⟨sr', q, hforwards, -⟩ := hcrosses.forwards hon htcp hok hroute ctx interface
    exact ⟨sr', q, _, hforwards⟩
  | past hpast hfor httl hroute =>
    obtain ⟨sr', hforwards⟩ := hpast.forwards hok hfor httl hroute ctx interface
    exact ⟨sr', _, _, hforwards⟩

/-- A message whose hops are overwritten is forwarded with others. -/
lemma IcmpCrosses.forwardsOverwritten {f : IcmpSent} (h : IcmpCrosses sr p len f)
    (hon : sr.natEnabled = true) (hicmp : SrIpHdr.ipP p = ipProtocolIcmp) (hok : Accepted p len)
    (hroute : RoutesTo sr f.ipDst lpm) (hbyte : f.ipTtl ≠ SrIpHdr.ipTtl p) (ctx : Surroundings)
    (interface : IfName) : ∃ sr' q lpm, Forwards ctx sr p len interface sr' q lpm ∧
      SrIpHdr.ipTtl q ≠ SrIpHdr.ipTtl p - 1 := by
  obtain ⟨sr', q, hforwards, hsent⟩ := h.forwards hon hicmp hok hroute ctx interface
  have httl : SrIpHdr.ipTtl q = f.ipTtl - 1 := congrArg IcmpSent.ipTtl hsent
  refine ⟨sr', q, lpm, hforwards, ?_⟩
  rw [httl]
  exact fun hsame => hbyte (sub_one_injective hsame)

/-- A packet whose hops are overwritten is forwarded with others. -/
lemma HopsOverwritten.forwards (h : HopsOverwritten sr p len) (hon : sr.natEnabled = true)
    (hok : Accepted p len) (ctx : Surroundings) (interface : IfName) :
    ∃ sr' q lpm, Forwards ctx sr p len interface sr' q lpm ∧
      SrIpHdr.ipTtl q ≠ SrIpHdr.ipTtl p - 1 := by
  cases h with
  | @outboundMessage lpm i hicmp hreach hsrc hdst hhas hhl hbyte =>
    have hcrosses : IcmpCrosses sr p len _ := .outbound hreach hsrc hdst hhas
    refine @IcmpCrosses.forwardsOverwritten sr p len lpm _ hcrosses hon hicmp hok ?_ ?_ ctx interface
    · simpa [icmpWithSource, hhl] using hhas.routesTo
    · simpa [icmpWithSource, hhl] using hbyte
  | @inboundMessage mapping lpm hicmp hreach hsrc hlookup hroute hhl hbyte =>
    have hcrosses : IcmpCrosses sr p len _ := .inbound hreach hsrc hlookup
    refine @IcmpCrosses.forwardsOverwritten sr p len lpm _ hcrosses hon hicmp hok ?_ ?_ ctx interface
    · simpa [icmpWithDestination, hhl] using hroute
    · simpa [icmpWithDestination, hhl] using hbyte
  | @outboundSegment lpm i htcp hreach hsrc hdst htakes hlen hhas hhl hbyte =>
    have hrouted := routedDst_of_ne_four (show SrIpHdr.ipHl p ≠ 4 by omega)
      (htons (externalId sr.nat (tcpKey p)))
    have hcrosses : TcpCrosses sr p len
        (tcpWithSource p len i.ip (htons (externalId sr.nat (tcpKey p)))) :=
      .outbound hreach hsrc hdst htakes hlen (hrouted.symm ▸ hhas)
    have hroute : RoutesTo sr
        (tcpWithSource p len i.ip (htons (externalId sr.nat (tcpKey p)))).ipDst lpm := by
      simpa [tcpWithSource, hhl] using hhas.routesTo
    obtain ⟨sr', q, hforwards, hsent⟩ := hcrosses.forwards hon htcp hok hroute ctx interface
    have httl : SrIpHdr.ipTtl q = firstByte (htons (externalId sr.nat (tcpKey p))) - 1 :=
      (congrArg TcpSent.ipTtl hsent).trans (congrArg (· - 1) (if_pos hhl))
    refine ⟨sr', q, lpm, hforwards, ?_⟩
    rw [httl]
    exact fun hsame => hbyte (sub_one_injective hsame)

/-- A packet that is forwarded was passed on and has lost one hop, or its hops were overwritten. -/
lemma Forwards.passedOn (h : Forwards ctx sr p len interface sr' q lpm) :
    Accepted p len ∧ PassedOn sr p len ∧
      (isForRouter sr.cfg (SrIpHdr.ipDst p) = true ∨ SrIpHdr.ipTtl p ≠ 1) ∧
      (SrIpHdr.ipTtl q = SrIpHdr.ipTtl p - 1 ∨
        sr.natEnabled = true ∧ HopsOverwritten sr p len) := by
  by_cases hpast : PastNat sr p
  · obtain ⟨hok, hfor, httl, hroute, rfl⟩ := h.past hpast
    exact ⟨hok, .past hpast hfor httl hroute, .inr httl, .inl (ipTtl_decrementTtl p)⟩
  · unfold PastNat at hpast
    simp only [Classical.not_imp, not_and_or, not_not] at hpast
    obtain ⟨hon, hicmp | htcp⟩ := hpast
    · obtain ⟨hok, f, hcrosses, hroute, hsent⟩ := h.icmpCrosses hon hicmp
      have httl : SrIpHdr.ipTtl q = f.ipTtl - 1 := congrArg IcmpSent.ipTtl hsent
      refine ⟨hok, .icmp hon hicmp hcrosses hroute, hcrosses.lastHop, ?_⟩
      exact (hcrosses.ipTtl hicmp hroute).imp (fun hsame => httl.trans (congrArg (· - 1) hsame))
        (And.intro hon)
    · obtain ⟨hok, f, hcrosses, hroute, hsent⟩ := h.tcpCrosses hon htcp
      have httl : SrIpHdr.ipTtl q = f.ipTtl - 1 := congrArg TcpSent.ipTtl hsent
      refine ⟨hok, .tcp hon htcp hcrosses hroute, hcrosses.lastHop, ?_⟩
      exact (hcrosses.ipTtl htcp).imp (fun hsame => httl.trans (congrArg (· - 1) hsame))
        (And.intro hon)

/-- One hop less, of two or more. -/
lemma toNat_sub_one {t : UInt8} (ht : 2 ≤ t.toNat) : (t - 1).toNat = t.toNat - 1 := by
  have hle : 1 ≤ t := by
    rw [UInt8.le_iff_toNat_le]
    simp only [UInt8.reduceToNat]
    omega
  rw [UInt8.toNat_sub_of_le _ _ hle]
  rfl

/-- **The time to live of a forwarded packet** is that of the packet received, which was 2 at least,
less 1, exactly if the packet fails the tests, or is neither one for the router with a time to live of 0
or 1, nor one in transit with 0, that is passed on, nor one whose hops the NAT overwrites. -/
theorem ttl_decreases_iff (ctx : Surroundings) (sr : SrInstance) (p : ByteMem) (len : UInt32)
    (interface : IfName) :
    (∀ sr' q lpm, Forwards ctx sr p len interface sr' q lpm →
        2 ≤ (SrIpHdr.ipTtl p).toNat ∧ (SrIpHdr.ipTtl q).toNat = (SrIpHdr.ipTtl p).toNat - 1) ↔
      ¬ (Accepted p len ∧
        (isForRouter sr.cfg (SrIpHdr.ipDst p) = true ∧ (SrIpHdr.ipTtl p).toNat ≤ 1 ∧
            PassedOn sr p len ∨
          isForRouter sr.cfg (SrIpHdr.ipDst p) = false ∧ (SrIpHdr.ipTtl p).toNat = 0 ∧
            PassedOn sr p len ∨
          sr.natEnabled = true ∧ HopsOverwritten sr p len)) := by
  constructor
  · rintro h ⟨hok, ⟨-, httl, hpassed⟩ | ⟨-, httl, hpassed⟩ | ⟨hon, hoverwritten⟩⟩
    · obtain ⟨sr', q, lpm, hforwards⟩ := hpassed.forwards hok ctx interface
      have := (h sr' q lpm hforwards).1
      omega
    · obtain ⟨sr', q, lpm, hforwards⟩ := hpassed.forwards hok ctx interface
      have := (h sr' q lpm hforwards).1
      omega
    · obtain ⟨sr', q, lpm, hforwards, hne⟩ := hoverwritten.forwards hon hok ctx interface
      obtain ⟨htwo, hless⟩ := h sr' q lpm hforwards
      exact hne (UInt8.toNat_inj.mp (hless.trans (toNat_sub_one htwo).symm))
  · intro h sr' q lpm hforwards
    obtain ⟨hok, hpassed, hlast, httl⟩ := hforwards.passedOn
    have hone : SrIpHdr.ipTtl p = 1 ↔ (SrIpHdr.ipTtl p).toNat = 1 := UInt8.toNat_inj.symm
    have htwo : 2 ≤ (SrIpHdr.ipTtl p).toNat := by
      by_contra hlt
      cases hfor : isForRouter sr.cfg (SrIpHdr.ipDst p) with
      | true => exact h ⟨hok, .inl ⟨hfor, by omega, hpassed⟩⟩
      | false =>
        rcases hlast with hlast | hlast
        · rw [hfor] at hlast
          cases hlast
        · rw [Ne, hone] at hlast
          exact h ⟨hok, .inr (.inl ⟨hfor, by omega, hpassed⟩)⟩
    rcases httl with httl | hoverwritten
    · refine ⟨htwo, ?_⟩
      rw [httl, toNat_sub_one htwo]
    · exact absurd ⟨hok, .inr (.inr hoverwritten)⟩ h

/-- A message in transit with a time to live of 0 is sent on with 255. -/
theorem ttl_wraps : ∃ sr' q,
    Forwards quietSurroundings (natRouter startState)
      (sealedMessage 0 8 0x08080404 0x08080808 7).buf (sealedMessage 0 8 0x08080404 0x08080808 7).len
      innerInterface.name sr' q outerRoute ∧ SrIpHdr.ipTtl q = 255 := by
  have hcrosses : IcmpCrosses (natRouter startState) (sealedMessage 0 8 0x08080404 0x08080808 7).buf
      (sealedMessage 0 8 0x08080404 0x08080808 7).len
      (icmpSent (sealedMessage 0 8 0x08080404 0x08080808 7).buf
        (ipHeaderLen (sealedMessage 0 8 0x08080404 0x08080808 7).buf)) := by
    refine .untouched ?_ ?_ (.unknown ?_ rfl)
    · rw [ipDst_sealedMessage]
      decide
    · rw [ipTtl_sealedMessage]
      decide
    · rw [srcPrivate, ipSrc_sealedMessage]
      decide
  have hdst : SrIpHdr.ipDst (sealedMessage 0 8 0x08080404 0x08080808 7).buf = htonl 0x08080808 :=
    ipDst_sealedMessage ..
  have hroute : RoutesTo (natRouter startState)
      (SrIpHdr.ipDst (sealedMessage 0 8 0x08080404 0x08080808 7).buf) outerRoute := by
    rw [hdst]
    exact routesTo_natRouter rfl
  obtain ⟨sr', q, hforwards, hsent⟩ := hcrosses.forwards rfl (ipP_sealedMessage ..)
    (accepted_sealedMessage ..) hroute quietSurroundings innerInterface.name
  refine ⟨sr', q, hforwards, ?_⟩
  have httl := congrArg IcmpSent.ipTtl hsent
  have hzero : SrIpHdr.ipTtl (sealedMessage 0 8 0x08080404 0x08080808 7).buf = 0 :=
    ipTtl_sealedMessage ..
  exact httl.trans (congrArg (· - 1) hzero)

/-! ### The destination -/

/-- The packets that are forwarded to an address of the router or to the broadcast address, kind by
kind, each with a route there. -/
inductive SelfAddressed (sr : SrInstance) (p : ByteMem) (len : UInt32) : Prop
  /-- A message from inside to an outside address of the router, whose source is translated; or one in
  transit that the short header makes one to the router. -/
  | sourcedMessage {lpm lpm' : SrRt} {i : SrIf} {f : IcmpSent}
      (hicmp : SrIpHdr.ipP p = ipProtocolIcmp) (hreach : IcmpReachesNat sr.cfg p len)
      (hsrc : srcPrivate p) (hdst : ¬ dstPrivate p)
      (hhas : HasRoute sr.cfg (SrIpHdr.ipDst p) lpm i)
      (hf : f = icmpWithSource p i.ip (htons (externalId sr.nat (icmpKey p))))
      (hself : isForRouter sr.cfg f.ipDst = true) (hroute : RoutesTo sr f.ipDst lpm')
  /-- A message from outside that has the external id of a mapping to an address of the router. -/
  | mappedMessage {mapping : SrNatMappingCopy} {lpm : SrRt} {f : IcmpSent}
      (hicmp : SrIpHdr.ipP p = ipProtocolIcmp) (hreach : IcmpReachesNat sr.cfg p len)
      (hsrc : ¬ srcPrivate p)
      (hlookup : srNatLookupExternal sr.nat (ntohs (SrIcmpHdr.identifier p (ipHeaderLen p)))
        .natMappingIcmp = some mapping)
      (hf : f = icmpWithDestination p (htonl mapping.ipInt) (htons mapping.auxInt))
      (hself : isForRouter sr.cfg f.ipDst = true) (hroute : RoutesTo sr f.ipDst lpm)
  /-- A segment from inside to an inside address of the router. -/
  | inside {lpm : SrRt} (htcp : SrIpHdr.ipP p = ipProtocolTcp)
      (hfor : isForRouter sr.cfg (SrIpHdr.ipDst p) = true) (hsrc : srcPrivate p)
      (hdst : dstPrivate p) (hroute : RoutesTo sr (SrIpHdr.ipDst p) lpm)
  /-- A segment from inside to an outside address of the router, whose source is translated; or one in
  transit that the short header makes one to the router. -/
  | sourcedSegment {lpm lpm' : SrRt} {i : SrIf} {f : TcpSent}
      (htcp : SrIpHdr.ipP p = ipProtocolTcp) (hreach : TcpReachesNat sr.cfg p)
      (hsrc : srcPrivate p) (hdst : ¬ dstPrivate p) (htakes : TakesOn sr.nat p)
      (hlen : 0 ≤ tcpSegmentLen len (ipHeaderLen p))
      (hhas : HasRoute sr.cfg
        (routedDst p (ipHeaderLen p) (htons (externalId sr.nat (tcpKey p)))) lpm i)
      (hf : f = tcpWithSource p len i.ip (htons (externalId sr.nat (tcpKey p))))
      (hself : isForRouter sr.cfg f.ipDst = true) (hroute : RoutesTo sr f.ipDst lpm')
  /-- A segment from outside that opens nothing, to a port without a mapping. -/
  | unknownPort {lpm : SrRt} {f : TcpSent} (htcp : SrIpHdr.ipP p = ipProtocolTcp)
      (hfor : isForRouter sr.cfg (SrIpHdr.ipDst p) = true) (hsrc : ¬ srcPrivate p)
      (hsyn : ¬ isTcpSyn p)
      (hlookup : srNatLookupExternal sr.nat (ntohs (SrTcpHdr.dstPort p (ipHeaderLen p)))
        .natMappingTcp = none)
      (hlen : 0 ≤ tcpSegmentLen len (ipHeaderLen p)) (hf : f = tcpWithSums p len)
      (hself : isForRouter sr.cfg f.ipDst = true) (hroute : RoutesTo sr f.ipDst lpm)
  /-- A segment from outside over a connection of a mapping to an address of the router. -/
  | mappedSegment {mapping : SrNatMappingCopy} {lpm : SrRt} {f : TcpSent}
      (htcp : SrIpHdr.ipP p = ipProtocolTcp)
      (hfor : isForRouter sr.cfg (SrIpHdr.ipDst p) = true) (hsrc : ¬ srcPrivate p)
      (hsyn : ¬ isTcpSyn p)
      (hlookup : srNatLookupExternal sr.nat (ntohs (SrTcpHdr.dstPort p (ipHeaderLen p)))
        .natMappingTcp = some mapping)
      (hconn : FindsConn sr.nat mapping p .externalToInternal)
      (hlen : 0 ≤ tcpSegmentLen len (ipHeaderLen p))
      (hf : f = tcpWithDestination p len (htonl mapping.ipInt) (htons mapping.auxInt))
      (hself : isForRouter sr.cfg f.ipDst = true) (hroute : RoutesTo sr f.ipDst lpm)

/-- A message that crosses the NAT to the router itself is of one of the kinds. -/
lemma IcmpCrosses.selfAddressed {f : IcmpSent} (h : IcmpCrosses sr p len f)
    (hicmp : SrIpHdr.ipP p = ipProtocolIcmp) (hroute : RoutesTo sr f.ipDst lpm)
    (hself : isForRouter sr.cfg f.ipDst = true) : SelfAddressed sr p len := by
  cases h with
  | outbound hreach hsrc hdst hhas =>
    exact .sourcedMessage hicmp hreach hsrc hdst hhas rfl hself hroute
  | inbound hreach hsrc hlookup => exact .mappedMessage hicmp hreach hsrc hlookup rfl hself hroute
  | untouched hfor =>
    rw [show isForRouter sr.cfg (SrIpHdr.ipDst p) = true from hself] at hfor
    cases hfor

/-- A segment that crosses the NAT to the router itself is of one of the kinds. -/
lemma TcpCrosses.selfAddressed {f : TcpSent} (h : TcpCrosses sr p len f)
    (htcp : SrIpHdr.ipP p = ipProtocolTcp) (hroute : RoutesTo sr f.ipDst lpm)
    (hself : isForRouter sr.cfg f.ipDst = true) : SelfAddressed sr p len := by
  cases h with
  | inside _ hsrc hdst => exact .inside htcp hself hsrc hdst hroute
  | outbound hreach hsrc hdst htakes hlen hhas =>
    exact .sourcedSegment htcp hreach hsrc hdst htakes hlen hhas rfl hself hroute
  | inbound hfor hsrc hsyn hlookup hconn hlen =>
    exact .mappedSegment htcp hfor hsrc hsyn hlookup hconn hlen rfl hself hroute
  | unknown hfor hsrc hsyn hlookup hlen =>
    exact .unknownPort htcp hfor hsrc hsyn hlookup hlen rfl hself hroute
  | outside hfor =>
    rw [show isForRouter sr.cfg (SrIpHdr.ipDst p) = true from hself] at hfor
    cases hfor

/-- A message that crosses the NAT to the router itself is forwarded so if there is a route. -/
lemma IcmpCrosses.forwardsToRouter {f : IcmpSent} (h : IcmpCrosses sr p len f)
    (hon : sr.natEnabled = true) (hicmp : SrIpHdr.ipP p = ipProtocolIcmp) (hok : Accepted p len)
    (hroute : RoutesTo sr f.ipDst lpm) (hself : isForRouter sr.cfg f.ipDst = true)
    (ctx : Surroundings) (interface : IfName) :
    ∃ sr' q lpm, Forwards ctx sr p len interface sr' q lpm ∧
      isForRouter sr.cfg (SrIpHdr.ipDst q) = true := by
  obtain ⟨sr', q, hforwards, hsent⟩ := h.forwards hon hicmp hok hroute ctx interface
  have hdst : SrIpHdr.ipDst q = f.ipDst := congrArg IcmpSent.ipDst hsent
  exact ⟨sr', q, lpm, hforwards, hdst ▸ hself⟩

/-- A segment that crosses the NAT to the router itself is forwarded so if there is a route. -/
lemma TcpCrosses.forwardsToRouter {f : TcpSent} (h : TcpCrosses sr p len f)
    (hon : sr.natEnabled = true) (htcp : SrIpHdr.ipP p = ipProtocolTcp) (hok : Accepted p len)
    (hroute : RoutesTo sr f.ipDst lpm) (hself : isForRouter sr.cfg f.ipDst = true)
    (ctx : Surroundings) (interface : IfName) :
    ∃ sr' q lpm, Forwards ctx sr p len interface sr' q lpm ∧
      isForRouter sr.cfg (SrIpHdr.ipDst q) = true := by
  obtain ⟨sr', q, hforwards, hsent⟩ := h.forwards hon htcp hok hroute ctx interface
  have hdst : SrIpHdr.ipDst q = f.ipDst := congrArg TcpSent.ipDst hsent
  exact ⟨sr', q, lpm, hforwards, hdst ▸ hself⟩

/-- What comes to the NAT of the segments for the router. -/
lemma TcpReachesNat.of_forRouter (h : isForRouter sr.cfg (SrIpHdr.ipDst p) = true) :
    TcpReachesNat sr.cfg p := .inl h

/-- A packet of one of the kinds is forwarded to the router itself. -/
lemma SelfAddressed.forwards (h : SelfAddressed sr p len) (hok : Accepted p len)
    (hon : sr.natEnabled = true) (ctx : Surroundings) (interface : IfName) :
    ∃ sr' q lpm, Forwards ctx sr p len interface sr' q lpm ∧
      isForRouter sr.cfg (SrIpHdr.ipDst q) = true := by
  cases h with
  | sourcedMessage hicmp hreach hsrc hdst hhas hf hself hroute =>
    subst hf
    exact (IcmpCrosses.outbound hreach hsrc hdst hhas).forwardsToRouter hon hicmp hok hroute hself
      ctx interface
  | mappedMessage hicmp hreach hsrc hlookup hf hself hroute =>
    subst hf
    exact (IcmpCrosses.inbound hreach hsrc hlookup).forwardsToRouter hon hicmp hok hroute hself
      ctx interface
  | inside htcp hfor hsrc hdst hroute =>
    exact (TcpCrosses.inside (.of_forRouter hfor) hsrc hdst).forwardsToRouter hon htcp hok hroute hfor
      ctx interface
  | sourcedSegment htcp hreach hsrc hdst htakes hlen hhas hf hself hroute =>
    subst hf
    exact (TcpCrosses.outbound hreach hsrc hdst htakes hlen hhas).forwardsToRouter hon htcp hok hroute
      hself ctx interface
  | unknownPort htcp hfor hsrc hsyn hlookup hlen hf hself hroute =>
    subst hf
    exact (TcpCrosses.unknown hfor hsrc hsyn hlookup hlen).forwardsToRouter hon htcp hok hroute hself
      ctx interface
  | mappedSegment htcp hfor hsrc hsyn hlookup hconn hlen hf hself hroute =>
    subst hf
    exact (TcpCrosses.inbound hfor hsrc hsyn hlookup hconn hlen).forwardsToRouter hon htcp hok hroute
      hself ctx interface

/-- **A forwarded packet is not addressed to the router**, exactly if the NAT is off, or the packet
fails the tests, or is of none of the kinds. -/
theorem not_selfAddressed_iff (ctx : Surroundings) (sr : SrInstance) (p : ByteMem) (len : UInt32)
    (interface : IfName) :
    (∀ sr' q lpm, Forwards ctx sr p len interface sr' q lpm →
        isForRouter sr.cfg (SrIpHdr.ipDst q) = false) ↔
      ¬ (sr.natEnabled = true ∧ Accepted p len ∧ SelfAddressed sr p len) := by
  constructor
  · rintro h ⟨hon, hok, hself⟩
    obtain ⟨sr', q, lpm, hforwards, hfor⟩ := hself.forwards hok hon ctx interface
    rw [h sr' q lpm hforwards] at hfor
    cases hfor
  · intro h sr' q lpm hforwards
    by_contra hfor
    rw [Bool.not_eq_false] at hfor
    by_cases hpast : PastNat sr p
    · obtain ⟨-, htransit, -, -, rfl⟩ := hforwards.past hpast
      rw [ipDst_decrementTtl, htransit] at hfor
      cases hfor
    · unfold PastNat at hpast
      simp only [Classical.not_imp, not_and_or, not_not] at hpast
      obtain ⟨hon, hicmp | htcp⟩ := hpast
      · obtain ⟨hok, f, hcrosses, hroute, hsent⟩ := hforwards.icmpCrosses hon hicmp
        have hdst : SrIpHdr.ipDst q = f.ipDst := congrArg IcmpSent.ipDst hsent
        exact h ⟨hon, hok, hcrosses.selfAddressed hicmp hroute (hdst ▸ hfor)⟩
      · obtain ⟨hok, f, hcrosses, hroute, hsent⟩ := hforwards.tcpCrosses hon htcp
        have hdst : SrIpHdr.ipDst q = f.ipDst := congrArg TcpSent.ipDst hsent
        exact h ⟨hon, hok, hcrosses.selfAddressed htcp hroute (hdst ▸ hfor)⟩

/-- A segment from the inside host 10.0.0.1 to the inside address of the router is forwarded to that
address. -/
theorem selfAddressed_inside : ∃ sr' q,
    Forwards quietSurroundings (natRouter startState)
      (sealedSegment 64 0x10 0x0a000001 0x0a000101 5000 80).buf
      (sealedSegment 64 0x10 0x0a000001 0x0a000101 5000 80).len innerInterface.name sr' q innerRoute ∧
      SrIpHdr.ipDst q = innerInterface.ip := by
  have hdst : SrIpHdr.ipDst (sealedSegment 64 0x10 0x0a000001 0x0a000101 5000 80).buf =
      innerInterface.ip := ipDst_sealedSegment ..
  have hcrosses : TcpCrosses (natRouter startState)
      (sealedSegment 64 0x10 0x0a000001 0x0a000101 5000 80).buf
      (sealedSegment 64 0x10 0x0a000001 0x0a000101 5000 80).len
      (tcpSent (sealedSegment 64 0x10 0x0a000001 0x0a000101 5000 80).buf
        (ipHeaderLen (sealedSegment 64 0x10 0x0a000001 0x0a000101 5000 80).buf)) := by
    refine .inside (.inl ?_) ?_ ?_
    · rw [hdst]
      decide
    · rw [srcPrivate, ipSrc_sealedSegment]
      decide
    · rw [dstPrivate, hdst]
      decide
  have hroute : RoutesTo (natRouter startState)
      (SrIpHdr.ipDst (sealedSegment 64 0x10 0x0a000001 0x0a000101 5000 80).buf) innerRoute := by
    rw [hdst]
    exact routesTo_natRouter rfl
  obtain ⟨sr', q, hforwards, hsent⟩ := hcrosses.forwards rfl (ipP_sealedSegment ..)
    (accepted_sealedSegment ..) hroute quietSurroundings innerInterface.name
  exact ⟨sr', q, hforwards, (congrArg TcpSent.ipDst hsent).trans hdst⟩

end NatRouter
