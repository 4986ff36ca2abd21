import NatRouter.Router.Passage
import NatRouter.Router.SentFields

/-!
# Crossing the NAT

What is sent on of an ICMP or TCP packet while the NAT is on, told by the packet as it was received and
the tables (`IcmpCrosses`, `TcpCrosses`).  Both name the fields before the last hop; a forwarded packet
has them after it.
-/

namespace NatRouter

open ByteMemory

/-- An ICMP packet comes to the NAT: it is an echo reply to the router whose checksum is right, or in
transit and not on its last hop. -/
def IcmpReachesNat (cfg : NetConfig) (p : ByteMem) (len : UInt32) : Prop :=
  if isForRouter cfg (SrIpHdr.ipDst p) = true then
    IcmpSumOk p len ∧ SrIcmpHdr.icmpType p (ipHeaderLen p) = 0
  else SrIpHdr.ipTtl p ≠ 1

/-- A TCP packet comes to the NAT: it is for the router, or in transit and not on its last hop. -/
def TcpReachesNat (cfg : NetConfig) (p : ByteMem) : Prop :=
  isForRouter cfg (SrIpHdr.ipDst p) = true ∨ SrIpHdr.ipTtl p ≠ 1

/-- With which fields an ICMP packet leaves the NAT. -/
inductive IcmpCrosses (sr : SrInstance) (p : ByteMem) (len : UInt32) : IcmpSent → Prop
  /-- From inside to outside: with the external endpoint as its source. -/
  | outbound {lpm : SrRt} {i : SrIf} (hreach : IcmpReachesNat sr.cfg p len) (hsrc : srcPrivate p)
      (hdst : ¬ dstPrivate p) (hroute : HasRoute sr.cfg (SrIpHdr.ipDst p) lpm i) :
      IcmpCrosses sr p len (icmpWithSource p i.ip (htons (externalId sr.nat (icmpKey p))))
  /-- From outside, with the external id of a mapping: with the internal endpoint as its
  destination. -/
  | inbound {mapping : SrNatMappingCopy} (hreach : IcmpReachesNat sr.cfg p len)
      (hsrc : ¬ srcPrivate p)
      (hlookup : srNatLookupExternal sr.nat (ntohs (SrIcmpHdr.identifier p (ipHeaderLen p)))
        .natMappingIcmp = some mapping) :
      IcmpCrosses sr p len (icmpWithDestination p (htonl mapping.ipInt) (htons mapping.auxInt))
  /-- In transit, left alone by the NAT. -/
  | untouched (hfor : isForRouter sr.cfg (SrIpHdr.ipDst p) = false) (httl : SrIpHdr.ipTtl p ≠ 1)
      (huntouched : IcmpUntouched sr.cfg sr.nat p) :
      IcmpCrosses sr p len (icmpSent p (ipHeaderLen p))

/-- With which fields a TCP packet leaves the NAT. -/
inductive TcpCrosses (sr : SrInstance) (p : ByteMem) (len : UInt32) : TcpSent → Prop
  /-- Between inside hosts. -/
  | inside (hreach : TcpReachesNat sr.cfg p) (hsrc : srcPrivate p) (hdst : dstPrivate p) :
      TcpCrosses sr p len (tcpSent p (ipHeaderLen p))
  /-- From inside to outside: with the external endpoint as its source. -/
  | outbound {lpm : SrRt} {i : SrIf} (hreach : TcpReachesNat sr.cfg p) (hsrc : srcPrivate p)
      (hdst : ¬ dstPrivate p) (htakes : TakesOn sr.nat p)
      (hlen : 0 ≤ tcpSegmentLen len (ipHeaderLen p))
      (hroute : HasRoute sr.cfg
        (routedDst p (ipHeaderLen p) (htons (externalId sr.nat (tcpKey p)))) lpm i) :
      TcpCrosses sr p len (tcpWithSource p len i.ip (htons (externalId sr.nat (tcpKey p))))
  /-- From outside to the router, over a connection of a mapping: with the internal endpoint as its
  destination. -/
  | inbound {mapping : SrNatMappingCopy} (hfor : isForRouter sr.cfg (SrIpHdr.ipDst p) = true)
      (hsrc : ¬ srcPrivate p) (hsyn : ¬ isTcpSyn p)
      (hlookup : srNatLookupExternal sr.nat (ntohs (SrTcpHdr.dstPort p (ipHeaderLen p)))
        .natMappingTcp = some mapping)
      (hconn : FindsConn sr.nat mapping p .externalToInternal)
      (hlen : 0 ≤ tcpSegmentLen len (ipHeaderLen p)) :
      TcpCrosses sr p len (tcpWithDestination p len (htonl mapping.ipInt) (htons mapping.auxInt))
  /-- From outside to the router, to a port that is no external id: with new checksums. -/
  | unknown (hfor : isForRouter sr.cfg (SrIpHdr.ipDst p) = true) (hsrc : ¬ srcPrivate p)
      (hsyn : ¬ isTcpSyn p)
      (hlookup : srNatLookupExternal sr.nat (ntohs (SrTcpHdr.dstPort p (ipHeaderLen p)))
        .natMappingTcp = none)
      (hlen : 0 ≤ tcpSegmentLen len (ipHeaderLen p)) : TcpCrosses sr p len (tcpWithSums p len)
  /-- In transit between outside hosts. -/
  | outside (hfor : isForRouter sr.cfg (SrIpHdr.ipDst p) = false) (httl : SrIpHdr.ipTtl p ≠ 1)
      (hsrc : ¬ srcPrivate p) (hdst : ¬ dstPrivate p) :
      TcpCrosses sr p len (tcpSent p (ipHeaderLen p))

section Icmp

variable {ctx : Surroundings} {sr sr' : SrInstance} {p q : ByteMem} {len : UInt32}
  {interface : IfName} {lpm : SrRt} {f : IcmpSent}

/-- The packet in which a translation results has the fields told. -/
lemma IcmpTranslates.crosses (h : IcmpTranslates sr.cfg sr.nat p q)
    (hreach : IcmpReachesNat sr.cfg p len) : IcmpCrosses sr p len (icmpSent q (ipHeaderLen p)) := by
  cases h with
  | outbound hsrc hdst hroute =>
    rw [icmpSent_icmpSourced]
    exact .outbound hreach hsrc hdst hroute
  | inbound hsrc hlookup =>
    rw [icmpSent_icmpDestined]
    exact .inbound hreach hsrc hlookup

/-- An ICMP packet that is passed on has the fields told. -/
lemma IcmpOnward.crosses (h : IcmpOnward sr.cfg sr.natEnabled sr.nat p len q)
    (hon : sr.natEnabled = true) : IcmpCrosses sr p len (icmpSent q (ipHeaderLen p)) := by
  cases h with
  | reply hfor hsum htype _ htrans =>
    refine htrans.crosses ?_
    rw [IcmpReachesNat, if_pos hfor]
    exact ⟨hsum, htype⟩
  | translated hfor httl _ htrans =>
    refine htrans.crosses ?_
    rw [IcmpReachesNat, hfor, if_neg Bool.false_ne_true]
    exact httl
  | untouched hfor httl _ huntouched => exact .untouched hfor httl huntouched
  | plain _ _ hoff =>
    rw [hon] at hoff
    cases hoff

/-- A translated packet that comes to the NAT is passed on. -/
lemma IcmpTranslates.onward (h : IcmpTranslates sr.cfg sr.nat p q)
    (hreach : IcmpReachesNat sr.cfg p len) (hon : sr.natEnabled = true) :
    IcmpOnward sr.cfg sr.natEnabled sr.nat p len q := by
  unfold IcmpReachesNat at hreach
  cases hfor : isForRouter sr.cfg (SrIpHdr.ipDst p) with
  | true =>
    rw [if_pos hfor] at hreach
    exact .reply hfor hreach.1 hreach.2 hon h
  | false =>
    rw [hfor, if_neg Bool.false_ne_true] at hreach
    exact .translated hfor hreach hon h

/-- An ICMP packet with the fields told is passed on. -/
lemma IcmpCrosses.onward (h : IcmpCrosses sr p len f) (hon : sr.natEnabled = true) :
    ∃ q, IcmpOnward sr.cfg sr.natEnabled sr.nat p len q ∧ icmpSent q (ipHeaderLen p) = f := by
  cases h with
  | outbound hreach hsrc hdst hroute =>
    exact ⟨_, IcmpTranslates.onward (.outbound hsrc hdst hroute) hreach hon, icmpSent_icmpSourced ..⟩
  | inbound hreach hsrc hlookup =>
    exact ⟨_, IcmpTranslates.onward (.inbound hsrc hlookup) hreach hon, icmpSent_icmpDestined ..⟩
  | untouched hfor httl huntouched => exact ⟨p, .untouched hfor httl hon huntouched, rfl⟩

/-- **What is sent on of an ICMP packet** while the NAT is on. -/
lemma Forwards.icmpCrosses (h : Forwards ctx sr p len interface sr' q lpm)
    (hon : sr.natEnabled = true) (hicmp : SrIpHdr.ipP p = ipProtocolIcmp) :
    Accepted p len ∧ ∃ f, IcmpCrosses sr p len f ∧ RoutesTo sr f.ipDst lpm ∧
      icmpSent q (ipHeaderLen p) = f.hop (SrIpHdr.ipHl p) := by
  obtain ⟨hok, q₀, honward, hroute, rfl⟩ := h.icmp hicmp
  exact ⟨hok, _, honward.crosses hon, hroute, icmpSent_decrementTtl q₀ _⟩

/-- An ICMP packet that crosses the NAT and has a route is forwarded so. -/
lemma IcmpCrosses.forwards (h : IcmpCrosses sr p len f) (hon : sr.natEnabled = true)
    (hicmp : SrIpHdr.ipP p = ipProtocolIcmp) (hok : Accepted p len)
    (hroute : RoutesTo sr f.ipDst lpm) (ctx : Surroundings) (interface : IfName) :
    ∃ sr' q, Forwards ctx sr p len interface sr' q lpm ∧
      icmpSent q (ipHeaderLen p) = f.hop (SrIpHdr.ipHl p) := by
  obtain ⟨q₀, honward, rfl⟩ := h.onward hon
  obtain ⟨sr', hforwards⟩ := honward.forwards hicmp hok hroute ctx interface
  exact ⟨sr', _, hforwards, icmpSent_decrementTtl q₀ _⟩

end Icmp

section Tcp

variable {ctx : Surroundings} {sr sr' : SrInstance} {p q : ByteMem} {len : UInt32}
  {interface : IfName} {lpm : SrRt} {f : TcpSent}

/-- A TCP packet that is passed on comes out of the NAT, after a hop, with the fields told. -/
lemma TcpOnward.crosses (h : TcpOnward sr.cfg sr.natEnabled sr.nat p len q) (hok : Accepted p len)
    (hon : sr.natEnabled = true) : ∃ f, TcpCrosses sr p len f ∧ f.ipDst = SrIpHdr.ipDst q ∧
      tcpSent (decrementTtl q) (ipHeaderLen p) = f.hop (SrIpHdr.ipHl p) := by
  have hdst : ∀ f : TcpSent, tcpSent (decrementTtl q) (ipHeaderLen p) = f.hop (SrIpHdr.ipHl p) →
      f.ipDst = SrIpHdr.ipDst q := fun f h =>
    (congrArg TcpSent.ipDst h).symm.trans (ipDst_decrementTtl q)
  cases h with
  | toRouter hfor _ hpasses =>
    cases hpasses with
    | inside hsrc hdst' =>
      exact ⟨_, .inside (.inl hfor) hsrc hdst', hdst _ (tcpSent_kept hok), tcpSent_kept hok⟩
    | outbound hsrc hdst' htakes hlen hroute =>
      exact ⟨_, .outbound (.inl hfor) hsrc hdst' htakes hlen hroute, hdst _ (tcpSent_tcpSourced hok ..),
        tcpSent_tcpSourced hok ..⟩
    | inbound hsrc hsyn hlookup hconn hlen =>
      exact ⟨_, .inbound hfor hsrc hsyn hlookup hconn hlen, hdst _ (tcpSent_tcpDestined hok ..),
        tcpSent_tcpDestined hok ..⟩
    | unknown hsrc hsyn hlookup hlen =>
      exact ⟨_, .unknown hfor hsrc hsyn hlookup hlen, hdst _ (tcpSent_tcpFilled hok),
        tcpSent_tcpFilled hok⟩
  | transit hfor httl _ hpasses =>
    cases hpasses with
    | inside hsrc hdst' =>
      exact ⟨_, .inside (.inr httl) hsrc hdst', hdst _ (tcpSent_kept hok), tcpSent_kept hok⟩
    | outbound hsrc hdst' htakes hlen hroute =>
      exact ⟨_, .outbound (.inr httl) hsrc hdst' htakes hlen hroute, hdst _ (tcpSent_tcpSourced hok ..),
        tcpSent_tcpSourced hok ..⟩
    | outside hsrc hdst' =>
      exact ⟨_, .outside hfor httl hsrc hdst', hdst _ (tcpSent_kept hok), tcpSent_kept hok⟩
  | plain _ _ hoff =>
    rw [hon] at hoff
    cases hoff

/-- A segment that comes to the NAT and passes whether it is for the router or not is passed on. -/
lemma TcpReachesNat.onward (h : TcpReachesNat sr.cfg p) (hon : sr.natEnabled = true)
    (hpasses : ∀ isToNat, TcpPasses sr.cfg sr.nat p len isToNat q) :
    TcpOnward sr.cfg sr.natEnabled sr.nat p len q := by
  cases hfor : isForRouter sr.cfg (SrIpHdr.ipDst p) with
  | true => exact .toRouter hfor hon (hpasses true)
  | false =>
    refine .transit hfor (h.resolve_left ?_) hon (hpasses false)
    rw [hfor]
    exact Bool.false_ne_true

/-- A TCP packet with the fields told is passed on. -/
lemma TcpCrosses.onward (h : TcpCrosses sr p len f) (hok : Accepted p len)
    (hon : sr.natEnabled = true) : ∃ q, TcpOnward sr.cfg sr.natEnabled sr.nat p len q ∧
      tcpSent (decrementTtl q) (ipHeaderLen p) = f.hop (SrIpHdr.ipHl p) := by
  cases h with
  | inside hreach hsrc hdst =>
    exact ⟨p, hreach.onward hon fun _ => .inside hsrc hdst, tcpSent_kept hok⟩
  | outbound hreach hsrc hdst htakes hlen hroute =>
    exact ⟨_, hreach.onward hon fun _ => .outbound hsrc hdst htakes hlen hroute,
      tcpSent_tcpSourced hok ..⟩
  | inbound hfor hsrc hsyn hlookup hconn hlen =>
    exact ⟨_, .toRouter hfor hon (.inbound hsrc hsyn hlookup hconn hlen), tcpSent_tcpDestined hok ..⟩
  | unknown hfor hsrc hsyn hlookup hlen =>
    exact ⟨_, .toRouter hfor hon (.unknown hsrc hsyn hlookup hlen), tcpSent_tcpFilled hok⟩
  | outside hfor httl hsrc hdst =>
    exact ⟨p, .transit hfor httl hon (.outside hsrc hdst), tcpSent_kept hok⟩

/-- **What is sent on of a TCP packet** while the NAT is on. -/
lemma Forwards.tcpCrosses (h : Forwards ctx sr p len interface sr' q lpm)
    (hon : sr.natEnabled = true) (htcp : SrIpHdr.ipP p = ipProtocolTcp) :
    Accepted p len ∧ ∃ f, TcpCrosses sr p len f ∧ RoutesTo sr f.ipDst lpm ∧
      tcpSent q (ipHeaderLen p) = f.hop (SrIpHdr.ipHl p) := by
  obtain ⟨hok, q₀, honward, hroute, rfl⟩ := h.tcp htcp
  obtain ⟨f, hcrosses, hdst, hsent⟩ := honward.crosses hok hon
  exact ⟨hok, f, hcrosses, hdst ▸ hroute, hsent⟩

/-- A TCP packet that crosses the NAT and has a route is forwarded so. -/
lemma TcpCrosses.forwards (h : TcpCrosses sr p len f) (hon : sr.natEnabled = true)
    (htcp : SrIpHdr.ipP p = ipProtocolTcp) (hok : Accepted p len)
    (hroute : RoutesTo sr f.ipDst lpm) (ctx : Surroundings) (interface : IfName) :
    ∃ sr' q, Forwards ctx sr p len interface sr' q lpm ∧
      tcpSent q (ipHeaderLen p) = f.hop (SrIpHdr.ipHl p) := by
  obtain ⟨q₀, honward, hsent⟩ := h.onward hok hon
  have hdst : SrIpHdr.ipDst q₀ = f.ipDst :=
    (ipDst_decrementTtl q₀).symm.trans (congrArg TcpSent.ipDst hsent)
  obtain ⟨sr', hforwards⟩ := honward.forwards htcp hok (hdst ▸ hroute) ctx interface
  exact ⟨sr', _, hforwards, hsent⟩

end Tcp

/-! ### Past the NAT -/

section Past

variable {ctx : Surroundings} {sr sr' : SrInstance} {p q : ByteMem} {len : UInt32}
  {interface : IfName} {lpm : SrRt}

/-- A packet that the NAT does not look at: it is off, or the packet carries neither ICMP nor TCP. -/
def PastNat (sr : SrInstance) (p : ByteMem) : Prop :=
  sr.natEnabled = true → SrIpHdr.ipP p ≠ ipProtocolIcmp ∧ SrIpHdr.ipP p ≠ ipProtocolTcp

/-- A packet past the NAT is sent on in transit only, with one hop less. -/
lemma Forwards.past (h : Forwards ctx sr p len interface sr' q lpm) (hpast : PastNat sr p) :
    Accepted p len ∧ isForRouter sr.cfg (SrIpHdr.ipDst p) = false ∧ SrIpHdr.ipTtl p ≠ 1 ∧
      RoutesTo sr (SrIpHdr.ipDst p) lpm ∧ q = decrementTtl p := by
  by_cases hicmp : SrIpHdr.ipP p = ipProtocolIcmp
  · have hoff : ¬ sr.natEnabled = true := fun hon => (hpast hon).1 hicmp
    obtain ⟨hok, q₀, honward, hroute, rfl⟩ := h.icmp hicmp
    cases honward with
    | reply _ _ _ hon => exact absurd hon hoff
    | translated _ _ hon => exact absurd hon hoff
    | untouched _ _ hon => exact absurd hon hoff
    | plain hfor httl => exact ⟨hok, hfor, httl, hroute, rfl⟩
  · by_cases htcp : SrIpHdr.ipP p = ipProtocolTcp
    · have hoff : ¬ sr.natEnabled = true := fun hon => (hpast hon).2 htcp
      obtain ⟨hok, q₀, honward, hroute, rfl⟩ := h.tcp htcp
      cases honward with
      | toRouter _ hon => exact absurd hon hoff
      | transit _ _ hon => exact absurd hon hoff
      | plain hfor httl => exact ⟨hok, hfor, httl, hroute, rfl⟩
    · obtain ⟨hok, honward, hroute, rfl⟩ := h.plain hicmp htcp
      exact ⟨hok, honward.transit, honward.ttl, hroute, rfl⟩

/-- A packet past the NAT in transit, with a route and not on its last hop, is sent on. -/
lemma PastNat.forwards (hpast : PastNat sr p) (hok : Accepted p len)
    (hfor : isForRouter sr.cfg (SrIpHdr.ipDst p) = false) (httl : SrIpHdr.ipTtl p ≠ 1)
    (hroute : RoutesTo sr (SrIpHdr.ipDst p) lpm) (ctx : Surroundings) (interface : IfName) :
    ∃ sr', Forwards ctx sr p len interface sr' (decrementTtl p) lpm := by
  by_cases hicmp : SrIpHdr.ipP p = ipProtocolIcmp
  · have hoff : sr.natEnabled = false := Bool.eq_false_iff.mpr fun hon => (hpast hon).1 hicmp
    exact IcmpOnward.forwards (.plain hfor httl hoff) hicmp hok hroute ctx interface
  · by_cases htcp : SrIpHdr.ipP p = ipProtocolTcp
    · have hoff : sr.natEnabled = false := Bool.eq_false_iff.mpr fun hon => (hpast hon).2 htcp
      exact TcpOnward.forwards (.plain hfor httl hoff) htcp hok hroute ctx interface
    · exact PlainOnward.forwards ⟨hicmp, htcp, hfor, httl⟩ hok hroute ctx interface

end Past

end NatRouter
