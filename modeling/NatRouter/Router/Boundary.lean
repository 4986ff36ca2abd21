import NatRouter.Nat.Expiry
import NatRouter.Router.Crossing

/-!
# The boundary between inside and outside

What an inside and an outside host can see of each other through the router with the NAT switched on.
An outside host should reach an inside one only through a mapping, no private address should get
outside, and what passes between outside hosts should pass unchanged.

`nat_handle_icmp` does not know whether a packet is for the router or in transit, and `is_private_ip`
knows only a part of the private addresses.  Nothing tests that the header is complete: behind an `ip_hl`
below 5 a translation, a checksum or a hop may change a field that another one shares its bytes with.
-/

namespace NatRouter

open ByteMemory Interleaving

/-! ### Private addresses -/

/-- The private address ranges that the comments of `is_private_ip` list, in host order. -/
def IsReservedIp (ip : UInt32) : Prop :=
  (0x0a000000 ≤ ip ∧ ip ≤ 0x0affffff) ∨ (0xac100000 ≤ ip ∧ ip ≤ 0xac1fffff) ∨
    (0xc0a80000 ≤ ip ∧ ip ≤ 0xc0a8ffff)

/-- Masking with all ones but the last `n` takes away the remainder by `2 ^ n`. -/
lemma toNat_and_mask (x : UInt32) {m : UInt32} {n : ℕ} (hm : (~~~m).toNat = 2 ^ n - 1) :
    (x &&& m).toNat + x.toNat % 2 ^ n = x.toNat := by
  have hdisjoint : (x.toBitVec &&& m.toBitVec) &&& (x.toBitVec &&& ~~~m.toBitVec) = 0 := by
    ext i hi
    simp only [BitVec.getElem_and, BitVec.getElem_not]
    cases x.toBitVec[i] <;> cases m.toBitVec[i] <;> simp
  have hjoin : (x.toBitVec &&& m.toBitVec) ||| (x.toBitVec &&& ~~~m.toBitVec) = x.toBitVec := by
    ext i hi
    simp only [BitVec.getElem_or, BitVec.getElem_and, BitVec.getElem_not]
    cases x.toBitVec[i] <;> cases m.toBitVec[i] <;> rfl
  have hrest : (x.toBitVec &&& ~~~m.toBitVec).toNat = x.toNat % 2 ^ n := by
    rw [BitVec.toNat_and, ← Nat.and_two_pow_sub_one_eq_mod, ← hm]
    rfl
  have hsum := congrArg BitVec.toNat ((BitVec.add_eq_or_of_and_eq_zero _ _ hdisjoint).trans hjoin)
  rw [BitVec.toNat_add_of_and_eq_zero hdisjoint, hrest] at hsum
  exact hsum

/-- The addresses that are equal to `v` under a mask. -/
lemma and_mask_eq_iff {x m v : UInt32} {n : ℕ} (hm : (~~~m).toNat = 2 ^ n - 1)
    (hv : v.toNat % 2 ^ n = 0) :
    x &&& m = v ↔ v.toNat ≤ x.toNat ∧ x.toNat < v.toNat + 2 ^ n := by
  have hmask := toNat_and_mask x hm
  have hpos : 0 < 2 ^ n := Nat.two_pow_pos n
  have hlt := Nat.mod_lt x.toNat hpos
  rw [← UInt32.toNat_inj]
  constructor
  · intro h
    omega
  · rintro ⟨hlo, hhi⟩
    have hv' := Nat.div_add_mod v.toNat (2 ^ n)
    have hx' := Nat.div_add_mod x.toNat (2 ^ n)
    have hdiv : x.toNat / 2 ^ n = v.toNat / 2 ^ n := by
      have hle : v.toNat / 2 ^ n ≤ x.toNat / 2 ^ n := Nat.div_le_div_right hlo
      have hge : x.toNat / 2 ^ n < v.toNat / 2 ^ n + 1 := by
        rw [Nat.div_lt_iff_lt_mul hpos, Nat.add_mul, one_mul, Nat.mul_comm]
        omega
      omega
    rw [hdiv] at hx'
    omega

/-- What `is_private_ip` takes for private: of the second range it knows a sixteenth. -/
lemma isPrivateIp_iff {ip : UInt32} : isPrivateIp ip = true ↔
    (0x0a000000 ≤ ip ∧ ip ≤ 0x0affffff) ∨ (0xac100000 ≤ ip ∧ ip ≤ 0xac10ffff) ∨
      (0xc0a80000 ≤ ip ∧ ip ≤ 0xc0a8ffff) := by
  have hclassA : ip &&& 0xff000000 = 0x0a000000 ↔ _ :=
    @and_mask_eq_iff _ _ _ 24 (by decide) (by decide)
  have hclassB : ip &&& 0xffff0000 = 0xac100000 ↔ _ :=
    @and_mask_eq_iff _ _ _ 16 (by decide) (by decide)
  have hclassC : ip &&& 0xffff0000 = 0xc0a80000 ↔ _ :=
    @and_mask_eq_iff _ _ _ 16 (by decide) (by decide)
  simp only [UInt32.reduceToNat] at hclassA hclassB hclassC
  simp only [isPrivateIp, hclassA, hclassB, hclassC, UInt32.le_iff_toNat_le, UInt32.reduceToNat]
  split_ifs
  · exact iff_of_true rfl (by omega)
  · exact iff_of_true rfl (by omega)
  · exact iff_of_true rfl (by omega)
  · exact iff_of_false (by decide) (by omega)

/-- What `is_private_ip` takes for private is private. -/
lemma isReservedIp_of_isPrivateIp {ip : UInt32} (h : isPrivateIp ip = true) : IsReservedIp ip := by
  rw [isPrivateIp_iff] at h
  unfold IsReservedIp
  simp only [UInt32.le_iff_toNat_le, UInt32.reduceToNat] at h ⊢
  omega

/-- The private addresses from 172.17.0.0 to 172.31.255.255, which `is_private_ip` does not know. -/
def IsMissedIp (ip : UInt32) : Prop := 0xac110000 ≤ ip ∧ ip ≤ 0xac1fffff

/-- The private addresses that `is_private_ip` does not take for private. -/
lemma isMissedIp_iff {ip : UInt32} :
    IsMissedIp ip ↔ IsReservedIp ip ∧ ¬ isPrivateIp ip = true := by
  rw [isPrivateIp_iff]
  unfold IsReservedIp IsMissedIp
  simp only [UInt32.le_iff_toNat_le, UInt32.reduceToNat]
  omega

/-! ### Reaching inside hosts -/

/-- Some mapping has the given internal endpoint, in network byte order. -/
def HasMappingTo (s : SrNat) (dst : UInt32) (aux : UInt16) : Prop :=
  ∃ m ∈ s.mappings, htonl m.ipInt = dst ∧ htons m.auxInt = aux

/-- The mapping that an external id belongs to is in the table. -/
lemma hasMappingTo_of_lookup {s : SrNat} {auxExt : UInt16} {type : SrNatMappingType}
    {mapping : SrNatMappingCopy} (h : srNatLookupExternal s auxExt type = some mapping) :
    HasMappingTo s (htonl mapping.ipInt) (htons mapping.auxInt) := by
  obtain ⟨m, hfind, rfl⟩ := Option.map_eq_some_iff.mp h
  exact ⟨m, List.mem_of_find?_eq_some hfind, rfl, rfl⟩

/-- An address as the packet carries it is private. -/
def isPrivateNet (ip : UInt32) : Bool := isPrivateIp (ntohl ip)

/-- The packets from outside that get to an inside address without being entitled to, kind by kind,
each with a route there. -/
inductive Intrudes (sr : SrInstance) (p : ByteMem) (len : UInt32) : Prop
  /-- An ICMP packet with the external id of a mapping that is in transit or broadcast, or whose short
  header makes of the internal endpoint one without a mapping. -/
  | mappedMessage {mapping : SrNatMappingCopy} {lpm : SrRt} {f : IcmpSent}
      (hicmp : SrIpHdr.ipP p = ipProtocolIcmp) (hreach : IcmpReachesNat sr.cfg p len)
      (hlookup : srNatLookupExternal sr.nat (ntohs (SrIcmpHdr.identifier p (ipHeaderLen p)))
        .natMappingIcmp = some mapping)
      (hf : f = icmpWithDestination p (htonl mapping.ipInt) (htons mapping.auxInt))
      (hprivate : isPrivateNet f.ipDst = true)
      (hnot : isRouterIp sr.cfg (SrIpHdr.ipDst p) = false ∨
        SrIpHdr.ipHl p < 5 ∧ ¬ HasMappingTo sr.nat f.ipDst (f.hop (SrIpHdr.ipHl p)).identifier)
      (hroute : RoutesTo sr f.ipDst lpm)
  /-- An ICMP packet in transit that is addressed to an inside host: its refusal is ignored. -/
  | transitPrivate {lpm : SrRt} (hicmp : SrIpHdr.ipP p = ipProtocolIcmp)
      (hfor : isForRouter sr.cfg (SrIpHdr.ipDst p) = false) (httl : SrIpHdr.ipTtl p ≠ 1)
      (hlookup : srNatLookupExternal sr.nat (ntohs (SrIcmpHdr.identifier p (ipHeaderLen p)))
        .natMappingIcmp = none)
      (hprivate : isPrivateNet (SrIpHdr.ipDst p) = true)
      (hroute : RoutesTo sr (SrIpHdr.ipDst p) lpm)
  /-- A segment over a connection of a mapping that is broadcast, or whose short header makes of the
  internal endpoint one without a mapping. -/
  | mappedSegment {mapping : SrNatMappingCopy} {lpm : SrRt} {f : TcpSent}
      (htcp : SrIpHdr.ipP p = ipProtocolTcp)
      (hfor : isForRouter sr.cfg (SrIpHdr.ipDst p) = true) (hsyn : ¬ isTcpSyn p)
      (hlookup : srNatLookupExternal sr.nat (ntohs (SrTcpHdr.dstPort p (ipHeaderLen p)))
        .natMappingTcp = some mapping)
      (hconn : FindsConn sr.nat mapping p .externalToInternal)
      (hlen : 0 ≤ tcpSegmentLen len (ipHeaderLen p))
      (hf : f = tcpWithDestination p len (htonl mapping.ipInt) (htons mapping.auxInt))
      (hprivate : isPrivateNet f.ipDst = true)
      (hnot : isRouterIp sr.cfg (SrIpHdr.ipDst p) = false ∨
        SrIpHdr.ipHl p < 5 ∧ ¬ HasMappingTo sr.nat f.ipDst f.dstPort)
      (hroute : RoutesTo sr f.ipDst lpm)
  /-- A segment that opens nothing, to an inside address of the router and a port without a mapping: it
  is sent on to that address. -/
  | ownAddress {lpm : SrRt} {f : TcpSent} (htcp : SrIpHdr.ipP p = ipProtocolTcp)
      (hfor : isForRouter sr.cfg (SrIpHdr.ipDst p) = true) (hsyn : ¬ isTcpSyn p)
      (hlookup : srNatLookupExternal sr.nat (ntohs (SrTcpHdr.dstPort p (ipHeaderLen p)))
        .natMappingTcp = none)
      (hlen : 0 ≤ tcpSegmentLen len (ipHeaderLen p)) (hf : f = tcpWithSums p len)
      (hprivate : isPrivateNet f.ipDst = true)
      (hnot : ¬ (HasMappingTo sr.nat f.ipDst (SrTcpHdr.dstPort p (ipHeaderLen p)) ∧
        isRouterIp sr.cfg (SrIpHdr.ipDst p) = true))
      (hroute : RoutesTo sr f.ipDst lpm)

/-- The number by which an inside host tells the packets it gets apart: the identifier of an ICMP
packet, the destination port of a TCP packet. -/
def destinationId (p q : ByteMem) : UInt16 :=
  if SrIpHdr.ipP p = ipProtocolIcmp then SrIcmpHdr.identifier q (ipHeaderLen p)
  else SrTcpHdr.dstPort q (ipHeaderLen p)

section Reaching

variable {ctx : Surroundings} {sr sr' : SrInstance} {p q : ByteMem} {len : UInt32}
  {interface : IfName} {lpm : SrRt}

/-- The packet that was made of `p` reached an inside host as it should: through a mapping to its
destination, and by an address of the router. -/
def Entitled (sr : SrInstance) (p q : ByteMem) : Prop :=
  HasMappingTo sr.nat (SrIpHdr.ipDst q) (destinationId p q) ∧
    isRouterIp sr.cfg (SrIpHdr.ipDst p) = true

/-- An ICMP packet sent with the fields told is entitled to its destination if they name a mapping. -/
lemma entitled_icmp_iff {f : IcmpSent} (hicmp : SrIpHdr.ipP p = ipProtocolIcmp)
    (hsent : icmpSent q (ipHeaderLen p) = f.hop (SrIpHdr.ipHl p)) : Entitled sr p q ↔
      HasMappingTo sr.nat f.ipDst (f.hop (SrIpHdr.ipHl p)).identifier ∧
        isRouterIp sr.cfg (SrIpHdr.ipDst p) = true := by
  have hdst : SrIpHdr.ipDst q = f.ipDst := congrArg IcmpSent.ipDst hsent
  have hid : SrIcmpHdr.identifier q (ipHeaderLen p) = (f.hop (SrIpHdr.ipHl p)).identifier :=
    congrArg IcmpSent.identifier hsent
  rw [Entitled, destinationId, if_pos hicmp, hdst, hid]

/-- A TCP packet sent with the fields told is entitled to its destination if they name a mapping. -/
lemma entitled_tcp_iff {f : TcpSent} (htcp : SrIpHdr.ipP p = ipProtocolTcp)
    (hsent : tcpSent q (ipHeaderLen p) = f.hop (SrIpHdr.ipHl p)) : Entitled sr p q ↔
      HasMappingTo sr.nat f.ipDst f.dstPort ∧ isRouterIp sr.cfg (SrIpHdr.ipDst p) = true := by
  have hdst : SrIpHdr.ipDst q = f.ipDst := congrArg TcpSent.ipDst hsent
  have hport : SrTcpHdr.dstPort q (ipHeaderLen p) = f.dstPort := congrArg TcpSent.dstPort hsent
  have hicmp : ¬ SrIpHdr.ipP p = ipProtocolIcmp := by
    rw [htcp]
    decide
  rw [Entitled, destinationId, if_neg hicmp, hdst, hport]

/-- A message that crosses the NAT to an inside address is entitled to it, or intrudes. -/
lemma IcmpCrosses.intrudes {f : IcmpSent} (h : IcmpCrosses sr p len f)
    (hicmp : SrIpHdr.ipP p = ipProtocolIcmp) (hsrc : ¬ srcPrivate p)
    (hroute : RoutesTo sr f.ipDst lpm) (hprivate : isPrivateNet f.ipDst = true)
    (hnot : ¬ (HasMappingTo sr.nat f.ipDst (f.hop (SrIpHdr.ipHl p)).identifier ∧
      isRouterIp sr.cfg (SrIpHdr.ipDst p) = true)) : Intrudes sr p len := by
  cases h with
  | outbound _ hsrc' => exact absurd hsrc' hsrc
  | inbound hreach _ hlookup =>
    refine .mappedMessage hicmp hreach hlookup rfl hprivate ?_ hroute
    cases hown : isRouterIp sr.cfg (SrIpHdr.ipDst p) with
    | false => exact .inl rfl
    | true =>
      have hnone := fun h => hnot ⟨h, hown⟩
      refine .inr ⟨?_, hnone⟩
      by_contra hle
      rw [icmpWithDestination_of_le (Nat.not_lt.mp hle), IcmpSent.hop_of_le _ (Nat.not_lt.mp hle)]
        at hnone
      exact hnone (hasMappingTo_of_lookup hlookup)
  | untouched hfor httl huntouched =>
    cases huntouched with
    | inside hsrc' => exact absurd hsrc' hsrc
    | unroutable hsrc' => exact absurd hsrc' hsrc
    | unknown _ hlookup => exact .transitPrivate hicmp hfor httl hlookup hprivate hroute

/-- A segment that crosses the NAT to an inside address is entitled to it, or intrudes. -/
lemma TcpCrosses.intrudes {f : TcpSent} (h : TcpCrosses sr p len f)
    (htcp : SrIpHdr.ipP p = ipProtocolTcp) (hsrc : ¬ srcPrivate p)
    (hroute : RoutesTo sr f.ipDst lpm) (hprivate : isPrivateNet f.ipDst = true)
    (hnot : ¬ (HasMappingTo sr.nat f.ipDst f.dstPort ∧
      isRouterIp sr.cfg (SrIpHdr.ipDst p) = true)) : Intrudes sr p len := by
  cases h with
  | inside _ hsrc' => exact absurd hsrc' hsrc
  | outbound _ hsrc' => exact absurd hsrc' hsrc
  | inbound hfor _ hsyn hlookup hconn hlen =>
    refine .mappedSegment htcp hfor hsyn hlookup hconn hlen rfl hprivate ?_ hroute
    cases hown : isRouterIp sr.cfg (SrIpHdr.ipDst p) with
    | false => exact .inl rfl
    | true =>
      have hnone := fun h => hnot ⟨h, hown⟩
      refine .inr ⟨?_, hnone⟩
      by_contra hle
      rw [tcpWithDestination_of_le (Nat.not_lt.mp hle)] at hnone
      exact hnone (hasMappingTo_of_lookup hlookup)
  | unknown hfor _ hsyn hlookup hlen =>
    exact .ownAddress htcp hfor hsyn hlookup hlen rfl hprivate hnot hroute
  | outside _ _ _ hdst => exact absurd hprivate hdst

/-- A message that crosses the NAT to an inside address it is not entitled to is forwarded there. -/
lemma IcmpCrosses.reaches {f : IcmpSent} (h : IcmpCrosses sr p len f) (hon : sr.natEnabled = true)
    (hicmp : SrIpHdr.ipP p = ipProtocolIcmp) (hok : Accepted p len)
    (hroute : RoutesTo sr f.ipDst lpm) (hprivate : isPrivateNet f.ipDst = true)
    (hnot : isRouterIp sr.cfg (SrIpHdr.ipDst p) = false ∨
      ¬ HasMappingTo sr.nat f.ipDst (f.hop (SrIpHdr.ipHl p)).identifier)
    (ctx : Surroundings) (interface : IfName) :
    ∃ sr' q lpm, Forwards ctx sr p len interface sr' q lpm ∧ dstPrivate q ∧ ¬ Entitled sr p q := by
  obtain ⟨sr', q, hforwards, hsent⟩ := h.forwards hon hicmp hok hroute ctx interface
  have hdst : SrIpHdr.ipDst q = f.ipDst := congrArg IcmpSent.ipDst hsent
  refine ⟨sr', q, lpm, hforwards, ?_, ?_⟩
  · rw [dstPrivate, hdst]
    exact hprivate
  · rw [entitled_icmp_iff hicmp hsent]
    rintro ⟨hmapping, hown⟩
    rcases hnot with hnot | hnone
    · rw [hown] at hnot
      cases hnot
    · exact hnone hmapping

/-- A segment that crosses the NAT to an inside address it is not entitled to is forwarded there. -/
lemma TcpCrosses.reaches {f : TcpSent} (h : TcpCrosses sr p len f) (hon : sr.natEnabled = true)
    (htcp : SrIpHdr.ipP p = ipProtocolTcp) (hok : Accepted p len)
    (hroute : RoutesTo sr f.ipDst lpm) (hprivate : isPrivateNet f.ipDst = true)
    (hnot : ¬ (HasMappingTo sr.nat f.ipDst f.dstPort ∧
      isRouterIp sr.cfg (SrIpHdr.ipDst p) = true))
    (ctx : Surroundings) (interface : IfName) :
    ∃ sr' q lpm, Forwards ctx sr p len interface sr' q lpm ∧ dstPrivate q ∧ ¬ Entitled sr p q := by
  obtain ⟨sr', q, hforwards, hsent⟩ := h.forwards hon htcp hok hroute ctx interface
  have hdst : SrIpHdr.ipDst q = f.ipDst := congrArg TcpSent.ipDst hsent
  refine ⟨sr', q, lpm, hforwards, ?_, ?_⟩
  · rw [dstPrivate, hdst]
    exact hprivate
  · rw [entitled_tcp_iff htcp hsent]
    exact hnot

/-- What is forwarded of a packet that intrudes is not entitled to its destination. -/
lemma Intrudes.forwards (h : Intrudes sr p len) (hon : sr.natEnabled = true) (hsrc : ¬ srcPrivate p)
    (hok : Accepted p len) (ctx : Surroundings) (interface : IfName) :
    ∃ sr' q lpm, Forwards ctx sr p len interface sr' q lpm ∧ dstPrivate q ∧ ¬ Entitled sr p q := by
  cases h with
  | mappedMessage hicmp hreach hlookup hf hprivate hnot hroute =>
    subst hf
    exact (IcmpCrosses.inbound hreach hsrc hlookup).reaches hon hicmp hok hroute hprivate
      (hnot.imp_right And.right) ctx interface
  | transitPrivate hicmp hfor httl hlookup hprivate hroute =>
    have hown : isRouterIp sr.cfg (SrIpHdr.ipDst p) = false := by
      rw [isForRouter, Bool.or_eq_false_iff] at hfor
      exact hfor.1
    exact (IcmpCrosses.untouched hfor httl (.unknown hsrc hlookup)).reaches hon hicmp hok hroute
      hprivate (.inl hown) ctx interface
  | mappedSegment htcp hfor hsyn hlookup hconn hlen hf hprivate hnot hroute =>
    subst hf
    refine (TcpCrosses.inbound hfor hsrc hsyn hlookup hconn hlen).reaches hon htcp hok hroute hprivate
      ?_ ctx interface
    rintro ⟨hmapping, hown⟩
    rcases hnot with hnot | ⟨-, hnone⟩
    · rw [hown] at hnot
      cases hnot
    · exact hnone hmapping
  | ownAddress htcp hfor hsyn hlookup hlen hf hprivate hnot hroute =>
    subst hf
    exact (TcpCrosses.unknown hfor hsrc hsyn hlookup hlen).reaches hon htcp hok hroute hprivate hnot
      ctx interface

/-- **An inside host is reached through a mapping only**, and by an address of the router only,
exactly if the packet from outside fails the tests or does not intrude. -/
theorem entitled_iff (ctx : Surroundings) {sr : SrInstance} {p : ByteMem} (len : UInt32)
    (interface : IfName) (hon : sr.natEnabled = true) (hsrc : ¬ srcPrivate p)
    (hproto : SrIpHdr.ipP p = ipProtocolIcmp ∨ SrIpHdr.ipP p = ipProtocolTcp) :
    (∀ sr' q lpm, Forwards ctx sr p len interface sr' q lpm → dstPrivate q → Entitled sr p q) ↔
      ¬ (Accepted p len ∧ Intrudes sr p len) := by
  constructor
  · rintro h ⟨hok, hintrudes⟩
    obtain ⟨sr', q, lpm, hforwards, hprivate, hnot⟩ :=
      hintrudes.forwards hon hsrc hok ctx interface
    exact hnot (h sr' q lpm hforwards hprivate)
  · intro h sr' q lpm hforwards hprivate
    rcases hproto with hicmp | htcp
    · obtain ⟨hok, f, hcrosses, hroute, hsent⟩ := hforwards.icmpCrosses hon hicmp
      have hdst : SrIpHdr.ipDst q = f.ipDst := congrArg IcmpSent.ipDst hsent
      rw [dstPrivate, hdst] at hprivate
      rw [entitled_icmp_iff hicmp hsent]
      by_contra hnot
      exact h ⟨hok, hcrosses.intrudes hicmp hsrc hroute hprivate hnot⟩
    · obtain ⟨hok, f, hcrosses, hroute, hsent⟩ := hforwards.tcpCrosses hon htcp
      have hdst : SrIpHdr.ipDst q = f.ipDst := congrArg TcpSent.ipDst hsent
      rw [dstPrivate, hdst] at hprivate
      rw [entitled_tcp_iff htcp hsent]
      by_contra hnot
      exact h ⟨hok, hcrosses.intrudes htcp hsrc hroute hprivate hnot⟩

end Reaching

/-- An echo request between the outside hosts 8.8.4.4 and 8.8.8.8 whose identifier happens to be the
external id of the mapping of 10.0.0.1. -/
def strayRequest : IpPacket := sealedMessage 64 8 0x08080404 0x08080808 pingMapping.auxExt

/-- The request comes from outside. -/
lemma not_srcPrivate_strayRequest : ¬ srcPrivate strayRequest.buf := by
  rw [srcPrivate, strayRequest, ipSrc_sealedMessage]
  decide

/-- The request is not for the router. -/
lemma isForRouter_strayRequest :
    isForRouter (natRouter pingState).cfg (SrIpHdr.ipDst strayRequest.buf) = false := by
  rw [strayRequest, ipDst_sealedMessage]
  decide

/-- The identifier of the request is found in the table. -/
lemma lookupExternal_strayRequest : srNatLookupExternal pingState
    (ntohs (SrIcmpHdr.identifier strayRequest.buf (ipHeaderLen strayRequest.buf)))
    .natMappingIcmp = some pingMapping.copy := by
  rw [strayRequest, ipHeaderLen_sealedMessage, identifier_sealedMessage, ntohs_htons]
  simp [srNatLookupExternal, pingState, srNatInsertMapping, pingMapping]

/-- The request comes to the NAT. -/
lemma icmpReachesNat_strayRequest :
    IcmpReachesNat (natRouter pingState).cfg strayRequest.buf strayRequest.len := by
  rw [IcmpReachesNat, isForRouter_strayRequest, if_neg Bool.false_ne_true, strayRequest,
    ipTtl_sealedMessage]
  decide

/-- The destination that the request gets. -/
lemma ipDst_icmpWithDestination_strayRequest (ip : UInt32) (id : UInt16) :
    (icmpWithDestination strayRequest.buf ip id).ipDst = ip := by
  rw [icmpWithDestination_of_le strayRequest.headerLen]

/-- The request intrudes. -/
lemma intrudes_strayRequest : Intrudes (natRouter pingState) strayRequest.buf strayRequest.len := by
  have hdst := ipDst_icmpWithDestination_strayRequest (htonl pingMapping.ipInt)
    (htons pingMapping.auxInt)
  have hroute : RoutesTo (natRouter pingState) (icmpWithDestination strayRequest.buf
      (htonl pingMapping.ipInt) (htons pingMapping.auxInt)).ipDst innerRoute := by
    rw [hdst]
    exact routesTo_natRouter rfl
  refine .mappedMessage (ipP_sealedMessage ..) icmpReachesNat_strayRequest lookupExternal_strayRequest
    rfl ?_ (.inl ?_) hroute
  · exact hdst ▸ (by decide)
  · rw [strayRequest, ipDst_sealedMessage]
    decide

/-- The theorem for the request. -/
theorem entitled_iff_strayRequest :
    ¬ ∀ sr' q lpm, Forwards quietSurroundings (natRouter pingState) strayRequest.buf strayRequest.len
      outerInterface.name sr' q lpm → dstPrivate q →
        Entitled (natRouter pingState) strayRequest.buf q :=
  fun h => (entitled_iff quietSurroundings _ outerInterface.name rfl not_srcPrivate_strayRequest
    (.inl (ipP_sealedMessage ..))).mp h ⟨accepted_sealedMessage .., intrudes_strayRequest⟩

/-- The request, which is not for the router, reaches the inside host. -/
theorem insideHost_reached : ∃ sr' q lpm,
    Forwards quietSurroundings (natRouter pingState) strayRequest.buf strayRequest.len
      outerInterface.name sr' q lpm ∧
      dstPrivate q ∧ ¬ Entitled (natRouter pingState) strayRequest.buf q :=
  intrudes_strayRequest.forwards rfl not_srcPrivate_strayRequest (accepted_sealedMessage ..)
    quietSurroundings outerInterface.name

/-! ### Traffic between outside hosts -/

/-- The packet `q` has the addresses, and the ports or the identifier, of `p`. -/
structure Unchanged (p q : ByteMem) : Prop where
  /-- The source address. -/
  ipSrc : SrIpHdr.ipSrc q = SrIpHdr.ipSrc p
  /-- The destination address. -/
  ipDst : SrIpHdr.ipDst q = SrIpHdr.ipDst p
  /-- The identifier of an ICMP packet. -/
  identifier : SrIpHdr.ipP p = ipProtocolIcmp →
    SrIcmpHdr.identifier q (ipHeaderLen p) = SrIcmpHdr.identifier p (ipHeaderLen p)
  /-- The source port of a TCP packet. -/
  srcPort : SrIpHdr.ipP p = ipProtocolTcp →
    SrTcpHdr.srcPort q (ipHeaderLen p) = SrTcpHdr.srcPort p (ipHeaderLen p)
  /-- The destination port of a TCP packet. -/
  dstPort : SrIpHdr.ipP p = ipProtocolTcp →
    SrTcpHdr.dstPort q (ipHeaderLen p) = SrTcpHdr.dstPort p (ipHeaderLen p)

/-- The addresses and the identifier are the same, whatever the hops. -/
def IcmpSent.SameEnds (f g : IcmpSent) : Prop :=
  f.ipSrc = g.ipSrc ∧ f.ipDst = g.ipDst ∧ f.identifier = g.identifier

/-- The addresses and the ports are the same, whatever the hops. -/
def TcpSent.SameEnds (f g : TcpSent) : Prop :=
  f.ipSrc = g.ipSrc ∧ f.ipDst = g.ipDst ∧ f.srcPort = g.srcPort ∧ f.dstPort = g.dstPort

/-- The packets from outside, not to an address of the router, that are sent on as something else, kind
by kind, each with a route. -/
inductive Diverted (sr : SrInstance) (p : ByteMem) (len : UInt32) : Prop
  /-- An ICMP packet, in transit or broadcast, that has the external id of a mapping and is translated to
  something else. -/
  | mappedMessage {mapping : SrNatMappingCopy} {lpm : SrRt} {f : IcmpSent}
      (hicmp : SrIpHdr.ipP p = ipProtocolIcmp) (hreach : IcmpReachesNat sr.cfg p len)
      (hlookup : srNatLookupExternal sr.nat (ntohs (SrIcmpHdr.identifier p (ipHeaderLen p)))
        .natMappingIcmp = some mapping)
      (hf : f = icmpWithDestination p (htonl mapping.ipInt) (htons mapping.auxInt))
      (hother : ¬ (f.hop (SrIpHdr.ipHl p)).SameEnds (icmpSent p (ipHeaderLen p)))
      (hroute : RoutesTo sr f.ipDst lpm)
  /-- Any other ICMP packet in transit, if the hops are the first byte of its identifier. -/
  | shortMessage {lpm : SrRt} (hicmp : SrIpHdr.ipP p = ipProtocolIcmp)
      (hfor : isForRouter sr.cfg (SrIpHdr.ipDst p) = false) (httl : SrIpHdr.ipTtl p ≠ 1)
      (hlookup : srNatLookupExternal sr.nat (ntohs (SrIcmpHdr.identifier p (ipHeaderLen p)))
        .natMappingIcmp = none) (hhl : SrIpHdr.ipHl p = 1)
      (hroute : RoutesTo sr (SrIpHdr.ipDst p) lpm)
  /-- A segment that is broadcast, belongs to a connection of a mapping and is translated to something
  else. -/
  | mappedSegment {mapping : SrNatMappingCopy} {lpm : SrRt} {f : TcpSent}
      (htcp : SrIpHdr.ipP p = ipProtocolTcp) (hbroadcast : SrIpHdr.ipDst p = ipBroadcastAddr)
      (hsyn : ¬ isTcpSyn p)
      (hlookup : srNatLookupExternal sr.nat (ntohs (SrTcpHdr.dstPort p (ipHeaderLen p)))
        .natMappingTcp = some mapping)
      (hconn : FindsConn sr.nat mapping p .externalToInternal)
      (hlen : 0 ≤ tcpSegmentLen len (ipHeaderLen p))
      (hf : f = tcpWithDestination p len (htonl mapping.ipInt) (htons mapping.auxInt))
      (hother : ¬ (f.hop (SrIpHdr.ipHl p)).SameEnds (tcpSent p (ipHeaderLen p)))
      (hroute : RoutesTo sr f.ipDst lpm)
  /-- Any other segment that is broadcast and opens nothing, if the hops are the first byte of its source
  port, or if the checksum of the segment is the first half of `ip_dst` and changes it. -/
  | shortBroadcast {lpm : SrRt} {f : TcpSent} (htcp : SrIpHdr.ipP p = ipProtocolTcp)
      (hbroadcast : SrIpHdr.ipDst p = ipBroadcastAddr) (hsyn : ¬ isTcpSyn p)
      (hlookup : srNatLookupExternal sr.nat (ntohs (SrTcpHdr.dstPort p (ipHeaderLen p)))
        .natMappingTcp = none) (hlen : 0 ≤ tcpSegmentLen len (ipHeaderLen p))
      (hf : f = tcpWithSums p len)
      (hhl : SrIpHdr.ipHl p = 2 ∨ SrIpHdr.ipHl p = 0 ∧ f.ipDst ≠ SrIpHdr.ipDst p)
      (hroute : RoutesTo sr f.ipDst lpm)
  /-- A segment in transit to an outside host, if the hops are the first byte of its source port. -/
  | shortSegment {lpm : SrRt} (htcp : SrIpHdr.ipP p = ipProtocolTcp)
      (hfor : isForRouter sr.cfg (SrIpHdr.ipDst p) = false) (httl : SrIpHdr.ipTtl p ≠ 1)
      (hdst : ¬ dstPrivate p) (hhl : SrIpHdr.ipHl p = 2)
      (hroute : RoutesTo sr (SrIpHdr.ipDst p) lpm)

section Transit

variable {ctx : Surroundings} {sr sr' : SrInstance} {p q : ByteMem} {len : UInt32}
  {interface : IfName} {lpm : SrRt}

/-- An ICMP packet with the fields told. -/
lemma unchanged_icmp_iff {f : IcmpSent} (hicmp : SrIpHdr.ipP p = ipProtocolIcmp)
    (hsent : icmpSent q (ipHeaderLen p) = f) :
    Unchanged p q ↔ f.SameEnds (icmpSent p (ipHeaderLen p)) := by
  have hnotTcp : SrIpHdr.ipP p ≠ ipProtocolTcp := by
    rw [hicmp]
    decide
  subst hsent
  constructor
  · intro h
    exact ⟨h.ipSrc, h.ipDst, h.identifier hicmp⟩
  · rintro ⟨hsrc, hdst, hid⟩
    exact ⟨hsrc, hdst, fun _ => hid, fun htcp => absurd htcp hnotTcp,
      fun htcp => absurd htcp hnotTcp⟩

/-- A TCP packet with the fields told. -/
lemma unchanged_tcp_iff {f : TcpSent} (htcp : SrIpHdr.ipP p = ipProtocolTcp)
    (hsent : tcpSent q (ipHeaderLen p) = f) :
    Unchanged p q ↔ f.SameEnds (tcpSent p (ipHeaderLen p)) := by
  have hnotIcmp : SrIpHdr.ipP p ≠ ipProtocolIcmp := by
    rw [htcp]
    decide
  subst hsent
  constructor
  · intro h
    exact ⟨h.ipSrc, h.ipDst, h.srcPort htcp, h.dstPort htcp⟩
  · rintro ⟨hsrc, hdst, hsport, hdport⟩
    exact ⟨hsrc, hdst, fun hicmp => absurd hicmp hnotIcmp, fun _ => hsport, fun _ => hdport⟩

/-- A hop changes the byte that counts the hops. -/
lemma lessHop_ne (v : UInt16) : lessHop v ≠ v := by
  intro h
  have hbyte := congrArg firstByte h
  rw [lessHop, firstByte_setFirstByte] at hbyte
  have hnat := congrArg UInt8.toNat hbyte
  have hlt := (firstByte v).toNat_lt
  rw [UInt8.toNat_sub] at hnat
  simp only [UInt8.reduceToNat] at hnat
  omega

/-- One hop leaves the ends of a message alone unless the hops are part of its identifier. -/
lemma IcmpSent.sameEnds_hop_iff (f : IcmpSent) (hl : ℕ) : (f.hop hl).SameEnds f ↔ hl ≠ 1 := by
  by_cases hone : hl = 1
  · simp [IcmpSent.SameEnds, IcmpSent.hop, hone, lessHop_ne]
  · simp [IcmpSent.SameEnds, IcmpSent.hop, hone]

/-- One hop leaves the ends of a segment alone unless the hops are part of its source port. -/
lemma TcpSent.sameEnds_hop_iff (f : TcpSent) (hl : ℕ) : (f.hop hl).SameEnds f ↔ hl ≠ 2 := by
  by_cases htwo : hl = 2
  · simp [TcpSent.SameEnds, TcpSent.hop, htwo, lessHop_ne]
  · simp [TcpSent.SameEnds, TcpSent.hop, htwo]

/-- New checksums leave the ends of a segment alone unless they are part of `ip_dst`, or the hops part of
its source port. -/
lemma sameEnds_tcpWithSums_iff :
    ((tcpWithSums p len).hop (SrIpHdr.ipHl p)).SameEnds (tcpSent p (ipHeaderLen p)) ↔
      ¬ (SrIpHdr.ipHl p = 2 ∨ SrIpHdr.ipHl p = 0 ∧ (tcpWithSums p len).ipDst ≠ SrIpHdr.ipDst p) := by
  by_cases hzero : SrIpHdr.ipHl p = 0
  · have hdst : ((tcpWithSums p len).hop (SrIpHdr.ipHl p)).SameEnds (tcpSent p (ipHeaderLen p)) ↔
        (tcpWithSums p len).ipDst = SrIpHdr.ipDst p := by
      rw [hzero]
      exact ⟨fun h => h.2.1, fun h => ⟨rfl, h, rfl, rfl⟩⟩
    rw [hdst, hzero]
    simp
  · have hsums : tcpWithSums p len = tcpSent p (ipHeaderLen p) := by
      rw [tcpWithSums, if_neg hzero]
      rfl
    rw [hsums, TcpSent.sameEnds_hop_iff]
    simp [hzero]

/-- What is forwarded of a diverted packet is changed. -/
lemma Diverted.forwards (h : Diverted sr p len) (hon : sr.natEnabled = true) (hsrc : ¬ srcPrivate p)
    (hok : Accepted p len) (ctx : Surroundings) (interface : IfName) :
    ∃ sr' q lpm, Forwards ctx sr p len interface sr' q lpm ∧ ¬ Unchanged p q := by
  have hfor : SrIpHdr.ipDst p = ipBroadcastAddr → isForRouter sr.cfg (SrIpHdr.ipDst p) = true := by
    rintro hbroadcast
    simp [isForRouter, hbroadcast]
  have hicmpCase : ∀ f lpm, SrIpHdr.ipP p = ipProtocolIcmp → IcmpCrosses sr p len f →
      RoutesTo sr f.ipDst lpm →
      ¬ (f.hop (SrIpHdr.ipHl p)).SameEnds (icmpSent p (ipHeaderLen p)) →
      ∃ sr' q lpm, Forwards ctx sr p len interface sr' q lpm ∧ ¬ Unchanged p q := by
    intro f lpm hicmp hcrosses hroute hother
    obtain ⟨sr', q, hforwards, hsent⟩ := hcrosses.forwards hon hicmp hok hroute ctx interface
    exact ⟨sr', q, lpm, hforwards, fun h => hother ((unchanged_icmp_iff hicmp hsent).mp h)⟩
  have htcpCase : ∀ f lpm, SrIpHdr.ipP p = ipProtocolTcp → TcpCrosses sr p len f →
      RoutesTo sr f.ipDst lpm →
      ¬ (f.hop (SrIpHdr.ipHl p)).SameEnds (tcpSent p (ipHeaderLen p)) →
      ∃ sr' q lpm, Forwards ctx sr p len interface sr' q lpm ∧ ¬ Unchanged p q := by
    intro f lpm htcp hcrosses hroute hother
    obtain ⟨sr', q, hforwards, hsent⟩ := hcrosses.forwards hon htcp hok hroute ctx interface
    exact ⟨sr', q, lpm, hforwards, fun h => hother ((unchanged_tcp_iff htcp hsent).mp h)⟩
  cases h with
  | mappedMessage hicmp hreach hlookup hf hother hroute =>
    subst hf
    exact hicmpCase _ _ hicmp (.inbound hreach hsrc hlookup) hroute hother
  | shortMessage hicmp hfor' httl hlookup hhl hroute =>
    refine hicmpCase _ _ hicmp (.untouched hfor' httl (.unknown hsrc hlookup)) hroute ?_
    rw [IcmpSent.sameEnds_hop_iff]
    exact not_not.mpr hhl
  | mappedSegment htcp hbroadcast hsyn hlookup hconn hlen hf hother hroute =>
    subst hf
    exact htcpCase _ _ htcp (.inbound (hfor hbroadcast) hsrc hsyn hlookup hconn hlen) hroute hother
  | shortBroadcast htcp hbroadcast hsyn hlookup hlen hf hhl hroute =>
    subst hf
    refine htcpCase _ _ htcp (.unknown (hfor hbroadcast) hsrc hsyn hlookup hlen) hroute ?_
    rw [sameEnds_tcpWithSums_iff]
    exact not_not.mpr hhl
  | shortSegment htcp hfor' httl hdst hhl hroute =>
    refine htcpCase _ _ htcp (.outside hfor' httl hsrc hdst) hroute ?_
    rw [TcpSent.sameEnds_hop_iff]
    exact not_not.mpr hhl

/-- A message from outside that crosses the NAT as something else is diverted. -/
lemma IcmpCrosses.diverted {f : IcmpSent} (h : IcmpCrosses sr p len f)
    (hicmp : SrIpHdr.ipP p = ipProtocolIcmp) (hsrc : ¬ srcPrivate p)
    (hroute : RoutesTo sr f.ipDst lpm)
    (hother : ¬ (f.hop (SrIpHdr.ipHl p)).SameEnds (icmpSent p (ipHeaderLen p))) :
    Diverted sr p len := by
  cases h with
  | outbound _ hsrc' => exact absurd hsrc' hsrc
  | inbound hreach _ hlookup => exact .mappedMessage hicmp hreach hlookup rfl hother hroute
  | untouched hfor httl huntouched =>
    cases huntouched with
    | inside hsrc' => exact absurd hsrc' hsrc
    | unroutable hsrc' => exact absurd hsrc' hsrc
    | unknown _ hlookup =>
      rw [IcmpSent.sameEnds_hop_iff, not_not] at hother
      exact .shortMessage hicmp hfor httl hlookup hother hroute

/-- A segment from outside that crosses the NAT as something else is diverted. -/
lemma TcpCrosses.diverted {f : TcpSent} (h : TcpCrosses sr p len f)
    (htcp : SrIpHdr.ipP p = ipProtocolTcp) (hsrc : ¬ srcPrivate p)
    (hown : isRouterIp sr.cfg (SrIpHdr.ipDst p) = false) (hroute : RoutesTo sr f.ipDst lpm)
    (hother : ¬ (f.hop (SrIpHdr.ipHl p)).SameEnds (tcpSent p (ipHeaderLen p))) :
    Diverted sr p len := by
  have hbroadcast : isForRouter sr.cfg (SrIpHdr.ipDst p) = true →
      SrIpHdr.ipDst p = ipBroadcastAddr := by
    intro hfor
    simpa [isForRouter, hown] using hfor
  cases h with
  | inside _ hsrc' => exact absurd hsrc' hsrc
  | outbound _ hsrc' => exact absurd hsrc' hsrc
  | inbound hfor _ hsyn hlookup hconn hlen =>
    exact .mappedSegment htcp (hbroadcast hfor) hsyn hlookup hconn hlen rfl hother hroute
  | unknown hfor _ hsyn hlookup hlen =>
    rw [sameEnds_tcpWithSums_iff, not_not] at hother
    exact .shortBroadcast htcp (hbroadcast hfor) hsyn hlookup hlen rfl hother hroute
  | outside hfor httl _ hdst =>
    rw [TcpSent.sameEnds_hop_iff, not_not] at hother
    exact .shortSegment htcp hfor httl hdst hother hroute

/-- **Traffic between outside hosts passes unchanged**, whatever mappings exist, exactly if the packet
fails the tests or is not diverted. -/
theorem unchanged_iff (ctx : Surroundings) {sr : SrInstance} {p : ByteMem} (len : UInt32)
    (interface : IfName) (hon : sr.natEnabled = true) (hsrc : ¬ srcPrivate p)
    (hown : isRouterIp sr.cfg (SrIpHdr.ipDst p) = false)
    (hproto : SrIpHdr.ipP p = ipProtocolIcmp ∨ SrIpHdr.ipP p = ipProtocolTcp) :
    (∀ sr' q lpm, Forwards ctx sr p len interface sr' q lpm → Unchanged p q) ↔
      ¬ (Accepted p len ∧ Diverted sr p len) := by
  constructor
  · rintro h ⟨hok, hdiverted⟩
    obtain ⟨sr', q, lpm, hforwards, hnot⟩ := hdiverted.forwards hon hsrc hok ctx interface
    exact hnot (h sr' q lpm hforwards)
  · intro h sr' q lpm hforwards
    by_contra hother
    rcases hproto with hicmp | htcp
    · obtain ⟨hok, f, hcrosses, hroute, hsent⟩ := hforwards.icmpCrosses hon hicmp
      rw [unchanged_icmp_iff hicmp hsent] at hother
      exact h ⟨hok, hcrosses.diverted hicmp hsrc hroute hother⟩
    · obtain ⟨hok, f, hcrosses, hroute, hsent⟩ := hforwards.tcpCrosses hon htcp
      rw [unchanged_tcp_iff htcp hsent] at hother
      exact h ⟨hok, hcrosses.diverted htcp hsrc hown hroute hother⟩

end Transit

/-- The request of `strayRequest` is diverted to the inside host. -/
lemma diverted_strayRequest : Diverted (natRouter pingState) strayRequest.buf strayRequest.len := by
  have hdst := ipDst_icmpWithDestination_strayRequest (htonl pingMapping.ipInt)
    (htons pingMapping.auxInt)
  have hroute : RoutesTo (natRouter pingState) (icmpWithDestination strayRequest.buf
      (htonl pingMapping.ipInt) (htons pingMapping.auxInt)).ipDst innerRoute := by
    rw [hdst]
    exact routesTo_natRouter rfl
  refine .mappedMessage (ipP_sealedMessage ..) icmpReachesNat_strayRequest lookupExternal_strayRequest
    rfl ?_ hroute
  rintro ⟨-, hsame, -⟩
  have hreceived : SrIpHdr.ipDst strayRequest.buf = htonl 0x08080808 := ipDst_sealedMessage ..
  exact absurd ((hdst.symm.trans hsame).trans hreceived) (by decide)

/-- The theorem for the request. -/
theorem unchanged_iff_strayRequest :
    ¬ ∀ sr' q lpm, Forwards quietSurroundings (natRouter pingState) strayRequest.buf strayRequest.len
      outerInterface.name sr' q lpm → Unchanged strayRequest.buf q :=
  fun h => (unchanged_iff quietSurroundings _ outerInterface.name rfl not_srcPrivate_strayRequest
    (by rw [strayRequest, ipDst_sealedMessage]; decide) (.inl (ipP_sealedMessage ..))).mp h
    ⟨accepted_sealedMessage .., diverted_strayRequest⟩

/-- The request goes to the inside host instead of 8.8.8.8. -/
theorem transit_diverted : ∃ sr' q lpm,
    Forwards quietSurroundings (natRouter pingState) strayRequest.buf strayRequest.len
      outerInterface.name sr' q lpm ∧ ¬ Unchanged strayRequest.buf q :=
  diverted_strayRequest.forwards rfl not_srcPrivate_strayRequest (accepted_sealedMessage ..)
    quietSurroundings outerInterface.name

end NatRouter
