import NatRouter.Fields
import NatRouter.Nat.Handler

/-!
# What the handlers make of a packet

The branches of the two handlers by the kind of packet, and the fields of the packets they return:
the checksum updates change none of them, the translation of an outgoing packet replaces its source
endpoint by an external one.
-/

namespace NatRouter

open ByteMemory Interleaving

/-! ### Kinds of packets -/

/-- The source of the packet is private to `is_private_ip`. -/
def srcPrivate (p : ByteMem) : Prop := isPrivateIp (ntohl (SrIpHdr.ipSrc p)) = true

/-- The destination of the packet is private to `is_private_ip`. -/
def dstPrivate (p : ByteMem) : Prop := isPrivateIp (ntohl (SrIpHdr.ipDst p)) = true

instance : DecidablePred srcPrivate := fun p =>
  inferInstanceAs (Decidable (isPrivateIp (ntohl (SrIpHdr.ipSrc p)) = true))

instance : DecidablePred dstPrivate := fun p =>
  inferInstanceAs (Decidable (isPrivateIp (ntohl (SrIpHdr.ipDst p)) = true))

/-- The routing table has a route to `dst`, out of the interface `i` of the router. -/
structure HasRoute (cfg : NetConfig) (dst : UInt32) (lpm : SrRt) (i : SrIf) : Prop where
  /-- The route found. -/
  lookup : srRtLookup cfg.routingTable dst = .ok (some lpm)
  /-- Its interface, which `sr_verify_routing_table` has checked to exist. -/
  interface : srGetInterface cfg.ifList lpm.interface = some i

/-- The internal endpoint of an outgoing ICMP packet. -/
def icmpKey (p : ByteMem) : UInt32 × UInt16 :=
  (ntohl (SrIpHdr.ipSrc p), ntohs (SrIcmpHdr.identifier p (ipHeaderLen p)))

/-- The internal endpoint of an outgoing TCP packet. -/
def tcpKey (p : ByteMem) : UInt32 × UInt16 :=
  (ntohl (SrIpHdr.ipSrc p), ntohs (SrTcpHdr.srcPort p (ipHeaderLen p)))

/-- The peer of an outgoing TCP packet, in network byte order as a connection keeps it. -/
def tcpDstPeer (p : ByteMem) : UInt32 × UInt16 :=
  (SrIpHdr.ipDst p, SrTcpHdr.dstPort p (ipHeaderLen p))

/-- The peer of an incoming TCP packet, in network byte order as a connection keeps it. -/
def tcpSrcPeer (p : ByteMem) : UInt32 × UInt16 :=
  (SrIpHdr.ipSrc p, SrTcpHdr.srcPort p (ipHeaderLen p))

/-- A SYN without ACK, the first segment of a TCP connection. -/
def isTcpSyn (p : ByteMem) : Prop :=
  SrTcpHdr.syn p (ipHeaderLen p) = true ∧ SrTcpHdr.ack p (ipHeaderLen p) = false

/-! ### ICMP -/

section Icmp

variable {cfg : NetConfig} {p : ByteMem} {o : ℕ}

/-- An ICMP packet from inside to outside. -/
lemma natHandleIcmp_outbound (hs : srcPrivate p) (hd : ¬ dstPrivate p) :
    natHandleIcmp cfg p = natIcmpOutbound cfg p (ipHeaderLen p) := by
  unfold srcPrivate at hs
  unfold dstPrivate at hd
  simp [natHandleIcmp, hs, hd]

/-- An ICMP packet from outside. -/
lemma natHandleIcmp_inbound (hs : ¬ srcPrivate p) :
    natHandleIcmp cfg p = natIcmpInbound p (ipHeaderLen p) := by
  unfold srcPrivate at hs
  simp [natHandleIcmp, hs]

/-- An ICMP packet between inside hosts. -/
lemma natHandleIcmp_inside (hs : srcPrivate p) (hd : dstPrivate p) :
    natHandleIcmp cfg p = .ret (0, p) := by
  unfold srcPrivate at hs
  unfold dstPrivate at hd
  simp [natHandleIcmp, hs, hd]

/-- The checksum that `nat_handle_icmp` fills in: that of the message with none, as long as the total
length says. -/
def icmpChecksum (p : ByteMem) (o : ℕ) : UInt16 :=
  let icmpLen : UInt32 := (ntohs (SrIpHdr.ipLen p)).toUInt32 - UInt32.ofNat sizeofIpHdr
  cksum (fun i => SrIcmpHdr.setIcmpSum p o 0 (o + i)) icmpLen.toBitVec.toInt

/-- The packet with both checksums filled in. -/
def icmpFilled (p : ByteMem) (o : ℕ) : ByteMem :=
  let p := SrIcmpHdr.setIcmpSum (SrIcmpHdr.setIcmpSum p o 0) o (icmpChecksum p o)
  let p := SrIpHdr.setIpSum p 0
  SrIpHdr.setIpSum p (cksum p sizeofIpHdr)

/-- The packet with another source and identifier. -/
def icmpSourced (p : ByteMem) (o : ℕ) (ip : UInt32) (identifier : UInt16) : ByteMem :=
  icmpFilled (SrIpHdr.setIpSrc (SrIcmpHdr.setIdentifier p o identifier) ip) o

/-- The packet with another destination and identifier. -/
def icmpDestined (p : ByteMem) (o : ℕ) (ip : UInt32) (identifier : UInt16) : ByteMem :=
  icmpFilled (SrIpHdr.setIpDst (SrIcmpHdr.setIdentifier p o identifier) ip) o

/-- The end of `nat_handle_icmp` fills in the checksums. -/
lemma natIcmpUpdateChecksum_eq (p : ByteMem) (o : ℕ) :
    natIcmpUpdateChecksum p o = .ret (1, icmpFilled p o) := rfl

/-- The checksums are none of the fields. -/
lemma icmpFields_icmpFilled (p : ByteMem) (ho : 20 ≤ o) :
    icmpFields (icmpFilled p o) o = icmpFields p o := by
  unfold icmpFilled
  rw [icmpFields_setIpSum _ ho, icmpFields_setIpSum _ ho, icmpFields_setIcmpSum _ ho,
    icmpFields_setIcmpSum _ ho]

/-- The fields of a packet with another source. -/
lemma icmpFields_icmpSourced (p : ByteMem) (ho : 20 ≤ o) (ip : UInt32) (identifier : UInt16) :
    icmpFields (icmpSourced p o ip identifier) o =
      { icmpFields p o with ipSrc := ip, identifier := identifier } := by
  rw [icmpSourced, icmpFields_icmpFilled _ ho, icmpFields_setIpSrc _ ho,
    icmpFields_setIdentifier _ ho]

/-- The fields of a packet with another destination. -/
lemma icmpFields_icmpDestined (p : ByteMem) (ho : 20 ≤ o) (ip : UInt32) (identifier : UInt16) :
    icmpFields (icmpDestined p o ip identifier) o =
      { icmpFields p o with ipDst := ip, identifier := identifier } := by
  rw [icmpDestined, icmpFields_icmpFilled _ ho, icmpFields_setIpDst _ ho,
    icmpFields_setIdentifier _ ho]

/-- The destination stays when the source is translated. -/
lemma ipDst_icmpSourced (p : ByteMem) (ho : 20 ≤ o) (ip : UInt32) (identifier : UInt16) :
    SrIpHdr.ipDst (icmpSourced p o ip identifier) = SrIpHdr.ipDst p :=
  congrArg IcmpFields.ipDst (icmpFields_icmpSourced p ho ip identifier)

/-- An outgoing packet gets the external identifier and the address of the outgoing interface. -/
lemma natIcmpTranslateSource_eq (p : ByteMem) (o : ℕ) {lpm : SrRt} {i : SrIf}
    (hi : srGetInterface cfg.ifList lpm.interface = some i) (mapping : SrNatMappingCopy) :
    natIcmpTranslateSource cfg p o lpm mapping =
      .ret (1, icmpSourced p o i.ip (htons mapping.auxExt)) := by
  simp only [natIcmpTranslateSource, hi, natIcmpUpdateChecksum_eq, icmpSourced]

/-- An outgoing packet without an interface to go out of. -/
lemma natIcmpTranslateSource_eq_abort (p : ByteMem) (o : ℕ) {lpm : SrRt}
    (hi : srGetInterface cfg.ifList lpm.interface = none) (mapping : SrNatMappingCopy) :
    natIcmpTranslateSource cfg p o lpm mapping = .abort .nullDeref := by
  simp only [natIcmpTranslateSource, hi]

end Icmp

/-! ### TCP -/

section Tcp

variable {cfg : NetConfig} {p : ByteMem} {ipPacketLen : UInt32} {isToNat : Bool} {o : ℕ}

/-- A TCP packet from inside to outside. -/
lemma natHandleTcp_outbound (hs : srcPrivate p) (hd : ¬ dstPrivate p) :
    natHandleTcp cfg p ipPacketLen isToNat = natTcpOutbound cfg p ipPacketLen (ipHeaderLen p) := by
  unfold srcPrivate at hs
  unfold dstPrivate at hd
  simp [natHandleTcp, hs, hd]

/-- A TCP packet from outside to the router. -/
lemma natHandleTcp_inbound (hs : ¬ srcPrivate p) :
    natHandleTcp cfg p ipPacketLen true = natTcpInbound p ipPacketLen (ipHeaderLen p) := by
  unfold srcPrivate at hs
  simp [natHandleTcp, hs]

/-- A TCP packet from outside, not to the router: an inside destination is unreachable, an outside
one is none of the NAT's business. -/
lemma natHandleTcp_transit (hs : ¬ srcPrivate p) :
    natHandleTcp cfg p ipPacketLen false = .ret (if dstPrivate p then 0 else 1, p) := by
  unfold srcPrivate at hs
  unfold dstPrivate
  by_cases hd : isPrivateIp (ntohl (SrIpHdr.ipDst p)) <;> simp [natHandleTcp, hs, hd]

/-- A TCP packet between inside hosts. -/
lemma natHandleTcp_inside (hs : srcPrivate p) (hd : dstPrivate p) :
    natHandleTcp cfg p ipPacketLen isToNat = .ret (1, p) := by
  unfold srcPrivate at hs
  unfold dstPrivate at hd
  simp [natHandleTcp, hs, hd]

/-- The length of what follows the header of a packet. -/
lemma tcpSegmentLen_eq {len : UInt32} {o : ℕ} (hfits : o ≤ len.toNat) (hlen : len ≤ ipMaxpacket) :
    tcpSegmentLen len o = ((len.toNat - o : ℕ) : ℤ) := by
  have hle : len.toNat ≤ 65535 := UInt32.le_iff_toNat_le.mp hlen
  have hofNat : (UInt32.ofNat o).toNat = o := by
    rw [UInt32.toNat_ofNat']
    omega
  have hsub : (len - UInt32.ofNat o).toNat = len.toNat - o := by
    rw [UInt32.toNat_sub_of_le _ _ (UInt32.le_iff_toNat_le.mpr (by omega)), hofNat]
  unfold tcpSegmentLen
  rw [BitVec.toInt_eq_toNat_of_lt (by rw [UInt32.toNat_toBitVec, hsub]; omega),
    UInt32.toNat_toBitVec, hsub]

/-- What follows the header of a packet has a length. -/
lemma tcpSegmentLen_nonneg {len : UInt32} {o : ℕ} (hfits : o ≤ len.toNat) (hlen : len ≤ ipMaxpacket) :
    0 ≤ tcpSegmentLen len o := by
  rw [tcpSegmentLen_eq hfits hlen]
  exact Int.natCast_nonneg _

/-- The segment of a well-formed packet has a length. -/
lemma TcpPacket.tcpSegmentLen_nonneg (p : TcpPacket) :
    0 ≤ tcpSegmentLen p.len (ipHeaderLen p.buf) := by
  have hfits := p.fits
  unfold sizeofTcpHdr at hfits
  exact NatRouter.tcpSegmentLen_nonneg (by omega) p.len_le

/-- The checksum that `nat_handle_tcp` fills in: that of the pseudo header and the segment with none. -/
def tcpChecksum (p : ByteMem) (len : UInt32) (o : ℕ) : UInt16 :=
  cksum (tcpChecksumBuffer (SrTcpHdr.setChecksum p o 0) o (tcpSegmentLen len o))
    (sizeofTcpPseudoHdr + tcpSegmentLen len o)

/-- The packet with both checksums filled in. -/
def tcpFilled (p : ByteMem) (len : UInt32) (o : ℕ) : ByteMem :=
  let p := SrTcpHdr.setChecksum (SrTcpHdr.setChecksum p o 0) o (tcpChecksum p len o)
  let p := SrIpHdr.setIpSum p 0
  SrIpHdr.setIpSum p (cksum p sizeofIpHdr)

/-- The packet with another source and source port. -/
def tcpSourced (p : ByteMem) (len : UInt32) (o : ℕ) (ip : UInt32) (port : UInt16) : ByteMem :=
  tcpFilled (SrIpHdr.setIpSrc (SrTcpHdr.setSrcPort p o port) ip) len o

/-- The packet with another destination and destination port. -/
def tcpDestined (p : ByteMem) (len : UInt32) (o : ℕ) (ip : UInt32) (port : UInt16) : ByteMem :=
  tcpFilled (SrIpHdr.setIpDst (SrTcpHdr.setDstPort p o port) ip) len o

/-- The end of `nat_handle_tcp` fills in the checksums, if the segment has a length. -/
lemma natTcpUpdateChecksum_eq (p : ByteMem) (hlen : 0 ≤ tcpSegmentLen ipPacketLen o) :
    natTcpUpdateChecksum p ipPacketLen o = .ret (1, tcpFilled p ipPacketLen o) := by
  unfold natTcpUpdateChecksum
  rw [if_neg (Int.not_lt.mpr hlen)]
  rfl

/-- Without a length it runs over its buffer. -/
lemma natTcpUpdateChecksum_eq_abort (p : ByteMem) (hlen : tcpSegmentLen ipPacketLen o < 0) :
    natTcpUpdateChecksum p ipPacketLen o = .abort .overrun := if_pos hlen

/-- The checksums are none of the fields. -/
lemma tcpFields_tcpFilled (p : ByteMem) (len : UInt32) (ho : 20 ≤ o) :
    tcpFields (tcpFilled p len o) o = tcpFields p o := by
  unfold tcpFilled
  rw [tcpFields_setIpSum _ ho, tcpFields_setIpSum _ ho, tcpFields_setChecksum _ ho,
    tcpFields_setChecksum _ ho]

/-- The fields of a packet with another source. -/
lemma tcpFields_tcpSourced (p : ByteMem) (len : UInt32) (ho : 20 ≤ o) (ip : UInt32)
    (port : UInt16) : tcpFields (tcpSourced p len o ip port) o =
      { tcpFields p o with ipSrc := ip, srcPort := port } := by
  rw [tcpSourced, tcpFields_tcpFilled _ _ ho, tcpFields_setIpSrc _ ho, tcpFields_setSrcPort _ ho]

/-- The fields of a packet with another destination. -/
lemma tcpFields_tcpDestined (p : ByteMem) (len : UInt32) (ho : 20 ≤ o) (ip : UInt32)
    (port : UInt16) : tcpFields (tcpDestined p len o ip port) o =
      { tcpFields p o with ipDst := ip, dstPort := port } := by
  rw [tcpDestined, tcpFields_tcpFilled _ _ ho, tcpFields_setIpDst _ ho, tcpFields_setDstPort _ ho]

/-- The destination stays when the source is translated. -/
lemma ipDst_tcpSourced (p : ByteMem) (len : UInt32) (ho : 20 ≤ o) (ip : UInt32) (port : UInt16) :
    SrIpHdr.ipDst (tcpSourced p len o ip port) = SrIpHdr.ipDst p :=
  congrArg TcpFields.ipDst (tcpFields_tcpSourced p len ho ip port)

/-- The destination by which `nat_handle_tcp` routes an outgoing packet, whose port it has written by
then. -/
def routedDst (p : ByteMem) (o : ℕ) (port : UInt16) : UInt32 :=
  SrIpHdr.ipDst (SrTcpHdr.setSrcPort p o port)

/-- It is the destination. -/
lemma routedDst_eq (p : ByteMem) (ho : 20 ≤ o) (port : UInt16) :
    routedDst p o port = SrIpHdr.ipDst p := congrArg TcpFields.ipDst (tcpFields_setSrcPort p ho port)

/-- So it is wherever the source port does not lie in it. -/
lemma routedDst_of_ne_four {p : ByteMem} (h : SrIpHdr.ipHl p ≠ 4) (port : UInt16) :
    routedDst p (ipHeaderLen p) port = SrIpHdr.ipDst p :=
  load32_store16_of_disjoint (by unfold ipHeaderLen; omega)

/-- An outgoing packet gets the external port and the address of the outgoing interface. -/
lemma natTcpTranslateSource_eq (hlen : 0 ≤ tcpSegmentLen ipPacketLen o) {lpm : SrRt} {i : SrIf}
    {mapping : SrNatMappingCopy} (hroute : HasRoute cfg (routedDst p o (htons mapping.auxExt)) lpm i) :
    natTcpTranslateSource cfg p ipPacketLen o mapping =
      .ret (1, tcpSourced p ipPacketLen o i.ip (htons mapping.auxExt)) := by
  have hlookup := hroute.lookup
  unfold routedDst at hlookup
  simp only [natTcpTranslateSource, hlookup, hroute.interface, natTcpUpdateChecksum_eq _ hlen,
    tcpSourced]

/-- Unless something is missing: the length, the route or its interface. -/
lemma natTcpTranslateSource_cases (cfg : NetConfig) (p : ByteMem) (ipPacketLen : UInt32) (o : ℕ)
    (mapping : SrNatMappingCopy) :
    (∃ e, natTcpTranslateSource cfg p ipPacketLen o mapping = .abort e ∧
        (e = .assertFailed ∨ e = .nullDeref ∨ e = .overrun)) ∨
      ∃ lpm i, natTcpTranslateSource cfg p ipPacketLen o mapping =
          .ret (1, tcpSourced p ipPacketLen o (SrIf.ip i) (htons mapping.auxExt)) ∧
        0 ≤ tcpSegmentLen ipPacketLen o ∧
        HasRoute cfg (routedDst p o (htons mapping.auxExt)) lpm i := by
  cases hlookup : srRtLookup cfg.routingTable (routedDst p o (htons mapping.auxExt)) with
  | error e =>
    unfold routedDst at hlookup
    exact .inl ⟨e, by simp only [natTcpTranslateSource, hlookup], .inl (srRtLookup_error hlookup)⟩
  | ok lpm? =>
    cases lpm? with
    | none =>
      unfold routedDst at hlookup
      exact .inl ⟨.nullDeref, by simp only [natTcpTranslateSource, hlookup], .inr (.inl rfl)⟩
    | some lpm =>
      cases hi : srGetInterface cfg.ifList lpm.interface with
      | none =>
        unfold routedDst at hlookup
        exact .inl ⟨.nullDeref, by simp only [natTcpTranslateSource, hlookup, hi], .inr (.inl rfl)⟩
      | some i =>
        by_cases hlen : tcpSegmentLen ipPacketLen o < 0
        · unfold routedDst at hlookup
          refine .inl ⟨.overrun, ?_, .inr (.inr rfl)⟩
          simp only [natTcpTranslateSource, hlookup, hi, natTcpUpdateChecksum_eq_abort _ hlen]
        · have hlen' := Int.not_lt.mp hlen
          exact .inr ⟨lpm, i, natTcpTranslateSource_eq hlen' ⟨hlookup, hi⟩, hlen', hlookup, hi⟩

end Tcp

/-! ### Which calls the handlers make -/

/-- Calls that insert neither a mapping nor a connection. -/
def NatCall.KeepsTable : NatCall → Prop
  | .insertMapping .. => False
  | .insertConnection .. => False
  | _ => True

/-- The checksum update of a TCP segment makes no call. -/
lemma natTcpUpdateChecksum_calls {S : NatCall → Prop} (p : ByteMem) (len : UInt32) (o : ℕ) :
    (natTcpUpdateChecksum p len o).Calls S := by
  unfold natTcpUpdateChecksum
  simp only
  split <;> trivial

/-- The translation of an outgoing TCP segment makes no call. -/
lemma natTcpTranslateSource_calls {S : NatCall → Prop} (cfg : NetConfig) (p : ByteMem) (len : UInt32)
    (o : ℕ) (mapping : SrNatMappingCopy) : (natTcpTranslateSource cfg p len o mapping).Calls S := by
  unfold natTcpTranslateSource
  simp only
  split
  · trivial
  · trivial
  · split
    · trivial
    · exact natTcpUpdateChecksum_calls _ len o

/-- The translation of an outgoing ICMP message makes no call. -/
lemma natIcmpTranslateSource_calls {S : NatCall → Prop} (cfg : NetConfig) (p : ByteMem) (o : ℕ)
    (lpm : SrRt) (mapping : SrNatMappingCopy) :
    (natIcmpTranslateSource cfg p o lpm mapping).Calls S := by
  unfold natIcmpTranslateSource
  simp only
  split <;> trivial

/-- The handling of an incoming TCP segment inserts nothing. -/
lemma natTcpInbound_calls (p : ByteMem) (len : UInt32) (o : ℕ) :
    (natTcpInbound p len o).Calls NatCall.KeepsTable := by
  unfold natTcpInbound
  simp only
  split
  · refine ⟨trivial, ?_⟩
    intro r
    cases r with
    | none => exact ⟨trivial, fun _ => trivial⟩
    | some mapping => exact ⟨trivial, fun _ => trivial⟩
  · refine ⟨trivial, ?_⟩
    intro r
    cases r with
    | none => exact natTcpUpdateChecksum_calls p len o
    | some mapping =>
      refine ⟨trivial, ?_⟩
      intro r
      cases r with
      | none => trivial
      | some conn => exact natTcpUpdateChecksum_calls _ len o

/-- The handling of an incoming ICMP message inserts nothing. -/
lemma natIcmpInbound_calls (p : ByteMem) (o : ℕ) :
    (natIcmpInbound p o).Calls NatCall.KeepsTable := by
  refine ⟨trivial, ?_⟩
  intro r
  cases r with
  | none => trivial
  | some mapping => trivial

/-! ### What the handlers return -/

/-- What the internal to external branch of `nat_handle_tcp` returns. -/
lemma natTcpOutbound_returns {T : ℤ × ByteMem → Prop} {cfg : NetConfig} {p : ByteMem} {len : UInt32}
    {o : ℕ} (hzero : T (0, p))
    (hsource : ∀ mapping, (natTcpTranslateSource cfg p len o mapping).Returns T) :
    (natTcpOutbound cfg p len o).Returns T := by
  intro r
  cases r with
  | none =>
    intro mapping c
    cases c with
    | none => trivial
    | some c => exact hsource mapping
  | some mapping =>
    intro c
    cases c with
    | none => exact hzero
    | some c => exact hsource mapping

/-- What its external to internal branch returns. -/
lemma natTcpInbound_returns {T : ℤ × ByteMem → Prop} {p : ByteMem} {len : UInt32} {o : ℕ}
    (hzero : T (0, p)) (hminus : T (-1, p)) (hself : (natTcpUpdateChecksum p len o).Returns T)
    (hdestination : ∀ port ip, (natTcpUpdateChecksum
      (SrIpHdr.setIpDst (SrTcpHdr.setDstPort p o port) ip) len o).Returns T) :
    (natTcpInbound p len o).Returns T := by
  unfold natTcpInbound
  simp only
  split
  · intro r
    cases r with
    | none => exact fun _ => hminus
    | some mapping => exact fun _ => hminus
  · intro r
    cases r with
    | none => exact hself
    | some mapping =>
      intro c
      cases c with
      | none => exact hzero
      | some c => exact hdestination _ _

/-- What the internal to external branch of `nat_handle_icmp` returns. -/
lemma natIcmpOutbound_returns {T : ℤ × ByteMem → Prop} {cfg : NetConfig} {p : ByteMem} {o : ℕ}
    (hzero : T (0, p))
    (hsource : ∀ lpm mapping, (natIcmpTranslateSource cfg p o lpm mapping).Returns T) :
    (natIcmpOutbound cfg p o).Returns T := by
  unfold natIcmpOutbound
  simp only
  split
  · trivial
  · exact hzero
  · intro r
    cases r with
    | none => exact hsource _
    | some mapping => exact hsource _ mapping

/-- What its external to internal branch returns. -/
lemma natIcmpInbound_returns {T : ℤ × ByteMem → Prop} {p : ByteMem} {o : ℕ} (hzero : T (0, p))
    (hdestination : ∀ identifier ip, (natIcmpUpdateChecksum
      (SrIpHdr.setIpDst (SrIcmpHdr.setIdentifier p o identifier) ip) o).Returns T) :
    (natIcmpInbound p o).Returns T := by
  intro r
  cases r with
  | none => exact hzero
  | some mapping => exact hdestination _ _

end NatRouter
