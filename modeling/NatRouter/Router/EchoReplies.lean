import NatRouter.Checksums
import NatRouter.Router.Causes

/-!
# Echo replies

`sr_send_icmp` answers an echo request with what it finds at fixed places of it: the identifier and the
sequence number 24 bytes from the start of the packet, as if the IP header had no options, and from
there as many bytes as the total length says, however many have been received.  So the reply mirrors the
request if the header has no options and the total length is right (`mirrored_iff`).
-/

namespace NatRouter

open ByteMemory Interleaving

variable {interfaceInfo : Option SrIf} {p p' : ByteMem}

/-! ### What the reply is -/

/-- The content of the reply, but for the checksum: the identifier and the sequence number 24 bytes from
the start of the packet, and what follows them. -/
def echoContent (p : ByteMem) : ByteMem :=
  let header := store8 (store8 (fun _ => 0) 1 0) 0 icmpTypeEchoreply
  let icmpPacket := SrIcmpHdr.setIdentifier header 0 (SrIcmpHdr.identifier p sizeofIpHdr)
  let icmpPacket := store16 icmpPacket 6 (SrIcmpHdr.seqNum p sizeofIpHdr)
  storeBlock icmpPacket sizeofIcmpHdr (fun i => p (sizeofIpHdr + sizeofIcmpHdr + i))
    (ipTotalLen p - sizeofIpHdr - sizeofIcmpHdr)

/-- The length of the reply behind its IP header. -/
def echoLen (p : ByteMem) : UInt32 := UInt32.ofNat (ipTotalLen p - sizeofIpHdr)

/-- The reply. -/
def echoReply (p : ByteMem) : ByteMem :=
  let icmpPacket := SrIcmpHdr.setIcmpSum (echoContent p) 0 0
  srCreateIppacket (echoLen p)
    (SrIcmpHdr.setIcmpSum icmpPacket 0 (cksum icmpPacket (echoLen p).toNat)) ipProtocolIcmp
    (SrIpHdr.ipDst p) (SrIpHdr.ipSrc p)

/-- A packet that is too short by its own account has the reply written over the end of its block. -/
lemma icmpIppacket_overrun (interfaceInfo : Option SrIf) (h : ipTotalLen p < 28) :
    icmpIppacket interfaceInfo p icmpTypeEchoreply 0 = .error .overrun := by
  have hshort : (ntohs (SrIpHdr.ipLen p)).toNat < sizeofIpHdr + sizeofIcmpHdr := h
  have hcontent : icmpContent p icmpTypeEchoreply 0 = .error .overrun := by
    simp only [icmpContent, ne_eq, not_true, if_false, if_pos hshort]
  simp only [icmpIppacket, srCreateIcmppacket, hcontent]
  rfl

/-- Any other packet has a reply as long as it says itself. -/
lemma icmpIppacket_echo (interfaceInfo : Option SrIf) (h : 28 ≤ ipTotalLen p) :
    icmpIppacket interfaceInfo p icmpTypeEchoreply 0 =
      .ok (UInt32.ofNat (ipTotalLen p), echoReply p) := by
  have hmin : ¬ (ntohs (SrIpHdr.ipLen p)).toNat < sizeofIpHdr + sizeofIcmpHdr := Nat.not_lt.mpr h
  have hcontent : icmpContent p icmpTypeEchoreply 0 = .ok (echoLen p, echoContent p) := by
    simp only [icmpContent, ne_eq, not_true, if_false, if_neg hmin]
    rfl
  have htotal : echoLen p + UInt32.ofNat sizeofIpHdr = UInt32.ofNat (ipTotalLen p) := by
    rw [echoLen, ← UInt32.ofNat_add, Nat.sub_add_cancel (Nat.le_trans (by decide) h)]
  rw [← htotal]
  simp only [icmpIppacket, srCreateIcmppacket, hcontent]
  rfl

/-- The length does not wrap around. -/
lemma toNat_echoLen (p : ByteMem) : (echoLen p).toNat = ipTotalLen p - 20 := by
  have hlt := (ntohs (SrIpHdr.ipLen p)).toNat_lt
  have hle : ipTotalLen p - sizeofIpHdr ≤ ipTotalLen p := Nat.sub_le _ _
  exact UInt32.toNat_ofNat_of_lt' (Nat.lt_of_le_of_lt hle (Nat.lt_trans hlt (by decide)))

/-- From the identifier on, the content is that of the packet 20 bytes further on. -/
lemma echoContent_apply {j : ℕ} (hlo : 4 ≤ j) (hhi : 20 + j < ipTotalLen p) :
    echoContent p j = p (20 + j) := by
  unfold echoContent sizeofIpHdr sizeofIcmpHdr
  rcases Nat.lt_or_ge j 8 with hheader | hdata
  · rw [storeBlock_apply_of_disjoint (.inl hheader)]
    rcases Nat.lt_or_ge j 6 with hid | hseq
    · obtain ⟨k, rfl⟩ := Nat.exists_eq_add_of_le hlo
      rw [store16_apply_of_disjoint (.inl hid), ← Nat.add_assoc]
      exact store16_load16_apply _ p 4 24 (by omega)
    · obtain ⟨k, rfl⟩ := Nat.exists_eq_add_of_le hseq
      rw [← Nat.add_assoc]
      exact store16_load16_apply _ p 6 26 (by omega)
  · obtain ⟨k, rfl⟩ := Nat.exists_eq_add_of_le hdata
    rw [← Nat.add_assoc]
    exact storeBlock_apply_add (by omega)

/-- From the identifier on, the reply is the packet. -/
lemma echoReply_apply {j : ℕ} (hlo : 24 ≤ j) (hhi : j < ipTotalLen p) : echoReply p j = p j := by
  obtain ⟨k, rfl⟩ := Nat.exists_eq_add_of_le (Nat.le_trans (by decide : 20 ≤ 24) hlo)
  have hload := toNat_echoLen p
  unfold echoReply
  rw [show 20 + k = sizeofIpHdr + k from rfl, srCreateIppacket_apply_add (by omega)]
  change _ = p (20 + k)
  rw [← echoContent_apply (show 4 ≤ k by omega) hhi]
  simp (disch := omega) only [SrIcmpHdr.setIcmpSum, store16_apply_of_disjoint]

/-- The total length of a packet that the router makes. -/
lemma ipTotalLen_srCreateIppacket {loadLen : UInt32} (hlen : loadLen.toNat + 20 < 65536)
    (load : ByteMem) (protocol : UInt8) (sourceIp destIp : UInt32) :
    ipTotalLen (srCreateIppacket loadLen load protocol sourceIp destIp) = loadLen.toNat + 20 := by
  have hfield : SrIpHdr.ipLen (srCreateIppacket loadLen load protocol sourceIp destIp) =
      htons (UInt32.ofNat sizeofIpHdr + loadLen).toUInt16 := by
    unfold srCreateIppacket SrIpHdr.ipLen SrIpHdr.setIpSum SrIpHdr.setIpDst SrIpHdr.setIpSrc
    rw [load16_congr fun j _ hj => storeBlock_apply_of_disjoint (.inl (by unfold sizeofIpHdr; omega)),
      load16_store16_of_disjoint (by decide), load16_store32_of_disjoint (by decide),
      load16_store32_of_disjoint (by decide), load16_store8_of_disjoint (by decide),
      load16_store16_self]
  have hadd : (UInt32.ofNat sizeofIpHdr + loadLen).toNat = loadLen.toNat + 20 := by
    rw [UInt32.toNat_add, UInt32.toNat_ofNat_of_lt' (by decide), Nat.mod_eq_of_lt]
    · exact Nat.add_comm _ _
    · unfold sizeofIpHdr
      omega
  rw [ipTotalLen, hfield, ntohs_htons, UInt32.toNat_toUInt16, hadd]
  exact Nat.mod_eq_of_lt hlen

/-- The total length of the reply is that of the packet. -/
lemma ipTotalLen_echoReply (h : 28 ≤ ipTotalLen p) : ipTotalLen (echoReply p) = ipTotalLen p := by
  have hlt := (ntohs (SrIpHdr.ipLen p)).toNat_lt
  have hload : (echoLen p).toNat + 20 = ipTotalLen p := by
    rw [toNat_echoLen, Nat.sub_add_cancel (Nat.le_trans (by decide) h)]
  unfold echoReply
  rw [ipTotalLen_srCreateIppacket (hload.trans_lt hlt), hload]

/-- Packets that are the same as far as one of them goes by its own account have the same reply. -/
lemma echoReply_congr (h : 28 ≤ ipTotalLen p) (hsame : ∀ j < ipTotalLen p, p' j = p j) :
    ipTotalLen p' = ipTotalLen p ∧ echoReply p' = echoReply p := by
  have h16 : ∀ i, i + 2 ≤ 28 → load16 p' i = load16 p i :=
    fun i hi => load16_congr fun j _ hj => hsame j (by omega)
  have h32 : ∀ i, i + 4 ≤ 28 → load32 p' i = load32 p i :=
    fun i hi => load32_congr fun j _ hj => hsame j (by omega)
  have htotal : ipTotalLen p' = ipTotalLen p :=
    congrArg (fun v => (ntohs v).toNat) (h16 2 (by decide))
  have hlen : echoLen p' = echoLen p := congrArg (fun n => UInt32.ofNat (n - sizeofIpHdr)) htotal
  have hcontent : echoContent p' = echoContent p := by
    have hid : SrIcmpHdr.identifier p' sizeofIpHdr = SrIcmpHdr.identifier p sizeofIpHdr :=
      h16 24 (by decide)
    have hseq : SrIcmpHdr.seqNum p' sizeofIpHdr = SrIcmpHdr.seqNum p sizeofIpHdr :=
      h16 26 (by decide)
    unfold echoContent
    rw [hid, hseq, htotal]
    refine storeBlock_congr fun k hk => hsame _ ?_
    unfold sizeofIpHdr sizeofIcmpHdr at hk ⊢
    omega
  have hsrc : SrIpHdr.ipSrc p' = SrIpHdr.ipSrc p := h32 12 (by decide)
  have hdst : SrIpHdr.ipDst p' = SrIpHdr.ipDst p := h32 16 (by decide)
  refine ⟨htotal, ?_⟩
  unfold echoReply
  rw [hcontent, hlen, hsrc, hdst]

/-! ### What the reply should be -/

/-- The reply `r` to a request of which `len` bytes have been received mirrors it. -/
structure Mirrors (interfaceInfo : Option SrIf) (p : ByteMem) (len : UInt32) (r : UInt32 × ByteMem) :
    Prop where
  /-- It has the identifier of the request. -/
  identifier : SrIcmpHdr.identifier r.2 sizeofIpHdr = SrIcmpHdr.identifier p (ipHeaderLen p)
  /-- It has the sequence number of the request. -/
  seqNum : SrIcmpHdr.seqNum r.2 sizeofIpHdr = SrIcmpHdr.seqNum p (ipHeaderLen p)
  /-- It carries as much as the request does. -/
  size : r.1.toNat + ipHeaderLen p = sizeofIpHdr + ipTotalLen p
  /-- Its data are those of the request. -/
  data : ∀ k, ipHeaderLen p + sizeofIcmpHdr + k < ipTotalLen p →
    r.2 (sizeofIpHdr + sizeofIcmpHdr + k) = p (ipHeaderLen p + sizeofIcmpHdr + k)
  /-- Its total length is right. -/
  totalLen : ipTotalLen r.2 = r.1.toNat
  /-- Nothing in it depends on what lies behind the bytes received. -/
  received : ∀ p', (∀ j < len.toNat, p' j = p j) → ∃ reply,
    icmpIppacket interfaceInfo p' icmpTypeEchoreply 0 = .ok (r.1, reply) ∧
      ∀ j < r.1.toNat, reply j = r.2 j

/-- The reply to a request without options whose total length is right mirrors it. -/
lemma mirrors_of_plain {len : UInt32} (interfaceInfo : Option SrIf) (hhl : ipHeaderLen p = 20)
    (hmin : 28 ≤ ipTotalLen p) (hmax : ipTotalLen p ≤ len.toNat) :
    Mirrors interfaceInfo p len (UInt32.ofNat (ipTotalLen p), echoReply p) := by
  have hlt := (ntohs (SrIpHdr.ipLen p)).toNat_lt
  have hsize : (UInt32.ofNat (ipTotalLen p)).toNat = ipTotalLen p :=
    UInt32.toNat_ofNat_of_lt' (Nat.lt_trans hlt (by decide))
  have h16 : ∀ i, 24 ≤ i → i + 2 ≤ 28 → load16 (echoReply p) i = load16 p i :=
    fun i hlo hhi => load16_congr fun j hj hj' => echoReply_apply (by omega) (by omega)
  constructor
  case identifier =>
    rw [hhl]
    exact h16 24 (by decide) (by decide)
  case seqNum =>
    rw [hhl]
    exact h16 26 (by decide) (by decide)
  case size =>
    rw [hsize, hhl]
    exact Nat.add_comm _ _
  case data =>
    intro k hk
    rw [hhl] at hk ⊢
    refine echoReply_apply ?_ hk
    unfold sizeofIpHdr sizeofIcmpHdr
    omega
  case totalLen => rw [ipTotalLen_echoReply hmin, hsize]
  case received =>
    intro p' hsame
    obtain ⟨htotal, hreply⟩ := echoReply_congr hmin fun j hj => hsame j (Nat.lt_of_lt_of_le hj hmax)
    refine ⟨echoReply p', ?_, fun j _ => by rw [hreply]⟩
    rw [icmpIppacket_echo interfaceInfo (htotal ▸ hmin), htotal]

/-- Only such a reply mirrors its request: with options it has more data than the request, and with a
total length beyond the bytes received the last of its bytes is none of them. -/
lemma plain_of_mirrors {len : UInt32} {interfaceInfo : Option SrIf} {r : UInt32 × ByteMem}
    (hr : icmpIppacket interfaceInfo p icmpTypeEchoreply 0 = .ok r)
    (h : Mirrors interfaceInfo p len r) :
    ipHeaderLen p = 20 ∧ 28 ≤ ipTotalLen p ∧ ipTotalLen p ≤ len.toNat := by
  have hlt := (ntohs (SrIpHdr.ipLen p)).toNat_lt
  have hsize : (UInt32.ofNat (ipTotalLen p)).toNat = ipTotalLen p :=
    UInt32.toNat_ofNat_of_lt' (Nat.lt_trans hlt (by decide))
  have hmin : 28 ≤ ipTotalLen p := by
    by_contra hshort
    rw [icmpIppacket_overrun interfaceInfo (Nat.not_le.mp hshort)] at hr
    cases hr
  rw [icmpIppacket_echo interfaceInfo hmin] at hr
  obtain rfl := Except.ok.inj hr
  refine ⟨?_, hmin, ?_⟩
  · have hcount : (UInt32.ofNat (ipTotalLen p)).toNat + ipHeaderLen p = 20 + ipTotalLen p := h.size
    omega
  · by_contra hlong
    obtain ⟨n, hn⟩ := Nat.exists_eq_add_of_le (Nat.le_trans (by decide : 1 ≤ 28) hmin)
    -- The request with another byte in the last place is the same as far as it has been received.
    have hsame : ∀ j < len.toNat, store8 p n (p n + 1) j = p j :=
      fun j hj => store8_apply_of_ne (by omega)
    have htotal : ipTotalLen (store8 p n (p n + 1)) = ipTotalLen p :=
      congrArg (fun v => (ntohs v).toNat) (load16_store8_of_disjoint (.inr (by omega)))
    obtain ⟨reply, hreply, hequal⟩ := h.received _ hsame
    rw [icmpIppacket_echo interfaceInfo (htotal ▸ hmin), htotal] at hreply
    obtain rfl := congrArg Prod.snd (Except.ok.inj hreply)
    have hlast : store8 p n (p n + 1) n = p n := by
      calc store8 p n (p n + 1) n
          = echoReply (store8 p n (p n + 1)) n := (echoReply_apply (by omega) (by omega)).symm
        _ = echoReply p n := hequal n (hsize.symm ▸ (by omega))
        _ = p n := echoReply_apply (by omega) (by omega)
    rw [store8_apply_self] at hlast
    exact absurd hlast (by simp)

/-! ### The requests that are answered -/

/-- **Echo replies mirror the request**, exactly if its IP header has no options and its total length
covers both headers and lies within the bytes received. -/
theorem mirrored_iff {cfg : NetConfig} {a : Arrival} (natEnabled : Bool) (h : EchoRequest cfg a) :
    ipAction cfg natEnabled a.packet a.len = .ret (.sendIcmp a.packet icmpTypeEchoreply 0) ∧
      ((∃ r, icmpIppacket (srGetInterface cfg.ifList a.interface) a.packet icmpTypeEchoreply 0 =
            .ok r ∧
          Mirrors (srGetInterface cfg.ifList a.interface) a.packet a.len r) ↔
        SrIpHdr.ipHl a.packet = 5 ∧ 28 ≤ ipTotalLen a.packet ∧
          ipTotalLen a.packet ≤ a.len.toNat) := by
  refine ⟨ipAction_echoRequest natEnabled h, ?_, ?_⟩
  · rintro ⟨r, hr, hmirrors⟩
    obtain ⟨hhl, hlen⟩ := plain_of_mirrors hr hmirrors
    unfold ipHeaderLen at hhl
    exact ⟨by omega, hlen⟩
  · rintro ⟨hhl, hmin, hmax⟩
    have hheader : ipHeaderLen a.packet = 20 := by rw [ipHeaderLen, hhl]
    exact ⟨_, icmpIppacket_echo _ hmin, mirrors_of_plain _ hheader hmin hmax⟩

/-- An echo request from 10.0.1.5 to the router, with four bytes of data. -/
def plainRequest : Arrival where
  packet := ofBytes [0x45, 0, 0, 0x20, 0, 0, 0, 0, 64, 1, 0x64, 0xd8, 10, 0, 1, 5, 10, 0, 1, 1,
    8, 0, 0xf3, 0xf7, 0, 1, 0, 1, 1, 2, 3, 4]
  len := 32
  interface := innerInterface.name

/-- It is mirrored. -/
theorem mirrored_plainRequest : EchoRequest twoSided plainRequest ∧
    ∃ r, icmpIppacket (srGetInterface twoSided.ifList plainRequest.interface) plainRequest.packet
        icmpTypeEchoreply 0 = .ok r ∧
      Mirrors (srGetInterface twoSided.ifList plainRequest.interface) plainRequest.packet
        plainRequest.len r := by
  have hrequest : EchoRequest twoSided plainRequest :=
    ⟨by decide +kernel, by decide +kernel, by decide +kernel, by decide +kernel, by decide +kernel⟩
  exact ⟨hrequest, (mirrored_iff true hrequest).2.mpr
    ⟨by decide +kernel, by decide +kernel, by decide +kernel⟩⟩

/-- An echo request of 28 bytes from 10.0.1.5 to the router that claims to be 60 bytes long. -/
def overlongRequest : Arrival where
  packet := ofBytes [0x45, 0, 0, 0x3c, 0, 0, 0, 0, 64, 1, 0x64, 0xbc, 10, 0, 1, 5, 10, 0, 1, 1,
    8, 0, 0xf7, 0xfd, 0, 1, 0, 1]
  len := 28
  interface := innerInterface.name

/-- It is answered, with bytes that are none of its own. -/
theorem overlongRequest_not_mirrored : EchoRequest twoSided overlongRequest ∧
    ipAction twoSided true overlongRequest.packet overlongRequest.len =
      .ret (.sendIcmp overlongRequest.packet icmpTypeEchoreply 0) ∧
    ¬ ∃ r, icmpIppacket (srGetInterface twoSided.ifList overlongRequest.interface)
        overlongRequest.packet icmpTypeEchoreply 0 = .ok r ∧
      Mirrors (srGetInterface twoSided.ifList overlongRequest.interface) overlongRequest.packet
        overlongRequest.len r := by
  have hrequest : EchoRequest twoSided overlongRequest :=
    ⟨by decide +kernel, by decide +kernel, by decide +kernel, by decide +kernel, by decide +kernel⟩
  refine ⟨hrequest, ipAction_echoRequest true hrequest, ?_⟩
  rintro ⟨r, hr, hmirrors⟩
  exact absurd (plain_of_mirrors hr hmirrors).2.2 (by decide +kernel)

end NatRouter
