import NatRouter.Router.Effects
import NatRouter.Router.Passage

/-!
# What ICMP errors quote

An ICMP error carries a piece of the packet it is about: its IP header and the first eight bytes
behind it, by which the sender finds the connection.  `sr_create_icmppacket` copies 28 bytes from
the start of the packet, whatever the length of the header is, and however short the packet.  So the
quote is right if the header has no options and eight bytes follow it (`quotes_iff`).
-/

namespace NatRouter

open ByteMemory

variable {ctx : Surroundings} {sr sr' : SrInstance} {p p' : ByteMem} {len : UInt32}
  {type code : UInt8}

/-! ### What the message is -/

/-- The content of the message, but for the checksum. -/
def errorContent (p : ByteMem) (type code : UInt8) : ByteMem :=
  storeBlock (store8 (store8 (fun _ => 0) 1 code) 0 type) sizeofIcmpHdr p icmpDataSize

/-- The message, as `sr_send_icmp` makes it for the interface `i`. -/
def errorPacket (i : SrIf) (p : ByteMem) (type code : UInt8) : ByteMem :=
  let icmpPacket := SrIcmpHdr.setIcmpSum (errorContent p type code) 0 0
  srCreateIppacket sizeofIcmpPacket
    (SrIcmpHdr.setIcmpSum icmpPacket 0 (cksum icmpPacket sizeofIcmpPacket.toNat)) ipProtocolIcmp
    i.ip
    (SrIpHdr.ipSrc p)

/-- The message is made with the address of an interface. -/
lemma icmpIppacket_error (i : SrIf) (p : ByteMem) (htype : type ≠ icmpTypeEchoreply) :
    icmpIppacket (some i) p type code = .ok (56, errorPacket i p type code) := by
  simp only [icmpIppacket, srCreateIcmppacket, icmpContent, if_pos htype, icmpSourceIp,
    if_neg htype]
  rfl

/-- Behind both headers it has the first bytes of the packet. -/
lemma errorPacket_apply (i : SrIf) (p : ByteMem) {k : ℕ} (hk : k < icmpDataSize) :
    errorPacket i p type code (sizeofIpHdr + sizeofIcmpHdr + k) = p k := by
  have hload : sizeofIcmpHdr + k < sizeofIcmpPacket.toNat := by
    have hsize : icmpDataSize = 28 := rfl
    have hpacket : sizeofIcmpPacket.toNat = 36 := rfl
    unfold sizeofIcmpHdr
    omega
  unfold errorPacket
  rw [Nat.add_assoc, srCreateIppacket_apply_add hload]
  have hbehind : ∀ (b : ByteMem) (v : UInt16),
      SrIcmpHdr.setIcmpSum b 0 v (sizeofIcmpHdr + k) = b (sizeofIcmpHdr + k) :=
    fun b v => store16_apply_of_disjoint (.inr (by unfold sizeofIcmpHdr; omega))
  rw [hbehind, hbehind]
  exact storeBlock_apply_add hk

/-- It depends on them only. -/
lemma errorPacket_congr (i : SrIf) (hsame : ∀ k < icmpDataSize, p' k = p k) :
    errorPacket i p' type code = errorPacket i p type code := by
  have hcontent : errorContent p' type code = errorContent p type code := storeBlock_congr hsame
  have hsrc : SrIpHdr.ipSrc p' = SrIpHdr.ipSrc p :=
    load32_congr fun k _ hk => hsame k (Nat.lt_trans hk (by decide))
  unfold errorPacket
  rw [hcontent, hsrc]

/-! ### What it should quote -/

/-- The data of an ICMP message. -/
def icmpData (message : UInt32 × ByteMem) : List UInt8 :=
  bytes (fun k => message.2 (sizeofIpHdr + sizeofIcmpHdr + k))
    (message.1.toNat - sizeofIpHdr - sizeofIcmpHdr)

/-- The IP header of a packet of `len` bytes, and the first eight bytes behind it, with zeros for
those that the packet does not have. -/
def quoteOf (p : ByteMem) (len : UInt32) : List UInt8 :=
  bytes p (ipHeaderLen p) ++
    bytes (fun k => if ipHeaderLen p + k < len.toNat then p (ipHeaderLen p + k) else 0) 8

/-- The message about a packet of `len` bytes quotes it as it should. -/
structure Quotes (interfaceInfo : Option SrIf) (p : ByteMem) (len : UInt32) (type code : UInt8)
    (message : UInt32 × ByteMem) : Prop where
  /-- Its data are the header and the bytes behind it. -/
  data : icmpData message = quoteOf p len
  /-- Nothing in them depends on what lies behind the packet. -/
  inside : ∀ p', (∀ k < len.toNat, p' k = p k) → ∃ message',
    icmpIppacket interfaceInfo p' type code = .ok message' ∧ icmpData message' = icmpData message

/-- The data of a message are the first bytes of the packet. -/
lemma icmpData_errorPacket (i : SrIf) (p : ByteMem) :
    icmpData (56, errorPacket i p type code) = bytes p icmpDataSize := by
  refine List.map_congr_left fun k hk => errorPacket_apply i p ?_
  exact List.mem_range.mp hk

/-- The data are right if there are no options and enough data. -/
lemma quotes_of_plain (i : SrIf) (htype : type ≠ icmpTypeEchoreply) (ho : ipHeaderLen p = 20)
    (hlen : 28 ≤ len.toNat) : Quotes (some i) p len type code (56, errorPacket i p type code) := by
  constructor
  case data =>
    have hbehind : ∀ k ∈ List.range 8,
        (if ipHeaderLen p + k < len.toNat then p (ipHeaderLen p + k) else 0) = p (20 + k) := by
      intro k hk
      have hk' := List.mem_range.mp hk
      rw [ho, if_pos (by omega)]
    rw [icmpData_errorPacket, quoteOf, show icmpDataSize = 20 + 8 from rfl, bytes_add, ho]
    congr 1
    rw [← ho]
    exact (List.map_congr_left (ho ▸ hbehind)).symm
  case inside =>
    intro p' hsame
    refine ⟨_, icmpIppacket_error i p' htype, ?_⟩
    rw [errorPacket_congr i fun k hk => hsame k (Nat.lt_of_lt_of_le hk hlen)]

/-- They are right only then: the quote is 28 bytes long, and its last byte is the 28th of the
packet. -/
lemma plain_of_quotes {i : SrIf} (htype : type ≠ icmpTypeEchoreply)
    (h : Quotes (some i) p len type code (56, errorPacket i p type code)) :
    ipHeaderLen p = 20 ∧ 28 ≤ len.toNat := by
  constructor
  · have hcount := congrArg List.length h.data
    rw [icmpData_errorPacket, quoteOf, List.length_append, length_bytes, length_bytes,
      length_bytes] at hcount
    have hsize : icmpDataSize = 28 := rfl
    omega
  · by_contra hshort
    have hsame : ∀ k < len.toNat, store8 p 27 (p 27 + 1) k = p k :=
      fun k hk => store8_apply_of_ne (by omega)
    obtain ⟨message, hmessage, hdata⟩ := h.inside _ hsame
    rw [icmpIppacket_error i _ htype] at hmessage
    obtain rfl := Except.ok.inj hmessage
    rw [icmpData_errorPacket, icmpData_errorPacket] at hdata
    have hlast : store8 p 27 (p 27 + 1) 27 = p 27 :=
      List.map_inj_left.mp hdata 27 (List.mem_range.mpr (by decide))
    rw [store8_apply_self] at hlast
    exact absurd hlast (by simp)

/-- **ICMP errors quote the packet they are about**, exactly if its IP header has no options and it
has at least eight bytes behind the header. -/
theorem quotes_iff {interface : IfName} (htype : type ≠ icmpTypeEchoreply)
    (hsend : srSendIcmp ctx sr p interface type code = .ok sr') :
    ∃ message, icmpIppacket (srGetInterface sr.cfg.ifList interface) p type code = .ok message ∧
      (Quotes (srGetInterface sr.cfg.ifList interface) p len type code message ↔
        SrIpHdr.ipHl p = 5 ∧ 28 ≤ len.toNat) := by
  obtain ⟨loadLen, ipPacket, hmessage, -⟩ := srSendIcmp_cases hsend
  obtain ⟨i, hi⟩ := interface_of_icmpIppacket htype hmessage
  rw [hi]
  refine ⟨_, icmpIppacket_error i p htype, ?_, ?_⟩
  · intro h
    obtain ⟨ho, hlen⟩ := plain_of_quotes htype h
    unfold ipHeaderLen at ho
    exact ⟨by omega, hlen⟩
  · rintro ⟨hhl, hlen⟩
    exact quotes_of_plain i htype (by rw [ipHeaderLen, hhl]) hlen

/-- A packet whose IP header has `hl` words. -/
def headerOfWords (hl : UInt8) : ByteMem := ofBytes [0x40 + hl]

/-- A packet of 60 bytes without options is quoted as it should. -/
theorem quotes_plain : ∃ sr', srSendIcmp quietSurroundings (natRouter startState) (headerOfWords 5)
      outerInterface.name icmpTypeTimeexceeded 0 = .ok sr' ∧
    ∃ message, icmpIppacket (srGetInterface twoSided.ifList outerInterface.name) (headerOfWords 5)
        icmpTypeTimeexceeded 0 = .ok message ∧
      Quotes (srGetInterface twoSided.ifList outerInterface.name) (headerOfWords 5) 60
        icmpTypeTimeexceeded 0 message := by
  obtain ⟨sr', hsend⟩ := @srSendIcmp_of_interface quietSurroundings (natRouter startState)
    (headerOfWords 5) outerInterface.name icmpTypeTimeexceeded 0 (by decide) outerInterface rfl
  have htype : icmpTypeTimeexceeded ≠ icmpTypeEchoreply := by decide
  obtain ⟨message, hmessage, hquotes⟩ := quotes_iff htype hsend
  exact ⟨sr', hsend, message, hmessage, hquotes.mpr ⟨by decide, by decide⟩⟩

/-- A packet of 60 bytes with one word of options is not: four of the eight bytes behind its header
are left out. -/
theorem not_quotes_options :
    ∃ sr', srSendIcmp quietSurroundings (natRouter startState) (headerOfWords 6)
      outerInterface.name icmpTypeTimeexceeded 0 = .ok sr' ∧
    5 ≤ SrIpHdr.ipHl (headerOfWords 6) ∧ ipHeaderLen (headerOfWords 6) ≤ (60 : UInt32).toNat ∧
    ∀ message, icmpIppacket (srGetInterface twoSided.ifList outerInterface.name) (headerOfWords 6)
        icmpTypeTimeexceeded 0 = .ok message →
      ¬ Quotes (srGetInterface twoSided.ifList outerInterface.name) (headerOfWords 6) 60
        icmpTypeTimeexceeded 0 message := by
  have hi : srGetInterface twoSided.ifList outerInterface.name = some outerInterface := rfl
  obtain ⟨sr', hsend⟩ := @srSendIcmp_of_interface quietSurroundings (natRouter startState)
    (headerOfWords 6) outerInterface.name icmpTypeTimeexceeded 0 (by decide) outerInterface hi
  refine ⟨sr', hsend, by decide, by decide, ?_⟩
  intro message hmessage h
  rw [hi, icmpIppacket_error outerInterface _ (by decide)] at hmessage
  obtain rfl := Except.ok.inj hmessage
  rw [hi] at h
  exact absurd (plain_of_quotes (by decide) h).1 (by decide)

end NatRouter
