import NatRouter.Nat.Checksums
import NatRouter.Router.Passage

/-!
# The checksums of translated packets

A packet that a handler has translated is given to `sr_forward_ippacket`, which computes the header
checksum again, now over the whole header, if there is a route.  So the header is right in the end, unless
there is no route and the options count.

The checksum of a TCP segment has been computed as if the segment had all the bytes the packet was handed
on with, and that of an ICMP message as if it lay behind a header without options.  What these sums have
too much decides whether the checksum is right.
-/

namespace NatRouter

open ByteMemory InternetChecksum Interleaving

/-- There is a route. -/
def Routed (cfg : NetConfig) (dst : UInt32) : Prop :=
  ∃ lpm, srRtLookup cfg.routingTable dst = .ok (some lpm)

/-- The packet as `sr_forward_ippacket` leaves it. -/
def afterForward (cfg : NetConfig) (packet : ByteMem) : ByteMem :=
  match srRtLookup cfg.routingTable (SrIpHdr.ipDst packet) with
  | .ok (some _) => decrementTtl packet
  | _ => packet

/-- Where a packet goes after its translation: one from outside to the internal endpoint of the mapping
it belongs to, if there is one. -/
def translatedDst (s : SrNat) (p : ByteMem) (auxExt : UInt16) (type : SrNatMappingType) : UInt32 :=
  if isPrivateIp (ntohl (SrIpHdr.ipSrc p)) then SrIpHdr.ipDst p
  else
    match srNatLookupExternal s auxExt type with
    | some mapping => htonl mapping.ipInt
    | none => SrIpHdr.ipDst p

section TranslatedDst

variable {s : SrNat} {p : ByteMem} {auxExt : UInt16} {type : SrNatMappingType}

/-- A packet from inside keeps its destination. -/
lemma translatedDst_of_inside (hsrc : srcPrivate p) :
    translatedDst s p auxExt type = SrIpHdr.ipDst p := if_pos hsrc

/-- A packet from outside goes to the internal endpoint of its mapping. -/
lemma translatedDst_of_some (hsrc : ¬ srcPrivate p) {mapping : SrNatMappingCopy}
    (hlookup : srNatLookupExternal s auxExt type = some mapping) :
    translatedDst s p auxExt type = htonl mapping.ipInt :=
  (if_neg hsrc).trans (by simp only [hlookup])

/-- Without a mapping it keeps its destination. -/
lemma translatedDst_of_none (hsrc : ¬ srcPrivate p)
    (hlookup : srNatLookupExternal s auxExt type = none) :
    translatedDst s p auxExt type = SrIpHdr.ipDst p :=
  (if_neg hsrc).trans (by simp only [hlookup])

end TranslatedDst

section AfterForward

variable {cfg : NetConfig} {p q : ByteMem} {k : ℕ}

/-- With a route the packet has one hop less to live, without it is left alone. -/
lemma afterForward_eq (cfg : NetConfig) (q : ByteMem) :
    Routed cfg (SrIpHdr.ipDst q) ∧ afterForward cfg q = decrementTtl q ∨
      ¬ Routed cfg (SrIpHdr.ipDst q) ∧ afterForward cfg q = q := by
  unfold afterForward
  split
  · rename_i lpm hlpm
    exact .inl ⟨⟨lpm, hlpm⟩, rfl⟩
  · rename_i hnone
    exact .inr ⟨fun ⟨lpm, hlpm⟩ => hnone lpm hlpm, rfl⟩

/-- `sr_forward_ippacket` changes the byte of the hops and the checksum. -/
lemma afterForward_apply (cfg : NetConfig) {j : ℕ} (hj : j ≠ 8 ∧ j ≠ 10 ∧ j ≠ 11) :
    afterForward cfg q j = q j := by
  rcases afterForward_eq cfg q with ⟨-, hq⟩ | ⟨-, hq⟩
  · rw [hq, decrementTtl_apply hj]
  · rw [hq]

/-- The header is right after that. -/
lemma ipSumValid_decrementTtl (ho : 20 ≤ ipHeaderLen q) : IpSumValid (decrementTtl q) := by
  have hle := ipHeaderLen_le q
  have hhl : ipHeaderLen (decrementTtl q) = ipHeaderLen q :=
    ipHeaderLen_congr (decrementTtl_apply ⟨by omega, by omega, by omega⟩)
  set cleared := SrIpHdr.setIpTtl (SrIpHdr.setIpSum q 0) (SrIpHdr.ipTtl (SrIpHdr.setIpSum q 0) - 1)
    with hcleared
  have hzero : load16 cleared (0 + 10) = 0 := by
    rw [hcleared, SrIpHdr.setIpTtl, load16_store8_of_disjoint (by omega)]
    exact load16_store16_self q 10 0
  have hhl' : ipHeaderLen cleared = ipHeaderLen q := ipHeaderLen_congr rfl
  obtain ⟨hne, hdvd⟩ := cksum_filled (n := ipHeaderLen q) rfl (by omega) (by omega) hzero
  simp only [Nat.zero_add] at hne hdvd
  have hq : decrementTtl q = store16 cleared 10 (cksum cleared (ipHeaderLen q)) := by
    rw [← hhl']
    rfl
  have hpos : 0 < spanSum (decrementTtl q) 0 0 (ipHeaderLen q) := by
    refine @spanSum_pos _ 0 10 _ rfl (by omega) ?_
    rw [Nat.zero_add, hq, load16_store16_self]
    exact hne
  rw [IpSumValid, onesSum_words_iff, hhl]
  exact ⟨by rwa [hq], hpos⟩

/-- **The header of a translated packet** is right after `sr_forward_ippacket` if there is a route, or
the options count a multiple of 65535. -/
lemma ipSumValid_afterForward_iff (ho : 20 ≤ ipHeaderLen p) (h : HeaderFilled p q k) :
    IpSumValid (afterForward cfg q) ↔ Routed cfg (SrIpHdr.ipDst q) ∨
      65535 ∣ spanSum p 0 20 (ipHeaderLen p - 20) := by
  have hhl : ipHeaderLen q = ipHeaderLen p := ipHeaderLen_congr (h.kept 0 (.inl (by omega)))
  rcases afterForward_eq cfg q with ⟨hroute, hq⟩ | ⟨hroute, hq⟩
  · rw [hq]
    exact iff_of_true (ipSumValid_decrementTtl (hhl ▸ ho)) (.inl hroute)
  · have hpos : 0 < spanSum q 0 0 (ipHeaderLen p) :=
      @spanSum_pos q 0 10 _ rfl (by omega) (by rw [Nat.zero_add]; exact h.ipSum_ne)
    have hcut := spanSum_add q 0 0 20 (ipHeaderLen p - 20)
    rw [Nat.add_sub_cancel' ho, Nat.zero_add] at hcut
    have hoptions : spanSum q 0 20 (ipHeaderLen p - 20) = spanSum p 0 20 (ipHeaderLen p - 20) :=
      spanSum_congr fun j _ _ => h.kept (0 + j) (.inr (.inl (by omega)))
    have hheader := h.header
    rw [hq, IpSumValid, onesSum_words_iff, hhl, or_iff_right hroute, and_iff_left hpos]
    omega

/-- What a translated packet says of its lengths is what it said before. -/
lemma lengths_afterForward (cfg : NetConfig) (h : SameOutside k p q) :
    ipHeaderLen (afterForward cfg q) = ipHeaderLen p ∧
      ipTotalLen (afterForward cfg q) = ipTotalLen p := by
  have hlow : ∀ j < 8, afterForward cfg q j = p j := fun j hj =>
    (afterForward_apply cfg (by omega)).trans (h j (.inl (by omega)))
  have hfield : SrIpHdr.ipLen (afterForward cfg q) = SrIpHdr.ipLen p :=
    load16_congr fun j _ hj => hlow j (by omega)
  exact ⟨ipHeaderLen_congr (hlow 0 (by omega)), by rw [ipTotalLen, hfield]; rfl⟩

/-- So it is as long behind its header. -/
lemma ipLoadLen_afterForward (cfg : NetConfig) (h : SameOutside k p q) :
    ipLoadLen (afterForward cfg q) = ipLoadLen p := by
  obtain ⟨hhl, htotal⟩ := lengths_afterForward cfg h
  rw [ipLoadLen, hhl, htotal, ipLoadLen]

/-- What lies behind the header of a translated packet is not touched any more, nor are the addresses. -/
lemma load_afterForward (cfg : NetConfig) (q : ByteMem) {o : ℕ} (ho : 20 ≤ o) (n : ℕ) :
    spanSum (afterForward cfg q) o 0 n = spanSum q o 0 n ∧
      (pseudoWords (afterForward cfg q) n).sum = (pseudoWords q n).sum := by
  refine ⟨spanSum_congr fun j _ _ => afterForward_apply cfg (by omega), ?_⟩
  exact sum_pseudoWords_congr n (afterForward_apply cfg (by omega)) fun j _ _ =>
    afterForward_apply cfg (by omega)

end AfterForward

/-! ### TCP -/

section Tcp

variable {cfg : NetConfig} {p q : ByteMem} {len : UInt32} {isToNat : Bool} {s s' : SrNat}
  {amb : ℕ → Ambient}

/-- **The segment of a translated packet** is right if the bytes behind it and their number add up to a
multiple of 65535. -/
lemma tcpSumValid_afterForward_iff (ho : 20 ≤ ipHeaderLen p)
    (hmin : ipHeaderLen p + sizeofTcpHdr ≤ ipTotalLen p) (hmax : ipTotalLen p ≤ len.toNat)
    (hlen : len ≤ ipMaxpacket) (h : TcpFilled p q (len.toNat - ipHeaderLen p)) :
    TcpSumValid (afterForward cfg q) (ipLoadLen (afterForward cfg q)) ↔
      65535 ∣ spanSum p (ipHeaderLen p) (ipLoadLen p) (len.toNat - ipTotalLen p) +
        (len.toNat - ipTotalLen p) := by
  have hle : len.toNat ≤ 65535 := UInt32.le_iff_toNat_le.mp hlen
  obtain ⟨hhl, htotal⟩ := lengths_afterForward cfg h.kept
  have hload := ipLoadLen_afterForward cfg h.kept
  have hsize : ipHeaderLen p + ipLoadLen p = ipTotalLen p := ipHeaderLen_add_ipLoadLen (by omega)
  unfold sizeofTcpHdr at hmin
  rw [hload, tcpSumValid_iff (by omega) (by omega), hhl]
  obtain ⟨hspan, hpseudo⟩ := load_afterForward cfg q ho (ipLoadLen p)
  have hcut := spanSum_add q (ipHeaderLen p) 0 (ipLoadLen p) (len.toNat - ipTotalLen p)
  have hbehind : spanSum q (ipHeaderLen p) (ipLoadLen p) (len.toNat - ipTotalLen p) =
      spanSum p (ipHeaderLen p) (ipLoadLen p) (len.toNat - ipTotalLen p) :=
    spanSum_congr fun j _ _ => h.kept _ (.inr (.inr (by unfold sizeofTcpHdr; omega)))
  have hsegment := h.segment
  rw [show len.toNat - ipHeaderLen p = ipLoadLen p + (len.toNat - ipTotalLen p) by omega, hcut,
    Nat.zero_add, sum_pseudoWords] at hsegment
  rw [hspan, hpseudo, sum_pseudoWords, ← hbehind]
  omega

/-- Where a TCP packet goes that is let pass. -/
lemma ipDst_of_natHandleTcp (ho : 20 ≤ ipHeaderLen p) (htrans : TcpTranslated p isToNat)
    (hrun : (natHandleTcp cfg p len isToNat).run natExec amb s = .ok ((1, q), s')) :
    SrIpHdr.ipDst q =
      translatedDst s p (ntohs (SrTcpHdr.dstPort p (ipHeaderLen p))) .natMappingTcp := by
  have hone : ∀ code : ℤ, ((1, q) : ℤ × ByteMem) = (code, p) → code = 1 := fun code h =>
    (congrArg Prod.fst h).symm
  rcases natHandleTcp_run_cases hrun with hzero | ⟨hminus, -⟩ | ⟨-, hpasses⟩
  · exact absurd (hone 0 hzero) (by decide)
  · exact absurd (hone (-1) hminus) (by decide)
  · change TcpPasses cfg s p len isToNat q at hpasses
    cases hpasses with
    | inside hsrc => exact (translatedDst_of_inside hsrc).symm
    | outbound hsrc => exact (ipDst_tcpSourced p len ho ..).trans (translatedDst_of_inside hsrc).symm
    | inbound hsrc _ hlookup =>
      rw [translatedDst_of_some hsrc hlookup]
      exact congrArg TcpFields.ipDst (tcpFields_tcpDestined p len ho ..)
    | unknown hsrc _ hlookup =>
      rw [translatedDst_of_none hsrc hlookup]
      exact congrArg TcpFields.ipDst (tcpFields_tcpFilled p len ho)
    | outside hsrc =>
      rcases htrans with ⟨hsrc', -⟩ | ⟨-, hto⟩
      · exact absurd hsrc' hsrc
      · cases hto

/-- **The checksums of a translated TCP packet** are right after `sr_forward_ippacket` if the bytes behind
the segment and their number add up to a multiple of 65535, and there is a route for the packet or its IP
options count a multiple of 65535. -/
theorem tcp_checksums_valid_iff (p : TcpPacket) (htrans : TcpTranslated p.buf isToNat)
    (hmin : ipHeaderLen p.buf + sizeofTcpHdr ≤ ipTotalLen p.buf)
    (hmax : ipTotalLen p.buf ≤ p.len.toNat)
    (hrun : (natHandleTcp cfg p.buf p.len isToNat).run natExec amb s = .ok ((1, q), s')) :
    IpSumValid (afterForward cfg q) ∧
        TcpSumValid (afterForward cfg q) (ipLoadLen (afterForward cfg q)) ↔
      65535 ∣ spanSum p.buf (ipHeaderLen p.buf) (ipLoadLen p.buf) (p.len.toNat - ipTotalLen p.buf) +
          (p.len.toNat - ipTotalLen p.buf) ∧
        (Routed cfg (translatedDst s p.buf (ntohs (SrTcpHdr.dstPort p.buf (ipHeaderLen p.buf)))
            .natMappingTcp) ∨
          65535 ∣ spanSum p.buf 0 20 (ipHeaderLen p.buf - 20)) := by
  have hfilled : TcpFilled p.buf q (p.len.toNat - ipHeaderLen p.buf) :=
    (natHandleTcp_filled p.offset_ge p.fits p.len_le htrans).of_run hrun rfl
  rw [ipSumValid_afterForward_iff p.offset_ge hfilled.toHeaderFilled,
    tcpSumValid_afterForward_iff p.offset_ge hmin hmax p.len_le hfilled,
    ipDst_of_natHandleTcp p.offset_ge htrans hrun, and_comm]

end Tcp

/-- A SYN from 10.0.0.1:5000 to 8.8.8.8:80 in 40 bytes, with the right checksums and zeros behind it. -/
def synBuf : ByteMem :=
  ofBytes [0x45, 0, 0, 40, 0, 0, 0, 0, 64, 6, 0x60, 0xc0, 10, 0, 0, 1, 8, 8, 8, 8,
    0x13, 0x88, 0, 80, 0, 0, 0, 0, 0, 0, 0, 0, 0x50, 2, 0, 0, 0x81, 0xfa]

/-- The SYN as it is received, alone or in a frame that pads it to the least length a frame has. -/
def synIn (padded : Bool) : TcpPacket where
  buf := synBuf
  len := if padded then 46 else 40
  isTcp := rfl
  headerLen := by decide
  fits := by cases padded <;> decide
  len_le := by cases padded <;> decide

/-- It goes from inside to outside. -/
lemma tcpTranslated_synBuf : TcpTranslated synBuf false :=
  .inl ⟨show isPrivateIp (ntohl (SrIpHdr.ipSrc synBuf)) = true by decide +kernel,
    show ¬ isPrivateIp (ntohl (SrIpHdr.ipDst synBuf)) = true by decide +kernel⟩

/-- There is a route for it. -/
lemma lookup_synBuf :
    srRtLookup oneRoute.routingTable (SrIpHdr.ipDst synBuf) = .ok (some outerRoute) := by
  have hdst : SrIpHdr.ipDst synBuf = htonl 0x08080808 := by decide +kernel
  rw [hdst]
  exact hasRoute_oneRoute.lookup

/-- As the first segment of its endpoint it is let pass. -/
lemma run_synIn (padded : Bool) : ∃ q s', (natHandleTcp oneRoute (synIn padded).buf (synIn padded).len
    false).run natExec quiet startState = .ok ((1, q), s') := by
  rcases tcpTranslated_synBuf with ⟨hsrc, hdst⟩ | ⟨-, hto⟩
  · have hroute : HasRoute oneRoute (routedDst synBuf (ipHeaderLen synBuf)
        (htons (externalId startState (tcpKey synBuf)))) outerRoute outerInterface := by
      rw [routedDst_eq synBuf (show 20 ≤ ipHeaderLen synBuf from (synIn padded).offset_ge)]
      exact ⟨lookup_synBuf, rfl⟩
    have hpasses : TcpPasses oneRoute startState synBuf (synIn padded).len false _ :=
      .outbound hsrc hdst (takesOn_startState synBuf) (synIn padded).tcpSegmentLen_nonneg hroute
    obtain ⟨s', hrun⟩ := hpasses.run quiet
    exact ⟨_, s', hrun⟩
  · cases hto

/-- Without anything behind it the SYN goes out with the right checksums. -/
theorem tcp_checksums_valid_synIn : ∃ q s',
    (natHandleTcp oneRoute (synIn false).buf (synIn false).len false).run natExec quiet startState =
      .ok ((1, q), s') ∧
    IpSumValid (afterForward oneRoute q) ∧
      TcpSumValid (afterForward oneRoute q) (ipLoadLen (afterForward oneRoute q)) := by
  obtain ⟨q, s', hrun⟩ := run_synIn false
  refine ⟨q, s', hrun, (tcp_checksums_valid_iff (synIn false) tcpTranslated_synBuf (by decide)
    (by decide) hrun).mpr ⟨by decide +kernel, .inl ⟨outerRoute, ?_⟩⟩⟩
  exact lookup_synBuf

/-- With six bytes of zeros behind it the SYN arrives with the right checksums and leaves with a wrong
one. -/
theorem padded_segment_wrong :
    Accepted (synIn true).buf (synIn true).len ∧ TcpSumValid (synIn true).buf 20 ∧ ∃ q s',
      (natHandleTcp oneRoute (synIn true).buf (synIn true).len false).run natExec quiet startState =
        .ok ((1, q), s') ∧
      ¬ TcpSumValid (afterForward oneRoute q) (ipLoadLen (afterForward oneRoute q)) := by
  refine ⟨by decide +kernel, by decide +kernel, ?_⟩
  obtain ⟨q, s', hrun⟩ := run_synIn true
  have hfilled := (natHandleTcp_filled (synIn true).offset_ge (synIn true).fits (synIn true).len_le
    tcpTranslated_synBuf).of_run hrun rfl
  refine ⟨q, s', hrun, ?_⟩
  rw [tcpSumValid_afterForward_iff (synIn true).offset_ge (by decide) (by decide) (synIn true).len_le
    hfilled]
  decide +kernel

/-! ### ICMP -/

section Icmp

variable {cfg : NetConfig} {p q : ByteMem} {s s' : SrNat} {amb : ℕ → Ambient}

/-- **The message of a translated packet** is right if the bytes behind it that its checksum takes for a
part of it, as many as there are options, count a multiple of 65535. -/
lemma icmpSumValid_afterForward_iff (ho : 20 ≤ ipHeaderLen p)
    (hmin : ipHeaderLen p + sizeofIcmpHdr ≤ ipTotalLen p)
    (h : IcmpFilled p q (ipTotalLen p - sizeofIpHdr)) :
    IcmpSumValid (afterForward cfg q) (ipLoadLen (afterForward cfg q)) ↔
      65535 ∣ spanSum p (ipHeaderLen p) (ipLoadLen p) (ipHeaderLen p - 20) := by
  obtain ⟨hhl, htotal⟩ := lengths_afterForward cfg h.kept
  have hload := ipLoadLen_afterForward cfg h.kept
  have hsize : ipHeaderLen p + ipLoadLen p = ipTotalLen p := ipHeaderLen_add_ipLoadLen (by omega)
  unfold sizeofIcmpHdr at hmin
  obtain ⟨hspan, -⟩ := load_afterForward cfg q ho (ipLoadLen p)
  have hcut := spanSum_add q (ipHeaderLen p) 0 (ipLoadLen p) (ipHeaderLen p - 20)
  have hbehind : spanSum q (ipHeaderLen p) (ipLoadLen p) (ipHeaderLen p - 20) =
      spanSum p (ipHeaderLen p) (ipLoadLen p) (ipHeaderLen p - 20) :=
    spanSum_congr fun j _ _ => h.kept _ (.inr (.inr (by unfold sizeofIcmpHdr; omega)))
  have hpos : 0 < spanSum q (ipHeaderLen p) 0 (ipLoadLen p) :=
    @spanSum_pos q (ipHeaderLen p) 2 _ rfl (by omega) h.icmpSum_ne
  have hmessage := h.message
  rw [show ipTotalLen p - sizeofIpHdr = ipLoadLen p + (ipHeaderLen p - 20) by
    unfold sizeofIpHdr; omega, hcut, Nat.zero_add] at hmessage
  rw [hload, IcmpSumValid, onesSum_words_iff, hhl, hspan, and_iff_left hpos, ← hbehind]
  omega

/-- Where an ICMP packet goes that is translated. -/
lemma ipDst_of_natHandleIcmp (ho : 20 ≤ ipHeaderLen p)
    (hrun : (natHandleIcmp cfg p).run natExec amb s = .ok ((1, q), s')) :
    SrIpHdr.ipDst q =
      translatedDst s p (ntohs (SrIcmpHdr.identifier p (ipHeaderLen p))) .natMappingIcmp := by
  rcases natHandleIcmp_run_cases hrun with ⟨-, htrans⟩ | ⟨hzero, -⟩
  · cases htrans with
    | outbound hsrc => exact (ipDst_icmpSourced p ho ..).trans (translatedDst_of_inside hsrc).symm
    | inbound hsrc hlookup =>
      rw [translatedDst_of_some hsrc hlookup]
      exact congrArg IcmpFields.ipDst (icmpFields_icmpDestined p ho ..)
  · exact absurd hzero (by decide)

/-- **The checksums of a translated ICMP packet** are right after `sr_forward_ippacket` if the bytes behind
the message, as many as there are options, count a multiple of 65535, and there is a route for the packet
or its IP options count a multiple of 65535. -/
theorem icmp_checksums_valid_iff (p : IcmpPacket)
    (hmin : ipHeaderLen p.buf + sizeofIcmpHdr ≤ ipTotalLen p.buf)
    (hrun : (natHandleIcmp cfg p.buf).run natExec amb s = .ok ((1, q), s')) :
    IpSumValid (afterForward cfg q) ∧
        IcmpSumValid (afterForward cfg q) (ipLoadLen (afterForward cfg q)) ↔
      65535 ∣ spanSum p.buf (ipHeaderLen p.buf) (ipLoadLen p.buf) (ipHeaderLen p.buf - 20) ∧
        (Routed cfg (translatedDst s p.buf
            (ntohs (SrIcmpHdr.identifier p.buf (ipHeaderLen p.buf))) .natMappingIcmp) ∨
          65535 ∣ spanSum p.buf 0 20 (ipHeaderLen p.buf - 20)) := by
  have hfilled : IcmpFilled p.buf q (ipTotalLen p.buf - sizeofIpHdr) :=
    (natHandleIcmp_filled p.offset_ge hmin).of_run hrun rfl
  rw [ipSumValid_afterForward_iff p.offset_ge hfilled.toHeaderFilled,
    icmpSumValid_afterForward_iff p.offset_ge hmin hfilled, ipDst_of_natHandleIcmp p.offset_ge hrun,
    and_comm]

end Icmp

/-- A ping from 10.0.0.1 to 8.8.8.8 with four bytes of IP options, in 32 bytes, with the right checksums.
The byte behind it is 0, or 1. -/
def pingBuf (junk : Bool) : ByteMem :=
  ofBytes [0x46, 0, 0, 32, 0, 0, 0, 0, 64, 1, 0x5d, 0xcc, 10, 0, 0, 1, 8, 8, 8, 8, 1, 1, 1, 0,
    8, 0, 0xf7, 0xf7, 0, 7, 0, 1, if junk then 1 else 0]

/-- The ping as it is received, in a frame that pads it to the least length a frame has. -/
def pingIn (junk : Bool) : IcmpPacket where
  buf := pingBuf junk
  len := 46
  isIcmp := rfl
  headerLen := by cases junk <;> decide
  fits := by cases junk <;> decide
  len_le := by decide

/-- There is a route for it. -/
lemma lookup_pingBuf (junk : Bool) :
    srRtLookup oneRoute.routingTable (SrIpHdr.ipDst (pingBuf junk)) = .ok (some outerRoute) := by
  have hdst : SrIpHdr.ipDst (pingBuf junk) = htonl 0x08080808 := by cases junk <;> decide +kernel
  rw [hdst]
  exact hasRoute_oneRoute.lookup

/-- It comes from inside. -/
lemma srcPrivate_pingBuf (junk : Bool) : srcPrivate (pingBuf junk) := by
  cases junk
  · exact show isPrivateIp (ntohl (SrIpHdr.ipSrc (pingBuf false))) = true by decide +kernel
  · exact show isPrivateIp (ntohl (SrIpHdr.ipSrc (pingBuf true))) = true by decide +kernel

/-- It is translated. -/
lemma run_pingIn (junk : Bool) : ∃ q s',
    (natHandleIcmp oneRoute (pingIn junk).buf).run natExec quiet startState = .ok ((1, q), s') := by
  have hdst : ¬ dstPrivate (pingBuf junk) := by
    cases junk
    · exact show ¬ isPrivateIp (ntohl (SrIpHdr.ipDst (pingBuf false))) = true by decide +kernel
    · exact show ¬ isPrivateIp (ntohl (SrIpHdr.ipDst (pingBuf true))) = true by decide +kernel
  have htranslates : IcmpTranslates oneRoute startState (pingBuf junk) _ :=
    .outbound (srcPrivate_pingBuf junk) hdst ⟨lookup_pingBuf junk, rfl⟩
  obtain ⟨s', hrun⟩ := htranslates.run quiet
  exact ⟨_, s', hrun⟩

/-- With zeros behind it the ping goes out with the right checksums. -/
theorem icmp_checksums_valid_pingIn : ∃ q s',
    (natHandleIcmp oneRoute (pingIn false).buf).run natExec quiet startState = .ok ((1, q), s') ∧
    IpSumValid (afterForward oneRoute q) ∧
      IcmpSumValid (afterForward oneRoute q) (ipLoadLen (afterForward oneRoute q)) := by
  obtain ⟨q, s', hrun⟩ := run_pingIn false
  refine ⟨q, s', hrun, (icmp_checksums_valid_iff (pingIn false) (by decide) hrun).mpr
    ⟨by decide +kernel, .inl ⟨outerRoute, ?_⟩⟩⟩
  exact (congrArg (srRtLookup oneRoute.routingTable)
    (translatedDst_of_inside (srcPrivate_pingBuf false))).trans (lookup_pingBuf false)

/-- With a byte behind it that is not zero the ping arrives with the right checksums and leaves with a
wrong one. -/
theorem options_message_wrong :
    Accepted (pingIn true).buf (pingIn true).len ∧ IcmpSumValid (pingIn true).buf 8 ∧ ∃ q s',
      (natHandleIcmp oneRoute (pingIn true).buf).run natExec quiet startState = .ok ((1, q), s') ∧
      ¬ IcmpSumValid (afterForward oneRoute q) (ipLoadLen (afterForward oneRoute q)) := by
  refine ⟨by decide +kernel, by decide +kernel, ?_⟩
  obtain ⟨q, s', hrun⟩ := run_pingIn true
  have hfilled := (natHandleIcmp_filled (pingIn true).offset_ge (by decide)).of_run hrun rfl
  refine ⟨q, s', hrun, ?_⟩
  rw [icmpSumValid_afterForward_iff (pingIn true).offset_ge (by decide) hfilled]
  decide +kernel

end NatRouter
