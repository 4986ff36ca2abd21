import NatRouter.Nat.Rewriting
import NatRouter.Nat.System
import NatRouter.Router.Frames

/-!
# Frames that are long enough

None of the functions on the way of a frame checks that the frame has the bytes they touch:
`sr_handle_ippacket` makes sure of the 20 bytes of an IP header without options, and that is all.
`FrameFits` says which lengths are enough, field by field and path by path; if it holds, every access
is inside the frame, whatever the tables of the router hold and whatever other threads do
(`staysInside_of_fits`).
-/

namespace NatRouter

open ByteMemory Interleaving Footprint

/-! ### The condition -/

/-- The number of bytes that `nat_handle_icmp` sums. -/
def icmpSize (p : ByteMem) : ℕ := (ntohs (SrIpHdr.ipLen p)).toNat - sizeofIpHdr

/-- The identifier of an ICMP message is one that `find_next_id` hands out. -/
def HasExternalId (p : ByteMem) : Prop :=
  defaultId ≤ (ntohs (SrIcmpHdr.identifier p (ipHeaderLen p))).toNat

/-- `nat_handle_icmp` may change the destination of a message from inside to 255.255.255.255.  It does
if the header is so short that the identifier or the checksum of the message lies in the
destination address. -/
def LosesBroadcast (p : ByteMem) : Prop :=
  ipHeaderLen p = 12 ∨ ipHeaderLen p = 16 ∧ (icmpSize p = 1 ∨ 5 ≤ icmpSize p)

/-- The type of the ICMP message. -/
def messageType (p : ByteMem) : UInt8 := SrIcmpHdr.icmpType p (ipHeaderLen p)

/-- An ICMP error may be sent about the packet.  Only a broadcast is sure to be for the router; what
is not may be without a route. -/
def ErrorPossible (natEnabled : Bool) (p : ByteMem) (len : UInt32) : Prop :=
  SrIpHdr.ipDst p ≠ ipBroadcastAddr ∨
    if SrIpHdr.ipP p = ipProtocolIcmp then
      natEnabled = true ∧ IcmpSumOk p len ∧ messageType p = 0 ∧
        (srcPrivate p ∧ LosesBroadcast p ∨ ¬ srcPrivate p ∧ HasExternalId p)
    else if natEnabled = true ∧ SrIpHdr.ipP p = ipProtocolTcp then srcPrivate p ∨ ¬ isTcpSyn p
    else True

/-- An ICMP message may be given to `nat_handle_icmp` and be looked at there: in transit, or as an
echo reply to the router. -/
def IcmpTranslated (p : ByteMem) (len : UInt32) : Prop :=
  ¬ (srcPrivate p ∧ dstPrivate p) ∧
    (SrIpHdr.ipDst p ≠ ipBroadcastAddr ∧ SrIpHdr.ipTtl p ≠ 1 ∨ IcmpSumOk p len ∧ messageType p = 0)

/-- An IP packet that passes the tests of its header is long enough for what may be done with it. -/
structure IpFits (natEnabled : Bool) (p : ByteMem) (len : UInt32) : Prop where
  /-- An error quotes 28 bytes. -/
  quote : ErrorPossible natEnabled p len → icmpDataSize ≤ len.toNat
  /-- The checksum of an ICMP message is looked at. -/
  icmpSum : SrIpHdr.ipP p = ipProtocolIcmp → ipHeaderLen p + 4 ≤ len.toNat
  /-- The reply to an echo request has the length that `ip_len` says. -/
  echo : SrIpHdr.ipP p = ipProtocolIcmp → IcmpSumOk p len → messageType p = 8 →
    sizeofIpHdr + sizeofIcmpHdr ≤ (ntohs (SrIpHdr.ipLen p)).toNat ∧
      (ntohs (SrIpHdr.ipLen p)).toNat ≤ len.toNat
  /-- The NAT looks at the identifier of a message. -/
  identifier : natEnabled = true → SrIpHdr.ipP p = ipProtocolIcmp → IcmpTranslated p len →
    ipHeaderLen p + 6 ≤ len.toNat
  /-- For a message it translates, it sums what `ip_len` says. -/
  message : natEnabled = true → SrIpHdr.ipP p = ipProtocolIcmp → IcmpTranslated p len →
    srcPrivate p ∨ HasExternalId p → ipHeaderLen p + icmpSize p ≤ len.toNat
  /-- A segment from inside gets a new checksum, and with a header length of 0 a new header length as
  well, of which nothing is known. -/
  outbound : natEnabled = true → SrIpHdr.ipP p = ipProtocolTcp → srcPrivate p → ¬ dstPrivate p →
    ipHeaderLen p + 18 ≤ len.toNat ∧ (ipHeaderLen p = 0 → 60 ≤ len.toNat)
  /-- The flags of a segment from outside are looked at, and it gets a new checksum unless it is a
  SYN. -/
  inbound : natEnabled = true → SrIpHdr.ipP p = ipProtocolTcp → ¬ srcPrivate p →
    ipHeaderLen p + 14 ≤ len.toNat ∧ (¬ isTcpSyn p → ipHeaderLen p + 18 ≤ len.toNat)

/-- An ARP packet is long enough for the fields that are looked at. -/
def ArpFits (p : ByteMem) (len : UInt32) : Prop :=
  2 ≤ len.toNat ∧ (ntohs (SrArpPacket.arHrd p) = arpHrdEthernet →
    4 ≤ len.toNat ∧ (ntohs (SrArpPacket.arPro p) = arpProIp → 18 ≤ len.toNat))

/-- A frame is long enough for what may be done with it. -/
structure FrameFits (natEnabled : Bool) (frame : ByteMem) (len : UInt32) : Prop where
  /-- It has an Ethernet header. -/
  header : sizeofEthernetHdr ≤ len.toNat
  /-- An ARP packet is long enough. -/
  arp : ntohs (load16 frame 12) = ethertypeArp → ArpFits (frameLoad frame) (frameLoadLen len)
  /-- The header of an IP packet is summed if the packet has a length that is allowed. -/
  ipHeader : ntohs (load16 frame 12) = ethertypeIp → frameLoadLen len ≤ ipMaxpacket →
    UInt32.ofNat sizeofIpHdr < frameLoadLen len →
    ipHeaderLen (frameLoad frame) ≤ (frameLoadLen len).toNat
  /-- An IP packet that passes the tests is long enough. -/
  ip : ntohs (load16 frame 12) = ethertypeIp → Accepted (frameLoad frame) (frameLoadLen len) →
    IpFits natEnabled (frameLoad frame) (frameLoadLen len)

/-! ### What calls can answer -/

/-- A lookup by an external id that is not handed out finds nothing. -/
def lookupOk (auxExt : UInt16) : Option SrNatMappingCopy → Prop
  | none => True
  | some _ => defaultId ≤ auxExt.toNat

/-- What the calls of the NAT can answer. -/
def AnswerOk : (c : NatCall) → c.Result → Prop
  | .lookupExternal auxExt _, r => lookupOk auxExt r
  | _, _ => True

/-- All external ids are ones that `find_next_id` hands out, or the 65535 it is made into when there
is none. -/
def IdsInRange (s : SrNat) : Prop := ∀ m ∈ s.mappings, defaultId ≤ m.auxExt.toNat

/-- A call answers so, and keeps the ids in range. -/
lemma IdsInRange.call {s s' : SrNat} (h : IdsInRange s) {c : NatCall} {r : c.Result}
    (hc : natSem c s r s') : AnswerOk c r ∧ IdsInRange s' := by
  obtain ⟨amb, hexec⟩ := hc
  constructor
  · cases c with
    | lookupExternal auxExt type =>
      cases hexec
      rcases hfind : s.mappings.find? fun curr => curr.auxExt = auxExt with _ | m
      · simp [AnswerOk, srNatLookupExternal, hfind, lookupOk]
      · have hid : m.auxExt = auxExt := by simpa using List.find?_some hfind
        have hmem := h m (List.mem_of_find?_eq_some hfind)
        simpa [AnswerOk, srNatLookupExternal, hfind, lookupOk, hid] using hmem
    | _ => trivial
  · rcases natExec_cases hexec with ht | ⟨ipInt, auxInt, type, rfl, rfl⟩
    · intro m' hm'
      obtain ⟨m, hm, hbare⟩ := ht.exists_mem hm'
      rw [← m'.bare_auxExt, ← hbare, m.bare_auxExt]
      exact h m hm
    · rintro m (_ | ⟨_, hm⟩)
      · by_cases hleft : (findNextId s.bitmap).1 = -1
        · simp only [newMapping, hleft]
          decide
        · obtain ⟨k, ⟨hlo, hhi, -⟩, hfind⟩ := exists_of_findNextId_ne hleft
          simp only [newMapping, hfind, toNat_toUint16 hhi]
          exact hlo
      · exact h m hm

/-- A sweep keeps the ids in range. -/
lemma IdsInRange.sweep {s s' : SrNat} (h : IdsInRange s) (he : natEnv s s') : IdsInRange s' := by
  obtain ⟨rt, t, reported, he⟩ := he
  obtain ⟨hmap, -⟩ := natTimeout_cases he
  intro m' hm'
  obtain ⟨m, hm, hsweep⟩ := List.mem_filterMap.mp (hmap ▸ hm')
  rw [← m'.bare_auxExt, sweepMapping_bare hsweep, m.bare_auxExt]
  exact h m hm

/-! ### Packets that are handed on -/

/-- The destination of a packet to everybody. -/
lemma bytes_of_broadcast {p : ByteMem} (h : SrIpHdr.ipDst p = ipBroadcastAddr) :
    p 16 = 0xff ∧ p 17 = 0xff ∧ p 18 = 0xff ∧ p 19 = 0xff := by
  obtain ⟨h0, h8, h16, h24⟩ :=
    extractLsb'_append_bytes (p 19).toBitVec (p 18).toBitVec (p 17).toBitVec (p 16).toBitVec
  have hbits : (p 19).toBitVec ++ (p 18).toBitVec ++ ((p 17).toBitVec ++ (p 16).toBitVec) =
      ipBroadcastAddr.toBitVec := congrArg UInt32.toBitVec h
  rw [hbits] at h0 h8 h16 h24
  exact ⟨UInt8.eq_of_toBitVec_eq h0.symm, UInt8.eq_of_toBitVec_eq h8.symm,
    UInt8.eq_of_toBitVec_eq h16.symm, UInt8.eq_of_toBitVec_eq h24.symm⟩

/-- The length that `nat_handle_icmp` gives to `cksum`: a negative one sums nothing. -/
lemma toNat_icmpLen (p : ByteMem) : (InFrame.icmpLen p).toNat = icmpSize p := by
  have hlt := (ntohs (SrIpHdr.ipLen p)).toNat_lt
  have hsub : ((ntohs (SrIpHdr.ipLen p)).toUInt32 - UInt32.ofNat sizeofIpHdr).toBitVec.toNat =
      (2 ^ 32 - 20 + (ntohs (SrIpHdr.ipLen p)).toNat) % 2 ^ 32 := by
    rw [UInt32.toNat_toBitVec, UInt32.toNat_sub, UInt16.toNat_toUInt32]
    rfl
  rw [InFrame.icmpLen, BitVec.toInt_eq_toNat_bmod, hsub, icmpSize, Int.bmod_def]
  simp only [sizeofIpHdr]
  split <;> omega

/-- What the end of `nat_handle_tcp` returns has the header length of what it is given. -/
lemma natTcpUpdateChecksum_header (p : ByteMem) (len : UInt32) (o : ℕ) :
    (natTcpUpdateChecksum p len o).Returns fun r => r.1 = 1 ∧ r.2 0 = p 0 := by
  unfold natTcpUpdateChecksum
  simp only
  split_ifs
  · trivial
  · refine ⟨rfl, ?_⟩
    simp (disch := omega) only [SrIpHdr.setIpSum, SrTcpHdr.setChecksum, store16_apply_of_disjoint]

/-- What the end of `nat_handle_icmp` returns: the header length of what it is given, and the
destination, unless the checksum lies in it. -/
lemma natIcmpUpdateChecksum_ret (p : ByteMem) (o : ℕ) : ∃ q,
    natIcmpUpdateChecksum p o = .ret (1, q) ∧ q 0 = p 0 ∧
      SrIpHdr.ipDst q = SrIpHdr.ipDst (SrIcmpHdr.setIcmpSum p o
        (cksum (fun i => SrIcmpHdr.setIcmpSum p o 0 (o + i)) (InFrame.icmpLen p))) := by
  refine ⟨_, rfl, ?_, ?_⟩
  · simp (disch := omega) only [SrIpHdr.setIpSum, SrIcmpHdr.setIcmpSum, store16_apply_of_disjoint]
  · simp (disch := omega) only [SrIpHdr.ipDst, SrIpHdr.setIpSum, SrIcmpHdr.setIcmpSum,
      store16_store16, load32_store16_of_disjoint]
    rfl

/-! ### Accesses inside the frame -/

/-- All accesses of a program are inside a frame whose load has length `len`, and what it returns is of
a kind. -/
abbrev InLoad {α : Type} (len : UInt32) (T : α → Prop) (P : InFrame.FrameProg α) : Prop :=
  Bounded AnswerOk (sizeofEthernetHdr + len.toNat) T P

/-- Spans that end in time are inside. -/
lemma inside_of_le {len : ℕ} {spans : List Span} (h : ∀ x ∈ spans, x.start + x.size ≤ len) :
    ∀ x ∈ spans, x.Inside len := fun x hx => Span.inside_of_le (h x hx)

/-- The first fields that the handlers read. -/
lemma headerReads_inside {len : UInt32} (hmin : 20 ≤ len.toNat) :
    ∀ x ∈ [InFrame.ipHl, InFrame.ipSrc], x.Inside (sizeofEthernetHdr + len.toNat) := by
  refine inside_of_le ?_
  simp
  omega

/-- The destination. -/
lemma dstRead_inside {len : UInt32} (hmin : 20 ≤ len.toNat) :
    ∀ x ∈ [InFrame.ipDst], x.Inside (sizeofEthernetHdr + len.toNat) := by
  refine inside_of_le ?_
  simp
  omega

section Tcp

variable {cfg : NetConfig} {p : ByteMem} {len : UInt32} {o : ℕ} {T : ℤ × ByteMem → Prop}

/-- The end of `nat_handle_tcp`. -/
lemma natTcpUpdateChecksum_inLoad (hmin : 20 ≤ len.toNat) (hmax : len ≤ ipMaxpacket)
    (ho : o + 18 ≤ len.toNat) (hT : ∀ q, q 0 = p 0 → T (1, q)) :
    InLoad len T (InFrame.natTcpUpdateChecksum p len o) := by
  have hle : len.toNat ≤ 65535 := UInt32.le_iff_toNat_le.mp hmax
  have hcopy : (BitVec.ofInt 64 (tcpSegmentLen len o)).toNat = len.toNat - o := by
    rw [tcpSegmentLen_eq (by omega) hmax, BitVec.toNat_ofInt]
    omega
  refine bounded_accessing.mpr ⟨inside_of_le ?_, ?_⟩
  · simp [hcopy]
    omega
  · split
    · trivial
    · refine bounded_accessing.mpr ⟨inside_of_le ?_, bounded_untraced ?_⟩
      · simp [sizeofIpHdr]
        omega
      · refine (natTcpUpdateChecksum_header p len o).imp fun r hr => ?_
        obtain ⟨code, q⟩ := r
        obtain ⟨rfl, hq⟩ := hr
        exact hT q hq

/-- The source rewriting of `nat_handle_tcp`.  A header length of 0 is not kept. -/
lemma natTcpTranslateSource_inLoad (hmin : 20 ≤ len.toNat) (hmax : len ≤ ipMaxpacket)
    (ho : o + 18 ≤ len.toNat) (hT : ∀ q, (o ≠ 0 → q 0 = p 0) → T (1, q))
    (mapping : SrNatMappingCopy) :
    InLoad len T (InFrame.natTcpTranslateSource cfg p len o mapping) := by
  refine bounded_accessing.mpr ⟨inside_of_le ?_, ?_⟩
  · simp
    omega
  · rcases srRtLookup cfg.routingTable _ with e | _ | lpm
    · trivial
    · trivial
    · dsimp only
      rcases srGetInterface cfg.ifList lpm.interface with _ | i
      · trivial
      · refine bounded_accessing.mpr ⟨inside_of_le ?_, ?_⟩
        · simp
          omega
        · refine natTcpUpdateChecksum_inLoad hmin hmax ho fun q hq => hT q fun hpos => ?_
          rw [hq]
          simp (disch := omega) only [SrIpHdr.setIpSrc, SrTcpHdr.setSrcPort,
            store32_apply_of_disjoint, store16_apply_of_disjoint]

/-- The internal to external branch of `nat_handle_tcp`. -/
lemma natTcpOutbound_inLoad (hmin : 20 ≤ len.toNat) (hmax : len ≤ ipMaxpacket)
    (ho : o + 18 ≤ len.toNat) (hT : ∀ q code, (o ≠ 0 → q 0 = p 0) → T (code, q)) :
    InLoad len T (InFrame.natTcpOutbound cfg p len o) := by
  have hread : ∀ x ∈ [InFrame.ipSrc, InFrame.srcPort o], x.Inside (sizeofEthernetHdr + len.toNat) := by
    refine inside_of_le ?_
    simp
    omega
  have htranslate : ∀ mapping, InLoad len T (InFrame.natTcpTranslateSource cfg p len o mapping) :=
    natTcpTranslateSource_inLoad hmin hmax ho fun q hq => hT q 1 hq
  refine bounded_accessing.mpr ⟨hread, fun r _ => ?_⟩
  rcases r with _ | mapping
  · refine bounded_accessing.mpr ⟨hread, fun mapping _ c _ => ?_⟩
    rcases c with _ | c
    · trivial
    · exact htranslate mapping
  · intro c _
    rcases c with _ | c
    · exact hT p 0 fun _ => rfl
    · exact htranslate mapping

/-- The external to internal branch of `nat_handle_tcp`. -/
lemma natTcpInbound_inLoad (hmin : 20 ≤ len.toNat) (hmax : len ≤ ipMaxpacket)
    (ho : o + 14 ≤ len.toNat)
    (hsum : ¬ (SrTcpHdr.syn p o = true ∧ ¬ SrTcpHdr.ack p o = true) → o + 18 ≤ len.toNat)
    (hT : ∀ q code, q 0 = p 0 →
      (code = -1 ∨ ¬ (SrTcpHdr.syn p o = true ∧ ¬ SrTcpHdr.ack p o = true)) → T (code, q)) :
    InLoad len T (InFrame.natTcpInbound p len o) := by
  refine bounded_accessing.mpr ⟨inside_of_le ?_, ?_⟩
  · simp
    omega
  · split
    · intro r _
      rcases r with _ | mapping
      · exact fun _ _ => hT p (-1) rfl (.inl rfl)
      · exact fun _ _ => hT p (-1) rfl (.inl rfl)
    · rename_i hsyn
      intro r _
      rcases r with _ | mapping
      · exact natTcpUpdateChecksum_inLoad hmin hmax (hsum hsyn) fun q hq => hT q 1 hq (.inr hsyn)
      · intro c _
        rcases c with _ | c
        · exact hT p 0 rfl (.inr hsyn)
        · refine bounded_accessing.mpr ⟨inside_of_le ?_, ?_⟩
          · simp
            omega
          · refine natTcpUpdateChecksum_inLoad hmin hmax (hsum hsyn) fun q hq => ?_
            refine hT q 1 ?_ (.inr hsyn)
            rw [hq]
            simp (disch := omega) only [SrIpHdr.setIpDst, SrTcpHdr.setDstPort,
              store32_apply_of_disjoint, store16_apply_of_disjoint]

/-- A SYN without an ACK, as the source tests it. -/
lemma isTcpSyn_iff : isTcpSyn p ↔ SrTcpHdr.syn p (ipHeaderLen p) = true ∧
    ¬ SrTcpHdr.ack p (ipHeaderLen p) = true := by
  rw [isTcpSyn, Bool.not_eq_true]

/-- An error may be sent about a segment, unless it is a SYN from outside. -/
lemma errorPossible_tcp (htcp : SrIpHdr.ipP p = ipProtocolTcp) (h : srcPrivate p ∨ ¬ isTcpSyn p) :
    ErrorPossible true p len := by
  refine .inr ?_
  rw [if_neg (by rw [htcp]; decide), if_pos ⟨rfl, htcp⟩]
  exact h

/-- `nat_handle_tcp`.  If it does not have the segment dropped, an error may follow. -/
lemma natHandleTcp_inLoad (hfits : IpFits true p len) (htcp : SrIpHdr.ipP p = ipProtocolTcp)
    (hmin : 20 ≤ len.toNat) (hmax : len ≤ ipMaxpacket) (hheader : ipHeaderLen p ≤ len.toNat)
    {isToNat : Bool} (hquote : isToNat = false → icmpDataSize ≤ len.toNat) :
    InLoad len (fun r => ipHeaderLen r.2 ≤ len.toNat ∧ (r.1 = -1 ∨ icmpDataSize ≤ len.toNat))
      (InFrame.natHandleTcp cfg p len isToNat) := by
  have hdst := dstRead_inside hmin
  refine bounded_accessing.mpr ⟨headerReads_inside hmin, ?_⟩
  split_ifs with hs hd hto hd
  · exact bounded_accessing.mpr
      ⟨hdst, hheader, .inr (hfits.quote (errorPossible_tcp htcp (.inl hs)))⟩
  · obtain ⟨hsum, hzero⟩ := hfits.outbound rfl htcp hs hd
    refine bounded_accessing.mpr ⟨hdst, natTcpOutbound_inLoad hmin hmax hsum fun q code hq => ?_⟩
    refine ⟨?_, .inr (hfits.quote (errorPossible_tcp htcp (.inl hs)))⟩
    by_cases h0 : ipHeaderLen p = 0
    · exact (ipHeaderLen_le q).trans (hzero h0)
    · exact (ipHeaderLen_congr (hq h0)).trans_le hheader
  · obtain ⟨hflags, hsum⟩ := hfits.inbound rfl htcp hs
    refine natTcpInbound_inLoad hmin hmax hflags (fun hsyn => hsum (mt isTcpSyn_iff.mp hsyn))
      fun q code hq hcode => ⟨(ipHeaderLen_congr hq).trans_le hheader, ?_⟩
    exact hcode.imp_right fun hsyn =>
      hfits.quote (errorPossible_tcp htcp (.inr (mt isTcpSyn_iff.mp hsyn)))
  · exact bounded_accessing.mpr ⟨hdst, hheader, .inr (hquote (Bool.not_eq_true _ ▸ hto))⟩
  · exact bounded_accessing.mpr ⟨hdst, hheader, .inr (hquote (Bool.not_eq_true _ ▸ hto))⟩

end Tcp

section Icmp

variable {cfg : NetConfig} {p : ByteMem} {len : UInt32} {o : ℕ} {T : ℤ × ByteMem → Prop}

/-- The end of `nat_handle_icmp`. -/
lemma natIcmpUpdateChecksum_inLoad (hmin : 20 ≤ len.toNat) (ho : o + 6 ≤ len.toNat)
    (hsum : o + icmpSize p ≤ len.toNat)
    (hT : ∀ q, natIcmpUpdateChecksum p o = .ret (1, q) → T (1, q)) :
    InLoad len T (InFrame.natIcmpUpdateChecksum p o) := by
  refine bounded_accessing.mpr ⟨inside_of_le ?_, bounded_untraced ?_⟩
  · simp [toNat_icmpLen, sizeofIpHdr]
    omega
  · exact hT _ rfl

/-- A message from inside as it is before its checksums are filled in. -/
def sourceTranslated (p : ByteMem) (o : ℕ) (identifier : UInt16) (ip : UInt32) : ByteMem :=
  SrIpHdr.setIpSrc (SrIcmpHdr.setIdentifier p o identifier) ip

/-- It has the length field of the message. -/
lemma icmpSize_sourceTranslated (identifier : UInt16) (ip : UInt32) :
    icmpSize (sourceTranslated p o identifier ip) = icmpSize p := by
  simp (disch := omega) only [icmpSize, sourceTranslated, SrIpHdr.ipLen, SrIpHdr.setIpSrc,
    SrIcmpHdr.setIdentifier, load16_store32_of_disjoint, load16_store16_of_disjoint]

/-- The header length of a message is kept. -/
lemma header_of_natIcmpUpdateChecksum {q q' : ByteMem}
    (hq : natIcmpUpdateChecksum q o = .ret (1, q')) : q' 0 = q 0 := by
  obtain ⟨q'', hq'', hzero, -⟩ := natIcmpUpdateChecksum_ret q o
  rw [hq] at hq''
  cases hq''
  exact hzero

/-- Its destination is kept, unless the checksum lies in it. -/
lemma ipDst_of_natIcmpUpdateChecksum {q q' : ByteMem}
    (hq : natIcmpUpdateChecksum q o = .ret (1, q')) :
    SrIpHdr.ipDst q' = SrIpHdr.ipDst (SrIcmpHdr.setIcmpSum q o
      (cksum (fun i => SrIcmpHdr.setIcmpSum q o 0 (o + i)) (InFrame.icmpLen q))) := by
  obtain ⟨q'', hq'', -, hdst⟩ := natIcmpUpdateChecksum_ret q o
  rw [hq] at hq''
  cases hq''
  exact hdst

/-- `cksum` of at most four bytes of an address 255.255.0.0, unless it is one byte. -/
lemma cksum_broadcast {data : ByteMem} (h0 : data 0 = 0xff) (h1 : data 1 = 0xff) (h2 : data 2 = 0)
    (h3 : data 3 = 0) {n : ℤ} (hn : n.toNat ≠ 1) (hle : n.toNat < 5) : cksum data n = 0xffff := by
  have hcases : n.toNat = 0 ∨ n.toNat = 2 ∨ n.toNat = 3 ∨ n.toNat = 4 := by omega
  unfold cksum
  rcases hcases with hn | hn | hn | hn <;> simp only [hn, cksumSum, h0, h1, h2, h3] <;> decide

/-- A message from inside to everybody is still to everybody after its translation, if its header is
not too short. -/
lemma ipDst_of_not_losesBroadcast (hdst : SrIpHdr.ipDst p = ipBroadcastAddr)
    (hloses : ¬ LosesBroadcast p) {identifier : UInt16} {ip : UInt32} {q : ByteMem}
    (hq : natIcmpUpdateChecksum (sourceTranslated p (ipHeaderLen p) identifier ip) (ipHeaderLen p) =
      .ret (1, q)) : SrIpHdr.ipDst q = SrIpHdr.ipDst p := by
  rw [ipDst_of_natIcmpUpdateChecksum hq]
  have hfour : ipHeaderLen p % 4 = 0 := Nat.mul_mod_left _ 4
  obtain ⟨h12, h16⟩ := not_or.mp hloses
  by_cases ho : ipHeaderLen p = 16
  · -- the checksum lies in the address, and is 0xffff
    obtain ⟨b16, b17, b18, b19⟩ := bytes_of_broadcast hdst
    obtain ⟨hone, hfive⟩ := not_or.mp (not_and.mp h16 ho)
    have hlen := toNat_icmpLen (sourceTranslated p 16 identifier ip)
    rw [icmpSize_sourceTranslated] at hlen
    have hsum : cksum (fun i => SrIcmpHdr.setIcmpSum (sourceTranslated p 16 identifier ip) 16 0
        (16 + i)) (InFrame.icmpLen (sourceTranslated p 16 identifier ip)) = 0xffff := by
      refine cksum_broadcast ?_ ?_ ?_ ?_ (by rwa [hlen]) (by rw [hlen]; omega)
      · simpa [SrIcmpHdr.setIcmpSum, sourceTranslated, SrIpHdr.setIpSrc, SrIcmpHdr.setIdentifier,
          store16, store32] using b16
      · simpa [SrIcmpHdr.setIcmpSum, sourceTranslated, SrIpHdr.setIpSrc, SrIcmpHdr.setIdentifier,
          store16, store32] using b17
      · simp [SrIcmpHdr.setIcmpSum, store16]
      · simp [SrIcmpHdr.setIcmpSum, store16]
    rw [ho, hsum, hdst]
    simp [SrIpHdr.ipDst, load32, SrIcmpHdr.setIcmpSum, sourceTranslated, SrIpHdr.setIpSrc,
      SrIcmpHdr.setIdentifier, store16, store32, b16, b17]
    decide
  · simp (disch := omega) only [SrIpHdr.ipDst, SrIcmpHdr.setIcmpSum, sourceTranslated,
      SrIpHdr.setIpSrc, SrIcmpHdr.setIdentifier, load32_store16_of_disjoint,
      load32_store32_of_disjoint]

/-- What follows `nat_handle_icmp` touches nothing but the header, unless an error may follow: the
packet has its header length, and if it was translated and no error can be quoted there is a route
for it. -/
def IcmpHandled (cfg : NetConfig) (len : UInt32) (r : ℤ × ByteMem) : Prop :=
  ipHeaderLen r.2 ≤ len.toNat ∧ (r.1 = 0 ∨ icmpDataSize ≤ len.toNat ∨
    ∃ lpm, srRtLookup cfg.routingTable (SrIpHdr.ipDst r.2) = .ok (some lpm))

/-- An error may be sent about an echo reply to everybody. -/
lemma errorPossible_reply (hicmp : SrIpHdr.ipP p = ipProtocolIcmp)
    (h : SrIpHdr.ipDst p = ipBroadcastAddr → (IcmpSumOk p len ∧ messageType p = 0) ∧
      (srcPrivate p ∧ LosesBroadcast p ∨ ¬ srcPrivate p ∧ HasExternalId p)) :
    ErrorPossible true p len := by
  by_cases hdst : SrIpHdr.ipDst p = ipBroadcastAddr
  · refine .inr ?_
    rw [if_pos hicmp]
    obtain ⟨hreply, hchange⟩ := h hdst
    exact ⟨rfl, hreply.1, hreply.2, hchange⟩
  · exact .inl hdst

/-- The source rewriting of `nat_handle_icmp`. -/
lemma natIcmpTranslateSource_inLoad (hmin : 20 ≤ len.toNat) (ho : o + 6 ≤ len.toNat)
    (hsum : o + icmpSize p ≤ len.toNat)
    (hT : ∀ identifier ip q,
      natIcmpUpdateChecksum (sourceTranslated p o identifier ip) o = .ret (1, q) → T (1, q))
    (lpm : SrRt) (mapping : SrNatMappingCopy) :
    InLoad len T (InFrame.natIcmpTranslateSource cfg p o lpm mapping) := by
  refine bounded_accessing.mpr ⟨inside_of_le ?_, ?_⟩
  · simp
    omega
  · rcases srGetInterface cfg.ifList lpm.interface with _ | i
    · trivial
    · refine bounded_accessing.mpr ⟨inside_of_le ?_, ?_⟩
      · simp
        omega
      · refine natIcmpUpdateChecksum_inLoad hmin ho ?_ fun q hq => hT _ i.ip q hq
        exact (congrArg (o + ·) (icmpSize_sourceTranslated _ i.ip)).trans_le hsum

/-- A message from inside is translated: it keeps its header length, and an error about it can be
quoted, or it has a route. -/
lemma natIcmpTranslateSource_handled (hfits : IpFits true p len)
    (hicmp : SrIpHdr.ipP p = ipProtocolIcmp) (hmin : 20 ≤ len.toNat)
    (hheader : ipHeaderLen p ≤ len.toNat) (hs : srcPrivate p) (hid : ipHeaderLen p + 6 ≤ len.toNat)
    (hmessage : ipHeaderLen p + icmpSize p ≤ len.toNat)
    (hreply : SrIpHdr.ipDst p = ipBroadcastAddr → IcmpSumOk p len ∧ messageType p = 0) {lpm : SrRt}
    (hlookup : srRtLookup cfg.routingTable (SrIpHdr.ipDst p) = .ok (some lpm))
    (mapping : SrNatMappingCopy) : InLoad len (IcmpHandled cfg len)
      (InFrame.natIcmpTranslateSource cfg p (ipHeaderLen p) lpm mapping) := by
  refine natIcmpTranslateSource_inLoad hmin hid hmessage (fun identifier ip q hq => ?_) lpm mapping
  refine ⟨?_, .inr ?_⟩
  · have hzero := header_of_natIcmpUpdateChecksum hq
    refine (ipHeaderLen_congr (hzero.trans ?_)).trans_le hheader
    simp (disch := omega) only [sourceTranslated, SrIpHdr.setIpSrc, SrIcmpHdr.setIdentifier,
      store32_apply_of_disjoint, store16_apply_of_disjoint]
  · by_cases hb : SrIpHdr.ipDst p = ipBroadcastAddr
    · by_cases hloses : LosesBroadcast p
      · refine .inl (hfits.quote (errorPossible_reply hicmp fun _ => ?_))
        exact ⟨hreply hb, .inl ⟨hs, hloses⟩⟩
      · exact .inr ⟨lpm, by rw [ipDst_of_not_losesBroadcast hb hloses hq, hlookup]⟩
    · exact .inl (hfits.quote (.inl hb))

/-- `nat_handle_icmp`. -/
lemma natHandleIcmp_inLoad (hfits : IpFits true p len) (hicmp : SrIpHdr.ipP p = ipProtocolIcmp)
    (hmin : 20 ≤ len.toNat) (hheader : ipHeaderLen p ≤ len.toNat)
    (hcause : SrIpHdr.ipDst p ≠ ipBroadcastAddr ∧ SrIpHdr.ipTtl p ≠ 1 ∨
      IcmpSumOk p len ∧ messageType p = 0) :
    InLoad len (IcmpHandled cfg len) (InFrame.natHandleIcmp cfg p) := by
  have hdst := dstRead_inside hmin
  have hreply : SrIpHdr.ipDst p = ipBroadcastAddr → IcmpSumOk p len ∧ messageType p = 0 :=
    fun hb => hcause.resolve_left fun h => h.1 hb
  refine bounded_accessing.mpr ⟨headerReads_inside hmin, ?_⟩
  split_ifs with hs hd
  · exact bounded_accessing.mpr ⟨hdst, hheader, .inl rfl⟩
  · have hid := hfits.identifier rfl hicmp ⟨fun h => hd h.2, hcause⟩
    have hmessage := hfits.message rfl hicmp ⟨fun h => hd h.2, hcause⟩ (.inl hs)
    have hidentifier : ∀ x ∈ [InFrame.ipSrc, InFrame.identifier (ipHeaderLen p)],
        x.Inside (sizeofEthernetHdr + len.toNat) := by
      refine inside_of_le ?_
      simp
      omega
    refine bounded_accessing.mpr ⟨hdst, bounded_accessing.mpr ⟨hdst, ?_⟩⟩
    rcases hlookup : srRtLookup cfg.routingTable (SrIpHdr.ipDst p) with e | _ | lpm
    · trivial
    · exact ⟨hheader, .inl rfl⟩
    · have htranslate : ∀ mapping, InLoad len (IcmpHandled cfg len)
          (InFrame.natIcmpTranslateSource cfg p (ipHeaderLen p) lpm mapping) :=
        natIcmpTranslateSource_handled hfits hicmp hmin hheader hs hid hmessage hreply hlookup
      refine bounded_accessing.mpr ⟨hidentifier, fun r _ => ?_⟩
      rcases r with _ | mapping
      · exact bounded_accessing.mpr ⟨hidentifier, fun mapping _ => htranslate mapping⟩
      · exact htranslate mapping
  · have hid := hfits.identifier rfl hicmp ⟨fun h => hs h.1, hcause⟩
    refine bounded_accessing.mpr ⟨inside_of_le ?_, fun r hr => ?_⟩
    · simp
      omega
    · rcases r with _ | mapping
      · exact ⟨hheader, .inl rfl⟩
      · have hmessage := hfits.message rfl hicmp ⟨fun h => hs h.1, hcause⟩ (.inr hr)
        refine bounded_accessing.mpr ⟨inside_of_le ?_, ?_⟩
        · simp
          omega
        · refine natIcmpUpdateChecksum_inLoad hmin hid ?_ fun q hq => ⟨?_, .inr (.inl ?_)⟩
          · refine le_of_eq_of_le (congrArg (ipHeaderLen p + ·) ?_) hmessage
            simp (disch := omega) only [icmpSize, SrIpHdr.ipLen, SrIpHdr.setIpDst,
              SrIcmpHdr.setIdentifier, load16_store32_of_disjoint, load16_store16_of_disjoint]
          · have hzero := header_of_natIcmpUpdateChecksum hq
            refine (ipHeaderLen_congr (hzero.trans ?_)).trans_le hheader
            simp (disch := omega) only [SrIpHdr.setIpDst, SrIcmpHdr.setIdentifier,
              store32_apply_of_disjoint, store16_apply_of_disjoint]
          · exact hfits.quote (errorPossible_reply hicmp fun hb => ⟨hreply hb, .inr ⟨hs, hr⟩⟩)

end Icmp

section Actions

variable {cfg : NetConfig} {natEnabled : Bool} {p q : ByteMem} {len : UInt32}

/-- What is touched when it is done what was decided is inside the frame. -/
def Performable (cfg : NetConfig) (len : UInt32) (action : IpAction) : Prop :=
  ∀ x ∈ InFrame.perform cfg action, x.Inside (sizeofEthernetHdr + len.toNat)

/-- An error. -/
lemma performable_error {type code : UInt8} (htype : type ≠ icmpTypeEchoreply)
    (hquote : icmpDataSize ≤ len.toNat) : Performable cfg len (.sendIcmp p type code) := by
  refine inside_of_le ?_
  rw [InFrame.perform, InFrame.srCreateIcmppacket, if_pos htype]
  simpa using hquote

/-- The reply to an echo request. -/
lemma performable_echo {code : UInt8}
    (hmin : sizeofIpHdr + sizeofIcmpHdr ≤ (ntohs (SrIpHdr.ipLen p)).toNat)
    (hmax : (ntohs (SrIpHdr.ipLen p)).toNat ≤ len.toNat) :
    Performable cfg len (.sendIcmp p icmpTypeEchoreply code) := by
  have hlt := (ntohs (SrIpHdr.ipLen p)).toNat_lt
  simp only [sizeofIpHdr, sizeofIcmpHdr] at hmin
  have hdata : ((ntohs (SrIpHdr.ipLen p)).toUInt32 - UInt32.ofNat sizeofIpHdr -
      UInt32.ofNat sizeofIcmpHdr).toNat = (ntohs (SrIpHdr.ipLen p)).toNat - 28 := by
    rw [UInt32.toNat_sub, UInt32.toNat_sub, UInt16.toNat_toUInt32]
    simp only [sizeofIpHdr, sizeofIcmpHdr, UInt32.reduceOfNat, UInt32.reduceToNat]
    omega
  refine inside_of_le ?_
  rw [InFrame.perform, InFrame.srCreateIcmppacket, if_neg (not_not.mpr rfl)]
  simp only [hdata]
  simp [sizeofIpHdr, sizeofIcmpHdr]
  omega

/-- A packet that is forwarded. -/
lemma performable_forward (hheader : ipHeaderLen q ≤ len.toNat)
    (hroute : icmpDataSize ≤ len.toNat ∨
      ∃ lpm, srRtLookup cfg.routingTable (SrIpHdr.ipDst q) = .ok (some lpm)) :
    Performable cfg len (.forward q) := by
  have hnone : (∀ lpm, srRtLookup cfg.routingTable (SrIpHdr.ipDst q) ≠ .ok (some lpm)) →
      icmpDataSize ≤ len.toNat := by
    intro hno
    rcases hroute with h | ⟨lpm, hlpm⟩
    · exact h
    · exact absurd hlpm (hno lpm)
  refine inside_of_le ?_
  rw [InFrame.perform, InFrame.srForwardIppacket]
  rcases hlookup : srRtLookup cfg.routingTable (SrIpHdr.ipDst q) with e | _ | lpm
  · simp
  · have hquote := hnone fun lpm hlpm => by
      rw [hlookup] at hlpm
      cases hlpm
    simpa [InFrame.srCreateIcmppacket, icmpTypeDstunreachable, icmpTypeEchoreply] using hquote
  · simpa using hheader

/-- A packet for the router that carries an ICMP message. -/
lemma icmpAction_inLoad (hfits : IpFits natEnabled p len) (hicmp : SrIpHdr.ipP p = ipProtocolIcmp)
    (hmin : 20 ≤ len.toNat) (hheader : ipHeaderLen p ≤ len.toNat) (hsum : IcmpSumOk p len) :
    InLoad len (Performable cfg len) (InFrame.icmpAction cfg natEnabled p) := by
  have hfour := hfits.icmpSum hicmp
  refine bounded_accessing.mpr ⟨inside_of_le ?_, ?_⟩
  · simp
    omega
  · split_ifs with hecho hreply
    · obtain ⟨hlo, hhi⟩ := hfits.echo hicmp hsum hecho
      exact performable_echo hlo hhi
    · obtain ⟨rfl, htype⟩ := hreply
      refine Bounded.map (fun r hr => ?_)
        (natHandleIcmp_inLoad hfits hicmp hmin hheader (.inr ⟨hsum, htype⟩))
      obtain ⟨hlen, hcode⟩ := hr
      split_ifs with hforward
      · exact performable_forward hlen (hcode.resolve_left hforward)
      · exact fun x hx => absurd hx List.not_mem_nil
    · exact fun x hx => absurd hx List.not_mem_nil

/-- An error is sent about every packet for the router that nobody takes. -/
lemma errorPossible_refused (hicmp : SrIpHdr.ipP p ≠ ipProtocolIcmp)
    (htcp : ¬ (natEnabled = true ∧ SrIpHdr.ipP p = ipProtocolTcp)) :
    ErrorPossible natEnabled p len := by
  refine .inr ?_
  rw [if_neg hicmp, if_neg htcp]
  trivial

/-- A packet for the router. -/
lemma routerAction_inLoad (hfits : IpFits natEnabled p len) (hmin : 20 ≤ len.toNat)
    (hmax : len ≤ ipMaxpacket) (hheader : ipHeaderLen p ≤ len.toNat) :
    InLoad len (Performable cfg len) (InFrame.routerAction cfg natEnabled p len) := by
  have hunreachable : icmpTypeDstunreachable ≠ icmpTypeEchoreply := by decide
  have hload : loadLength len (ipHeaderLen p) = ((len.toNat - ipHeaderLen p : ℕ) : ℤ) :=
    tcpSegmentLen_eq hheader hmax
  have hsummed : SrIpHdr.ipP p = ipProtocolIcmp →
      ∀ x ∈ [InFrame.icmpSum (ipHeaderLen p),
        InFrame.cksum (ipHeaderLen p) (loadLength len (ipHeaderLen p))],
        x.Inside (sizeofEthernetHdr + len.toNat) := by
    intro hicmp
    have hfour := hfits.icmpSum hicmp
    refine inside_of_le ?_
    simp [hload]
    omega
  unfold InFrame.routerAction
  simp only
  split_ifs with hicmp hsum htransport hnat
  · exact bounded_accessing.mpr ⟨hsummed hicmp, fun x hx => absurd hx List.not_mem_nil⟩
  · refine bounded_accessing.mpr ⟨hsummed hicmp, bounded_accessing.mpr ⟨?_, ?_⟩⟩
    · exact fun x hx => hsummed hicmp x (List.mem_cons.mpr (.inl (List.mem_singleton.mp hx)))
    · rw [setIcmpSum_restore]
      exact icmpAction_inLoad hfits hicmp hmin hheader (not_not.mp hsum)
  · obtain ⟨rfl, htcp⟩ := hnat
    refine Bounded.map (fun r hr => ?_)
      (natHandleTcp_inLoad hfits htcp hmin hmax hheader fun hto => absurd hto (by decide))
    obtain ⟨hlen, hcode⟩ := hr
    split_ifs with hforward hdrop
    · exact performable_forward hlen
        (.inl (hcode.resolve_left fun h => by rw [hforward] at h; cases h))
    · exact fun x hx => absurd hx List.not_mem_nil
    · exact performable_error hunreachable (hcode.resolve_left hdrop)
  · exact performable_error hunreachable (hfits.quote (errorPossible_refused hicmp hnat))
  · exact performable_error hunreachable
      (hfits.quote (errorPossible_refused hicmp fun h => htransport (.inl h.2)))

/-- A packet for somebody else. -/
lemma transitAction_inLoad (hfits : IpFits natEnabled p len) (hmin : 20 ≤ len.toNat)
    (hmax : len ≤ ipMaxpacket) (hheader : ipHeaderLen p ≤ len.toNat)
    (hdst : SrIpHdr.ipDst p ≠ ipBroadcastAddr) :
    InLoad len (Performable cfg len) (InFrame.transitAction cfg natEnabled p len) := by
  have hquote : icmpDataSize ≤ len.toNat := hfits.quote (.inl hdst)
  refine bounded_accessing.mpr ⟨inside_of_le ?_, ?_⟩
  · simp
    omega
  · split_ifs with httl hicmp htcp
    · exact performable_error (by decide) hquote
    · obtain ⟨rfl, hicmp⟩ := hicmp
      refine Bounded.map (fun r hr => performable_forward hr.1 (.inl hquote))
        (natHandleIcmp_inLoad hfits hicmp hmin hheader (.inl ⟨hdst, mt ipTtl_sub_one_iff.mpr httl⟩))
    · obtain ⟨rfl, htcp⟩ := htcp
      refine Bounded.map (fun r hr => ?_)
        (natHandleTcp_inLoad hfits htcp hmin hmax hheader fun _ => hquote)
      split_ifs
      · exact performable_error (by decide) hquote
      · exact performable_forward hr.1 (.inl hquote)
    · exact performable_forward hheader (.inl hquote)

/-- **IP packets that are long enough**: the decision of `sr_handle_ippacket`, and what follows from
it, touches the frame only. -/
lemma srHandleIppacket_inLoad
    (hheader : len ≤ ipMaxpacket → UInt32.ofNat sizeofIpHdr < len → ipHeaderLen p ≤ len.toNat)
    (hfits : Accepted p len → IpFits natEnabled p len) :
    InLoad len (fun _ => True) (InFrame.srHandleIppacket cfg natEnabled p len) := by
  have hperform : ∀ action, Performable cfg len action →
      InLoad len (fun _ => True) (accessing (InFrame.perform cfg action) (.ret action)) :=
    fun action haction => bounded_accessing.mpr ⟨haction, trivial⟩
  refine Bounded.andThen hperform ?_
  unfold InFrame.ipAction
  simp only
  split_ifs with hsize hsum hfor
  · exact fun x hx => absurd hx List.not_mem_nil
  all_goals
    obtain ⟨hmax, hmin⟩ := not_or.mp hsize
    rw [UInt32.not_lt] at hmax
    rw [UInt32.not_le] at hmin
    have hlen := hheader hmax hmin
    have hmin' : 20 < len.toNat := UInt32.lt_iff_toNat_lt.mp hmin
    have hread : ∀ x ∈ [InFrame.ipSum, InFrame.ipHl, InFrame.cksum 0 (ipHeaderLen p)],
        x.Inside (sizeofEthernetHdr + len.toNat) := by
      refine inside_of_le ?_
      simp
      omega
  · exact bounded_accessing.mpr ⟨hread, fun x hx => absurd hx List.not_mem_nil⟩
  all_goals
    have hok : Accepted p len := ⟨hmax, hmin, not_not.mp hsum⟩
    have hfields : ∀ x ∈ [InFrame.ipSum, InFrame.ipP, InFrame.ipDst],
        x.Inside (sizeofEthernetHdr + len.toNat) := by
      refine inside_of_le ?_
      simp
      omega
    refine bounded_accessing.mpr ⟨hread, bounded_accessing.mpr ⟨hfields, ?_⟩⟩
    rw [setIpSum_restore] at hfor ⊢
  · exact routerAction_inLoad (hfits hok) hmin'.le hmax hlen
  · refine transitAction_inLoad (hfits hok) hmin'.le hmax hlen fun hdst => hfor ?_
    rw [isForRouter, Bool.or_eq_true]
    exact .inr (decide_eq_true hdst)

end Actions

section Frames

variable {cfg : NetConfig} {natEnabled : Bool} {frame : ByteMem} {len : UInt32}

/-- The length of the load of a frame that has an Ethernet header. -/
lemma toNat_frameLoadLen (h : sizeofEthernetHdr ≤ len.toNat) :
    sizeofEthernetHdr + (frameLoadLen len).toNat = len.toNat := by
  have hle : UInt32.ofNat sizeofEthernetHdr ≤ len := UInt32.le_iff_toNat_le.mpr h
  rw [frameLoadLen, UInt32.toNat_sub_of_le _ _ hle]
  exact Nat.add_sub_cancel' h

/-- ARP packets that are long enough. -/
lemma srHandleArp_inside {p : ByteMem} (h : ArpFits p len) :
    ∀ x ∈ InFrame.srHandleArp p, x.Inside (sizeofEthernetHdr + len.toNat) := by
  obtain ⟨htwo, hhrd⟩ := h
  refine inside_of_le ?_
  unfold InFrame.srHandleArp
  split_ifs with hethernet hip
  · have hall := (hhrd hethernet).2 hip
    simp
    omega
  · have hfour := (hhrd hethernet).1
    simp
    omega
  · simp
    omega

/-- **Frames that are long enough**: every access is inside the frame, in all states of the NAT in
which the external ids are in range, and whatever its sweeps do meanwhile. -/
theorem staysInside_of_fits (h : FrameFits natEnabled frame len) (cfg : NetConfig)
    (interface : IfName) {nat : SrNat} (hnat : IdsInRange nat) :
    StaysInside natSem natEnv len.toNat (InFrame.srHandlepacket cfg natEnabled frame len interface)
      nat := by
  have hheader : 14 ≤ len.toNat := h.header
  have hload := toNat_frameLoadLen h.header
  refine staysInside_of_bounded (A := AnswerOk) (T := fun _ => True)
    (fun c s r s' hs hc => hs.call hc) (fun s s' hs he => hs.sweep he) ?_ hnat
  refine bounded_accessing.mpr ⟨inside_of_le ?_, ?_⟩
  · simp
    omega
  rcases srGetInterface cfg.ifList interface with _ | iface
  · trivial
  · dsimp only
    split_ifs with hmac harp hip
    · trivial
    all_goals refine bounded_accessing.mpr ⟨inside_of_le (by simp; omega), ?_⟩
    · exact bounded_accessing.mpr ⟨hload ▸ srHandleArp_inside (h.arp harp), trivial⟩
    · have hbounded := @srHandleIppacket_inLoad cfg _ _ _ (h.ipHeader hip) (h.ip hip)
      rw [InLoad, hload] at hbounded
      exact hbounded.map fun _ _ => trivial
    · trivial

end Frames

end NatRouter
