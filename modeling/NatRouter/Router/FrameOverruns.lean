import NatRouter.Router.FrameSites

/-!
# Frames that are too short

The frames that `FrameFits` describes are safe, and they are the only ones (`frameSafe_iff_fits`): for
each bound of `FrameFits` there are an address of the router, routes and a state of the NAT that is
reached, with which the access comes about that the bound is there for.
-/

namespace NatRouter

open ByteMemory Interleaving Footprint

section Packets

variable {mac : Mac} {natEnabled : Bool} {p : ByteMem} {len : UInt32} {nat : SrNat}

/-! ### ICMP messages for the router -/

/-- The checksum of a message that may be for the router is looked at. -/
lemma PacketSafe.icmpSum (h : PacketSafe mac natEnabled p len) (hok : Accepted p len)
    (hicmp : SrIpHdr.ipP p = ipProtocolIcmp) : ipHeaderLen p + 4 ≤ len.toNat := by
  have hsite := (h.toRouter hok [] reached_startState).first
  simp only [InFrame.routerAction, if_pos hicmp] at hsite
  have hsum := end_of_load (hsite.access.1 (InFrame.icmpSum (ipHeaderLen p)) List.mem_cons_self)
    (by decide)
  omega

/-- A message whose checksum is right. -/
lemma staysInside_icmpAction {cfg : NetConfig} {N : ℕ} (hicmp : SrIpHdr.ipP p = ipProtocolIcmp)
    (hsum : IcmpSumOk p len)
    (h : StaysInside natSem natEnv N
      (andThen (performing cfg) (InFrame.routerAction cfg natEnabled p len)) nat) :
    StaysInside natSem natEnv N (andThen (performing cfg) (InFrame.icmpAction cfg natEnabled p))
      nat := by
  have hsum' : ¬ cksum (fun i => SrIcmpHdr.setIcmpSum p (ipHeaderLen p) 0 (ipHeaderLen p + i))
      (loadLength len (ipHeaderLen p)) ≠ SrIcmpHdr.icmpSum p (ipHeaderLen p) := not_not.mpr hsum
  simp only [InFrame.routerAction, if_pos hicmp, setIcmpSum_restore] at h
  have hafter := h.access.2
  rw [if_neg hsum'] at hafter
  exact hafter.access.2

/-- An echo request is copied up to the length that `ip_len` says. -/
lemma echo_of_icmpAction {cfg : NetConfig} (htype : messageType p = 8)
    (h : StaysInside natSem natEnv (sizeofEthernetHdr + len.toNat)
      (andThen (performing cfg) (InFrame.icmpAction cfg natEnabled p)) nat) :
    sizeofIpHdr + sizeofIcmpHdr ≤ (ntohs (SrIpHdr.ipLen p)).toNat ∧
      (ntohs (SrIpHdr.ipLen p)).toNat ≤ len.toNat := by
  have hecho := h.access.2
  rw [messageType] at htype
  rw [if_pos htype] at hecho
  have hspans := hecho.access.1
  simp only [InFrame.perform, InFrame.srCreateIcmppacket] at hspans
  rw [if_neg (not_not.mpr rfl)] at hspans
  have hseq : 20 + 6 + 2 ≤ len.toNat :=
    end_of_load (hspans (InFrame.seqNum sizeofIpHdr) (by simp)) (by decide)
  have hlen := len.toNat_lt
  have hlt := (ntohs (SrIpHdr.ipLen p)).toNat_lt
  have hdata : ((ntohs (SrIpHdr.ipLen p)).toUInt32 - UInt32.ofNat sizeofIpHdr -
      UInt32.ofNat sizeofIcmpHdr).toNat =
      (2 ^ 32 - 28 + (ntohs (SrIpHdr.ipLen p)).toNat) % 2 ^ 32 := by
    rw [UInt32.toNat_sub, UInt32.toNat_sub, UInt16.toNat_toUInt32]
    simp only [sizeofIpHdr, sizeofIcmpHdr, UInt32.reduceOfNat, UInt32.reduceToNat]
    omega
  have hcopy := hspans (InFrame.load (sizeofIpHdr + sizeofIcmpHdr) _)
    (List.mem_cons_of_mem _ (List.mem_cons_of_mem _ (List.mem_cons_of_mem _ List.mem_cons_self)))
  rw [hdata] at hcopy
  simp only [sizeofIpHdr, sizeofIcmpHdr] at hcopy ⊢
  -- for an `ip_len` below 28 the length of the data wraps around
  rcases Nat.eq_zero_or_pos ((2 ^ 32 - 28 + (ntohs (SrIpHdr.ipLen p)).toNat) % 2 ^ 32)
    with hzero | hpos
  · omega
  · have hend := end_of_load hcopy hpos
    omega

/-- What is done with a message for the router if its checksum is right. -/
lemma PacketSafe.icmpAction (h : PacketSafe mac natEnabled p len) (hok : Accepted p len)
    (hicmp : SrIpHdr.ipP p = ipProtocolIcmp) (hsum : IcmpSumOk p len) (hosts : List UInt32)
    (hnat : Reached nat) :
    StaysInside natSem natEnv (sizeofEthernetHdr + len.toNat)
      (andThen (performing (site mac (ownIp p) hosts))
        (InFrame.icmpAction (site mac (ownIp p) hosts) natEnabled p)) nat :=
  staysInside_icmpAction hicmp hsum (h.toRouter hok hosts hnat)

/-! ### ICMP messages for the NAT -/

/-- An echo reply for the router is given to `nat_handle_icmp`, and forwarded if it is translated. -/
lemma PacketSafe.reply (h : PacketSafe mac true p len) (hok : Accepted p len)
    (hicmp : SrIpHdr.ipP p = ipProtocolIcmp) (hsum : IcmpSumOk p len) (htype : messageType p = 0)
    (hosts : List UInt32) (hnat : Reached nat) :
    StaysInside natSem natEnv (sizeofEthernetHdr + len.toNat)
      (andThen (fun r => performing (site mac (ownIp p) hosts)
          (if r.1 ≠ 0 then .forward r.2 else .drop))
        (InFrame.natHandleIcmp (site mac (ownIp p) hosts) p)) nat := by
  have hsite := (h.icmpAction hok hicmp hsum hosts hnat).access.2
  rw [messageType] at htype
  rwa [if_neg (by rw [htype]; decide), if_pos ⟨rfl, htype⟩, andThen_map] at hsite

/-- A message that may be translated is given to `nat_handle_icmp`, whatever the routes are. -/
lemma PacketSafe.toNatIcmp (h : PacketSafe mac true p len) (hok : Accepted p len)
    (hicmp : SrIpHdr.ipP p = ipProtocolIcmp)
    (hcause : SrIpHdr.ipDst p ≠ ipBroadcastAddr ∧ SrIpHdr.ipTtl p ≠ 1 ∨
      IcmpSumOk p len ∧ messageType p = 0) :
    ∃ ip, ∀ hosts nat, Reached nat → StaysInside natSem natEnv (sizeofEthernetHdr + len.toNat)
      (InFrame.natHandleIcmp (site mac ip hosts) p) nat := by
  rcases hcause with ⟨hdst, httl⟩ | ⟨hsum, htype⟩
  · refine ⟨otherIp p, fun hosts nat hnat => ?_⟩
    have hsite := (h.inTransit hok hdst hosts hnat).first.access.2
    rw [if_neg (mt ipTtl_sub_one_iff.mp httl), if_pos ⟨rfl, hicmp⟩] at hsite
    exact hsite.of_map
  · exact ⟨ownIp p, fun hosts nat hnat => (h.reply hok hicmp hsum htype hosts hnat).first⟩

/-- A message from inside. -/
lemma staysInside_natIcmpOutbound {cfg : NetConfig} {N : ℕ} (hs : srcPrivate p)
    (hd : ¬ dstPrivate p)
    (h : StaysInside natSem natEnv N (InFrame.natHandleIcmp cfg p) nat) :
    StaysInside natSem natEnv N (InFrame.natIcmpOutbound cfg p (ipHeaderLen p)) nat := by
  unfold srcPrivate at hs
  unfold dstPrivate at hd
  have hsrc := h.access.2
  rw [if_pos hs] at hsrc
  have hdst := hsrc.access.2
  rwa [if_neg hd] at hdst

/-- A message from outside. -/
lemma staysInside_natIcmpInbound {cfg : NetConfig} {N : ℕ} (hs : ¬ srcPrivate p)
    (h : StaysInside natSem natEnv N (InFrame.natHandleIcmp cfg p) nat) :
    StaysInside natSem natEnv N (InFrame.natIcmpInbound p (ipHeaderLen p)) nat := by
  unfold srcPrivate at hs
  have hsrc := h.access.2
  rwa [if_neg hs] at hsrc

/-- The identifier of a message that may be translated is looked at. -/
lemma PacketSafe.identifier (h : PacketSafe mac true p len) (hok : Accepted p len)
    (hicmp : SrIpHdr.ipP p = ipProtocolIcmp) (htranslated : IcmpTranslated p len) :
    ipHeaderLen p + 6 ≤ len.toNat := by
  obtain ⟨hboth, hcause⟩ := htranslated
  obtain ⟨ip, hsite⟩ := h.toNatIcmp hok hicmp hcause
  have hstart := hsite [SrIpHdr.ipDst p] startState reached_startState
  by_cases hs : srcPrivate p
  · obtain ⟨lpm, hlpm, -⟩ := @srRtLookup_site mac ip _ _ (List.mem_singleton_self (SrIpHdr.ipDst p))
    have hout := (staysInside_natIcmpOutbound hs (fun hd => hboth ⟨hs, hd⟩) hstart).access.2
    rw [hlpm] at hout
    have hend := end_of_load (hout.access.1 (InFrame.identifier (ipHeaderLen p)) (by simp))
      (by decide)
    omega
  · have hin := staysInside_natIcmpInbound hs hstart
    have hend := end_of_load (hin.access.1 (InFrame.identifier (ipHeaderLen p)) (by simp))
      (by decide)
    omega

/-- What is summed when the checksum of a message is filled in. -/
lemma message_of_update {q : ByteMem} {o : ℕ} (ho : o ≤ len.toNat)
    (h : StaysInside natSem natEnv (sizeofEthernetHdr + len.toNat)
      (InFrame.natIcmpUpdateChecksum q o) nat) : o + icmpSize q ≤ len.toNat := by
  have hend := end_of_cksum (h.access.1 (InFrame.cksum o (InFrame.icmpLen q)) (by simp)) ho
  rwa [toNat_icmpLen] at hend

/-- A message that is translated is summed. -/
lemma PacketSafe.message (h : PacketSafe mac true p len) (hok : Accepted p len)
    (hicmp : SrIpHdr.ipP p = ipProtocolIcmp) (htranslated : IcmpTranslated p len)
    (hmapped : srcPrivate p ∨ HasExternalId p) : ipHeaderLen p + icmpSize p ≤ len.toNat := by
  have hid := h.identifier hok hicmp htranslated
  have hle : ipHeaderLen p ≤ len.toNat := by omega
  obtain ⟨hboth, hcause⟩ := htranslated
  obtain ⟨ip, hsite⟩ := h.toNatIcmp hok hicmp hcause
  by_cases hs : srcPrivate p
  · obtain ⟨lpm, hlpm, hinterface⟩ :=
      @srRtLookup_site mac ip _ _ (List.mem_singleton_self (SrIpHdr.ipDst p))
    obtain ⟨s, hfresh⟩ := exists_fresh (ntohl (SrIpHdr.ipSrc p)) le_rfl (show 1024 < 65536 by omega)
    have hout := (staysInside_natIcmpOutbound hs (fun hd => hboth ⟨hs, hd⟩)
      (hsite [SrIpHdr.ipDst p] s hfresh.reached)).access.2
    rw [hlpm] at hout
    have hnone := hout.access.2.answer ⟨⟨0, fun _ => 0⟩, congrArg (fun r => Except.ok (r, s))
      (hfresh.lookup _ .natMappingIcmp)⟩
    have htranslate := (hnone.access.2.answer ⟨⟨0, fun _ => 0⟩, rfl⟩).access.2
    rw [hinterface, srGetInterface_site] at htranslate
    have hend := message_of_update hle htranslate.access.2
    exact (congrArg (ipHeaderLen p + ·) (icmpSize_sourceTranslated _ ip)).symm.trans_le hend
  · obtain ⟨s, mapping, hreached, hlookup⟩ := exists_lookupExternal (hmapped.resolve_left hs)
    have hin := staysInside_natIcmpInbound hs (hsite [] s hreached)
    have hsome := hin.access.2.answer ⟨⟨0, fun _ => 0⟩, congrArg (fun r => Except.ok (r, s))
      (hlookup .natMappingIcmp)⟩
    have hend := message_of_update hle hsome.access.2
    refine le_of_eq_of_le (congrArg (ipHeaderLen p + ·) ?_) hend
    simp (disch := omega) only [icmpSize, SrIpHdr.ipLen, SrIpHdr.setIpDst, SrIcmpHdr.setIdentifier,
      load16_store32_of_disjoint, load16_store16_of_disjoint]

/-! ### TCP segments for the NAT -/

/-- A segment that may be for the router is given to `nat_handle_tcp`. -/
lemma PacketSafe.toNatTcp (h : PacketSafe mac true p len) (hok : Accepted p len)
    (htcp : SrIpHdr.ipP p = ipProtocolTcp) (hosts : List UInt32) (hnat : Reached nat) :
    StaysInside natSem natEnv (sizeofEthernetHdr + len.toNat)
      (andThen (fun r => performing (site mac (ownIp p) hosts) (tcpVerdict true r))
        (InFrame.natHandleTcp (site mac (ownIp p) hosts) p len true)) nat := by
  have hicmp : ¬ ipProtocolTcp = ipProtocolIcmp := by decide
  have hsite := h.toRouter hok hosts hnat
  simp only [InFrame.routerAction, htcp, if_neg hicmp, true_or, and_self, if_true, andThen_map]
    at hsite
  exact hsite

section Walk

variable {cfg : NetConfig} {Q : ℤ × ByteMem → InFrame.FrameProg IpAction} {N : ℕ}

/-- A segment from inside. -/
lemma staysInside_natTcpOutbound {isToNat : Bool} (hs : srcPrivate p) (hd : ¬ dstPrivate p)
    (h : StaysInside natSem natEnv N (andThen Q (InFrame.natHandleTcp cfg p len isToNat)) nat) :
    StaysInside natSem natEnv N (andThen Q (InFrame.natTcpOutbound cfg p len (ipHeaderLen p)))
      nat := by
  unfold srcPrivate at hs
  unfold dstPrivate at hd
  have hsrc := h.access.2
  rw [if_pos hs] at hsrc
  have hdst := hsrc.access.2
  rwa [if_neg hd] at hdst

/-- A segment from outside. -/
lemma staysInside_natTcpInbound (hs : ¬ srcPrivate p)
    (h : StaysInside natSem natEnv N (andThen Q (InFrame.natHandleTcp cfg p len true)) nat) :
    StaysInside natSem natEnv N (andThen Q (InFrame.natTcpInbound p len (ipHeaderLen p))) nat := by
  unfold srcPrivate at hs
  have hsrc := h.access.2
  rwa [if_neg hs, if_pos rfl] at hsrc

/-- A segment of an endpoint that has no mapping gets one. -/
lemma staysInside_natTcpTranslateSource {k o : ℕ} (hfresh : Fresh (ntohl (SrIpHdr.ipSrc p)) k nat)
    (h : StaysInside natSem natEnv N (andThen Q (InFrame.natTcpOutbound cfg p len o)) nat) :
    ∃ mapping s, mapping.auxExt = toUint16 k ∧
      StaysInside natSem natEnv N (andThen Q (InFrame.natTcpTranslateSource cfg p len o mapping))
        s := by
  have hnone := h.access.2.answer ⟨⟨0, fun _ => 0⟩, congrArg (fun r => Except.ok (r, nat))
    (hfresh.lookup _ .natMappingTcp)⟩
  have hmapping := hnone.access.2.answer ⟨⟨0, fun _ => 0⟩, rfl⟩
  obtain ⟨c, s, hconn⟩ := hfresh.insertConnection (ntohs (SrTcpHdr.srcPort p o)) .natMappingTcp p
    .synSent
  have hport := hfresh.newMapping_auxExt 0 (ntohs (SrTcpHdr.srcPort p o)) .natMappingTcp
  exact ⟨_, s, hport, hmapping.answer ⟨⟨0, fun _ => 0⟩, hconn⟩⟩

/-- A segment from inside as it is before its checksums are filled in. -/
def segmentTranslated (p : ByteMem) (o : ℕ) (port : UInt16) (ip : UInt32) : ByteMem :=
  SrIpHdr.setIpSrc (SrTcpHdr.setSrcPort p o port) ip

/-- It is translated if there is a route for it. -/
lemma staysInside_natTcpUpdateChecksum {ip : UInt32} {hosts : List UInt32} {o : ℕ}
    {mapping : SrNatMappingCopy}
    (hmem : SrIpHdr.ipDst (SrTcpHdr.setSrcPort p o (htons mapping.auxExt)) ∈ hosts)
    (h : StaysInside natSem natEnv N
      (andThen Q (InFrame.natTcpTranslateSource (site mac ip hosts) p len o mapping)) nat) :
    StaysInside natSem natEnv N (andThen Q (InFrame.natTcpUpdateChecksum
      (segmentTranslated p o (htons mapping.auxExt) ip) len o)) nat := by
  obtain ⟨lpm, hlpm, hinterface⟩ := @srRtLookup_site mac ip _ _ hmem
  have hroute := h.access.2
  simp only [hlpm, hinterface, srGetInterface_site] at hroute
  exact hroute.access.2

/-- The checksum of a segment is filled in. -/
lemma checksum_of_update {q : ByteMem} {o : ℕ}
    (h : StaysInside natSem natEnv (sizeofEthernetHdr + len.toNat)
      (andThen Q (InFrame.natTcpUpdateChecksum q len o)) nat) : o + 18 ≤ len.toNat := by
  have hend := end_of_load (h.access.1 (InFrame.checksum o) List.mem_cons_self) (by decide)
  omega

/-- What the end of `nat_handle_tcp` returns. -/
lemma natTcpUpdateChecksum_ret (q : ByteMem) {o : ℕ} (hlen : 0 ≤ tcpSegmentLen len o) :
    ∃ q', natTcpUpdateChecksum q len o = .ret (1, q') ∧ q' 0 = q 0 := by
  unfold natTcpUpdateChecksum
  rw [if_neg (not_lt.mpr hlen)]
  refine ⟨_, rfl, ?_⟩
  simp (disch := omega) only [SrIpHdr.setIpSum, SrTcpHdr.setChecksum, store16_apply_of_disjoint]

/-- It is done what follows from the return code. -/
lemma staysInside_of_update {q q' : ByteMem} {o : ℕ} (hlen : 0 ≤ tcpSegmentLen len o)
    (hq : natTcpUpdateChecksum q len o = .ret (1, q'))
    (h : StaysInside natSem natEnv N (andThen Q (InFrame.natTcpUpdateChecksum q len o)) nat) :
    StaysInside natSem natEnv N (Q (1, q')) nat := by
  have hpos := h.access.2
  rw [if_neg (not_lt.mpr hlen)] at hpos
  have hret := hpos.access.2
  rwa [hq] at hret

end Walk

/-- A segment from inside that is translated. -/
lemma PacketSafe.outbound (h : PacketSafe mac true p len) (hok : Accepted p len)
    (htcp : SrIpHdr.ipP p = ipProtocolTcp) (hs : srcPrivate p) (hd : ¬ dstPrivate p) :
    ipHeaderLen p + 18 ≤ len.toNat ∧ (ipHeaderLen p = 0 → 60 ≤ len.toNat) := by
  constructor
  · obtain ⟨s, hfresh⟩ := exists_fresh (ntohl (SrIpHdr.ipSrc p)) le_rfl (show 1024 < 65536 by omega)
    have hsite := h.toNatTcp hok htcp
      [SrIpHdr.ipDst (SrTcpHdr.setSrcPort p (ipHeaderLen p) (htons (toUint16 (1024 : ℕ))))]
      hfresh.reached
    obtain ⟨mapping, s', hport, htranslate⟩ :=
      staysInside_natTcpTranslateSource hfresh (staysInside_natTcpOutbound hs hd hsite)
    rw [← hport] at htranslate
    exact checksum_of_update
      (staysInside_natTcpUpdateChecksum (List.mem_singleton_self _) htranslate)
  · intro hzero
    -- the external port 3840 puts 0x0f into the first byte, a header length of 60
    have hlen : 0 ≤ tcpSegmentLen len 0 := tcpSegmentLen_nonneg (Nat.zero_le _) hok.1
    obtain ⟨s, hfresh⟩ := exists_fresh (ntohl (SrIpHdr.ipSrc p)) (show 1024 ≤ 3840 by omega)
      (show 3840 < 65536 by omega)
    obtain ⟨q, hq, hfirst⟩ := natTcpUpdateChecksum_ret
      (segmentTranslated p 0 (htons (toUint16 (3840 : ℕ))) (ownIp p)) hlen
    have hheader : ipHeaderLen q = 60 := by
      simp only [ipHeaderLen, SrIpHdr.ipHl, hfirst, segmentTranslated, SrIpHdr.setIpSrc,
        SrTcpHdr.setSrcPort]
      rw [store32_apply_of_disjoint (by omega)]
      simp only [store16, if_true]
      decide
    have hsite := h.toNatTcp hok htcp
      [SrIpHdr.ipDst (SrTcpHdr.setSrcPort p 0 (htons (toUint16 (3840 : ℕ)))), SrIpHdr.ipDst q]
      hfresh.reached
    have hout := staysInside_natTcpOutbound hs hd hsite
    rw [hzero] at hout
    obtain ⟨mapping, s', hport, htranslate⟩ := staysInside_natTcpTranslateSource hfresh hout
    have hupdate := staysInside_natTcpUpdateChecksum (by rw [hport]; exact List.mem_cons_self)
      htranslate
    rw [hport] at hupdate
    have hforward := (staysInside_of_update hlen hq hupdate).access.1
    obtain ⟨lpm, hlpm, -⟩ := @srRtLookup_site mac (ownIp p) (SrIpHdr.ipDst q)
      [SrIpHdr.ipDst (SrTcpHdr.setSrcPort p 0 (htons (toUint16 (3840 : ℕ)))), SrIpHdr.ipDst q]
      (by simp)
    simp only [tcpVerdict, if_true, InFrame.perform, InFrame.srForwardIppacket, hlpm, hheader]
      at hforward
    have hend := end_of_cksum (hforward _ (List.mem_singleton_self _)) (Nat.zero_le _)
    simpa using hend

/-- A segment from outside. -/
lemma PacketSafe.inbound (h : PacketSafe mac true p len) (hok : Accepted p len)
    (htcp : SrIpHdr.ipP p = ipProtocolTcp) (hs : ¬ srcPrivate p) :
    ipHeaderLen p + 14 ≤ len.toNat ∧ (¬ isTcpSyn p → ipHeaderLen p + 18 ≤ len.toNat) := by
  have hin := staysInside_natTcpInbound hs (h.toNatTcp hok htcp [] reached_startState)
  refine ⟨?_, fun hsyn => ?_⟩
  · have hend := end_of_load (hin.access.1 (InFrame.flags (ipHeaderLen p)) List.mem_cons_self)
      (by decide)
    omega
  · have hlookup := hin.access.2
    rw [if_neg (mt isTcpSyn_iff.mpr hsyn)] at hlookup
    exact checksum_of_update (hlookup.answer ⟨⟨0, fun _ => 0⟩, rfl⟩)

/-! ### Errors about packets in transit -/

section Results

variable {cfg : NetConfig} {Q : ℤ × ByteMem → InFrame.FrameProg IpAction} {N : ℕ} {s s' : SrNat}
  {r : ℤ × ByteMem}

/-- What follows from the result of `nat_handle_icmp`. -/
lemma staysInside_of_natHandleIcmp
    (h : StaysInside natSem natEnv N (andThen Q (InFrame.natHandleIcmp cfg p)) s)
    (hruns : (natHandleIcmp cfg p).Runs natSem s r s') : StaysInside natSem natEnv N (Q r) s' := by
  rw [← InFrame.erase_natHandleIcmp] at hruns
  exact h.second hruns

/-- What follows from the result of `nat_handle_tcp`. -/
lemma staysInside_of_natHandleTcp {isToNat : Bool}
    (h : StaysInside natSem natEnv N (andThen Q (InFrame.natHandleTcp cfg p len isToNat)) s)
    (hruns : (natHandleTcp cfg p len isToNat).Runs natSem s r s') :
    StaysInside natSem natEnv N (Q r) s' := by
  rw [← InFrame.erase_natHandleTcp] at hruns
  exact h.second hruns

end Results

/-- An address differs from some other one. -/
lemma exists_other (ip : UInt32) : ∃ other, ip ∉ [other] := by
  by_cases hip : ip = 0
  · exact ⟨1, by rw [hip]; decide⟩
  · exact ⟨0, by rwa [List.mem_singleton]⟩

/-- A message without a route, or from outside with an unknown identifier, is not translated. -/
lemma natHandleIcmp_runs_unchanged {cfg : NetConfig}
    (hnone : srRtLookup cfg.routingTable (SrIpHdr.ipDst p) = .ok none) :
    (natHandleIcmp cfg p).Runs natSem startState (0, p) startState := by
  by_cases hs : srcPrivate p
  · by_cases hd : dstPrivate p
    · rw [natHandleIcmp_inside hs hd]
      exact Prog.runs_ret_iff.mpr ⟨rfl, rfl⟩
    · rw [natHandleIcmp_outbound hs hd, natIcmpOutbound, hnone]
      exact Prog.runs_ret_iff.mpr ⟨rfl, rfl⟩
  · rw [natHandleIcmp_inbound hs]
    exact Prog.runs_of_run (@natIcmpInbound_run_unknown p (ipHeaderLen p) quiet startState rfl)

/-- A segment of an inside endpoint that has a mapping without connections is not translated. -/
lemma exists_natTcpOutbound_runs (hs : srcPrivate p) (o : ℕ) :
    ∃ s s', Reached s ∧ ∀ cfg, (natTcpOutbound cfg p len o).Runs natSem s (0, p) s' := by
  obtain ⟨s, mapping, hreached, hlookup, hconns, hunsol⟩ :=
    exists_known hs (ntohs (SrTcpHdr.srcPort p o))
  obtain ⟨unsol, hunsol'⟩ : ∃ unsol, srNatInsertUnsolicitedPacket (quiet 1) s.unsolPkt p len =
      .ok unsol := by
    rw [hunsol]
    exact ⟨_, rfl⟩
  have hupdate : srNatUpdateConnection s (quiet 1) mapping p len .internalToExternal =
      .ok (none, { s with unsolPkt := unsol }) := by
    simp [srNatUpdateConnection, hconns, hunsol']
  exact ⟨s, _, hreached, fun cfg => Prog.runs_of_run
    (natTcpOutbound_run_unsolicited (hlookup .natMappingTcp) hupdate)⟩

/-- Any segment may stay as it is. -/
lemma exists_natHandleTcp_runs (p : ByteMem) (len : UInt32) :
    ∃ s s' code, Reached s ∧ ∀ cfg, (natHandleTcp cfg p len false).Runs natSem s (code, p) s' := by
  by_cases hs : srcPrivate p
  · by_cases hd : dstPrivate p
    · refine ⟨startState, startState, 1, reached_startState, fun cfg => ?_⟩
      rw [natHandleTcp_inside hs hd]
      exact Prog.runs_ret_iff.mpr ⟨rfl, rfl⟩
    · obtain ⟨s, s', hreached, hruns⟩ := @exists_natTcpOutbound_runs p len hs (ipHeaderLen p)
      refine ⟨s, s', 0, hreached, fun cfg => ?_⟩
      rw [natHandleTcp_outbound hs hd]
      exact hruns cfg
  · refine ⟨startState, startState, if dstPrivate p then 0 else 1, reached_startState,
      fun cfg => ?_⟩
    rw [natHandleTcp_transit hs]
    exact Prog.runs_ret_iff.mpr ⟨rfl, rfl⟩

/-- An error may be sent about any packet in transit. -/
lemma PacketSafe.quote_of_transit (h : PacketSafe mac natEnabled p len) (hok : Accepted p len)
    (hdst : SrIpHdr.ipDst p ≠ ipBroadcastAddr) : icmpDataSize ≤ len.toNat := by
  obtain ⟨other, hother⟩ := exists_other (SrIpHdr.ipDst p)
  have hnone := @srRtLookup_site_none mac (otherIp p) _ _ (List.cons_ne_nil other []) hother
  by_cases httl : SrIpHdr.ipTtl p = 1
  · have hsite := (h.inTransit hok hdst [other] reached_startState).access.2
    rw [if_pos (ipTtl_sub_one_iff.mpr httl)] at hsite
    exact quote_of_sendIcmp (by decide) hsite
  · have httl' := mt ipTtl_sub_one_iff.mp httl
    by_cases hicmp : natEnabled = true ∧ SrIpHdr.ipP p = ipProtocolIcmp
    · have hsite := (h.inTransit hok hdst [other] reached_startState).access.2
      rw [if_neg httl', if_pos hicmp, andThen_map] at hsite
      have hdone := staysInside_of_natHandleIcmp hsite (natHandleIcmp_runs_unchanged hnone)
      exact quote_of_forward hnone hdone
    · by_cases htcp : natEnabled = true ∧ SrIpHdr.ipP p = ipProtocolTcp
      · obtain ⟨s, s', code, hreached, hruns⟩ := exists_natHandleTcp_runs p len
        have hsite := (h.inTransit hok hdst [other] hreached).access.2
        rw [if_neg httl', if_neg hicmp, if_pos htcp, andThen_map] at hsite
        have hdone := staysInside_of_natHandleTcp hsite (hruns _)
        by_cases hcode : code = 0
        · simp only [hcode, if_true] at hdone
          exact quote_of_sendIcmp (by decide) hdone
        · simp only [hcode, if_false] at hdone
          exact quote_of_forward hnone hdone
      · have hsite := (h.inTransit hok hdst [other] reached_startState).access.2
        rw [if_neg httl', if_neg hicmp, if_neg htcp] at hsite
        exact quote_of_forward hnone hsite

/-! ### Replies that lose their destination -/

/-- What is summed of a reply from inside with a header of 16 bytes: it begins with the destination, in
whose second half the checksum lies, and the external id `k` follows. -/
def replyData (p : ByteMem) (k : ℕ) (ip : UInt32) : ByteMem :=
  fun i => SrIcmpHdr.setIcmpSum (sourceTranslated p 16 (htons (toUint16 k)) ip) 16 0 (16 + i)

/-- Its bytes, for the first two external ids. -/
lemma replyData_apply (hdst : SrIpHdr.ipDst p = ipBroadcastAddr) (ip : UInt32) {k : ℕ}
    (hk : k = 1024 ∨ k = 1025) :
    (replyData p k ip 0 = 0xff ∧ replyData p k ip 1 = 0xff ∧ replyData p k ip 2 = 0 ∧
      replyData p k ip 3 = 0 ∧ replyData p k ip 4 = 4 ∧
      replyData p k ip 5 = UInt8.ofNat (k - 1024)) ∧
    ∀ j, 6 ≤ j → replyData p k ip j = p (16 + j) := by
  obtain ⟨b16, b17, -, -⟩ := bytes_of_broadcast hdst
  refine ⟨?_, fun j hj => ?_⟩
  · rcases hk with rfl | rfl <;>
      simp [replyData, SrIcmpHdr.setIcmpSum, sourceTranslated, SrIpHdr.setIpSrc,
        SrIcmpHdr.setIdentifier, store16, store32, b16, b17] <;> decide
  · simp (disch := omega) only [replyData, SrIcmpHdr.setIcmpSum, sourceTranslated, SrIpHdr.setIpSrc,
      SrIcmpHdr.setIdentifier, store32_apply_of_disjoint, store16_apply_of_disjoint]

/-- Their sum. -/
lemma cksumSum_replyData (hdst : SrIpHdr.ipDst p = ipBroadcastAddr) (ip : UInt32) {k : ℕ}
    (hk : k = 1024 ∨ k = 1025) {m : ℕ} (hm : m ≤ 65509) :
    (cksumSum (replyData p k ip) (m + 6) 0 0).toNat =
      65535 + k + (cksumSum (fun i => p (16 + i)) m 6 0).toNat := by
  obtain ⟨⟨b0, b1, b2, b3, b4, b5⟩, hrest⟩ := replyData_apply hdst ip hk
  have hle := cksumSum_le (fun i => p (16 + i)) m 6 0
  have hzero : (0 : UInt32).toNat = 0 := rfl
  have hstart : cksumSum (replyData p k ip) (m + 6) 0 0 =
      cksumSum (replyData p k ip) m 6 (UInt32.ofNat (65535 + k) + 0) := by
    simp only [cksumSum, b0, b1, b2, b3, b4, b5]
    rcases hk with rfl | rfl <;> rfl
  rw [hstart, cksumSum_add, cksumSum_congr fun j hj _ => hrest j hj, UInt32.toNat_add, UInt32.toNat_ofNat']
  omega

/-- For one of the two ids the checksum is not 0xffff: their sums differ by 1. -/
lemma exists_cksum_replyData (hdst : SrIpHdr.ipDst p = ipBroadcastAddr) {size : ℕ}
    (hsize : size = 1 ∨ 5 ≤ size) (hle : size ≤ 65515) :
    ∃ k, (k = 1024 ∨ k = 1025) ∧
      ∀ ip n, n.toNat = size → cksum (replyData p k ip) n ≠ 0xffff := by
  have hshort : size = 1 ∨ size = 5 →
      ∀ ip n, n.toNat = size → cksum (replyData p 1024 ip) n ≠ 0xffff := by
    rintro hn ip n rfl hsum
    obtain ⟨⟨b0, b1, b2, b3, b4, b5⟩, -⟩ := replyData_apply hdst ip (.inl rfl)
    have hdvd := (cksum_eq_ffff_iff _ _).mp hsum
    rcases hn with hn | hn
    all_goals
      simp only [hn, cksumSum, b0, b1, b2, b3, b4] at hdvd
      revert hdvd
      decide
  by_cases hn : size = 1 ∨ size = 5
  · exact ⟨1024, .inl rfl, hshort hn⟩
  · obtain ⟨m, hm⟩ := Nat.exists_eq_add_of_le' (show 6 ≤ size by omega)
    by_cases hdvd : 65535 ∣ 65535 + 1024 + (cksumSum (fun i => p (16 + i)) m 6 0).toNat
    · refine ⟨1025, .inr rfl, fun ip n hn hsum => ?_⟩
      have hdvd' := (cksum_eq_ffff_iff _ _).mp hsum
      rw [hn, hm, cksumSum_replyData hdst ip (.inr rfl) (by omega)] at hdvd'
      omega
    · refine ⟨1024, .inl rfl, fun ip n hn hsum => hdvd ?_⟩
      have hdvd' := (cksum_eq_ffff_iff _ _).mp hsum
      rwa [hn, hm, cksumSum_replyData hdst ip (.inl rfl) (by omega)] at hdvd'

/-- A field that is stored as two bytes 0xff. -/
lemma eq_of_store16 {b : ByteMem} {i : ℕ} {v : UInt16} (h : store16 b i v i = 0xff)
    (h' : store16 b i v (i + 1) = 0xff) : v = 0xffff := by
  rw [← load16_store16_self b i v, load16, h, h']
  decide

/-- A reply to everybody whose header is too short may be sent somewhere else. -/
lemma exists_ipDst_ne (hdst : SrIpHdr.ipDst p = ipBroadcastAddr) (hloses : LosesBroadcast p) :
    ∃ k : ℕ, (k = 1024 ∨ k = 1025) ∧ ∀ ip q,
      natIcmpUpdateChecksum (sourceTranslated p (ipHeaderLen p) (htons (toUint16 k)) ip)
        (ipHeaderLen p) = .ret (1, q) → SrIpHdr.ipDst q ≠ ipBroadcastAddr := by
  rcases hloses with ho | ⟨ho, hsize⟩
  · refine ⟨1024, .inl rfl, fun ip q hq hkept => ?_⟩
    rw [ipDst_of_natIcmpUpdateChecksum hq, ho] at hkept
    obtain ⟨b16, -⟩ := bytes_of_broadcast hkept
    simp [SrIcmpHdr.setIcmpSum, sourceTranslated, SrIpHdr.setIpSrc, SrIcmpHdr.setIdentifier, store16,
      store32] at b16
    revert b16
    decide
  · have hle : icmpSize p ≤ 65515 := by
      have hlt := (ntohs (SrIpHdr.ipLen p)).toNat_lt
      simp only [icmpSize, sizeofIpHdr]
      omega
    obtain ⟨k, hk, hsum⟩ := exists_cksum_replyData hdst hsize hle
    refine ⟨k, hk, fun ip q hq hkept => ?_⟩
    rw [ipDst_of_natIcmpUpdateChecksum hq, ho] at hkept
    obtain ⟨-, -, b18, b19⟩ := bytes_of_broadcast hkept
    have hlen := toNat_icmpLen (sourceTranslated p 16 (htons (toUint16 k)) ip)
    rw [icmpSize_sourceTranslated] at hlen
    exact hsum ip _ hlen (eq_of_store16 b18 b19)

/-! ### Errors about packets for the router -/

/-- A reply from outside is forwarded if its identifier has a mapping, and there may be no route. -/
lemma PacketSafe.quote_of_inboundReply (h : PacketSafe mac true p len) (hok : Accepted p len)
    (hicmp : SrIpHdr.ipP p = ipProtocolIcmp) (hsum : IcmpSumOk p len) (htype : messageType p = 0)
    (hs : ¬ srcPrivate p) (hid : HasExternalId p) : icmpDataSize ≤ len.toNat := by
  obtain ⟨s, mapping, hreached, hlookup⟩ := exists_lookupExternal hid
  obtain ⟨q, hq, -⟩ := natIcmpUpdateChecksum_ret (SrIpHdr.setIpDst
    (SrIcmpHdr.setIdentifier p (ipHeaderLen p) (htons mapping.auxInt)) (htonl mapping.ipInt))
    (ipHeaderLen p)
  obtain ⟨other, hother⟩ := exists_other (SrIpHdr.ipDst q)
  have hruns : (natHandleIcmp (site mac (ownIp p) [other]) p).Runs natSem s (1, q) s := by
    rw [natHandleIcmp_inbound hs, natIcmpInbound]
    refine Prog.runs_call_iff.mpr ⟨some mapping, s, ⟨⟨0, fun _ => 0⟩,
      congrArg (fun r => Except.ok (r, s)) (hlookup .natMappingIcmp)⟩, ?_⟩
    simp only [hq]
    exact Prog.runs_ret_iff.mpr ⟨rfl, rfl⟩
  have hdone := staysInside_of_natHandleIcmp (h.reply hok hicmp hsum htype [other] hreached) hruns
  rw [if_pos one_ne_zero] at hdone
  exact quote_of_forward (srRtLookup_site_none (List.cons_ne_nil other []) hother) hdone

/-- A reply from inside to everybody is forwarded, and if its destination is lost there may be no
route. -/
lemma PacketSafe.quote_of_outboundReply (h : PacketSafe mac true p len) (hok : Accepted p len)
    (hicmp : SrIpHdr.ipP p = ipProtocolIcmp) (hsum : IcmpSumOk p len) (htype : messageType p = 0)
    (hdst : SrIpHdr.ipDst p = ipBroadcastAddr) (hs : srcPrivate p) (hloses : LosesBroadcast p) :
    icmpDataSize ≤ len.toNat := by
  obtain ⟨k, hk, hlost⟩ := exists_ipDst_ne hdst hloses
  obtain ⟨s, hfresh⟩ := exists_fresh (ntohl (SrIpHdr.ipSrc p)) (show 1024 ≤ k by omega)
    (show k < 65536 by omega)
  obtain ⟨q, hq, -⟩ := natIcmpUpdateChecksum_ret
    (sourceTranslated p (ipHeaderLen p) (htons (toUint16 k)) (ownIp p)) (ipHeaderLen p)
  have hd : ¬ dstPrivate p := by
    rw [dstPrivate, hdst]
    decide
  obtain ⟨lpm, hlpm, hinterface⟩ :=
    @srRtLookup_site mac (ownIp p) _ _ (List.mem_singleton_self ipBroadcastAddr)
  have hruns : (natHandleIcmp (site mac (ownIp p) [ipBroadcastAddr]) p).Runs natSem s (1, q)
      (srNatInsertMapping s 0 (ntohl (SrIpHdr.ipSrc p))
        (ntohs (SrIcmpHdr.identifier p (ipHeaderLen p))) .natMappingIcmp).2 := by
    rw [natHandleIcmp_outbound hs hd, natIcmpOutbound, hdst, hlpm]
    refine Prog.runs_call_iff.mpr ⟨none, s, ⟨⟨0, fun _ => 0⟩,
      congrArg (fun r => Except.ok (r, s)) (hfresh.lookup _ .natMappingIcmp)⟩, ?_⟩
    refine Prog.runs_call_iff.mpr ⟨_, _, ⟨⟨0, fun _ => 0⟩, rfl⟩, ?_⟩
    have hport := hfresh.newMapping_auxExt 0 (ntohs (SrIcmpHdr.identifier p (ipHeaderLen p)))
      .natMappingIcmp
    simp only [natIcmpTranslateSource, hinterface, srGetInterface_site, srNatInsertMapping,
      SrNatMapping.copy, hport]
    rw [sourceTranslated] at hq
    rw [hq]
    exact Prog.runs_ret_iff.mpr ⟨rfl, rfl⟩
  have hdone := staysInside_of_natHandleIcmp
    (h.reply hok hicmp hsum htype [ipBroadcastAddr] hfresh.reached) hruns
  rw [if_pos one_ne_zero] at hdone
  have hother : SrIpHdr.ipDst q ∉ [ipBroadcastAddr] :=
    fun hmem => hlost (ownIp p) q hq (List.mem_singleton.mp hmem)
  exact quote_of_forward (srRtLookup_site_none (List.cons_ne_nil _ _) hother) hdone

/-- A segment to everybody may be unreachable, unless it is a SYN from outside. -/
lemma PacketSafe.quote_of_segment (h : PacketSafe mac true p len) (hok : Accepted p len)
    (htcp : SrIpHdr.ipP p = ipProtocolTcp) (hdst : SrIpHdr.ipDst p = ipBroadcastAddr)
    (hcause : srcPrivate p ∨ ¬ isTcpSyn p) : icmpDataSize ≤ len.toNat := by
  by_cases hs : srcPrivate p
  · have hd : ¬ dstPrivate p := by
      rw [dstPrivate, hdst]
      decide
    obtain ⟨s, s', hreached, hruns⟩ := @exists_natTcpOutbound_runs p len hs (ipHeaderLen p)
    have hruns' : (natHandleTcp (site mac (ownIp p) []) p len true).Runs natSem s (0, p) s' := by
      rw [natHandleTcp_outbound hs hd]
      exact hruns _
    have hdone := staysInside_of_natHandleTcp (h.toNatTcp hok htcp [] hreached) hruns'
    exact quote_of_sendIcmp (by decide) hdone
  · have hsyn := hcause.resolve_left hs
    have hflags := (h.inbound hok htcp hs).1
    have hlen : 0 ≤ tcpSegmentLen len (ipHeaderLen p) := tcpSegmentLen_nonneg (by omega) hok.1
    obtain ⟨q, hq, -⟩ := natTcpUpdateChecksum_ret p hlen
    obtain ⟨other, hother⟩ := exists_other (SrIpHdr.ipDst q)
    have hruns : (natHandleTcp (site mac (ownIp p) [other]) p len true).Runs natSem startState
        (1, q) startState := by
      rw [natHandleTcp_inbound hs, natTcpInbound, if_neg (mt isTcpSyn_iff.mpr hsyn)]
      refine Prog.runs_call_iff.mpr ⟨none, startState, ⟨⟨0, fun _ => 0⟩, rfl⟩, ?_⟩
      simp only [hq]
      exact Prog.runs_ret_iff.mpr ⟨rfl, rfl⟩
    have hdone := staysInside_of_natHandleTcp
      (h.toNatTcp hok htcp [other] reached_startState) hruns
    exact quote_of_forward (srRtLookup_site_none (List.cons_ne_nil other []) hother) hdone

/-- **Errors quote 28 bytes** of every packet about which one may be sent. -/
lemma PacketSafe.quote (h : PacketSafe mac natEnabled p len) (hok : Accepted p len)
    (herr : ErrorPossible natEnabled p len) : icmpDataSize ≤ len.toNat := by
  by_cases hdst : SrIpHdr.ipDst p = ipBroadcastAddr
  · have hrouter := herr.resolve_left (not_not.mpr hdst)
    by_cases hicmp : SrIpHdr.ipP p = ipProtocolIcmp
    · rw [if_pos hicmp] at hrouter
      obtain ⟨rfl, hsum, htype, ⟨hs, hloses⟩ | ⟨hs, hid⟩⟩ := hrouter
      · exact h.quote_of_outboundReply hok hicmp hsum htype hdst hs hloses
      · exact h.quote_of_inboundReply hok hicmp hsum htype hs hid
    · rw [if_neg hicmp] at hrouter
      by_cases htcp : natEnabled = true ∧ SrIpHdr.ipP p = ipProtocolTcp
      · rw [if_pos htcp] at hrouter
        obtain ⟨rfl, htcp⟩ := htcp
        exact h.quote_of_segment hok htcp hdst hrouter
      · have hsite := h.toRouter hok [] reached_startState
        simp only [InFrame.routerAction, if_neg hicmp, if_neg htcp] at hsite
        split_ifs at hsite
        · exact quote_of_sendIcmp (by decide) hsite
        · exact quote_of_sendIcmp (by decide) hsite
  · exact h.quote_of_transit hok hdst

end Packets

/-! ### The frames that are safe -/

/-- A safe IP packet is long enough. -/
lemma PacketSafe.fits {mac : Mac} {natEnabled : Bool} {p : ByteMem} {len : UInt32}
    (h : PacketSafe mac natEnabled p len) (hok : Accepted p len) : IpFits natEnabled p len where
  quote := h.quote hok
  icmpSum := h.icmpSum hok
  echo hicmp hsum htype :=
    echo_of_icmpAction htype (h.icmpAction hok hicmp hsum [] reached_startState)
  identifier := by
    rintro rfl
    exact h.identifier hok
  message := by
    rintro rfl
    exact h.message hok
  outbound := by
    rintro rfl
    exact h.outbound hok
  inbound := by
    rintro rfl
    exact h.inbound hok

/-- A safe frame is long enough. -/
lemma FrameSafe.fits {natEnabled : Bool} {frame : ByteMem} {len : UInt32}
    (h : FrameSafe natEnabled frame len) : FrameFits natEnabled frame len where
  header := h.header
  arp := h.arp
  ipHeader hip := (h.ipPacket hip).ipHeader
  ip hip := (h.ipPacket hip).fits

/-- The external ids of a state that is reached are in range. -/
lemma Reached.idsInRange {s : SrNat} (h : Reached s) : IdsInRange s := by
  obtain ⟨s₀, ⟨icmpTo, estabTo, transTo, unsol, rfl⟩, hsteps⟩ := h
  refine natInvariant (c := (.idle, s)) (fun c s r s' hs hc => (hs.call hc).2)
    (fun s s' hs he => hs.sweep he) ?_ hsteps
  exact fun m hm => absurd hm List.not_mem_nil

/-- **The frames that are handled within their bounds** are exactly those that are long enough for
what the router may do with them. -/
theorem frameSafe_iff_fits (natEnabled : Bool) (frame : ByteMem) (len : UInt32) :
    FrameSafe natEnabled frame len ↔ FrameFits natEnabled frame len :=
  ⟨FrameSafe.fits, fun h cfg interface _ _ hnat =>
    staysInside_of_fits h cfg interface hnat.idsInRange⟩

/-- A frame of 60 bytes with an echo request from 8.8.8.8 to the router.  Its `ip_len` says 1000. -/
def oversizedRequest : ByteMem :=
  ofBytes ([2, 2, 2, 2, 2, 2, 4, 4, 4, 4, 4, 4, 8, 0] ++
    [0x45, 0, 0x03, 0xe8, 0, 0, 0, 0, 0x40, 1, 0xb7, 0xc4, 8, 8, 8, 8, 0xac, 0x40, 3, 1] ++
    [8, 0, 0xf7, 0xfd, 0, 1, 0, 1])

/-- The load of the frame passes both tests and is an echo request for the router. -/
lemma oversizedRequest_accepted :
    Accepted (frameLoad oversizedRequest) 46 ∧ IcmpSumOk (frameLoad oversizedRequest) 46 := by
  decide +kernel

/-- **A frame that is left**: 972 bytes from index 42 on are copied into the reply, although the
frame ends with index 59. -/
theorem srHandlepacket_leaves_frame :
    srArpReqNotForUs oneRoute ⟨oversizedRequest, 60, outerInterface.name⟩ = .ok false ∧
      Reached startState ∧
      ¬ StaysInside natSem natEnv (60 : UInt32).toNat (InFrame.srHandlepacket oneRoute false
        oversizedRequest 60 outerInterface.name) startState := by
  refine ⟨by decide, reached_startState, fun h => ?_⟩
  have hinterface : srGetInterface oneRoute.ifList outerInterface.name = some outerInterface := rfl
  have hmac : ¬ isMisdirected oversizedRequest outerInterface = true := by decide
  have hethertype : ntohs (load16 oversizedRequest 12) = ethertypeIp := by decide
  have hframe := h.access.2
  simp only [hinterface, if_neg hmac] at hframe
  have hload := hframe.access.2
  rw [if_neg (by rw [hethertype]; decide), if_pos hethertype] at hload
  obtain ⟨hok, hsum⟩ := oversizedRequest_accepted
  have hpacket := staysInside_of_accepted hok hload.of_map
  rw [if_pos (by decide)] at hpacket
  obtain ⟨-, hle⟩ := @echo_of_icmpAction false _ 46 _ _ (by decide)
    (staysInside_icmpAction (by decide) hsum hpacket)
  revert hle
  decide

end NatRouter
