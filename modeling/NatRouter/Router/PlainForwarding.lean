import NatRouter.Router.SentFields
import NatRouter.Router.TranslatedSums

/-!
# Forwarding without NAT

What goes out of a packet that is forwarded while the NAT is off, behind the Ethernet header of a
frame or as the copy that waits for an address.  The packet has been changed in place by then: the
checksum is cleared and put back for the test, cleared again, and filled in for one hop less to
live.  None of this is left but the hops and the checksum (`plain_forward`).
-/

namespace NatRouter

open ByteMemory Interleaving InternetChecksum

/-- The IP packet that an entry of the log carries: behind the Ethernet header of the frame that is
sent, or in the copy that is queued. -/
def RouterEvent.carried : RouterEvent → Option (List UInt8)
  | .send _ frame _ => some (frame.drop sizeofEthernetHdr)
  | .queued _ pkt => some (bytes pkt.buf pkt.len.toNat)
  | _ => none

/-- A packet as it was received, and as it should be sent on. -/
structure OneHopLess (received sent : List UInt8) : Prop where
  /-- It has the same length. -/
  length : sent.length = received.length
  /-- Besides the hops and the checksum all bytes are the same. -/
  others : ∀ i, i ≠ 8 → i ≠ 10 → i ≠ 11 → sent[i]? = received[i]?
  /-- It has one hop less to live. -/
  ttl : sent[8]? = received[8]?.map (· - 1)
  /-- Its header checksum is right. -/
  sum : IpSumValid (ofBytes sent)

variable {ctx : Surroundings} {sr sr' : SrInstance} {p : IpPacket} {interface : IfName}
  {q : ByteMem} {lpm : SrRt}

/-- The header checksum is one of the header only. -/
lemma ipSumValid_congr {p p' : ByteMem} (ho : 0 < ipHeaderLen p)
    (h : ∀ i < ipHeaderLen p, p' i = p i) : IpSumValid p' ↔ IpSumValid p := by
  have hhl : ipHeaderLen p' = ipHeaderLen p := ipHeaderLen_congr (h 0 ho)
  have hspan : spanSum p' 0 0 (ipHeaderLen p) = spanSum p 0 0 (ipHeaderLen p) :=
    spanSum_congr fun j _ hj => h (0 + j) (by omega)
  rw [IpSumValid, IpSumValid, hhl, onesSum_words_iff, onesSum_words_iff, hspan]

/-- What `sr_forward_ippacket` makes of a packet is as it should be. -/
lemma oneHopLess_decrementTtl (p : IpPacket) :
    OneHopLess (bytes p.buf p.len.toNat) (bytes (decrementTtl p.buf) p.len.toNat) where
  length := by rw [length_bytes, length_bytes]
  others i h8 h10 h11 := by
    rw [getElem?_bytes, getElem?_bytes, decrementTtl_apply ⟨h8, h10, h11⟩]
  ttl := by
    have hin : 8 < p.len.toNat := by
      have hfits := p.fits
      have ho := p.offset_ge
      omega
    rw [getElem?_bytes, getElem?_bytes, if_pos hin, if_pos hin]
    exact congrArg some (ipTtl_decrementTtl p.buf)
  sum := by
    have ho := p.offset_ge
    have hfits := p.fits
    have hhl : ipHeaderLen (decrementTtl p.buf) = ipHeaderLen p.buf :=
      ipHeaderLen_congr (decrementTtl_apply ⟨by omega, by omega, by omega⟩)
    refine (ipSumValid_congr (by omega) fun i hi => ?_).mpr (ipSumValid_decrementTtl ho)
    exact ofBytes_bytes (by omega)

/-- Without NAT `sr_handle_ippacket` hands a packet on as it is. -/
lemma eq_buf_of_plain {amb : ℕ → Ambient} {s s' : SrNat} {q₀ : ByteMem}
    (h : (ipAction sr.cfg false p.buf p.len).run natExec amb s = .ok (.forward q₀, s')) :
    Accepted p.buf p.len ∧ q₀ = p.buf := by
  have hdecides := ipAction_decides sr.cfg false p.buf p.len
  generalize ipAction sr.cfg false p.buf p.len = P at h hdecides
  cases hdecides with
  | drop => cases h
  | sendIcmp type code => cases h
  | forward hok hother =>
    cases h
    exact ⟨hok, rfl⟩
  | natIcmp hok hon hp hg => cases hon
  | natTcp hok hon hp hfor => cases hon

/-- Behind the Ethernet header of a frame lies its load. -/
lemma drop_srCreateEtherframe {len : UInt32} {load : ByteMem} {dest source : Mac}
    {etherType : UInt16} (hlen : len ≤ ipMaxpacket) :
    (bytes (srCreateEtherframe len load dest source etherType) (frameLen len).toNat).drop
      sizeofEthernetHdr = bytes load len.toNat := by
  have hle : len.toNat ≤ 65535 := UInt32.le_iff_toNat_le.mp hlen
  have htotal : (frameLen len).toNat = sizeofEthernetHdr + len.toNat := by
    rw [frameLen, UInt32.toNat_add]
    simp only [sizeofEthernetHdr, UInt32.reduceOfNat, UInt32.reduceToNat]
    omega
  rw [htotal, bytes_add, List.drop_left' (length_bytes ..)]
  refine List.map_congr_left fun k hk => ?_
  exact storeBlock_apply_add (List.mem_range.mp hk)

/-- **Plain forwarding changes only the hops and the header checksum**, and the checksum is
right. -/
theorem plain_forward (hoff : sr.natEnabled = false)
    (h : Forwards ctx sr p.buf p.len interface sr' q lpm) :
    ∃ out sent, sr'.log = sr.log ++ [.forward q p.len lpm, out] ∧ out.carried = some sent ∧
      OneHopLess (bytes p.buf p.len.toNat) sent := by
  obtain ⟨q₀, nat', hrun, -, hroute, rfl⟩ := action_of_forwards h
  have hhandle := h.1
  rw [srHandleIppacket, hrun] at hhandle
  rw [hoff] at hrun
  obtain ⟨⟨hmax, hmin, -⟩, rfl⟩ := eq_buf_of_plain hrun
  have hforward : srForwardIppacket ctx { sr with nat := nat' } p.buf p.len interface = .ok sr' :=
    hhandle
  cases hlookup : srArpcacheLookup sr.cache lpm.gw with
  | some entry =>
    obtain ⟨i, hi⟩ := hroute.interface (hlookup ▸ rfl)
    obtain rfl := Except.ok.inj
      (hforward.symm.trans (srForwardIppacket_hit hroute.lookup hlookup hi))
    refine ⟨_, bytes (decrementTtl p.buf) p.len.toNat, List.append_assoc .., ?_,
      oneHopLess_decrementTtl p⟩
    exact congrArg some (drop_srCreateEtherframe hmax)
  | none =>
    obtain rfl := Except.ok.inj (hforward.symm.trans (srForwardIppacket_miss hroute.lookup hlookup))
    have hne : p.len ≠ 0 := by
      rintro hzero
      rw [hzero] at hmin
      exact absurd hmin (by decide)
    set junk := ctx.heap sr.cache.nextNode
    have hpkt : newPacket junk (decrementTtl p.buf) p.len lpm.interface interface =
        some ⟨copied (decrementTtl p.buf) p.len.toNat junk, p.len, copyIfName lpm.interface,
          copyIfName interface⟩ := if_pos hne
    refine ⟨.queued lpm.gw ⟨copied (decrementTtl p.buf) p.len.toNat junk, p.len,
      copyIfName lpm.interface, copyIfName interface⟩, bytes (decrementTtl p.buf) p.len.toNat, ?_,
      ?_, oneHopLess_decrementTtl p⟩
    · rw [SrInstance.queuereq]
      simp only [SrInstance.record, hpkt, Option.toList_some, List.map_cons, List.map_nil,
        List.append_assoc, List.cons_append, List.nil_append, junk]
    · refine congrArg some (List.map_congr_left fun k hk => ?_)
      exact if_pos (List.mem_range.mp hk)

/-- The router `twoSided` without NAT. -/
def plainRouter : SrInstance := { natRouter startState with natEnabled := false }

/-- An echo request from 10.0.1.100 to 8.8.8.8 is forwarded so. -/
theorem plain_forward_ping : ∃ sr' q,
    Forwards quietSurroundings plainRouter (sealedMessage 64 8 0x0a000164 0x08080808 7).buf
      (sealedMessage 64 8 0x0a000164 0x08080808 7).len innerInterface.name sr' q outerRoute ∧
    ∃ out sent, sr'.log =
        plainRouter.log ++ [.forward q (sealedMessage 64 8 0x0a000164 0x08080808 7).len outerRoute,
        out] ∧
      out.carried = some sent ∧
      OneHopLess (bytes (sealedMessage 64 8 0x0a000164 0x08080808 7).buf
        (sealedMessage 64 8 0x0a000164 0x08080808 7).len.toNat) sent := by
  have hdst : SrIpHdr.ipDst (sealedMessage 64 8 0x0a000164 0x08080808 7).buf = htonl 0x08080808 :=
    ipDst_sealedMessage ..
  have httl : SrIpHdr.ipTtl (sealedMessage 64 8 0x0a000164 0x08080808 7).buf = 64 :=
    ipTtl_sealedMessage ..
  have hroute : RoutesTo plainRouter
      (SrIpHdr.ipDst (sealedMessage 64 8 0x0a000164 0x08080808 7).buf) outerRoute := by
    rw [hdst]
    exact ⟨rfl, (@routesTo_natRouter startState (htonl 0x08080808) outerRoute rfl).interface⟩
  have honward : IcmpOnward plainRouter.cfg plainRouter.natEnabled plainRouter.nat
      (sealedMessage 64 8 0x0a000164 0x08080808 7).buf
      (sealedMessage 64 8 0x0a000164 0x08080808 7).len
      (sealedMessage 64 8 0x0a000164 0x08080808 7).buf :=
    .plain (by rw [hdst]; rfl) (by rw [httl]; decide) rfl
  obtain ⟨sr', hforwards⟩ := honward.forwards (ipP_sealedMessage ..) (accepted_sealedMessage ..)
    hroute quietSurroundings innerInterface.name
  exact ⟨sr', _, hforwards, plain_forward rfl hforwards⟩

end NatRouter
