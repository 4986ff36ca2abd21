import NatRouter.Router.Emissions
import NatRouter.Router.Frames

/-!
# The lengths of frames

A frame of the router holds a message of its own or a packet that it has received, and so none is
longer than an IP packet can be if none was when it was received.
-/

namespace NatRouter

open ByteMemory

/-- The longest frame: an IP packet of 65535 bytes behind its header. -/
def maxFrameLen : ℕ := 65549

/-- A packet of this length fits into a frame. -/
def FitsFrame (len : UInt32) : Prop := (frameLen len).toNat ≤ maxFrameLen

/-- All frames are short, and those that the packets on the ARP queue wait for will be. -/
structure ShortFrames (sr : SrInstance) : Prop where
  /-- The frames so far. -/
  frames : ∀ origin frame iface, RouterEvent.send origin frame iface ∈ sr.log →
    frame.length ≤ maxFrameLen
  /-- The packets that wait. -/
  waiting : ∀ w ∈ sr.cache.waiting, FitsFrame w.2.len

/-- The length of a frame does not wrap around for a packet that is not too long. -/
lemma fitsFrame_ofNat {n : ℕ} (h : n ≤ 65535) : FitsFrame (UInt32.ofNat n) := by
  have hsum : frameLen (UInt32.ofNat n) = UInt32.ofNat (14 + n) := (UInt32.ofNat_add 14 n).symm
  rw [FitsFrame, hsum, UInt32.toNat_ofNat_of_lt' (lt_of_le_of_lt (Nat.add_le_add_left h 14)
    (by decide))]
  exact Nat.add_le_add_left h 14

/-- The messages of the router fit. -/
lemma fitsFrame_of_isMessageLen {len : UInt32} (h : IsMessageLen len) : FitsFrame len := by
  obtain ⟨interfaceInfo, packet, type, code, message, h⟩ := h
  by_cases htype : type = icmpTypeEchoreply
  · obtain ⟨⟨icmpLen, icmpPacket⟩, hcontent, h⟩ := bind_eq_ok.mp h
    obtain ⟨sourceIp, -, h⟩ := bind_eq_ok.mp h
    cases h
    have hlen : (ntohs (SrIpHdr.ipLen packet)).toNat < 2 ^ 16 := UInt16.toNat_lt _
    unfold srCreateIcmppacket icmpContent at hcontent
    rw [if_neg (not_not.mpr htype)] at hcontent
    dsimp only at hcontent
    split_ifs at hcontent with hshort
    cases hcontent
    have hheaders : sizeofIpHdr + sizeofIcmpHdr = 28 := rfl
    have hsum : UInt32.ofNat ((ntohs (SrIpHdr.ipLen packet)).toNat - sizeofIpHdr) +
        UInt32.ofNat sizeofIpHdr = UInt32.ofNat (ntohs (SrIpHdr.ipLen packet)).toNat := by
      rw [← UInt32.ofNat_add, Nat.sub_add_cancel (Nat.le_trans (Nat.le_add_right _ _)
        (Nat.not_lt.mp hshort))]
    dsimp only
    rw [hsum]
    exact fitsFrame_ofNat (by omega)
  · rw [icmpIppacket_len htype h]
    exact fitsFrame_ofNat (by decide)

/-- A frame that holds the load of a frame is as long. -/
lemma frameLen_frameLoadLen (len : UInt32) : frameLen (frameLoadLen len) = len := by
  unfold frameLen frameLoadLen
  rw [UInt32.add_comm, UInt32.sub_add_cancel]

section Invariant

variable {A : Mac → UInt32 → Prop} {sr sr' : SrInstance}

/-- What is added to the log, when the cache stays. -/
lemma ShortFrames.record (h : ShortFrames sr) {events : List RouterEvent}
    (hevents : ∀ origin frame iface, RouterEvent.send origin frame iface ∈ events →
      frame.length ≤ maxFrameLen) : ShortFrames (sr.record events) where
  frames origin frame iface hmem := by
    rcases List.mem_append.mp hmem with hold | hnew
    · exact h.frames origin frame iface hold
    · exact hevents origin frame iface hnew
  waiting := h.waiting

/-- A frame is sent. -/
lemma ShortFrames.send (h : ShortFrames sr) {origin : Option SrPacket} {frame : ByteMem} {len : UInt32}
    {iface : IfName} (hlen : len.toNat ≤ maxFrameLen) :
    ShortFrames (srSendPacket sr origin frame len iface) := by
  refine h.record fun origin' frame' iface' hmem => ?_
  cases List.mem_singleton.mp hmem
  rw [length_bytes]
  exact hlen

/-- **Each emission** is short. -/
lemma ShortFrames.emission (h : ShortFrames sr) (he : Emission FitsFrame A sr sr') :
    ShortFrames sr' := by
  cases he with
  | note hnote =>
    refine h.record fun origin frame iface hmem => ?_
    exact absurd (hnote _ hmem) Bool.false_ne_true
  | arp hdhost => exact h.send (by decide)
  | ip hlookup hlen => exact h.send hlen
  | @queuereq heap ip packet len iface sender hlen =>
    refine ⟨fun origin frame iface' hmem => ?_, fun w hw => ?_⟩
    · rcases List.mem_append.mp hmem with hold | hnew
      · exact h.frames origin frame iface' hold
      · obtain ⟨pkt, -, heq⟩ := List.mem_map.mp hnew
        cases heq
    · rcases Multiset.mem_add.mp (waiting_srArpcacheQueuereq _ ip packet len iface sender sr.cache ▸ hw)
        with hold | hnew
      · exact h.waiting w hold
      · obtain ⟨pkt, hpkt, rfl⟩ := List.mem_map.mp (Multiset.mem_coe.mp hnew)
        unfold newPacket at hpkt
        split_ifs at hpkt
        · obtain rfl := List.mem_singleton.mp hpkt
          exact hlen
        · cases hpkt
  | @answer now mac ip pkts iface cache hA hpkts hentries hrequests =>
    have hsent : ShortFrames (sr.record (pkts.map (flushEvent sr.cfg mac iface))) := by
      refine h.record fun origin frame iface' hmem => ?_
      obtain ⟨pkt, hpkt, heq⟩ := List.mem_map.mp hmem
      obtain ⟨ip', hwaits⟩ := hpkts pkt hpkt
      cases heq
      rw [length_bytes]
      exact h.waiting _ hwaits
    exact ⟨hsent.frames, fun w hw => h.waiting w (waiting_of_requests hrequests hw)⟩
  | cache hentries hwaiting => exact ⟨h.frames, fun w hw => h.waiting w (hwaiting w hw)⟩

/-- And so is all that is sent. -/
lemma ShortFrames.emissions (h : ShortFrames sr) (he : Emissions FitsFrame A sr sr') :
    ShortFrames sr' :=
  he.invariant (fun _ _ hI hstep => hI.emission hstep) h

end Invariant

end NatRouter
