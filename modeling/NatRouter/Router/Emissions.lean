import NatRouter.Router.System

/-!
# Frames, one by one

Every frame that the router sends is an ARP packet of its own, an IP packet to an Ethernet address
that the ARP cache has, or a packet that has waited for the address which an ARP packet has just
brought.  An `Emission` is one such frame, or a change of the cache or of the queue in between, and
everything that sends is a run of them.  What is known of the lengths of packets and of the addresses
in ARP packets is so carried over to the frames.
-/

namespace NatRouter

open ByteMemory GroupedQueue Relation

/-- An entry of the log that is no frame and puts nothing on the ARP queue. -/
def RouterEvent.isNote : RouterEvent → Bool
  | .send .. => false
  | .queued .. => false
  | _ => true

/-- The lengths of the messages that `sr_send_icmp` makes. -/
def IsMessageLen (len : UInt32) : Prop :=
  ∃ interfaceInfo packet type code message,
    icmpIppacket interfaceInfo packet type code = .ok (len, message)

/-- A frame is sent, or the cache changes.  `L` says of which lengths the IP packets are, and `A`
which Ethernet and IP addresses come together in ARP packets. -/
inductive Emission (L : UInt32 → Prop) (A : Mac → UInt32 → Prop) : SrInstance → SrInstance → Prop
  /-- Something is noted. -/
  | note {sr : SrInstance} {events : List RouterEvent} (h : ∀ e ∈ events, e.isNote = true) :
      Emission L A sr (sr.record events)
  /-- An ARP packet is sent to all stations, or to one that has sent an ARP packet. -/
  | arp {sr : SrInstance} {load : ByteMem} {dhost shost : Mac} {iface : IfName}
      (h : dhost = etherBroadcastAddr ∨ ∃ ip, A dhost ip) :
      Emission L A sr (srSendPacket sr none
        (srCreateEtherframe sizeofArpPacket load dhost shost ethertypeArp)
        (frameLen sizeofArpPacket) iface)
  /-- An IP packet is sent to an address of the cache. -/
  | ip {sr : SrInstance} {ip : UInt32} {entry : SrArpentry} {len : UInt32} {load : ByteMem}
      {shost : Mac} {iface : IfName} (hlookup : srArpcacheLookup sr.cache ip = some entry)
      (hlen : L len) :
      Emission L A sr (srSendPacket sr none (srCreateEtherframe len load entry.mac shost ethertypeIp)
        (frameLen len) iface)
  /-- A packet is put on the ARP queue. -/
  | queuereq {sr : SrInstance} {heap : NodeId → ByteMem} {ip : UInt32} {packet : ByteMem}
      {len : UInt32} {iface sender : IfName} (hlen : L len) :
      Emission L A sr (sr.queuereq heap ip packet len iface sender)
  /-- The addresses of an ARP packet are inserted, and packets that have waited are sent. -/
  | answer {sr : SrInstance} {now : Time} {mac : Mac} {ip : UInt32} {pkts : List SrPacket}
      {iface : IfName} {cache : SrArpcache} (hA : A mac ip)
      (hpkts : ∀ pkt ∈ pkts, ∃ ip, (ip, pkt) ∈ sr.cache.waiting)
      (hentries : cache.entries = (srArpcacheInsert sr.cache now mac ip).2.entries)
      (hrequests : cache.requests ⊆ sr.cache.requests) :
      Emission L A sr { sr.record (pkts.map (flushEvent sr.cfg mac iface)) with cache := cache }
  /-- The cache changes: no entry is made, and nothing more waits. -/
  | cache {sr : SrInstance} {cache : SrArpcache}
      (hentries : ∀ entry ∈ cache.entries, entry.valid = true → entry ∈ sr.cache.entries)
      (hwaiting : ∀ w ∈ cache.waiting, w ∈ sr.cache.waiting) :
      Emission L A sr { sr with cache := cache }

/-- Frames one after the other. -/
abbrev Emissions (L : UInt32 → Prop) (A : Mac → UInt32 → Prop) : SrInstance → SrInstance → Prop :=
  ReflTransGen (Emission L A)

section Kept

variable {L : UInt32 → Prop} {A : Mac → UInt32 → Prop} {sr sr' : SrInstance}

/-- The interfaces and routes stay. -/
lemma Emission.cfg (he : Emission L A sr sr') : sr'.cfg = sr.cfg := by
  cases he <;> rfl

/-- The log grows. -/
lemma Emission.log_prefix (he : Emission L A sr sr') : sr.log <+: sr'.log := by
  cases he with
  | note h => exact List.prefix_append _ _
  | arp h => exact List.prefix_append _ _
  | ip hlookup hlen => exact List.prefix_append _ _
  | queuereq hlen => exact List.prefix_append _ _
  | answer hA hpkts hentries hrequests => exact List.prefix_append _ _
  | cache hentries hwaiting => exact List.prefix_refl _

end Kept

section Functions

variable {L : UInt32 → Prop} {A : Mac → UInt32 → Prop} {ctx : Surroundings} {sr sr' : SrInstance}
  {packet : ByteMem} {len : UInt32} {interface : IfName}

/-- Requests are unlinked. -/
lemma emission_unlink {cache : SrArpcache} (hentries : cache.entries = sr.cache.entries)
    (hrequests : cache.requests ⊆ sr.cache.requests) : Emission L A sr { sr with cache := cache } :=
  .cache (fun _ hentry _ => hentries ▸ hentry) fun _ hw => waiting_of_requests hrequests hw

/-- `sr_send_arp` sends an ARP packet. -/
lemma emission_srSendArp {arpType : UInt16} {mac : Mac} {ip : UInt32}
    (hmac : mac = etherBroadcastAddr ∨ ∃ ip, A mac ip)
    (h : srSendArp sr interface arpType mac ip = .ok sr') : Emission L A sr sr' := by
  obtain ⟨i, -, h⟩ := bind_eq_ok.mp h
  obtain rfl := Except.ok.inj h
  exact .arp hmac

/-- `sr_send_icmp` sends its message, or has it wait. -/
lemma emissions_srSendIcmp {type code : UInt8} (hL : ∀ len, IsMessageLen len → L len)
    (h : srSendIcmp ctx sr packet interface type code = .ok sr') : Emissions L A sr sr' := by
  obtain ⟨⟨loadLen, ipPacket⟩, hmessage, hsend⟩ := bind_eq_ok.mp h
  have hlen : L loadLen := hL loadLen ⟨_, _, _, _, _, hmessage⟩
  have hnote : Emission L A sr (sr.record [.icmp packet interface type code]) :=
    .note fun e he => List.mem_singleton.mp he ▸ rfl
  simp only [SrInstance.record] at hsend
  split at hsend
  · rename_i entry hlookup
    obtain ⟨i, -, hsend⟩ := bind_eq_ok.mp hsend
    obtain rfl := Except.ok.inj hsend
    exact .head hnote (.single (.ip hlookup hlen))
  · obtain rfl := Except.ok.inj hsend
    exact .head hnote (.single (.queuereq hlen))

/-- `sr_forward_ippacket` sends the packet, or has it wait, or makes a message about it. -/
lemma emissions_srForwardIppacket (hL : ∀ len, IsMessageLen len → L len) (hlen : L len)
    (h : srForwardIppacket ctx sr packet len interface = .ok sr') : Emissions L A sr sr' := by
  obtain ⟨-, hsend⟩ | ⟨lpm, hroute, hcase⟩ := srForwardIppacket_cases h
  · exact emissions_srSendIcmp hL hsend
  · have hnote : Emission L A sr (sr.record [.forward (decrementTtl packet) len lpm]) :=
      .note fun e he => List.mem_singleton.mp he ▸ rfl
    cases hlookup : srArpcacheLookup sr.cache lpm.gw with
    | none =>
      obtain rfl := Except.ok.inj ((srForwardIppacket_miss hroute hlookup).symm.trans h)
      exact .head hnote (.single (.queuereq hlen))
    | some entry =>
      obtain ⟨i, -, hi, -⟩ | ⟨hmiss, -⟩ := hcase
      · obtain rfl := Except.ok.inj ((srForwardIppacket_hit hroute hlookup hi).symm.trans h)
        exact .head hnote (.single (.ip hlookup hlen))
      · rw [hlookup] at hmiss
        cases hmiss

/-- What was decided about a packet is done. -/
lemma emissions_perform (hL : ∀ len, IsMessageLen len → L len) (hlen : L len) {action : IpAction}
    (h : perform ctx sr len interface action = .ok sr') : Emissions L A sr sr' := by
  cases action with
  | drop =>
    obtain rfl : sr = sr' := Except.ok.inj h
    exact .refl
  | sendIcmp packet type code => exact emissions_srSendIcmp hL h
  | forward packet => exact emissions_srForwardIppacket hL hlen h

/-- The addresses of an ARP packet come together. -/
def Announces (A : Mac → UInt32 → Prop) (packet : ByteMem) : Prop :=
  isEthernetIp packet = true →
    ntohs (SrArpPacket.arOp packet) = arpOpRequest ∨ ntohs (SrArpPacket.arOp packet) = arpOpReply →
    A (SrArpPacket.arSha packet) (SrArpPacket.arSip packet)

/-- `sr_handle_arp` inserts the addresses of the sender, and answers a request or sends what has
waited. -/
lemma emissions_srHandleArp {now : Time} (h : srHandleArp sr now packet interface = .ok sr')
    (hannounces : Announces A packet) : Emissions L A sr sr' := by
  unfold Announces at hannounces
  set mac := SrArpPacket.arSha packet
  set ip := SrArpPacket.arSip packet
  have hinsert : A mac ip →
      Emission L A sr { sr with cache := (srArpcacheInsert sr.cache now mac ip).2 } := by
    intro hA
    have h := @Emission.answer L A sr now mac ip [] interface (srArpcacheInsert sr.cache now mac ip).2
      hA (fun pkt hpkt => absurd hpkt List.not_mem_nil) rfl List.eraseP_subset
    rwa [List.map_nil, SrInstance.record, List.append_nil] at h
  unfold srHandleArp at h
  split_ifs at h with hip
  · simp only at h
    split_ifs at h with hrequest hreply
    · have hA := hannounces hip (.inl hrequest)
      exact .head (hinsert hA) (.single (emission_srSendArp (.inr ⟨ip, hA⟩) h))
    · have hA := hannounces hip (.inr hreply)
      split at h
      · rename_i arpReq hreq
        obtain ⟨mid, hflush, hdestroy⟩ := bind_eq_ok.mp h
        obtain rfl := Except.ok.inj hdestroy
        obtain ⟨rfl, -⟩ := flushPackets_eq hflush
        refine .single (.answer hA (fun pkt hpkt => ⟨arpReq.ip, mem_content.mpr ?_⟩) rfl ?_)
        · exact ⟨arpReq, List.mem_of_find?_eq_some hreq, rfl, hpkt⟩
        · exact List.Subset.trans List.eraseP_subset List.eraseP_subset
      · obtain rfl := Except.ok.inj h
        exact .single (hinsert hA)
    · obtain rfl := Except.ok.inj h
      exact .refl
  · obtain rfl := Except.ok.inj h
    exact .refl

/-- The messages about the packets of a request are sent. -/
lemma emissions_sendUnreachable (hL : ∀ len, IsMessageLen len → L len) {packets : List SrPacket}
    (h : sendUnreachable ctx packets sr = .ok sr') : Emissions L A sr sr' := by
  induction packets generalizing sr with
  | nil =>
    obtain rfl : sr = sr' := Except.ok.inj h
    exact .refl
  | cons curr rest ih =>
    obtain ⟨mid, hcurr, hrest⟩ := bind_eq_ok.mp h
    exact (emissions_srSendIcmp hL hcurr).trans (ih hrest)

/-- `sr_handle_arpreq_queue` asks for an address again, or gives it up. -/
lemma emissions_srHandleArpreqQueue (hL : ∀ len, IsMessageLen len → L len) {now later : Time}
    {node : NodeId} (h : srHandleArpreqQueue ctx now later node sr = .ok sr') :
    Emissions L A sr sr' := by
  unfold srHandleArpreqQueue at h
  split at h
  · cases h
  · split_ifs at h
    · obtain ⟨mid, hsend, hdestroy⟩ := bind_eq_ok.mp h
      obtain rfl := Except.ok.inj hdestroy
      exact (emissions_sendUnreachable hL hsend).tail (emission_unlink rfl List.eraseP_subset)
    · obtain ⟨head, -, h⟩ := bind_eq_ok.mp h
      obtain ⟨mid, hsend, htouch⟩ := bind_eq_ok.mp h
      obtain rfl := Except.ok.inj htouch
      exact .head (emission_srSendArp (.inl rfl) hsend) (.single (.cache (fun _ hentry _ => hentry)
        fun w hw => waiting_touch mid.cache node later ▸ hw))
    · obtain rfl := Except.ok.inj h
      exact .refl

/-- The sweep of the ARP queue does so request by request. -/
lemma emissions_sweepNodes (hL : ∀ len, IsMessageLen len → L len) {clock : NodeId → Time × Time}
    {nodes : List NodeId} (h : sweepNodes ctx clock nodes sr = .ok sr') : Emissions L A sr sr' := by
  induction nodes generalizing sr with
  | nil =>
    obtain rfl : sr = sr' := Except.ok.inj h
    exact .refl
  | cons node next ih =>
    obtain ⟨mid, hvisit, hrest⟩ := bind_eq_ok.mp h
    obtain ⟨mid', hhandle, hread⟩ := bind_eq_ok.mp hvisit
    have hnext : Emissions L A mid' mid := by
      split_ifs at hread
      · obtain rfl := Except.ok.inj hread
        exact .refl
      · obtain rfl := Except.ok.inj hread
        exact .single (.note fun e he => List.mem_singleton.mp he ▸ rfl)
    exact (emissions_srHandleArpreqQueue hL hhandle).trans (hnext.trans (ih hrest))

/-- A pass of `sr_arpcache_timeout` invalidates entries first. -/
lemma emissions_srArpcacheTimeout (hL : ∀ len, IsMessageLen len → L len) {curtime : Time}
    {clock : NodeId → Time × Time} (h : srArpcacheTimeout ctx curtime clock sr = .ok sr') :
    Emissions L A sr sr' := by
  have hexpire : Emission L A sr { sr with cache := srArpcacheExpire sr.cache curtime } := by
    refine .cache (fun entry hentry hvalid => ?_) fun w hw => hw
    obtain ⟨entry', hentry', rfl⟩ := Vector.mem_map.mp hentry
    split_ifs at hvalid ⊢
    exact hentry'
  exact .head hexpire (emissions_sweepNodes hL h)

/-- The messages of a sweep of the NAT are sent. -/
lemma emissions_sendReported (hL : ∀ len, IsMessageLen len → L len)
    {reported : List (SrNatUnsolPkt × SrRt)} (h : sendReported ctx reported sr = .ok sr') :
    Emissions L A sr sr' := by
  induction reported generalizing sr with
  | nil =>
    obtain rfl : sr = sr' := Except.ok.inj h
    exact .refl
  | cons curr rest ih =>
    obtain ⟨mid, hcurr, hrest⟩ := bind_eq_ok.mp h
    exact (emissions_srSendIcmp hL hcurr).trans (ih hrest)

/-- **Invariants of sending**: what every emission keeps is kept. -/
lemma Emissions.invariant {I : SrInstance → Prop}
    (hstep : ∀ sr sr', I sr → Emission L A sr sr' → I sr') (h : Emissions L A sr sr') (hI : I sr) :
    I sr' := by
  induction h with
  | refl => exact hI
  | tail _ hlast ih => exact hstep _ _ ih hlast

end Functions

end NatRouter
