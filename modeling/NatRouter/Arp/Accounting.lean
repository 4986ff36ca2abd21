import NatRouter.Arp.Handler
import NatRouter.Nat.Execution
import NatRouter.Router.Effects

/-!
# No waiting packet is lost

What waits for an address is accounted for by a conservation law: what waits before an event, and
what is queued during it, waits after it or has been dealt with by one entry of the log each
(`Accounted`).  A packet is dealt with when its frame is sent to the address that was resolved, or
when a host-unreachable message is made for it.

The law holds for an event exactly when the event is safe (`StepSafe`): an ARP request must not come
from an address that packets wait for, since `sr_handle_arp` forgets the request that
`sr_arpcache_insert` has unlinked; and a request must not be given up while a packet from its own
address waits on it, unless that address is in the cache, since the message for that packet is queued
on the very request that is then destroyed.
-/

namespace NatRouter

open ByteMemory GroupedQueue Relation

/-! ### What enters and leaves the queue -/

/-- The packets that a piece of the log puts on the queue, each with the address it waits for. -/
def queuedBy (events : List RouterEvent) : Multiset (UInt32 × SrPacket) :=
  ↑(events.filterMap fun
    | .queued ip pkt => some (ip, pkt)
    | _ => none)

/-- Entries that deal with a waiting packet: the frame of such a packet, or an ICMP message. -/
def RouterEvent.isHandling : RouterEvent → Bool
  | .send (some _) _ _ => true
  | .icmp .. => true
  | _ => false

@[simp] lemma queuedBy_nil : queuedBy [] = 0 := rfl

@[simp] lemma queuedBy_append (e e' : List RouterEvent) :
    queuedBy (e ++ e') = queuedBy e + queuedBy e' := by
  simp [queuedBy]

/-- The books of a piece of a run: from `sr` to `sr'`, the packets `gone` have left the queue, and
`handling` are the entries of the log that deal with waiting packets. -/
def Books (sr sr' : SrInstance) (gone : Multiset (UInt32 × SrPacket))
    (handling : List RouterEvent) : Prop :=
  ∃ events, sr'.log = sr.log ++ events ∧
    sr.cache.waiting + queuedBy events = sr'.cache.waiting + gone ∧
    events.filter RouterEvent.isHandling = handling

/-- The two states determine the books. -/
lemma Books.unique {sr sr' : SrInstance} {gone gone' : Multiset (UInt32 × SrPacket)}
    {handling handling' : List RouterEvent} (h : Books sr sr' gone handling)
    (h' : Books sr sr' gone' handling') : gone = gone' ∧ handling = handling' := by
  obtain ⟨events, hlog, hwaiting, rfl⟩ := h
  obtain ⟨events', hlog', hwaiting', rfl⟩ := h'
  obtain rfl : events = events' := List.append_cancel_left (hlog.symm.trans hlog')
  exact ⟨add_left_cancel (hwaiting.symm.trans hwaiting'), rfl⟩

/-- The balance of a piece of the code: its books, and a queue that stays well formed. -/
structure Balance (sr sr' : SrInstance) (gone : Multiset (UInt32 × SrPacket))
    (handling : List RouterEvent) : Prop where
  /-- The queue stays well formed. -/
  wellFormed : sr.cache.WellFormed → sr'.cache.WellFormed
  /-- The entries that were added, and what they queue. -/
  books : Books sr sr' gone handling

section Balance

variable {sr sr' sr'' : SrInstance} {gone gone' : Multiset (UInt32 × SrPacket)}
  {handling handling' : List RouterEvent}

/-- Nothing happens. -/
lemma Balance.refl (sr : SrInstance) : Balance sr sr 0 [] :=
  ⟨id, [], (List.append_nil _).symm, by simp, rfl⟩

/-- Balances add up. -/
lemma Balance.trans (h : Balance sr sr' gone handling) (h' : Balance sr' sr'' gone' handling') :
    Balance sr sr'' (gone + gone') (handling ++ handling') := by
  obtain ⟨events, hlog, hwaiting, rfl⟩ := h.books
  obtain ⟨events', hlog', hwaiting', rfl⟩ := h'.books
  refine ⟨h'.wellFormed ∘ h.wellFormed, events ++ events', ?_, ?_, List.filter_append ..⟩
  · rw [hlog', hlog, List.append_assoc]
  · rw [queuedBy_append, ← add_assoc, hwaiting, add_right_comm, hwaiting', add_right_comm, add_assoc]

/-- The same cache, and a longer log that queues nothing. -/
lemma Balance.of_record (sr : SrInstance) {events : List RouterEvent} (h : queuedBy events = 0) :
    Balance sr (sr.record events) 0 (events.filter RouterEvent.isHandling) :=
  ⟨id, events, rfl, by rw [h]; rfl, rfl⟩

/-- A frame of the router's own. -/
lemma Balance.send_none (sr : SrInstance) (frame : ByteMem) (len : UInt32) (iface : IfName) :
    Balance sr (srSendPacket sr none frame len iface) 0 [] :=
  .of_record sr rfl

/-- A packet is queued. -/
lemma Balance.queuereq (sr : SrInstance) (heap : NodeId → ByteMem) (ip : UInt32) (packet : ByteMem)
    (len : UInt32) (iface sender : IfName) :
    Balance sr (sr.queuereq heap ip packet len iface sender) 0 [] := by
  refine ⟨fun h => h.queuereq _ ip packet len iface sender, _, rfl, ?_, ?_⟩
  · refine Eq.trans ?_ ((waiting_srArpcacheQueuereq (heap sr.cache.nextNode) ip packet len iface
      sender sr.cache).symm.trans (add_zero _).symm)
    congr 1
    cases newPacket (heap sr.cache.nextNode) packet len iface sender <;> rfl
  · cases newPacket (heap sr.cache.nextNode) packet len iface sender <;> rfl

/-- `sr_send_arp` touches no waiting packet. -/
lemma Balance.srSendArp {interface : IfName} {arpType : UInt16} {mac : Mac} {ip : UInt32}
    (h : srSendArp sr interface arpType mac ip = .ok sr') : Balance sr sr' 0 [] := by
  obtain ⟨frame, rfl⟩ := srSendArp_cases h
  exact .send_none sr frame _ interface

/-- `sr_send_icmp` makes one message, and takes nothing off the queue. -/
lemma Balance.srSendIcmp {ctx : Surroundings} {packet : ByteMem} {interface : IfName}
    {type code : UInt8} (h : srSendIcmp ctx sr packet interface type code = .ok sr') :
    Balance sr sr' 0 [.icmp packet interface type code] := by
  have hrecord : Balance sr (sr.record [.icmp packet interface type code]) 0
      [.icmp packet interface type code] := .of_record sr rfl
  obtain ⟨loadLen, ipPacket, -, ⟨entry, frame, -, rfl⟩ | ⟨-, rfl⟩⟩ := srSendIcmp_cases h
  · exact hrecord.trans (.send_none _ frame _ interface)
  · exact hrecord.trans (.queuereq _ ctx.heap _ ipPacket loadLen interface interface)

/-- The request for an address is unlinked: what waits for it is gone from the queue. -/
lemma Balance.unlink (sr : SrInstance) {cache : SrArpcache} (ip : UInt32)
    (hwf : cache.WellFormed) (hwaiting : cache.waiting = sr.cache.waiting.filter fun w => w.1 ≠ ip) :
    Balance sr { sr with cache := cache } (sr.cache.waiting.filter fun w => w.1 = ip) [] := by
  refine ⟨fun _ => hwf, [], (List.append_nil _).symm, ?_, rfl⟩
  rw [queuedBy_nil, add_zero, hwaiting, add_comm]
  exact (Multiset.filter_add_not (fun w : UInt32 × SrPacket => w.1 = ip) _).symm

/-- A change of the cache that leaves the queue alone. -/
lemma Balance.of_requests (sr : SrInstance) (cache : SrArpcache)
    (hwf : sr.cache.WellFormed → cache.WellFormed) (hwaiting : cache.waiting = sr.cache.waiting) :
    Balance sr { sr with cache := cache } 0 [] :=
  ⟨hwf, [], (List.append_nil _).symm, by rw [hwaiting, queuedBy_nil], rfl⟩

end Balance

/-! ### The two loops -/

/-- To flush the packets of an answered request is to deal with each of them. -/
lemma Balance.flushPackets {mac : Mac} {interface : IfName} {packets : List SrPacket}
    {sr sr' : SrInstance} (h : flushPackets mac interface packets sr = .ok sr') :
    Balance sr sr' 0 (packets.map (flushEvent sr.cfg mac interface)) := by
  have hqueued : ∀ l : List SrPacket, queuedBy (l.map (flushEvent sr.cfg mac interface)) = 0 := by
    intro l
    induction l with
    | nil => rfl
    | cons a l ih => exact ih
  have hhandling : (packets.map (flushEvent sr.cfg mac interface)).filter RouterEvent.isHandling =
      packets.map (flushEvent sr.cfg mac interface) := by
    apply List.filter_eq_self.mpr
    intro ev hev
    obtain ⟨pkt, -, rfl⟩ := List.mem_map.mp hev
    rfl
  obtain ⟨rfl, -⟩ := flushPackets_eq h
  have hrecord := Balance.of_record sr (hqueued packets)
  rwa [hhandling] at hrecord

/-- The lookup reads the entries only. -/
lemma srArpcacheLookup_congr {cache cache' : SrArpcache} (h : cache'.entries = cache.entries)
    (ip : UInt32) : srArpcacheLookup cache' ip = srArpcacheLookup cache ip := by
  unfold srArpcacheLookup
  rw [h]

/-- What an ICMP error adds to the queue: nothing under an address that is in the cache, or that is
not the source of the packet it is about. -/
lemma srSendIcmp_waiting {ctx : Surroundings} {sr sr' : SrInstance} {packet : ByteMem}
    {interface : IfName} {type code : UInt8} (htype : type ≠ icmpTypeEchoreply)
    (h : srSendIcmp ctx sr packet interface type code = .ok sr') :
    sr'.cache.entries = sr.cache.entries ∧
      (∀ req ∈ sr.cache.requests, ∃ req' ∈ sr'.cache.requests,
        req'.node = req.node ∧ req'.ip = req.ip) ∧
      ∃ added, sr'.cache.waiting = sr.cache.waiting + added ∧
        ∀ ip, added.filter (fun w => w.1 = ip) = 0 ↔
          (SrIpHdr.ipSrc packet = ip → (srArpcacheLookup sr.cache ip).isSome) := by
  obtain ⟨loadLen, ipPacket, hmessage, ⟨entry, frame, hlookup, rfl⟩ | ⟨hlookup, rfl⟩⟩ :=
    srSendIcmp_cases h
  · refine ⟨rfl, fun req hreq => ⟨req, hreq, rfl, rfl⟩, 0, (add_zero _).symm, ?_⟩
    intro ip
    refine ⟨?_, fun _ => rfl⟩
    rintro - rfl
    rw [hlookup]
    rfl
  · obtain rfl := icmpIppacket_len htype hmessage
    refine ⟨rfl, fun req hreq => exists_mem_queuereq _ _ ipPacket 56 interface interface hreq, _,
      waiting_srArpcacheQueuereq _ _ ipPacket 56 interface interface sr.cache, fun ip => ?_⟩
    by_cases hip : SrIpHdr.ipSrc packet = ip
    · subst hip
      simp [newPacket, hlookup]
    · simp [newPacket, hip]

/-- The messages of a request that is given up. -/
lemma sendUnreachable_waiting {ctx : Surroundings} {packets : List SrPacket} {sr sr' : SrInstance}
    (h : sendUnreachable ctx packets sr = .ok sr') :
    Balance sr sr' 0 (packets.map fun pkt => .icmp pkt.buf pkt.sender icmpTypeDstunreachable 1) ∧
      sr'.cache.entries = sr.cache.entries ∧
      (∀ req ∈ sr.cache.requests, ∃ req' ∈ sr'.cache.requests,
        req'.node = req.node ∧ req'.ip = req.ip) ∧
      ∃ added, sr'.cache.waiting = sr.cache.waiting + added ∧
        ∀ ip, added.filter (fun w => w.1 = ip) = 0 ↔
          ∀ pkt ∈ packets, SrIpHdr.ipSrc pkt.buf = ip → (srArpcacheLookup sr.cache ip).isSome := by
  induction packets generalizing sr with
  | nil =>
    obtain rfl : sr = sr' := Except.ok.inj h
    exact ⟨.refl sr, rfl, fun req hreq => ⟨req, hreq, rfl, rfl⟩, 0, (add_zero _).symm,
      fun ip => by simp⟩
  | cons curr rest ih =>
    obtain ⟨mid, hcurr, hrest⟩ := bind_eq_ok.mp h
    obtain ⟨hentries, hkeep, added, hadded, hfilter⟩ := srSendIcmp_waiting (by decide) hcurr
    obtain ⟨hbalance', hentries', hkeep', added', hadded', hfilter'⟩ := ih hrest
    refine ⟨?_, hentries'.trans hentries, ?_, added + added', ?_, ?_⟩
    · have hsum := (Balance.srSendIcmp hcurr).trans hbalance'
      rw [add_zero] at hsum
      exact hsum
    · intro req hreq
      obtain ⟨req', hreq', hnode, hip⟩ := hkeep req hreq
      obtain ⟨req'', hreq'', hnode', hip'⟩ := hkeep' req' hreq'
      exact ⟨req'', hreq'', hnode'.trans hnode, hip'.trans hip⟩
    · rw [hadded', hadded, add_assoc]
    · intro ip
      rw [Multiset.filter_add, ← Multiset.card_eq_zero, Multiset.card_add, Nat.add_eq_zero_iff,
        Multiset.card_eq_zero, Multiset.card_eq_zero, hfilter, hfilter',
        srArpcacheLookup_congr hentries, List.forall_mem_cons]

/-! ### The events -/

/-- What can happen to the queue.  A sweep of the queue is a run of visits (`sweepNodes_steps`). -/
inductive ArpEvent where
  /-- A call of `sr_arpcache_queuereq`. -/
  | queue (ip : UInt32) (packet : ByteMem) (packetLen : UInt32) (iface sender : IfName)
  /-- An ARP packet is received. -/
  | arp (now : Time) (packet : ByteMem) (interface : IfName)
  /-- The entries of the cache past their time are invalidated. -/
  | expire (curtime : Time)
  /-- The sweep comes to a request. -/
  | visit (now later : Time) (node : NodeId)

/-- The effect of an event. -/
def ArpEvent.exec (ctx : Surroundings) : ArpEvent → SrInstance → Except Fault SrInstance
  | .queue ip packet packetLen iface sender, sr =>
    .ok (sr.queuereq ctx.heap ip packet packetLen iface sender)
  | .arp now packet interface, sr => srHandleArp sr now packet interface
  | .expire curtime, sr => .ok { sr with cache := srArpcacheExpire sr.cache curtime }
  | .visit now later node, sr => visitRequest ctx now later node sr

/-- An event happens, in any surroundings. -/
def ArpStep (e : ArpEvent) (sr sr' : SrInstance) : Prop := ∃ ctx, e.exec ctx sr = .ok sr'

/-- The event tells the Ethernet address of an IP address: it is an ARP packet from there. -/
def ArpEvent.Resolves : ArpEvent → UInt32 → Mac → Prop
  | .arp _ packet _, ip, mac => SrArpPacket.arSip packet = ip ∧ SrArpPacket.arSha packet = mac
  | _, _, _ => False

/-- How a waiting packet may be dealt with. -/
inductive Handles (e : ArpEvent) : UInt32 × SrPacket → RouterEvent → Prop
  /-- It is handed to `sr_send_packet` in a frame to the address that was resolved. -/
  | frame {ip : UInt32} {pkt : SrPacket} {mac shost : Mac} {iface : IfName} (h : e.Resolves ip mac) :
      Handles e (ip, pkt) (.send (some pkt)
        (bytes (srCreateEtherframe pkt.len pkt.buf mac shost ethertypeIp) (frameLen pkt.len).toNat)
        iface)
  /-- A host-unreachable message is made for it. -/
  | unreachable {ip : UInt32} {pkt : SrPacket} :
      Handles e (ip, pkt) (.icmp pkt.buf pkt.sender icmpTypeDstunreachable 1)

/-- **No packet is lost**: the packets that leave the queue in an event are in one-to-one
correspondence with the entries of the log that deal with a waiting packet. -/
def Accounted (e : ArpEvent) (sr sr' : SrInstance) : Prop :=
  ∃ handled : List ((UInt32 × SrPacket) × RouterEvent),
    Books sr sr' (handled.map Prod.fst : Multiset (UInt32 × SrPacket)) (handled.map Prod.snd) ∧
      ∀ h ∈ handled, Handles e h.1 h.2

/-- `sr_handle_arpreq_queue` gives up a request. -/
def GivesUp (now : Time) (req : SrArpreq) : Prop :=
  srArpreqTo < now - req.sent ∧ srArpreqMax ≤ req.timesSent

/-- The events that lose no packet: an ARP request comes from an address that no packet waits for,
and a request is given up only if its own address is in the cache, or is the source of none of the
packets that wait on it. -/
def StepSafe : ArpEvent → SrInstance → Prop
  | .arp _ packet _, sr => isEthernetIp packet → ntohs (SrArpPacket.arOp packet) = arpOpRequest →
      ∀ w ∈ sr.cache.waiting, w.1 ≠ SrArpPacket.arSip packet
  | .visit now _ node, sr => ∀ req ∈ sr.cache.requests, req.node = node → GivesUp now req →
      ∀ pkt ∈ req.packets, SrIpHdr.ipSrc pkt.buf = req.ip →
        (srArpcacheLookup sr.cache req.ip).isSome
  | _, _ => True

section Events

variable {ctx : Surroundings} {e : ArpEvent} {sr sr' : SrInstance}

/-- An event with the given balance is accounted for if what is gone was dealt with. -/
lemma Balance.accounted_iff {gone : Multiset (UInt32 × SrPacket)} {handling : List RouterEvent}
    (h : Balance sr sr' gone handling) :
    Accounted e sr sr' ↔ ∃ handled : List ((UInt32 × SrPacket) × RouterEvent),
      (handled.map Prod.fst : Multiset (UInt32 × SrPacket)) = gone ∧
        handled.map Prod.snd = handling ∧ ∀ h ∈ handled, Handles e h.1 h.2 := by
  constructor
  · rintro ⟨handled, hbooks, hhandles⟩
    obtain ⟨hgone, hhandling⟩ := hbooks.unique h.books
    exact ⟨handled, hgone, hhandling, hhandles⟩
  · rintro ⟨handled, rfl, rfl, hhandles⟩
    exact ⟨handled, h.books, hhandles⟩

/-- An event in which nothing leaves the queue is accounted for. -/
lemma Balance.accounted (h : Balance sr sr' 0 []) : Accounted e sr sr' :=
  h.accounted_iff.mpr ⟨[], rfl, rfl, fun _ h => absurd h List.not_mem_nil⟩

/-- An event in which packets leave the queue, and are not dealt with, is accounted for if there are
none. -/
lemma Balance.accounted_iff_of_nil {gone : Multiset (UInt32 × SrPacket)}
    (h : Balance sr sr' gone []) : Accounted e sr sr' ↔ gone = 0 := by
  rw [h.accounted_iff]
  constructor
  · rintro ⟨handled, hgone, hhandling, -⟩
    obtain rfl : handled = [] := List.map_eq_nil_iff.mp hhandling
    exact hgone.symm
  · rintro rfl
    exact ⟨[], rfl, rfl, fun _ h => absurd h List.not_mem_nil⟩

/-- An event in which each packet of a request is dealt with is accounted for if nothing else leaves
the queue. -/
lemma Balance.accounted_iff_of_request {req : SrArpreq} {added : Multiset (UInt32 × SrPacket)}
    {event : SrPacket → RouterEvent} (hevent : ∀ pkt, Handles e (req.ip, pkt) (event pkt))
    (h : Balance sr sr' ((req.packets.map fun pkt => (req.ip, pkt) : Multiset (UInt32 × SrPacket)) +
      added) (req.packets.map event)) : Accounted e sr sr' ↔ added = 0 := by
  rw [h.accounted_iff]
  constructor
  · -- there are as many entries of the log as packets of the request
    rintro ⟨handled, hgone, hhandling, -⟩
    have hlength : handled.length = req.packets.length := by
      have hmap := congrArg List.length hhandling
      simpa using hmap
    have hcard := congrArg Multiset.card hgone
    simp only [Multiset.coe_card, List.length_map, Multiset.card_add] at hcard
    exact Multiset.card_eq_zero.mp (by omega)
  · rintro rfl
    refine ⟨req.packets.map fun pkt => ((req.ip, pkt), event pkt), ?_, ?_, ?_⟩
    · rw [List.map_map, add_zero]
      rfl
    · rw [List.map_map]
      rfl
    · intro w hw
      obtain ⟨pkt, -, rfl⟩ := List.mem_map.mp hw
      exact hevent pkt

/-- The balance of an ARP request: what waits for the address it comes from is gone. -/
lemma Balance.arpRequest (hwf : sr.cache.WellFormed) {now : Time} {packet : ByteMem}
    {interface : IfName} (hip : isEthernetIp packet = true)
    (hop : ntohs (SrArpPacket.arOp packet) = arpOpRequest)
    (h : srHandleArp sr now packet interface = .ok sr') :
    Balance sr sr' (sr.cache.waiting.filter fun w => w.1 = SrArpPacket.arSip packet) [] := by
  simp only [srHandleArp, if_pos hip, if_pos hop] at h
  have hunlink := Balance.unlink sr (SrArpPacket.arSip packet)
    (hwf.insert now (SrArpPacket.arSha packet) (SrArpPacket.arSip packet))
    (hwf.waiting_insert now (SrArpPacket.arSha packet) (SrArpPacket.arSip packet))
  have hsent := hunlink.trans (.srSendArp h)
  rwa [add_zero] at hsent

/-- The balance of an ARP reply: what waits for the address it comes from is sent. -/
lemma Balance.arpReply (hwf : sr.cache.WellFormed) {now : Time} {packet : ByteMem}
    {interface : IfName} (hip : isEthernetIp packet = true)
    (hop : ntohs (SrArpPacket.arOp packet) = arpOpReply)
    (h : srHandleArp sr now packet interface = .ok sr') :
    Balance sr sr' (sr.cache.waiting.filter fun w => w.1 = SrArpPacket.arSip packet) [] ∧
      (sr.cache.waiting.filter fun w => w.1 = SrArpPacket.arSip packet) = 0 ∨
    ∃ req ∈ sr.cache.requests, req.ip = SrArpPacket.arSip packet ∧
      Balance sr sr' (req.packets.map fun pkt => (req.ip, pkt) : Multiset (UInt32 × SrPacket))
        (req.packets.map (flushEvent sr.cfg (SrArpPacket.arSha packet) interface)) := by
  have hop' : ¬ ntohs (SrArpPacket.arOp packet) = arpOpRequest := by
    rw [hop]
    decide
  simp only [srHandleArp, if_pos hip, if_neg hop', if_pos hop] at h
  have hunlink := Balance.unlink sr (SrArpPacket.arSip packet)
    (hwf.insert now (SrArpPacket.arSha packet) (SrArpPacket.arSip packet))
    (hwf.waiting_insert now (SrArpPacket.arSha packet) (SrArpPacket.arSip packet))
  split at h
  · rename_i req hreq
    right
    have hmem : req ∈ sr.cache.requests := List.mem_of_find?_eq_some hreq
    have hreqip : req.ip = SrArpPacket.arSip packet := by simpa using List.find?_some hreq
    obtain ⟨mid, hflush, h⟩ := bind_eq_ok.mp h
    have hcache : mid.cache =
        (srArpcacheInsert sr.cache now (SrArpPacket.arSha packet) (SrArpPacket.arSip packet)).2 := by
      rw [(flushPackets_eq hflush).1]
      rfl
    have hdestroy : srArpreqDestroy mid.cache req.node = mid.cache := by
      rw [hcache]
      exact srArpreqDestroy_of_not_mem (hwf.node_not_mem_insert hreq)
    rw [hdestroy] at h
    obtain rfl : mid = sr' := Except.ok.inj h
    have hflushed := hunlink.trans (.flushPackets hflush)
    rw [← hreqip, hwf.filter_waiting hmem, add_zero] at hflushed
    rw [← hreqip]
    exact ⟨req, hmem, rfl, hflushed⟩
  · rename_i hnone
    left
    obtain rfl := Except.ok.inj h
    refine ⟨hunlink, filter_content_eq_zero ?_⟩
    intro hmem
    obtain ⟨req, hreq, hreqip⟩ := List.mem_map.mp hmem
    exact absurd hreqip (by simpa using List.find?_eq_none.mp hnone req hreq)

/-- `touch` changes neither the addresses, nor the nodes, nor what waits. -/
lemma Balance.touch (sr : SrInstance) (node : NodeId) (sent : Time) :
    Balance sr { sr with cache := sr.cache.touch node sent } 0 [] :=
  .of_requests sr _ (fun hwf => hwf.touch node sent) (waiting_touch _ node sent)

/-- A visit of a request that is not given up takes nothing off the queue.  To give it up takes off
what then waits for its address: the packets that waited on it, and what their messages have added. -/
lemma Balance.srHandleArpreqQueue (hwf : sr.cache.WellFormed) {now later : Time} {node : NodeId}
    (h : srHandleArpreqQueue ctx now later node sr = .ok sr') :
    ∃ req ∈ sr.cache.requests, req.node = node ∧
      ((¬ GivesUp now req ∧ Balance sr sr' 0 []) ∨
        GivesUp now req ∧ ∃ added : Multiset (UInt32 × SrPacket),
          Balance sr sr' ((req.packets.map fun pkt => (req.ip, pkt) : Multiset (UInt32 × SrPacket)) +
              added)
            (req.packets.map fun pkt => .icmp pkt.buf pkt.sender icmpTypeDstunreachable 1) ∧
          (added = 0 ↔ ∀ pkt ∈ req.packets, SrIpHdr.ipSrc pkt.buf = req.ip →
            (srArpcacheLookup sr.cache req.ip).isSome)) := by
  unfold NatRouter.srHandleArpreqQueue at h
  split at h
  · cases h
  · rename_i req hfind
    have hmem : req ∈ sr.cache.requests := List.mem_of_find?_eq_some hfind
    have hnode : req.node = node := by simpa using List.find?_some hfind
    refine ⟨req, hmem, hnode, ?_⟩
    split at h
    · rename_i htime
      split at h
      · rename_i hmax
        right
        obtain ⟨mid, hsend, h⟩ := bind_eq_ok.mp h
        obtain rfl := Except.ok.inj h
        obtain ⟨hbalance, -, hkeep, added, hadded, hfilter⟩ := sendUnreachable_waiting hsend
        refine ⟨⟨htime, hmax⟩, added.filter fun w => w.1 = req.ip, ?_, hfilter req.ip⟩
        obtain ⟨req', hreq', hnode', hip'⟩ := hkeep req hmem
        have hmid : mid.cache.WellFormed := hbalance.wellFormed hwf
        have hdestroy := hmid.waiting_destroy hreq'
        rw [hnode', hip', hnode] at hdestroy
        have hsum := hbalance.trans (.unlink _ req.ip (hmid.destroy node) hdestroy)
        rw [zero_add, List.append_nil, hadded, Multiset.filter_add, hwf.filter_waiting hmem] at hsum
        exact hsum
      · rename_i hmax
        left
        obtain ⟨head, -, h⟩ := bind_eq_ok.mp h
        obtain ⟨mid, hsend, h⟩ := bind_eq_ok.mp h
        obtain rfl := Except.ok.inj h
        have hsum := (Balance.srSendArp hsend).trans (.touch mid node later)
        rw [add_zero] at hsum
        exact ⟨fun hgives => hmax hgives.2, hsum⟩
    · rename_i htime
      obtain rfl : sr = sr' := Except.ok.inj h
      exact .inl ⟨fun hgives => htime hgives.1, .refl sr⟩

/-- A piece of the log that neither queues nor deals with a packet changes no balance. -/
lemma Balance.record {gone : Multiset (UInt32 × SrPacket)} {handling : List RouterEvent}
    (h : Balance sr sr' gone handling) (node : NodeId) :
    Balance sr (sr'.record [.readFreed node]) gone handling := by
  have hrecord : Balance sr' (sr'.record [.readFreed node]) 0 [] := .of_record sr' rfl
  have hsum := h.trans hrecord
  rw [add_zero] at hsum
  exact List.append_nil handling ▸ hsum

/-- An ARP packet. -/
lemma accounted_arp_iff (hwf : sr.cache.WellFormed) {now : Time} {packet : ByteMem}
    {interface : IfName} (h : srHandleArp sr now packet interface = .ok sr') :
    sr'.cache.WellFormed ∧ (Accounted (.arp now packet interface) sr sr' ↔
      StepSafe (.arp now packet interface) sr) := by
  by_cases hip : isEthernetIp packet = true
  · by_cases hrequest : ntohs (SrArpPacket.arOp packet) = arpOpRequest
    · have hbalance := Balance.arpRequest hwf hip hrequest h
      refine ⟨hbalance.wellFormed hwf, hbalance.accounted_iff_of_nil.trans ?_⟩
      rw [Multiset.filter_eq_nil]
      exact ⟨fun hnone _ _ => hnone, fun hsafe => hsafe hip hrequest⟩
    · have hsafe : StepSafe (.arp now packet interface) sr := fun _ hop => absurd hop hrequest
      by_cases hreply : ntohs (SrArpPacket.arOp packet) = arpOpReply
      · rcases Balance.arpReply hwf hip hreply h with ⟨hbalance, hnone⟩ | ⟨req, -, hreq, hbalance⟩
        · rw [hnone] at hbalance
          exact ⟨hbalance.wellFormed hwf, iff_of_true hbalance.accounted hsafe⟩
        · refine ⟨hbalance.wellFormed hwf, iff_of_true ?_ hsafe⟩
          have hframe : ∀ pkt, Handles (.arp now packet interface) (req.ip, pkt)
              (flushEvent sr.cfg (SrArpPacket.arSha packet) interface pkt) :=
            fun _ => .frame ⟨hreq.symm, rfl⟩
          rw [← add_zero (Multiset.ofList _)] at hbalance
          exact (hbalance.accounted_iff_of_request hframe).mpr rfl
      · simp only [srHandleArp, if_pos hip, if_neg hrequest, if_neg hreply] at h
        obtain rfl : sr = sr' := Except.ok.inj h
        exact ⟨hwf, iff_of_true (Balance.refl sr).accounted hsafe⟩
  · simp only [srHandleArp, if_neg hip] at h
    obtain rfl : sr = sr' := Except.ok.inj h
    exact ⟨hwf, iff_of_true (Balance.refl sr).accounted fun hip' => absurd hip' hip⟩

/-- A visit of a request. -/
lemma accounted_visit_iff (hwf : sr.cache.WellFormed) {now later : Time} {node : NodeId}
    (h : visitRequest ctx now later node sr = .ok sr') :
    sr'.cache.WellFormed ∧
      (Accounted (.visit now later node) sr sr' ↔ StepSafe (.visit now later node) sr) := by
  obtain ⟨mid, hhandle, h⟩ := bind_eq_ok.mp h
  have hrecord : ∀ {gone handling}, Balance sr mid gone handling →
      Balance sr sr' gone handling := by
    intro gone handling hbalance
    split at h
    · obtain rfl : mid = sr' := Except.ok.inj h
      exact hbalance
    · obtain rfl := Except.ok.inj h
      exact hbalance.record node
  obtain ⟨req, hmem, rfl, ⟨hkeep, hbalance⟩ | ⟨hgives, added, hbalance, hadded⟩⟩ :=
    Balance.srHandleArpreqQueue hwf hhandle
  · have hbalance := hrecord hbalance
    refine ⟨hbalance.wellFormed hwf, iff_of_true hbalance.accounted ?_⟩
    intro req' hmem' hnode hgives
    exact absurd (hwf.eq_of_node hmem' hmem hnode ▸ hgives) hkeep
  · have hbalance := hrecord hbalance
    refine ⟨hbalance.wellFormed hwf, ?_⟩
    have hsafe : StepSafe (.visit now later req.node) sr ↔ added = 0 := by
      rw [hadded]
      constructor
      · intro hsafe
        exact hsafe req hmem rfl hgives
      · intro hsafe req' hmem' hnode _
        obtain rfl := hwf.eq_of_node hmem' hmem hnode
        exact hsafe
    rw [hsafe]
    exact hbalance.accounted_iff_of_request fun _ => .unreachable

/-- **One event**: the queue stays well formed, and no packet is lost exactly when the event is
safe. -/
lemma ArpStep.accounted_iff (hwf : sr.cache.WellFormed) (h : ArpStep e sr sr') :
    sr'.cache.WellFormed ∧ (Accounted e sr sr' ↔ StepSafe e sr) := by
  obtain ⟨ctx, h⟩ := h
  cases e with
  | queue ip packet packetLen iface sender =>
    obtain rfl := Except.ok.inj h
    have hbalance := Balance.queuereq sr ctx.heap ip packet packetLen iface sender
    exact ⟨hbalance.wellFormed hwf, iff_of_true hbalance.accounted trivial⟩
  | expire curtime =>
    obtain rfl := Except.ok.inj h
    have hbalance := Balance.of_requests sr (srArpcacheExpire sr.cache curtime)
      (fun hwf => ⟨hwf.ips, hwf.nodes, hwf.lt⟩) rfl
    exact ⟨hbalance.wellFormed hwf, iff_of_true hbalance.accounted trivial⟩
  | arp now packet interface => exact accounted_arp_iff hwf h
  | visit now later node => exact accounted_visit_iff hwf h

/-- The queue stays well formed in a run of events. -/
lemma SrArpcache.WellFormed.steps (h : sr.cache.WellFormed)
    (hrun : ReflTransGen (fun s s' => ∃ e, ArpStep e s s') sr sr') : sr'.cache.WellFormed := by
  induction hrun with
  | refl => exact h
  | tail _ hstep ih =>
    obtain ⟨e, hstep⟩ := hstep
    exact (hstep.accounted_iff ih).1

/-- The queue is well formed in every state that a run of events leads to. -/
lemma wellFormed_of_steps {sr₀ : SrInstance} (h₀ : sr₀.cache = srArpcacheInit)
    (hrun : ReflTransGen (fun s s' => ∃ e, ArpStep e s s') sr₀ sr) : sr.cache.WellFormed :=
  SrArpcache.WellFormed.steps (h₀ ▸ wellFormed_srArpcacheInit) hrun

/-- The loop of the sweep is a run of visits. -/
lemma sweepNodes_steps {clock : NodeId → Time × Time} {nodes : List NodeId}
    (h : sweepNodes ctx clock nodes sr = .ok sr') :
    ReflTransGen (fun s s' => ∃ e, ArpStep e s s') sr sr' := by
  induction nodes generalizing sr with
  | nil =>
    obtain rfl : sr = sr' := Except.ok.inj h
    exact .refl
  | cons node next ih =>
    obtain ⟨mid, hvisit, h⟩ := bind_eq_ok.mp h
    exact .head ⟨.visit (clock node).1 (clock node).2 node, ctx, hvisit⟩ (ih h)

/-- A pass of `sr_arpcache_timeout` is a run of events. -/
lemma srArpcacheTimeout_steps {curtime : Time} {clock : NodeId → Time × Time}
    (h : srArpcacheTimeout ctx curtime clock sr = .ok sr') :
    ReflTransGen (fun s s' => ∃ e, ArpStep e s s') sr sr' :=
  .head ⟨.expire curtime, ctx, rfl⟩ (sweepNodes_steps h)

end Events

/-! ### Waiting packets -/

/-- A router with one interface and one route, before it has received anything. -/
def idleRouter : SrInstance := ⟨oneRoute, srArpcacheInit, startState, true, []⟩

/-- An ARP request from the Ethernet address 1:1:1:1:1:1, which has the IP address 172.64.3.2. -/
def arpRequestFromGateway : ByteMem :=
  srCreateArppacket arpOpRequest (Vector.replicate 6 1) outerRoute.gw etherBroadcastAddr
    outerInterface.ip

/-- It asks from the address of the gateway. -/
lemma arpRequestFromGateway_fields : isEthernetIp arpRequestFromGateway = true ∧
    ntohs (SrArpPacket.arOp arpRequestFromGateway) = arpOpRequest ∧
    SrArpPacket.arSip arpRequestFromGateway = outerRoute.gw := by
  decide +kernel

/-- The router while a message to 8.8.8.8 waits for the address of the gateway. -/
def waitingRouter : SrInstance :=
  idleRouter.queuereq quietSurroundings.heap outerRoute.gw
    (icmpMessage 8 0xac400303 0x08080808 7) 28 outerInterface.name outerInterface.name

/-- **Waiting packets.**  In every state that a run of events leads to, from a router with an empty
cache, the next event loses no packet that waits for an address, and deals with none of them twice,
if and only if it is safe. -/
theorem waitingPackets_accounted {sr₀ sr sr' : SrInstance} {e : ArpEvent} (h₀ : sr₀.cache = srArpcacheInit)
    (hrun : ReflTransGen (fun s s' => ∃ e, ArpStep e s s') sr₀ sr) (hstep : ArpStep e sr sr') :
    Accounted e sr sr' ↔ StepSafe e sr :=
  (hstep.accounted_iff (wellFormed_of_steps h₀ hrun)).2

/-- An ARP reply from 172.64.3.2. -/
def arpReplyFromGateway : ByteMem :=
  srCreateArppacket arpOpReply (Vector.replicate 6 1) outerRoute.gw outerInterface.addr
    outerInterface.ip

/-- It comes from the gateway. -/
lemma arpReplyFromGateway_fields : isEthernetIp arpReplyFromGateway = true ∧
    ntohs (SrArpPacket.arOp arpReplyFromGateway) = arpOpReply ∧
    SrArpPacket.arSip arpReplyFromGateway = outerRoute.gw := by
  decide +kernel

/-- A message is put on the queue, and the reply of the gateway deals with it. -/
theorem waitingPackets_accounted_reply : ∃ sr',
    ArpStep (.arp 1 arpReplyFromGateway outerInterface.name) waitingRouter sr' ∧
      sr'.cache.requests = [] ∧
      Accounted (.arp 1 arpReplyFromGateway outerInterface.name) waitingRouter sr' := by
  obtain ⟨hip, hop, hsip⟩ := arpReplyFromGateway_fields
  have hqueue : ArpStep (.queue outerRoute.gw (icmpMessage 8 0xac400303 0x08080808 7) 28
      outerInterface.name outerInterface.name) idleRouter waitingRouter := ⟨quietSurroundings, rfl⟩
  obtain ⟨sr', hreply, hempty⟩ : ∃ sr',
      srHandleArp waitingRouter 1 arpReplyFromGateway outerInterface.name = .ok sr' ∧
        sr'.cache.requests = [] := by
    simp only [srHandleArp, if_pos hip, hop, if_neg (show arpOpReply ≠ arpOpRequest by decide), hsip]
    exact ⟨_, rfl, rfl⟩
  have hstep : ArpStep (.arp 1 arpReplyFromGateway outerInterface.name) waitingRouter sr' :=
    ⟨quietSurroundings, hreply⟩
  refine ⟨sr', hstep, hempty, (waitingPackets_accounted rfl (.single ⟨_, hqueue⟩) hstep).mpr ?_⟩
  intro _ hrequest
  rw [hop] at hrequest
  exact absurd hrequest (by decide)

/-- An ARP request from the gateway loses the packet that waits for its address. -/
theorem waitingPacket_lost : ∃ sr',
    ArpStep (.queue outerRoute.gw (icmpMessage 8 0xac400303 0x08080808 7) 28 outerInterface.name
      outerInterface.name) idleRouter waitingRouter ∧
    ArpStep (.arp 1 arpRequestFromGateway outerInterface.name) waitingRouter sr' ∧
    ¬ Accounted (.arp 1 arpRequestFromGateway outerInterface.name) waitingRouter sr' := by
  obtain ⟨hip, hop, hsip⟩ := arpRequestFromGateway_fields
  have hqueue : ArpStep (.queue outerRoute.gw (icmpMessage 8 0xac400303 0x08080808 7) 28
      outerInterface.name outerInterface.name) idleRouter waitingRouter := ⟨quietSurroundings, rfl⟩
  have hwf : waitingRouter.cache.WellFormed := (hqueue.accounted_iff wellFormed_srArpcacheInit).1
  obtain ⟨sr', hrequest⟩ : ∃ sr',
      srHandleArp waitingRouter 1 arpRequestFromGateway outerInterface.name = .ok sr' := by
    simp only [srHandleArp, if_pos hip, if_pos hop]
    exact ⟨_, rfl⟩
  have hstep : ArpStep (.arp 1 arpRequestFromGateway outerInterface.name) waitingRouter sr' :=
    ⟨quietSurroundings, hrequest⟩
  refine ⟨sr', hqueue, hstep, ?_⟩
  intro haccounted
  have hsafe := (hstep.accounted_iff hwf).2.mp haccounted hip hop
  have hwaits := waiting_srArpcacheQueuereq (quietSurroundings.heap 0) outerRoute.gw
    (icmpMessage 8 0xac400303 0x08080808 7) 28 outerInterface.name outerInterface.name
    srArpcacheInit
  obtain ⟨pkt, hpkt⟩ : ∃ pkt, newPacket (quietSurroundings.heap 0)
      (icmpMessage 8 0xac400303 0x08080808 7) 28 outerInterface.name outerInterface.name =
      some pkt := ⟨_, if_pos (by decide)⟩
  rw [hpkt] at hwaits
  have hmem : (outerRoute.gw, pkt) ∈ waitingRouter.cache.waiting := by
    refine hwaits ▸ Multiset.mem_add.mpr (.inr ?_)
    exact Multiset.mem_coe.mpr List.mem_cons_self
  exact hsafe (outerRoute.gw, pkt) hmem hsip.symm

end NatRouter
