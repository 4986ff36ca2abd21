import NatRouter.Arp.Accounting

/-!
# The requests on the ARP queue

Every request on the queue has a packet that waits on it, has been sent five times at most, and bears
a time of sending exactly when it was sent.  `sr_handle_arpreq_queue` relies on the first when it reads
the interface of the first packet.

The steps are those of the two threads under the lock of the cache.  Between a lookup that fails and
the call of `sr_arpcache_queuereq` that it leads to the other thread may do anything, so a packet is
queued in any state; and a sweep is a run of visits (`sweep_queueSteps`).
-/

namespace NatRouter

open ByteMemory GroupedQueue Relation

/-- What the two threads do with the queue, each under the lock. -/
inductive QueueStep : SrInstance → SrInstance → Prop
  /-- `sr_send_icmp` queues its message. -/
  | message {sr : SrInstance} {heap : NodeId → ByteMem} {interfaceInfo : Option SrIf}
      {packet ipPacket : ByteMem} {type code : UInt8} {loadLen : UInt32} (interface : IfName)
      (h : icmpIppacket interfaceInfo packet type code = .ok (loadLen, ipPacket)) :
      QueueStep sr
        (sr.queuereq heap (SrIpHdr.ipSrc packet) ipPacket loadLen interface interface)
  /-- `sr_forward_ippacket` queues its packet, which `sr_handle_ippacket` has found to be longer than
  an IP header. -/
  | forward {sr : SrInstance} {heap : NodeId → ByteMem} {len : UInt32} (packet : ByteMem)
      (lpm : SrRt) (interface : IfName) (hlen : UInt32.ofNat sizeofIpHdr < len) :
      QueueStep sr
        (sr.queuereq heap lpm.gw (decrementTtl packet) len lpm.interface interface)
  /-- `sr_arpcache_insert`. -/
  | insert {sr : SrInstance} (now : Time) (mac : Mac) (ip : UInt32) :
      QueueStep sr { sr with cache := (srArpcacheInsert sr.cache now mac ip).2 }
  /-- `sr_arpreq_destroy`. -/
  | destroy {sr : SrInstance} (node : NodeId) :
      QueueStep sr { sr with cache := srArpreqDestroy sr.cache node }
  /-- A sweep begins. -/
  | expire {sr : SrInstance} (curtime : Time) :
      QueueStep sr { sr with cache := srArpcacheExpire sr.cache curtime }
  /-- The sweep comes to a request.  The clock is positive. -/
  | visit {sr sr' : SrInstance} {ctx : Surroundings} {now later : Time} {node : NodeId}
      (hclock : 0 < later) (h : visitRequest ctx now later node sr = .ok sr') : QueueStep sr sr'

/-- What is required of one request. -/
structure SrArpreq.Ok (req : SrArpreq) : Prop where
  /-- A packet waits on it. -/
  packets : req.packets ≠ []
  /-- It was not sent too often. -/
  timesSent : req.timesSent ≤ srArpreqMax
  /-- It bears a time exactly when it was sent. -/
  sent : req.timesSent = 0 ↔ req.sent = 0

/-- **The invariant of the queue.** -/
structure RequestsOk (cache : SrArpcache) : Prop where
  /-- No address is asked for twice. -/
  ips : (cache.requests.map SrArpreq.ip).Nodup
  /-- Every request is as it should be. -/
  requests : ∀ req ∈ cache.requests, req.Ok
  /-- The first packet of a request can be read. -/
  head : ∀ req ∈ cache.requests, ∃ pkt, deref req.packets.head? = .ok pkt

/-! ### The operations -/

/-- The invariant with the distinct nodes that it rests on. -/
structure SrArpcache.RequestsKept (cache : SrArpcache) : Prop where
  /-- The queue is well formed. -/
  wellFormed : cache.WellFormed
  /-- Every request is as it should be. -/
  requests : ∀ req ∈ cache.requests, req.Ok

section Operations

variable {cache : SrArpcache}

/-- The first packet can be read then. -/
lemma SrArpcache.RequestsKept.requestsOk (h : cache.RequestsKept) : RequestsOk cache := by
  refine ⟨h.wellFormed.ips, h.requests, ?_⟩
  intro req hreq
  obtain ⟨pkt, rest, hpackets⟩ := List.exists_cons_of_ne_nil (h.requests req hreq).packets
  exact ⟨pkt, by rw [hpackets, List.head?_cons, deref]⟩

/-- The length of a message of the router's own is not zero. -/
lemma icmpIppacket_len_ne_zero {interfaceInfo : Option SrIf} {packet ipPacket : ByteMem}
    {type code : UInt8} {loadLen : UInt32}
    (h : icmpIppacket interfaceInfo packet type code = .ok (loadLen, ipPacket)) : loadLen ≠ 0 := by
  by_cases htype : type = icmpTypeEchoreply
  · subst htype
    obtain ⟨icmpPacket, hcontent, h⟩ := bind_eq_ok.mp h
    obtain ⟨sourceIp, -, h⟩ := bind_eq_ok.mp h
    have hlen : icmpPacket.1 + UInt32.ofNat sizeofIpHdr = loadLen :=
      congrArg Prod.fst (Except.ok.inj h)
    unfold srCreateIcmppacket icmpContent at hcontent
    simp only [ne_eq, not_true_eq_false, if_false] at hcontent
    split_ifs at hcontent with hshort
    have hload : icmpPacket.1 =
        UInt32.ofNat ((ntohs (SrIpHdr.ipLen packet)).toNat - sizeofIpHdr) :=
      congrArg Prod.fst (Except.ok.inj hcontent).symm
    have hmax := (ntohs (SrIpHdr.ipLen packet)).toNat_lt
    intro hzero
    have hnat := congrArg UInt32.toNat (hlen.trans hzero)
    rw [hload, ← UInt32.ofNat_add, UInt32.toNat_ofNat', UInt32.toNat_zero] at hnat
    unfold sizeofIpHdr sizeofIcmpHdr at *
    omega
  · rw [icmpIppacket_len htype h]
    decide

/-- `sr_arpcache_queuereq` keeps the invariant when it is given a packet. -/
lemma SrArpcache.RequestsKept.queuereq (h : cache.RequestsKept) (junk : ByteMem) (ip : UInt32)
    (packet : ByteMem) {packetLen : UInt32} (hlen : packetLen ≠ 0) (iface sender : IfName) :
    (srArpcacheQueuereq cache junk ip packet packetLen iface sender).RequestsKept := by
  refine ⟨h.wellFormed.queuereq junk ip packet packetLen iface sender, ?_⟩
  have hpush : ∀ (pkt : SrPacket) (req : SrArpreq), req.Ok →
      ({ req with packets := pkt :: req.packets } : SrArpreq).Ok :=
    fun pkt req hreq => ⟨List.cons_ne_nil _ _, hreq.timesSent, hreq.sent⟩
  simp only [srArpcacheQueuereq, newPacket, if_pos hlen, pushPacket, withRequest]
  split_ifs with hany
  · exact forall_mem_modifyFirst h.requests (hpush _)
  · -- the packet goes to the request that was just added
    rw [@modifyFirst_cons_of_pos SrArpreq cache.requests (fun req => req.ip = ip) _
      (newRequest cache ip) (decide_eq_true rfl)]
    intro req hreq
    rcases List.mem_cons.mp hreq with rfl | hreq
    · exact ⟨List.cons_ne_nil _ _, Nat.zero_le _, iff_of_true rfl rfl⟩
    · exact h.requests req hreq

/-- Unlinking a request keeps the invariant. -/
lemma SrArpcache.RequestsKept.eraseP (h : cache.RequestsKept) (p : SrArpreq → Bool)
    {cache' : SrArpcache} (hreq : cache'.requests = cache.requests.eraseP p)
    (hnext : cache'.nextNode = cache.nextNode) : cache'.RequestsKept :=
  ⟨h.wellFormed.eraseP p hreq hnext, fun req hmem =>
    h.requests req (List.eraseP_subset (hreq ▸ hmem))⟩

/-- To send a request once more keeps the invariant. -/
lemma SrArpcache.RequestsKept.touch (h : cache.RequestsKept) {req : SrArpreq}
    (hreq : req ∈ cache.requests) (hmax : req.timesSent < srArpreqMax) {sent : Time}
    (hsent : 0 < sent) : (cache.touch req.node sent).RequestsKept := by
  refine ⟨h.wellFormed.touch req.node sent, ?_⟩
  intro req' hreq'
  obtain ⟨old, hold, rfl⟩ := List.mem_map.mp hreq'
  split_ifs with hnode
  · obtain rfl := h.wellFormed.eq_of_node hold hreq hnode
    exact ⟨(h.requests old hold).packets, hmax,
      iff_of_false (Nat.succ_ne_zero _) fun hzero => hsent.ne' hzero⟩
  · exact h.requests old hold

end Operations

section Visits

variable {ctx : Surroundings} {sr sr' : SrInstance}

/-- `sr_send_icmp` keeps the invariant. -/
lemma SrArpcache.RequestsKept.srSendIcmp (h : sr.cache.RequestsKept) {packet : ByteMem}
    {interface : IfName} {type code : UInt8}
    (hsend : srSendIcmp ctx sr packet interface type code = .ok sr') : sr'.cache.RequestsKept := by
  obtain ⟨loadLen, ipPacket, hmessage, ⟨entry, frame, -, rfl⟩ | ⟨-, rfl⟩⟩ := srSendIcmp_cases hsend
  · exact h
  · exact h.queuereq _ _ ipPacket (icmpIppacket_len_ne_zero hmessage) interface interface

/-- So do the messages about the packets of a request. -/
lemma SrArpcache.RequestsKept.sendUnreachable {packets : List SrPacket}
    (h : sr.cache.RequestsKept) (hsend : sendUnreachable ctx packets sr = .ok sr') :
    sr'.cache.RequestsKept := by
  induction packets generalizing sr with
  | nil =>
    obtain rfl : sr = sr' := Except.ok.inj hsend
    exact h
  | cons curr rest ih =>
    obtain ⟨mid, hcurr, hrest⟩ := bind_eq_ok.mp hsend
    exact ih (h.srSendIcmp hcurr) hrest

/-- `sr_handle_arpreq_queue` keeps the invariant. -/
lemma SrArpcache.RequestsKept.srHandleArpreqQueue (h : sr.cache.RequestsKept) {now later : Time}
    {node : NodeId} (hclock : 0 < later)
    (hhandle : srHandleArpreqQueue ctx now later node sr = .ok sr') : sr'.cache.RequestsKept := by
  unfold NatRouter.srHandleArpreqQueue at hhandle
  split at hhandle
  · cases hhandle
  · rename_i req hfind
    have hreq : req ∈ sr.cache.requests := List.mem_of_find?_eq_some hfind
    obtain rfl : req.node = node := by simpa using List.find?_some hfind
    split_ifs at hhandle with htime hmax
    · obtain ⟨mid, hsend, hdestroy⟩ := bind_eq_ok.mp hhandle
      obtain rfl := Except.ok.inj hdestroy
      exact (h.sendUnreachable hsend).eraseP _ rfl rfl
    · obtain ⟨head, -, hhandle⟩ := bind_eq_ok.mp hhandle
      obtain ⟨mid, hsend, htouch⟩ := bind_eq_ok.mp hhandle
      obtain ⟨frame, rfl⟩ := srSendArp_cases hsend
      obtain rfl := Except.ok.inj htouch
      exact h.touch hreq (Nat.not_le.mp hmax) hclock
    · obtain rfl := Except.ok.inj hhandle
      exact h

/-- **One step** keeps the invariant. -/
lemma QueueStep.requestsKept (hstep : QueueStep sr sr') (h : sr.cache.RequestsKept) :
    sr'.cache.RequestsKept := by
  cases hstep with
  | message interface hmessage =>
    exact h.queuereq _ _ _ (icmpIppacket_len_ne_zero hmessage) interface interface
  | @forward heap len packet lpm interface hlen =>
    refine h.queuereq _ lpm.gw (decrementTtl packet) ?_ lpm.interface interface
    rintro rfl
    exact absurd hlen (by decide)
  | insert now mac ip => exact h.eraseP _ rfl rfl
  | destroy node => exact h.eraseP _ rfl rfl
  | expire curtime => exact ⟨⟨h.wellFormed.ips, h.wellFormed.nodes, h.wellFormed.lt⟩, h.requests⟩
  | visit hclock hvisit =>
    obtain ⟨mid, hhandle, hread⟩ := bind_eq_ok.mp hvisit
    have hmid := h.srHandleArpreqQueue hclock hhandle
    split_ifs at hread
    · obtain rfl := Except.ok.inj hread
      exact hmid
    · obtain rfl := Except.ok.inj hread
      exact hmid

/-- A sweep is a run of such steps. -/
lemma sweep_queueSteps {curtime : Time} {clock : NodeId → Time × Time}
    (hclock : ∀ node, 0 < (clock node).2)
    (h : srArpcacheTimeout ctx curtime clock sr = .ok sr') : ReflTransGen QueueStep sr sr' := by
  have hnodes : ∀ (nodes : List NodeId) (sr : SrInstance),
      sweepNodes ctx clock nodes sr = .ok sr' → ReflTransGen QueueStep sr sr' := by
    intro nodes
    induction nodes with
    | nil =>
      intro sr hsweep
      obtain rfl : sr = sr' := Except.ok.inj hsweep
      exact .refl
    | cons node next ih =>
      intro sr hsweep
      obtain ⟨mid, hvisit, hrest⟩ := bind_eq_ok.mp hsweep
      exact .head (.visit (hclock node) hvisit) (ih mid hrest)
  exact .head (.expire curtime) (hnodes _ _ h)

end Visits

/-- **The invariant of the ARP queue** holds in every state that the steps of the two threads lead to
from the empty queue. -/
theorem requestsOk_of_queueSteps {sr sr' : SrInstance} (hinit : sr.cache = srArpcacheInit)
    (hrun : ReflTransGen QueueStep sr sr') : RequestsOk sr'.cache := by
  have hstart : sr.cache.RequestsKept := by
    rw [hinit]
    exact ⟨wellFormed_srArpcacheInit, fun req hreq => absurd hreq List.not_mem_nil⟩
  have hend : sr'.cache.RequestsKept := by
    induction hrun with
    | refl => exact hstart
    | tail _ hstep ih => exact hstep.requestsKept ih
  exact hend.requestsOk

/-- Two packets that wait for the address of 172.64.3.2, and one that waits for 172.64.3.4. -/
theorem requestsOk_threePackets : ∃ sr, ReflTransGen QueueStep idleRouter sr ∧
    (sr.cache.requests.map fun req => (req.ip, req.packets.length)) =
      [(htonl 0xac400304, 1), (outerRoute.gw, 2)] ∧
    RequestsOk sr.cache := by
  have hforward : ∀ (sr : SrInstance) (packet : ByteMem) (lpm : SrRt), QueueStep sr
      (sr.queuereq quietSurroundings.heap lpm.gw (decrementTtl packet) 40 lpm.interface
        outerInterface.name) :=
    fun _ packet lpm => .forward packet lpm outerInterface.name (by decide)
  have hsteps := ((ReflTransGen.single (hforward idleRouter
    (tcpSegment 0x02 0x0a000001 0x08080808 80 80) outerRoute)).tail
      (hforward _ (tcpSegment 0x10 0x0a000001 0x08080808 81 80) outerRoute)).tail
        (hforward _ (tcpSegment 0x02 0x0a000001 0xac400304 80 80)
          { outerRoute with gw := htonl 0xac400304 })
  exact ⟨_, hsteps, rfl, requestsOk_of_queueSteps rfl hsteps⟩

end NatRouter
