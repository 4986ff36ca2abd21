import NatRouter.Arp.Accounting
import NatRouter.Router.SweepMemory

/-!
# The ARP queue in memory

The router as the sweep of `sr_arpcache_timeout` finds it: the requests are nodes that the functions
reach by following `next` pointers.  `sr_arpcache_queuereq` puts a new node in front of the others,
`sr_arpreq_destroy` looks for the node and its predecessor, unlinks it and frees it.  A freed node
cannot be read any more, and the loop of `sr_arpcache_sweepreqs` reads the `next` pointer of a
request after `sr_handle_arpreq_queue` has dealt with it.

`ArpMemory.Represents` says which router lies in a memory; in such a memory every operation does
what it does on the list of requests, up to `sr_handle_arpreq_queue`
(`srHandleArpreqQueue_represents`).
-/

namespace NatRouter

open ByteMemory GroupedQueue LinkedHeap

/-- `struct sr_instance` with the nodes of the request queue.  The NAT is left out, which the sweep
does not touch.  The packets of a request are part of its node: they are freed together. -/
structure ArpMemory where
  /-- The interfaces and the routing table. -/
  cfg : NetConfig
  /-- `cache->entries`. -/
  entries : Vector SrArpentry srArpcacheSz
  /-- The nodes of `struct sr_arpreq`. -/
  nodes : Heap NodeId SrArpreq
  /-- `cache->requests`. -/
  requests : Option NodeId
  /-- The next allocation has this number. -/
  nextNode : NodeId
  /-- What has been done so far. -/
  log : List RouterEvent

/-! ### The operations -/

/-- Add to the log. -/
def ArpMemory.record (M : ArpMemory) (events : List RouterEvent) : ArpMemory :=
  { M with log := M.log ++ events }

/-- `sr_send_packet`. -/
def ArpMemory.srSendPacket (M : ArpMemory) (frame : ByteMem) (len : UInt32) (iface : IfName) :
    ArpMemory := M.record [.send none (bytes frame len.toNat) iface]

/-- `sr_arpcache_lookup`. -/
def ArpMemory.srArpcacheLookup (M : ArpMemory) (ip : UInt32) : Option SrArpentry :=
  M.entries.toList.foldl
    (fun entry curr => if curr.valid ∧ curr.ip = ip then some curr else entry) none

/-- A request for `ip` where the search has found none: a new node at the head of the queue. -/
def ArpMemory.withRequest (M : ArpMemory) (ip : UInt32) : Option NodeId → NodeId × ArpMemory
  | some req => (req, M)
  | none => (M.nextNode, { M with
      nodes := allocate M.nodes M.nextNode ⟨⟨M.nextNode, ip, 0, 0, []⟩, M.requests⟩
      requests := some M.nextNode })

/-- Put a packet at the head of the list of the request at the address `req`. -/
def ArpMemory.pushPacket (M : ArpMemory) (req : NodeId) (pkt : SrPacket) :
    Except (Stop Fault) ArpMemory := do
  let node ← load M.nodes req
  let nodes ← store M.nodes req
    { node with val := { node.val with packets := pkt :: node.val.packets } }
  return { M with nodes := nodes }

/-- `sr_arpcache_queuereq`. -/
def ArpMemory.queuereq (M : ArpMemory) (fuel : ℕ) (heap : NodeId → ByteMem) (ip : UInt32)
    (packet : ByteMem) (packetLen : UInt32) (iface sender : IfName) :
    Except (Stop Fault) ArpMemory := do
  let (_, found) ← walk (fun _ req => req.ip = ip) fuel none M.requests M.nodes
  let (req, M') := M.withRequest ip found
  let M' := { M' with nextNode := M.nextNode + 1 }
  match newPacket (heap M.nextNode) packet packetLen iface sender with
  | some newPkt =>
    let M' ← M'.pushPacket req newPkt
    return M'.record [.queued ip newPkt]
  | none => return M'

/-- `sr_arpreq_destroy`. -/
def ArpMemory.srArpreqDestroy (M : ArpMemory) (fuel : ℕ) (entry : NodeId) :
    Except (Stop Fault) ArpMemory := do
  let (prev, found) ← walk (fun req _ => req = entry) fuel none M.requests M.nodes
  let (requests, nodes) ← unlinkFound M.requests prev found M.nodes
  let nodes ← release nodes entry
  return { M with requests := requests, nodes := nodes }

/-- `sr_send_arp`. -/
def ArpMemory.srSendArp (M : ArpMemory) (interface : IfName) (arpType : UInt16)
    (destEtherAddr : Mac) (destIpAddr : UInt32) : Except (Stop Fault) ArpMemory := do
  let interfaceInfo ← inLoop (deref (srGetInterface M.cfg.ifList interface))
  let arpPacket :=
    srCreateArppacket arpType interfaceInfo.addr interfaceInfo.ip destEtherAddr destIpAddr
  let frame :=
    srCreateEtherframe sizeofArpPacket arpPacket destEtherAddr interfaceInfo.addr ethertypeArp
  return M.srSendPacket frame (frameLen sizeofArpPacket) interface

/-- `sr_send_icmp`. -/
def ArpMemory.srSendIcmp (M : ArpMemory) (fuel : ℕ) (ctx : Surroundings) (packet : ByteMem)
    (interface : IfName) (type code : UInt8) : Except (Stop Fault) ArpMemory := do
  let M := M.record [.icmp packet interface type code]
  let interfaceInfo := srGetInterface M.cfg.ifList interface
  let message ← inLoop (icmpIppacket interfaceInfo packet type code)
  let (loadLen, ipPacket) := message
  let sourceIp := SrIpHdr.ipSrc packet
  match M.srArpcacheLookup sourceIp with
  | some arpentry =>
    let interfaceInfo ← inLoop (deref interfaceInfo)
    let frame := srCreateEtherframe loadLen ipPacket arpentry.mac interfaceInfo.addr ethertypeIp
    return M.srSendPacket frame (frameLen loadLen) interface
  | none => M.queuereq fuel ctx.heap sourceIp ipPacket loadLen interface interface

/-- The loop of `sr_handle_arpreq_queue` over the packets of a request that is given up. -/
def ArpMemory.sendUnreachable (fuel : ℕ) (ctx : Surroundings) :
    List SrPacket → ArpMemory → Except (Stop Fault) ArpMemory
  | [], M => .ok M
  | curr :: rest, M => do
    let M ← M.srSendIcmp fuel ctx curr.buf curr.sender icmpTypeDstunreachable 1
    sendUnreachable fuel ctx rest M

/-- `sr_handle_arpreq_queue`, with the clock read twice. -/
def ArpMemory.srHandleArpreqQueue (M : ArpMemory) (fuel : ℕ) (ctx : Surroundings) (now later : Time)
    (req : NodeId) : Except (Stop Fault) ArpMemory := do
  let node ← load M.nodes req
  if srArpreqTo < now - node.val.sent then
    if srArpreqMax ≤ node.val.timesSent then
      let M ← sendUnreachable fuel ctx node.val.packets M
      M.srArpreqDestroy fuel req
    else
      let head ← inLoop (deref node.val.packets.head?)
      let M ← M.srSendArp head.iface arpOpRequest etherBroadcastAddr node.val.ip
      let node ← load M.nodes req
      let nodes ← store M.nodes req
        { node with val := { node.val with sent := later, timesSent := node.val.timesSent + 1 } }
      return { M with nodes := nodes }
  else return M

/-- The loop of `sr_arpcache_sweepreqs` from the request `req` on: the requests for which
`sr_handle_arpreq_queue` was called, in order. -/
def ArpMemory.sweepLoop (ctx : Surroundings) (clock : NodeId → Time × Time) :
    ℕ → Option NodeId → ArpMemory → Except (Stop Fault) (List NodeId × ArpMemory)
  | 0, _, _ => .error .running
  | _ + 1, none, M => .ok ([], M)
  | fuel + 1, some req, M => do
    let M ← M.srHandleArpreqQueue fuel ctx (clock req).1 (clock req).2 req
    -- req = req->next
    let node ← load M.nodes req
    let (handled, M) ← sweepLoop ctx clock fuel node.next M
    return (req :: handled, M)

/-- `sr_arpcache_sweepreqs`. -/
def ArpMemory.srArpcacheSweepreqs (M : ArpMemory) (fuel : ℕ) (ctx : Surroundings)
    (clock : NodeId → Time × Time) : Except (Stop Fault) (List NodeId × ArpMemory) :=
  sweepLoop ctx clock fuel M.requests M

/-! ### The router that lies in a memory -/

/-- The addresses and contents of a list of requests. -/
def requestCells (requests : List SrArpreq) : List (NodeId × SrArpreq) :=
  requests.map fun req => (req.node, req)

/-- The cells around a request. -/
lemma requestCells_append (l₁ : List SrArpreq) (req : SrArpreq) (l₂ : List SrArpreq) :
    requestCells (l₁ ++ req :: l₂) = requestCells l₁ ++ (req.node, req) :: requestCells l₂ := by
  simp [requestCells]

/-- The addresses of requests. -/
lemma addrs_requestCells (requests : List SrArpreq) :
    addrs (requestCells requests) = requests.map SrArpreq.node := by
  simp [addrs, requestCells]

/-- The router that lies in a memory. -/
structure ArpMemory.Represents (M : ArpMemory) (sr : SrInstance) : Prop where
  /-- The interfaces and the routing table. -/
  cfg : M.cfg = sr.cfg
  /-- The resolved addresses. -/
  entries : M.entries = sr.cache.entries
  /-- The requests. -/
  requests : LinkedHeap.Linked M.nodes M.requests (requestCells sr.cache.requests)
  /-- The next allocation. -/
  nextNode : M.nextNode = sr.cache.nextNode
  /-- What has not been allocated yet holds nothing. -/
  fresh : ∀ i, M.nextNode ≤ i → M.nodes i = none
  /-- The log. -/
  log : M.log = sr.log

/-- A memory in which a router lies. -/
def queueMemory (sr : SrInstance) : ArpMemory where
  cfg := sr.cfg
  entries := sr.cache.entries
  nodes := layOut (fun _ => none) (requestCells sr.cache.requests)
  requests := (requestCells sr.cache.requests).head?.map Prod.fst
  nextNode := sr.cache.nextNode
  log := sr.log

/-- Every router with a well-formed queue lies in one. -/
lemma represents_queueMemory {sr : SrInstance} (h : sr.cache.WellFormed) :
    (queueMemory sr).Represents sr where
  cfg := rfl
  entries := rfl
  requests := linked_layOut _ (by rw [addrs_requestCells]; exact h.nodes)
  nextNode := rfl
  fresh := by
    intro i hi
    refine layOut_of_not_mem _ fun hmem => ?_
    rw [addrs_requestCells] at hmem
    obtain ⟨req, hreq, rfl⟩ := List.mem_map.mp hmem
    exact absurd (h.lt req hreq) (Nat.not_lt.mpr hi)
  log := rfl

section Represents

variable {M : ArpMemory} {sr sr' : SrInstance} {fuel : ℕ} {ctx : Surroundings}

/-- What holds something has been allocated. -/
lemma ArpMemory.Represents.lt_nextNode (h : M.Represents sr) {i : NodeId}
    {c : Cell NodeId SrArpreq} (hc : M.nodes i = some c) : i < M.nextNode := by
  by_contra hge
  rw [h.fresh i (Nat.not_lt.mp hge)] at hc
  cases hc

/-- What is recorded is recorded in both. -/
lemma ArpMemory.Represents.record (h : M.Represents sr) (events : List RouterEvent) :
    (M.record events).Represents (sr.record events) :=
  ⟨h.cfg, h.entries, h.requests, h.nextNode, h.fresh, by
    simp only [ArpMemory.record, SrInstance.record, h.log]⟩

/-- So is what is sent. -/
lemma ArpMemory.Represents.srSendPacket (h : M.Represents sr) (frame : ByteMem) (len : UInt32)
    (iface : IfName) :
    (M.srSendPacket frame len iface).Represents (NatRouter.srSendPacket sr none frame len iface) :=
  h.record _

/-- The lookup finds the same entry. -/
lemma ArpMemory.Represents.lookup (h : M.Represents sr) (ip : UInt32) :
    M.srArpcacheLookup ip = NatRouter.srArpcacheLookup sr.cache ip := by
  unfold ArpMemory.srArpcacheLookup NatRouter.srArpcacheLookup
  rw [h.entries]

/-- A request for the address is the first one for it, and the search finds it. -/
lemma walk_request {requests : List SrArpreq} {h : Heap NodeId SrArpreq} {head : Option NodeId}
    (hl : LinkedHeap.Linked h head (requestCells requests)) (hfuel : requests.length < fuel)
    (test : NodeId → SrArpreq → Bool) (p : SrArpreq → Bool)
    (htest : ∀ req, test req.node req = p req) {req : SrArpreq}
    (hreq : req ∈ requests) (hp : p req = true) :
    ∃ l₁ found l₂, requests = l₁ ++ found :: l₂ ∧ (∀ r ∈ l₁, ¬ p r = true) ∧ p found = true ∧
      requests.eraseP p = l₁ ++ l₂ ∧
      (walk test fuel none head h : Except (Stop Fault) _) =
        .ok ((addrs (requestCells l₁)).getLast?, some found.node) := by
  obtain ⟨found, l₁, l₂, hbefore, hfound, rfl, herase⟩ := List.exists_of_eraseP hreq hp
  refine ⟨l₁, found, l₂, rfl, hbefore, hfound, herase, ?_⟩
  have hlen : (requestCells l₁).length < fuel := by
    simp only [requestCells, List.length_map, List.length_append, List.length_cons] at hfuel ⊢
    omega
  rw [requestCells_append] at hl
  rw [walk_found hl ?_ ((htest found).trans hfound) hlen, Option.or_none]
  intro y hy
  obtain ⟨r, hr, rfl⟩ := List.mem_map.mp hy
  rw [htest r]
  exact Bool.eq_false_iff.mpr (hbefore r hr)

/-- A packet is put on a request. -/
lemma pushPacket_linked {l₁ l₂ : List SrArpreq} {req : SrArpreq}
    (hl : LinkedHeap.Linked M.nodes M.requests (requestCells (l₁ ++ req :: l₂))) (pkt : SrPacket) :
    ∃ nodes : Heap NodeId SrArpreq, M.pushPacket req.node pkt = .ok { M with nodes := nodes } ∧
      LinkedHeap.Linked nodes M.requests
        (requestCells (l₁ ++ { req with packets := pkt :: req.packets } :: l₂)) ∧
      ∀ i, i ≠ req.node → nodes i = M.nodes i := by
  rw [requestCells_append] at hl
  obtain ⟨n, hnode, hrest⟩ := hl.at_node
  refine ⟨Function.update M.nodes req.node (some ⟨{ req with packets := pkt :: req.packets }, n⟩),
    ?_, ?_, fun i hi => Function.update_of_ne hi _ _⟩
  · simp only [ArpMemory.pushPacket, bind, Except.bind, load_eq_ok hnode, store_eq_ok hnode]
    rfl
  · rw [requestCells_append]
    exact hl.relink hrest hl.node_not_mem.2 _

/-- The first request for the address, or the new one in front, holds the address. -/
lemma withRequest_represents (h : M.Represents sr) (hfuel : sr.cache.requests.length < fuel)
    (ip : UInt32) : ∃ (l₁ : List SrArpreq) (req : SrArpreq) (l₂ : List SrArpreq)
      (prev found head : Option NodeId) (nodes : Heap NodeId SrArpreq),
      withRequest sr.cache ip = l₁ ++ req :: l₂ ∧
      (∀ r ∈ l₁, ¬ decide (r.ip = ip) = true) ∧ decide (req.ip = ip) = true ∧
      (walk (fun _ r => r.ip = ip) fuel none M.requests M.nodes : Except (Stop Fault) _) =
        .ok (prev, found) ∧
      M.withRequest ip found = (req.node, { M with nodes := nodes, requests := head }) ∧
      LinkedHeap.Linked nodes head (requestCells (l₁ ++ req :: l₂)) ∧ req.node < M.nextNode + 1 ∧
      ∀ i, M.nextNode + 1 ≤ i → nodes i = none := by
  by_cases hex : ∃ req ∈ sr.cache.requests, req.ip = ip
  · -- there is a request for the address already
    obtain ⟨req, hreq, hip⟩ := hex
    obtain ⟨l₁, found, l₂, hsplit, hbefore, hfound, -, hwalk⟩ :=
      walk_request h.requests hfuel (fun _ r => r.ip = ip) (fun r => r.ip = ip) (fun _ => rfl) hreq
        (decide_eq_true hip)
    have hany : (sr.cache.requests.any fun req => req.ip = ip) = true :=
      List.any_eq_true.mpr ⟨req, hreq, decide_eq_true hip⟩
    refine ⟨l₁, found, l₂, _, _, M.requests, M.nodes, ?_, hbefore, hfound, hwalk, rfl,
      hsplit ▸ h.requests, ?_, fun i hi => h.fresh i (Nat.le_of_succ_le hi)⟩
    · rw [withRequest, if_pos hany, hsplit]
    · have hmem : found.node ∈ addrs (requestCells sr.cache.requests) := by
        rw [hsplit, addrs_requestCells]
        simp
      obtain ⟨c, hc⟩ := h.requests.allocated hmem
      exact Nat.lt_succ_of_lt (h.lt_nextNode hc)
  · -- a new node is put in front of the others
    have hnone : ∀ req ∈ sr.cache.requests, ¬ req.ip = ip :=
      fun req hreq hip => hex ⟨req, hreq, hip⟩
    have hany : ¬ (sr.cache.requests.any fun req => req.ip = ip) = true := by simpa using hnone
    have hwalk : (walk (fun _ r => r.ip = ip) fuel none M.requests M.nodes :
        Except (Stop Fault) _) =
          .ok ((addrs (requestCells sr.cache.requests)).getLast?.or none, none) := by
      refine walk_none h.requests ?_ (by simpa [requestCells] using hfuel)
      intro y hy
      obtain ⟨r, hr, rfl⟩ := List.mem_map.mp hy
      exact decide_eq_false (hnone r hr)
    have hnew : M.nextNode ∉ addrs (requestCells sr.cache.requests) :=
      h.requests.not_mem_of_freed (h.fresh _ (Nat.le_refl _))
    refine ⟨[], newRequest sr.cache ip, sr.cache.requests, _, none, some M.nextNode,
      allocate M.nodes M.nextNode ⟨newRequest sr.cache ip, M.requests⟩, ?_,
      fun r hr => absurd hr List.not_mem_nil, decide_eq_true rfl, hwalk, ?_,
      ⟨?_, M.requests, ?_, ?_⟩, ?_, ?_⟩
    · rw [withRequest, if_neg hany, List.nil_append]
    · simp only [ArpMemory.withRequest, newRequest, h.nextNode]
    · simp only [newRequest, h.nextNode]
    · simp only [newRequest, h.nextNode, allocate, Function.update_self]
    · exact h.requests.update hnew _
    · exact h.nextNode ▸ Nat.lt_succ_self _
    · intro i hi
      have hne : i ≠ M.nextNode := Nat.ne_of_gt hi
      exact (Function.update_of_ne hne _ _).trans (h.fresh i (Nat.le_of_succ_le hi))

/-- **`sr_arpcache_queuereq` in memory.** -/
lemma queuereq_represents (h : M.Represents sr) (hfuel : sr.cache.requests.length < fuel)
    (heap : NodeId → ByteMem) (ip : UInt32) (packet : ByteMem) (packetLen : UInt32)
    (iface sender : IfName) : ∃ M', M.queuereq fuel heap ip packet packetLen iface sender = .ok M' ∧
      M'.Represents (sr.queuereq heap ip packet packetLen iface sender) := by
  obtain ⟨l₁, req, l₂, prev, found, head, nodes, hreqs, hbefore, hip, hwalk, hwith, hl, hlt,
    hfresh⟩ :=
    withRequest_represents h hfuel ip
  unfold ArpMemory.queuereq
  rw [hwalk]
  simp only [bind, Except.bind, hwith]
  cases hpkt : newPacket (heap M.nextNode) packet packetLen iface sender with
  | none =>
    refine ⟨_, rfl, h.cfg, h.entries, ?_, ?_, hfresh, ?_⟩
    · rw [h.nextNode] at hpkt
      simp only [SrInstance.queuereq, srArpcacheQueuereq, hpkt, hreqs]
      exact hl
    · simp only [SrInstance.queuereq, srArpcacheQueuereq, h.nextNode]
    · rw [h.nextNode] at hpkt
      simp [SrInstance.queuereq, hpkt, h.log]
  | some newPkt =>
    obtain ⟨nodes', hpush, hlinked, hother⟩ := @pushPacket_linked
      { M with nodes := nodes, requests := head, nextNode := M.nextNode + 1 } l₁ l₂ req hl newPkt
    rw [h.nextNode] at hpkt
    refine ⟨ArpMemory.record
      { M with nodes := nodes', requests := head, nextNode := M.nextNode + 1 } [.queued ip newPkt],
      ?_, h.cfg, h.entries, ?_, ?_, ?_, ?_⟩
    · simp only [hpush]
      rfl
    · simp only [SrInstance.queuereq, srArpcacheQueuereq, hpkt, hreqs, pushPacket,
        modifyFirst_append hbefore hip]
      exact hlinked
    · simp only [SrInstance.queuereq, srArpcacheQueuereq, h.nextNode, ArpMemory.record]
    · intro i hi
      exact (hother i (Nat.ne_of_gt (Nat.lt_of_lt_of_le hlt hi))).trans (hfresh i hi)
    · simp [SrInstance.queuereq, ArpMemory.record, hpkt, h.log]

/-- **`sr_send_arp` in memory.** -/
lemma srSendArp_represents (h : M.Represents sr) {interface : IfName} {arpType : UInt16} {mac : Mac}
    {ip : UInt32} (hsend : srSendArp sr interface arpType mac ip = .ok sr') :
    ∃ M', M.srSendArp interface arpType mac ip = .ok M' ∧ M'.nodes = M.nodes ∧
      M'.requests = M.requests ∧ M'.Represents sr' := by
  obtain ⟨i, hi, hsend⟩ := bind_eq_ok.mp hsend
  obtain rfl := Except.ok.inj hsend
  refine ⟨M.srSendPacket _ _ interface, ?_, rfl, rfl, h.srSendPacket _ _ interface⟩
  rw [← h.cfg] at hi
  simp only [ArpMemory.srSendArp, bind, Except.bind, inLoop_eq_ok.mpr hi]
  rfl

/-- **`sr_send_icmp` in memory.** -/
lemma srSendIcmp_represents (h : M.Represents sr) (hfuel : sr.cache.requests.length < fuel)
    {packet : ByteMem} {interface : IfName} {type code : UInt8}
    (hsend : srSendIcmp ctx sr packet interface type code = .ok sr') :
    ∃ M', M.srSendIcmp fuel ctx packet interface type code = .ok M' ∧ M'.Represents sr' := by
  have hrec := h.record [.icmp packet interface type code]
  obtain ⟨⟨loadLen, ipPacket⟩, hmessage, hsend⟩ := bind_eq_ok.mp hsend
  have hmessage' : inLoop (icmpIppacket
      (srGetInterface (M.record [.icmp packet interface type code]).cfg.ifList interface)
      packet type code) = .ok (loadLen, ipPacket) := by
    rw [hrec.cfg]
    exact inLoop_eq_ok.mpr hmessage
  unfold ArpMemory.srSendIcmp
  simp only [bind, Except.bind, hmessage', hrec.lookup]
  cases hlookup : srArpcacheLookup (sr.record [.icmp packet interface type code]).cache
      (SrIpHdr.ipSrc packet) with
  | some entry =>
    simp only [hlookup] at hsend
    obtain ⟨i, hi, hsend⟩ := bind_eq_ok.mp hsend
    obtain rfl := Except.ok.inj hsend
    rw [← hrec.cfg] at hi
    refine ⟨ArpMemory.srSendPacket _ _ _ interface, ?_, hrec.srSendPacket _ _ interface⟩
    simp only [inLoop_eq_ok.mpr hi]
    rfl
  | none =>
    simp only [hlookup] at hsend
    obtain rfl := Except.ok.inj hsend
    exact queuereq_represents hrec hfuel ctx.heap (SrIpHdr.ipSrc packet) ipPacket loadLen interface
      interface

/-- The queue gets longer by one request at most. -/
lemma length_requests_srSendIcmp {packet : ByteMem} {interface : IfName} {type code : UInt8}
    (hsend : srSendIcmp ctx sr packet interface type code = .ok sr') :
    sr'.cache.requests.length ≤ sr.cache.requests.length + 1 := by
  obtain ⟨loadLen, ipPacket, -, ⟨entry, frame, -, rfl⟩ | ⟨-, rfl⟩⟩ := srSendIcmp_cases hsend
  · exact Nat.le_succ _
  · have hmap := congrArg List.length (map_requests_queuereq (ctx.heap sr.cache.nextNode)
      (SrIpHdr.ipSrc packet) ipPacket loadLen interface interface sr.cache SrArpreq.ip
      fun _ _ => rfl)
    rw [List.length_map, List.length_map, withRequest] at hmap
    split at hmap
    · exact hmap.le.trans (Nat.le_succ _)
    · exact hmap.le

/-- **The messages about the packets of a request in memory.** -/
lemma sendUnreachable_represents {packets : List SrPacket} (h : M.Represents sr)
    (hfuel : sr.cache.requests.length + packets.length < fuel)
    (hsend : sendUnreachable ctx packets sr = .ok sr') :
    ∃ M', M.sendUnreachable fuel ctx packets = .ok M' ∧ M'.Represents sr' := by
  induction packets generalizing M sr with
  | nil =>
    obtain rfl : sr = sr' := Except.ok.inj hsend
    exact ⟨M, rfl, h⟩
  | cons curr rest ih =>
    obtain ⟨mid, hcurr, hrest⟩ := bind_eq_ok.mp hsend
    rw [List.length_cons] at hfuel
    have hfirst : sr.cache.requests.length < fuel := by omega
    obtain ⟨M₁, hM₁, hrep⟩ := srSendIcmp_represents h hfirst hcurr
    have hlen := length_requests_srSendIcmp hcurr
    obtain ⟨M', hM', hrep'⟩ := ih hrep (by omega) hrest
    exact ⟨M', bind_ok_iff.mpr ⟨M₁, hM₁, hM'⟩, hrep'⟩

/-- **`sr_arpreq_destroy` in memory**, of a request that is on the queue. -/
lemma srArpreqDestroy_represents (h : M.Represents sr) (hfuel : sr.cache.requests.length < fuel)
    {req : SrArpreq} (hreq : req ∈ sr.cache.requests) :
    ∃ M', M.srArpreqDestroy fuel req.node = .ok M' ∧ M'.nodes req.node = none ∧
      M'.Represents { sr with cache := srArpreqDestroy sr.cache req.node } := by
  obtain ⟨l₁, found, l₂, hsplit, -, hfound, herase, hwalk⟩ :=
    walk_request h.requests hfuel (fun i _ => i = req.node) (fun r => r.node = req.node)
      (fun _ => rfl) hreq (decide_eq_true rfl)
  have hl := h.requests
  rw [hsplit, requestCells_append] at hl
  obtain ⟨hnot₁, hnot₂⟩ := hl.node_not_mem
  obtain ⟨n, hfree, -⟩ := hl.at_node
  have hnode : found.node = req.node := of_decide_eq_true hfound
  rw [hnode] at hl hwalk hnot₁ hnot₂ hfree
  obtain ⟨head, nodes, hunlink, hlinked, hsame, hother⟩ := @unlink_linked _ _ Fault _ _ _ _ _ _ _ hl
  rw [← hsame] at hfree
  refine ⟨{ M with requests := head, nodes := Function.update nodes req.node none }, ?_,
    Function.update_self .., h.cfg, h.entries, ?_, h.nextNode, ?_, h.log⟩
  · simp only [ArpMemory.srArpreqDestroy, bind, Except.bind, hwalk, unlinkFound, hunlink,
      release_eq_ok hfree]
    rfl
  · have hcells : requestCells (NatRouter.srArpreqDestroy sr.cache req.node).requests =
        requestCells l₁ ++ requestCells l₂ := by
      simp only [NatRouter.srArpreqDestroy, herase, requestCells, List.map_append]
    rw [hcells]
    refine hlinked.update ?_ none
    rw [addrs, List.map_append, List.mem_append, not_or]
    exact ⟨hnot₁, hnot₂⟩
  · intro i hi
    have hall := h.requests.not_mem_of_freed (h.fresh i hi)
    rw [hsplit, requestCells_append, addrs, List.map_append, List.mem_append, not_or] at hall
    have hnodes : nodes i = none := (hother i hall.1).trans (h.fresh i hi)
    by_cases hireq : i = req.node
    · exact hireq ▸ Function.update_self ..
    · exact (Function.update_of_ne hireq _ _).trans hnodes

/-- The messages about `k` packets make the queue longer by `k` requests at most. -/
lemma length_requests_sendUnreachable {packets : List SrPacket}
    (hsend : sendUnreachable ctx packets sr = .ok sr') :
    sr'.cache.requests.length ≤ sr.cache.requests.length + packets.length := by
  induction packets generalizing sr with
  | nil =>
    obtain rfl : sr = sr' := Except.ok.inj hsend
    exact Nat.le_refl _
  | cons curr rest ih =>
    obtain ⟨mid, hcurr, hrest⟩ := bind_eq_ok.mp hsend
    have hfirst := length_requests_srSendIcmp hcurr
    have hothers := ih hrest
    rw [List.length_cons]
    omega

/-- A request that is sent once more stays where it is. -/
lemma requests_touch {cache : SrArpcache} {l₁ l₂ : List SrArpreq} {req : SrArpreq}
    (hsplit : cache.requests = l₁ ++ req :: l₂) (h₁ : req.node ∉ l₁.map SrArpreq.node)
    (h₂ : req.node ∉ l₂.map SrArpreq.node) (sent : Time) :
    (cache.touch req.node sent).requests =
      l₁ ++ { req with sent := sent, timesSent := req.timesSent + 1 } :: l₂ := by
  have hother : ∀ l : List SrArpreq, req.node ∉ l.map SrArpreq.node →
      (l.map fun r => if r.node = req.node then
        { r with sent := sent, timesSent := r.timesSent + 1 } else r) = l := by
    intro l hl
    refine Eq.trans (List.map_congr_left fun r hr => if_neg ?_) (List.map_id l)
    exact fun hnode => hl (List.mem_map.mpr ⟨r, hr, hnode⟩)
  simp only [SrArpcache.touch, hsplit, List.map_append, List.map_cons, hother l₁ h₁, hother l₂ h₂,
    if_true]

/-- **`sr_handle_arpreq_queue` in memory**: what it makes of the list of requests it makes of the
linked nodes. -/
theorem srHandleArpreqQueue_represents (h : M.Represents sr) {now later : Time} {node : NodeId}
    (hfuel : ∀ req ∈ sr.cache.requests, sr.cache.requests.length + req.packets.length < fuel)
    (hhandle : srHandleArpreqQueue ctx now later node sr = .ok sr') :
    ∃ M', M.srHandleArpreqQueue fuel ctx now later node = .ok M' ∧ M'.Represents sr' := by
  unfold srHandleArpreqQueue at hhandle
  split at hhandle
  · cases hhandle
  · rename_i req hfind
    obtain ⟨hnode, l₁, l₂, hsplit, -⟩ := List.find?_eq_some_iff_append.mp hfind
    obtain rfl : req.node = node := of_decide_eq_true hnode
    have hreq : req ∈ sr.cache.requests := List.mem_of_find?_eq_some hfind
    have hl := h.requests
    rw [hsplit, requestCells_append] at hl
    obtain ⟨n, hload, hrest⟩ := hl.at_node
    unfold ArpMemory.srHandleArpreqQueue
    simp only [bind, Except.bind, load_eq_ok hload]
    split_ifs at hhandle ⊢ with hdue hmax
    · -- the request is given up
      obtain ⟨mid, hsend, hdestroy⟩ := bind_eq_ok.mp hhandle
      obtain rfl := Except.ok.inj hdestroy
      obtain ⟨M₁, hM₁, hrep⟩ := sendUnreachable_represents h (hfuel req hreq) hsend
      obtain ⟨req', hreq', hnode', -⟩ := (sendUnreachable_waiting hsend).2.2.1 req hreq
      have hlen := length_requests_sendUnreachable hsend
      obtain ⟨M', hM', -, hrep'⟩ :=
        srArpreqDestroy_represents hrep (Nat.lt_of_le_of_lt hlen (hfuel req hreq)) hreq'
      rw [hnode'] at hM' hrep'
      exact ⟨M', by simp only [hM₁, hM'], hrep'⟩
    · -- it is sent once more
      obtain ⟨head, hhead, hhandle⟩ := bind_eq_ok.mp hhandle
      obtain ⟨mid, hsend, htouch⟩ := bind_eq_ok.mp hhandle
      obtain rfl := Except.ok.inj htouch
      obtain ⟨M₁, hM₁, hnodes, hrequests, hrep⟩ := srSendArp_represents h hsend
      have hload₁ : M₁.nodes req.node = some ⟨req, n⟩ := hnodes ▸ hload
      obtain ⟨frame, rfl⟩ := srSendArp_cases hsend
      refine ⟨{ M₁ with
          nodes := Function.update M₁.nodes req.node
            (some ⟨{ req with sent := later, timesSent := req.timesSent + 1 }, n⟩) }, ?_, hrep.cfg,
        hrep.entries, ?_, hrep.nextNode, ?_, hrep.log⟩
      · simp only [inLoop_eq_ok.mpr hhead, hM₁, load_eq_ok hload₁, store_eq_ok hload₁]
        rfl
      · obtain ⟨hnot₁, hnot₂⟩ := hl.node_not_mem
        have htouch := requests_touch hsplit (addrs_requestCells l₁ ▸ hnot₁)
          (addrs_requestCells l₂ ▸ hnot₂) later
        simp only [srSendPacket, SrInstance.record, htouch, requestCells_append, hnodes, hrequests]
        exact hl.relink hrest hnot₂ _
      · intro i hi
        refine (Function.update_of_ne ?_ _ _).trans (hrep.fresh i hi)
        rintro rfl
        exact absurd (hrep.lt_nextNode hload₁) (Nat.not_lt.mpr hi)
    · obtain rfl := Except.ok.inj hhandle
      exact ⟨M, rfl, h⟩

end Represents

end NatRouter
