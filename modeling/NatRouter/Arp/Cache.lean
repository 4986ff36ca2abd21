import NatRouter.Lib.GroupedQueue
import NatRouter.Nat.Table

/-!
# The ARP cache (`sr_arpcache.h`, `sr_arpcache.c`)

The table of resolved addresses and the queue of requests, with the operations on them.  Each
operation runs under `cache->lock`, a recursive mutex that the sweep holds all along.

As in the NAT table, a node of the request list keeps the number of the allocation that made it.  A
call of `sr_arpcache_queuereq` takes one number, for the request it may create and for the copy of
the packet it makes.
-/

namespace NatRouter

open ByteMemory GroupedQueue

/-- `SR_ARPCACHE_SZ`. -/
def srArpcacheSz : ℕ := 100

/-- `SR_ARPCACHE_TO`: seconds a resolved address is kept. -/
def srArpcacheTo : ℤ := 15

/-- `SR_ARPREQ_TO`: seconds between two requests for an address. -/
def srArpreqTo : ℤ := 1

/-- `SR_ARPREQ_MAX`: how often an address is asked for. -/
def srArpreqMax : ℕ := 5

/-- `struct sr_arpentry`. -/
structure SrArpentry where
  /-- The Ethernet address. -/
  mac : Mac
  /-- The IP address, in network byte order. -/
  ip : UInt32
  /-- When the entry was made. -/
  added : Time
  /-- Whether the entry is in use. -/
  valid : Bool

/-- `struct sr_packet`: a packet that waits for an address. -/
structure SrPacket where
  /-- A copy of the IP packet. -/
  buf : ByteMem
  /-- Its length. -/
  len : UInt32
  /-- The outgoing interface. -/
  iface : IfName
  /-- The incoming interface. -/
  sender : IfName

/-- `struct sr_arpreq`: an address that is asked for. -/
structure SrArpreq where
  /-- The allocation of this node. -/
  node : NodeId
  /-- The address, in network byte order. -/
  ip : UInt32
  /-- Last time this request was sent, 0 if never. -/
  sent : Time
  /-- How often it was sent. -/
  timesSent : ℕ
  /-- The packets waiting on this request to finish. -/
  packets : List SrPacket

/-- `struct sr_arpcache`. -/
structure SrArpcache where
  /-- The resolved addresses. -/
  entries : Vector SrArpentry srArpcacheSz
  /-- The request queue. -/
  requests : List SrArpreq
  /-- The next allocation has this number. -/
  nextNode : NodeId

/-- `sr_arpcache_init`. -/
def srArpcacheInit : SrArpcache where
  entries := Vector.replicate srArpcacheSz ⟨Vector.replicate 6 0, 0, 0, false⟩
  requests := []
  nextNode := 0

/-- `sr_arpcache_lookup`: a copy of the valid entry for `ip`.  The loop goes through the whole table,
so the last such entry counts. -/
def srArpcacheLookup (cache : SrArpcache) (ip : UInt32) : Option SrArpentry :=
  cache.entries.toList.foldl
    (fun entry curr => if curr.valid ∧ curr.ip = ip then some curr else entry) none

/-- `strncpy` of an interface name into a block of `sr_IFACE_NAMELEN` bytes. -/
def copyIfName (name : IfName) : IfName := name.take 32

/-- The packet that `sr_arpcache_queuereq` adds to a request, if any. -/
def newPacket (junk packet : ByteMem) (packetLen : UInt32) (iface sender : IfName) :
    Option SrPacket :=
  if packetLen ≠ 0 then
    some ⟨copied packet packetLen.toNat junk, packetLen, copyIfName iface, copyIfName sender⟩
  else none

/-- The request `sr_arpcache_queuereq` allocates. -/
def newRequest (cache : SrArpcache) (ip : UInt32) : SrArpreq where
  node := cache.nextNode
  ip := ip
  sent := 0
  timesSent := 0
  packets := []

/-- Put a packet at the head of the list of the first request for `ip`. -/
def pushPacket (ip : UInt32) (pkt : SrPacket) (requests : List SrArpreq) : List SrArpreq :=
  modifyFirst (fun req => req.ip = ip) (fun req => { req with packets := pkt :: req.packets })
    requests

/-- The queue with a request for `ip` on it: the one it has, or a new one at its head. -/
def withRequest (cache : SrArpcache) (ip : UInt32) : List SrArpreq :=
  if cache.requests.any fun req => req.ip = ip then cache.requests
  else newRequest cache ip :: cache.requests

/-- `sr_arpcache_queuereq`: find the request for `ip`, or add one, and add the packet to those that
wait on it.  No caller uses the pointer that is returned. -/
def srArpcacheQueuereq (cache : SrArpcache) (junk : ByteMem) (ip : UInt32) (packet : ByteMem)
    (packetLen : UInt32) (iface sender : IfName) : SrArpcache :=
  { cache with
    requests :=
      match newPacket junk packet packetLen iface sender with
      | some newPkt => pushPacket ip newPkt (withRequest cache ip)
      | none => withRequest cache ip
    nextNode := cache.nextNode + 1 }

/-- `sr_arpcache_insert`: unlink the request for `ip` and return it, and write the address into the
first entry that is not valid, if there is one. -/
def srArpcacheInsert (cache : SrArpcache) (now : Time) (mac : Mac) (ip : UInt32) :
    Option SrArpreq × SrArpcache :=
  (cache.requests.find? fun req => req.ip = ip,
    { cache with
      requests := cache.requests.eraseP fun req => req.ip = ip
      entries :=
        match cache.entries.findFinIdx? fun entry => !entry.valid with
        | some i => cache.entries.set i ⟨mac, ip, now, true⟩
        | none => cache.entries })

/-- `sr_arpreq_destroy`: unlink the request at address `node`, if it is on the queue, and free it. -/
def srArpreqDestroy (cache : SrArpcache) (node : NodeId) : SrArpcache :=
  { cache with requests := cache.requests.eraseP fun req => req.node = node }

/-- The first half of a pass of `sr_arpcache_timeout`: entries past their time are invalidated. -/
def srArpcacheExpire (cache : SrArpcache) (curtime : Time) : SrArpcache :=
  { cache with
    entries := cache.entries.map fun entry =>
      if entry.valid ∧ srArpcacheTo < curtime - entry.added then { entry with valid := false }
      else entry }

/-! ### Lookup -/

/-- The entry is a valid one for `ip`. -/
def isEntryFor (ip : UInt32) (entry : SrArpentry) : Bool := entry.valid ∧ entry.ip = ip

/-- The loop of the lookup keeps the last entry it comes to. -/
lemma foldl_last_eq {α : Type} (p : α → Bool) (l : List α) (init : Option α) :
    l.foldl (fun entry curr => if p curr then some curr else entry) init =
      ((l.filter p).getLast?).or init := by
  induction l generalizing init with
  | nil => rfl
  | cons a l ih =>
    rw [List.foldl_cons, ih]
    by_cases ha : p a = true
    · rw [if_pos ha, List.filter_cons_of_pos ha]
      cases hl : l.filter p with
      | nil => rfl
      | cons b l' => rfl
    · rw [if_neg ha, List.filter_cons_of_neg ha]

/-- `sr_arpcache_lookup` finds the last valid entry for the address. -/
lemma srArpcacheLookup_eq (cache : SrArpcache) (ip : UInt32) :
    srArpcacheLookup cache ip = (cache.entries.toList.filter (isEntryFor ip)).getLast? := by
  have hfold := foldl_last_eq (isEntryFor ip) cache.entries.toList none
  rw [Option.or_none] at hfold
  rw [← hfold]
  unfold srArpcacheLookup
  congr
  funext entry curr
  by_cases h : curr.valid = true ∧ curr.ip = ip
  · rw [if_pos h, if_pos (by simpa [isEntryFor] using h)]
  · rw [if_neg h, if_neg (by simpa [isEntryFor] using h)]

/-- An empty cache knows no address. -/
lemma srArpcacheLookup_init (ip : UInt32) : srArpcacheLookup srArpcacheInit ip = none := by
  have hnone : srArpcacheInit.entries.toList.filter (isEntryFor ip) = [] := by
    apply List.filter_eq_nil_iff.mpr
    intro entry hentry
    have hreplicate : entry ∈ List.replicate srArpcacheSz _ := Vector.toList_replicate ▸ hentry
    rw [List.eq_of_mem_replicate hreplicate]
    exact Bool.false_ne_true
  rw [srArpcacheLookup_eq, hnone]
  rfl

/-! ### The waiting packets -/

/-- The packets that wait, each with the address it waits for. -/
def SrArpcache.waiting (cache : SrArpcache) : Multiset (UInt32 × SrPacket) :=
  content SrArpreq.ip SrArpreq.packets cache.requests

/-- **Well-formed queues**: the addresses asked for are pairwise distinct, and so are the nodes, which
have all been allocated. -/
structure SrArpcache.WellFormed (cache : SrArpcache) : Prop where
  /-- No address is asked for twice. -/
  ips : (cache.requests.map SrArpreq.ip).Nodup
  /-- The nodes are distinct. -/
  nodes : (cache.requests.map SrArpreq.node).Nodup
  /-- The nodes have been allocated. -/
  lt : ∀ req ∈ cache.requests, req.node < cache.nextNode

/-- The queue is well formed to begin with. -/
lemma wellFormed_srArpcacheInit : srArpcacheInit.WellFormed :=
  ⟨.nil, .nil, fun _ h => absurd h List.not_mem_nil⟩

/-- Nothing waits to begin with. -/
lemma waiting_srArpcacheInit : srArpcacheInit.waiting = 0 := rfl

section Operations

variable {cache : SrArpcache}

/-- Where no request is added nothing more waits. -/
lemma waiting_of_requests {cache' : SrArpcache} (h : cache'.requests ⊆ cache.requests)
    {w : UInt32 × SrPacket} (hw : w ∈ cache'.waiting) : w ∈ cache.waiting := by
  obtain ⟨req, hreq, hitem⟩ := mem_content.mp hw
  exact mem_content.mpr ⟨req, h hreq, hitem⟩

/-- What waits under an address is on the request for it. -/
lemma SrArpcache.WellFormed.filter_waiting (h : cache.WellFormed) {req : SrArpreq}
    (hreq : req ∈ cache.requests) :
    cache.waiting.filter (fun w => w.1 = req.ip) =
      (req.packets.map fun pkt => (req.ip, pkt) : Multiset (UInt32 × SrPacket)) :=
  filter_content_key h.ips hreq

/-- A request is found by its node. -/
lemma SrArpcache.WellFormed.eq_of_node (h : cache.WellFormed) {req req' : SrArpreq}
    (hreq : req ∈ cache.requests) (hreq' : req' ∈ cache.requests) (hnode : req.node = req'.node) :
    req = req' := List.inj_on_of_nodup_map h.nodes hreq hreq' hnode

/-- A request is found by its address. -/
lemma SrArpcache.WellFormed.eq_of_ip (h : cache.WellFormed) {req req' : SrArpreq}
    (hreq : req ∈ cache.requests) (hreq' : req' ∈ cache.requests) (hip : req.ip = req'.ip) :
    req = req' := List.inj_on_of_nodup_map h.ips hreq hreq' hip

/-- `withRequest` has a request for the address. -/
lemma mem_map_ip_withRequest (cache : SrArpcache) (ip : UInt32) :
    ip ∈ (withRequest cache ip).map SrArpreq.ip := by
  unfold withRequest
  split
  · rename_i h
    simpa [List.any_eq_true, List.mem_map] using h
  · exact List.mem_cons_self

/-- A new request holds no packet. -/
lemma content_withRequest (cache : SrArpcache) (ip : UInt32) :
    content SrArpreq.ip SrArpreq.packets (withRequest cache ip) = cache.waiting := by
  unfold withRequest
  split
  · rfl
  · rw [content_cons]
    exact zero_add _

/-- `withRequest` keeps the addresses and the nodes distinct. -/
lemma SrArpcache.WellFormed.withRequest_nodup (h : cache.WellFormed) (ip : UInt32) :
    ((withRequest cache ip).map SrArpreq.ip).Nodup ∧
      ((withRequest cache ip).map SrArpreq.node).Nodup ∧
      ∀ n ∈ (withRequest cache ip).map SrArpreq.node, n < cache.nextNode + 1 := by
  unfold withRequest
  split
  · refine ⟨h.ips, h.nodes, ?_⟩
    intro n hn
    obtain ⟨req, hreq, rfl⟩ := List.mem_map.mp hn
    exact Nat.lt_succ_of_lt (h.lt req hreq)
  · rename_i hnone
    refine ⟨List.nodup_cons.mpr ⟨fun hmem => hnone ?_, h.ips⟩,
      List.nodup_cons.mpr ⟨fun hmem => ?_, h.nodes⟩, fun n hn => ?_⟩
    · simpa [List.any_eq_true, newRequest] using hmem
    · obtain ⟨req, hreq, hnode⟩ := List.mem_map.mp hmem
      exact Nat.ne_of_lt (h.lt req hreq) hnode
    · rcases List.mem_cons.mp hn with rfl | hn
      · exact Nat.lt_succ_self _
      · obtain ⟨req, hreq, rfl⟩ := List.mem_map.mp hn
        exact Nat.lt_succ_of_lt (h.lt req hreq)

section Queuereq

variable (junk : ByteMem) (ip : UInt32) (packet : ByteMem) (packetLen : UInt32)
  (iface sender : IfName)

/-- The packet that is added changes no address and no node. -/
lemma map_requests_queuereq (cache : SrArpcache) {δ : Type} (v : SrArpreq → δ)
    (hv : ∀ (req : SrArpreq) (l : List SrPacket), v { req with packets := l } = v req) :
    (srArpcacheQueuereq cache junk ip packet packetLen iface sender).requests.map v =
      (withRequest cache ip).map v := by
  unfold srArpcacheQueuereq
  cases newPacket junk packet packetLen iface sender with
  | none => rfl
  | some newPkt => exact map_modifyFirst (fun req => hv req _) _

/-- `sr_arpcache_queuereq` keeps the queue well formed. -/
lemma SrArpcache.WellFormed.queuereq (h : cache.WellFormed) :
    (srArpcacheQueuereq cache junk ip packet packetLen iface sender).WellFormed := by
  obtain ⟨hips, hnodes, hlt⟩ := h.withRequest_nodup ip
  refine ⟨?_, ?_, fun req hreq => hlt _ ?_⟩
  · rw [map_requests_queuereq junk ip packet packetLen iface sender cache SrArpreq.ip fun _ _ => rfl]
    exact hips
  · rw [map_requests_queuereq junk ip packet packetLen iface sender cache SrArpreq.node fun _ _ => rfl]
    exact hnodes
  · rw [← map_requests_queuereq junk ip packet packetLen iface sender cache SrArpreq.node
      fun _ _ => rfl]
    exact List.mem_map_of_mem hreq

/-- A request stays on the queue, at its node and for its address, when a packet is queued. -/
lemma exists_mem_queuereq {req : SrArpreq} (h : req ∈ cache.requests) :
    ∃ req' ∈ (srArpcacheQueuereq cache junk ip packet packetLen iface sender).requests,
      req'.node = req.node ∧ req'.ip = req.ip := by
  have hmem : req ∈ withRequest cache ip := by
    unfold withRequest
    split
    · exact h
    · exact List.mem_cons_of_mem _ h
  have hmap := map_requests_queuereq junk ip packet packetLen iface sender cache
    (fun req => (req.node, req.ip)) fun _ _ => rfl
  have hpair : (req.node, req.ip) ∈ (withRequest cache ip).map fun req => (req.node, req.ip) :=
    List.mem_map_of_mem hmem
  rw [← hmap] at hpair
  obtain ⟨req', hreq', heq⟩ := List.mem_map.mp hpair
  exact ⟨req', hreq', congrArg Prod.fst heq, congrArg Prod.snd heq⟩

/-- `sr_arpcache_queuereq` adds its packet to those that wait, under the address given. -/
lemma waiting_srArpcacheQueuereq (cache : SrArpcache) :
    (srArpcacheQueuereq cache junk ip packet packetLen iface sender).waiting = cache.waiting +
      ((newPacket junk packet packetLen iface sender).toList.map fun newPkt => (ip, newPkt) :
        Multiset (UInt32 × SrPacket)) := by
  unfold SrArpcache.waiting srArpcacheQueuereq
  cases newPacket junk packet packetLen iface sender with
  | none => exact (content_withRequest cache ip).trans (add_zero _).symm
  | some newPkt =>
    have hpush := @content_modifyFirst _ _ _ SrArpreq.ip SrArpreq.packets (withRequest cache ip) _
      (fun req => { req with packets := newPkt :: req.packets }) ip newPkt (fun _ => rfl)
      (fun _ => rfl) (mem_map_ip_withRequest cache ip)
    rw [content_withRequest] at hpush
    exact hpush.trans (Multiset.singleton_add _ _ ▸ add_comm _ _)

end Queuereq

/-- `sr_arpcache_insert` unlinks the packets that wait for the address. -/
lemma SrArpcache.WellFormed.waiting_insert (h : cache.WellFormed) (now : Time) (mac : Mac)
    (ip : UInt32) :
    (srArpcacheInsert cache now mac ip).2.waiting = cache.waiting.filter fun w => w.1 ≠ ip :=
  content_eraseP_key h.ips ip

/-- Unlinking a request keeps the queue well formed. -/
lemma SrArpcache.WellFormed.eraseP (h : cache.WellFormed) (p : SrArpreq → Bool) {cache' : SrArpcache}
    (hreq : cache'.requests = cache.requests.eraseP p) (hnext : cache'.nextNode = cache.nextNode) :
    cache'.WellFormed := by
  have hsub : cache'.requests.Sublist cache.requests := hreq ▸ List.eraseP_sublist
  refine ⟨h.ips.sublist (hsub.map _), h.nodes.sublist (hsub.map _), ?_⟩
  intro req hmem
  rw [hnext]
  exact h.lt req (hsub.subset hmem)

/-- `sr_arpcache_insert` keeps the queue well formed. -/
lemma SrArpcache.WellFormed.insert (h : cache.WellFormed) (now : Time) (mac : Mac) (ip : UInt32) :
    (srArpcacheInsert cache now mac ip).2.WellFormed := h.eraseP _ rfl rfl

/-- `sr_arpreq_destroy` keeps the queue well formed. -/
lemma SrArpcache.WellFormed.destroy (h : cache.WellFormed) (node : NodeId) :
    (srArpreqDestroy cache node).WellFormed := h.eraseP _ rfl rfl

/-- On a well-formed queue a request may be unlinked by its address as well as by its node. -/
lemma SrArpcache.WellFormed.destroy_eq (h : cache.WellFormed) {req : SrArpreq}
    (hreq : req ∈ cache.requests) :
    (srArpreqDestroy cache req.node).requests = cache.requests.eraseP fun r => r.ip = req.ip := by
  refine (eraseP_key_eq_filter h.nodes req.node).trans (Eq.trans ?_
    (eraseP_key_eq_filter h.ips req.ip).symm)
  apply List.filter_congr
  intro r hr
  by_cases hnode : r.node = req.node
  · obtain rfl := h.eq_of_node hr hreq hnode
    simp
  · have hip : r.ip ≠ req.ip := fun hip => hnode (congrArg SrArpreq.node (h.eq_of_ip hr hreq hip))
    simp [hnode, hip]

/-- `sr_arpreq_destroy` of a queued request unlinks the packets that wait for its address. -/
lemma SrArpcache.WellFormed.waiting_destroy (h : cache.WellFormed) {req : SrArpreq}
    (hreq : req ∈ cache.requests) :
    (srArpreqDestroy cache req.node).waiting = cache.waiting.filter fun w => w.1 ≠ req.ip := by
  unfold SrArpcache.waiting
  rw [h.destroy_eq hreq]
  exact content_eraseP_key h.ips req.ip

/-- A request that `sr_arpcache_insert` has unlinked is not on the queue any more: to destroy it
leaves the queue as it is, whatever has been queued in the meantime. -/
lemma srArpreqDestroy_of_not_mem {node : NodeId} (h : node ∉ cache.requests.map SrArpreq.node) :
    srArpreqDestroy cache node = cache := by
  unfold srArpreqDestroy
  rw [List.eraseP_of_forall_not]
  intro req hreq
  have hne : req.node ≠ node := fun hnode => h (hnode ▸ List.mem_map_of_mem hreq)
  simpa using hne

/-- The request that `sr_arpcache_insert` returns is off the queue. -/
lemma SrArpcache.WellFormed.node_not_mem_insert (h : cache.WellFormed) {now : Time} {mac : Mac}
    {ip : UInt32} {req : SrArpreq} (hreq : (srArpcacheInsert cache now mac ip).1 = some req) :
    req.node ∉ (srArpcacheInsert cache now mac ip).2.requests.map SrArpreq.node := by
  have hmem : req ∈ cache.requests := List.mem_of_find?_eq_some hreq
  have hip : req.ip = ip := by simpa using List.find?_some hreq
  subst hip
  have herase : (srArpcacheInsert cache now mac req.ip).2.requests =
      cache.requests.filter fun r => r.node ≠ req.node :=
    (h.destroy_eq hmem).symm.trans (eraseP_key_eq_filter h.nodes req.node)
  rw [herase]
  intro hnode
  obtain ⟨r, hr, hrnode⟩ := List.mem_map.mp hnode
  simp [hrnode] at hr

end Operations

end NatRouter
