import NatRouter.Router.Effects

/-!
# ARP packets and the ARP sweep (`sr_handle_arp`, `sr_arpcache_timeout`)

The packet thread handles an ARP packet in `sr_handle_arp`.  It takes `cache->lock` in
`sr_arpcache_insert`, which unlinks the request that is answered; from then on the request is in the
hands of `sr_handle_arp` alone, which sends its packets and destroys it.  The sweep thread holds the
lock during a whole pass of `sr_arpcache_timeout`.

`sr_arpcache_sweepreqs` goes on from a request to `req->next` after `sr_handle_arpreq_queue` may have
freed `req`.  The model goes on with the pointer that was there, and records the read
(`RouterEvent.readFreed`).
-/

namespace NatRouter

open ByteMemory GroupedQueue

/-- The loop of `sr_handle_arp` over the packets of an answered request.  They go out of the interface
the reply came in on. -/
def flushPackets (destEtherAddr : Mac) (interface : IfName) :
    List SrPacket → SrInstance → Except Fault SrInstance
  | [], sr => .ok sr
  | curr :: rest, sr => do
    let currIface ← deref (srGetInterface sr.cfg.ifList curr.iface)
    let frame := srCreateEtherframe curr.len curr.buf destEtherAddr currIface.addr ethertypeIp
    flushPackets destEtherAddr interface rest
      (srSendPacket sr (some curr) frame (frameLen curr.len) interface)

/-- The packet is about IP addresses on Ethernet. -/
def isEthernetIp (packet : ByteMem) : Bool :=
  ntohs (SrArpPacket.arHrd packet) = arpHrdEthernet ∧ ntohs (SrArpPacket.arPro packet) = arpProIp

/-- `sr_handle_arp`. -/
def srHandleArp (sr : SrInstance) (now : Time) (packet : ByteMem) (interface : IfName) :
    Except Fault SrInstance := do
  if isEthernetIp packet then
    let sourceEtherAddr := SrArpPacket.arSha packet
    let sourceIpAddr := SrArpPacket.arSip packet
    let arpType := ntohs (SrArpPacket.arOp packet)
    let (arpReq, cache) := srArpcacheInsert sr.cache now sourceEtherAddr sourceIpAddr
    if arpType = arpOpRequest then
      -- the request that was unlinked is not looked at
      srSendArp { sr with cache := cache } interface arpOpReply sourceEtherAddr sourceIpAddr
    else if arpType = arpOpReply then
      match arpReq with
      | some arpReq =>
        let sr ← flushPackets sourceEtherAddr interface arpReq.packets { sr with cache := cache }
        return { sr with cache := srArpreqDestroy sr.cache arpReq.node }
      | none => return { sr with cache := cache }
    else return sr
  else return sr

/-- The loop of `sr_handle_arpreq_queue` over the packets of a request that is given up. -/
def sendUnreachable (ctx : Surroundings) : List SrPacket → SrInstance → Except Fault SrInstance
  | [], sr => .ok sr
  | curr :: rest, sr => do
    let sr ← srSendIcmp ctx sr curr.buf curr.sender icmpTypeDstunreachable 1
    sendUnreachable ctx rest sr

/-- Note at the request at address `node` that it was sent once more. -/
def SrArpcache.touch (cache : SrArpcache) (node : NodeId) (sent : Time) : SrArpcache :=
  { cache with
    requests := cache.requests.map fun req =>
      if req.node = node then { req with sent := sent, timesSent := req.timesSent + 1 } else req }

/-- `sr_handle_arpreq_queue`, with the clock read twice. -/
def srHandleArpreqQueue (ctx : Surroundings) (now later : Time) (node : NodeId) (sr : SrInstance) :
    Except Fault SrInstance := do
  match sr.cache.requests.find? fun req => req.node = node with
  | none => .error .freedReq
  | some req =>
    if srArpreqTo < now - req.sent then
      if srArpreqMax ≤ req.timesSent then
        let sr ← sendUnreachable ctx req.packets sr
        return { sr with cache := srArpreqDestroy sr.cache node }
      else
        let head ← deref req.packets.head?
        let sr ← srSendArp sr head.iface arpOpRequest etherBroadcastAddr req.ip
        return { sr with cache := sr.cache.touch node later }
    else return sr

/-- One turn of the loop of `sr_arpcache_sweepreqs`: handle the request, then read its `next`. -/
def visitRequest (ctx : Surroundings) (now later : Time) (node : NodeId) (sr : SrInstance) :
    Except Fault SrInstance := do
  let sr ← srHandleArpreqQueue ctx now later node sr
  if sr.cache.requests.any fun req => req.node = node then return sr
  else return sr.record [.readFreed node]

/-- The loop of `sr_arpcache_sweepreqs` from the first of the given nodes on.  A request that is
queued on the way comes in at the head of the list, and so is not visited. -/
def sweepNodes (ctx : Surroundings) (clock : NodeId → Time × Time) :
    List NodeId → SrInstance → Except Fault SrInstance
  | [], sr => .ok sr
  | node :: next, sr => do
    let sr ← visitRequest ctx (clock node).1 (clock node).2 node sr
    sweepNodes ctx clock next sr

/-- `sr_arpcache_sweepreqs`. -/
def srArpcacheSweepreqs (ctx : Surroundings) (clock : NodeId → Time × Time) (sr : SrInstance) :
    Except Fault SrInstance :=
  sweepNodes ctx clock (sr.cache.requests.map SrArpreq.node) sr

/-- One pass of `sr_arpcache_timeout`. -/
def srArpcacheTimeout (ctx : Surroundings) (curtime : Time) (clock : NodeId → Time × Time)
    (sr : SrInstance) : Except Fault SrInstance :=
  srArpcacheSweepreqs ctx clock { sr with cache := srArpcacheExpire sr.cache curtime }

/-- Two seconds after a request was sent it is time to visit it. -/
lemma srArpreqTo_lt (sent : Time) : srArpreqTo < (sent + 2) - sent := by
  change (1 : ℤ) < ((sent : ℤ) + 2) - sent
  omega

/-- A pass over a queue of one request is a visit of it. -/
lemma srArpcacheTimeout_of_visit {ctx : Surroundings} {curtime : Time} {clock : NodeId → Time × Time}
    {sr sr' : SrInstance} {req : SrArpreq} (hreq : sr.cache.requests = [req])
    (hvisit : visitRequest ctx (clock req.node).1 (clock req.node).2 req.node
      { sr with cache := srArpcacheExpire sr.cache curtime } = .ok sr') :
    srArpcacheTimeout ctx curtime clock sr = .ok sr' := by
  have hnodes : (srArpcacheExpire sr.cache curtime).requests.map SrArpreq.node = [req.node] := by
    change sr.cache.requests.map _ = _
    rw [hreq]
    rfl
  change sweepNodes ctx clock ((srArpcacheExpire sr.cache curtime).requests.map SrArpreq.node) _ = _
  rw [hnodes]
  exact bind_eq_ok.mpr ⟨sr', hvisit, rfl⟩

/-- `touch` changes nothing of what waits. -/
lemma waiting_touch (cache : SrArpcache) (node : NodeId) (sent : Time) :
    (cache.touch node sent).waiting = cache.waiting := by
  refine content_map (fun req => ?_) (fun req => ?_) cache.requests
  · split <;> rfl
  · split <;> rfl

/-- It keeps the queue well formed. -/
lemma SrArpcache.WellFormed.touch {cache : SrArpcache} (h : cache.WellFormed) (node : NodeId)
    (sent : Time) : (cache.touch node sent).WellFormed := by
  have hmap : ∀ {δ : Type} (v : SrArpreq → δ),
      (∀ (req : SrArpreq) (t : Time) (n : ℕ), v { req with sent := t, timesSent := n } = v req) →
      (cache.touch node sent).requests.map v = cache.requests.map v := by
    intro δ v hv
    refine (List.map_map ..).trans (List.map_congr_left fun req _ => ?_)
    simp only [Function.comp_apply]
    split
    · exact hv req _ _
    · rfl
  refine ⟨?_, ?_, fun req hreq => ?_⟩
  · rw [hmap SrArpreq.ip fun _ _ _ => rfl]
    exact h.ips
  · rw [hmap SrArpreq.node fun _ _ _ => rfl]
    exact h.nodes
  · obtain ⟨req', hreq', rfl⟩ := List.mem_map.mp hreq
    split
    · exact h.lt req' hreq'
    · exact h.lt req' hreq'

/-! ### The flush -/

/-- The Ethernet address of an interface of the router. -/
def addrOf (cfg : NetConfig) (name : IfName) : Mac :=
  match srGetInterface cfg.ifList name with
  | some i => i.addr
  | none => Vector.replicate 6 0

/-- An interface is found by the copy of its name that is kept with a waiting packet. -/
lemma srGetInterface_copyIfName (ifList : List SrIf) (name : IfName) :
    srGetInterface ifList (copyIfName name) = srGetInterface ifList name := by
  have hsame : ∀ i : SrIf, sameIfName i.name (copyIfName name) = sameIfName i.name name := by
    intro i
    rw [sameIfName, copyIfName, List.take_take, min_self]
    rfl
  simp only [srGetInterface, hsame]

lemma addrOf_eq {cfg : NetConfig} {name : IfName} {i : SrIf}
    (h : srGetInterface cfg.ifList name = some i) : addrOf cfg name = i.addr := by
  simp only [addrOf, h]

/-- What `sr_handle_arp` sends for a packet that waited. -/
def flushEvent (cfg : NetConfig) (destEtherAddr : Mac) (interface : IfName) (pkt : SrPacket) :
    RouterEvent :=
  .send (some pkt)
    (bytes (srCreateEtherframe pkt.len pkt.buf destEtherAddr (addrOf cfg pkt.iface) ethertypeIp)
      (frameLen pkt.len).toNat) interface

/-- The frames that `sr_handle_arp` sends are those of the packets that waited. -/
lemma flushPackets_eq {mac : Mac} {interface : IfName} {packets : List SrPacket}
    {sr sr' : SrInstance} (h : flushPackets mac interface packets sr = .ok sr') :
    sr' = sr.record (packets.map (flushEvent sr.cfg mac interface)) ∧
      ∀ pkt ∈ packets, ∃ i, srGetInterface sr.cfg.ifList pkt.iface = some i := by
  induction packets generalizing sr with
  | nil =>
    obtain rfl : sr = sr' := Except.ok.inj h
    exact ⟨by simp [SrInstance.record], fun _ hpkt => absurd hpkt List.not_mem_nil⟩
  | cons curr rest ih =>
    obtain ⟨i, hi, h⟩ := bind_eq_ok.mp h
    rw [deref_eq_ok] at hi
    obtain ⟨rfl, hrest⟩ := ih h
    refine ⟨?_, ?_⟩
    · simp [SrInstance.record, srSendPacket, flushEvent, addrOf_eq hi]
    · intro pkt hpkt
      rcases List.mem_cons.mp hpkt with rfl | hpkt
      · exact ⟨i, hi⟩
      · exact hrest pkt hpkt

/-! ### What is left alone -/

section Sends

variable {ctx : Surroundings} {sr sr' : SrInstance} {packet : ByteMem} {interface : IfName}

/-- `sr_handle_arp` sends. -/
lemma sends_srHandleArp {now : Time} (h : srHandleArp sr now packet interface = .ok sr') :
    Sends sr sr' := by
  unfold srHandleArp at h
  split_ifs at h
  · simp only at h
    split_ifs at h
    · obtain ⟨frame, rfl⟩ := srSendArp_cases h
      exact ⟨rfl, rfl⟩
    · split at h
      · obtain ⟨mid, hflush, h⟩ := bind_eq_ok.mp h
        obtain ⟨rfl, -⟩ := flushPackets_eq hflush
        obtain rfl := Except.ok.inj h
        exact ⟨rfl, rfl⟩
      · obtain rfl := Except.ok.inj h
        exact ⟨rfl, rfl⟩
    · obtain rfl := Except.ok.inj h
      exact ⟨rfl, rfl⟩
  · obtain rfl := Except.ok.inj h
    exact ⟨rfl, rfl⟩

/-- The messages about the packets of a request are sent. -/
lemma sends_sendUnreachable {packets : List SrPacket} (h : sendUnreachable ctx packets sr = .ok sr') :
    Sends sr sr' := by
  induction packets generalizing sr with
  | nil =>
    obtain rfl : sr = sr' := Except.ok.inj h
    exact ⟨rfl, rfl⟩
  | cons curr rest ih =>
    obtain ⟨mid, hcurr, hrest⟩ := bind_eq_ok.mp h
    exact (sends_srSendIcmp hcurr).trans (ih hrest)

/-- `sr_handle_arpreq_queue` sends. -/
lemma sends_srHandleArpreqQueue {now later : Time} {node : NodeId}
    (h : srHandleArpreqQueue ctx now later node sr = .ok sr') : Sends sr sr' := by
  unfold srHandleArpreqQueue at h
  split at h
  · cases h
  · split_ifs at h
    · obtain ⟨mid, hsend, h⟩ := bind_eq_ok.mp h
      obtain rfl := Except.ok.inj h
      exact (sends_sendUnreachable hsend).trans ⟨rfl, rfl⟩
    · obtain ⟨head, -, h⟩ := bind_eq_ok.mp h
      obtain ⟨mid, hsend, h⟩ := bind_eq_ok.mp h
      obtain ⟨frame, rfl⟩ := srSendArp_cases hsend
      obtain rfl := Except.ok.inj h
      exact ⟨rfl, rfl⟩
    · obtain rfl := Except.ok.inj h
      exact ⟨rfl, rfl⟩

/-- A visit of the sweep sends. -/
lemma sends_visitRequest {now later : Time} {node : NodeId}
    (h : visitRequest ctx now later node sr = .ok sr') : Sends sr sr' := by
  obtain ⟨mid, hhandle, h⟩ := bind_eq_ok.mp h
  have hmid : Sends mid sr' := by
    split at h
    · obtain rfl := Except.ok.inj h
      exact ⟨rfl, rfl⟩
    · obtain rfl := Except.ok.inj h
      exact ⟨rfl, rfl⟩
  exact (sends_srHandleArpreqQueue hhandle).trans hmid

/-- The sweep of the ARP queue sends. -/
lemma sends_sweepNodes {clock : NodeId → Time × Time} {nodes : List NodeId}
    (h : sweepNodes ctx clock nodes sr = .ok sr') : Sends sr sr' := by
  induction nodes generalizing sr with
  | nil =>
    obtain rfl : sr = sr' := Except.ok.inj h
    exact ⟨rfl, rfl⟩
  | cons node next ih =>
    obtain ⟨mid, hvisit, hrest⟩ := bind_eq_ok.mp h
    exact (sends_visitRequest hvisit).trans (ih hrest)

/-- A pass of `sr_arpcache_timeout` sends. -/
lemma sends_srArpcacheTimeout {curtime : Time} {clock : NodeId → Time × Time}
    (h : srArpcacheTimeout ctx curtime clock sr = .ok sr') : Sends sr sr' := by
  have hsweep : Sends { sr with cache := srArpcacheExpire sr.cache curtime } sr' := sends_sweepNodes h
  exact ⟨hsweep.nat, hsweep.cfg⟩

end Sends

end NatRouter
