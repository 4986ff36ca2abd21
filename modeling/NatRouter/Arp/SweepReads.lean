import NatRouter.Arp.QueueMemory

/-!
# What the ARP sweep reads

`sr_arpcache_sweepreqs` goes on from a request to `req->next` when `sr_handle_arpreq_queue` has
returned, and the comment in `sr_arpcache.h` says to save the pointer before, since the request may
have been destroyed.  A request that is given up is: the loop then reads a freed node, and what
follows on the queue is not visited.  So the sweep visits every request once exactly if it gives up
none (`visitsOnce_iff`).  Requests that are added on the way, at the head of the queue, are not
visited.
-/

namespace NatRouter

open LinkedHeap

/-- A visit at the time `now` leaves the request on the queue: its time has not come yet, or it is
sent once more, out of the interface of its first packet. -/
def Stays (cfg : NetConfig) (now : Time) (req : SrArpreq) : Prop :=
  srArpreqTo < now - req.sent → req.timesSent < srArpreqMax ∧
    ∃ pkt i, req.packets.head? = some pkt ∧ srGetInterface cfg.ifList pkt.iface = some i

/-- **The sweep is sound**: it comes to an end without a read of a freed node, and has called
`sr_handle_arpreq_queue` once for each of the requests `l`, in order. -/
def VisitsOnce (M : ArpMemory) (ctx : Surroundings) (clock : NodeId → Time × Time)
    (l : List (NodeId × SrArpreq)) : Prop :=
  ∃ fuel M', M.srArpcacheSweepreqs fuel ctx clock = .ok (addrs l, M')

section Visit

variable {M M' : ArpMemory} {ctx : Surroundings} {fuel : ℕ} {now later : Time} {req : NodeId}
  {x : SrArpreq} {n : Option NodeId}

/-- A request that stays keeps its `next` pointer, and no other node is touched. -/
lemma srHandleArpreqQueue_of_stays (hx : M.nodes req = some ⟨x, n⟩) (hstays : Stays M.cfg now x) :
    ∃ M' y, M.srHandleArpreqQueue fuel ctx now later req = .ok M' ∧ M'.cfg = M.cfg ∧
      M'.nodes req = some ⟨y, n⟩ ∧ ∀ i, i ≠ req → M'.nodes i = M.nodes i := by
  unfold ArpMemory.srHandleArpreqQueue
  simp only [bind, Except.bind, load_eq_ok hx]
  split_ifs with hdue hmax
  · exact absurd (hstays hdue).1 (Nat.not_lt.mpr hmax)
  · obtain ⟨-, pkt, i, hhead, hi⟩ := hstays hdue
    simp only [hhead, deref, inLoop, ArpMemory.srSendArp, hi, bind, Except.bind, pure, Except.pure,
      ArpMemory.srSendPacket, ArpMemory.record, load_eq_ok hx, store_eq_ok hx]
    exact ⟨_, _, rfl, rfl, Function.update_self .., fun j hj => Function.update_of_ne hj _ _⟩
  · exact ⟨M, x, rfl, rfl, hx, fun _ _ => rfl⟩

/-- To give a request up is to free it. -/
lemma freed_of_srArpreqDestroy (hdestroy : M.srArpreqDestroy fuel req = .ok M') :
    M'.nodes req = none := by
  obtain ⟨⟨prev, found⟩, -, hdestroy⟩ := bind_ok_iff.mp hdestroy
  obtain ⟨⟨requests, nodes⟩, -, hdestroy⟩ := bind_ok_iff.mp hdestroy
  obtain ⟨nodes', hrelease, hdestroy⟩ := bind_ok_iff.mp hdestroy
  obtain rfl := Except.ok.inj hdestroy
  exact apply_of_release hrelease

/-- A request that is given up is not there any more after the visit. -/
lemma freed_of_givesUp (hx : M.nodes req = some ⟨x, n⟩) (hgives : GivesUp now x)
    (hvisit : M.srHandleArpreqQueue fuel ctx now later req = .ok M') : M'.nodes req = none := by
  unfold ArpMemory.srHandleArpreqQueue at hvisit
  obtain ⟨node, hload, hvisit⟩ := bind_ok_iff.mp hvisit
  rw [load_eq_ok hx] at hload
  obtain rfl := Except.ok.inj hload
  rw [if_pos hgives.1, if_pos hgives.2] at hvisit
  obtain ⟨M₁, -, hdestroy⟩ := bind_ok_iff.mp hvisit
  exact freed_of_srArpreqDestroy hdestroy

/-- A request that is still there is one that stays. -/
lemma stays_of_srHandleArpreqQueue (hx : M.nodes req = some ⟨x, n⟩)
    (hvisit : M.srHandleArpreqQueue fuel ctx now later req = .ok M') {node : Cell NodeId SrArpreq}
    (hnode : M'.nodes req = some node) : Stays M.cfg now x := by
  intro hdue
  have hmax : ¬ srArpreqMax ≤ x.timesSent := by
    intro hmax
    rw [freed_of_givesUp hx ⟨hdue, hmax⟩ hvisit] at hnode
    cases hnode
  unfold ArpMemory.srHandleArpreqQueue at hvisit
  obtain ⟨node, hload, hvisit⟩ := bind_ok_iff.mp hvisit
  rw [load_eq_ok hx] at hload
  obtain rfl := Except.ok.inj hload
  rw [if_pos hdue, if_neg hmax] at hvisit
  obtain ⟨pkt, hpkt, hvisit⟩ := bind_ok_iff.mp hvisit
  obtain ⟨M₁, hsend, -⟩ := bind_ok_iff.mp hvisit
  obtain ⟨i, hi, -⟩ := bind_ok_iff.mp hsend
  rw [inLoop_eq_ok, deref_eq_ok] at hpkt hi
  exact ⟨Nat.not_le.mp hmax, pkt, i, hpkt, hi⟩

end Visit

section Sweep

variable {ctx : Surroundings} {clock : NodeId → Time × Time}

/-- The loop from a request on visits each once if it gives up none. -/
lemma sweepLoop_of_stays {l : List (NodeId × SrArpreq)} {M : ArpMemory} {a : Option NodeId}
    (hl : LinkedHeap.Linked M.nodes a l) (hstays : ∀ x ∈ l, Stays M.cfg (clock x.1).1 x.2) :
    ∃ M', M.sweepLoop ctx clock (l.length + 1) a = .ok (addrs l, M') := by
  induction l generalizing M a with
  | nil =>
    obtain rfl : a = none := hl
    exact ⟨M, rfl⟩
  | cons x l ih =>
    have hnot : x.1 ∉ addrs l := (List.nodup_cons.mp hl.nodup).1
    obtain ⟨rfl, n, hx, hrest⟩ := hl
    obtain ⟨hhead, hstays⟩ := List.forall_mem_cons.mp hstays
    obtain ⟨M₁, y, hvisit, hcfg, hnode, hother⟩ :=
      @srHandleArpreqQueue_of_stays M ctx (l.length + 1) _ (clock x.1).2 _ _ _ hx hhead
    have hrest₁ : LinkedHeap.Linked M₁.nodes n l :=
      hrest.congr fun i hi => hother i fun heq => hnot (heq ▸ hi)
    obtain ⟨M', hM'⟩ := ih hrest₁ (hcfg ▸ hstays)
    exact ⟨M', bind_ok_iff.mpr ⟨M₁, hvisit, bind_ok_iff.mpr ⟨_, load_eq_ok hnode,
      bind_ok_iff.mpr ⟨_, hM', rfl⟩⟩⟩⟩

/-- If it has visited each once, it has given up none. -/
lemma stays_of_sweepLoop {l : List (NodeId × SrArpreq)} {M M' : ArpMemory} {a : Option NodeId}
    {fuel : ℕ} (hl : LinkedHeap.Linked M.nodes a l)
    (hloop : M.sweepLoop ctx clock fuel a = .ok (addrs l, M')) :
    ∀ x ∈ l, Stays M.cfg (clock x.1).1 x.2 := by
  induction l generalizing M a fuel with
  | nil => exact fun x hx => absurd hx List.not_mem_nil
  | cons x l ih =>
    have hnot : x.1 ∉ addrs l := (List.nodup_cons.mp hl.nodup).1
    obtain ⟨rfl, n, hx, hrest⟩ := hl
    cases fuel with
    | zero => cases hloop
    | succ fuel =>
      obtain ⟨M₁, hvisit, hloop⟩ := bind_ok_iff.mp hloop
      obtain ⟨node, hload, hloop⟩ := bind_ok_iff.mp hloop
      obtain ⟨⟨handled, M₂⟩, hloop, hend⟩ := bind_ok_iff.mp hloop
      obtain ⟨hhandled, rfl⟩ := Prod.mk.inj (Except.ok.inj hend)
      obtain rfl : handled = addrs l := (List.cons.inj hhandled).2
      have hnode : M₁.nodes x.1 = some node := apply_of_load hload
      have hhead := stays_of_srHandleArpreqQueue hx hvisit hnode
      obtain ⟨M₁', y, hvisit', hcfg, hnode', hother⟩ :=
        @srHandleArpreqQueue_of_stays M ctx fuel _ (clock x.1).2 _ _ _ hx hhead
      obtain rfl : M₁ = M₁' := Except.ok.inj (hvisit.symm.trans hvisit')
      obtain rfl : node = ⟨y, n⟩ := Option.some.inj (hnode.symm.trans hnode')
      have hrest₁ : LinkedHeap.Linked M₁.nodes n l :=
        hrest.congr fun i hi => hother i fun heq => hnot (heq ▸ hi)
      exact List.forall_mem_cons.mpr ⟨hhead, hcfg ▸ ih hrest₁ hloop⟩

end Sweep

/-- **The sweep visits every request once**, in order, and reads no freed node, if and only if it
gives up none and can send those whose time has come once more. -/
theorem visitsOnce_iff {M : ArpMemory} {l : List (NodeId × SrArpreq)}
    (hl : LinkedHeap.Linked M.nodes M.requests l) (ctx : Surroundings)
    (clock : NodeId → Time × Time) :
    VisitsOnce M ctx clock l ↔ ∀ x ∈ l, Stays M.cfg (clock x.1).1 x.2 := by
  constructor
  · rintro ⟨fuel, M', hsweep⟩
    exact stays_of_sweepLoop hl hsweep
  · intro hstays
    obtain ⟨M', hsweep⟩ := sweepLoop_of_stays hl hstays
    exact ⟨_, M', hsweep⟩

/-- While packets wait for two addresses, both are asked for once more. -/
theorem visitsOnce_twoRequests : ∃ sr : SrInstance,
    sr.cache.requests.map SrArpreq.ip = [7, outerRoute.gw] ∧
      VisitsOnce (queueMemory sr) quietSurroundings (fun _ => (100, 100))
        (requestCells sr.cache.requests) := by
  let sr : SrInstance := waitingRouter.queuereq quietSurroundings.heap 7
    (icmpMessage 8 0xac400303 0x08080808 7) 28 outerInterface.name outerInterface.name
  have hwaiting : waitingRouter.cache.WellFormed := wellFormed_srArpcacheInit.queuereq
    (quietSurroundings.heap 0) outerRoute.gw (icmpMessage 8 0xac400303 0x08080808 7) 28
    outerInterface.name outerInterface.name
  have hwf : sr.cache.WellFormed := hwaiting.queuereq
    (quietSurroundings.heap waitingRouter.cache.nextNode) 7 (icmpMessage 8 0xac400303 0x08080808 7) 28
    outerInterface.name outerInterface.name
  refine ⟨sr, rfl, (visitsOnce_iff (represents_queueMemory hwf).requests _ _).mpr ?_⟩
  intro x hx _
  have hcells : x ∈ requestCells sr.cache.requests := hx
  rcases List.mem_cons.mp hcells with rfl | hlast
  · exact ⟨by decide, _, outerInterface, rfl, rfl⟩
  · obtain rfl := List.mem_singleton.mp hlast
    exact ⟨by decide, _, outerInterface, rfl, rfl⟩

/-! ### A request that is given up -/

/-- A message can be made about every packet that came in on an interface of the router. -/
lemma exists_sendUnreachable (ctx : Surroundings) {packets : List SrPacket} {sr : SrInstance}
    (hsender : ∀ pkt ∈ packets, ∃ i, srGetInterface sr.cfg.ifList pkt.sender = some i) :
    ∃ sr', sendUnreachable ctx packets sr = .ok sr' := by
  induction packets generalizing sr with
  | nil => exact ⟨sr, rfl⟩
  | cons curr rest ih =>
    obtain ⟨⟨i, hi⟩, hrest⟩ := List.forall_mem_cons.mp hsender
    obtain ⟨mid, hcurr⟩ := @srSendIcmp_of_interface ctx sr curr.buf curr.sender
      icmpTypeDstunreachable 1
      (by decide) i hi
    obtain ⟨sr', hrest'⟩ := ih ((sends_srSendIcmp hcurr).cfg ▸ hrest)
    exact ⟨sr', bind_eq_ok.mpr ⟨mid, hcurr, hrest'⟩⟩

/-- **A sweep that begins with a request that is given up stops there**: it reads the freed node. -/
theorem sweep_reads_freed {M : ArpMemory} {sr : SrInstance} (h : M.Represents sr)
    (ctx : Surroundings) {clock : NodeId → Time × Time} {req : SrArpreq} {rest : List SrArpreq}
    (hqueue : sr.cache.requests = req :: rest) (hgives : GivesUp (clock req.node).1 req)
    (hsender : ∀ pkt ∈ req.packets, ∃ i, srGetInterface sr.cfg.ifList pkt.sender = some i)
    {fuel : ℕ}
    (hfuel : ∀ r ∈ sr.cache.requests, sr.cache.requests.length + r.packets.length < fuel) :
    M.srArpcacheSweepreqs (fuel + 1) ctx clock = .error .freed := by
  have hl := h.requests
  rw [hqueue] at hl
  obtain ⟨hhead, n, hnode, -⟩ := hl
  obtain ⟨mid, hsend⟩ := exists_sendUnreachable ctx hsender
  have hhandle : srHandleArpreqQueue ctx (clock req.node).1 (clock req.node).2 req.node sr =
      .ok { mid with cache := srArpreqDestroy mid.cache req.node } := by
    unfold srHandleArpreqQueue
    have hfind : (req :: rest).find? (fun r => r.node = req.node) = some req :=
      List.find?_cons_of_pos (decide_eq_true rfl)
    rw [hqueue, hfind]
    simp only [if_pos hgives.1, if_pos hgives.2, bind, Except.bind, hsend]
    rfl
  obtain ⟨M', hvisit, -⟩ := srHandleArpreqQueue_represents h hfuel hhandle
  have hfreed := freed_of_givesUp hnode hgives hvisit
  unfold ArpMemory.srArpcacheSweepreqs
  rw [hhead]
  simp only [ArpMemory.sweepLoop, bind, Except.bind, hvisit, load_eq_freed hfreed]

/-- The router of which the request for the gateway was sent five times, the last time at 50. -/
def unansweredRouter : SrInstance :=
  { waitingRouter with
    cache := { waitingRouter.cache with
      requests := waitingRouter.cache.requests.map fun req =>
        { req with sent := 50, timesSent := 5 } } }

/-- Its queue is well formed. -/
lemma wellFormed_unansweredRouter : unansweredRouter.cache.WellFormed :=
  ⟨List.nodup_singleton _, List.nodup_singleton _, fun req hreq => by
    obtain rfl := List.mem_singleton.mp hreq
    exact Nat.zero_lt_one⟩

/-- The request is given up, and the sweep reads it when it has been freed. -/
theorem not_visitsOnce_unansweredRouter :
    (∀ fuel, 4 ≤ fuel → (queueMemory unansweredRouter).srArpcacheSweepreqs fuel quietSurroundings
      (fun _ => (100, 100)) = .error .freed) ∧
    ¬ VisitsOnce (queueMemory unansweredRouter) quietSurroundings (fun _ => (100, 100))
      (requestCells unansweredRouter.cache.requests) := by
  have hrep := represents_queueMemory wellFormed_unansweredRouter
  constructor
  · intro fuel hfuel
    obtain ⟨k, rfl⟩ := Nat.exists_eq_succ_of_ne_zero (Nat.ne_of_gt (Nat.zero_lt_of_lt hfuel))
    refine sweep_reads_freed hrep quietSurroundings rfl ⟨by decide, Nat.le_refl _⟩ ?_ ?_
    · intro pkt hpkt
      obtain rfl := List.mem_singleton.mp hpkt
      exact ⟨outerInterface, rfl⟩
    · intro r hr
      obtain rfl := List.mem_singleton.mp hr
      exact Nat.lt_of_succ_lt_succ hfuel
  · rintro ⟨fuel, M', hsweep⟩
    have hstays := stays_of_sweepLoop hrep.requests hsweep _ (List.mem_singleton.mpr rfl)
    exact absurd (hstays (by decide)).1 (Nat.lt_irrefl _)

end NatRouter
