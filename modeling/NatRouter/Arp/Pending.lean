import NatRouter.Arp.GivingUp

/-!
# Pending requests

What happens to a request from the moment it is on the queue: packets are queued, ARP packets come
in from other addresses, and every second `sr_arpcache_timeout` makes a pass.  As long as the
request is pending its address is asked for `SR_ARPREQ_MAX` times at most, and if a safe sweep gives
it up, every packet that waited on it is reported (`giveUp_complete`).

A sweep that is not safe loses a message.  The shortest way to that is a packet from the very
address that does not answer.
-/

namespace NatRouter

open ByteMemory GroupedQueue Relation

/-! ### While a request is pending -/

/-- What may happen while a request for `ip` is pending: any packet is queued, an ARP packet is
received that comes from another address, or `sr_arpcache_timeout` makes a pass, at any time. -/
inductive PendingStep (ip : UInt32) (s s' : SrInstance) : Prop
  /-- A call of `sr_arpcache_queuereq`. -/
  | queue (heap : NodeId → ByteMem) (ip' : UInt32) (packet : ByteMem) (packetLen : UInt32)
      (iface sender : IfName) (h : s' = s.queuereq heap ip' packet packetLen iface sender)
  /-- An ARP packet. -/
  | arp {now : Time} {packet : ByteMem} {interface : IfName}
      (hother : SrArpPacket.arSip packet ≠ ip) (h : srHandleArp s now packet interface = .ok s')
  /-- A pass. -/
  | sweep {ctx : Surroundings} {curtime : Time} {clock : NodeId → Time × Time}
      (h : srArpcacheTimeout ctx curtime clock s = .ok s')

/-- The state in which the sweep of a pass begins. -/
def SrInstance.expired (sr : SrInstance) (curtime : Time) : SrInstance :=
  { sr with cache := srArpcacheExpire sr.cache curtime }

section Pending

variable {ip : UInt32} {sr mid s s' : SrInstance} {req req' : SrArpreq}
  {clock : NodeId → Time × Time}

/-- It is a run of events. -/
lemma PendingStep.steps (h : PendingStep ip s s') :
    ReflTransGen (fun s s' => ∃ e, ArpStep e s s') s s' := by
  cases h with
  | queue heap ip' packet packetLen iface sender h =>
    exact .single ⟨.queue ip' packet packetLen iface sender, ⟨heap, quiet⟩,
      congrArg Except.ok h.symm⟩
  | @arp now packet interface _ h => exact .single ⟨.arp now packet interface, quietSurroundings, h⟩
  | sweep h => exact srArpcacheTimeout_steps h

/-- A run of such steps is one too. -/
lemma steps_of_pendingSteps (h : ReflTransGen (PendingStep ip) s s') :
    ReflTransGen (fun s s' => ∃ e, ArpStep e s s') s s' := by
  induction h with
  | refl => exact .refl
  | tail _ hstep ih => exact ih.trans hstep.steps

/-- In a sweep every address is asked for once at most, and not when the request has been sent often
enough. -/
lemma countP_visitEvents {now : Time} {new : List RouterEvent} (h : VisitEvents sr now req new) :
    new.countP (asksFor ip) ≤ if req.ip = ip then srArpreqMax - req.timesSent else 0 := by
  cases h with
  | rests => exact Nat.zero_le _
  | @asks iface i hmax hi =>
    by_cases hip : req.ip = ip
    · rw [if_pos hip]
      exact Nat.le_trans List.countP_le_length (Nat.sub_pos_of_lt hmax)
    · simp [asksFor_askEvent, hip]
  | @givesUp outcomes hgives heach =>
    have hzero : (reports req.packets outcomes ++ [RouterEvent.readFreed req.node]).countP
        (asksFor ip) = 0 := by
      refine List.countP_eq_zero.mpr fun e he => ?_
      rcases List.mem_append.mp he with he | he
      · rw [asksFor_reports heach e he]
        exact Bool.false_ne_true
      · obtain rfl := List.mem_singleton.mp he
        exact Bool.false_ne_true
    exact hzero.le.trans (Nat.zero_le _)

/-- An address that no request is for is not asked for. -/
lemma countP_sweep_eq_zero {requests : List SrArpreq} {parts : List (List RouterEvent)}
    (hparts : List.Forall₂ (fun req => VisitEvents sr (clock req.node).1 req) requests parts)
    (hip : ip ∉ requests.map SrArpreq.ip) : parts.flatten.countP (asksFor ip) = 0 := by
  induction hparts with
  | nil => rfl
  | @cons r new requests parts hnew _ ih =>
    rw [List.map_cons, List.mem_cons, not_or] at hip
    have hzero := @countP_visitEvents ip _ _ _ _ hnew
    rw [if_neg (Ne.symm hip.1)] at hzero
    rw [List.flatten_cons, List.countP_append, Nat.le_zero.mp hzero, ih hip.2]

/-- So a sweep asks for the address of a request as often as the request allows. -/
lemma countP_sweep {requests : List SrArpreq} {parts : List (List RouterEvent)}
    (hparts : List.Forall₂ (fun req => VisitEvents sr (clock req.node).1 req) requests parts)
    (hnodup : (requests.map SrArpreq.ip).Nodup) (hreq : req ∈ requests) :
    parts.flatten.countP (asksFor req.ip) ≤ srArpreqMax - req.timesSent := by
  induction hparts with
  | nil => exact absurd hreq List.not_mem_nil
  | @cons r new requests parts hnew hparts ih =>
    obtain ⟨hr, hnodup⟩ := List.nodup_cons.mp hnodup
    have hfirst := @countP_visitEvents req.ip _ _ _ _ hnew
    rw [List.flatten_cons, List.countP_append]
    rcases List.mem_cons.mp hreq with rfl | hreq
    · rw [if_pos rfl] at hfirst
      rw [countP_sweep_eq_zero hparts hr]
      exact hfirst
    · have hne : r.ip ≠ req.ip := fun heq => hr (List.mem_map.mpr ⟨req, hreq, heq.symm⟩)
      rw [if_neg hne] at hfirst
      rw [Nat.le_zero.mp hfirst, Nat.zero_add]
      exact ih hnodup hreq

/-- As long as a request is pending its address has been asked for as often as it says. -/
lemma countP_pending (hwf : sr.cache.WellFormed) (hreq : req ∈ sr.cache.requests)
    (hrun : ReflTransGen (PendingStep ip) sr mid) (hreq' : req' ∈ mid.cache.requests)
    (hnode : req'.node = req.node) : ∃ events, mid.log = sr.log ++ events ∧ mid.cache.WellFormed ∧
      req'.ip = req.ip ∧ req'.timesSent = req.timesSent + events.countP (asksFor req.ip) ∧
      (events.countP (asksFor req.ip) ≠ 0 → req'.timesSent ≤ srArpreqMax) := by
  obtain ⟨events, hcounted⟩ := counted_of_steps hwf (steps_of_pendingSteps hrun)
  obtain ⟨old, hold, hnode', hip, hsent, hmax⟩ :=
    hcounted.requests req' hreq' (hnode ▸ hwf.lt req hreq)
  obtain rfl := hwf.eq_of_node hold hreq (hnode'.symm.trans hnode)
  exact ⟨events, hcounted.log, hcounted.wellFormed, hip, hsent, hmax⟩

end Pending

/-- **Giving up is complete.**  From a reachable state in which a request is pending, in whatever
order packets are queued and sweeps made until another state in which it is still pending, its
address is asked for `SR_ARPREQ_MAX` times at most, what went before included; and so is it when a
sweep follows.  If this sweep is safe it comes to its end and gives up completely. -/
theorem giveUp_complete {sr₀ sr mid : SrInstance} {req req' : SrArpreq}
    (h₀ : sr₀.cache = srArpcacheInit)
    (hpast : ReflTransGen (fun s s' => ∃ e, ArpStep e s s') sr₀ sr) (hreq : req ∈ sr.cache.requests)
    (hrun : ReflTransGen (PendingStep req.ip) sr mid) (hreq' : req' ∈ mid.cache.requests)
    (hnode : req'.node = req.node) :
    (∃ events, mid.log = sr.log ++ events ∧
      events.countP (asksFor req.ip) ≤ srArpreqMax - req.timesSent) ∧
    ∀ (ctx : Surroundings) (curtime : Time) (clock : NodeId → Time × Time),
      SweepSafe clock (mid.expired curtime) → ∃ sr' events,
        srArpcacheTimeout ctx curtime clock mid = .ok sr' ∧ sr'.log = sr.log ++ events ∧
        events.countP (asksFor req.ip) ≤ srArpreqMax - req.timesSent ∧
        SweepComplete clock (mid.expired curtime) sr' := by
  have hwf := wellFormed_of_steps h₀ hpast
  obtain ⟨events, hlog, hwf', hip, hsent, hmax⟩ := countP_pending hwf hreq hrun hreq' hnode
  refine ⟨⟨events, hlog, by omega⟩, fun ctx curtime clock hsafe => ?_⟩
  have hexpired : (mid.expired curtime).cache.WellFormed := ⟨hwf'.ips, hwf'.nodes, hwf'.lt⟩
  obtain ⟨sr', hsweep, hcomplete⟩ := @srArpcacheSweepreqs_complete ctx _ _ hexpired hsafe
  obtain ⟨parts, hparts, hlog', -⟩ := hcomplete.visits
  have hcount := countP_sweep hparts hexpired.ips hreq'
  refine ⟨sr', events ++ parts.flatten, hsweep, ?_, ?_, hcomplete⟩
  · rw [hlog', ← List.append_assoc, ← hlog]
    rfl
  · rw [hip] at hcount
    rw [List.countP_append]
    omega

/-! ### A request alone on the queue -/

section Alone

variable {sr s' : SrInstance} {req : SrArpreq} {pkt : SrPacket} {i : SrIf} {ctx : Surroundings}
  {curtime : Time} {clock : NodeId → Time × Time}

/-- An empty cache stays empty. -/
lemma entries_srArpcacheExpire {cache : SrArpcache} (h : cache.entries = srArpcacheInit.entries)
    (curtime : Time) : (srArpcacheExpire cache curtime).entries = srArpcacheInit.entries := by
  simp only [srArpcacheExpire, h, srArpcacheInit, Vector.map_replicate, Bool.false_eq_true,
    false_and, if_false]

/-- A request that is alone on the queue, in a router that knows no address, for a packet that came
in on the interface `i` and is to go out of the interface `j`. -/
structure Alone (sr : SrInstance) (req : SrArpreq) (pkt : SrPacket) (i j : SrIf) : Prop where
  /-- The queue. -/
  requests : sr.cache.requests = [req]
  /-- Its node has been allocated. -/
  lt : req.node < sr.cache.nextNode
  /-- The packet. -/
  packets : req.packets = [pkt]
  /-- The ARP cache is empty. -/
  entries : sr.cache.entries = srArpcacheInit.entries
  /-- The incoming interface. -/
  sender : srGetInterface sr.cfg.ifList pkt.sender = some i
  /-- The outgoing interface. -/
  iface : srGetInterface sr.cfg.ifList pkt.iface = some j

variable {j : SrIf}

/-- The queue is well formed. -/
lemma Alone.wellFormed (h : Alone sr req pkt i j) (curtime : Time) :
    (sr.expired curtime).cache.WellFormed := by
  have hreq : (sr.expired curtime).cache.requests = [req] := h.requests
  refine ⟨?_, ?_, fun r hr => ?_⟩
  · rw [hreq]
    exact List.nodup_singleton _
  · rw [hreq]
    exact List.nodup_singleton _
  · rw [hreq] at hr
    obtain rfl := List.mem_singleton.mp hr
    exact h.lt

/-- Two seconds later the address is asked for once more. -/
lemma Alone.asks (h : Alone sr req pkt i j) (hmax : req.timesSent < srArpreqMax) : ∃ s',
    srArpcacheTimeout quietSurroundings (req.sent + 2)
        (fun _ => (req.sent + 2, req.sent + 2)) sr = .ok s' ∧
      Alone s' { req with sent := req.sent + 2, timesSent := req.timesSent + 1 } pkt i j := by
  have hmem : req ∈ (sr.expired (req.sent + 2)).cache.requests :=
    h.requests.symm ▸ List.mem_singleton.mpr rfl
  have hhead : req.packets.head? = some pkt := by
    rw [h.packets, List.head?_cons]
  have hvisit := @visitRequest_asks quietSurroundings _ _ (req.sent + 2) _
    (h.wellFormed (req.sent + 2)) hmem (srArpreqTo_lt req.sent) hmax pkt j hhead h.iface
  refine ⟨_, srArpcacheTimeout_of_visit h.requests hvisit, ?_, h.lt, h.packets,
    entries_srArpcacheExpire h.entries _, h.sender, h.iface⟩
  exact @requests_touch _ [] [] _ h.requests List.not_mem_nil List.not_mem_nil (req.sent + 2)

/-- In the end it has been asked for as often as may be. -/
lemma Alone.asked (h : Alone sr req pkt i j) {m : ℕ} (hm : req.timesSent + m = srArpreqMax) :
    ∃ mid req', ReflTransGen (PendingStep req.ip) sr mid ∧ Alone mid req' pkt i j ∧
      req'.node = req.node ∧ req'.ip = req.ip ∧ req'.timesSent = srArpreqMax := by
  induction m generalizing sr req with
  | zero => exact ⟨sr, req, .refl, h, rfl, rfl, hm⟩
  | succ m ih =>
    obtain ⟨s', hsweep, hs'⟩ := h.asks (by omega)
    obtain ⟨mid, req', hrun, hmid, hnode, hip, hsent⟩ := ih hs' (by simp only; omega)
    exact ⟨mid, req', .head (.sweep hsweep) hrun, hmid, hnode, hip, hsent⟩

/-- When only the request of the sender waits, and messages about its packet, all of it waits for
this sender. -/
lemma Alone.waiting_of_reported {mid s : SrInstance} {t : Time} {outcomes : List RouterEvent}
    (h : Alone mid req pkt i j) (hsrc : SrIpHdr.ipSrc pkt.buf = req.ip)
    (hreported : Reported (mid.expired t) s req.packets outcomes) :
    s.cache.waiting.filter (fun w => w.1 ≠ req.ip) = 0 := by
  refine Multiset.filter_eq_nil.mpr fun w hw => not_not.mpr ?_
  rw [hreported.waiting] at hw
  rcases Multiset.mem_add.mp hw with hw | hw
  · have hqueue : (mid.expired t).cache.requests = [req] := h.requests
    obtain ⟨r, hr, hip, -⟩ := mem_content.mp hw
    rw [hqueue] at hr
    obtain rfl := List.mem_singleton.mp hr
    exact hip.symm
  · obtain ⟨p, hp, hpsrc, -⟩ := mem_queuedBy_reports hreported.each hw
    rw [h.packets] at hp
    obtain rfl := List.mem_singleton.mp hp
    exact hpsrc.symm.trans hsrc

/-- A packet from the very address that does not answer: the message about it is put on the request
that is given up, and goes with it. -/
lemma Alone.loses {mid : SrInstance} {t : Time} (h : Alone mid req pkt i j) (hgives : GivesUp t req)
    (hsrc : SrIpHdr.ipSrc pkt.buf = req.ip) : ∃ s' message,
      srArpcacheTimeout quietSurroundings t (fun _ => (t, t)) mid = .ok s' ∧
      s'.log = mid.log ++ [.icmp pkt.buf pkt.sender icmpTypeDstunreachable 1,
        .queued req.ip message, .readFreed req.node] ∧ s'.cache.waiting = 0 := by
  have hwf := h.wellFormed t
  have hmem : req ∈ (mid.expired t).cache.requests := h.requests.symm ▸ List.mem_singleton.mpr rfl
  have hlookup : srArpcacheLookup (mid.expired t).cache (SrIpHdr.ipSrc pkt.buf) = none :=
    (srArpcacheLookup_congr (entries_srArpcacheExpire h.entries t) _).trans
    (srArpcacheLookup_init _)
  obtain ⟨s, hsend⟩ := @exists_sendUnreachable quietSurroundings req.packets (mid.expired t)
    fun p hp => by
      rw [h.packets] at hp
      obtain rfl := List.mem_singleton.mp hp
      exact ⟨i, h.sender⟩
  obtain ⟨outcomes, hreported⟩ := sendUnreachable_reported hwf hsend
  have hvisit := @visitRequest_givesUp quietSurroundings _ _ _ t _ hwf hmem hgives hsend
    hreported.grown.wellFormed
  obtain ⟨front, hmem', -⟩ := hreported.grown.requests req hmem
  have hempty := (hreported.grown.wellFormed.waiting_destroy hmem').trans
    (h.waiting_of_reported hsrc hreported)
  have heach := hreported.each
  have hlog := hreported.log
  rw [h.packets] at heach hlog
  obtain ⟨o, outcomes, ho, hnil, rfl⟩ := List.forall₂_cons_left_iff.mp heach
  obtain rfl := List.forall₂_nil_left_iff.mp hnil
  cases ho with
  | sent _ _ hfound =>
    rw [hlookup] at hfound
    cases hfound
  | @queued _ _ _ _ message _ _ _ _ =>
    refine ⟨_, message, @srArpcacheTimeout_of_visit quietSurroundings t (fun _ => (t, t)) mid _ _
      h.requests hvisit, ?_, hempty⟩
    simp only [SrInstance.record, hlog, hsrc, List.append_assoc]
    rfl

end Alone

/-- The packet that waits when `packet`, which came in on the only interface, has been queued. -/
def copiedPacket (packet : ByteMem) : SrPacket :=
  ⟨copied packet 28 fun _ => 0, 28, outerInterface.name, outerInterface.name⟩

/-- The router when a packet has been queued for the gateway. -/
def queuedRouter (packet : ByteMem) : SrInstance :=
  idleRouter.queuereq quietSurroundings.heap outerRoute.gw packet 28 outerInterface.name
    outerInterface.name

/-- One event leads there. -/
lemma steps_queuedRouter (packet : ByteMem) :
    ReflTransGen (fun s s' => ∃ e, ArpStep e s s') idleRouter (queuedRouter packet) :=
  .single ⟨.queue outerRoute.gw packet 28 outerInterface.name outerInterface.name,
    quietSurroundings, rfl⟩

/-- Its only request. -/
def queuedRequest (packet : ByteMem) : SrArpreq := ⟨0, outerRoute.gw, 0, 0, [copiedPacket packet]⟩

/-- It is alone. -/
lemma alone_queuedRequest (packet : ByteMem) : Alone (queuedRouter packet) (queuedRequest packet)
    (copiedPacket packet) outerInterface outerInterface :=
  ⟨rfl, Nat.zero_lt_one, rfl, rfl, rfl, rfl⟩

/-- A packet from 172.64.3.3 may be reported by a sweep. -/
lemma sweepSafe_of_alone {packet : ByteMem} {mid : SrInstance} {req : SrArpreq} {t : Time}
    (h : Alone mid req (copiedPacket packet) outerInterface outerInterface)
    (hsrc : SrIpHdr.ipSrc packet ≠ req.ip) (hgives : GivesUp t req) :
    SweepSafe (fun _ => (t, t)) (mid.expired t) := by
  have hqueue : (mid.expired t).cache.requests = [req] := h.requests
  constructor
  · intro before r behind hsplit _ pkt hpkt
    obtain ⟨rfl, hcons⟩ | ⟨-, hnil⟩ := List.append_eq_singleton_iff.mp (hsplit.symm.trans hqueue)
    · obtain ⟨rfl, rfl⟩ := List.cons.inj hcons
      rw [h.packets] at hpkt
      obtain rfl := List.mem_singleton.mp hpkt
      refine ⟨⟨outerInterface, h.sender⟩, fun _ r' hr' _ => ?_⟩
      obtain rfl := List.mem_singleton.mp hr'
      exact fun hip => hsrc ((ipSrc_copied (by decide)).symm.trans hip.symm)
    · cases hnil
  · intro r hr hnot
    rw [hqueue] at hr
    obtain rfl := List.mem_singleton.mp hr
    exact absurd hgives hnot

/-- The theorem when a packet from 172.64.3.3 has waited for the gateway for twelve seconds: it is
reported. -/
theorem giveUp_complete_waitingRouter : ∃ mid req' t sr' events,
    ReflTransGen (PendingStep outerRoute.gw)
      (queuedRouter (icmpMessage 8 0xac400303 0x08080808 7)) mid ∧
    req' ∈ mid.cache.requests ∧ GivesUp t req' ∧
    srArpcacheTimeout quietSurroundings t (fun _ => (t, t)) mid = .ok sr' ∧
    sr'.log = (queuedRouter (icmpMessage 8 0xac400303 0x08080808 7)).log ++ events ∧
    events.countP (asksFor outerRoute.gw) ≤ srArpreqMax ∧
    SweepComplete (fun _ => (t, t)) (mid.expired t) sr' := by
  obtain ⟨mid, req', hrun, halone, hnode, hip, hsent⟩ :=
    (alone_queuedRequest (icmpMessage 8 0xac400303 0x08080808 7)).asked (m := 5) rfl
  have hmem : req' ∈ mid.cache.requests := halone.requests.symm ▸ List.mem_singleton.mpr rfl
  have hgives : GivesUp (req'.sent + 2) req' := ⟨srArpreqTo_lt req'.sent, hsent.ge⟩
  have hsrc : SrIpHdr.ipSrc (icmpMessage 8 0xac400303 0x08080808 7) ≠ req'.ip := by
    rw [hip]
    decide +kernel
  obtain ⟨sr', events, hsweep, hlog, hcount, hcomplete⟩ := (giveUp_complete rfl
    (steps_queuedRouter (icmpMessage 8 0xac400303 0x08080808 7))
    (List.mem_singleton.mpr (Eq.refl (queuedRequest (icmpMessage 8 0xac400303 0x08080808 7)))) hrun
    hmem hnode).2 quietSurroundings (req'.sent + 2) _ (sweepSafe_of_alone halone hsrc hgives)
  exact ⟨mid, req', _, sr', events, hrun, hmem, hgives, hsweep, hlog, hcount, hcomplete⟩

/-- **A message that is lost.**  A packet from the gateway waits for the gateway, which does not
answer: the message about it is put on the request that is given up, and goes with it. -/
theorem giveUp_loses_message : ∃ sr mid sr' req req' t message,
    ReflTransGen (fun s s' => ∃ e, ArpStep e s s') idleRouter sr ∧ req ∈ sr.cache.requests ∧
    ReflTransGen (PendingStep req.ip) sr mid ∧ req' ∈ mid.cache.requests ∧ req'.node = req.node ∧
    GivesUp t req' ∧ srArpcacheTimeout quietSurroundings t (fun _ => (t, t)) mid = .ok sr' ∧
    (∃ pkt, sr'.log = mid.log ++ [.icmp pkt outerInterface.name icmpTypeDstunreachable 1,
      .queued req.ip message, .readFreed req.node]) ∧ sr'.cache.waiting = 0 ∧
    ¬ SweepComplete (fun _ => (t, t)) (mid.expired t) sr' := by
  set packet := icmpMessage 8 0xac400302 0x08080808 7 with hpacket
  obtain ⟨mid, req', hrun, halone, hnode, hip, hsent⟩ :=
    (alone_queuedRequest packet).asked (m := 5) rfl
  have hmem : req' ∈ mid.cache.requests := halone.requests.symm ▸ List.mem_singleton.mpr rfl
  have hgives : GivesUp (req'.sent + 2) req' := ⟨srArpreqTo_lt req'.sent, hsent.ge⟩
  have hsrc : SrIpHdr.ipSrc (copiedPacket packet).buf = req'.ip :=
    (ipSrc_copied (by decide)).trans (hip ▸ by decide +kernel)
  obtain ⟨sr', message, hsweep, hlog, hempty⟩ := halone.loses hgives hsrc
  refine ⟨queuedRouter packet, mid, sr', queuedRequest packet, req', _, message,
    steps_queuedRouter packet, List.mem_singleton.mpr rfl, hrun, hmem, hnode, hgives, hsweep,
    ⟨(copiedPacket packet).buf, hip ▸ hnode ▸ hlog⟩, hempty, fun hcomplete => ?_⟩
  -- the log tells that a message waits
  obtain ⟨parts, -, hlog', hle⟩ := hcomplete.visits
  have hparts := List.append_cancel_left (hlog.symm.trans hlog')
  rw [← hparts] at hle
  exact absurd (Multiset.le_zero.mp (hempty ▸ hle)) (Multiset.singleton_ne_zero _)

end NatRouter
