import NatRouter.Arp.SweepReads

/-!
# The messages about a request that is given up

When `sr_handle_arpreq_queue` gives a request up it calls `sr_send_icmp` for every packet on it, and
each message is either sent at once or put on the ARP queue, under the address of the sender of the
packet (`MessageOutcome`).  The queue changes under the loop: a message may open a new request, or
join the packets of any request that is there, that which is given up included (`Grown`).
-/

namespace NatRouter

open ByteMemory GroupedQueue

/-- What becomes of the host-unreachable message about a packet: it is sent to its destination in a
frame, or it waits for the Ethernet address of its destination. -/
inductive MessageOutcome (sr : SrInstance) (pkt : SrPacket) : RouterEvent → Prop
  /-- The address is in the ARP cache. -/
  | sent {i : SrIf} {loadLen : UInt32} {ipPacket : ByteMem} {arpentry : SrArpentry}
      (hi : srGetInterface sr.cfg.ifList pkt.sender = some i)
      (hmessage : icmpIppacket (some i) pkt.buf icmpTypeDstunreachable 1 = .ok (loadLen, ipPacket))
      (hlookup : srArpcacheLookup sr.cache (SrIpHdr.ipSrc pkt.buf) = some arpentry) :
      MessageOutcome sr pkt (.send none
        (bytes (srCreateEtherframe loadLen ipPacket arpentry.mac i.addr ethertypeIp)
          (frameLen loadLen).toNat) pkt.sender)
  /-- It is not. -/
  | queued {i : SrIf} {loadLen : UInt32} {ipPacket junk : ByteMem} {newPkt : SrPacket}
      (hi : srGetInterface sr.cfg.ifList pkt.sender = some i)
      (hmessage : icmpIppacket (some i) pkt.buf icmpTypeDstunreachable 1 = .ok (loadLen, ipPacket))
      (hlookup : srArpcacheLookup sr.cache (SrIpHdr.ipSrc pkt.buf) = none)
      (hcopy : newPacket junk ipPacket loadLen pkt.sender pkt.sender = some newPkt) :
      MessageOutcome sr pkt (.queued (SrIpHdr.ipSrc pkt.buf) newPkt)

/-- The entries of the log about some packets: for each the message and what becomes of it. -/
def reports (packets : List SrPacket) (outcomes : List RouterEvent) : List RouterEvent :=
  (packets.zip outcomes).flatMap fun x => [.icmp x.1.buf x.1.sender icmpTypeDstunreachable 1, x.2]

@[simp] lemma reports_cons (pkt : SrPacket) (packets : List SrPacket) (o : RouterEvent)
    (outcomes : List RouterEvent) : reports (pkt :: packets) (o :: outcomes) =
      .icmp pkt.buf pkt.sender icmpTypeDstunreachable 1 :: o :: reports packets outcomes := rfl

/-! ### A queue that grows -/

/-- The requests of one queue are on the other, with the packets in front that `P` allows, and the
others there are new. -/
structure Grown (P : UInt32 → SrPacket → Prop) (cache cache' : SrArpcache) : Prop where
  /-- The resolved addresses are the same. -/
  entries : cache'.entries = cache.entries
  /-- The queue is well formed. -/
  wellFormed : cache'.WellFormed
  /-- Every request is there still. -/
  requests : ∀ req ∈ cache.requests, ∃ front,
    { req with packets := front ++ req.packets } ∈ cache'.requests ∧ ∀ pkt ∈ front, P req.ip pkt
  /-- A request that is not new was there before. -/
  old : ∀ req' ∈ cache'.requests, req'.node < cache.nextNode → ∃ req ∈ cache.requests,
    req'.node = req.node ∧ req'.ip = req.ip ∧ req'.timesSent = req.timesSent
  /-- Allocations go on. -/
  nextNode : cache.nextNode ≤ cache'.nextNode

section Grown

variable {P P' : UInt32 → SrPacket → Prop} {cache cache' cache'' : SrArpcache}

/-- Nothing happens. -/
lemma Grown.refl (h : cache.WellFormed) : Grown P cache cache :=
  ⟨rfl, h, fun _ hreq => ⟨[], hreq, fun _ hpkt => absurd hpkt List.not_mem_nil⟩,
    fun req hreq _ => ⟨req, hreq, rfl, rfl, rfl⟩, Nat.le_refl _⟩

/-- One after the other. -/
lemma Grown.trans (h : Grown P cache cache') (h' : Grown P cache' cache'') :
    Grown P cache cache'' where
  entries := h'.entries.trans h.entries
  wellFormed := h'.wellFormed
  requests := by
    intro req hreq
    obtain ⟨front, hmem, hfront⟩ := h.requests req hreq
    obtain ⟨front', hmem', hfront'⟩ := h'.requests _ hmem
    refine ⟨front' ++ front, ?_, fun pkt hpkt => ?_⟩
    · rw [List.append_assoc]
      exact hmem'
    · exact (List.mem_append.mp hpkt).elim (hfront' pkt) (hfront pkt)
  old := by
    intro req'' hreq'' hlt
    obtain ⟨req', hreq', hnode', hip', hsent'⟩ :=
      h'.old req'' hreq'' (Nat.lt_of_lt_of_le hlt h.nextNode)
    obtain ⟨req, hreq, hnode, hip, hsent⟩ := h.old req' hreq' (hnode' ▸ hlt)
    exact ⟨req, hreq, hnode'.trans hnode, hip'.trans hip, hsent'.trans hsent⟩
  nextNode := Nat.le_trans h.nextNode h'.nextNode

/-- More may be allowed. -/
lemma Grown.mono (h : Grown P cache cache') (hP : ∀ ip pkt, P ip pkt → P' ip pkt) :
    Grown P' cache cache' where
  entries := h.entries
  wellFormed := h.wellFormed
  requests := by
    intro req hreq
    obtain ⟨front, hmem, hfront⟩ := h.requests req hreq
    exact ⟨front, hmem, fun pkt hpkt => hP _ _ (hfront pkt hpkt)⟩
  old := h.old
  nextNode := h.nextNode

/-- **`sr_arpcache_queuereq` lets the queue grow**, by the packet it is given. -/
lemma grown_queuereq (h : cache.WellFormed) (junk : ByteMem) (ip : UInt32) (packet : ByteMem)
    (packetLen : UInt32) (iface sender : IfName) :
    Grown (fun ip' pkt => ip' = ip ∧ newPacket junk packet packetLen iface sender = some pkt) cache
      (srArpcacheQueuereq cache junk ip packet packetLen iface sender) where
  entries := rfl
  wellFormed := h.queuereq junk ip packet packetLen iface sender
  requests := by
    intro req hreq
    have hmem : req ∈ withRequest cache ip := by
      unfold withRequest
      split
      · exact hreq
      · exact List.mem_cons_of_mem _ hreq
    unfold srArpcacheQueuereq
    cases hpkt : newPacket junk packet packetLen iface sender with
    | none => exact ⟨[], hmem, fun pkt hpkt => absurd hpkt List.not_mem_nil⟩
    | some newPkt =>
      have hpushed := @mem_modifyFirst _ _ (fun r : SrArpreq => decide (r.ip = ip))
        (fun r => { r with packets := newPkt :: r.packets }) req hmem ?_
      · by_cases hip : req.ip = ip
        · rw [if_pos (decide_eq_true hip)] at hpushed
          refine ⟨[newPkt], hpushed, fun pkt hmem' => ?_⟩
          obtain rfl := List.mem_singleton.mp hmem'
          exact ⟨hip, rfl⟩
        · rw [if_neg (by simpa using hip)] at hpushed
          exact ⟨[], hpushed, fun pkt hpkt => absurd hpkt List.not_mem_nil⟩
      · intro hip req' hreq' hip'
        exact List.inj_on_of_nodup_map (h.withRequest_nodup ip).1 hreq' hmem
          ((of_decide_eq_true hip').trans (of_decide_eq_true hip).symm)
  old := by
    intro req' hreq' hlt
    have hmap := map_requests_queuereq junk ip packet packetLen iface sender cache
      (fun req => (req.node, req.ip, req.timesSent)) fun _ _ => rfl
    have htriple : (req'.node, req'.ip, req'.timesSent) ∈
        (withRequest cache ip).map fun req => (req.node, req.ip, req.timesSent) :=
      hmap ▸ List.mem_map_of_mem hreq'
    obtain ⟨req, hreq, heq⟩ := List.mem_map.mp htriple
    obtain ⟨hnode, hip, hsent⟩ : req.node = req'.node ∧ req.ip = req'.ip ∧
        req.timesSent = req'.timesSent := by simpa using heq
    refine ⟨req, ?_, hnode.symm, hip.symm, hsent.symm⟩
    unfold withRequest at hreq
    split at hreq
    · exact hreq
    · rcases List.mem_cons.mp hreq with rfl | hreq
      · rw [← hnode] at hlt
        exact absurd hlt (Nat.lt_irrefl _)
      · exact hreq
  nextNode := Nat.le_succ _

end Grown

/-! ### The messages -/

/-- A packet that may be put on the queue by the messages about some packets: it waits for the
sender of one of them, and can be sent out of an interface. -/
def IsMessage (sr : SrInstance) (packets : List SrPacket) (ip : UInt32) (message : SrPacket) :
    Prop :=
  (∃ pkt ∈ packets, SrIpHdr.ipSrc pkt.buf = ip ∧ srArpcacheLookup sr.cache ip = none) ∧
    ∃ i, srGetInterface sr.cfg.ifList message.iface = some i

/-- From `s` to `s'` the messages about some packets are made, and `outcomes` is what becomes of
them. -/
structure Reported (s s' : SrInstance) (packets : List SrPacket) (outcomes : List RouterEvent) :
    Prop where
  /-- Every message is sent or waits. -/
  each : List.Forall₂ (MessageOutcome s) packets outcomes
  /-- The log tells so. -/
  log : s'.log = s.log ++ reports packets outcomes
  /-- The interfaces and routes are the same. -/
  cfg : s'.cfg = s.cfg
  /-- The queue grows by the messages. -/
  grown : Grown (IsMessage s packets) s.cache s'.cache
  /-- They are what waits in addition. -/
  waiting : s'.cache.waiting = s.cache.waiting + queuedBy (reports packets outcomes)

/-- What becomes of a message depends on the interfaces and the resolved addresses. -/
lemma MessageOutcome.congr {s s' : SrInstance} {pkt : SrPacket} {o : RouterEvent}
    (hcfg : s'.cfg = s.cfg) (hentries : s'.cache.entries = s.cache.entries)
    (h : MessageOutcome s pkt o) : MessageOutcome s' pkt o := by
  cases h with
  | sent hi hmessage hlookup =>
    exact .sent (hcfg ▸ hi) hmessage ((srArpcacheLookup_congr hentries _).trans hlookup)
  | queued hi hmessage hlookup hcopy =>
    exact .queued (hcfg ▸ hi) hmessage ((srArpcacheLookup_congr hentries _).trans hlookup) hcopy

section Messages

variable {ctx : Surroundings} {s s' s'' : SrInstance}

/-- No packet, no message. -/
lemma Reported.refl (h : s.cache.WellFormed) : Reported s s [] [] :=
  ⟨.nil, (List.append_nil _).symm, rfl, .refl h, (add_zero _).symm⟩

/-- One after the other. -/
lemma Reported.cons {pkt : SrPacket} {packets : List SrPacket} {o : RouterEvent}
    {outcomes : List RouterEvent} (h : Reported s s' [pkt] [o])
    (h' : Reported s' s'' packets outcomes) :
    Reported s s'' (pkt :: packets) (o :: outcomes) where
  each := by
    refine .cons (List.forall₂_cons.mp h.each).1 (h'.each.imp fun _ _ ho => ?_)
    exact ho.congr h.cfg.symm h.grown.entries.symm
  log := by
    rw [h'.log, h.log, List.append_assoc]
    rfl
  cfg := h'.cfg.trans h.cfg
  grown := by
    refine (h.grown.mono ?_).trans (h'.grown.mono ?_)
    · rintro ip message ⟨⟨p, hp, hsrc⟩, hiface⟩
      obtain rfl := List.mem_singleton.mp hp
      exact ⟨⟨p, List.mem_cons_self, hsrc⟩, hiface⟩
    · rintro ip message ⟨⟨p, hp, hsrc, hlookup⟩, hiface⟩
      refine ⟨⟨p, List.mem_cons_of_mem _ hp, hsrc, ?_⟩, h.cfg ▸ hiface⟩
      exact (srArpcacheLookup_congr h.grown.entries ip).symm.trans hlookup
  waiting := by
    have hsplit : queuedBy (reports (pkt :: packets) (o :: outcomes)) =
        queuedBy (reports [pkt] [o]) + queuedBy (reports packets outcomes) := by
      rw [← queuedBy_append]
      rfl
    rw [h'.waiting, h.waiting, hsplit, add_assoc]

/-- **One message**: it is sent, or it waits. -/
lemma srSendIcmp_reported (hwf : s.cache.WellFormed) {pkt : SrPacket}
    (h : srSendIcmp ctx s pkt.buf pkt.sender icmpTypeDstunreachable 1 = .ok s') :
    ∃ o, Reported s s' [pkt] [o] := by
  obtain ⟨⟨loadLen, ipPacket⟩, hmessage, h⟩ := bind_eq_ok.mp h
  obtain ⟨i, hi⟩ := interface_of_icmpIppacket (by decide) hmessage
  rw [hi] at hmessage
  have hlen := icmpIppacket_len (by decide) hmessage
  cases hlookup : srArpcacheLookup s.cache (SrIpHdr.ipSrc pkt.buf) with
  | some entry =>
    simp only [SrInstance.record, hlookup] at h
    obtain ⟨i', hi', h⟩ := bind_eq_ok.mp h
    obtain rfl : i = i' := Option.some.inj (hi.symm.trans (deref_eq_ok.mp hi'))
    obtain rfl := Except.ok.inj h
    refine ⟨_, .cons (.sent hi hmessage hlookup) .nil, ?_, rfl, .refl hwf, (add_zero _).symm⟩
    simp only [srSendPacket, SrInstance.record, List.append_assoc]
    rfl
  | none =>
    simp only [SrInstance.record, hlookup] at h
    obtain rfl := Except.ok.inj h
    have hcopy : newPacket (ctx.heap s.cache.nextNode) ipPacket loadLen pkt.sender pkt.sender =
        some ⟨copied ipPacket loadLen.toNat (ctx.heap s.cache.nextNode), loadLen,
          copyIfName pkt.sender, copyIfName pkt.sender⟩ := if_pos (hlen ▸ by decide)
    refine ⟨_, .cons (.queued hi hmessage hlookup hcopy) .nil, ?_, rfl, ?_, ?_⟩
    · simp only [SrInstance.queuereq, hcopy, List.append_assoc]
      rfl
    · refine (grown_queuereq hwf _ _ _ _ _ _).mono ?_
      rintro ip message ⟨rfl, hmsg⟩
      rw [hcopy] at hmsg
      obtain rfl := Option.some.inj hmsg
      exact ⟨⟨pkt, List.mem_singleton.mpr rfl, rfl, hlookup⟩, i,
        (srGetInterface_copyIfName _ _).trans hi⟩
    · have hwaiting := waiting_srArpcacheQueuereq (ctx.heap s.cache.nextNode)
        (SrIpHdr.ipSrc pkt.buf)
        ipPacket loadLen pkt.sender pkt.sender s.cache
      rw [hcopy] at hwaiting
      exact hwaiting

/-- **The messages about the packets of a request**, one for each. -/
theorem sendUnreachable_reported (hwf : s.cache.WellFormed) {packets : List SrPacket}
    (h : sendUnreachable ctx packets s = .ok s') : ∃ outcomes, Reported s s' packets outcomes := by
  induction packets generalizing s with
  | nil =>
    obtain rfl : s = s' := Except.ok.inj h
    exact ⟨[], .refl hwf⟩
  | cons curr rest ih =>
    obtain ⟨mid, hcurr, hrest⟩ := bind_eq_ok.mp h
    obtain ⟨o, ho⟩ := srSendIcmp_reported hwf hcurr
    obtain ⟨outcomes, houtcomes⟩ := ih ho.grown.wellFormed hrest
    exact ⟨o :: outcomes, ho.cons houtcomes⟩

end Messages

end NatRouter
