import NatRouter.Arp.Reports
import NatRouter.Vns.ArpAnswers

/-!
# How often an address is asked for

The router asks for the Ethernet address of an IP address by a broadcast, which is seen in the frame
(`asksFor`).  Only `sr_handle_arpreq_queue` sends such a frame, and it notes so at the request.  So
as long as a request is on the queue its `times_sent` grows by the number of broadcasts
(`ArpStep.counted`), and since it stops at `SR_ARPREQ_MAX` there are no more than that.
-/

namespace NatRouter

open ByteMemory GroupedQueue Relation

/-- The entry is a frame with an ARP request for `ip`. -/
def asksFor (ip : UInt32) : RouterEvent → Bool
  | .send _ frame _ => load16 (ofBytes frame) 12 = htons ethertypeArp ∧
      SrArpPacket.arOp (frameLoad (ofBytes frame)) = htons arpOpRequest ∧
      SrArpPacket.arTip (frameLoad (ofBytes frame)) = ip
  | _ => false

/-! ### Frames -/

section Frames

variable {ip : UInt32} {origin : Option SrPacket} {iface : IfName}

/-- A frame with an IP packet is no ARP request, however long it is. -/
lemma asksFor_ip (len : UInt32) (load : ByteMem) (dhost shost : Mac) (n : ℕ) :
    asksFor ip
        (.send origin (bytes (srCreateEtherframe len load dhost shost ethertypeIp) n) iface) =
      false := by
  refine decide_eq_false fun hasks => ?_
  have htype := hasks.1
  by_cases hn : 14 ≤ n
  · have hsame :
        load16 (ofBytes (bytes (srCreateEtherframe len load dhost shost ethertypeIp) n)) 12 =
        htons ethertypeIp :=
      (load16_congr fun j _ hj => ofBytes_bytes (by omega)).trans load16_srCreateEtherframe
    rw [hsame] at htype
    exact absurd htype (by decide)
  · -- the second byte of the type is missing
    have hmissing :
        ofBytes (bytes (srCreateEtherframe len load dhost shost ethertypeIp) n) (12 + 1) = 0 := by
      simp [ofBytes, bytes, show n ≤ 13 by omega]
    have hbyte := store16_load16_apply (fun _ => 0)
      (ofBytes (bytes (srCreateEtherframe len load dhost shost ethertypeIp) n)) 0 12 Nat.one_lt_two
    rw [htype, hmissing] at hbyte
    exact absurd hbyte (by decide)

/-- A frame with an ARP packet of 28 bytes asks for its target if it is a request. -/
lemma asksFor_arp (type : UInt16) (sha tha : Mac) (sip tip : UInt32) (dhost shost : Mac) :
    asksFor ip (.send origin (bytes (srCreateEtherframe sizeofArpPacket
      (srCreateArppacket type sha sip tha tip) dhost shost ethertypeArp)
        (frameLen sizeofArpPacket).toNat) iface) = decide (type = arpOpRequest ∧ tip = ip) := by
  set packet := srCreateArppacket type sha sip tha tip with hpacket
  set frame := srCreateEtherframe sizeofArpPacket packet dhost shost ethertypeArp with hframe
  have hbytes : ∀ k < 42, ofBytes (bytes frame 42) k = frame k := fun k hk => ofBytes_bytes hk
  have hload : ∀ k < 28, frameLoad (ofBytes (bytes frame 42)) k = packet k := fun k hk =>
    (hbytes _ (by unfold sizeofEthernetHdr; omega)).trans (frameLoad_srCreateEtherframe hk)
  have htype : load16 (ofBytes (bytes frame 42)) 12 = htons ethertypeArp :=
    (load16_congr fun j _ hj => hbytes j (by omega)).trans load16_srCreateEtherframe
  have hop : SrArpPacket.arOp (frameLoad (ofBytes (bytes frame 42))) = htons type :=
    (load16_congr fun j _ hj => hload j (by omega)).trans (arOp_srCreateArppacket type)
  have htip : SrArpPacket.arTip (frameLoad (ofBytes (bytes frame 42))) = tip :=
    (load32_congr fun j _ hj => hload j (by omega)).trans (arTip_srCreateArppacket type)
  refine decide_eq_decide.mpr ?_
  have hlen : (frameLen sizeofArpPacket).toNat = 42 := by decide
  rw [hlen, htype, hop, htip, htons_inj, htons_inj]
  exact and_iff_right rfl

end Frames

/-! ### A visit -/

/-- The frame in which the router asks for the address of `ip` out of the interface `i`. -/
def askEvent (i : SrIf) (iface : IfName) (ip : UInt32) : RouterEvent :=
  .send none (bytes (srCreateEtherframe sizeofArpPacket
    (srCreateArppacket arpOpRequest i.addr i.ip etherBroadcastAddr ip) etherBroadcastAddr i.addr
    ethertypeArp) (frameLen sizeofArpPacket).toNat) iface

/-- It asks for that address and no other. -/
lemma asksFor_askEvent (i : SrIf) (iface : IfName) (ip ip' : UInt32) :
    asksFor ip' (askEvent i iface ip) = decide (ip = ip') :=
  (asksFor_arp ..).trans (decide_eq_decide.mpr (and_iff_right rfl))

section Visit

variable {ctx : Surroundings} {s s' mid : SrInstance} {now later : Time} {req : SrArpreq}

/-- What `sr_send_arp` sends. -/
lemma srSendArp_eq {interface : IfName} {arpType : UInt16} {mac : Mac} {ip : UInt32}
    (h : srSendArp s interface arpType mac ip = .ok s') :
    ∃ i, srGetInterface s.cfg.ifList interface = some i ∧ s' = srSendPacket s none
      (srCreateEtherframe sizeofArpPacket (srCreateArppacket arpType i.addr i.ip mac ip) mac i.addr
        ethertypeArp) (frameLen sizeofArpPacket) interface := by
  obtain ⟨i, hi, h⟩ := bind_eq_ok.mp h
  exact ⟨i, deref_eq_ok.mp hi, (Except.ok.inj h).symm⟩

/-- **What a visit of a request does**: it leaves the request alone, it asks once more, or it gives
the request up. -/
lemma srHandleArpreqQueue_cases {node : NodeId}
    (h : srHandleArpreqQueue ctx now later node s = .ok s') :
    ∃ req ∈ s.cache.requests, req.node = node ∧
      (¬ srArpreqTo < now - req.sent ∧ s' = s ∨
        (∃ head i, req.timesSent < srArpreqMax ∧ req.packets.head? = some head ∧
          srGetInterface s.cfg.ifList head.iface = some i ∧
          s' = { s.record [askEvent i head.iface req.ip] with cache := s.cache.touch node later }) ∨
        GivesUp now req ∧ ∃ mid, sendUnreachable ctx req.packets s = .ok mid ∧
          s' = { mid with cache := srArpreqDestroy mid.cache node }) := by
  unfold srHandleArpreqQueue at h
  split at h
  · cases h
  · rename_i req hfind
    refine ⟨req, List.mem_of_find?_eq_some hfind, by simpa using List.find?_some hfind, ?_⟩
    split_ifs at h with hdue hmax
    · obtain ⟨mid, hsend, h⟩ := bind_eq_ok.mp h
      exact .inr (.inr ⟨⟨hdue, hmax⟩, mid, hsend, (Except.ok.inj h).symm⟩)
    · obtain ⟨head, hhead, h⟩ := bind_eq_ok.mp h
      obtain ⟨mid, hsend, h⟩ := bind_eq_ok.mp h
      obtain ⟨i, hi, rfl⟩ := srSendArp_eq hsend
      exact .inr (.inl ⟨head, i, Nat.not_le.mp hmax, deref_eq_ok.mp hhead, hi,
        (Except.ok.inj h).symm⟩)
    · exact .inl ⟨hdue, (Except.ok.inj h).symm⟩

end Visit

/-! ### The count -/

/-- From `s` to `s'` the router has done what `events` says, and the requests that were on the queue
before and are on it still count the frames in which their address was asked for. -/
structure Counted (s s' : SrInstance) (events : List RouterEvent) : Prop where
  /-- The entries of the log. -/
  log : s'.log = s.log ++ events
  /-- The queue is well formed. -/
  wellFormed : s'.cache.WellFormed
  /-- Allocations go on. -/
  nextNode : s.cache.nextNode ≤ s'.cache.nextNode
  /-- The requests. -/
  requests : ∀ req' ∈ s'.cache.requests, req'.node < s.cache.nextNode → ∃ req ∈ s.cache.requests,
    req'.node = req.node ∧ req'.ip = req.ip ∧
      req'.timesSent = req.timesSent + events.countP (asksFor req.ip) ∧
      (events.countP (asksFor req.ip) ≠ 0 → req'.timesSent ≤ srArpreqMax)

section Counted

variable {s s' s'' : SrInstance} {events events' : List RouterEvent}

/-- Nothing happens. -/
lemma Counted.refl (h : s.cache.WellFormed) : Counted s s [] :=
  ⟨(List.append_nil _).symm, h, Nat.le_refl _,
    fun req hreq _ => ⟨req, hreq, rfl, rfl, rfl, fun hne => absurd rfl hne⟩⟩

/-- One after the other. -/
lemma Counted.trans (h : Counted s s' events) (h' : Counted s' s'' events') :
    Counted s s'' (events ++ events') := by
  refine ⟨by rw [h'.log, h.log, List.append_assoc], h'.wellFormed,
    Nat.le_trans h.nextNode h'.nextNode, ?_⟩
  intro req'' hreq'' hlt
  obtain ⟨req', hreq', hnode', hip', hsent', hmax'⟩ :=
    h'.requests req'' hreq'' (Nat.lt_of_lt_of_le hlt h.nextNode)
  obtain ⟨req, hreq, hnode, hip, hsent, hmax⟩ := h.requests req' hreq' (hnode' ▸ hlt)
  rw [hip] at hsent' hmax' hip'
  refine ⟨req, hreq, hnode'.trans hnode, hip', ?_, fun hne => ?_⟩
  · rw [List.countP_append, hsent', hsent, Nat.add_assoc]
  · rw [List.countP_append] at hne
    by_cases hzero : events'.countP (asksFor req.ip) = 0
    · rw [hsent', hzero]
      exact hmax fun hzero' => hne (by rw [hzero, hzero'])
    · exact hmax' hzero

/-- Where no address is asked for, the counters are to stay. -/
lemma Counted.silent (hlog : s'.log = s.log ++ events) (hwf : s'.cache.WellFormed)
    (hnext : s.cache.nextNode ≤ s'.cache.nextNode)
    (hevents : ∀ ip, ∀ e ∈ events, asksFor ip e = false)
    (hold : ∀ req' ∈ s'.cache.requests, req'.node < s.cache.nextNode → ∃ req ∈ s.cache.requests,
      req'.node = req.node ∧ req'.ip = req.ip ∧ req'.timesSent = req.timesSent) :
    Counted s s' events := by
  refine ⟨hlog, hwf, hnext, fun req' hreq' hlt => ?_⟩
  obtain ⟨req, hreq, hnode, hip, hsent⟩ := hold req' hreq' hlt
  have hzero : events.countP (asksFor req.ip) = 0 :=
    List.countP_eq_zero.mpr fun e he => by rw [hevents req.ip e he]; exact Bool.false_ne_true
  exact ⟨req, hreq, hnode, hip, by rw [hzero, hsent, Nat.add_zero], fun hne => absurd hzero hne⟩

end Counted

/-! ### The events -/

section Events

variable {ctx : Surroundings} {s s' : SrInstance}

/-- The messages about packets ask for no address. -/
lemma asksFor_reports {packets : List SrPacket} {outcomes : List RouterEvent} {ip : UInt32}
    (h : List.Forall₂ (MessageOutcome s) packets outcomes) :
    ∀ e ∈ reports packets outcomes, asksFor ip e = false := by
  induction h with
  | nil => exact fun e he => absurd he List.not_mem_nil
  | cons ho _ ih =>
    rw [reports_cons]
    refine List.forall_mem_cons.mpr ⟨rfl, List.forall_mem_cons.mpr ⟨?_, ih⟩⟩
    cases ho with
    | sent => exact asksFor_ip ..
    | queued => rfl

/-- `sr_handle_arp` asks for no address, and adds no request. -/
lemma srHandleArp_silent {now : Time} {packet : ByteMem} {interface : IfName}
    (h : srHandleArp s now packet interface = .ok s') :
    ∃ events, s'.log = s.log ++ events ∧ (∀ ip, ∀ e ∈ events, asksFor ip e = false) ∧
      s'.cache.requests ⊆ s.cache.requests ∧ s'.cache.nextNode = s.cache.nextNode := by
  have hunlink : (srArpcacheInsert s.cache now (SrArpPacket.arSha packet)
      (SrArpPacket.arSip packet)).2.requests ⊆ s.cache.requests := List.eraseP_subset
  have hnone : ∀ ip : UInt32, ∀ e ∈ ([] : List RouterEvent), asksFor ip e = false :=
    fun _ e he => absurd he List.not_mem_nil
  unfold srHandleArp at h
  split_ifs at h
  · simp only at h
    split_ifs at h
    · -- a request is answered
      obtain ⟨i, -, rfl⟩ := srSendArp_eq h
      refine ⟨_, rfl, fun ip e he => ?_, hunlink, rfl⟩
      obtain rfl := List.mem_singleton.mp he
      exact (asksFor_arp ..).trans (decide_eq_false fun hop => absurd hop.1 (by decide))
    · split at h
      · -- the packets that waited are sent
        obtain ⟨mid, hflush, h⟩ := bind_eq_ok.mp h
        obtain ⟨rfl, -⟩ := flushPackets_eq hflush
        obtain rfl := Except.ok.inj h
        refine ⟨_, rfl, fun ip e he => ?_, List.Subset.trans List.eraseP_subset hunlink, rfl⟩
        obtain ⟨pkt, -, rfl⟩ := List.mem_map.mp he
        exact asksFor_ip ..
      · obtain rfl := Except.ok.inj h
        exact ⟨[], (List.append_nil _).symm, hnone, hunlink, rfl⟩
    · obtain rfl := Except.ok.inj h
      exact ⟨[], (List.append_nil _).symm, hnone, List.Subset.refl _, rfl⟩
  · obtain rfl := Except.ok.inj h
    exact ⟨[], (List.append_nil _).symm, hnone, List.Subset.refl _, rfl⟩

/-- A visit of a request counts the frame that it sends. -/
lemma srHandleArpreqQueue_counted (hwf : s.cache.WellFormed) {now later : Time} {node : NodeId}
    (h : srHandleArpreqQueue ctx now later node s = .ok s') : ∃ events, Counted s s' events := by
  obtain ⟨req, hreq, rfl, ⟨-, rfl⟩ | ⟨head, i, hmax, -, -, rfl⟩ | ⟨-, mid, hsend, rfl⟩⟩ :=
    srHandleArpreqQueue_cases h
  · exact ⟨[], .refl hwf⟩
  · refine ⟨_, rfl, hwf.touch req.node later, Nat.le_refl _, fun req' hreq' _ => ?_⟩
    obtain ⟨old, hold, rfl⟩ := List.mem_map.mp hreq'
    by_cases hnode : old.node = req.node
    · obtain rfl := hwf.eq_of_node hold hreq hnode
      have hone : [askEvent i head.iface old.ip].countP (asksFor old.ip) = 1 := by
        simp [asksFor_askEvent]
      rw [if_pos rfl]
      exact ⟨old, hold, rfl, rfl, by rw [hone], fun _ => hmax⟩
    · have hip : req.ip ≠ old.ip := fun hip =>
        hnode (congrArg SrArpreq.node (hwf.eq_of_ip hold hreq hip.symm))
      have hzero : [askEvent i head.iface req.ip].countP (asksFor old.ip) = 0 := by
        simp [asksFor_askEvent, hip]
      rw [if_neg hnode]
      exact ⟨old, hold, rfl, rfl, by rw [hzero, Nat.add_zero], fun hne => absurd hzero hne⟩
  · obtain ⟨outcomes, hreported⟩ := sendUnreachable_reported hwf hsend
    refine ⟨_, .silent hreported.log (hreported.grown.wellFormed.destroy _) hreported.grown.nextNode
      (fun ip => asksFor_reports hreported.each) fun req' hreq' hlt => ?_⟩
    exact hreported.grown.old req' (List.eraseP_subset hreq') hlt

/-- **Every event** counts the frames in which the address of a request that stays is asked for. -/
theorem ArpStep.counted {e : ArpEvent} (hwf : s.cache.WellFormed) (h : ArpStep e s s') :
    ∃ events, Counted s s' events := by
  have hwf' := (h.accounted_iff hwf).1
  obtain ⟨ctx, h⟩ := h
  cases e with
  | queue ip packet packetLen iface sender =>
    obtain rfl := Except.ok.inj h
    have hgrown := grown_queuereq hwf (ctx.heap s.cache.nextNode) ip packet packetLen iface sender
    refine ⟨_, .silent rfl hwf' hgrown.nextNode (fun ip' e he => ?_) hgrown.old⟩
    obtain ⟨pkt, -, rfl⟩ := List.mem_map.mp he
    rfl
  | expire curtime =>
    obtain rfl := Except.ok.inj h
    exact ⟨[], (List.append_nil _).symm, hwf', Nat.le_refl _,
      fun req hreq _ => ⟨req, hreq, rfl, rfl, rfl, fun hne => absurd rfl hne⟩⟩
  | arp now packet interface =>
    obtain ⟨events, hlog, hsilent, hsub, hnext⟩ := srHandleArp_silent h
    exact ⟨events, .silent hlog hwf' hnext.ge hsilent
      fun req hreq _ => ⟨req, hsub hreq, rfl, rfl, rfl⟩⟩
  | visit now later node =>
    obtain ⟨mid, hhandle, h⟩ := bind_eq_ok.mp h
    obtain ⟨events, hcounted⟩ := srHandleArpreqQueue_counted hwf hhandle
    split at h
    · obtain rfl := Except.ok.inj h
      exact ⟨events, hcounted⟩
    · obtain rfl := Except.ok.inj h
      refine ⟨events ++ [.readFreed node], hcounted.trans (.silent rfl hwf' (Nat.le_refl _) ?_
        fun req hreq _ => ⟨req, hreq, rfl, rfl, rfl⟩)⟩
      intro ip e he
      obtain rfl := List.mem_singleton.mp he
      rfl

/-- **A run of events** counts them too. -/
theorem counted_of_steps (hwf : s.cache.WellFormed)
    (hrun : ReflTransGen (fun s s' => ∃ e, ArpStep e s s') s s') :
    ∃ events, Counted s s' events := by
  induction hrun with
  | refl => exact ⟨[], .refl hwf⟩
  | tail _ hstep ih =>
    obtain ⟨events, hcounted⟩ := ih
    obtain ⟨e, hstep⟩ := hstep
    obtain ⟨events', hcounted'⟩ := hstep.counted hcounted.wellFormed
    exact ⟨events ++ events', hcounted.trans hcounted'⟩

end Events

end NatRouter
