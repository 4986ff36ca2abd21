import NatRouter.Router.System

/-!
# Sending, step by step

Whatever the router does beside deciding about packets is made up of four elementary effects: entries
of the log that are plain sending, a message that is begun, a packet that is put on the ARP queue, and
a change of the ARP cache after which nothing more waits.  The functions that send and the two sweeps
are runs of such steps, in which the messages and the packets put aside are of known kinds, so that an
invariant of what the router sends is proved for the four steps.
-/

namespace NatRouter

open ByteMemory GroupedQueue Relation

/-- An entry of the log that makes no message and puts nothing on the ARP queue. -/
def RouterEvent.isPlain : RouterEvent → Bool
  | .icmp .. => false
  | .queued .. => false
  | _ => true

/-- An elementary effect.  `M` says which messages are made, about which packet and of which type and
code, and `Q` which buffers are put on the ARP queue. -/
inductive SendStep (M : SrInstance → ByteMem → UInt8 → UInt8 → Prop) (Q : ByteMem → Prop) :
    SrInstance → SrInstance → Prop
  /-- Something is sent. -/
  | record {sr : SrInstance} {events : List RouterEvent} (h : ∀ e ∈ events, e.isPlain = true) :
      SendStep M Q sr (sr.record events)
  /-- A message is made. -/
  | message {sr : SrInstance} {packet : ByteMem} {interface : IfName} {type code : UInt8}
      (h : M sr packet type code) : SendStep M Q sr (sr.record [.icmp packet interface type code])
  /-- A packet is put on the ARP queue. -/
  | queuereq {sr : SrInstance} {heap : NodeId → ByteMem} {ip : UInt32} {packet : ByteMem}
      {len : UInt32} {iface sender : IfName}
      (h : Q (copied packet len.toNat (heap sr.cache.nextNode))) :
      SendStep M Q sr (sr.queuereq heap ip packet len iface sender)
  /-- The cache changes, and nothing more waits. -/
  | cache {sr : SrInstance} {cache : SrArpcache}
      (h : ∀ w ∈ cache.waiting, w ∈ sr.cache.waiting) : SendStep M Q sr { sr with cache := cache }

/-- The elementary effects one after the other. -/
abbrev SendSteps (M : SrInstance → ByteMem → UInt8 → UInt8 → Prop) (Q : ByteMem → Prop) :
    SrInstance → SrInstance → Prop :=
  ReflTransGen (SendStep M Q)

/-- A copy of an ICMP message of the router's own. -/
def IsOwnMessage (b : ByteMem) : Prop :=
  ∃ interfaceInfo packet type code len message junk,
    icmpIppacket interfaceInfo packet type code = .ok (len, message) ∧ b = copied message len.toNat junk

/-- No message is made. -/
def noMessage : SrInstance → ByteMem → UInt8 → UInt8 → Prop := fun _ _ _ _ => False

/-- The messages of the sweep of the ARP queue: a packet that waits has had no answer. -/
def Unanswered (sr : SrInstance) (b : ByteMem) (type code : UInt8) : Prop :=
  type = icmpTypeDstunreachable ∧ code = 1 ∧ ∃ w ∈ sr.cache.waiting, w.2.buf = b

/-- The messages of the sweep of the NAT: a packet has waited too long on the unsolicited list. -/
def ReportedIn (reported : List (SrNatUnsolPkt × SrRt)) (_ : SrInstance) (b : ByteMem)
    (type code : UInt8) : Prop :=
  type = icmpTypeDstunreachable ∧ code = 3 ∧ ∃ q ∈ reported.map Prod.fst, q.ipPacket = b

/-- The messages of `sr_handle_ippacket` once it has decided: the one it has decided upon, or the one
of `sr_forward_ippacket` about a packet without a route. -/
def PerformedBy (cfg : NetConfig) (action : IpAction) (_ : SrInstance) (b : ByteMem)
    (type code : UInt8) : Prop :=
  action = .sendIcmp b type code ∨ (action = .forward b ∧ type = icmpTypeDstunreachable ∧ code = 0 ∧
    srRtLookup cfg.routingTable (SrIpHdr.ipDst b) = .ok none)

/-- What `sr_handle_ippacket` puts on the ARP queue once it has decided: its message, or a copy of the
packet that it forwards. -/
def QueuedBy (action : IpAction) (len : UInt32) (b : ByteMem) : Prop :=
  IsOwnMessage b ∨ ∃ q junk, action = .forward q ∧ b = copied (decrementTtl q) len.toNat junk

section Steps

variable {M : SrInstance → ByteMem → UInt8 → UInt8 → Prop} {Q : ByteMem → Prop}
  {I : SrInstance → Prop} {ctx : Surroundings} {sr sr' : SrInstance} {packet : ByteMem}
  {len : UInt32} {interface : IfName}

/-- **Invariants of sending**: what every elementary effect keeps is kept. -/
lemma SendSteps.invariant (hstep : ∀ sr sr', I sr → SendStep M Q sr sr' → I sr')
    (h : SendSteps M Q sr sr') (hI : I sr) : I sr' := by
  induction h with
  | refl => exact hI
  | tail _ hlast ih => exact hstep _ _ ih hlast

/-- A frame is sent. -/
lemma sendStep_send (origin : Option SrPacket) (frame : ByteMem) (len : UInt32) :
    SendStep M Q sr (srSendPacket sr origin frame len interface) :=
  .record fun _ he => List.mem_singleton.mp he ▸ rfl

/-- Requests are unlinked. -/
lemma sendStep_unlink {cache : SrArpcache} (h : cache.requests ⊆ sr.cache.requests) :
    SendStep M Q sr { sr with cache := cache } :=
  .cache fun _ hw => waiting_of_requests h hw

/-- `sr_send_arp` sends a frame. -/
lemma sendStep_srSendArp {arpType : UInt16} {mac : Mac} {ip : UInt32}
    (h : srSendArp sr interface arpType mac ip = .ok sr') : SendStep M Q sr sr' := by
  obtain ⟨frame, rfl⟩ := srSendArp_cases h
  exact sendStep_send none frame _

/-- `sr_handle_arp` makes no message. -/
lemma sendSteps_srHandleArp {now : Time} (h : srHandleArp sr now packet interface = .ok sr') :
    SendSteps M Q sr sr' := by
  have hinsert : ∀ mac ip,
      SendStep M Q sr { sr with cache := (srArpcacheInsert sr.cache now mac ip).2 } :=
    fun mac ip => sendStep_unlink List.eraseP_subset
  unfold srHandleArp at h
  split_ifs at h
  · simp only at h
    split_ifs at h
    · exact .head (hinsert _ _) (.single (sendStep_srSendArp h))
    · split at h
      · obtain ⟨mid, hflush, hdestroy⟩ := bind_eq_ok.mp h
        obtain rfl := Except.ok.inj hdestroy
        obtain ⟨rfl, -⟩ := flushPackets_eq hflush
        refine .head (hinsert _ _) (.head (.record fun e he => ?_)
          (.single (sendStep_unlink List.eraseP_subset)))
        obtain ⟨pkt, -, rfl⟩ := List.mem_map.mp he
        rfl
      · obtain rfl := Except.ok.inj h
        exact .single (hinsert _ _)
    · obtain rfl := Except.ok.inj h
      exact .refl
  · obtain rfl := Except.ok.inj h
    exact .refl

/-- `sr_send_icmp` makes its message, and sends it or has it wait. -/
lemma sendSteps_srSendIcmp {type code : UInt8} (hM : M sr packet type code)
    (hQ : ∀ b, IsOwnMessage b → Q b)
    (h : srSendIcmp ctx sr packet interface type code = .ok sr') : SendSteps M Q sr sr' := by
  obtain ⟨loadLen, ipPacket, hmessage, ⟨entry, frame, -, rfl⟩ | ⟨-, rfl⟩⟩ := srSendIcmp_cases h
  · exact .head (.message hM) (.single (sendStep_send none frame _))
  · exact .head (.message hM)
      (.single (.queuereq (hQ _ ⟨_, _, _, _, _, _, _, hmessage, rfl⟩)))

/-- What was decided about a packet is done. -/
lemma sendSteps_perform {action : IpAction}
    (h : perform ctx sr len interface action = .ok sr') :
    SendSteps (PerformedBy sr.cfg action) (QueuedBy action len) sr sr' := by
  cases action with
  | drop =>
    obtain rfl : sr = sr' := Except.ok.inj h
    exact .refl
  | sendIcmp packet type code => exact sendSteps_srSendIcmp (.inl rfl) (fun _ hb => .inl hb) h
  | forward packet =>
    have hrecord : ∀ lpm, SendStep (PerformedBy sr.cfg (.forward packet))
        (QueuedBy (.forward packet) len) sr
        (sr.record [.forward (decrementTtl packet) len lpm]) :=
      fun lpm => .record fun _ he => List.mem_singleton.mp he ▸ rfl
    obtain ⟨hroute, hsend⟩ | ⟨lpm, -, ⟨i, frame, -, rfl⟩ | ⟨-, rfl⟩⟩ := srForwardIppacket_cases h
    · exact sendSteps_srSendIcmp (.inr ⟨rfl, rfl, rfl, hroute⟩) (fun _ hb => .inl hb) hsend
    · exact .head (hrecord lpm) (.single (sendStep_send none frame _))
    · exact .head (hrecord lpm) (.single (.queuereq (.inr ⟨packet, _, rfl, rfl⟩)))

/-- What waits still waits when a message has been made. -/
lemma waiting_srSendIcmp {type code : UInt8}
    (h : srSendIcmp ctx sr packet interface type code = .ok sr') {w : UInt32 × SrPacket}
    (hw : w ∈ sr.cache.waiting) : w ∈ sr'.cache.waiting := by
  obtain ⟨loadLen, ipPacket, -, ⟨entry, frame, -, rfl⟩ | ⟨-, rfl⟩⟩ := srSendIcmp_cases h
  · exact hw
  · have hwaiting := waiting_srArpcacheQueuereq (ctx.heap sr.cache.nextNode) (SrIpHdr.ipSrc packet)
      ipPacket loadLen interface interface sr.cache
    exact hwaiting ▸ Multiset.mem_add.mpr (.inl hw)

/-- The messages about the packets of a request are made about packets that wait. -/
lemma sendSteps_sendUnreachable {packets : List SrPacket}
    (hpackets : ∀ pkt ∈ packets, ∃ ip, (ip, pkt) ∈ sr.cache.waiting)
    (h : sendUnreachable ctx packets sr = .ok sr') : SendSteps Unanswered IsOwnMessage sr sr' := by
  induction packets generalizing sr with
  | nil =>
    obtain rfl : sr = sr' := Except.ok.inj h
    exact .refl
  | cons curr rest ih =>
    obtain ⟨mid, hcurr, hrest⟩ := bind_eq_ok.mp h
    obtain ⟨ip, hwaits⟩ := hpackets curr List.mem_cons_self
    have hfirst : SendSteps Unanswered IsOwnMessage sr mid := sendSteps_srSendIcmp
      ⟨rfl, rfl, (ip, curr), hwaits, rfl⟩ (fun _ hb => hb) hcurr
    refine hfirst.trans (ih (fun pkt hpkt => ?_) hrest)
    obtain ⟨ip', hwaits'⟩ := hpackets pkt (List.mem_cons_of_mem _ hpkt)
    exact ⟨ip', waiting_srSendIcmp hcurr hwaits'⟩

/-- `sr_handle_arpreq_queue` makes messages about packets that wait. -/
lemma sendSteps_srHandleArpreqQueue {now later : Time} {node : NodeId}
    (h : srHandleArpreqQueue ctx now later node sr = .ok sr') : SendSteps Unanswered IsOwnMessage sr sr' := by
  unfold srHandleArpreqQueue at h
  split at h
  · cases h
  · rename_i req hfind
    split_ifs at h
    · obtain ⟨mid, hsend, hdestroy⟩ := bind_eq_ok.mp h
      obtain rfl := Except.ok.inj hdestroy
      have hmid : SendSteps Unanswered IsOwnMessage sr mid := by
        refine sendSteps_sendUnreachable (fun pkt hpkt => ⟨req.ip, ?_⟩) hsend
        exact mem_content.mpr ⟨req, List.mem_of_find?_eq_some hfind, rfl, hpkt⟩
      exact hmid.tail (sendStep_unlink List.eraseP_subset)
    · obtain ⟨head, -, h⟩ := bind_eq_ok.mp h
      obtain ⟨mid, hsend, htouch⟩ := bind_eq_ok.mp h
      obtain rfl := Except.ok.inj htouch
      refine .head (sendStep_srSendArp hsend) (.single (.cache fun w hw => ?_))
      exact waiting_touch mid.cache node later ▸ hw
    · obtain rfl := Except.ok.inj h
      exact .refl

/-- So does the sweep of the ARP queue. -/
lemma sendSteps_sweepNodes {clock : NodeId → Time × Time} {nodes : List NodeId}
    (h : sweepNodes ctx clock nodes sr = .ok sr') : SendSteps Unanswered IsOwnMessage sr sr' := by
  induction nodes generalizing sr with
  | nil =>
    obtain rfl : sr = sr' := Except.ok.inj h
    exact .refl
  | cons node next ih =>
    obtain ⟨mid, hvisit, hrest⟩ := bind_eq_ok.mp h
    obtain ⟨mid', hhandle, hread⟩ := bind_eq_ok.mp hvisit
    have hnext : SendSteps Unanswered IsOwnMessage mid' mid := by
      split_ifs at hread
      · obtain rfl := Except.ok.inj hread
        exact .refl
      · obtain rfl := Except.ok.inj hread
        exact .single (.record fun _ he => List.mem_singleton.mp he ▸ rfl)
    exact (sendSteps_srHandleArpreqQueue hhandle).trans (hnext.trans (ih hrest))

/-- And a pass of `sr_arpcache_timeout`. -/
lemma sendSteps_srArpcacheTimeout {curtime : Time} {clock : NodeId → Time × Time}
    (h : srArpcacheTimeout ctx curtime clock sr = .ok sr') : SendSteps Unanswered IsOwnMessage sr sr' := by
  have hexpire : SendStep Unanswered IsOwnMessage sr { sr with cache := srArpcacheExpire sr.cache curtime } :=
    sendStep_unlink (List.Subset.refl _)
  exact .head hexpire (sendSteps_sweepNodes h)

/-- The messages of a sweep of the NAT are made about the packets that are reported. -/
lemma sendSteps_sendReported {reported all : List (SrNatUnsolPkt × SrRt)} (hall : reported ⊆ all)
    (h : sendReported ctx reported sr = .ok sr') : SendSteps (ReportedIn all) IsOwnMessage sr sr' := by
  induction reported generalizing sr with
  | nil =>
    obtain rfl : sr = sr' := Except.ok.inj h
    exact .refl
  | cons curr rest ih =>
    obtain ⟨mid, hcurr, hrest⟩ := bind_eq_ok.mp h
    have hmem : curr.1 ∈ all.map Prod.fst := List.mem_map_of_mem (hall List.mem_cons_self)
    have hfirst : SendSteps (ReportedIn all) IsOwnMessage sr mid :=
      sendSteps_srSendIcmp ⟨rfl, rfl, curr.1, hmem, rfl⟩ (fun _ hb => hb) hcurr
    exact hfirst.trans (ih (fun q hq => hall (List.mem_cons_of_mem _ hq)) hrest)

end Steps

end NatRouter
