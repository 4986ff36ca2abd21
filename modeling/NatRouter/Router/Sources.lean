import NatRouter.Router.Causes

/-!
# Where messages come from

The messages of the router carry the address of one of its interfaces, but for one kind: an echo reply
comes from the address that the request was sent to, and `sr_handle_ippacket` takes a request to
255.255.255.255 for one to the router.
-/

namespace NatRouter

open ByteMemory Interleaving Relation

/-- The message that is made about a packet has the address of an interface as its source. -/
def OwnSource (cfg : NetConfig) : RouterEvent → Prop
  | .icmp b interface type code => ∀ len message,
    icmpIppacket (srGetInterface cfg.ifList interface) b type code = .ok (len, message) →
      isRouterIp cfg (SrIpHdr.ipSrc message) = true
  | _ => True

/-- Every message that was made has. -/
def SendsFromOwn (x : SrInstance × Trace) : Prop := ∀ e ∈ x.1.log, OwnSource x.1.cfg e

/-- No echo request to 255.255.255.255 is received, unless this is the address of an interface. -/
def NoBroadcastEcho (cfg : NetConfig) : RouterCall → SrInstance × Trace → Prop
  | .receive a, _ => EchoRequest cfg a → SrIpHdr.ipDst a.packet = ipBroadcastAddr →
    isRouterIp cfg ipBroadcastAddr = true
  | _, _ => True

/-! ### The message -/

/-- The source of a packet that the router makes. -/
lemma ipSrc_srCreateIppacket (loadLen : UInt32) (load : ByteMem) (protocol : UInt8)
    (sourceIp destIp : UInt32) :
    SrIpHdr.ipSrc (srCreateIppacket loadLen load protocol sourceIp destIp) = sourceIp := by
  unfold srCreateIppacket SrIpHdr.ipSrc SrIpHdr.setIpSum SrIpHdr.setIpDst SrIpHdr.setIpSrc
  simp only
  rw [load32_storeBlock (by decide), load32_store16_of_disjoint (by decide),
    load32_store32_of_disjoint (by decide), load32_store32_self]

/-- The source of an ICMP message is that of the kind of message. -/
lemma icmpSourceIp_icmpIppacket {interfaceInfo : Option SrIf} {b message : ByteMem}
    {type code : UInt8} {len : UInt32}
    (h : icmpIppacket interfaceInfo b type code = .ok (len, message)) :
    icmpSourceIp interfaceInfo b type = .ok (SrIpHdr.ipSrc message) := by
  obtain ⟨icmpPacket, -, h⟩ := bind_eq_ok.mp h
  obtain ⟨sourceIp, hsource, h⟩ := bind_eq_ok.mp h
  have hmessage : srCreateIppacket icmpPacket.1 icmpPacket.2 ipProtocolIcmp sourceIp
      (SrIpHdr.ipSrc b) = message := congrArg Prod.snd (Except.ok.inj h)
  rw [hsource, ← hmessage, ipSrc_srCreateIppacket]

/-- A message comes from the router unless it is an echo reply about a packet to another address. -/
lemma ownSource_of {cfg : NetConfig} {b : ByteMem} {interface : IfName} {type code : UInt8}
    (h : type = icmpTypeEchoreply → isRouterIp cfg (SrIpHdr.ipDst b) = true) :
    OwnSource cfg (.icmp b interface type code) := by
  intro len message hmessage
  have hsource := icmpSourceIp_icmpIppacket hmessage
  unfold icmpSourceIp at hsource
  split_ifs at hsource with htype
  · rw [← Except.ok.inj hsource]
    exact h htype
  · split at hsource
    · rename_i i hi
      rw [← Except.ok.inj hsource]
      exact List.any_eq_true.mpr ⟨i, List.mem_of_find?_eq_some hi, decide_eq_true rfl⟩
    · cases hsource

/-! ### The log -/

section Log

variable {cfg : NetConfig} {ctx : Surroundings} {sr sr' : SrInstance} {packet : ByteMem}
  {len : UInt32} {interface : IfName}

/-- All messages in the log come from the router. -/
def LogsOwn (cfg : NetConfig) (sr : SrInstance) : Prop := ∀ e ∈ sr.log, OwnSource cfg e

/-- Entries that are no messages. -/
lemma LogsOwn.append (h : LogsOwn cfg sr) {events : List RouterEvent}
    (hlog : sr'.log = sr.log ++ events) (hevents : ∀ e ∈ events, OwnSource cfg e) :
    LogsOwn cfg sr' := by
  intro e he
  rw [hlog] at he
  rcases List.mem_append.mp he with he | he
  · exact h e he
  · exact hevents e he

/-- To put a packet on the queue is to make no message. -/
lemma LogsOwn.queuereq (h : LogsOwn cfg sr) {heap : NodeId → ByteMem} {ip : UInt32}
    {iface sender : IfName} : LogsOwn cfg (sr.queuereq heap ip packet len iface sender) := by
  refine h.append rfl fun e he => ?_
  obtain ⟨pkt, -, rfl⟩ := List.mem_map.mp he
  trivial

/-- To send a packet is to make none either. -/
lemma LogsOwn.record (h : LogsOwn cfg sr) {events : List RouterEvent}
    (hplain : ∀ e ∈ events, e.isPlain = true) : LogsOwn cfg (sr.record events) := by
  refine h.append rfl fun e he => ?_
  cases e with
  | icmp b i type code => exact absurd (hplain _ he) Bool.false_ne_true
  | _ => trivial

/-- Where echo replies are made about packets to the router only, all messages come from the router. -/
lemma LogsOwn.steps {M : SrInstance → ByteMem → UInt8 → UInt8 → Prop} {Q : ByteMem → Prop}
    (hM : ∀ sr b code, M sr b icmpTypeEchoreply code → isRouterIp cfg (SrIpHdr.ipDst b) = true)
    (h : LogsOwn cfg sr) (hsteps : SendSteps M Q sr sr') : LogsOwn cfg sr' := by
  refine hsteps.invariant (I := LogsOwn cfg) ?_ h
  intro sr sr' h hstep
  cases hstep with
  | record hplain => exact h.record hplain
  | message hb =>
    refine h.append rfl fun e he => List.mem_singleton.mp he ▸ ownSource_of ?_
    rintro rfl
    exact hM _ _ _ hb
  | queuereq _ => exact h.queuereq
  | cache _ => exact h

end Log

/-! ### Runs -/

section Runs

variable {cfg : NetConfig} {natEnabled : Bool} {x x' : SrInstance × Trace}

/-- **The messages come from the router**, and no packet received makes it send others. -/
structure FromRouter (cfg : NetConfig) (x : SrInstance × Trace) : Prop where
  /-- The interfaces are those of the router. -/
  config : x.1.cfg = cfg
  /-- No echo request to the broadcast address was received. -/
  received : ∀ a ∈ x.2.received, EchoRequest cfg a → isRouterIp cfg (SrIpHdr.ipDst a.packet) = true
  /-- All messages made so far come from the router. -/
  log : LogsOwn cfg x.1

/-- Every call keeps it so. -/
lemma FromRouter.call {c : RouterCall} {r : c.Result} (h : FromRouter cfg x)
    (hguard : NoBroadcastEcho cfg c x)
    (hlegit : Legit (fun _ _ => True) (HasCause cfg) c x) (hcall : routerSem c x r x') :
    FromRouter cfg x' := by
  cases c with
  | receive a =>
    obtain ⟨-, rfl⟩ := hcall
    refine ⟨h.config, ?_, h.log⟩
    intro a' ha'
    rcases List.mem_append.mp ha' with hold | hnew
    · exact h.received a' hold
    · obtain rfl := List.mem_singleton.mp hnew
      intro hrequest
      rcases Bool.or_eq_true_iff.mp hrequest.2.1 with hrouter | hbroadcast
      · exact hrouter
      · have hdst := of_decide_eq_true hbroadcast
        rw [hdst]
        exact hguard hrequest hdst
  | nat n c =>
    obtain ⟨amb, nat', -, rfl⟩ := hcall
    exact ⟨h.config, h.received, h.log⟩
  | perform n len interface action =>
    obtain ⟨a, hn, -, -, hcause⟩ := hlegit
    obtain ⟨ctx, events, hperform, -, htrace⟩ := hcall
    refine ⟨(sends_perform hperform).cfg.trans h.config, htrace ▸ h.received, ?_⟩
    refine h.log.steps ?_ (sendSteps_perform hperform)
    rintro sr b code (rfl | ⟨-, htype, -⟩)
    · obtain ⟨rfl, hcause⟩ := hcause
      exact h.received a (List.mem_of_getElem? hn) hcause.echoRequest
    · exact absurd htype (by decide)
  | arp packet interface =>
    obtain ⟨now, harp, htrace⟩ := hcall
    exact ⟨(sends_srHandleArp harp).cfg.trans h.config, htrace ▸ h.received,
      h.log.steps (M := noMessage) (fun _ _ _ hfalse => hfalse.elim)
        (sendSteps_srHandleArp (Q := fun _ => True) harp)⟩

/-- So do the sweeps. -/
lemma FromRouter.env (h : FromRouter cfg x) (henv : RouterEnv x x') : FromRouter cfg x' := by
  have hreceived := henv.received
  cases henv with
  | @nat sr sr' t ctx curtime nat' reported hsweep hsend =>
    refine ⟨(sends_sendReported hsend).cfg.trans h.config, hreceived ▸ h.received, ?_⟩
    have hswept : LogsOwn cfg { sr with nat := nat' } := h.log
    refine hswept.steps ?_ (sendSteps_sendReported (List.Subset.refl _) hsend)
    rintro sr b code ⟨htype, -⟩
    exact absurd htype (by decide)
  | arp h' =>
    refine ⟨(sends_srArpcacheTimeout h').cfg.trans h.config, h.received, ?_⟩
    refine h.log.steps ?_ (sendSteps_srArpcacheTimeout h')
    rintro sr b code ⟨htype, -⟩
    exact absurd htype (by decide)

end Runs

/-- **Messages come from the router's own addresses**, in every run in which no echo request to
255.255.255.255 is received. -/
theorem sendsFromOwn_of_noBroadcastEcho {cfg : NetConfig} {natEnabled : Bool}
    {x : SrInstance × Trace} (hinit : RouterInit cfg x) {c : RouterConf}
    (hrun : RouterSteps (NoBroadcastEcho cfg) cfg natEnabled (.idle, x) c) : SendsFromOwn c.2 := by
  have hx : FromRouter cfg x := by
    refine ⟨hinit.cfg, ?_, ?_⟩
    · intro a ha
      rw [hinit.trace] at ha
      cases ha
    · intro e he
      exact absurd he (hinit.log_notMem e)
  have hc : FromRouter cfg c.2 := router_invariant
    (fun a => Prog.calls_of_forall _ fun _ => trivial) (ipAction_hasCause cfg natEnabled)
    (fun _ _ _ _ hguard hlegit hI hcall => hI.call hguard hlegit hcall)
    (fun _ _ hI henv => hI.env henv) hx hrun
  unfold SendsFromOwn
  rw [hc.config]
  exact hc.log

/-- A time-exceeded message comes from the interface that the packet came in on. -/
theorem sendsFromOwn_expiringRequest : ∃ x, RouterInit twoSided freshRouter ∧
    RouterSteps (NoBroadcastEcho twoSided) twoSided true (.idle, freshRouter) (.idle, x) ∧
    RouterEvent.icmp expiringRequest.packet expiringRequest.interface icmpTypeTimeexceeded 0 ∈
      x.1.log ∧ SendsFromOwn x := by
  obtain ⟨sr', hsend⟩ := @srSendIcmp_of_interface quietSurroundings freshRouter.1
    expiringRequest.packet expiringRequest.interface icmpTypeTimeexceeded 0 (by decide) outerInterface
    rfl
  obtain ⟨events, hlog, herrors⟩ := srSendIcmp_errors hsend
  have hdst : SrIpHdr.ipDst expiringRequest.packet ≠ ipBroadcastAddr := by
    have hip : SrIpHdr.ipDst expiringRequest.packet = htonl 0x0a000001 := ipDst_sealedMessage ..
    rw [hip]
    decide
  obtain ⟨t', hsteps, -⟩ := @routerSteps_ip (NoBroadcastEcho twoSided) twoSided true freshRouter
    expiringRequest (.sendIcmp expiringRequest.packet icmpTypeTimeexceeded 0) startState
    quietSurroundings sr' events routerInit_freshRouter.ownersMatch
    (by rw [ipAction_expiringRequest]; exact .ret _ _) hsend hlog
    (fun _ hbroadcast => absurd hbroadcast hdst) fun _ _ => trivial
  refine ⟨(sr', t'), routerInit_freshRouter, hsteps, ?_,
    sendsFromOwn_of_noBroadcastEcho routerInit_freshRouter hsteps⟩
  rw [hlog]
  exact List.mem_append_right _ (mem_of_filter_isError herrors rfl)

/-! ### An echo request to the broadcast address -/

/-- An echo request from 10.0.1.5 to 255.255.255.255. -/
def broadcastRequest : Arrival where
  packet := ofBytes [0x45, 0, 0, 0x1c, 0, 0, 0, 0, 0x40, 1, 0x6f, 0xdd, 10, 0, 1, 5, 255, 255, 255, 255,
    8, 0, 0xf7, 0xfd, 0, 1, 0, 1]
  len := 28
  interface := innerInterface.name

/-- It passes all tests. -/
lemma echoRequest_broadcastRequest : EchoRequest twoSided broadcastRequest :=
  ⟨by decide +kernel, by decide +kernel, by decide +kernel, by decide +kernel, by decide +kernel⟩

/-- The reply to it comes from 255.255.255.255, which is not an address of the router. -/
theorem broadcastRequest_answered : ∃ x c, RouterInit twoSided x ∧
    RouterSteps unguarded twoSided true (.idle, x) c ∧ ¬ SendsFromOwn c.2 := by
  obtain ⟨message, hmessage⟩ : ∃ message, icmpIppacket (some innerInterface)
      broadcastRequest.packet icmpTypeEchoreply 0 = .ok message := by
    have hlen : ¬ (ntohs (SrIpHdr.ipLen broadcastRequest.packet)).toNat <
        sizeofIpHdr + sizeofIcmpHdr := by decide +kernel
    simp [icmpIppacket, srCreateIcmppacket, icmpContent, icmpSourceIp, hlen, bind, Except.bind, pure,
      Except.pure]
  obtain ⟨sr', hsend⟩ := @srSendIcmp_of_message quietSurroundings freshRouter.1
    broadcastRequest.packet broadcastRequest.interface icmpTypeEchoreply 0 innerInterface message rfl
    hmessage
  obtain ⟨events, hlog, hmem⟩ : ∃ events, sr'.log = freshRouter.1.log ++ events ∧
      RouterEvent.icmp broadcastRequest.packet broadcastRequest.interface icmpTypeEchoreply 0 ∈
        events := by
    obtain ⟨loadLen, ipPacket, -, ⟨entry, frame, -, rfl⟩ | ⟨-, rfl⟩⟩ := srSendIcmp_cases hsend
    · exact ⟨_, List.append_assoc .., List.mem_cons_self⟩
    · exact ⟨_, List.append_assoc .., List.mem_cons_self⟩
  obtain ⟨t', hsteps, -⟩ := @routerSteps_ip_unguarded twoSided true freshRouter broadcastRequest
    (.sendIcmp broadcastRequest.packet icmpTypeEchoreply 0) startState quietSurroundings sr' events
    routerInit_freshRouter.ownersMatch
    (by rw [ipAction_echoRequest true echoRequest_broadcastRequest]; exact .ret _ _) hsend hlog
  refine ⟨freshRouter, (.idle, (sr', t')), routerInit_freshRouter, hsteps, ?_⟩
  intro hown
  have hcfg : sr'.cfg = twoSided := (sends_srSendIcmp hsend).cfg
  have hevent := hown _ (hlog ▸ List.mem_append_right _ hmem)
  change OwnSource sr'.cfg _ at hevent
  rw [hcfg] at hevent
  have hsource := icmpSourceIp_icmpIppacket hmessage
  have hrouter : isRouterIp twoSided (SrIpHdr.ipSrc message.2) = true := hevent _ _ hmessage
  rw [← Except.ok.inj hsource] at hrouter
  exact absurd hrouter (by decide +kernel)

end NatRouter
