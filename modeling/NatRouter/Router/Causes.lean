import NatRouter.Router.Senders
import NatRouter.Router.SendSteps

/-!
# Why messages are made

Nothing keeps the router from sending an ICMP error about an ICMP error: it never looks at the type of
a message before it makes one about it.  Three things make it do so: the message is in transit on its
last hop, there is no route for it, or it was put on the ARP queue, whose sweep gives requests up; this
goes for the router's own messages as well.  For no other reason is an error made about an error
(`errorsAboutErrors_of_steps`), but for packets that were on the unsolicited list to begin with.
-/

namespace NatRouter

open ByteMemory Interleaving Relation

/-- The packet is an ICMP error message. -/
def IsIcmpError (b : ByteMem) : Prop :=
  SrIpHdr.ipP b = ipProtocolIcmp ∧
    (SrIcmpHdr.icmpType b (ipHeaderLen b) = icmpTypeDstunreachable ∨
      SrIcmpHdr.icmpType b (ipHeaderLen b) = icmpTypeTimeexceeded)

/-- An echo request for the router that passes all tests. -/
def EchoRequest (cfg : NetConfig) (a : Arrival) : Prop :=
  Accepted a.packet a.len ∧ isForRouter cfg (SrIpHdr.ipDst a.packet) = true ∧
    SrIpHdr.ipP a.packet = ipProtocolIcmp ∧ IcmpSumOk a.packet a.len ∧
    SrIcmpHdr.icmpType a.packet (ipHeaderLen a.packet) = 8

/-- An echo request is answered. -/
lemma ipAction_echoRequest {cfg : NetConfig} {a : Arrival} (natEnabled : Bool)
    (h : EchoRequest cfg a) : ipAction cfg natEnabled a.packet a.len =
      .ret (.sendIcmp a.packet icmpTypeEchoreply 0) := by
  obtain ⟨hok, hfor, hp, hsum, htype⟩ := h
  rw [ipAction_of_accepted hok, if_pos hfor, routerAction_icmp hp, if_pos hsum, icmpAction]
  exact if_pos htype

/-- A packet in transit on its last hop. -/
def Expires (cfg : NetConfig) (a : Arrival) : Prop :=
  Accepted a.packet a.len ∧ isForRouter cfg (SrIpHdr.ipDst a.packet) = false ∧
    SrIpHdr.ipTtl a.packet = 1

/-- Why `sr_handle_ippacket` has a message made about a packet. -/
inductive Cause (cfg : NetConfig) (a : Arrival) : UInt8 → UInt8 → Prop
  /-- It is an echo request. -/
  | echo (h : EchoRequest cfg a) : Cause cfg a icmpTypeEchoreply 0
  /-- Its time is up. -/
  | expired (h : Expires cfg a) : Cause cfg a icmpTypeTimeexceeded 0
  /-- It is no ICMP packet, and nobody takes it. -/
  | refused (h : SrIpHdr.ipP a.packet ≠ ipProtocolIcmp) (code : UInt8) :
      Cause cfg a icmpTypeDstunreachable code

/-- Only an echo request is answered with an echo reply. -/
lemma Cause.echoRequest {cfg : NetConfig} {a : Arrival} {code : UInt8}
    (h : Cause cfg a icmpTypeEchoreply code) : EchoRequest cfg a := by
  generalize htype : icmpTypeEchoreply = type at h
  cases h with
  | echo h => exact h
  | expired _ => exact absurd htype (by decide)
  | refused _ _ => exact absurd htype (by decide)

/-- A message that is decided upon is about the packet and has a cause. -/
def HasCause (cfg : NetConfig) (a : Arrival) : IpAction → Prop
  | .sendIcmp b type code => b = a.packet ∧ Cause cfg a type code
  | _ => True

/-- What the verdict about a refused segment makes of the packet. -/
lemma hasCause_of_refused {cfg : NetConfig} {a : Arrival} {r : ℤ × ByteMem} {code : UInt8}
    (hr : HandlerKeeps a.packet r) (hcode : r.1 ≠ 1)
    (hp : SrIpHdr.ipP a.packet ≠ ipProtocolIcmp) :
    HasCause cfg a (.sendIcmp r.2 icmpTypeDstunreachable code) :=
  ⟨hr hcode, .refused hp code⟩

/-- The decision about a packet for the router. -/
lemma routerAction_hasCause {cfg : NetConfig} {a : Arrival} (natEnabled : Bool)
    (hok : Accepted a.packet a.len)
    (hfor : isForRouter cfg (SrIpHdr.ipDst a.packet) = true) :
    (routerAction cfg natEnabled a.packet a.len).Returns (HasCause cfg a) := by
  by_cases hp : SrIpHdr.ipP a.packet = ipProtocolIcmp
  · rw [routerAction_icmp hp]
    unfold icmpAction
    simp only
    split_ifs with hsum hecho hreply
    · exact ⟨rfl, .echo ⟨hok, hfor, hp, hsum, hecho⟩⟩
    · refine (Prog.returns_of_forall _ fun _ => trivial).map (T := fun _ => True) fun r _ => ?_
      split_ifs <;> trivial
    · trivial
    · trivial
  · unfold routerAction
    simp only [if_neg hp]
    split_ifs with htransport htcp
    · refine (natHandleTcp_returns cfg a.packet a.len true).map fun r hr => ?_
      split_ifs with hone
      · trivial
      · trivial
      · exact hasCause_of_refused hr hone hp
    · exact ⟨rfl, .refused hp 3⟩
    · exact ⟨rfl, .refused hp 2⟩

/-- The decision about a packet in transit. -/
lemma transitAction_hasCause {cfg : NetConfig} {a : Arrival} (natEnabled : Bool)
    (hok : Accepted a.packet a.len)
    (hfor : isForRouter cfg (SrIpHdr.ipDst a.packet) = false) :
    (transitAction cfg natEnabled a.packet a.len).Returns (HasCause cfg a) := by
  unfold transitAction
  simp only
  split_ifs with httl hicmp htcp
  · exact ⟨rfl, .expired ⟨hok, hfor, ipTtl_sub_one_iff.mp httl⟩⟩
  · exact (Prog.returns_of_forall _ fun _ => trivial).map (T := fun _ => True) fun r _ => trivial
  · refine (natHandleTcp_returns cfg a.packet a.len false).map fun r hr => ?_
    have hp : SrIpHdr.ipP a.packet ≠ ipProtocolIcmp := by
      rw [htcp.2]
      decide
    split_ifs with hzero
    · exact hasCause_of_refused hr (by rw [hzero]; decide) hp
    · trivial
  · trivial

/-- **Every message decided upon has a cause.** -/
lemma ipAction_hasCause (cfg : NetConfig) (natEnabled : Bool) (a : Arrival) :
    (ipAction cfg natEnabled a.packet a.len).Returns (HasCause cfg a) := by
  by_cases hok : Accepted a.packet a.len
  · rw [ipAction_of_accepted hok]
    split_ifs with hfor
    · exact routerAction_hasCause natEnabled hok hfor
    · exact transitAction_hasCause natEnabled hok (Bool.eq_false_iff.mpr hfor)
  · rw [ipAction_of_not_accepted hok]
    trivial

/-! ### Errors about errors -/

/-- Why an error is made about an ICMP error.  `initial` is the unsolicited list at the start. -/
inductive ErrorAboutError (cfg : NetConfig) (initial : UnsolList) (x : SrInstance × Trace)
    (b : ByteMem) : UInt8 → UInt8 → Prop
  /-- It was received, and is in transit on its last hop. -/
  | expired {a : Arrival} (ha : a ∈ x.2.received) (hb : a.packet = b) (h : Expires cfg a) :
      ErrorAboutError cfg initial x b icmpTypeTimeexceeded 0
  /-- There is no route for it. -/
  | noRoute (h : srRtLookup cfg.routingTable (SrIpHdr.ipDst b) = .ok none) :
      ErrorAboutError cfg initial x b icmpTypeDstunreachable 0
  /-- It was put on the ARP queue. -/
  | queued {ip : UInt32} {pkt : SrPacket} (h : .queued ip pkt ∈ x.1.log) (hb : pkt.buf = b) :
      ErrorAboutError cfg initial x b icmpTypeDstunreachable 1
  /-- It was on the unsolicited list to begin with. -/
  | initial {pkts : List SrNatUnsolPkt} {q : SrNatUnsolPkt} (hlinked : initial = .linked pkts)
      (hq : q ∈ pkts) (hb : q.ipPacket = b) :
      ErrorAboutError cfg initial x b icmpTypeDstunreachable 3

section Explained

variable {cfg : NetConfig} {initial : UnsolList} {x x' : SrInstance × Trace}

/-- Why an error is made about any packet: it is no ICMP packet, or for one of these reasons. -/
def Reason (cfg : NetConfig) (initial : UnsolList) (x : SrInstance × Trace) (b : ByteMem)
    (type code : UInt8) : Prop :=
  SrIpHdr.ipP b ≠ ipProtocolIcmp ∨ ErrorAboutError cfg initial x b type code

/-- A reason remains one. -/
lemma Reason.mono {b : ByteMem} {type code : UInt8} (h : Reason cfg initial x b type code)
    (hlog : x.1.log ⊆ x'.1.log) (hreceived : x.2.received ⊆ x'.2.received) :
    Reason cfg initial x' b type code := by
  rcases h with hother | ⟨ha, hb, h⟩ | h | ⟨h, hb⟩ | ⟨hlinked, hq, hb⟩
  · exact .inl hother
  · exact .inr (.expired (hreceived ha) hb h)
  · exact .inr (.noRoute h)
  · exact .inr (.queued (hlog h) hb)
  · exact .inr (.initial hlinked hq hb)

/-- **Every error has a reason**, and what waits on the ARP queue was put there. -/
structure Explained (cfg : NetConfig) (initial : UnsolList) (x : SrInstance × Trace) : Prop where
  /-- What waits was put on the queue. -/
  waiting : ∀ w ∈ x.1.cache.waiting, .queued w.1 w.2 ∈ x.1.log
  /-- Every error has a reason. -/
  errors : ∀ b interface type code, RouterEvent.icmp b interface type code ∈ x.1.log →
    type ≠ icmpTypeEchoreply → Reason cfg initial x b type code

/-- More is explained, if what is new is. -/
lemma Explained.append (h : Explained cfg initial x) {events : List RouterEvent}
    (hlog : x'.1.log = x.1.log ++ events) (hreceived : x.2.received ⊆ x'.2.received)
    (hwaiting : ∀ w ∈ x'.1.cache.waiting, w ∈ x.1.cache.waiting ∨ .queued w.1 w.2 ∈ events)
    (hevents : ∀ b interface type code, RouterEvent.icmp b interface type code ∈ events →
      type ≠ icmpTypeEchoreply → Reason cfg initial x b type code) :
    Explained cfg initial x' := by
  have hsub : x.1.log ⊆ x'.1.log := hlog ▸ List.subset_append_left _ _
  refine ⟨?_, ?_⟩
  · intro w hw
    rcases hwaiting w hw with hold | hnew
    · exact hsub (h.waiting w hold)
    · rw [hlog]
      exact List.mem_append_right _ hnew
  · intro b interface type code hb htype
    rw [hlog] at hb
    refine Reason.mono ?_ hsub hreceived
    rcases List.mem_append.mp hb with hold | hnew
    · exact h.errors b interface type code hold htype
    · exact hevents b interface type code hnew htype

/-- The router does nothing, and no packet received is forgotten. -/
lemma Explained.of_log_eq (h : Explained cfg initial x) (hlog : x'.1.log = x.1.log)
    (hcache : x'.1.cache = x.1.cache) (hreceived : x.2.received ⊆ x'.2.received) :
    Explained cfg initial x' :=
  h.append (hlog.trans (List.append_nil _).symm) hreceived (fun _ hw => .inl (hcache ▸ hw))
    fun _ _ _ _ hmem => absurd hmem List.not_mem_nil

/-- What is sent step by step stays explained, if the messages are. -/
lemma Explained.steps {M : SrInstance → ByteMem → UInt8 → UInt8 → Prop} {Q : ByteMem → Prop}
    {sr sr' : SrInstance} {t : Trace}
    (hM : ∀ sr b type code, Explained cfg initial (sr, t) → M sr b type code →
      type ≠ icmpTypeEchoreply → Reason cfg initial (sr, t) b type code)
    (h : Explained cfg initial (sr, t)) (hsteps : SendSteps M Q sr sr') :
    Explained cfg initial (sr', t) := by
  refine hsteps.invariant (I := fun sr => Explained cfg initial (sr, t)) ?_ h
  intro sr sr' h hstep
  cases hstep with
  | record hplain =>
    refine h.append rfl (List.Subset.refl _) (fun w hw => .inl hw) fun b i type code hb => ?_
    exact absurd (hplain _ hb) Bool.false_ne_true
  | message hb =>
    refine h.append rfl (List.Subset.refl _) (fun w hw => .inl hw) fun b i type code hmem => ?_
    cases List.mem_singleton.mp hmem
    exact hM _ _ _ _ h hb
  | @queuereq heap ip packet len iface sender _ =>
    refine h.append rfl (List.Subset.refl _) (fun w hw => ?_) fun b i type code hmem => ?_
    · have hwaiting := waiting_srArpcacheQueuereq (heap sr.cache.nextNode) ip packet len iface sender
        sr.cache
      rcases Multiset.mem_add.mp (hwaiting ▸ hw) with hold | hnew
      · exact .inl hold
      · obtain ⟨pkt, hpkt, rfl⟩ := List.mem_map.mp (Multiset.mem_coe.mp hnew)
        exact .inr (List.mem_map_of_mem hpkt)
    · obtain ⟨pkt, -, heq⟩ := List.mem_map.mp hmem
      cases heq
  | cache hwaiting =>
    exact ⟨fun w hw => h.waiting w (hwaiting w hw), fun b i type code hb htype =>
      (h.errors b i type code hb htype).mono (List.Subset.refl _) (List.Subset.refl _)⟩

/-- The sweep of the ARP queue makes errors about what waits. -/
lemma Explained.srArpcacheTimeout {ctx : Surroundings} {sr sr' : SrInstance} {t : Trace}
    {curtime : Time} {clock : NodeId → Time × Time} (h : Explained cfg initial (sr, t))
    (hsweep : srArpcacheTimeout ctx curtime clock sr = .ok sr') :
    Explained cfg initial (sr', t) := by
  refine h.steps ?_ (sendSteps_srArpcacheTimeout hsweep)
  rintro sr b type code hsr ⟨rfl, rfl, w, hw, hb⟩ -
  exact .inr (.queued (hsr.waiting w hw) hb)

end Explained

/-! ### Runs -/

section Runs

variable {cfg : NetConfig} {initial : UnsolList} {natEnabled : Bool} {x x' : SrInstance × Trace}

/-- The unsolicited list holds TCP packets, but for those that were there to begin with. -/
def ListsTcp (initial : UnsolList) (s : SrNat) : Prop :=
  ∀ pkts, s.unsolPkt = .linked pkts → ∀ q ∈ pkts,
    (∃ old, initial = .linked old ∧ q ∈ old) ∨ SrIpHdr.ipP q.ipPacket = ipProtocolTcp

/-- The protocol of a copy. -/
lemma ipP_copied {b junk : ByteMem} {len : ℕ} (h : 20 ≤ len) :
    SrIpHdr.ipP (copied b len junk) = SrIpHdr.ipP b :=
  if_pos (show 9 < len by omega)

/-- The calls of the NAT put TCP packets on the list. -/
lemma ListsTcp.nat {a : Arrival} {amb : Ambient} {c : NatCall} {r : c.Result} {s s' : SrNat}
    (h : ListsTcp initial s) (hc : CallsAbout a c) (hexec : natExec amb c s = .ok (r, s')) :
    ListsTcp initial s' := by
  intro pkts' hlinked q hq
  have heffect := natExec_unsol hexec
  unfold ListsTcp at h
  generalize s.unsolPkt = unsol, s'.unsolPkt = unsol' at heffect hlinked h
  subst hlinked
  cases heffect with
  | kept => exact h pkts' rfl q hq
  | @appended pkts p junk len now hbuffers =>
    rcases List.mem_append.mp hq with hold | hnew
    · exact h pkts rfl q hold
    · obtain rfl := List.mem_singleton.mp hnew
      rcases hc with hmappings | ⟨hok, htcp, habout⟩
      · rw [(hmappings.kept r).1] at hbuffers
        cases hbuffers
      · obtain ⟨rfl, rfl⟩ := habout.of_buffers hbuffers
        exact .inr ((ipP_copied hok.twenty_le).trans htcp)
  | @filtered pkts p => exact h pkts rfl q (List.mem_filter.mp hq).1

/-- **What is known of a router in a run.** -/
structure ExplainedRouter (cfg : NetConfig) (initial : UnsolList) (x : SrInstance × Trace) :
    Prop where
  /-- The interfaces and routes are those of the router. -/
  config : x.1.cfg = cfg
  /-- Every error has a reason. -/
  explained : Explained cfg initial x
  /-- The unsolicited list holds TCP packets. -/
  list : ListsTcp initial x.1.nat

/-- Every call keeps it so. -/
lemma ExplainedRouter.call {c : RouterCall} {r : c.Result} (h : ExplainedRouter cfg initial x)
    (hlegit : Legit CallsAbout (HasCause cfg) c x) (hcall : routerSem c x r x') :
    ExplainedRouter cfg initial x' := by
  cases c with
  | receive a =>
    obtain ⟨-, rfl⟩ := hcall
    exact ⟨h.config, h.explained.of_log_eq rfl rfl (List.subset_append_left _ _), h.list⟩
  | nat n c =>
    obtain ⟨a, -, hc⟩ := hlegit
    obtain ⟨amb, nat', hexec, rfl⟩ := hcall
    exact ⟨h.config, h.explained.of_log_eq rfl rfl (List.Subset.refl _), h.list.nat hc hexec⟩
  | perform n len interface action =>
    obtain ⟨a, hn, -, -, hcause⟩ := hlegit
    obtain ⟨ctx, events, hperform, -, htrace⟩ := hcall
    have hsends := sends_perform hperform
    have hperformed : Explained cfg initial (x'.1, x.2) := by
      refine h.explained.steps ?_ (sendSteps_perform hperform)
      rintro sr b type code - (rfl | ⟨-, rfl, rfl, hroute⟩) htype
      · obtain ⟨rfl, hcause⟩ := hcause
        cases hcause with
        | echo hecho => exact absurd rfl htype
        | expired hexpires => exact .inr (.expired (List.mem_of_getElem? hn) rfl hexpires)
        | refused hp code => exact .inl hp
      · exact .inr (.noRoute (h.config ▸ hroute))
    refine ⟨hsends.cfg.trans h.config, ?_, hsends.nat ▸ h.list⟩
    have hreceived : x.2.received ⊆ x'.2.received := by
      rw [htrace]
      exact List.Subset.refl _
    exact hperformed.of_log_eq rfl rfl hreceived
  | arp packet interface =>
    obtain ⟨now, harp, htrace⟩ := hcall
    have hsends := sends_srHandleArp harp
    have hhandled : Explained cfg initial (x'.1, x.2) :=
      h.explained.steps (M := noMessage) (fun _ _ _ _ _ hfalse => hfalse.elim)
        (sendSteps_srHandleArp (Q := fun _ => True) harp)
    exact ⟨hsends.cfg.trans h.config, hhandled.of_log_eq rfl rfl (htrace ▸ List.Subset.refl _),
      hsends.nat ▸ h.list⟩

/-- So do the sweeps. -/
lemma ExplainedRouter.env (h : ExplainedRouter cfg initial x) (henv : RouterEnv x x') :
    ExplainedRouter cfg initial x' := by
  have hreceived := henv.received
  cases henv with
  | @nat sr sr' t ctx curtime nat' reported hsweep hsend =>
    obtain ⟨pkts, hlinked, hreported, hkept⟩ := natTimeout_unsol hsweep
    have hsends := sends_sendReported hsend
    have hswept : Explained cfg initial ({ sr with nat := nat' }, t) :=
      h.explained.of_log_eq rfl rfl (List.Subset.refl _)
    have hsent : Explained cfg initial (sr', t) := by
      refine hswept.steps ?_ (sendSteps_sendReported (List.Subset.refl _) hsend)
      rintro sr b type code - ⟨rfl, rfl, q, hq, rfl⟩ -
      rw [hreported] at hq
      rcases h.list pkts hlinked q (List.mem_filter.mp hq).1 with ⟨old, hold, hqold⟩ | htcp
      · exact .inr (.initial hold hqold rfl)
      · left
        rw [htcp]
        decide
    refine ⟨hsends.cfg.trans h.config, ?_, ?_⟩
    · exact hsent.of_log_eq rfl rfl (hreceived ▸ List.Subset.refl _)
    · intro pkts' hlinked' q hq
      change sr'.nat.unsolPkt = _ at hlinked'
      rw [hsends.nat] at hlinked'
      obtain rfl := UnsolList.linked.inj (hkept.symm.trans hlinked')
      exact h.list pkts hlinked q (List.mem_filter.mp hq).1
  | arp h' =>
    have hsends := sends_srArpcacheTimeout h'
    exact ⟨hsends.cfg.trans h.config, h.explained.srArpcacheTimeout h', hsends.nat ▸ h.list⟩

end Runs

/-- No error is made about an ICMP error. -/
def NoErrorAboutError (x : SrInstance × Trace) : Prop :=
  ∀ b interface type code, RouterEvent.icmp b interface type code ∈ x.1.log →
    type ≠ icmpTypeEchoreply → ¬ IsIcmpError b

/-- **Errors about errors**: in every run an error is made about an ICMP error only because that is in
transit on its last hop, or has no route, or was put on the ARP queue, or was on the unsolicited list
to begin with. -/
theorem errorsAboutErrors_of_steps {guard : RouterCall → SrInstance × Trace → Prop} {cfg : NetConfig}
    {natEnabled : Bool} {x : SrInstance × Trace} (hinit : RouterInit cfg x) {c : RouterConf}
    (hrun : RouterSteps guard cfg natEnabled (.idle, x) c) {b : ByteMem} {interface : IfName}
    {type code : UInt8} (hb : RouterEvent.icmp b interface type code ∈ c.2.1.log)
    (htype : type ≠ icmpTypeEchoreply) (herror : IsIcmpError b) :
    ErrorAboutError cfg x.1.nat.unsolPkt c.2 b type code := by
  have hx : ExplainedRouter cfg x.1.nat.unsolPkt x := by
    refine ⟨hinit.cfg, ⟨?_, ?_⟩, fun pkts hlinked q hq => .inl ⟨pkts, hlinked, hq⟩⟩
    · intro w hw
      exact absurd hw (hinit.waiting_notMem w)
    · intro b interface type code hb
      exact absurd hb (hinit.log_notMem _)
  have hc : ExplainedRouter cfg x.1.nat.unsolPkt c.2 := router_invariant
    (ipAction_callsAbout cfg natEnabled) (ipAction_hasCause cfg natEnabled)
    (fun _ _ _ _ _ hlegit hI hcall => hI.call hlegit hcall) (fun _ _ hI henv => hI.env henv) hx hrun
  rcases hc.explained.errors b interface type code hb htype with hother | hreason
  · exact absurd herror.1 hother
  · exact hreason

/-- A time-exceeded message from 8.8.8.8 to 10.0.0.1, itself on its last hop. -/
def expiringError : Arrival :=
  ⟨(sealedMessage 1 11 0x08080808 0x0a000001 7).buf, 28, outerInterface.name⟩

/-- It is an error. -/
lemma isIcmpError_expiringError : IsIcmpError expiringError.packet := by
  have hfields : icmpFields expiringError.packet 20 = _ := icmpFields_sealedMessage ..
  have hlen : ipHeaderLen expiringError.packet = 20 := ipHeaderLen_sealedMessage ..
  refine ⟨ipP_sealedMessage .., .inr ?_⟩
  rw [hlen]
  exact congrArg IcmpFields.icmpType hfields

/-- The router makes an error about it. -/
lemma steps_expiringError : ∃ x,
    RouterSteps unguarded twoSided true (.idle, freshRouter) (.idle, x) ∧
    RouterEvent.icmp expiringError.packet expiringError.interface icmpTypeTimeexceeded 0 ∈
      x.1.log := by
  have haction : ipAction twoSided true expiringError.packet expiringError.len =
      .ret (.sendIcmp expiringError.packet icmpTypeTimeexceeded 0) := by
    refine ipAction_expired (accepted_sealedMessage ..) ?_ (ipTtl_sealedMessage ..)
    have hip : SrIpHdr.ipDst expiringError.packet = htonl 0x0a000001 := ipDst_sealedMessage ..
    rw [hip]
    decide
  obtain ⟨sr', hsend⟩ := @srSendIcmp_of_interface quietSurroundings freshRouter.1
    expiringError.packet expiringError.interface icmpTypeTimeexceeded 0 (by decide) outerInterface rfl
  obtain ⟨events, hlog, herrors⟩ := srSendIcmp_errors hsend
  obtain ⟨t', hsteps, -⟩ := @routerSteps_ip_unguarded twoSided true freshRouter expiringError
    (.sendIcmp expiringError.packet icmpTypeTimeexceeded 0) startState quietSurroundings sr' events
    routerInit_freshRouter.ownersMatch (by rw [haction]; exact .ret _ _) hsend hlog
  refine ⟨(sr', t'), hsteps, ?_⟩
  rw [hlog]
  exact List.mem_append_right _ (mem_of_filter_isError herrors rfl)

/-- It does so because the message is on its last hop. -/
theorem errorAboutError_expiringError : ∃ x,
    RouterSteps unguarded twoSided true (.idle, freshRouter) (.idle, x) ∧
    ErrorAboutError twoSided freshRouter.1.nat.unsolPkt x expiringError.packet
      icmpTypeTimeexceeded 0 := by
  obtain ⟨x, hsteps, hmem⟩ := steps_expiringError
  exact ⟨x, hsteps, errorsAboutErrors_of_steps routerInit_freshRouter hsteps hmem (by decide)
    isIcmpError_expiringError⟩

/-- There are errors about errors. -/
theorem expiringError_reported : ∃ x c, RouterInit twoSided x ∧
    RouterSteps unguarded twoSided true (.idle, x) c ∧ ¬ NoErrorAboutError c.2 := by
  obtain ⟨x, hsteps, hmem⟩ := steps_expiringError
  exact ⟨freshRouter, (.idle, x), routerInit_freshRouter, hsteps,
    fun hnone => hnone _ _ _ _ hmem (by decide) isIcmpError_expiringError⟩

end NatRouter
