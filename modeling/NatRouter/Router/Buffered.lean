import NatRouter.Router.Passage
import NatRouter.Router.System

/-!
# What waits on the unsolicited list

The list is meant for SYNs that come to the router from outside and that nobody has asked for.  But
`sr_nat_update_connection` puts on it every segment without a connection, whatever its flags and
wherever it comes from; a SYN to the broadcast address is taken for one to the router; and
`sr_nat_init` does not set the list.  Where none of this happens, the list is what it is meant to be
(`holdsUnsolicitedSyns_of_buffersSyns`).
-/

namespace NatRouter

open ByteMemory Interleaving Relation

/-- A received packet that is meant for the list: a SYN from outside to an interface of the router. -/
structure IsUnsolicitedSyn (cfg : NetConfig) (a : Arrival) : Prop where
  /-- It is a TCP packet. -/
  isTcp : SrIpHdr.ipP a.packet = ipProtocolTcp
  /-- With SYN and without ACK. -/
  isSyn : isTcpSyn a.packet
  /-- From outside. -/
  fromOutside : ¬ srcPrivate a.packet
  /-- To the router. -/
  toRouter : isRouterIp cfg (SrIpHdr.ipDst a.packet) = true

/-- The list is proper and holds copies of such packets. -/
def HoldsUnsolicitedSyns (cfg : NetConfig) (x : SrInstance × Trace) : Prop :=
  ∃ pkts, x.1.nat.unsolPkt = .linked pkts ∧ ∀ q ∈ pkts, ∃ a ∈ x.2.received,
    IsUnsolicitedSyn cfg a ∧ ∃ junk, q.ipPacket = copied a.packet a.len.toNat junk

/-- What is put on the list is meant for it: `sr_nat_update_connection` finds a connection for every
segment but a SYN from outside, and a SYN is addressed to an interface. -/
def BuffersSyns (cfg : NetConfig) : RouterCall → SrInstance × Trace → Prop
  | .nat _ (.updateConnection mapping p _ direction), x =>
    FindsConn x.1.nat mapping p direction ∨
      (direction = .externalToInternal ∧ isTcpSyn p ∧ isRouterIp cfg (SrIpHdr.ipDst p) = true)
  | .nat _ (.insertUnsolicitedPacket p _), _ => isRouterIp cfg (SrIpHdr.ipDst p) = true
  | _, _ => True

section Buffered

variable {cfg : NetConfig} {natEnabled : Bool} {x x' : SrInstance × Trace}

/-- The calls about a packet that has passed the tests: they concern mappings, or its segment. -/
def CallsAbout (a : Arrival) (c : NatCall) : Prop :=
  c.OnMappings ∨
    (Accepted a.packet a.len ∧ SrIpHdr.ipP a.packet = ipProtocolTcp ∧ c.About a.packet a.len)

/-- The calls of a decision are of this kind. -/
lemma ipAction_callsAbout (cfg : NetConfig) (natEnabled : Bool) (a : Arrival) :
    (ipAction cfg natEnabled a.packet a.len).Calls (CallsAbout a) :=
  (ipAction_decides cfg natEnabled a.packet a.len).calls
    (fun _ => (natHandleIcmp_onMappings cfg a.packet).imp fun _ h => .inl h)
    fun hok htcp isToNat =>
      (natHandleTcp_about cfg a.packet a.len isToNat).imp fun _ h => .inr ⟨hok, htcp, h⟩

/-- A packet that has passed the tests is longer than an IP header. -/
lemma Accepted.twenty_le {p : ByteMem} {len : UInt32} (h : Accepted p len) : 20 ≤ len.toNat := by
  have hlt := UInt32.lt_iff_toNat_lt.mp h.2.1
  exact hlt.le

/-- What is known of the packets on the list: they are copies of received packets that have passed the
tests and are meant for it. -/
def IsCopyOfSyn (cfg : NetConfig) (t : Trace) (q : SrNatUnsolPkt) : Prop :=
  ∃ a ∈ t.received, Accepted a.packet a.len ∧ IsUnsolicitedSyn cfg a ∧
    ∃ junk, q.ipPacket = copied a.packet a.len.toNat junk

/-- A proper list of such packets. -/
def ListOfSyns (cfg : NetConfig) (x : SrInstance × Trace) : Prop :=
  ∃ pkts, x.1.nat.unsolPkt = .linked pkts ∧ ∀ q ∈ pkts, IsCopyOfSyn cfg x.2 q

/-- A copy comes from outside. -/
lemma IsCopyOfSyn.not_srcPrivate {t : Trace} {q : SrNatUnsolPkt} (h : IsCopyOfSyn cfg t q) :
    ¬ srcPrivate q.ipPacket := by
  obtain ⟨a, -, hok, hsyn, junk, hcopied⟩ := h
  intro hsrc
  refine hsyn.fromOutside ?_
  unfold srcPrivate at hsrc ⊢
  rwa [hcopied, ipSrc_copied hok.twenty_le] at hsrc

/-- The packet of a call that buffers is meant for the list. -/
lemma isUnsolicitedSyn_of_buffers {a : Arrival} {n : ℕ} {c : NatCall} {r : c.Result}
    {amb : Ambient} {s' : SrNat} {p : ByteMem} {len : UInt32} (htcp : SrIpHdr.ipP a.packet = ipProtocolTcp)
    (habout : c.About a.packet a.len) (hguard : BuffersSyns cfg (.nat n c) x)
    (hexec : natExec amb c x.1.nat = .ok (r, s')) (hbuffers : c.buffers r = some (p, len)) :
    IsUnsolicitedSyn cfg a := by
  cases c with
  | updateConnection mapping p' len' direction =>
    obtain ⟨rfl, rfl, hsrc⟩ := habout
    rcases hguard with hfinds | ⟨hdir, hsyn, hrouter⟩
    · -- a connection that is found is returned
      obtain ⟨c', t, hsome⟩ := findsConn_iff.mpr hfinds
      have hr : r = some c' := congrArg Prod.fst (Except.ok.inj (hexec.symm.trans hsome))
      subst hr
      cases hbuffers
    · exact ⟨htcp, hsyn, hsrc hdir, hrouter⟩
  | insertUnsolicitedPacket p' len' =>
    obtain ⟨rfl, rfl, hsrc, hsyn⟩ := habout
    exact ⟨htcp, hsyn, hsrc, hguard⟩
  | lookupExternal auxExt type => cases hbuffers
  | lookupInternal ipInt auxInt type => cases hbuffers
  | insertMapping ipInt auxInt type => cases hbuffers
  | insertConnection ext p' state => cases hbuffers

/-- More packets may be received. -/
lemma IsCopyOfSyn.mono {t t' : Trace} {q : SrNatUnsolPkt} (h : IsCopyOfSyn cfg t q)
    (hreceived : ∀ a ∈ t.received, a ∈ t'.received) : IsCopyOfSyn cfg t' q := by
  obtain ⟨a, ha, hrest⟩ := h
  exact ⟨a, hreceived a ha, hrest⟩

/-- A call of the NAT keeps the list in order. -/
lemma ListOfSyns.nat {a : Arrival} {n : ℕ} {c : NatCall} {r : c.Result} (h : ListOfSyns cfg x)
    (hguard : BuffersSyns cfg (.nat n c) x) (hn : x.2.received[n]? = some a) (hc : CallsAbout a c)
    (hcall : routerSem (.nat n c) x r x') : ListOfSyns cfg x' := by
  obtain ⟨amb, nat', hexec, rfl⟩ := hcall
  obtain ⟨pkts, hlinked, hpkts⟩ := h
  change ∃ pkts', nat'.unsolPkt = .linked pkts' ∧ ∀ q ∈ pkts', IsCopyOfSyn cfg x.2 q
  have heffect := natExec_unsol hexec
  rw [hlinked] at heffect
  generalize nat'.unsolPkt = unsol' at heffect
  cases heffect with
  | kept => exact ⟨pkts, rfl, hpkts⟩
  | @appended _ p junk len now hbuffers =>
    rcases hc with hmappings | ⟨hok, htcp, habout⟩
    · rw [(hmappings.kept r).1] at hbuffers
      cases hbuffers
    · have hsyn := isUnsolicitedSyn_of_buffers htcp habout hguard hexec hbuffers
      obtain ⟨rfl, rfl⟩ := habout.of_buffers hbuffers
      refine ⟨_, rfl, ?_⟩
      intro q hq
      rcases List.mem_append.mp hq with hq | hq
      · exact hpkts q hq
      · obtain rfl := List.mem_singleton.mp hq
        exact ⟨a, List.mem_of_getElem? hn, hok, hsyn, junk, rfl⟩
  | @broken _ p q hremoves hq hsame =>
    rcases hc with hmappings | ⟨hok, htcp, habout⟩
    · rw [(hmappings.kept r).2] at hremoves
      cases hremoves
    · -- what is taken off comes from inside
      obtain ⟨rfl, hsrc⟩ := habout.of_removes hremoves
      rw [sameSegment_eq_false hsrc (hpkts q hq).not_srcPrivate] at hsame
      cases hsame
  | filtered => exact ⟨_, rfl, fun q hq => hpkts q (List.mem_filter.mp hq).1⟩

/-- Sending keeps it in order. -/
lemma ListOfSyns.sends {sr sr' : SrInstance} {t t' : Trace} (h : ListOfSyns cfg (sr, t))
    (hsends : Sends sr sr') (hreceived : t'.received = t.received) : ListOfSyns cfg (sr', t') := by
  obtain ⟨pkts, hlinked, hpkts⟩ := h
  refine ⟨pkts, (congrArg SrNat.unsolPkt hsends.nat).trans hlinked, ?_⟩
  intro q hq
  exact (hpkts q hq).mono fun a ha => hreceived ▸ ha

/-- Every call keeps it in order. -/
lemma ListOfSyns.call {c : RouterCall} {r : c.Result} (h : ListOfSyns cfg x)
    (hguard : BuffersSyns cfg c x) (hlegit : Legit CallsAbout (fun _ _ => True) c x)
    (hcall : routerSem c x r x') : ListOfSyns cfg x' := by
  obtain ⟨sr, t⟩ := x
  obtain ⟨sr', t'⟩ := x'
  cases c with
  | receive a =>
    obtain ⟨-, hx⟩ := hcall
    cases hx
    obtain ⟨pkts, hlinked, hpkts⟩ := h
    exact ⟨pkts, hlinked, fun q hq => (hpkts q hq).mono fun _ ha => List.mem_append_left _ ha⟩
  | nat n c =>
    obtain ⟨a, hn, hc⟩ := hlegit
    exact h.nat hguard hn hc hcall
  | perform n len interface action =>
    obtain ⟨ctx, events, hperform, -, htrace⟩ := hcall
    obtain rfl : t' = t.afterAction n action events := htrace
    exact h.sends (sends_perform hperform) rfl
  | arp packet interface =>
    obtain ⟨now, harp, htrace⟩ := hcall
    obtain rfl : t' = t := htrace
    exact h.sends (sends_srHandleArp harp) rfl

/-- So do the sweeps. -/
lemma ListOfSyns.env (h : ListOfSyns cfg x) (henv : RouterEnv x x') : ListOfSyns cfg x' := by
  have hreceived := henv.received
  cases henv with
  | @nat sr sr' t ctx curtime nat' reported hsweep hsend =>
    obtain ⟨pkts, hlinked, -, hkept⟩ := natTimeout_unsol hsweep
    obtain ⟨pkts', hlinked', hpkts⟩ := h
    obtain rfl := UnsolList.linked.inj (hlinked.symm.trans hlinked')
    have hsome : ListOfSyns cfg ({ sr with nat := nat' }, t) :=
      ⟨_, hkept, fun q hq => hpkts q (List.mem_filter.mp hq).1⟩
    exact hsome.sends (sends_sendReported hsend) hreceived
  | arp h' => exact h.sends (sends_srArpcacheTimeout h') hreceived

end Buffered

/-- **The unsolicited list** holds only what it is meant for, in every run that starts with an empty
list and buffers nothing else. -/
theorem holdsUnsolicitedSyns_of_buffersSyns {cfg : NetConfig} {natEnabled : Bool}
    {x : SrInstance × Trace} (hempty : x.1.nat.unsolPkt = .linked []) {c : RouterConf}
    (hrun : RouterSteps (BuffersSyns cfg) cfg natEnabled (.idle, x) c) :
    HoldsUnsolicitedSyns cfg c.2 := by
  have hx : ListOfSyns cfg x := ⟨[], hempty, fun q hq => absurd hq List.not_mem_nil⟩
  have hc : ListOfSyns cfg c.2 := router_invariant (ipAction_callsAbout cfg natEnabled)
    (fun a => Prog.returns_of_forall _ fun _ => trivial)
    (fun _ _ _ _ hguard hlegit hI hcall => hI.call hguard hlegit hcall)
    (fun _ _ hI henv => hI.env henv) hx hrun
  obtain ⟨pkts, hlinked, hpkts⟩ := hc
  refine ⟨pkts, hlinked, ?_⟩
  intro q hq
  obtain ⟨a, ha, -, hsyn⟩ := hpkts q hq
  exact ⟨a, ha, hsyn⟩

/-! ### A run with a SYN from outside -/

/-- A router that has just been started. -/
def freshRouter : SrInstance × Trace := (natRouter startState, ⟨[], [], [], []⟩)

/-- It is one the router starts in. -/
lemma routerInit_freshRouter : RouterInit twoSided freshRouter :=
  ⟨rfl, rfl, isInitial_startState, rfl, rfl⟩

/-- A SYN from 8.8.8.8:80 to port 1024 of the router. -/
def callingSyn : Arrival :=
  ⟨(sealedSegment 64 0x02 0x08080808 0xac400301 80 1024).buf, 40, outerInterface.name⟩

/-- The copy of it that is put on the list. -/
def callingPkt : SrNatUnsolPkt := ⟨copied callingSyn.packet 40 fun _ => 0, 0⟩

/-- The state of the NAT then. -/
def callingState : SrNat := { startState with unsolPkt := .linked [callingPkt] }

/-- The calls by which it is put on the list. -/
lemma runs_callingSyn {K : NatCall → SrNat → Prop}
    (hlookup : K (.lookupExternal 1024 .natMappingTcp) startState)
    (hinsert : K (.insertUnsolicitedPacket callingSyn.packet callingSyn.len) startState) :
    (ipAction twoSided true callingSyn.packet callingSyn.len).Runs (Sem.guarded K natSem) startState
      .drop callingState := by
  have hsrc : ¬ srcPrivate callingSyn.packet := by
    simp only [callingSyn, srcPrivate_sealedSegment]
    decide
  have hsyn : isTcpSyn callingSyn.packet := by
    simp only [callingSyn, isTcpSyn_sealedSegment]
    decide
  have hport : ntohs (SrTcpHdr.dstPort callingSyn.packet (ipHeaderLen callingSyn.packet)) = 1024 := by
    simp only [callingSyn, ipHeaderLen_sealedSegment, dstPort_sealedSegment, ntohs_htons]
  have haction : ipAction twoSided true callingSyn.packet callingSyn.len =
      (natHandleTcp twoSided callingSyn.packet callingSyn.len true).map (tcpVerdict true) := by
    refine ipAction_natTcp (accepted_sealedSegment ..) (ipP_sealedSegment ..) ?_
      fun hfalse => absurd hfalse (by decide)
    have hip : SrIpHdr.ipDst callingSyn.packet = htonl 0xac400301 := ipDst_sealedSegment ..
    rw [hip]
    decide
  have hfirst : natSem (.lookupExternal 1024 .natMappingTcp) startState none startState :=
    ⟨quiet 0, rfl⟩
  have hsecond : natSem (.insertUnsolicitedPacket callingSyn.packet callingSyn.len) startState ()
      callingState := ⟨quiet 0, rfl⟩
  obtain ⟨k, hk, hnone, -⟩ := natTcpInbound_syn callingSyn.len hsyn
  rw [haction, natHandleTcp_inbound hsrc, hk, hport]
  have hrest : ((k none).map (tcpVerdict true)).Runs (Sem.guarded K natSem) startState .drop
      callingState := by
    rw [hnone]
    exact .call ⟨hinsert, hsecond⟩ (.ret _ _)
  exact .call ⟨hlookup, hfirst⟩ hrest

/-- A run in which it is put on the list. -/
lemma steps_callingSyn {guard : RouterCall → SrInstance × Trace → Prop}
    (hreceive : ∀ a x, guard (.receive a) x)
    (hlookup : ∀ n x, guard (.nat n (.lookupExternal 1024 .natMappingTcp)) x)
    (hinsert : ∀ n x, guard (.nat n (.insertUnsolicitedPacket callingSyn.packet callingSyn.len)) x)
    (hdone : ∀ n len interface action x, guard (.perform n len interface action) x) :
    ∃ x, RouterSteps guard twoSided true (.idle, freshRouter) (.idle, x) ∧
      x.1 = natRouter callingState ∧ Handled callingSyn .drop [] freshRouter x := by
  have hperform : perform quietSurroundings (natRouter callingState) callingSyn.len
      callingSyn.interface .drop = .ok (natRouter callingState) := rfl
  obtain ⟨t, hsteps, hhandled⟩ := routerSteps_ip (x := freshRouter)
    routerInit_freshRouter.ownersMatch
    (runs_callingSyn (fun y _ => hlookup _ y) (fun y _ => hinsert _ y)) hperform rfl
    (hreceive callingSyn freshRouter) (fun y _ => hdone _ _ _ _ y)
  exact ⟨_, hsteps, rfl, hhandled⟩

/-- In this run the list holds the SYN. -/
theorem holdsUnsolicitedSyns_callingSyn : ∃ x, freshRouter.1.nat.unsolPkt = .linked [] ∧
    RouterSteps (BuffersSyns twoSided) twoSided true (.idle, freshRouter) (.idle, x) ∧
    x.1.nat.unsolPkt = .linked [callingPkt] ∧ HoldsUnsolicitedSyns twoSided x := by
  have hrouter : isRouterIp twoSided (SrIpHdr.ipDst callingSyn.packet) = true := by
    have hip : SrIpHdr.ipDst callingSyn.packet = htonl 0xac400301 := ipDst_sealedSegment ..
    rw [hip]
    decide
  obtain ⟨x, hsteps, hx, -⟩ := @steps_callingSyn (BuffersSyns twoSided) (fun _ _ => trivial)
    (fun _ _ => trivial) (fun _ _ => hrouter) fun _ _ _ _ _ => trivial
  exact ⟨x, rfl, hsteps, congrArg (fun sr => sr.nat.unsolPkt) hx,
    holdsUnsolicitedSyns_of_buffersSyns rfl hsteps⟩

/-! ### A run with a stray segment -/

/-- A SYN from 10.0.0.1:5000 to 8.8.8.8:80. -/
def openingSyn : Arrival :=
  ⟨(sealedSegment 64 0x02 0x0a000001 0x08080808 5000 80).buf, 40, innerInterface.name⟩

/-- An ACK from 8.8.4.4:80 to port 1024 of the router. -/
def strayAck : Arrival :=
  ⟨(sealedSegment 64 0x10 0x08080404 0xac400301 80 1024).buf, 40, outerInterface.name⟩

/-- The SYN comes from inside. -/
lemma srcPrivate_openingSyn : srcPrivate openingSyn.packet := by
  simp only [openingSyn, srcPrivate_sealedSegment]
  decide

/-- The ACK comes from outside. -/
lemma not_srcPrivate_strayAck : ¬ srcPrivate strayAck.packet := by
  simp only [strayAck, srcPrivate_sealedSegment]
  decide

/-- It is no SYN. -/
lemma not_isTcpSyn_strayAck : ¬ isTcpSyn strayAck.packet := by
  simp only [strayAck, isTcpSyn_sealedSegment]
  decide

/-- The SYN is translated, and makes the mapping and the connection of `synState`. -/
lemma runs_openingSyn : ∃ q, (ipAction twoSided true openingSyn.packet openingSyn.len).Runs natSem
    startState (.forward q) synState ∧ SrIpHdr.ipDst q = htonl 0x08080808 ∧
      SrIpHdr.ipSrc q = outerInterface.ip := by
  have hdst : ¬ dstPrivate openingSyn.packet := by
    simp only [openingSyn, dstPrivate_sealedSegment]
    decide
  have hlen : ipHeaderLen openingSyn.packet = 20 := ipHeaderLen_sealedSegment ..
  have hip : SrIpHdr.ipDst openingSyn.packet = htonl 0x08080808 := ipDst_sealedSegment ..
  have hport : SrTcpHdr.dstPort openingSyn.packet 20 = htons 80 := dstPort_sealedSegment ..
  have hlookup : srNatLookupInternal startState (ntohl (SrIpHdr.ipSrc openingSyn.packet))
      (ntohs (SrTcpHdr.srcPort openingSyn.packet 20)) .natMappingTcp = none := rfl
  have hkey : srNatInsertMapping startState 0 (ntohl (SrIpHdr.ipSrc openingSyn.packet))
      (ntohs (SrTcpHdr.srcPort openingSyn.packet 20)) .natMappingTcp =
      srNatInsertMapping startState 0 0x0a000001 5000 .natMappingTcp := by
    have hsrc : SrIpHdr.ipSrc openingSyn.packet = htonl 0x0a000001 := ipSrc_sealedSegment ..
    have hsport : SrTcpHdr.srcPort openingSyn.packet 20 = htons 5000 := srcPort_sealedSegment ..
    rw [hsrc, hsport, ntohl_htonl, ntohs_htons]
  have hconn : newConnection (srNatInsertMapping startState 0 0x0a000001 5000 .natMappingTcp).2 0
      openingSyn.packet .synSent = synConnection := by
    simp only [newConnection, hlen, hip, hport]
    rfl
  have hheap := srNatInsertMapping_heapOk (HeapOk.initial isInitial_startState) 0 0x0a000001 5000
    .natMappingTcp
  have hinsert := srNatInsertConnection_head hheap rfl 0 openingSyn.packet .synSent
  rw [hconn, ← hkey] at hinsert
  have hroute : HasRoute twoSided (routedDst openingSyn.packet 20
      (htons (toUint16 (findNextId startState.bitmap).1))) outerRoute outerInterface := by
    rw [routedDst_eq _ le_rfl, hip]
    exact ⟨rfl, rfl⟩
  have hrun := @natTcpOutbound_run_new twoSided openingSyn.packet openingSyn.len 20 quiet startState
    (show 0 ≤ tcpSegmentLen 40 20 by decide) outerRoute outerInterface _ _ hroute hlookup hinsert
  have hfields := tcpFields_tcpSourced openingSyn.packet openingSyn.len (le_refl 20) outerInterface.ip
    (htons (toUint16 (findNextId startState.bitmap).1))
  have haction : ipAction twoSided true openingSyn.packet openingSyn.len =
      (natHandleTcp twoSided openingSyn.packet openingSyn.len false).map (tcpVerdict false) := by
    refine ipAction_natTcp (accepted_sealedSegment ..) (ipP_sealedSegment ..) ?_ fun _ => ?_
    · rw [hip]
      decide
    · have httl : SrIpHdr.ipTtl openingSyn.packet = 64 := ipTtl_sealedSegment ..
      rw [httl]
      decide
  refine ⟨_, @Prog.runs_of_run _ _ _ _ _ _ natExec _ quiet _ _ _ ?_,
    (congrArg TcpFields.ipDst hfields).trans hip, congrArg TcpFields.ipSrc hfields⟩
  rw [haction, natHandleTcp_outbound srcPrivate_openingSyn hdst, hlen]
  exact Prog.run_map_eq_ok.mpr ⟨_, hrun, rfl⟩

/-- The copy of the ACK that is put on the list. -/
def strayPkt : SrNatUnsolPkt := ⟨copied strayAck.packet 40 fun _ => 0, 0⟩

/-- The state of the NAT then. -/
def strayState : SrNat := { synState with unsolPkt := .linked [strayPkt] }

/-- The ACK is put on the list, and its sender is told that the port is unreachable. -/
lemma runs_strayAck : (ipAction twoSided true strayAck.packet strayAck.len).Runs natSem synState
    (.sendIcmp strayAck.packet icmpTypeDstunreachable 3) strayState := by
  have hsrc : SrIpHdr.ipSrc strayAck.packet = htonl 0x08080404 := ipSrc_sealedSegment ..
  have hport : ntohs (SrTcpHdr.dstPort strayAck.packet (ipHeaderLen strayAck.packet)) = 1024 := by
    simp only [strayAck, ipHeaderLen_sealedSegment, dstPort_sealedSegment, ntohs_htons]
  have hlookup : natSem (.lookupExternal 1024 .natMappingTcp) synState (some synStateMapping.copy)
      synState := ⟨quiet 0, rfl⟩
  have hpeer : isPeer .externalToInternal strayAck.packet synConnection = false := by
    simp only [isPeer, hsrc]
    decide
  have hupdate : natSem (.updateConnection synStateMapping.copy strayAck.packet strayAck.len
      .externalToInternal) synState none strayState := by
    refine ⟨quiet 0, ?_⟩
    have hconns : connsFrom synState.mappings 1 = some [synConnection] := rfl
    have hnone : [synConnection].find? (isPeer .externalToInternal strayAck.packet) = none := by
      rw [List.find?_cons_of_neg (by rw [hpeer]; exact Bool.false_ne_true)]
      rfl
    have hfirst : synStateMapping.copy.conns = some 1 := rfl
    simp only [natExec, srNatUpdateConnection, hfirst, hconns, hnone]
    rfl
  have haction : ipAction twoSided true strayAck.packet strayAck.len =
      (natHandleTcp twoSided strayAck.packet strayAck.len true).map (tcpVerdict true) := by
    refine ipAction_natTcp (accepted_sealedSegment ..) (ipP_sealedSegment ..) ?_
      fun hfalse => absurd hfalse (by decide)
    have hip : SrIpHdr.ipDst strayAck.packet = htonl 0xac400301 := ipDst_sealedSegment ..
    rw [hip]
    decide
  obtain ⟨k, hk, -, hsome⟩ := natTcpInbound_notSyn strayAck.len not_isTcpSyn_strayAck
  obtain ⟨k', hk', hnone, -⟩ := hsome synStateMapping.copy
  rw [haction, natHandleTcp_inbound not_srcPrivate_strayAck, hk, hport]
  have hrest : ((k (some synStateMapping.copy)).map (tcpVerdict true)).Runs natSem synState
      (.sendIcmp strayAck.packet icmpTypeDstunreachable 3) strayState := by
    rw [hk']
    refine .call hupdate ?_
    rw [hnone]
    exact .ret _ _
  exact .call hlookup hrest

/-- When both have been handled, a copy of the ACK is on the list, though an error has been sent about
it already. -/
lemma steps_strayAck : ∃ x, RouterSteps unguarded twoSided true (.idle, freshRouter) (.idle, x) ∧
    x.1.nat = strayState ∧ x.1.cfg = twoSided ∧ x.2.received = [openingSyn, strayAck] ∧
    x.2.owners = [some 1] ∧ some 1 ∈ x.2.errors := by
  -- the SYN
  obtain ⟨q, hrun, hdst, -⟩ := runs_openingSyn
  have hroute : RoutesTo (natRouter synState) (SrIpHdr.ipDst q) outerRoute := by
    rw [hdst]
    exact routesTo_natRouter rfl
  obtain ⟨sr₁, events, hforward, hlog⟩ :=
    @RoutesTo.forward quietSurroundings (natRouter synState) openingSyn.len openingSyn.interface
      outerRoute q hroute
  obtain ⟨t₁, hsteps, hhandled⟩ := routerSteps_ip_unguarded (x := freshRouter)
    routerInit_freshRouter.ownersMatch hrun hforward hlog
  have hsends := sends_srForwardIppacket hforward
  have howners : t₁.owners = [] :=
    List.length_eq_zero_iff.mp (hhandled.ownersMatch [] (congrArg SrNat.unsolPkt hsends.nat))
  -- the ACK
  have hinterface : srGetInterface sr₁.cfg.ifList strayAck.interface = some outerInterface := by
    rw [hsends.cfg]
    rfl
  obtain ⟨sr₂, hsend⟩ := @srSendIcmp_of_interface quietSurroundings { sr₁ with nat := strayState }
    strayAck.packet strayAck.interface icmpTypeDstunreachable 3 (by decide) outerInterface hinterface
  obtain ⟨events', hlog', herrors⟩ := srSendIcmp_errors hsend
  have hrun' : (ipAction twoSided true strayAck.packet strayAck.len).Runs natSem sr₁.nat
      (.sendIcmp strayAck.packet icmpTypeDstunreachable 3) strayState := by
    rw [hsends.nat]
    exact runs_strayAck
  obtain ⟨t₂, hsteps', hhandled'⟩ := routerSteps_ip_unguarded (x := (sr₁, t₁)) hhandled.ownersMatch
    hrun' hsend hlog'
  have hsends' := sends_srSendIcmp hsend
  have hcount : t₁.received.length = 1 := by
    rw [hhandled.received]
    rfl
  refine ⟨(sr₂, t₂), hsteps.trans hsteps', hsends'.nat, hsends'.cfg.trans hsends.cfg, ?_, ?_, ?_⟩
  · exact hhandled'.received.trans (congrArg (· ++ _) hhandled.received)
  · obtain ⟨o, ho⟩ := List.length_eq_one_iff.mp
      (hhandled'.ownersMatch [strayPkt] (congrArg SrNat.unsolPkt hsends'.nat))
    rcases hhandled'.owners o (ho ▸ List.mem_singleton_self o) with hmem | rfl
    · rw [howners] at hmem
      cases hmem
    · exact hcount ▸ ho
  · have herrors' := hhandled'.errors
    rw [herrors] at herrors'
    rw [herrors']
    exact List.mem_append_right _ (hcount ▸ List.mem_singleton_self _)

/-- Neither packet is meant for the list. -/
lemma not_isUnsolicitedSyn_stray {a : Arrival} (h : a ∈ [openingSyn, strayAck]) :
    ¬ IsUnsolicitedSyn twoSided a := by
  intro hsyn
  rcases List.mem_cons.mp h with rfl | h
  · exact hsyn.fromOutside srcPrivate_openingSyn
  · obtain rfl := List.mem_singleton.mp h
    exact not_isTcpSyn_strayAck hsyn.isSyn

/-- The list comes to hold an ACK, in a run from an empty list. -/
theorem strayAck_buffered : ∃ x c, RouterInit twoSided x ∧ x.1.nat.unsolPkt = .linked [] ∧
    RouterSteps unguarded twoSided true (.idle, x) c ∧ ¬ HoldsUnsolicitedSyns twoSided c.2 := by
  obtain ⟨x, hsteps, hnat, -, hreceived, -⟩ := steps_strayAck
  refine ⟨freshRouter, (.idle, x), routerInit_freshRouter, rfl, hsteps, ?_⟩
  rintro ⟨pkts, hlinked, hpkts⟩
  have hlist : x.1.nat.unsolPkt = .linked [strayPkt] := congrArg SrNat.unsolPkt hnat
  obtain rfl := UnsolList.linked.inj (hlinked.symm.trans hlist)
  obtain ⟨a, ha, hsyn, -⟩ := hpkts strayPkt (List.mem_singleton_self _)
  exact not_isUnsolicitedSyn_stray (hreceived ▸ ha) hsyn

end NatRouter
