import NatRouter.Nat.Flows
import NatRouter.Nat.Unsolicited

/-!
# Simultaneous open

When a host inside opens a connection to a peer that has sent its external port a SYN, the queued SYN
should be dropped silently.  `sr_nat_remove_unsolicited_packet` is meant to do that, but it looks for
a queued packet with the addresses and ports of the outgoing segment, while the queued SYN goes the
other way.  And it is only called when a mapping is made.  So the queued SYN is never taken off
(`simultaneousOpen_notSilenced`).
-/

namespace NatRouter

open ByteMemory Interleaving Relation

/-- A SYN from the given peer to the given port, in network byte order. -/
def InboundSyn (q : ByteMem) (peerIp : UInt32) (peerPort extPort : UInt16) : Prop :=
  isTcpSyn q ∧ SrIpHdr.ipSrc q = peerIp ∧ SrTcpHdr.srcPort q (ipHeaderLen q) = peerPort ∧
    SrTcpHdr.dstPort q (ipHeaderLen q) = extPort

/-- No SYN from the peer to the port waits on the list, and no sweep reports one. -/
structure Silenced (s : SrNat) (peerIp : UInt32) (peerPort extPort : UInt16) : Prop where
  /-- The list is proper and does not hold one. -/
  removed : ∃ pkts, s.unsolPkt = .linked pkts ∧
    ∀ q ∈ pkts, ¬ InboundSyn q.ipPacket peerIp peerPort extPort
  /-- A sweep sends no message about one. -/
  unreported : ∀ rt now reported s', natTimeout rt now s = .ok (reported, s') →
    ∀ x ∈ reported, ¬ InboundSyn x.1.ipPacket peerIp peerPort extPort

/-- The sweeps while a packet may still wait. -/
def sweepWithin (q : SrNatUnsolPkt) (s s' : SrNat) : Prop :=
  ∃ rt now reported, now - q.lastUpdated ≤ defaultTcpSynTo ∧ natTimeout rt now s = .ok (reported, s')

/-- A simultaneous open: a SYN from outside waits on the list, and within its time a SYN to its sender
is translated, with the external port it was sent to. -/
structure SimultaneousOpen where
  /-- The NAT to begin with. -/
  start : SrNat
  /-- The NAT when the outgoing SYN comes. -/
  before : SrNat
  /-- The NAT when it has been translated. -/
  after : SrNat
  /-- The unsolicited list. -/
  pkts : List SrNatUnsolPkt
  /-- The SYN that waits. -/
  waiting : SrNatUnsolPkt
  /-- Interfaces and routes. -/
  cfg : NetConfig
  /-- The outgoing SYN. -/
  outgoing : ByteMem
  /-- Its length. -/
  len : UInt32
  /-- Whether it is addressed to the router. -/
  isToNat : Bool
  /-- The outgoing SYN as it is sent on. -/
  translated : ByteMem
  /-- The start is one of the NAT. -/
  isInitial : IsInitial start
  /-- Anything may have happened before. -/
  run : NatSteps (.idle, start) (.idle, before)
  /-- The list is proper. -/
  linked : before.unsolPkt = .linked pkts
  /-- The SYN is on it. -/
  mem : waiting ∈ pkts
  /-- The outgoing segment is a SYN. -/
  isSyn : isTcpSyn outgoing
  /-- It comes from inside. -/
  fromInside : srcPrivate outgoing
  /-- It goes outside. -/
  toOutside : ¬ dstPrivate outgoing
  /-- It is translated, before the time of the waiting SYN is up. -/
  handled : Steps natSem (sweepWithin waiting) natStart
    (.busy (.tcp cfg outgoing len isToNat) (natHandleTcp cfg outgoing len isToNat), before)
    (.busy (.tcp cfg outgoing len isToNat) (.ret (1, translated)), after)
  /-- The waiting SYN comes from its destination, and goes to the external port it gets. -/
  opposite : InboundSyn waiting.ipPacket (SrIpHdr.ipDst outgoing)
    (SrTcpHdr.dstPort outgoing (ipHeaderLen outgoing))
    (SrTcpHdr.srcPort translated (ipHeaderLen outgoing))

/-- The packet is on the list still, or the list is broken. -/
def StillQueued (q : SrNatUnsolPkt) (s : SrNat) : Prop :=
  s.unsolPkt = .dangling ∨ ∃ pkts, s.unsolPkt = .linked pkts ∧ q ∈ pkts

section Queued

variable {q : SrNatUnsolPkt} {s s' : SrNat} {p : ByteMem} {len : UInt32}

/-- The calls that handle a segment leave a packet from outside on the list. -/
lemma StillQueued.call (h : StillQueued q s) (hq : ¬ srcPrivate q.ipPacket) {c : NatCall}
    (hc : c.About p len) {r : c.Result} (hcall : natSem c s r s') : StillQueued q s' := by
  obtain ⟨amb, hcall⟩ := hcall
  have heffect := natExec_unsol hcall
  unfold StillQueued at h ⊢
  generalize s.unsolPkt = unsol, s'.unsolPkt = unsol' at h heffect ⊢
  cases heffect with
  | kept => exact h
  | broken => exact .inl rfl
  | appended =>
    rcases h with hdangling | ⟨pkts, hlinked, hmem⟩
    · cases hdangling
    · obtain rfl := UnsolList.linked.inj hlinked
      exact .inr ⟨_, rfl, List.mem_append_left _ hmem⟩
  | filtered hremoves =>
    rcases h with hdangling | ⟨pkts, hlinked, hmem⟩
    · cases hdangling
    · obtain rfl := UnsolList.linked.inj hlinked
      obtain ⟨rfl, hsrc⟩ := hc.of_removes hremoves
      refine .inr ⟨_, rfl, List.mem_filter.mpr ⟨hmem, ?_⟩⟩
      rw [sameSegment_eq_false hsrc hq]
      rfl

/-- A sweep within its time leaves a packet on the list. -/
lemma StillQueued.sweep (h : StillQueued q s) (hsweep : sweepWithin q s s') : StillQueued q s' := by
  obtain ⟨rt, now, reported, hwithin, hsweep⟩ := hsweep
  obtain ⟨pkts, hlinked, -, hkept⟩ := natTimeout_unsol hsweep
  right
  rcases h with hdangling | ⟨pkts', hlinked', hmem⟩
  · rw [hlinked] at hdangling
    cases hdangling
  · rw [hlinked] at hlinked'
    obtain rfl := UnsolList.linked.inj hlinked'
    refine ⟨_, hkept, List.mem_filter.mpr ⟨hmem, ?_⟩⟩
    have hyoung : ¬ (defaultTcpSynTo : ℤ) < now - q.lastUpdated := Int.not_lt.mpr hwithin
    unfold isReported
    split
    · simpa using hyoung
    · rfl

/-- The handlers leave a packet from outside on the list. -/
lemma StillQueued.always (h : StillQueued q s) (hq : ¬ srcPrivate q.ipPacket) (j : NatJob) :
    (natStart j).Always natSem (sweepWithin q) (StillQueued q) (fun _ => StillQueued q) s := by
  obtain ⟨p, len, hcalls⟩ : ∃ p len, (natStart j).Calls (NatCall.About p len) := by
    cases j with
    | icmp cfg p => exact ⟨p, 0, Prog.Calls.imp (fun _ hc => hc.about p 0) (natHandleIcmp_onMappings cfg p)⟩
    | tcp cfg p len isToNat => exact ⟨p, len, natHandleTcp_about cfg p len isToNat⟩
  exact Prog.always_of_calls (fun _ _ _ _ hc hs hcall => hs.call hq hc hcall)
    (fun _ _ hs hsweep => hs.sweep hsweep) hcalls h

/-- So does every run with sweeps within its time. -/
lemma StillQueued.steps (h : StillQueued q s) (hq : ¬ srcPrivate q.ipPacket) {j : NatJob}
    {c : NatConf} (hrun : Steps natSem (sweepWithin q) natStart (.busy j (natStart j), s) c) :
    StillQueued q c.2 := by
  have ht : (Thread.busy j (natStart j)).Always natSem (sweepWithin q) (StillQueued q)
      (fun _ _ => StillQueued q) s := h.always hq j
  exact (server_invariant (fun _ _ hs hsweep => hs.sweep hsweep) (fun j _ hs => hs.always hq j) h ht
    hrun).1

end Queued

/-- **Simultaneous open**: in no case is the waiting SYN silenced. -/
theorem simultaneousOpen_notSilenced (o : SimultaneousOpen) :
    ¬ Silenced o.after (SrIpHdr.ipDst o.outgoing)
      (SrTcpHdr.dstPort o.outgoing (ipHeaderLen o.outgoing))
      (SrTcpHdr.srcPort o.translated (ipHeaderLen o.outgoing)) := by
  have hq : ¬ srcPrivate o.waiting.ipPacket := by
    intro hsrc
    refine o.toOutside ?_
    unfold srcPrivate at hsrc
    unfold dstPrivate
    rwa [← o.opposite.2.1]
  have hbefore : StillQueued o.waiting o.before := .inr ⟨o.pkts, o.linked, o.mem⟩
  intro hsilenced
  obtain ⟨pkts, hlinked, hnone⟩ := hsilenced.removed
  rcases hbefore.steps hq o.handled with hdangling | ⟨pkts', hlinked', hmem⟩
  · rw [hlinked] at hdangling
    cases hdangling
  · rw [hlinked] at hlinked'
    obtain rfl := UnsolList.linked.inj hlinked'
    exact hnone _ hmem o.opposite

/-! ### A run with a simultaneous open -/

/-- A SYN from 8.8.8.8:80 to port 1024 of the router. -/
def peerSyn : TcpPacket := tcpSegmentPacket 0x02 0x08080808 0xac400301 80 1024

/-- Its copy on the list. -/
def peerSynPkt : SrNatUnsolPkt := ⟨copied peerSyn.buf 40 fun _ => 0, 0⟩

/-- The state when it waits. -/
def peerSynState : SrNat := { startState with unsolPkt := .linked [peerSynPkt] }

/-- The copy has the fields of the SYN. -/
lemma peerSynPkt_inboundSyn :
    InboundSyn peerSynPkt.ipPacket (htonl 0x08080808) (htons 80) (htons 1024) := by
  have hfields : tcpFields peerSynPkt.ipPacket 20 = tcpFields peerSyn.buf 20 :=
    tcpFields_copied (show 20 ≤ 40 by decide) (show 24 ≤ 40 by decide)
  have hseg : tcpFields peerSyn.buf 20 =
      ⟨5, 64, ipProtocolTcp, htonl 0x08080808, htonl 0xac400301, htons 80, htons 1024⟩ :=
    tcpFields_tcpSegment ..
  rw [hseg] at hfields
  have hlen : ipHeaderLen peerSynPkt.ipPacket = 20 := congrArg (fun f => f.ipHl * 4) hfields
  have hflags : peerSynPkt.ipPacket 33 = 0x02 := by
    have hcopied : copied peerSyn.buf 40 (fun _ => 0) 33 = peerSyn.buf 33 := if_pos (by decide)
    exact hcopied.trans (flags_tcpSegment 0x02 0x08080808 0xac400301 80 1024)
  refine ⟨?_, congrArg TcpFields.ipSrc hfields, ?_, ?_⟩
  · simp only [isTcpSyn, SrTcpHdr.syn, SrTcpHdr.ack, hlen, Nat.reduceAdd, hflags]
    decide
  · rw [hlen]
    exact congrArg TcpFields.srcPort hfields
  · rw [hlen]
    exact congrArg TcpFields.dstPort hfields

/-- It comes from outside. -/
lemma not_srcPrivate_peerSyn : ¬ srcPrivate peerSyn.buf := by
  simp only [peerSyn, tcpSegmentPacket, srcPrivate_tcpSegment]
  decide

/-- It is a SYN. -/
lemma isTcpSyn_peerSyn : isTcpSyn peerSyn.buf := by
  simp only [peerSyn, tcpSegmentPacket, isTcpSyn_tcpSegment]
  decide

/-- It is for port 1024. -/
lemma dstPort_peerSyn : ntohs (SrTcpHdr.dstPort peerSyn.buf (ipHeaderLen peerSyn.buf)) = 1024 := by
  simp only [peerSyn, tcpSegmentPacket, ipHeaderLen_tcpSegment, dstPort_tcpSegment, ntohs_htons]

/-- It is put on the list. -/
lemma runs_peerSyn : ∃ a, (natStart (.tcp oneRoute peerSyn.buf peerSyn.len true)).Runs natSem
    startState a peerSynState := by
  have hlookup : natSem (.lookupExternal 1024 .natMappingTcp) startState none startState :=
    ⟨⟨0, fun _ => 0⟩, rfl⟩
  have hinsert : natSem (.insertUnsolicitedPacket peerSyn.buf peerSyn.len) startState ()
      peerSynState := ⟨⟨0, fun _ => 0⟩, rfl⟩
  obtain ⟨k, hk, hnone, -⟩ := natTcpInbound_syn peerSyn.len isTcpSyn_peerSyn
  refine ⟨(-1, peerSyn.buf), ?_⟩
  rw [natStart, natHandleTcp_inbound not_srcPrivate_peerSyn, hk, dstPort_peerSyn]
  refine .call hlookup ?_
  rw [hnone]
  exact .call hinsert (.ret _ _)

/-- The state when a connection to its sender has been opened, from 10.0.0.1:5000. -/
def openedState : SrNat := { synState with unsolPkt := .linked [peerSynPkt] }

/-- That segment is another one than the SYN that waits. -/
lemma sameSegment_outboundSyn : sameSegment outboundSyn.buf peerSynPkt.ipPacket = false := by
  refine sameSegment_eq_false srcPrivate_outboundSyn ?_
  unfold srcPrivate
  rw [peerSynPkt_inboundSyn.2.1, ntohl_htonl]
  decide

/-- It gets the port 1024. -/
lemma runs_outboundSyn_peerSynState : ∃ q,
    (natStart (.tcp oneRoute outboundSyn.buf outboundSyn.len false)).Runs natSem peerSynState (1, q)
      openedState ∧ SrTcpHdr.srcPort q (ipHeaderLen outboundSyn.buf) = htons 1024 := by
  have hstate : HeapOk peerSynState := heapOk_waiting _
  have hheap := srNatInsertMapping_heapOk hstate 0 0x0a000001 5000 .natMappingTcp
  have hconn : newConnection (srNatInsertMapping peerSynState 0 0x0a000001 5000 .natMappingTcp).2 0
      outboundSyn.buf .synSent = synConnection := by
    simp [newConnection, outboundSyn, tcpSegmentPacket, synConnection, srNatInsertMapping,
      peerSynState, startState, srNatInit]
  have hinsert := srNatInsertConnection_head hheap rfl 0 outboundSyn.buf .synSent
  rw [hconn] at hinsert
  have hremove : srNatRemoveUnsolicitedPacket peerSynState.unsolPkt outboundSyn.buf =
      .ok (.linked [peerSynPkt]) := by
    simp [peerSynState, srNatRemoveUnsolicitedPacket, sameSegment_outboundSyn]
  rw [show (srNatInsertMapping peerSynState 0 0x0a000001 5000 .natMappingTcp).2.unsolPkt =
    peerSynState.unsolPkt from rfl, hremove] at hinsert
  have hroute := hasRoute_outboundSegment 0x02
  rw [← routedDst_eq _ le_rfl] at hroute
  have hrun := @natTcpOutbound_run_new oneRoute outboundSyn.buf outboundSyn.len 20 quiet peerSynState
    outboundSyn.tcpSegmentLen_nonneg outerRoute outerInterface _ _ hroute rfl hinsert
  refine ⟨_, @Prog.runs_of_run _ _ _ _ _ _ natExec _ quiet _ _ _ ?_,
    congrArg TcpFields.srcPort (tcpFields_tcpSourced outboundSyn.buf outboundSyn.len
      outboundSyn.offset_ge outerInterface.ip (htons 1024))⟩
  rw [natStart, natHandleTcp_outbound srcPrivate_outboundSyn not_dstPrivate_outboundSyn]
  exact hrun

/-- The SYN of the peer stays on the list when the connection to it is opened. -/
theorem simultaneousOpen_possible : ∃ o : SimultaneousOpen,
    o.before = peerSynState ∧ o.waiting = peerSynPkt ∧ o.outgoing = outboundSyn.buf ∧
      ¬ Silenced o.after (SrIpHdr.ipDst o.outgoing)
        (SrTcpHdr.dstPort o.outgoing (ipHeaderLen o.outgoing))
        (SrTcpHdr.srcPort o.translated (ipHeaderLen o.outgoing)) := by
  obtain ⟨a, hpeer⟩ := runs_peerSyn
  obtain ⟨q, hrun, hport⟩ := runs_outboundSyn_peerSynState
  have hjob : NatSteps (.idle, startState) (.idle, peerSynState) := hpeer.job
  have hsyn : isTcpSyn outboundSyn.buf := by
    simp only [outboundSyn, tcpSegmentPacket, isTcpSyn_tcpSegment]
    decide
  have hdst : SrIpHdr.ipDst outboundSyn.buf = htonl 0x08080808 := ipDst_tcpSegment ..
  have hdport : SrTcpHdr.dstPort outboundSyn.buf (ipHeaderLen outboundSyn.buf) = htons 80 := by
    simp only [outboundSyn, tcpSegmentPacket, ipHeaderLen_tcpSegment, dstPort_tcpSegment]
  have hopposite : InboundSyn peerSynPkt.ipPacket (SrIpHdr.ipDst outboundSyn.buf)
      (SrTcpHdr.dstPort outboundSyn.buf (ipHeaderLen outboundSyn.buf))
      (SrTcpHdr.srcPort q (ipHeaderLen outboundSyn.buf)) := by
    rw [hdst, hdport, hport]
    exact peerSynPkt_inboundSyn
  refine ⟨{
    start := startState
    before := peerSynState
    after := openedState
    pkts := [peerSynPkt]
    waiting := peerSynPkt
    cfg := oneRoute
    outgoing := outboundSyn.buf
    len := outboundSyn.len
    isToNat := false
    translated := q
    isInitial := isInitial_startState
    run := hjob
    linked := rfl
    mem := List.mem_cons_self
    isSyn := hsyn
    fromInside := srcPrivate_outboundSyn
    toOutside := not_dstPrivate_outboundSyn
    handled := hrun.steps _
    opposite := hopposite }, rfl, rfl, rfl, fun hsilenced => ?_⟩
  obtain ⟨pkts, hlinked, hnone⟩ := hsilenced.removed
  obtain rfl := UnsolList.linked.inj hlinked
  exact hnone _ List.mem_cons_self hopposite

end NatRouter
