import NatRouter.Router.Senders

/-!
# Packets without a route

An ICMP or TCP packet from inside to outside, to where the routing table has no route.  Its sender is
to be told so, and nothing else is to happen.  `nat_handle_icmp` looks the route up before it looks at
the table of mappings, `nat_handle_tcp` only after it has entered the packet there, and then it reads
through the null pointer: the sender is told exactly if the packet carries ICMP
(`unroutable_untouched_iff`).
-/

namespace NatRouter

open ByteMemory Interleaving

/-- An ICMP or TCP packet in transit from inside to outside, with more than one hop left and no
route. -/
structure Unroutable (cfg : NetConfig) (packet : ByteMem) : Prop where
  /-- It carries ICMP or TCP. -/
  transport : SrIpHdr.ipP packet = ipProtocolIcmp ∨ SrIpHdr.ipP packet = ipProtocolTcp
  /-- It comes from inside. -/
  src : srcPrivate packet
  /-- It goes outside. -/
  dst : ¬ dstPrivate packet
  /-- Its destination is not an address of the router. -/
  notRouter : isRouterIp cfg (SrIpHdr.ipDst packet) = false
  /-- It does not expire. -/
  ttl : 1 < (SrIpHdr.ipTtl packet).toNat
  /-- There is no route. -/
  route : srRtLookup cfg.routingTable (SrIpHdr.ipDst packet) = .ok none

/-- What has been added to the log says that one error was made, about the packet: its destination net
is unreachable. -/
def TellsUnreachable (packet : ByteMem) (interface : IfName) (log log' : List RouterEvent) : Prop :=
  ∃ events, log' = log ++ events ∧
    events.filter RouterEvent.isError = [.icmp packet interface icmpTypeDstunreachable 0]

/-- The sender of the packet has been told, once, that the destination net is unreachable, and the NAT
state is as it was. -/
structure ToldUnreachable (packet : ByteMem) (interface : IfName) (sr sr' : SrInstance) : Prop where
  /-- Nothing happened to the NAT. -/
  nat : sr'.nat = sr.nat
  /-- One error is made. -/
  tells : TellsUnreachable packet interface sr.log sr'.log
  /-- It goes to the source of the packet. -/
  toSender : ∃ len message, icmpIppacket (srGetInterface sr.cfg.ifList interface) packet
    icmpTypeDstunreachable 0 = .ok (len, message) ∧ SrIpHdr.ipDst message = SrIpHdr.ipSrc packet

section Tcp

variable {cfg : NetConfig} {p : ByteMem} {len : UInt32}

/-- A segment whose source is translated has a route, be it because the translation has written over
its destination. -/
lemma natTcpTranslateSource_routed {mapping : SrNatMappingCopy}
    (hroute : srRtLookup cfg.routingTable (SrIpHdr.ipDst p) = .ok none) :
    (natTcpTranslateSource cfg p len (ipHeaderLen p) mapping).Returns fun r =>
      ∃ lpm, srRtLookup cfg.routingTable (SrIpHdr.ipDst r.2) = .ok (some lpm) := by
  unfold natTcpTranslateSource
  simp only
  split
  · trivial
  · trivial
  · rename_i lpm hlookup
    have hbehind : 16 ≤ ipHeaderLen p := by
      by_contra hlt
      have hdst : SrIpHdr.ipDst (SrTcpHdr.setSrcPort p (ipHeaderLen p) (htons mapping.auxExt)) =
          SrIpHdr.ipDst p := by
        refine load32_store16_of_disjoint (.inl ?_)
        unfold ipHeaderLen at hlt ⊢
        omega
      rw [hdst, hroute] at hlookup
      cases hlookup
    split
    · trivial
    · rename_i i hi
      unfold natTcpUpdateChecksum
      simp only
      split
      · trivial
      · refine ⟨lpm, ?_⟩
        rw [← hlookup]
        unfold SrIpHdr.setIpSum SrIpHdr.setIpSrc SrTcpHdr.setChecksum SrIpHdr.ipDst
        simp (disch := omega) only [load32_store16_of_disjoint, load32_store32_of_disjoint]

/-- A segment without a route is refused, or there is one after all. -/
lemma natHandleTcp_routed (h : Unroutable cfg p) (isToNat : Bool) :
    (natHandleTcp cfg p len isToNat).Returns fun r =>
      r.1 = 0 ∨ ∃ lpm, srRtLookup cfg.routingTable (SrIpHdr.ipDst r.2) = .ok (some lpm) := by
  have htranslate : ∀ mapping, (natTcpTranslateSource cfg p len (ipHeaderLen p) mapping).Returns
      fun r => r.1 = 0 ∨ ∃ lpm, srRtLookup cfg.routingTable (SrIpHdr.ipDst r.2) = .ok (some lpm) :=
    fun mapping => (natTcpTranslateSource_routed h.route).imp fun _ => .inr
  rw [natHandleTcp_outbound h.src h.dst]
  intro r
  cases r with
  | none =>
    intro mapping conn
    cases conn with
    | none => trivial
    | some conn => exact htranslate mapping
  | some mapping =>
    intro conn
    cases conn with
    | none => exact .inl rfl
    | some conn => exact htranslate mapping

end Tcp

section Outcome

variable {ctx : Surroundings} {sr sr' : SrInstance} {packet : ByteMem} {len : UInt32}
  {interface : IfName}

/-- The destination of an unroutable packet is for the router if it is the broadcast address. -/
lemma Unroutable.isForRouter_iff {cfg : NetConfig} (h : Unroutable cfg packet) :
    isForRouter cfg (SrIpHdr.ipDst packet) = true ↔ SrIpHdr.ipDst packet = ipBroadcastAddr := by
  unfold isForRouter
  rw [h.notRouter, Bool.false_or, decide_eq_true_eq]

/-- It is not on its last hop. -/
lemma Unroutable.ttl_ne_one {cfg : NetConfig} (h : Unroutable cfg packet) :
    SrIpHdr.ipTtl packet ≠ 1 := by
  intro hone
  have hmore := h.ttl
  rw [hone] at hmore
  exact absurd hmore (by decide)

/-- `nat_handle_icmp` looks the route up first, and leaves the packet and the table alone. -/
lemma Unroutable.natHandleIcmp_eq {cfg : NetConfig} (h : Unroutable cfg packet) :
    natHandleIcmp cfg packet = .ret (0, packet) := by
  rw [natHandleIcmp_outbound h.src h.dst]
  simp only [natIcmpOutbound, h.route]

/-- Without that error in the log nobody has been told. -/
lemma not_tells_of_events {events : List RouterEvent} (hlog : sr'.log = sr.log ++ events)
    (hnone : events.filter RouterEvent.isError ≠ [.icmp packet interface icmpTypeDstunreachable 0]) :
    ¬ TellsUnreachable packet interface sr.log sr'.log := by
  rintro ⟨events', hlog', htold⟩
  obtain rfl : events = events' := List.append_cancel_left (hlog.symm.trans hlog')
  exact hnone htold

/-- A packet about which another message is sent. -/
lemma not_tells_of_sendIcmp {b : ByteMem} {type code : UInt8}
    (hother : ¬ (type = icmpTypeDstunreachable ∧ code = 0))
    (hsend : srSendIcmp ctx sr b interface type code = .ok sr') :
    ¬ TellsUnreachable packet interface sr.log sr'.log := by
  obtain ⟨events, hlog, herrors⟩ := srSendIcmp_errors hsend
  refine not_tells_of_events hlog ?_
  rw [herrors, List.filter_cons]
  split_ifs
  · intro htold
    obtain ⟨-, -, htype, hcode⟩ := RouterEvent.icmp.inj (List.head_eq_of_cons_eq htold)
    exact hother ⟨htype, hcode⟩
  · exact (List.cons_ne_nil _ _).symm

/-- A packet that is forwarded along a route. -/
lemma not_tells_of_forward {b : ByteMem} {lpm : SrRt}
    (hroute : srRtLookup sr.cfg.routingTable (SrIpHdr.ipDst b) = .ok (some lpm))
    (hforward : srForwardIppacket ctx sr b len interface = .ok sr') :
    ¬ TellsUnreachable packet interface sr.log sr'.log := by
  obtain ⟨hnone, -⟩ | ⟨lpm', -, ⟨i, frame, -, rfl⟩ | ⟨-, rfl⟩⟩ := srForwardIppacket_cases hforward
  · rw [hroute] at hnone
    cases hnone
  · exact not_tells_of_events (List.append_assoc ..) (List.cons_ne_nil _ _).symm
  · refine not_tells_of_events (List.append_assoc ..) ?_
    rw [List.filter_append, filter_isError_queued]
    exact (List.cons_ne_nil _ _).symm

/-- A segment that is refused, or has a route after all. -/
lemma not_tells_of_verdict {isToNat : Bool} {r : ℤ × ByteMem}
    (hrouted : r.1 = 0 ∨
      ∃ lpm, srRtLookup sr.cfg.routingTable (SrIpHdr.ipDst r.2) = .ok (some lpm))
    (hperform : perform ctx sr len interface (tcpVerdict isToNat r) = .ok sr') :
    ¬ TellsUnreachable packet interface sr.log sr'.log := by
  have hforward : r.1 ≠ 0 → srForwardIppacket ctx sr r.2 len interface = .ok sr' →
      ¬ TellsUnreachable packet interface sr.log sr'.log := by
    intro hcode hforward
    obtain hzero | ⟨lpm, hroute⟩ := hrouted
    · exact absurd hzero hcode
    · exact not_tells_of_forward hroute hforward
  unfold tcpVerdict at hperform
  split_ifs at hperform with hfor hone hminus hzero
  · exact hforward (by rw [hone]; decide) hperform
  · obtain rfl := Except.ok.inj hperform
    exact not_tells_of_events (List.append_nil _).symm (List.cons_ne_nil _ _).symm
  · exact not_tells_of_sendIcmp (fun hother => absurd hother.2 (by decide)) hperform
  · exact not_tells_of_sendIcmp (fun hother => absurd hother.2 (by decide)) hperform
  · exact hforward hzero hperform

/-- **The sender of a segment without a route is not told**: another error is sent, or the segment is
dropped or goes on. -/
lemma not_tells_tcp (h : Unroutable sr.cfg packet) (hon : sr.natEnabled = true)
    (hok : Accepted packet len) (htcp : SrIpHdr.ipP packet = ipProtocolTcp)
    (hrun : srHandleIppacket ctx sr packet len interface = .ok sr') :
    ¬ TellsUnreachable packet interface sr.log sr'.log := by
  have haction : ipAction sr.cfg sr.natEnabled packet len = (natHandleTcp sr.cfg packet len
      (isForRouter sr.cfg (SrIpHdr.ipDst packet))).map
        (tcpVerdict (isForRouter sr.cfg (SrIpHdr.ipDst packet))) := by
    rw [hon]
    exact ipAction_natTcp hok htcp rfl fun _ => h.ttl_ne_one
  unfold srHandleIppacket at hrun
  rw [haction] at hrun
  split at hrun
  · cases hrun
  · rename_i action nat' hmapped
    obtain ⟨r, hhandle, rfl⟩ := Prog.run_map_eq_ok.mp hmapped
    have hrouted := (natHandleTcp_routed h _).of_run hhandle
    exact @not_tells_of_verdict ctx { sr with nat := nat' } sr' packet len interface _ r hrouted hrun

/-- Nor is the sender of an ICMP message to the broadcast address. -/
lemma not_tells_broadcast (h : Unroutable sr.cfg packet) (hok : Accepted packet len)
    (hicmp : SrIpHdr.ipP packet = ipProtocolIcmp) (hdst : SrIpHdr.ipDst packet = ipBroadcastAddr)
    (hrun : srHandleIppacket ctx sr packet len interface = .ok sr') :
    ¬ TellsUnreachable packet interface sr.log sr'.log := by
  have hdrop : ∀ {nat' : SrNat}, perform ctx { sr with nat := nat' } len interface .drop = .ok sr' →
      ¬ TellsUnreachable packet interface sr.log sr'.log := by
    intro nat' hdrop
    obtain rfl := Except.ok.inj hdrop
    exact not_tells_of_events (List.append_nil _).symm (List.cons_ne_nil _ _).symm
  unfold srHandleIppacket at hrun
  rw [ipAction_of_accepted hok, if_pos (h.isForRouter_iff.mpr hdst), routerAction_icmp hicmp] at hrun
  simp only [icmpAction, h.natHandleIcmp_eq] at hrun
  split_ifs at hrun with hsum hecho hreply
  · exact not_tells_of_sendIcmp (fun hother => absurd hother.1 (by decide)) hrun
  · exact hdrop hrun
  · exact hdrop hrun
  · exact hdrop hrun

/-- **Packets without a route**: exactly if it carries ICMP, passes the tests, does not go to the
broadcast address and came in on an interface of the router, a packet without a route leaves the NAT as
it is and its sender is told. -/
theorem unroutable_untouched_iff (ctx : Surroundings) {sr : SrInstance} (hon : sr.natEnabled = true)
    {packet : ByteMem} (h : Unroutable sr.cfg packet) (len : UInt32) (interface : IfName) :
    (∃ sr', srHandleIppacket ctx sr packet len interface = .ok sr' ∧
        ToldUnreachable packet interface sr sr') ↔
      SrIpHdr.ipP packet = ipProtocolIcmp ∧ Accepted packet len ∧
        SrIpHdr.ipDst packet ≠ ipBroadcastAddr ∧
        ∃ i, srGetInterface sr.cfg.ifList interface = some i := by
  constructor
  · rintro ⟨sr', hrun, -, htells, len', message, hmessage, -⟩
    have hok : Accepted packet len := by
      by_contra hnot
      unfold srHandleIppacket at hrun
      rw [ipAction_of_not_accepted hnot] at hrun
      obtain rfl := Except.ok.inj hrun
      exact not_tells_of_events (List.append_nil _).symm (List.cons_ne_nil _ _).symm htells
    have hicmp : SrIpHdr.ipP packet = ipProtocolIcmp :=
      h.transport.resolve_right fun htcp => not_tells_tcp h hon hok htcp hrun htells
    refine ⟨hicmp, hok, fun hdst => not_tells_broadcast h hok hicmp hdst hrun htells, ?_⟩
    -- without the interface there is no message
    exact interface_of_icmpIppacket (by decide) hmessage
  · rintro ⟨hicmp, hok, hdst, i, hi⟩
    have hfor : isForRouter sr.cfg (SrIpHdr.ipDst packet) = false :=
      Bool.eq_false_iff.mpr fun hfor => hdst (h.isForRouter_iff.mp hfor)
    have haction : ipAction sr.cfg sr.natEnabled packet len = .ret (.forward packet) := by
      rw [ipAction_of_accepted hok, hfor]
      simp only [Bool.false_eq_true, if_false, transitAction, ipTtl_sub_one_iff,
        if_neg h.ttl_ne_one, hon, hicmp, and_self, if_true, h.natHandleIcmp_eq]
      rfl
    obtain ⟨sr', hsend⟩ := @srSendIcmp_of_interface ctx sr packet interface icmpTypeDstunreachable 0
      (by decide) i hi
    have hrun : srHandleIppacket ctx sr packet len interface = .ok sr' := by
      unfold srHandleIppacket
      rw [haction]
      change srForwardIppacket ctx sr packet len interface = .ok sr'
      unfold srForwardIppacket
      rw [h.route]
      exact hsend
    obtain ⟨events, hlog, herrors⟩ := srSendIcmp_errors hsend
    obtain ⟨len', message, hmessage, -⟩ := srSendIcmp_cases hsend
    exact ⟨sr', hrun, (sends_srSendIcmp hsend).nat, ⟨events, hlog, herrors⟩, len', message, hmessage,
      ipDst_icmpIppacket hmessage⟩

end Outcome

/-- The router `twoSided` has no route to 9.9.9.9. -/
lemma unroutable_twoSided {packet : ByteMem}
    (htransport : SrIpHdr.ipP packet = ipProtocolIcmp ∨ SrIpHdr.ipP packet = ipProtocolTcp)
    (hsrc : SrIpHdr.ipSrc packet = htonl 0x0a000102) (hdst : SrIpHdr.ipDst packet = htonl 0x09090909)
    (httl : SrIpHdr.ipTtl packet = 64) : Unroutable twoSided packet where
  transport := htransport
  src := by
    unfold srcPrivate
    rw [hsrc, ntohl_htonl]
    decide
  dst := by
    unfold dstPrivate
    rw [hdst, ntohl_htonl]
    decide
  notRouter := by
    rw [hdst]
    decide
  ttl := by
    rw [httl]
    decide
  route := by
    rw [hdst]
    rfl

/-- An echo request to 9.9.9.9, while a connection is open. -/
theorem unroutable_untouched_ping : Unroutable (natRouter synState).cfg
      (sealedMessage 64 8 0x0a000102 0x09090909 7).buf ∧
    ∃ sr', srHandleIppacket quietSurroundings (natRouter synState)
        (sealedMessage 64 8 0x0a000102 0x09090909 7).buf
        (sealedMessage 64 8 0x0a000102 0x09090909 7).len innerInterface.name = .ok sr' ∧
      ToldUnreachable (sealedMessage 64 8 0x0a000102 0x09090909 7).buf innerInterface.name
        (natRouter synState) sr' := by
  have hun : Unroutable (natRouter synState).cfg
      (sealedMessage 64 8 0x0a000102 0x09090909 7).buf :=
    unroutable_twoSided (.inl (ipP_sealedMessage ..)) (ipSrc_sealedMessage ..)
      (ipDst_sealedMessage ..) (ipTtl_sealedMessage ..)
  refine ⟨hun, (unroutable_untouched_iff quietSurroundings rfl hun _ _).mpr
    ⟨ipP_sealedMessage .., accepted_sealedMessage .., ?_, innerInterface, rfl⟩⟩
  rw [ipDst_sealedMessage]
  decide

/-- A SYN to 9.9.9.9: the router reads through the null pointer. -/
theorem unroutableSyn_crashes : Unroutable (natRouter startState).cfg
      (sealedSegment 64 2 0x0a000102 0x09090909 5000 80).buf ∧
    srHandleIppacket quietSurroundings (natRouter startState)
        (sealedSegment 64 2 0x0a000102 0x09090909 5000 80).buf
        (sealedSegment 64 2 0x0a000102 0x09090909 5000 80).len innerInterface.name =
      .error .nullDeref ∧
    ¬ ∃ sr', srHandleIppacket quietSurroundings (natRouter startState)
        (sealedSegment 64 2 0x0a000102 0x09090909 5000 80).buf
        (sealedSegment 64 2 0x0a000102 0x09090909 5000 80).len innerInterface.name = .ok sr' ∧
      ToldUnreachable (sealedSegment 64 2 0x0a000102 0x09090909 5000 80).buf innerInterface.name
        (natRouter startState) sr' := by
  have hun : Unroutable (natRouter startState).cfg
      (sealedSegment 64 2 0x0a000102 0x09090909 5000 80).buf :=
    unroutable_twoSided (.inr (ipP_sealedSegment ..)) (ipSrc_sealedSegment ..)
      (ipDst_sealedSegment ..) (ipTtl_sealedSegment ..)
  have hcrash : srHandleIppacket quietSurroundings (natRouter startState)
      (sealedSegment 64 2 0x0a000102 0x09090909 5000 80).buf
      (sealedSegment 64 2 0x0a000102 0x09090909 5000 80).len innerInterface.name =
        .error .nullDeref := by
    have hfor : isForRouter (natRouter startState).cfg
        (SrIpHdr.ipDst (sealedSegment 64 2 0x0a000102 0x09090909 5000 80).buf) = false := by
      rw [ipDst_sealedSegment]
      decide
    have httl : SrIpHdr.ipTtl (sealedSegment 64 2 0x0a000102 0x09090909 5000 80).buf ≠ 1 := by
      rw [ipTtl_sealedSegment]
      decide
    have habort : ∀ mapping, natTcpTranslateSource (natRouter startState).cfg
        (sealedSegment 64 2 0x0a000102 0x09090909 5000 80).buf
        (sealedSegment 64 2 0x0a000102 0x09090909 5000 80).len
        (ipHeaderLen (sealedSegment 64 2 0x0a000102 0x09090909 5000 80).buf) mapping =
          .abort .nullDeref := by
      intro mapping
      have hdst := congrArg TcpFields.ipDst (tcpFields_setSrcPort
        (sealedSegment 64 2 0x0a000102 0x09090909 5000 80).buf
        (sealedSegment 64 2 0x0a000102 0x09090909 5000 80).offset_ge (htons mapping.auxExt))
      have hlookup := hun.route
      rw [← show SrIpHdr.ipDst (SrTcpHdr.setSrcPort _ _ _) = SrIpHdr.ipDst _ from hdst] at hlookup
      simp only [natTcpTranslateSource, hlookup]
    have hinsert : ∃ c s', srNatInsertConnection (srNatInsertMapping startState 0
        (tcpKey (sealedSegment 64 2 0x0a000102 0x09090909 5000 80).buf).1
        (tcpKey (sealedSegment 64 2 0x0a000102 0x09090909 5000 80).buf).2 .natMappingTcp).2 0
        (toUint16 (findNextId startState.bitmap).1)
        (sealedSegment 64 2 0x0a000102 0x09090909 5000 80).buf .synSent = .ok (some c, s') := by
      simp [srNatInsertConnection, srNatInsertMapping, newMapping, startState, srNatInit,
        srNatRemoveUnsolicitedPacket]
    obtain ⟨c, s', hinsert⟩ := hinsert
    have hrun := @natTcpOutbound_run_none (natRouter startState).cfg
      (sealedSegment 64 2 0x0a000102 0x09090909 5000 80).buf
      (sealedSegment 64 2 0x0a000102 0x09090909 5000 80).len _ quiet startState c s' rfl hinsert
    unfold srHandleIppacket
    rw [show (natRouter startState).natEnabled = true from rfl,
      ipAction_natTcp (accepted_sealedSegment ..) (ipP_sealedSegment ..) hfor fun _ => httl,
      natHandleTcp_outbound hun.src hun.dst, Prog.run_map]
    rw [show (natRouter startState).nat = startState from rfl,
      show quietSurroundings.nat = quiet from rfl, hrun, habort]
    rfl
  refine ⟨hun, hcrash, ?_⟩
  rintro ⟨sr', hrun, -⟩
  rw [hcrash] at hrun
  cases hrun

end NatRouter
