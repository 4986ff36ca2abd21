import NatRouter.Nat.Allocation
import NatRouter.Nat.Flows

/-!
# The round trip

A packet that an inside host has sent out comes back to that host: the external id that the packet
carried leads, as long as its mapping stays in the table, to the internal endpoint it came from.

The external lookup finds the one mapping with that id (`IdsExact`), which is the mapping of the
endpoint (`KeysUnique`), and the connection of a TCP mapping is the one to the peer the packet was
sent to (`FlowsOk`).
-/

namespace NatRouter

open ByteMemory PackedBits Interleaving Relation KeyedList

/-- An ICMP message from outside with the identifier `e` behind a complete IP header is rewritten to the
endpoint `k`, and otherwise left as it is. -/
def RestoresIcmp (s : SrNat) (e : UInt16) (k : UInt32 × UInt16) : Prop :=
  ∀ (cfg : NetConfig) (r : ByteMem) (amb : ℕ → Ambient), 5 ≤ SrIpHdr.ipHl r → ¬ srcPrivate r →
    SrIcmpHdr.identifier r (ipHeaderLen r) = htons e →
    ∃ r', (natHandleIcmp cfg r).run natExec amb s = .ok ((1, r'), s) ∧
      icmpFields r' (ipHeaderLen r) = { icmpFields r (ipHeaderLen r) with
        ipDst := htonl k.1, identifier := htons k.2 }

/-- A TCP segment from outside to the router, other than a first SYN, from `peer` to the port `e`, is
rewritten to the endpoint `k`, and otherwise left as it is, if its IP header is complete and it begins
inside its packet. -/
def RestoresTcp (s : SrNat) (e : UInt16) (peer : UInt32 × UInt16) (k : UInt32 × UInt16) : Prop :=
  ∀ (cfg : NetConfig) (r : ByteMem) (len : UInt32) (amb : ℕ → Ambient), 5 ≤ SrIpHdr.ipHl r →
    0 ≤ tcpSegmentLen len (ipHeaderLen r) → ¬ srcPrivate r → ¬ isTcpSyn r →
    SrTcpHdr.dstPort r (ipHeaderLen r) = htons e → tcpSrcPeer r = peer →
    ∃ r' s', (natHandleTcp cfg r len true).run natExec amb s = .ok ((1, r'), s') ∧
      tcpFields r' (ipHeaderLen r) = { tcpFields r (ipHeaderLen r) with
        ipDst := htonl k.1, dstPort := htons k.2 }

/-- The external lookup finds the mapping that has the id. -/
lemma lookupExternal_of_mem {s : SrNat} (hs : IdsExact s) {m : SrNatMapping} (hm : m ∈ s.mappings)
    (type : SrNatMappingType) : srNatLookupExternal s m.auxExt type = some m.copy := by
  unfold srNatLookupExternal
  rw [(find?_key_eq_some_iff hs.nodup).mpr ⟨hm, rfl⟩, Option.map_some]

/-- The identifier of a mapping leads to its endpoint. -/
lemma restoresIcmp_of_mem {s : SrNat} (hs : IdsExact s) {m : SrNatMapping} (hm : m ∈ s.mappings) :
    RestoresIcmp s m.auxExt m.key := by
  intro cfg r amb hhl hsrc hid
  have ho : 20 ≤ ipHeaderLen r := by
    unfold ipHeaderLen
    omega
  rw [natHandleIcmp_inbound hsrc]
  have hlookup : srNatLookupExternal s (ntohs (SrIcmpHdr.identifier r (ipHeaderLen r)))
      .natMappingIcmp = some m.copy := by
    rw [hid, ntohs_htons]
    exact lookupExternal_of_mem hs hm .natMappingIcmp
  exact ⟨_, natIcmpInbound_run_found hlookup, icmpFields_icmpDestined _ ho _ _⟩

/-- The port of a mapping leads to its endpoint, for a peer it has a connection to. -/
lemma restoresTcp_of_mem {s : SrNat} (hheap : HeapOk s) (hs : IdsExact s) {m : SrNatMapping}
    (hm : m ∈ s.mappings) {peer : UInt32 × UInt16} (hpeer : peer ∈ m.peers) :
    RestoresTcp s m.auxExt peer m.key := by
  intro cfg r len amb hhl hsegment hsrc hsyn hport hfrom
  have ho : 20 ≤ ipHeaderLen r := by
    unfold ipHeaderLen
    omega
  rw [natHandleTcp_inbound hsrc]
  have hlookup : srNatLookupExternal s (ntohs (SrTcpHdr.dstPort r (ipHeaderLen r)))
      .natMappingTcp = some m.copy := by
    rw [hport, ntohs_htons]
    exact lookupExternal_of_mem hs hm .natMappingTcp
  -- the update finds a connection to the peer
  obtain ⟨c, hc, hcpeer⟩ := List.mem_map.mp hpeer
  have hsome : (m.conns.find? (isPeer .externalToInternal r)).isSome :=
    List.find?_isSome.mpr ⟨c, hc, isPeer_in_iff.mpr (hcpeer.trans hfrom.symm)⟩
  obtain ⟨d, hd⟩ := Option.isSome_iff_exists.mp hsome
  have hupdate := srNatUpdateConnection_copy hheap hm (amb 1) r len .externalToInternal
  rw [hd] at hupdate
  exact ⟨_, _, natTcpInbound_run_found hsegment hsyn hlookup hupdate,
    tcpFields_tcpDestined _ _ ho _ _⟩

/-- The peer of an outgoing TCP packet. -/
def NatJob.peer? : NatJob → Option (UInt32 × UInt16)
  | .icmp .. => none
  | .tcp _ p _ _ => some (tcpDstPeer p)

/-- The mapping of an outgoing packet that was translated, in the state after it. -/
lemma exists_mapping_of_translated {s s' : SrNat} (hs : HeapOk s) (hflows : FlowsOk s) {j : NatJob}
    (hout : j.Outbound) {q : ByteMem} (h : (natStart j).Runs natSem s (1, q) s') :
    ∃ m ∈ s'.mappings, m.key = j.key ∧ ∀ peer ∈ j.peer?, peer ∈ m.peers := by
  cases j with
  | icmp cfg p =>
    have hsrc : srcPrivate p := hout.src
    have hdst : ¬ dstPrivate p := hout.dst
    rw [natStart, natHandleIcmp_outbound hsrc hdst] at h
    obtain ⟨m, hm, hkey⟩ := (natIcmpOutbound_flowing hs hflows h).2 rfl
    exact ⟨m, hm, hkey, fun peer hpeer => by cases hpeer⟩
  | tcp cfg p len isToNat =>
    have hsrc : srcPrivate p := hout.src
    have hdst : ¬ dstPrivate p := hout.dst
    rw [natStart, natHandleTcp_outbound hsrc hdst] at h
    obtain ⟨m, hm, hkey, hpeers⟩ := (natTcpOutbound_flowing hs hflows h).2 rfl
    refine ⟨m, hm, hkey, ?_⟩
    intro peer hpeer
    obtain rfl : tcpDstPeer p = peer := Option.some.inj hpeer
    rw [hpeers]
    exact List.mem_singleton_self _

/-- **Round trip.**  In every sequential run from an initial state in which new mappings find an
external id: when an outgoing packet has been translated, its endpoint has a mapping with the id the
packet carries, and as long as this mapping stays in the table, ICMP messages with that identifier
are rewritten to the endpoint, and so are TCP segments to that port that come from the peer of the
packet. -/
theorem natRoundTrip {s₀ s₁ s₂ : SrNat} (hs₀ : IsInitial s₀)
    (h₁ : ReflTransGen (SeqStep natSemIdLeft) s₀ s₁) {j : NatJob} (hout : j.Outbound) {q : ByteMem}
    (h₂ : (natStart j).Runs natSemIdLeft s₁ (1, q) s₂) :
    ∃ m ∈ s₂.mappings, m.key = j.key ∧ m.auxExt = j.carriedId q ∧
      ∀ s₃, ReflTransGen (SeqStep natSemIdLeft) s₂ s₃ → (∃ m₃ ∈ s₃.mappings, m₃.node = m.node) →
        RestoresIcmp s₃ (j.carriedId q) j.key ∧
          ∀ peer ∈ j.peer?, RestoresTcp s₃ (j.carriedId q) peer j.key := by
  have h₁' : ReflTransGen (SeqStep natSem) s₀ s₁ := SeqStep.run_mono h₁
  have hflowing₁ : Flowing s₀ s₁ :=
    flowing_of_seqSteps (HeapOk.initial hs₀) (FlowsOk.initial hs₀) h₁'
  have h₂' : (natStart j).Runs natSem s₁ (1, q) s₂ := h₂.mono fun _ _ _ _ h => h.2
  have hflowing₂ : Flowing s₁ s₂ :=
    natStart_flowing hflowing₁.heapOk hflowing₁.flowsOk h₂'
  -- the mapping of the endpoint has the id that the packet carries
  have hsteps₂ : NatStepsIdLeft (.idle, s₀) (.busy j (.ret (1, q)), s₂) :=
    (SeqStep.steps h₁).trans (.head (.take j s₁) (h₂.steps j))
  obtain ⟨-, hthread⟩ := keysUnique_of_steps hs₀ hsteps₂.steps
  have hcarries : Carries s₂ j.key (j.carriedId q) := hthread.post.2 hout rfl
  obtain ⟨m, hm, hkey, hpeers⟩ :=
    exists_mapping_of_translated hflowing₁.heapOk hflowing₁.flowsOk hout h₂'
  refine ⟨m, hm, hkey, hcarries m hm hkey, fun s₃ h₃ ⟨m₃, hm₃, hnode⟩ => ?_⟩
  -- later it still has its id, its endpoint and its peer
  have hflowing₃ : Flowing s₂ s₃ :=
    flowing_of_seqSteps hflowing₂.heapOk hflowing₂.flowsOk (SeqStep.run_mono h₃)
  have hids₃ : IdsExact s₃ := idsExact_of_steps hs₀
    ((hsteps₂.tail (.finish j (1, q) s₂)).trans (SeqStep.steps h₃))
  obtain ⟨hbare, hpeers₃⟩ := Prod.mk.inj (hflowing₃.kept.eq_of_node_eq hflowing₂.heapOk hm hm₃ hnode)
  have hid₃ : m₃.auxExt = j.carriedId q := by
    rw [← m₃.bare_auxExt, ← hbare, m.bare_auxExt, hcarries m hm hkey]
  have hkey₃ : m₃.key = j.key := by
    rw [← m₃.bare_key, ← hbare, m.bare_key, hkey]
  rw [← hid₃, ← hkey₃]
  refine ⟨restoresIcmp_of_mem hids₃ hm₃, ?_⟩
  intro peer hpeer
  exact restoresTcp_of_mem hflowing₃.heapOk hids₃ hm₃ (hpeers₃ ▸ hpeers peer hpeer)

/-- The answer to a SYN comes back, also after a sweep. -/
theorem natRoundTrip_syn : ∃ q,
    (natStart (.tcp oneRoute outboundSyn.buf outboundSyn.len false)).Runs natSemIdLeft startState
      (1, q) synState ∧
    SeqStep natSemIdLeft synState synState ∧
    RestoresIcmp synState (ntohs (SrTcpHdr.srcPort q 20)) (0x0a000001, 5000) ∧
    RestoresTcp synState (ntohs (SrTcpHdr.srcPort q 20)) (htonl 0x08080808, htons 80)
      (0x0a000001, 5000) := by
  have hout : (NatJob.tcp oneRoute outboundSyn.buf outboundSyn.len false).Outbound :=
    ⟨srcPrivate_outboundSyn, not_dstPrivate_outboundSyn, outboundSyn.headerLen⟩
  obtain ⟨q, hjob⟩ := runs_outboundSyn
  have hstep : SeqStep natSemIdLeft synState synState := .sweep ⟨[], 1, [], rfl⟩
  obtain ⟨m, hm, -, -, hlater⟩ := natRoundTrip isInitial_startState .refl hout hjob
  obtain ⟨hicmp, htcp⟩ := hlater synState (.single hstep) ⟨m, hm, rfl⟩
  have hkey : (NatJob.tcp oneRoute outboundSyn.buf outboundSyn.len false).key =
      (0x0a000001, 5000) := by
    simp [NatJob.key, tcpKey, outboundSyn, tcpSegmentPacket]
  have hpeer : (NatJob.tcp oneRoute outboundSyn.buf outboundSyn.len false).peer? =
      some (htonl 0x08080808, htons 80) := by
    simp [NatJob.peer?, tcpDstPeer, outboundSyn, tcpSegmentPacket]
  rw [hkey] at hicmp htcp
  exact ⟨q, hjob, hstep, hicmp, htcp _ hpeer⟩

/-- An echo reply from 8.8.8.8 to the outside address of the router with the identifier that
`shortPing false` has left with. -/
def shortReply : IcmpPacket := icmpMessagePacket 0 0x08080808 0xac400301 44096

/-- Its identifier is no external id. -/
lemma lookupExternal_shortReply : srNatLookupExternal shortState
    (ntohs (SrIcmpHdr.identifier shortReply.buf (ipHeaderLen shortReply.buf))) .natMappingIcmp =
      none := by
  have hlen : ipHeaderLen shortReply.buf = 20 := ipHeaderLen_icmpMessage ..
  have hid : SrIcmpHdr.identifier shortReply.buf 20 = htons 44096 := identifier_icmpMessage ..
  rw [hlen, hid, ntohs_htons]
  decide +kernel

/-- **With a short header the round trip is lost.**  The packet is translated and its endpoint has a
mapping, but it carries a part of the address it goes out with in place of the external id: the reply to
it is left as it is. -/
theorem roundTrip_lost_shortPing : ∃ q, RightOutgoing (shortPing false) ∧
    (natStart (.icmp twoExits (shortPing false))).Runs natSemIdLeft startState (1, q) shortState ∧
    (∃ m ∈ shortState.mappings, m.key = icmpKey (shortPing false)) ∧
    SrIcmpHdr.identifier shortReply.buf 20 =
      htons ((NatJob.icmp twoExits (shortPing false)).carriedId q) ∧
    ¬ srcPrivate shortReply.buf ∧ SrIpHdr.ipDst shortReply.buf = outerInterface.ip ∧
    SrIcmpHdr.icmpType shortReply.buf 20 = 0 ∧
    ∀ amb, (natHandleIcmp twoExits shortReply.buf).run natExec amb shortState =
      .ok ((0, shortReply.buf), shortState) := by
  have hsrc : ¬ srcPrivate shortReply.buf := by
    simp only [shortReply, icmpMessagePacket, srcPrivate_icmpMessage]
    decide
  have hcarried : (NatJob.icmp twoExits (shortPing false)).carriedId
      (icmpSourced (shortPing false) 8 outerInterface.ip (htons 1024)) = 44096 := by
    decide +kernel
  refine ⟨_, rightOutgoing_shortPing false,
    natStart_runs_idLeft findNextId_startState runs_shortPing_first,
    ⟨_, List.mem_cons_self .., (icmpKey_shortPing false).symm⟩, ?_, hsrc, ipDst_icmpMessage ..,
    congrArg IcmpFields.icmpType (icmpFields_icmpMessage 0 0x08080808 0xac400301 44096), fun amb => ?_⟩
  · rw [hcarried]
    exact identifier_icmpMessage ..
  · rw [natHandleIcmp_inbound hsrc]
    exact natIcmpInbound_run_unknown lookupExternal_shortReply

end NatRouter
