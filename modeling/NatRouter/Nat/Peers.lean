import NatRouter.Nat.Flows
import NatRouter.Nat.Overlaps

/-!
# One internal port and many peers

A TCP mapping of an internal port can only be used towards a peer that it already has a connection
to.  `nat_handle_tcp` inserts a connection together with a new mapping and never into an existing
one: for any other peer the update finds no connection, the segment is put among the unsolicited
packets and is not translated.

A segment whose `ip_hl` is 3 or 4 has its source port inside the addresses of its IP header.  Then it
matters also which address the port is overwritten with, and where the destination leads that the port
has been written into (`PortSurvives`).
-/

namespace NatRouter

open ByteMemory PackedBits Interleaving Relation KeyedList

/-- What it means for an outgoing segment to be taken on by the mapping at `node` with the external
id `e`: it is translated with that id, and afterwards the mapping has a connection to its peer. -/
def TakenOn (s : SrNat) (cfg : NetConfig) (p : ByteMem) (len : UInt32) (isToNat : Bool)
    (amb : ℕ → Ambient) (node : NodeId) (e : UInt16) : Prop :=
  ∃ q s', (natHandleTcp cfg p len isToNat).run natExec amb s = .ok ((1, q), s') ∧
    SrTcpHdr.srcPort q (ipHeaderLen p) = htons e ∧
    ∃ m' ∈ s'.mappings, m'.node = node ∧ tcpDstPeer p ∈ m'.peers

/-- What an outgoing segment needs besides its connection to be sent with the external id `e` as its
source port. -/
structure PortSurvives (cfg : NetConfig) (p : ByteMem) (len : UInt32) (e : UInt16) : Prop where
  /-- The segment starts inside its packet. -/
  segment : 0 ≤ tcpSegmentLen len (ipHeaderLen p)
  /-- The destination has a route when the port has been written, and the address that is written last
  does not change a port that lies in its first half. -/
  route : ∃ lpm i, HasRoute cfg (routedDst p (ipHeaderLen p) (htons e)) lpm i ∧
    (SrIpHdr.ipHl p = 3 → firstHalf i.ip = htons e)

/-- With a complete header only the length of the segment counts. -/
lemma PortSurvives.of_hasRoute {cfg : NetConfig} {p : TcpPacket} {lpm : SrRt} {i : SrIf}
    (h : HasRoute cfg (SrIpHdr.ipDst p.buf) lpm i) (e : UInt16) :
    PortSurvives cfg p.buf p.len e where
  segment := p.tcpSegmentLen_nonneg
  route := by
    refine ⟨lpm, i, ?_, fun hshort => ?_⟩
    · rwa [routedDst_eq _ p.offset_ge]
    · have := p.headerLen
      omega

/-- The source port of a translated segment. -/
lemma srcPort_tcpSourced (p : ByteMem) (len : UInt32) (ip : UInt32) (port : UInt16) :
    SrTcpHdr.srcPort (tcpSourced p len (ipHeaderLen p) ip port) (ipHeaderLen p) =
      if SrIpHdr.ipHl p = 3 then firstHalf ip else port := by
  have ho := ipHeaderLen_even p
  unfold SrTcpHdr.srcPort
  unfold ipHeaderLen at ho ⊢
  rw [load16_tcpSourced ho ho (by omega), if_neg (by omega)]
  by_cases hshort : SrIpHdr.ipHl p = 3
  · rw [if_pos (by omega), if_pos hshort]
  · rw [if_neg (by omega), if_neg (by omega), if_pos rfl, if_neg hshort]

/-- With distinct keys, the internal lookup finds the mapping of the endpoint. -/
lemma lookupInternal_of_mem {s : SrNat} (hs : KeysUnique s) {m : SrNatMapping}
    (hm : m ∈ s.mappings) {ipInt : UInt32} {auxInt : UInt16} (hkey : m.key = (ipInt, auxInt))
    (type : SrNatMappingType) : srNatLookupInternal s ipInt auxInt type = some m.copy := by
  rw [srNatLookupInternal_eq, (find?_key_eq_some_iff hs).mpr ⟨hm, hkey⟩, Option.map_some]

/-- An outgoing segment to a peer that the mapping has a connection to comes out translated, or its
handler fails for want of what it needs. -/
lemma natHandleTcp_run_of_mem_peers {s : SrNat} (hheap : HeapOk s) (hkeys : KeysUnique s)
    {m : SrNatMapping} (hm : m ∈ s.mappings) {cfg : NetConfig} {p : ByteMem} {len : UInt32}
    (hkey : m.key = tcpKey p) (hsrc : srcPrivate p) (hdst : ¬ dstPrivate p)
    (hpeer : tcpDstPeer p ∈ m.peers) (isToNat : Bool) (amb : ℕ → Ambient) :
    ∃ s' amb', (natHandleTcp cfg p len isToNat).run natExec amb s =
        (natTcpTranslateSource cfg p len (ipHeaderLen p) m.copy).run natExec amb' s' ∧
      ∃ m' ∈ s'.mappings, m'.node = m.node ∧ tcpDstPeer p ∈ m'.peers := by
  obtain ⟨c, hc, hcpeer⟩ := List.mem_map.mp hpeer
  have hsome : (m.conns.find? (isPeer .internalToExternal p)).isSome :=
    List.find?_isSome.mpr ⟨c, hc, isPeer_out_iff.mpr hcpeer⟩
  obtain ⟨d, hd⟩ := Option.isSome_iff_exists.mp hsome
  have hupdate := srNatUpdateConnection_copy hheap hm (amb 1) p len .internalToExternal
  rw [hd] at hupdate
  -- storing the connection keeps the mapping and its peers
  have hflow := storeConn_flow hheap hm (List.mem_of_find?_eq_some hd)
    (show (updatedConnection (amb 1).now p d).node = d.node from rfl) rfl
  obtain ⟨m', hm', heq⟩ : ∃ m' ∈ (s.storeConn (updatedConnection (amb 1).now p d)).mappings,
      m'.flow = m.flow := List.mem_map.mp (hflow ▸ List.mem_map_of_mem hm)
  obtain ⟨hbare, hpeers⟩ := Prod.mk.inj heq
  refine ⟨_, fun n => amb (n + 1 + 1), ?_, m', hm', ?_, hpeers ▸ hpeer⟩
  · rw [natHandleTcp_outbound hsrc hdst]
    exact natTcpOutbound_run_some (lookupInternal_of_mem hkeys hm hkey .natMappingTcp) hupdate
  · rw [← m'.bare_node, hbare, m.bare_node]

/-- A mapping without a connection to the peer does not take the segment on: if anything is returned,
it is the code 0. -/
lemma code_eq_zero_of_not_mem_peers {s : SrNat} (hheap : HeapOk s) (hkeys : KeysUnique s)
    {m : SrNatMapping} (hm : m ∈ s.mappings) {cfg : NetConfig} {p : ByteMem} {len : UInt32}
    (hkey : m.key = tcpKey p) (hsrc : srcPrivate p) (hdst : ¬ dstPrivate p)
    (hpeer : tcpDstPeer p ∉ m.peers) {isToNat : Bool} {amb : ℕ → Ambient} {a : ℤ × ByteMem}
    {s' : SrNat} (hrun : (natHandleTcp cfg p len isToNat).run natExec amb s = .ok (a, s')) :
    a.1 = 0 := by
  have hnone : m.conns.find? (isPeer .internalToExternal p) = none := by
    refine List.find?_eq_none.mpr fun c hc hcpeer => hpeer ?_
    exact List.mem_map.mpr ⟨c, hc, isPeer_out_iff.mp hcpeer⟩
  have hlookup := lookupInternal_of_mem hkeys hm hkey .natMappingTcp
  have hupdate := srNatUpdateConnection_copy hheap hm (amb 1) p len .internalToExternal
  rw [hnone] at hupdate
  rw [natHandleTcp_outbound hsrc hdst] at hrun
  cases hins : srNatInsertUnsolicitedPacket (amb 1) s.unsolPkt p len with
  | error e =>
    simp only [hins] at hupdate
    rw [natTcpOutbound_run_error hlookup hupdate] at hrun
    cases hrun
  | ok unsol =>
    simp only [hins] at hupdate
    rw [natTcpOutbound_run_unsolicited hlookup hupdate] at hrun
    cases hrun
    rfl

/-- **Exactly the peers it knows.**  In every reachable state, an outgoing segment of an internal port
that has a mapping is taken on by that mapping if and only if the mapping has a connection to the
peer already, and the external port survives the translation. -/
theorem takenOn_iff_mem_peers {s₀ : SrNat} (hs₀ : IsInitial s₀) {c : NatConf}
    (h : NatSteps (.idle, s₀) c) {m : SrNatMapping} (hm : m ∈ c.2.mappings)
    {cfg : NetConfig} {p : ByteMem} (hkey : m.key = tcpKey p) (hsrc : srcPrivate p)
    (hdst : ¬ dstPrivate p) (len : UInt32) (isToNat : Bool) (amb : ℕ → Ambient) :
    TakenOn c.2 cfg p len isToNat amb m.node m.auxExt ↔
      tcpDstPeer p ∈ m.peers ∧ PortSurvives cfg p len m.auxExt := by
  have hheap : HeapOk c.2 := heapOk_of_steps (HeapOk.initial hs₀) h
  have hkeys : KeysUnique c.2 := (keysUnique_of_steps hs₀ h).1
  by_cases hpeer : tcpDstPeer p ∈ m.peers
  · obtain ⟨s', amb', hrun, hmapping⟩ :=
      @natHandleTcp_run_of_mem_peers _ hheap hkeys _ hm cfg p len hkey hsrc hdst hpeer isToNat amb
    constructor
    · rintro ⟨q, t, hok, hport, -⟩
      refine ⟨hpeer, ?_⟩
      rw [hrun] at hok
      rcases natTcpTranslateSource_cases cfg p len (ipHeaderLen p) m.copy with
        ⟨e, heq, -⟩ | ⟨lpm, i, heq, hlen, hroute⟩
      · rw [heq] at hok
        cases hok
      · rw [heq] at hok
        cases hok
        refine ⟨hlen, lpm, i, hroute, fun hshort => ?_⟩
        rwa [srcPort_tcpSourced, if_pos hshort] at hport
    · rintro ⟨-, hlen, lpm, i, hroute, hkept⟩
      refine ⟨tcpSourced p len (ipHeaderLen p) i.ip (htons m.auxExt), s', ?_, ?_, hmapping⟩
      · rw [hrun, @natTcpTranslateSource_eq cfg p len _ hlen lpm i m.copy hroute]
        rfl
      · rw [srcPort_tcpSourced]
        split_ifs with hshort
        · exact hkept hshort
        · rfl
  · refine iff_of_false ?_ fun hboth => hpeer hboth.1
    rintro ⟨q, s', hrun, -⟩
    exact one_ne_zero (code_eq_zero_of_not_mem_peers hheap hkeys hm hkey hsrc hdst hpeer hrun)

/-- A SYN from the port of `synState` to another host, 8.8.4.4:80. -/
def otherSyn : TcpPacket := tcpSegmentPacket 0x02 0x0a000001 0x08080404 5000 80

/-- A retransmitted SYN is taken on. -/
theorem takenOn_retransmission : TakenOn synState oneRoute outboundSyn.buf outboundSyn.len false quiet
    synStateMapping.node synStateMapping.auxExt := by
  have hkey : synStateMapping.key = tcpKey outboundSyn.buf := by
    simp [synStateMapping_key, tcpKey, outboundSyn, tcpSegmentPacket]
  have hroute : HasRoute oneRoute (SrIpHdr.ipDst outboundSyn.buf) outerRoute outerInterface := by
    simpa [outboundSyn, tcpSegmentPacket] using hasRoute_oneRoute
  refine (takenOn_iff_mem_peers isInitial_startState steps_synState
    (List.mem_singleton_self synStateMapping) hkey srcPrivate_outboundSyn not_dstPrivate_outboundSyn
    outboundSyn.len false quiet).mpr ⟨?_, .of_hasRoute hroute _⟩
  simp [synStateMapping, SrNatMapping.peers, SrNatConnection.peer, synConnection, tcpDstPeer,
    outboundSyn, tcpSegmentPacket]

/-- **A second peer is turned away**: in a reachable state with a TCP mapping, a SYN of its internal
port to another host is not taken on. -/
theorem not_takenOn_otherSyn : NatSteps (.idle, startState) (.idle, synState) ∧
    synStateMapping ∈ synState.mappings ∧ synStateMapping.type = .natMappingTcp ∧
    synStateMapping.key = tcpKey otherSyn.buf ∧ isTcpSyn otherSyn.buf ∧ srcPrivate otherSyn.buf ∧
    ¬ dstPrivate otherSyn.buf ∧
    HasRoute oneRoute (SrIpHdr.ipDst otherSyn.buf) outerRoute outerInterface ∧
    ¬ TakenOn synState oneRoute otherSyn.buf otherSyn.len false quiet synStateMapping.node
      synStateMapping.auxExt := by
  have hsrc : srcPrivate otherSyn.buf := by
    simp only [otherSyn, tcpSegmentPacket, srcPrivate_tcpSegment]
    decide
  have hdst : ¬ dstPrivate otherSyn.buf := by
    simp only [otherSyn, tcpSegmentPacket, dstPrivate_tcpSegment]
    decide
  have hkey : synStateMapping.key = tcpKey otherSyn.buf := by
    simp [synStateMapping_key, tcpKey, otherSyn, tcpSegmentPacket]
  have hroute : HasRoute oneRoute (SrIpHdr.ipDst otherSyn.buf) outerRoute outerInterface := by
    simpa [otherSyn, tcpSegmentPacket] using hasRoute_oneRoute'
  have hpeer : tcpDstPeer otherSyn.buf ∉ synStateMapping.peers := by
    simp [synStateMapping, SrNatMapping.peers, SrNatConnection.peer, synConnection, tcpDstPeer,
      otherSyn, tcpSegmentPacket, htonl_inj]
  refine ⟨steps_synState, List.mem_singleton_self _, rfl, hkey, ?_, hsrc, hdst, hroute, ?_⟩
  · simp only [otherSyn, tcpSegmentPacket, isTcpSyn_tcpSegment]
    decide
  · rintro ⟨q, s', hrun, -⟩
    have hkeys : KeysUnique synState := (keysUnique_of_steps isInitial_startState steps_synState).1
    exact one_ne_zero (code_eq_zero_of_not_mem_peers heapOk_synState hkeys
      (List.mem_singleton_self synStateMapping) hkey hsrc hdst hpeer hrun)

end NatRouter
