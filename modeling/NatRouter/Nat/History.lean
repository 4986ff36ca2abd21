import NatRouter.Nat.Expiry
import NatRouter.Nat.Unsolicited

/-!
# The packets of a connection

A connection is opened by `sr_nat_insert_connection` and advanced by `sr_nat_update_connection`, one
packet at a time.  A run here also keeps a record of the packets that were applied so, each with the
node of the connection and the way it crossed the NAT (`HistorySteps`).  The record does not
influence the run (`HistorySteps.steps`, `NatSteps.exists_history`).

`stateAfter` is the state machine by itself, over a list of packets: the first opens the connection,
which is in `SYN_SENT` then whatever the packet is, and the others go through `_determine_state`.
All along a run, every stored connection is in the state that its own packets lead to, in their
order (`state_eq_stateAfter`).
-/

namespace NatRouter

open ByteMemory Interleaving Relation

/-- A packet of a connection, and the way it crosses the NAT. -/
structure Seen where
  /-- From which side to which. -/
  direction : Direction
  /-- The packet. -/
  packet : ByteMem

namespace Seen

/-- The `FIN` flag. -/
def fin (x : Seen) : Bool := SrTcpHdr.fin x.packet (ipHeaderLen x.packet)

/-- The `SYN` flag. -/
def syn (x : Seen) : Bool := SrTcpHdr.syn x.packet (ipHeaderLen x.packet)

/-- The `ACK` flag. -/
def ack (x : Seen) : Bool := SrTcpHdr.ack x.packet (ipHeaderLen x.packet)

/-- A SYN: `SYN` without `ACK`. -/
def isSyn (x : Seen) : Bool := x.syn && !x.ack

/-- A SYN+ACK. -/
def isSynAck (x : Seen) : Bool := x.syn && x.ack

end Seen

/-- A record of the packets applied to connections, by the node of the connection. -/
abbrev Record := List (NodeId × Seen)

/-- The packets applied to the connection at a node. -/
def history (record : Record) (node : NodeId) : List Seen :=
  (record.filter fun e => e.1 = node).map Prod.snd

/-- What a call applies to a connection. -/
def applied : (c : NatCall) → c.Result → Record
  | .insertConnection _ p _, some conn => [(conn.node, ⟨.internalToExternal, p⟩)]
  | .updateConnection _ p _ direction, some conn => [(conn.node, ⟨direction, p⟩)]
  | _, _ => []

/-- The calls of the handlers, with a record of the packets applied to connections. -/
def historySem : Sem NatCall NatCall.Result (SrNat × Record) := fun c x r x' =>
  natSem c x.1 r x'.1 ∧ x'.2 = x.2 ++ applied c r

/-- A sweep applies no packet. -/
def historyEnv (x x' : SrNat × Record) : Prop := natEnv x.1 x'.1 ∧ x'.2 = x.2

/-- A configuration of the system, with a record of the packets applied to connections. -/
abbrev HistoryConf := Thread NatCall NatCall.Result Fault (ℤ × ByteMem) NatJob × SrNat × Record

/-- Runs of the system, with a record of the packets applied to connections. -/
abbrev HistorySteps : HistoryConf → HistoryConf → Prop := Steps historySem historyEnv natStart

/-- A run with the record is a run. -/
lemma HistorySteps.steps {c c' : HistoryConf} (h : HistorySteps c c') :
    NatSteps (c.1, c.2.1) (c'.1, c'.2.1) := by
  obtain ⟨s, hsteps, rfl⟩ := @Steps.simulate _ _ _ _ _ _ historySem historyEnv natStart _ natSem
    natEnv (fun x s => s = x.1) (fun c x r x' s hc hs => ⟨x'.1, hs ▸ hc.1, rfl⟩)
    (fun x x' s he hs => ⟨x'.1, hs ▸ he.1, rfl⟩) _ _ h _ rfl
  exact hsteps

/-- Of every run a record can be kept. -/
lemma NatSteps.exists_history {c c' : NatConf} (h : NatSteps c c') (record : Record) :
    ∃ record', HistorySteps (c.1, c.2, record) (c'.1, c'.2, record') := by
  obtain ⟨⟨s, record'⟩, hsteps, hs⟩ := @Steps.simulate _ _ _ _ _ _ natSem natEnv natStart _
    historySem historyEnv (fun s x => x.1 = s)
    (fun c s r s' x hc hx => ⟨(s', x.2 ++ applied c r), ⟨hx ▸ hc, rfl⟩, rfl⟩)
    (fun s s' x he hx => ⟨(s', x.2), ⟨hx ▸ he, rfl⟩, rfl⟩) _ _ h (c.2, record) rfl
  obtain rfl : s = c'.2 := hs
  exact ⟨record', hsteps⟩

/-! ### The state machine -/

/-- `_determine_state` on the segment of a packet. -/
def advance (state : SrTcpStateType) (x : Seen) : SrTcpStateType :=
  determineState state x.packet (ipHeaderLen x.packet)

/-- The state that a list of packets leads to: the first opens the connection, the others update
it. -/
def stateAfter (h : List Seen) : SrTcpStateType := h.tail.foldl advance .synSent

/-- One packet more. -/
lemma stateAfter_concat {h : List Seen} (hne : h ≠ []) (x : Seen) :
    stateAfter (h ++ [x]) = advance (stateAfter h) x := by
  unfold stateAfter
  rw [List.tail_append_of_ne_nil hne, List.foldl_append]
  rfl

/-! ### Histories of the stored connections -/

/-- The packets applied so far, and some more. -/
lemma history_append (record record' : Record) (node : NodeId) :
    history (record ++ record') node = history record node ++ history record' node := by
  simp [history]

/-- A packet of the connection. -/
lemma history_self (node : NodeId) (x : Seen) : history [(node, x)] node = [x] := by
  simp [history]

/-- Packets of other connections. -/
lemma history_of_ne {record : Record} {node : NodeId} (h : ∀ e ∈ record, e.1 ≠ node) :
    history record node = [] := by
  simp only [history, List.map_eq_nil_iff, List.filter_eq_nil_iff, decide_eq_true_eq]
  exact h

/-- Connections are opened in `SYN_SENT`. -/
def NatCall.OpensSynSent : NatCall → Prop
  | .insertConnection _ _ state => state = .synSent
  | _ => True

/-- A call that inserts nothing opens no connection. -/
lemma NatCall.KeepsTable.opensSynSent {c : NatCall} (h : c.KeepsTable) : c.OpensSynSent := by
  cases c with
  | insertConnection extPort p state => exact h.elim
  | _ => trivial

/-- The handlers open connections in `SYN_SENT`. -/
lemma natStart_opensSynSent (j : NatJob) : (natStart j).Calls NatCall.OpensSynSent := by
  have hkeeps : ∀ {P : NatProg (ℤ × ByteMem)}, P.Calls NatCall.KeepsTable →
      P.Calls NatCall.OpensSynSent := fun hP => hP.imp fun _ hc => hc.opensSynSent
  have hstarts := natStart_starts j
  generalize natStart j = P at hstarts
  cases hstarts with
  | ret _ => trivial
  | @icmpOutbound cfg p hsrc hdst =>
    unfold natIcmpOutbound
    simp only
    split
    · trivial
    · trivial
    · refine ⟨trivial, fun r => ?_⟩
      rcases r with _ | mapping
      · exact ⟨trivial, fun mapping => natIcmpTranslateSource_calls cfg p _ _ mapping⟩
      · exact natIcmpTranslateSource_calls cfg p _ _ mapping
  | icmpInbound _ => exact hkeeps (natIcmpInbound_calls _ _)
  | @tcpOutbound cfg p len isToNat hsrc hdst =>
    refine ⟨trivial, fun r => ?_⟩
    rcases r with _ | mapping
    · refine ⟨trivial, fun mapping => ⟨rfl, fun conn => ?_⟩⟩
      rcases conn with _ | conn
      · trivial
      · exact natTcpTranslateSource_calls cfg p len _ mapping
    · refine ⟨trivial, fun conn => ?_⟩
      rcases conn with _ | conn
      · trivial
      · exact natTcpTranslateSource_calls cfg p len _ mapping
  | tcpInbound _ => exact hkeeps (natTcpInbound_calls _ _ _)

/-- A connection that was there before, with another connection opened: it stays as it was, or it is
the one that was opened. -/
lemma srNatInsertConnection_connections {s s' : SrNat} {now : Time} {extPort : UInt16} {p : ByteMem}
    {r : Option SrNatConnection} (hs : HeapOk s)
    (h : srNatInsertConnection s now extPort p .synSent = .ok (r, s')) {conn : SrNatConnection}
    (hconn : conn ∈ s'.connections) :
    (conn ∈ s.connections ∧ ∀ e ∈ applied (.insertConnection extPort p .synSent) r, e.1 ≠ conn.node) ∨
    ∃ x, applied (.insertConnection extPort p .synSent) r = [(conn.node, x)] ∧
      conn.node = s.nextNode ∧ conn.state = .synSent := by
  unfold srNatInsertConnection at h
  split at h
  · cases h
    exact .inl ⟨hconn, fun e he => absurd he List.not_mem_nil⟩
  · split at h
    · cases h
    cases h
    obtain ⟨m', hm', hmem⟩ := List.mem_flatMap.mp hconn
    obtain ⟨m, hm, rfl⟩ := List.mem_map.mp hm'
    have hold : conn ∈ m.conns → conn ∈ s.connections ∧ ∀ e ∈ applied (.insertConnection extPort
        p .synSent) (some (newConnection s now p .synSent)), e.1 ≠ conn.node := by
      intro hc
      refine ⟨List.mem_flatMap.mpr ⟨m, hm, hc⟩, fun e he => ?_⟩
      rw [List.mem_singleton.mp he]
      exact (hs.lt _ (SrNat.mem_nodes hm (SrNatMapping.conn_mem_nodes hc))).ne'
    split_ifs at hmem
    · rcases List.mem_cons.mp hmem with rfl | hc
      · exact .inr ⟨_, rfl, rfl, rfl⟩
      · exact .inl (hold hc)
    · exact .inl (hold hmem)

/-- A connection that is there after one has been updated: it is that one, advanced, or it has stayed
as it was. -/
lemma srNatUpdateConnection_connections {s s' : SrNat} {amb : Ambient} {mapping : SrNatMappingCopy}
    {p : ByteMem} {len : UInt32} {direction : Direction} {r : Option SrNatConnection}
    (h : srNatUpdateConnection s amb mapping p len direction = .ok (r, s')) {conn : SrNatConnection}
    (hconn : conn ∈ s'.connections) :
    (conn ∈ s.connections ∧
      ∀ e ∈ applied (.updateConnection mapping p len direction) r, e.1 ≠ conn.node) ∨
    ∃ old ∈ s.connections, ∃ x, old.node = conn.node ∧
      applied (.updateConnection mapping p len direction) r = [(conn.node, x)] ∧
      conn.state = advance old.state x := by
  cases r with
  | none =>
    obtain ⟨unsol, rfl⟩ := srNatUpdateConnection_none h
    exact .inl ⟨hconn, fun e he => absurd he List.not_mem_nil⟩
  | some c' =>
    obtain ⟨a, conns, old, -, hfrom, hold, -, rfl, rfl⟩ := srNatUpdateConnection_some h
    obtain ⟨m₀, hm₀, hsub⟩ := exists_of_connsFrom hfrom
    obtain ⟨m', hm', hmem⟩ := List.mem_flatMap.mp hconn
    obtain ⟨m, hm, rfl⟩ := List.mem_map.mp hm'
    obtain ⟨d, hd, hdc⟩ := List.mem_map.mp hmem
    split_ifs at hdc with hnode
    · subst hdc
      exact .inr ⟨old, List.mem_flatMap.mpr ⟨m₀, hm₀, hsub.subset hold⟩, _, rfl, rfl, rfl⟩
    · subst hdc
      refine .inl ⟨List.mem_flatMap.mpr ⟨m, hm, hd⟩, fun e he => ?_⟩
      rw [List.mem_singleton.mp he]
      exact fun heq => hnode heq.symm

/-- **What a call does to the connections of the table**: one that is stored afterwards was stored
before and has stayed as it was, or has been advanced by the packet that the call applied to it, or
has been opened by it. -/
lemma natExec_connections {amb : Ambient} {c : NatCall} {s s' : SrNat} {r : c.Result}
    (hs : HeapOk s) (hopens : c.OpensSynSent) (h : natExec amb c s = .ok (r, s'))
    {conn : SrNatConnection} (hconn : conn ∈ s'.connections) :
    (conn ∈ s.connections ∧ ∀ e ∈ applied c r, e.1 ≠ conn.node) ∨
    (∃ x, applied c r = [(conn.node, x)] ∧ conn.node = s.nextNode ∧ conn.state = .synSent) ∨
    ∃ old ∈ s.connections, ∃ x, old.node = conn.node ∧ applied c r = [(conn.node, x)] ∧
      conn.state = advance old.state x := by
  have hnone : ∀ e ∈ ([] : Record), e.1 ≠ conn.node := fun e he => absurd he List.not_mem_nil
  cases c with
  | lookupExternal auxExt type =>
    cases h
    exact .inl ⟨hconn, hnone⟩
  | lookupInternal ipInt auxInt type =>
    cases h
    exact .inl ⟨hconn, hnone⟩
  | insertMapping ipInt auxInt type =>
    cases h
    obtain ⟨m', hm', hmem⟩ := List.mem_flatMap.mp hconn
    rcases List.mem_cons.mp hm' with rfl | hm
    · exact absurd hmem List.not_mem_nil
    · exact .inl ⟨List.mem_flatMap.mpr ⟨m', hm, hmem⟩, hnone⟩
  | insertConnection extPort p state =>
    obtain rfl : state = .synSent := hopens
    exact (srNatInsertConnection_connections hs h hconn).imp_right .inl
  | updateConnection mapping p len direction =>
    exact (srNatUpdateConnection_connections h hconn).imp_right .inr
  | insertUnsolicitedPacket p len =>
    cases hins : srNatInsertUnsolicitedPacket amb s.unsolPkt p len with
    | error e => simp [natExec, hins] at h
    | ok unsol =>
      simp only [natExec, hins] at h
      cases h
      exact .inl ⟨hconn, hnone⟩

/-- A stored connection has been allocated. -/
lemma HeapOk.connection_lt {s : SrNat} (hs : HeapOk s) {c : SrNatConnection}
    (hc : c ∈ s.connections) : c.node < s.nextNode := by
  obtain ⟨m, hm, hmem⟩ := List.mem_flatMap.mp hc
  exact hs.lt _ (SrNat.mem_nodes hm (SrNatMapping.conn_mem_nodes hmem))

/-- Packets are applied to allocated connections. -/
lemma applied_lt {amb : Ambient} {c : NatCall} {s s' : SrNat} {r : c.Result} (hs : HeapOk s)
    (h : natExec amb c s = .ok (r, s')) : ∀ e ∈ applied c r, e.1 < s'.nextNode := by
  cases c with
  | insertConnection extPort p state =>
    change srNatInsertConnection s amb.now extPort p state = .ok (r, s') at h
    unfold srNatInsertConnection at h
    split at h
    · cases h
      exact fun e he => absurd he List.not_mem_nil
    · split at h
      · cases h
      · cases h
        intro e he
        rw [List.mem_singleton.mp he]
        exact Nat.lt_succ_self s.nextNode
  | updateConnection mapping p len direction =>
    change srNatUpdateConnection s amb mapping p len direction = .ok (r, s') at h
    rcases r with _ | c'
    · exact fun e he => absurd he List.not_mem_nil
    · obtain ⟨a, conns, old, -, hfrom, hold, -, rfl, rfl⟩ := srNatUpdateConnection_some h
      obtain ⟨m, hm, hsub⟩ := exists_of_connsFrom hfrom
      intro e he
      rw [List.mem_singleton.mp he]
      exact hs.connection_lt (c := old) (List.mem_flatMap.mpr ⟨m, hm, hsub.subset hold⟩)
  | _ => exact fun e he => absurd he List.not_mem_nil

/-- The record speaks of allocated nodes, and every stored connection is in the state that its
packets lead to. -/
structure HistoriesOk (x : SrNat × Record) : Prop where
  /-- The nodes are in order. -/
  heapOk : HeapOk x.1
  /-- A node with a history has been allocated. -/
  lt : ∀ e ∈ x.2, e.1 < x.1.nextNode
  /-- A stored connection has been opened by a packet. -/
  ne_nil : ∀ c ∈ x.1.connections, history x.2 c.node ≠ []
  /-- Its state is the one that its packets lead to. -/
  state_eq : ∀ c ∈ x.1.connections, c.state = stateAfter (history x.2 c.node)

section Histories

variable {x x' : SrNat × Record}

/-- Every call keeps the histories right. -/
lemma HistoriesOk.call (h : HistoriesOk x) {c : NatCall} {r : c.Result} (hopens : c.OpensSynSent)
    (hcall : historySem c x r x') : HistoriesOk x' := by
  obtain ⟨s, record⟩ := x
  obtain ⟨s', record'⟩ := x'
  obtain ⟨hsem, hrecord⟩ := hcall
  obtain rfl : record' = record ++ applied c r := hrecord
  obtain ⟨amb, hexec⟩ := hsem
  have hheap : HeapOk s' := natExec_heapOk h.heapOk hexec
  have hnext : s.nextNode ≤ s'.nextNode := (natSem_keptBare ⟨amb, hexec⟩).nextNode_le
  have hconn := fun conn => @natExec_connections _ _ _ _ _ h.heapOk hopens hexec conn
  have hstate : ∀ conn ∈ s'.connections, history (record ++ applied c r) conn.node ≠ [] ∧
      conn.state = stateAfter (history (record ++ applied c r) conn.node) := by
    intro conn hmem
    rw [history_append]
    rcases hconn conn hmem with ⟨hold, hother⟩ | ⟨y, happlied, hnode, hsyn⟩ |
      ⟨old, hold, y, hnode, happlied, hadvance⟩
    · rw [history_of_ne hother, List.append_nil]
      exact ⟨h.ne_nil conn hold, h.state_eq conn hold⟩
    · -- the node is new, so nothing has been applied to it before
      have hnone : history record conn.node = [] :=
        history_of_ne fun e he => (hnode ▸ h.lt e he).ne
      rw [hnone, happlied, history_self, List.nil_append, hsyn]
      exact ⟨List.cons_ne_nil _ _, rfl⟩
    · rw [happlied, history_self]
      refine ⟨by simp, ?_⟩
      rw [stateAfter_concat (hnode ▸ h.ne_nil old hold), hadvance, h.state_eq old hold, hnode]
  refine ⟨hheap, ?_, fun conn hmem => (hstate conn hmem).1, fun conn hmem => (hstate conn hmem).2⟩
  intro e he
  rcases List.mem_append.mp he with he | he
  · exact (h.lt e he).trans_le hnext
  · exact applied_lt h.heapOk hexec e he

/-- A sweep only removes connections. -/
lemma HistoriesOk.env (h : HistoriesOk x) (he : historyEnv x x') : HistoriesOk x' := by
  obtain ⟨s, record⟩ := x
  obtain ⟨s', record'⟩ := x'
  obtain ⟨hsweep, hrecord⟩ := he
  obtain rfl : record' = record := hrecord
  have hheap : HeapOk s' := natEnv_heapOk h.heapOk hsweep
  have hnext : s.nextNode ≤ s'.nextNode := (natEnv_keptBare hsweep).nextNode_le
  have hsub : ∀ c ∈ s'.connections, c ∈ s.connections := by
    obtain ⟨rt, t, reported, hsweep⟩ := hsweep
    intro c hc
    rw [connections_of_sweep hsweep] at hc
    obtain ⟨m, hm, hmem⟩ := List.mem_flatMap.mp hc
    exact List.mem_flatMap.mpr ⟨m, hm, List.mem_of_mem_filter hmem⟩
  exact ⟨hheap, fun e he => (h.lt e he).trans_le hnext, fun c hc => h.ne_nil c (hsub c hc),
    fun c hc => h.state_eq c (hsub c hc)⟩

/-- In every run the histories are right. -/
lemma historiesOk_of_steps {s₀ : SrNat} (hs₀ : IsInitial s₀) {c : HistoryConf}
    (h : HistorySteps (.idle, s₀, []) c) : HistoriesOk c.2 := by
  have hinit : HistoriesOk (s₀, []) := by
    obtain ⟨icmpTo, estabTo, transTo, unsol, rfl⟩ := hs₀
    exact ⟨HeapOk.initial ⟨_, _, _, _, rfl⟩, by simp, by simp [SrNat.connections, srNatInit],
      by simp [SrNat.connections, srNatInit]⟩
  have henv : ∀ x x', HistoriesOk x → historyEnv x x' → HistoriesOk x' := fun _ _ hx he => hx.env he
  exact (server_invariant_of_idle henv (fun j _ hx => Prog.always_of_calls
    (fun _ _ _ _ hopens hx hcall => hx.call hopens hcall) henv (natStart_opensSynSent j) hx)
    hinit h).1

end Histories

/-! ### One connection, packet by packet -/

/-- A segment from 8.8.8.8:80 to port 1024 of the router, an answer to `outboundSegment`. -/
def inboundSegment (flags : UInt8) : TcpPacket :=
  tcpSegmentPacket flags 0x08080808 0xac400301 80 1024

/-- A segment of the flow, by its direction and its flags, as the NAT sees it. -/
def seenSegment : Direction → UInt8 → Seen
  | .internalToExternal, flags => ⟨.internalToExternal, (outboundSegment flags).buf⟩
  | .externalToInternal, flags => ⟨.externalToInternal, (inboundSegment flags).buf⟩

/-- The connection of the two segments in a given state. -/
def connectionIn (state : SrTcpStateType) : SrNatConnection := { synConnection with state := state }

/-- Its mapping. -/
def mappingIn (state : SrTcpStateType) : SrNatMapping :=
  { synMapping with conns := [connectionIn state] }

/-- The table with that mapping. -/
def stateIn (state : SrTcpStateType) : SrNat := { synState with mappings := [mappingIn state] }

/-- Its nodes are in order. -/
lemma heapOk_stateIn (state : SrTcpStateType) : HeapOk (stateIn state) :=
  heapOk_synState.of_nodes_eq rfl le_rfl

/-- The history that a segment from inside and then some others make. -/
def segmentHistory (flags : UInt8) (segments : List (Direction × UInt8)) : List Seen :=
  seenSegment .internalToExternal flags :: segments.map fun y => seenSegment y.1 y.2

section Flags

variable (direction : Direction) (flags : UInt8)

@[simp] lemma direction_seenSegment : (seenSegment direction flags).direction = direction := by
  cases direction <;> rfl

@[simp] lemma fin_seenSegment :
    (seenSegment direction flags).fin = flags.toBitVec.getLsbD 0 := by
  cases direction <;> simp [Seen.fin, seenSegment, outboundSegment, inboundSegment,
    tcpSegmentPacket, SrTcpHdr.fin, flags_tcpSegment]

@[simp] lemma syn_seenSegment :
    (seenSegment direction flags).syn = flags.toBitVec.getLsbD 1 := by
  cases direction <;> simp [Seen.syn, seenSegment, outboundSegment, inboundSegment,
    tcpSegmentPacket, SrTcpHdr.syn, flags_tcpSegment]

@[simp] lemma ack_seenSegment :
    (seenSegment direction flags).ack = flags.toBitVec.getLsbD 4 := by
  cases direction <;> simp [Seen.ack, seenSegment, outboundSegment, inboundSegment,
    tcpSegmentPacket, SrTcpHdr.ack, flags_tcpSegment]

/-- The next state depends on the flags only. -/
lemma advance_seenSegment (state : SrTcpStateType) :
    advance state (seenSegment direction flags) = determineState state (fun _ => flags) 0 := by
  cases direction <;> simp [advance, determineState, seenSegment, outboundSegment,
    inboundSegment, tcpSegmentPacket, SrTcpHdr.fin, SrTcpHdr.syn, SrTcpHdr.ack, flags_tcpSegment]

end Flags

section Runs

variable (flags : UInt8) (state : SrTcpStateType) (record : Record)

/-- How a segment from inside is handled. -/
lemma natTcpOutbound_eq {cfg : NetConfig} {p : ByteMem} {len : UInt32} {o : ℕ} {ipInt : UInt32}
    {auxInt : UInt16} (hip : ntohl (SrIpHdr.ipSrc p) = ipInt)
    (hport : ntohs (SrTcpHdr.srcPort p o) = auxInt) : ∃ k,
    natTcpOutbound cfg p len o = .call (.lookupInternal ipInt auxInt .natMappingTcp) k ∧
      (∃ k', k none = .call (.insertMapping ipInt auxInt .natMappingTcp) k' ∧
        ∀ mapping, ∃ k'', k' mapping = .call (.insertConnection mapping.auxExt p .synSent) k'' ∧
          ∀ conn, k'' (some conn) = natTcpTranslateSource cfg p len o mapping) ∧
      ∀ mapping, ∃ k',
        k (some mapping) = .call (.updateConnection mapping p len .internalToExternal) k' ∧
          ∀ conn, k' (some conn) = natTcpTranslateSource cfg p len o mapping := by
  subst hip hport
  exact ⟨_, rfl, ⟨_, rfl, fun _ => ⟨_, rfl, fun _ => rfl⟩⟩, fun _ => ⟨_, rfl, fun _ => rfl⟩⟩

/-- The calls that it comes to. -/
lemma natStart_outboundSegment : ∃ k,
    natStart (.tcp oneRoute (outboundSegment flags).buf (outboundSegment flags).len false) =
        .call (.lookupInternal 0x0a000001 5000 .natMappingTcp) k ∧
      (∃ k', k none = .call (.insertMapping 0x0a000001 5000 .natMappingTcp) k' ∧
        ∀ mapping, ∃ k'', k' mapping =
            .call (.insertConnection mapping.auxExt (outboundSegment flags).buf .synSent) k'' ∧
          ∀ conn, ∃ q, k'' (some conn) = .ret (1, q)) ∧
      ∀ mapping, ∃ k', k (some mapping) =
          .call (.updateConnection mapping (outboundSegment flags).buf (outboundSegment flags).len
            .internalToExternal) k' ∧
        ∀ conn, ∃ q, k' (some conn) = .ret (1, q) := by
  have hsource : ∀ mapping, ∃ q, natTcpTranslateSource oneRoute (outboundSegment flags).buf
      (outboundSegment flags).len (ipHeaderLen (outboundSegment flags).buf) mapping =
        .ret (1, q) := by
    intro mapping
    have hroute := hasRoute_outboundSegment flags
    rw [← routedDst_eq _ (outboundSegment flags).offset_ge] at hroute
    exact ⟨_, natTcpTranslateSource_eq (outboundSegment flags).tcpSegmentLen_nonneg hroute⟩
  have hip : ntohl (SrIpHdr.ipSrc (outboundSegment flags).buf) = 0x0a000001 := by
    simp [outboundSegment, tcpSegmentPacket]
  have hport : ntohs (SrTcpHdr.srcPort (outboundSegment flags).buf
      (ipHeaderLen (outboundSegment flags).buf)) = 5000 := by
    simp [outboundSegment, tcpSegmentPacket]
  rw [natStart, natHandleTcp_outbound (srcPrivate_outboundSegment flags)
    (not_dstPrivate_outboundSegment flags)]
  obtain ⟨k, hk, ⟨k', hk', hnone⟩, hsome⟩ := @natTcpOutbound_eq oneRoute _ (outboundSegment flags).len _ _ _ hip hport
  refine ⟨k, hk, ⟨k', hk', fun mapping => ?_⟩, fun mapping => ?_⟩
  · obtain ⟨k'', hk'', hrest⟩ := hnone mapping
    exact ⟨k'', hk'', fun conn => hrest conn ▸ hsource mapping⟩
  · obtain ⟨k'', hk'', hrest⟩ := hsome mapping
    exact ⟨k'', hk'', fun conn => hrest conn ▸ hsource mapping⟩

/-- A segment from inside opens the connection. -/
lemma historySteps_open : HistorySteps (.idle, startState, [])
    (.idle, stateIn .synSent, [(1, seenSegment .internalToExternal flags)]) := by
  obtain ⟨k, hk, ⟨k', hk', hrest⟩, -⟩ := natStart_outboundSegment flags
  obtain ⟨k'', hk'', hrest⟩ := hrest synMapping.copy
  obtain ⟨q, hq⟩ := hrest synConnection
  have hlookup : historySem (.lookupInternal 0x0a000001 5000 .natMappingTcp) (startState, []) none
      (startState, []) := ⟨⟨quiet 0, rfl⟩, rfl⟩
  have hmapping : historySem (.insertMapping 0x0a000001 5000 .natMappingTcp) (startState, [])
      synMapping.copy ((srNatInsertMapping startState 0 0x0a000001 5000 .natMappingTcp).2, []) :=
    ⟨⟨quiet 0, rfl⟩, rfl⟩
  have hconn : historySem
      (.insertConnection synMapping.copy.auxExt (outboundSegment flags).buf .synSent)
      ((srNatInsertMapping startState 0 0x0a000001 5000 .natMappingTcp).2, []) (some synConnection)
      (stateIn .synSent, [(1, seenSegment .internalToExternal flags)]) :=
    ⟨⟨quiet 0, insertConnection_outboundSegment flags⟩, rfl⟩
  have hrun : (natStart (.tcp oneRoute (outboundSegment flags).buf (outboundSegment flags).len
      false)).Runs historySem (startState, []) (1, q)
      (stateIn .synSent, [(1, seenSegment .internalToExternal flags)]) := by
    rw [hk]
    refine .call hlookup ?_
    rw [hk']
    refine .call hmapping ?_
    rw [hk'']
    refine .call hconn ?_
    rw [hq]
    exact .ret _ _
  exact hrun.job

/-- The update of the connection. -/
lemma historySem_update {p : ByteMem} {len : UInt32} {direction : Direction}
    (hpeer : isPeer direction p (connectionIn state) = true) :
    historySem (.updateConnection (mappingIn state).copy p len direction)
      (stateIn state, record) (some (connectionIn (advance state ⟨direction, p⟩)))
      (stateIn (advance state ⟨direction, p⟩), record ++ [(1, ⟨direction, p⟩)]) := by
  have hupdate := srNatUpdateConnection_copy (heapOk_stateIn state) (m := mappingIn state)
    (List.mem_singleton_self _) (quiet 0) p len direction
  have hfind : (mappingIn state).conns.find? (isPeer direction p) = some (connectionIn state) :=
    List.find?_cons_of_pos hpeer
  rw [hfind] at hupdate
  exact ⟨⟨quiet 0, hupdate⟩, rfl⟩

/-- A segment from inside advances it. -/
lemma historySteps_outbound : HistorySteps (.idle, stateIn state, record)
    (.idle, stateIn (advance state (seenSegment .internalToExternal flags)),
      record ++ [(1, seenSegment .internalToExternal flags)]) := by
  obtain ⟨k, hk, -, hrest⟩ := natStart_outboundSegment flags
  obtain ⟨k', hk', hrest⟩ := hrest (mappingIn state).copy
  obtain ⟨q, hq⟩ := hrest (connectionIn (advance state (seenSegment .internalToExternal flags)))
  have hfind : srNatLookupInternal (stateIn state) 0x0a000001 5000 .natMappingTcp =
      some (mappingIn state).copy := by
    rw [srNatLookupInternal_eq]
    have hkey : (mappingIn state).key = (0x0a000001, 5000) := rfl
    exact congrArg (Option.map SrNatMapping.copy) (List.find?_cons_of_pos (decide_eq_true hkey))
  have hlookup : historySem (.lookupInternal 0x0a000001 5000 .natMappingTcp)
      (stateIn state, record) (some (mappingIn state).copy) (stateIn state, record) :=
    ⟨⟨quiet 0, congrArg (fun r => Except.ok (r, stateIn state)) hfind⟩, (List.append_nil _).symm⟩
  have hpeer : isPeer .internalToExternal (outboundSegment flags).buf (connectionIn state) =
      true := by
    simp [isPeer, outboundSegment, tcpSegmentPacket, connectionIn, synConnection]
  have hrun : (natStart (.tcp oneRoute (outboundSegment flags).buf (outboundSegment flags).len
      false)).Runs historySem (stateIn state, record) (1, q)
      (stateIn (advance state (seenSegment .internalToExternal flags)),
        record ++ [(1, seenSegment .internalToExternal flags)]) := by
    rw [hk]
    refine .call hlookup ?_
    rw [hk']
    refine .call (historySem_update state record hpeer) ?_
    exact hq ▸ .ret _ _
  exact hrun.job

/-- So does a segment from outside, other than a SYN. -/
lemma historySteps_inbound (hsyn : (seenSegment .externalToInternal flags).isSyn = false) :
    HistorySteps (.idle, stateIn state, record)
      (.idle, stateIn (advance state (seenSegment .externalToInternal flags)),
        record ++ [(1, seenSegment .externalToInternal flags)]) := by
  have hnot : ¬ isTcpSyn (inboundSegment flags).buf := by
    rw [Seen.isSyn, syn_seenSegment, ack_seenSegment] at hsyn
    simp only [inboundSegment, tcpSegmentPacket, isTcpSyn_tcpSegment]
    rintro ⟨hflag, hack⟩
    rw [hflag, hack] at hsyn
    cases hsyn
  have hsrc : ¬ srcPrivate (inboundSegment flags).buf := by
    simp only [inboundSegment, tcpSegmentPacket, srcPrivate_tcpSegment]
    decide
  have hport : ntohs (SrTcpHdr.dstPort (inboundSegment flags).buf
      (ipHeaderLen (inboundSegment flags).buf)) = 1024 := by
    simp [inboundSegment, tcpSegmentPacket]
  obtain ⟨k, hk, -, hrest⟩ := natTcpInbound_notSyn (inboundSegment flags).len hnot
  obtain ⟨k', hk', -, hrest⟩ := hrest (mappingIn state).copy
  have hfind : srNatLookupExternal (stateIn state) (ntohs (SrTcpHdr.dstPort
      (inboundSegment flags).buf (ipHeaderLen (inboundSegment flags).buf))) .natMappingTcp =
      some (mappingIn state).copy := by
    have hid : (mappingIn state).auxExt = 1024 := rfl
    rw [hport]
    exact congrArg (Option.map SrNatMapping.copy) (List.find?_cons_of_pos (decide_eq_true hid))
  have hlookup : historySem (.lookupExternal (ntohs (SrTcpHdr.dstPort (inboundSegment flags).buf
      (ipHeaderLen (inboundSegment flags).buf))) .natMappingTcp)
      (stateIn state, record) (some (mappingIn state).copy) (stateIn state, record) :=
    ⟨⟨quiet 0, congrArg (fun r => Except.ok (r, stateIn state)) hfind⟩, (List.append_nil _).symm⟩
  have hpeer : isPeer .externalToInternal (inboundSegment flags).buf (connectionIn state) =
      true := by
    simp [isPeer, inboundSegment, tcpSegmentPacket, connectionIn, synConnection]
  obtain ⟨q, hq⟩ : ∃ q, natTcpUpdateChecksum (SrIpHdr.setIpDst (SrTcpHdr.setDstPort
      (inboundSegment flags).buf (ipHeaderLen (inboundSegment flags).buf)
      (htons (mappingIn state).copy.auxInt)) (htonl (mappingIn state).copy.ipInt))
      (inboundSegment flags).len (ipHeaderLen (inboundSegment flags).buf) = .ret (1, q) :=
    ⟨_, natTcpUpdateChecksum_eq _ (inboundSegment flags).tcpSegmentLen_nonneg⟩
  have hrun : (natStart (.tcp oneRoute (inboundSegment flags).buf (inboundSegment flags).len
      true)).Runs historySem (stateIn state, record) (1, q)
      (stateIn (advance state (seenSegment .externalToInternal flags)),
        record ++ [(1, seenSegment .externalToInternal flags)]) := by
    rw [natStart, natHandleTcp_inbound hsrc, hk]
    refine .call hlookup ?_
    rw [hk']
    refine .call (historySem_update state record hpeer) ?_
    rw [hrest, hq]
    exact .ret _ _
  exact hrun.job

/-- Any segments after the first that are no SYNs advance it. -/
lemma historySteps_segments (segments : List (Direction × UInt8))
    (hsyn : ∀ y ∈ segments, (seenSegment y.1 y.2).isSyn = false) :
    HistorySteps (.idle, startState, []) (.idle, stateIn (stateAfter (segmentHistory flags segments)),
      (segmentHistory flags segments).map fun y => (1, y)) := by
  induction segments using List.reverseRecOn with
  | nil => exact historySteps_open flags
  | append_singleton segments y ih =>
    have hsteps := ih fun z hz => hsyn z (List.mem_append_left _ hz)
    have hy := hsyn y (List.mem_append_right _ (List.mem_singleton_self y))
    have hconcat : segmentHistory flags (segments ++ [y]) =
        segmentHistory flags segments ++ [seenSegment y.1 y.2] := by
      simp [segmentHistory]
    have hne : segmentHistory flags segments ≠ [] := List.cons_ne_nil _ _
    rw [hconcat, stateAfter_concat hne, List.map_append]
    refine hsteps.trans ?_
    obtain ⟨direction, flags'⟩ := y
    cases direction with
    | internalToExternal => exact historySteps_outbound flags' _ _
    | externalToInternal => exact historySteps_inbound flags' _ _ hy

/-- The state that segments lead to depends on their flags only. -/
lemma stateAfter_segmentHistory (segments : List (Direction × UInt8)) :
    stateAfter (segmentHistory flags segments) =
      segments.foldl (fun state y => determineState state (fun _ => y.2) 0) .synSent := by
  simp only [stateAfter, segmentHistory, List.tail_cons, List.foldl_map, advance_seenSegment]

/-- A run in which a connection has seen given segments. -/
lemma exists_historySteps (segments : List (Direction × UInt8))
    (hsyn : ∀ y ∈ segments, (seenSegment y.1 y.2).isSyn = false) : ∃ x m c,
      HistorySteps (.idle, startState, []) x ∧ m ∈ x.2.1.mappings ∧ c ∈ m.conns ∧
      c.state = stateAfter (segmentHistory flags segments) ∧
      history x.2.2 c.node = segmentHistory flags segments := by
  refine ⟨_, mappingIn _, connectionIn _, historySteps_segments flags segments hsyn,
    List.mem_singleton_self _, List.mem_singleton_self _, rfl, ?_⟩
  simp [history, connectionIn, synConnection, List.filter_map, Function.comp_def]

end Runs

end NatRouter
