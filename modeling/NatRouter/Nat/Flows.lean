import NatRouter.Nat.Endpoints

/-!
# The connections of a mapping in sequential runs

When no sweep comes between the calls of a handler, a TCP mapping is never seen without the
connection that was inserted with it, and `sr_nat_update_connection` never adds one: a TCP mapping
has exactly one connection and an ICMP mapping has none (`FlowsOk`).  The peer of that connection
stays what it is for as long as the mapping stays in the table.
-/

namespace NatRouter

open ByteMemory PackedBits Interleaving KeyedList Relation

/-- The peer of a connection. -/
def SrNatConnection.peer (c : SrNatConnection) : UInt32 × UInt16 := (c.peerIp, c.peerPort)

/-- The peers of a mapping. -/
def SrNatMapping.peers (m : SrNatMapping) : List (UInt32 × UInt16) :=
  m.conns.map SrNatConnection.peer

/-- A mapping with its peers, but without the nodes and the states of its connections. -/
def SrNatMapping.flow (m : SrNatMapping) : SrNatMapping × List (UInt32 × UInt16) :=
  (m.bare, m.peers)

/-- A TCP mapping has one connection, an ICMP mapping none. -/
def SrNatMapping.OneFlow (m : SrNatMapping) : Prop :=
  match m.type with
  | .natMappingIcmp => m.peers = []
  | .natMappingTcp => ∃ peer, m.peers = [peer]

/-- Every mapping of the table has the connections that belong to its type. -/
def FlowsOk (s : SrNat) : Prop := ∀ m ∈ s.mappings, m.OneFlow

/-- The number of connections is seen in the flow. -/
lemma SrNatMapping.OneFlow.of_flow_eq {m m' : SrNatMapping} (hm : m.OneFlow)
    (h : m'.flow = m.flow) : m'.OneFlow := by
  obtain ⟨hbare, hpeers⟩ := Prod.mk.inj h
  have htype : m'.type = m.type := by
    rw [← m'.bare_type, hbare, m.bare_type]
  unfold SrNatMapping.OneFlow at hm ⊢
  rwa [htype, hpeers]

/-- A mapping has at most one connection. -/
lemma SrNatMapping.OneFlow.conns_eq {m : SrNatMapping} (hm : m.OneFlow) {c : SrNatConnection}
    (hc : c ∈ m.conns) : m.conns = [c] := by
  have hlength : m.conns.length ≤ 1 := by
    rw [← List.length_map (f := SrNatConnection.peer)]
    unfold SrNatMapping.OneFlow SrNatMapping.peers at hm
    split at hm
    · simp [hm]
    · obtain ⟨peer, hm⟩ := hm
      simp [hm]
  cases hconns : m.conns with
  | nil => simp [hconns] at hc
  | cons d ds =>
    rw [hconns] at hc hlength
    obtain rfl : ds = [] := List.eq_nil_of_length_eq_zero (by simpa using hlength)
    rw [List.mem_singleton.mp hc]

/-! ### The operations -/

/-- What is known of a state that a sequential run has led to from `s₀`. -/
structure Flowing (s₀ s : SrNat) : Prop where
  /-- The nodes are in order. -/
  heapOk : HeapOk s
  /-- The mappings have their connections. -/
  flowsOk : FlowsOk s
  /-- The mappings that have stayed have kept their peers. -/
  kept : Kept SrNatMapping.flow s₀ s

/-- The start of a run. -/
lemma Flowing.refl {s : SrNat} (hs : HeapOk s) (hflows : FlowsOk s) : Flowing s s :=
  ⟨hs, hflows, .refl s⟩

/-- A run after a run. -/
lemma Flowing.trans {s s' s'' : SrNat} (h : Flowing s s') (h' : Flowing s' s'') : Flowing s s'' :=
  ⟨h'.heapOk, h'.flowsOk, h.kept.trans h'.kept⟩

/-- A change that leaves the flows alone. -/
lemma Flowing.of_flow_eq {s s' : SrNat} (hs : FlowsOk s) (hs' : HeapOk s')
    (hnext : s.nextNode ≤ s'.nextNode)
    (h : s'.mappings.map SrNatMapping.flow = s.mappings.map SrNatMapping.flow) : Flowing s s' := by
  have hmem : ∀ m' ∈ s'.mappings, ∃ m ∈ s.mappings, m.flow = m'.flow := fun m' hm' =>
    List.mem_map.mp (h ▸ List.mem_map_of_mem hm')
  refine ⟨hs', ?_, hnext, ?_⟩
  · intro m' hm'
    obtain ⟨m, hm, hflow⟩ := hmem m' hm'
    exact (hs m hm).of_flow_eq hflow.symm
  · intro m' hm' _
    obtain ⟨m, hm, hflow⟩ := hmem m' hm'
    exact ⟨m, hm, congrArg (fun f => f.1.node) hflow, hflow⟩

/-- A walk from a connection pointer reads connections of one mapping. -/
lemma exists_of_connsFrom {mappings : List SrNatMapping} {a : NodeId} {conns : List SrNatConnection}
    (h : connsFrom mappings a = some conns) : ∃ m ∈ mappings, conns.Sublist m.conns := by
  obtain ⟨m, hm, hconns⟩ := List.exists_of_findSome?_eq_some h
  refine ⟨m, hm, ?_⟩
  have hsub := List.dropWhile_sublist (fun c => decide (c.node ≠ a)) (l := m.conns)
  cases hdrop : m.conns.dropWhile fun c => decide (c.node ≠ a) with
  | nil =>
    rw [hdrop] at hconns
    cases hconns
  | cons c cs =>
    rw [hdrop] at hconns hsub
    cases hconns
    exact hsub

/-- Storing a connection with the same peer leaves the flows alone. -/
lemma storeConn_flow {s : SrNat} (hs : HeapOk s) {m : SrNatMapping} (hm : m ∈ s.mappings)
    {c c' : SrNatConnection} (hc : c ∈ m.conns) (hnode : c'.node = c.node)
    (hpeer : c'.peer = c.peer) :
    (s.storeConn c').mappings.map SrNatMapping.flow = s.mappings.map SrNatMapping.flow := by
  simp only [SrNat.storeConn, List.map_map]
  apply List.map_congr_left
  intro x hx
  simp only [Function.comp_apply, SrNatMapping.flow, SrNatMapping.peers, List.map_map]
  refine Prod.ext rfl (List.map_congr_left fun d hd => ?_)
  simp only [Function.comp_apply]
  split_ifs with hdc
  · rw [hpeer, (hs.conn_eq hm hx hc hd (hnode.symm.trans hdc.symm)).2]
  · rfl

/-- The connection that an update returns is one that was linked from a mapping, advanced. -/
lemma srNatUpdateConnection_some {s s' : SrNat} {amb : Ambient} {mapping : SrNatMappingCopy}
    {p : ByteMem} {len : UInt32} {direction : Direction} {c' : SrNatConnection}
    (h : srNatUpdateConnection s amb mapping p len direction = .ok (some c', s')) :
    ∃ a conns c, mapping.conns = some a ∧ connsFrom s.mappings a = some conns ∧ c ∈ conns ∧
      isPeer direction p c = true ∧ c' = updatedConnection amb.now p c ∧ s' = s.storeConn c' := by
  unfold srNatUpdateConnection at h
  simp only at h
  split at h
  · cases h
  · rename_i conns hconns
    split at h
    · rename_i c hfind
      cases h
      have hc : c ∈ conns := List.mem_of_find?_eq_some hfind
      cases ha : mapping.conns with
      | none =>
        simp only [ha, Except.ok.injEq] at hconns
        exact absurd (hconns ▸ hc) List.not_mem_nil
      | some a =>
        simp only [ha] at hconns
        cases hfrom : connsFrom s.mappings a with
        | none => simp [hfrom] at hconns
        | some conns' =>
          simp only [hfrom, Except.ok.injEq] at hconns
          exact ⟨a, conns', c, rfl, hfrom, hconns ▸ hc, List.find?_some hfind, rfl, rfl⟩
    · split at h <;> cases h

/-- An update that finds no connection leaves the table alone. -/
lemma srNatUpdateConnection_none {s s' : SrNat} {amb : Ambient} {mapping : SrNatMappingCopy}
    {p : ByteMem} {len : UInt32} {direction : Direction}
    (h : srNatUpdateConnection s amb mapping p len direction = .ok (none, s')) :
    ∃ unsol, s' = { s with unsolPkt := unsol } := by
  unfold srNatUpdateConnection at h
  simp only at h
  split at h
  · cases h
  · split at h
    · cases h
    · split at h
      · cases h
      · cases h
        exact ⟨_, rfl⟩

/-- An update through the copy of a mapping advances one of its connections, to the peer of the
packet. -/
lemma srNatUpdateConnection_copy_some {s s' : SrNat} (hs : HeapOk s) {m : SrNatMapping}
    (hm : m ∈ s.mappings) {amb : Ambient} {p : ByteMem} {len : UInt32} {direction : Direction}
    {c' : SrNatConnection}
    (h : srNatUpdateConnection s amb m.copy p len direction = .ok (some c', s')) :
    ∃ c ∈ m.conns, isPeer direction p c = true ∧
      s'.mappings.map SrNatMapping.flow = s.mappings.map SrNatMapping.flow := by
  rw [srNatUpdateConnection_copy hs hm] at h
  split at h
  · rename_i c hfind
    cases h
    have hc : c ∈ m.conns := List.mem_of_find?_eq_some hfind
    exact ⟨c, hc, List.find?_some hfind, storeConn_flow hs hm hc rfl rfl⟩
  · split at h <;> cases h

/-- The peer test of the update, for an outgoing packet. -/
lemma isPeer_out_iff {p : ByteMem} {c : SrNatConnection} :
    isPeer .internalToExternal p c = true ↔ c.peer = tcpDstPeer p := by
  simp [isPeer, SrNatConnection.peer, tcpDstPeer, Prod.ext_iff]

/-- The peer test of the update, for an incoming packet. -/
lemma isPeer_in_iff {p : ByteMem} {c : SrNatConnection} :
    isPeer .externalToInternal p c = true ↔ c.peer = tcpSrcPeer p := by
  simp [isPeer, SrNatConnection.peer, tcpSrcPeer, Prod.ext_iff]

/-- Calls that insert nothing leave the flows alone. -/
lemma Flowing.call {s₀ s s' : SrNat} {c : NatCall} {r : c.Result} (h : Flowing s₀ s)
    (hcall : natSem c s r s') (hc : c.KeepsTable) : Flowing s₀ s' := by
  refine h.trans ?_
  obtain ⟨amb, hexec⟩ := hcall
  have hheap : HeapOk s' := natExec_heapOk h.heapOk hexec
  cases c with
  | lookupExternal auxExt type =>
    cases hexec
    exact .refl hheap h.flowsOk
  | lookupInternal ipInt auxInt type =>
    cases hexec
    exact .refl hheap h.flowsOk
  | insertMapping ipInt auxInt type => exact hc.elim
  | insertConnection extPort p state => exact hc.elim
  | updateConnection mapping p len direction =>
    change srNatUpdateConnection s amb mapping p len direction = .ok (r, s') at hexec
    obtain ⟨-, hnext⟩ := srNatUpdateConnection_nodes hexec
    refine .of_flow_eq h.flowsOk hheap hnext.ge ?_
    cases r with
    | none =>
      obtain ⟨unsol, rfl⟩ := srNatUpdateConnection_none hexec
      rfl
    | some c' =>
      obtain ⟨a, conns, c, -, hfrom, hmem, -, rfl, rfl⟩ := srNatUpdateConnection_some hexec
      obtain ⟨m, hm, hsub⟩ := exists_of_connsFrom hfrom
      exact storeConn_flow h.heapOk hm (hsub.subset hmem) rfl rfl
  | insertUnsolicitedPacket p len =>
    cases hins : srNatInsertUnsolicitedPacket amb s.unsolPkt p len with
    | error e => simp [natExec, hins] at hexec
    | ok unsol =>
      simp only [natExec, hins] at hexec
      cases hexec
      exact .of_flow_eq h.flowsOk hheap le_rfl rfl

/-- Runs of programs that insert nothing leave the flows alone. -/
lemma Flowing.runs {s₀ s s' : SrNat} {P : NatProg (ℤ × ByteMem)} {a : ℤ × ByteMem}
    (hP : P.Calls NatCall.KeepsTable) (h : Flowing s₀ s) (hrun : P.Runs natSem s a s') :
    Flowing s₀ s' :=
  hrun.preserves (fun _ _ _ _ hc hs hcall => hs.call hcall hc) hP h

/-- A sweep takes a mapping with its only connection or not at all. -/
lemma Flowing.sweep {s s' : SrNat} (hs : HeapOk s) (hflows : FlowsOk s) (h : natEnv s s') :
    Flowing s s' := by
  have hheap := natEnv_heapOk hs h
  obtain ⟨rt, t, reported, h⟩ := h
  obtain ⟨hmap, -, hnext⟩ := natTimeout_cases h
  have hflow : ∀ m' ∈ s'.mappings, ∃ m ∈ s.mappings, m.flow = m'.flow := by
    intro m' hm'
    obtain ⟨m, hm, hsweep⟩ := List.mem_filterMap.mp (hmap ▸ hm')
    refine ⟨m, hm, Prod.ext (sweepMapping_bare hsweep).symm ?_⟩
    rcases sweepMapping_conns hsweep with ⟨-, hconns⟩ | ⟨-, hconns, hne⟩
    · exact congrArg (List.map SrNatConnection.peer) hconns.symm
    · obtain ⟨c, hc⟩ := List.exists_mem_of_ne_nil _ hne
      have hcm : c ∈ m.conns := List.mem_of_mem_filter (hconns ▸ hc)
      have hm_eq : m.conns = [c] := (hflows m hm).conns_eq hcm
      have hm'_eq : m'.conns = [c] := by
        rw [hm_eq] at hconns
        have hsub : m'.conns.Sublist [c] := hconns ▸ List.filter_sublist
        exact (List.sublist_singleton.mp hsub).resolve_left hne
      simp only [SrNatMapping.flow, SrNatMapping.peers, hm_eq, hm'_eq]
  refine ⟨hheap, ?_, hnext.ge, ?_⟩
  · intro m' hm'
    obtain ⟨m, hm, heq⟩ := hflow m' hm'
    exact (hflows m hm).of_flow_eq heq.symm
  · intro m' hm' _
    obtain ⟨m, hm, heq⟩ := hflow m' hm'
    exact ⟨m, hm, congrArg (fun f => f.1.node) heq, heq⟩

/-- A list that does not dangle is walked without a fault. -/
lemma exists_of_removeUnsolicited {unsol : UnsolList} (h : unsol ≠ .dangling) (p : ByteMem) :
    ∃ unsol', srNatRemoveUnsolicitedPacket unsol p = .ok unsol' := by
  unfold srNatRemoveUnsolicitedPacket
  cases unsol with
  | dangling => exact absurd rfl h
  | linked pkts =>
    cases pkts with
    | nil => exact ⟨_, rfl⟩
    | cons curr rest =>
      simp only
      split <;> exact ⟨_, rfl⟩

/-- The insertion of a connection into the mapping at the head of the table. -/
lemma srNatInsertConnection_head {s : SrNat} (hs : HeapOk s) {m : SrNatMapping}
    {l : List SrNatMapping} (hm : s.mappings = m :: l) (now : Time) (p : ByteMem)
    (state : SrTcpStateType) :
    srNatInsertConnection s now m.auxExt p state =
      match srNatRemoveUnsolicitedPacket s.unsolPkt p with
      | .error e => .error e
      | .ok unsol => .ok (some (newConnection s now p state),
          { s with
            mappings := { m with conns := newConnection s now p state :: m.conns } :: l
            unsolPkt := unsol
            nextNode := s.nextNode + 1 }) := by
  have hfind : s.mappings.find? (fun curr => curr.auxExt = m.auxExt) = some m := by
    simp [hm]
  have hne : ∀ x ∈ l, x.node ≠ m.node := by
    intro x hx hnode
    have hnodup := hs.nodup
    rw [SrNat.nodes, hm, List.flatMap_cons] at hnodup
    exact (List.nodup_append'.mp hnodup).2.2 m.node_mem_nodes
      (List.mem_flatMap.mpr ⟨x, hx, hnode ▸ x.node_mem_nodes⟩)
  have hmodify : (s.modifyMapping m.node fun x =>
      { x with conns := newConnection s now p state :: x.conns }) =
      { s with mappings := { m with conns := newConnection s now p state :: m.conns } :: l } := by
    have hmap := @map_ite_key_eq _ _ _ SrNatMapping.node [] l m
      (fun x => { x with conns := newConnection s now p state :: x.conns }) (by simp) hne
    rw [List.nil_append, List.nil_append] at hmap
    simp only [SrNat.modifyMapping, hm, hmap]
  unfold srNatInsertConnection
  rw [hfind]
  cases srNatRemoveUnsolicitedPacket s.unsolPkt p with
  | error e => rfl
  | ok unsol => simp only [hmodify]

/-- A connection inserted into the mapping at the head of the table. -/
lemma exists_of_insertConnection_head {s s' : SrNat} (hs : HeapOk s) {m : SrNatMapping}
    {l : List SrNatMapping} (hm : s.mappings = m :: l) {now : Time} {p : ByteMem}
    {state : SrTcpStateType} {r : Option SrNatConnection}
    (h : srNatInsertConnection s now m.auxExt p state = .ok (r, s')) :
    r = some (newConnection s now p state) ∧
      s'.mappings = { m with conns := newConnection s now p state :: m.conns } :: l ∧
      s'.nextNode = s.nextNode + 1 := by
  rw [srNatInsertConnection_head hs hm] at h
  split at h
  · cases h
  · cases h
    exact ⟨rfl, rfl, rfl⟩

/-! ### The handlers -/

section Handlers

variable {cfg : NetConfig} {p : ByteMem} {len : UInt32} {s s' : SrNat} {a : ℤ × ByteMem}

/-- A new mapping with the connections that belong to its type. -/
lemma Flowing.newMapping {s s' : SrNat} (hs : FlowsOk s) (hs' : HeapOk s') {m : SrNatMapping}
    (hm : s'.mappings = m :: s.mappings) (hflow : m.OneFlow) (hnode : m.node = s.nextNode)
    (hnext : s.nextNode ≤ s'.nextNode) : Flowing s s' := by
  refine ⟨hs', ?_, hnext, ?_⟩
  · intro x hx
    rw [hm] at hx
    rcases List.mem_cons.mp hx with rfl | hx
    · exact hflow
    · exact hs x hx
  · intro x hx hlt
    rw [hm] at hx
    rcases List.mem_cons.mp hx with rfl | hx
    · rw [hnode] at hlt
      exact absurd hlt (Nat.lt_irrefl _)
    · exact ⟨x, hx, rfl, rfl⟩

/-- The source of a segment is rewritten without a call, so the table stays as it is. -/
lemma eq_of_runs_natTcpTranslateSource {o : ℕ} {mapping : SrNatMappingCopy} {t : SrNat}
    (h : (natTcpTranslateSource cfg p len o mapping).Runs natSem t a s') : s' = t := by
  rcases natTcpTranslateSource_cases cfg p len o mapping with ⟨e, heq, -⟩ | ⟨lpm, i, heq, -⟩
  · exact absurd (heq ▸ h) Prog.not_runs_abort
  · exact (Prog.runs_ret_iff.mp (heq ▸ h)).2.symm

/-- So is that of a message. -/
lemma eq_of_runs_natIcmpTranslateSource {o : ℕ} {lpm : SrRt} {mapping : SrNatMappingCopy}
    {t : SrNat} (h : (natIcmpTranslateSource cfg p o lpm mapping).Runs natSem t a s') : s' = t := by
  cases hi : srGetInterface cfg.ifList lpm.interface with
  | none =>
    rw [natIcmpTranslateSource_eq_abort p _ hi] at h
    exact absurd h Prog.not_runs_abort
  | some i =>
    rw [natIcmpTranslateSource_eq p o hi mapping] at h
    exact (Prog.runs_ret_iff.mp h).2.symm

/-- A TCP segment from inside to outside, run alone: if it is translated, the mapping of its
endpoint has a connection to its peer. -/
lemma natTcpOutbound_flowing (hs : HeapOk s) (hflows : FlowsOk s)
    (h : (natTcpOutbound cfg p len (ipHeaderLen p)).Runs natSem s a s') :
    Flowing s s' ∧ (a.1 = 1 → ∃ m ∈ s'.mappings, m.key = tcpKey p ∧ m.peers = [tcpDstPeer p]) := by
  obtain ⟨r, s₁, hcall, h⟩ := Prog.runs_call_iff.mp h
  obtain ⟨hr, rfl⟩ := natSem_lookupInternal hcall
  cases r with
  | none =>
    obtain ⟨mapping, s₂, hcall, h⟩ := Prog.runs_call_iff.mp h
    obtain ⟨r, s₃, hcall', h⟩ := Prog.runs_call_iff.mp h
    have hs₂ : HeapOk s₂ := natExec_heapOk hs hcall.choose_spec
    obtain ⟨now, hins⟩ := natSem_insertMapping hcall
    cases hins
    obtain ⟨now', hconn⟩ := natSem_insertConnection hcall'
    have hs₃ : HeapOk s₃ := srNatInsertConnection_heapOk hs₂ hconn
    obtain ⟨rfl, hmappings, hnext⟩ := exists_of_insertConnection_head hs₂ rfl hconn
    have hflowing : Flowing s₁ s₃ := by
      refine .newMapping hflows hs₃ hmappings ⟨_, rfl⟩ rfl ?_
      rw [hnext]
      exact Nat.le_succ_of_le (Nat.le_succ _)
    obtain rfl := eq_of_runs_natTcpTranslateSource h
    refine ⟨hflowing, ?_⟩
    intro _
    rw [hmappings]
    exact ⟨_, List.mem_cons_self .., rfl, rfl⟩
  | some mapping =>
    obtain ⟨r, s₂, hcall', h⟩ := Prog.runs_call_iff.mp h
    have hflowing : Flowing s₁ s₂ := (Flowing.refl hs hflows).call hcall' trivial
    obtain ⟨amb, hupdate⟩ := natSem_updateConnection hcall'
    cases r with
    | none =>
      obtain ⟨rfl, rfl⟩ := Prog.runs_ret_iff.mp h
      exact ⟨hflowing, fun hone => absurd hone (by simp)⟩
    | some c' =>
      obtain rfl := eq_of_runs_natTcpTranslateSource h
      refine ⟨hflowing, ?_⟩
      intro _
      obtain ⟨m, hm, hkey, rfl⟩ := exists_of_lookupInternal hr.symm
      obtain ⟨c, hc, hpeer, hmap⟩ := srNatUpdateConnection_copy_some hs hm hupdate
      obtain ⟨m', hm', hflow⟩ : ∃ m' ∈ s'.mappings, m'.flow = m.flow :=
        List.mem_map.mp (hmap ▸ List.mem_map_of_mem hm)
      obtain ⟨hbare, hpeers⟩ := Prod.mk.inj hflow
      refine ⟨m', hm', ?_, ?_⟩
      · rw [← m'.bare_key, hbare, m.bare_key, hkey]
        rfl
      · rw [hpeers, SrNatMapping.peers, (hflows m hm).conns_eq hc, List.map_singleton,
          isPeer_out_iff.mp hpeer]

/-- An ICMP message from inside to outside, run alone: if it is translated, its endpoint has a
mapping. -/
lemma natIcmpOutbound_flowing (hs : HeapOk s) (hflows : FlowsOk s)
    (h : (natIcmpOutbound cfg p (ipHeaderLen p)).Runs natSem s a s') :
    Flowing s s' ∧ (a.1 = 1 → ∃ m ∈ s'.mappings, m.key = icmpKey p) := by
  unfold natIcmpOutbound at h
  simp only at h
  split at h
  · exact absurd h Prog.not_runs_abort
  · obtain ⟨rfl, rfl⟩ := Prog.runs_ret_iff.mp h
    exact ⟨.refl hs hflows, fun hone => absurd hone (by simp)⟩
  rename_i lpm _
  obtain ⟨r, s₁, hcall, h⟩ := Prog.runs_call_iff.mp h
  obtain ⟨hr, rfl⟩ := natSem_lookupInternal hcall
  cases r with
  | none =>
    obtain ⟨mapping, s₂, hcall, h⟩ := Prog.runs_call_iff.mp h
    have hs₂ : HeapOk s₂ := natExec_heapOk hs hcall.choose_spec
    obtain ⟨now, hins⟩ := natSem_insertMapping hcall
    cases hins
    obtain rfl := eq_of_runs_natIcmpTranslateSource h
    exact ⟨.newMapping hflows hs₂ rfl rfl rfl (Nat.le_succ _),
      fun _ => ⟨_, List.mem_cons_self .., rfl⟩⟩
  | some mapping =>
    obtain rfl := eq_of_runs_natIcmpTranslateSource h
    obtain ⟨m, hm, hkey, -⟩ := exists_of_lookupInternal hr.symm
    exact ⟨.refl hs hflows, fun _ => ⟨m, hm, hkey⟩⟩

end Handlers

/-- A job run alone keeps the flows. -/
lemma natStart_flowing {j : NatJob} {s s' : SrNat} {a : ℤ × ByteMem} (hs : HeapOk s)
    (hflows : FlowsOk s) (h : (natStart j).Runs natSem s a s') : Flowing s s' := by
  have hstarts := natStart_starts j
  generalize natStart j = P at hstarts h
  have hkept := Flowing.refl hs hflows
  cases hstarts with
  | ret hpass =>
    obtain ⟨-, rfl⟩ := Prog.runs_ret_iff.mp h
    exact hkept
  | icmpOutbound hsrc hdst => exact (natIcmpOutbound_flowing hs hflows h).1
  | icmpInbound hsrc => exact hkept.runs (natIcmpInbound_calls _ _) h
  | tcpOutbound hsrc hdst => exact (natTcpOutbound_flowing hs hflows h).1
  | tcpInbound hsrc => exact hkept.runs (natTcpInbound_calls _ _ _) h

/-- Sequential runs keep the flows. -/
lemma flowing_of_seqSteps {s s' : SrNat} (hs : HeapOk s) (hflows : FlowsOk s)
    (h : ReflTransGen (SeqStep natSem) s s') : Flowing s s' := by
  induction h with
  | refl => exact .refl hs hflows
  | tail _ hstep ih =>
    refine ih.trans ?_
    cases hstep with
    | handle j hrun => exact natStart_flowing ih.heapOk ih.flowsOk hrun
    | sweep he => exact .sweep ih.heapOk ih.flowsOk he

/-- The empty table. -/
lemma FlowsOk.initial {s : SrNat} (h : IsInitial s) : FlowsOk s := by
  obtain ⟨icmpTo, estabTo, transTo, unsol, rfl⟩ := h
  exact fun m hm => absurd hm List.not_mem_nil

/-! ### A flow that has just been opened -/

/-- A SYN from 10.0.0.1:5000 to 8.8.8.8:80. -/
def outboundSyn : TcpPacket := tcpSegmentPacket 0x02 0x0a000001 0x08080808 5000 80

/-- The mapping that it makes in `startState`. -/
def synMapping : SrNatMapping := newMapping startState 0 0x0a000001 5000 .natMappingTcp

/-- The connection that it makes. -/
def synConnection : SrNatConnection where
  node := 1
  state := .synSent
  peerIp := htonl 0x08080808
  peerPort := htons 80
  lastUpdated := 0

/-- The state after it, at time 0. -/
def synState : SrNat :=
  { startState with
    mappings := [{ synMapping with conns := [synConnection] }]
    bitmap := (findNextId startState.bitmap).2
    nextNode := 2 }

/-- A segment with the given flags that crosses the NAT the same way. -/
def outboundSegment (flags : UInt8) : TcpPacket :=
  tcpSegmentPacket flags 0x0a000001 0x08080808 5000 80

/-- It comes from inside. -/
lemma srcPrivate_outboundSegment (flags : UInt8) : srcPrivate (outboundSegment flags).buf := by
  simp only [outboundSegment, tcpSegmentPacket, srcPrivate_tcpSegment]
  decide

/-- It goes outside. -/
lemma not_dstPrivate_outboundSegment (flags : UInt8) :
    ¬ dstPrivate (outboundSegment flags).buf := by
  simp only [outboundSegment, tcpSegmentPacket, dstPrivate_tcpSegment]
  decide

/-- There is a route for it. -/
lemma hasRoute_outboundSegment (flags : UInt8) :
    HasRoute oneRoute (SrIpHdr.ipDst (outboundSegment flags).buf) outerRoute outerInterface := by
  simpa [outboundSegment, tcpSegmentPacket] using hasRoute_oneRoute

/-- The connection that it makes does not depend on its flags. -/
lemma insertConnection_outboundSegment (flags : UInt8) :
    srNatInsertConnection (srNatInsertMapping startState 0 0x0a000001 5000 .natMappingTcp).2 0
      synMapping.auxExt (outboundSegment flags).buf .synSent =
      .ok (some synConnection, synState) := by
  have hheap := srNatInsertMapping_heapOk (HeapOk.initial isInitial_startState) 0 0x0a000001 5000
    .natMappingTcp
  have hconn : newConnection (srNatInsertMapping startState 0 0x0a000001 5000 .natMappingTcp).2 0
      (outboundSegment flags).buf .synSent = synConnection := by
    simp [newConnection, outboundSegment, tcpSegmentPacket, synConnection, srNatInsertMapping,
      startState, srNatInit]
  have hinsert := srNatInsertConnection_head hheap rfl 0 (outboundSegment flags).buf .synSent
  rwa [hconn] at hinsert

/-- It comes from inside. -/
lemma srcPrivate_outboundSyn : srcPrivate outboundSyn.buf := srcPrivate_outboundSegment 0x02

/-- It goes outside. -/
lemma not_dstPrivate_outboundSyn : ¬ dstPrivate outboundSyn.buf :=
  not_dstPrivate_outboundSegment 0x02

/-- Run alone from `startState`, its handler translates it and leaves `synState`. -/
lemma run_outboundSyn : ∃ q,
    (natHandleTcp oneRoute outboundSyn.buf outboundSyn.len false).run natExec quiet startState =
      .ok ((1, q), synState) := by
  have hroute := hasRoute_outboundSegment 0x02
  rw [← routedDst_eq _ le_rfl] at hroute
  rw [natHandleTcp_outbound srcPrivate_outboundSyn not_dstPrivate_outboundSyn]
  exact ⟨_, @natTcpOutbound_run_new oneRoute outboundSyn.buf outboundSyn.len 20 quiet startState
    outboundSyn.tcpSegmentLen_nonneg outerRoute outerInterface _ _ hroute rfl
    (insertConnection_outboundSegment 0x02)⟩

/-- It is a run in which the new mapping finds an external id. -/
lemma runs_outboundSyn : ∃ q, (natStart (.tcp oneRoute outboundSyn.buf outboundSyn.len false)).Runs
    natSemIdLeft startState (1, q) synState := by
  obtain ⟨q, hrun⟩ := run_outboundSyn
  exact ⟨q, natStart_runs_idLeft findNextId_startState (Prog.runs_of_run hrun)⟩

/-- `synState` is reached from `startState`. -/
lemma steps_synState : NatSteps (.idle, startState) (.idle, synState) := by
  obtain ⟨q, hjob⟩ := runs_outboundSyn
  have hsteps : NatStepsIdLeft (.idle, startState) (.idle, synState) := hjob.job
  exact hsteps.steps

/-- The nodes of `synState` are in order. -/
lemma heapOk_synState : HeapOk synState :=
  heapOk_of_steps (HeapOk.initial isInitial_startState) steps_synState

/-- Those of `startState` are, whatever is on the unsolicited list. -/
lemma heapOk_waiting (unsol : UnsolList) : HeapOk { startState with unsolPkt := unsol } :=
  (HeapOk.initial isInitial_startState).of_nodes_eq rfl le_rfl

/-- The mapping of `synState`. -/
def synStateMapping : SrNatMapping := { synMapping with conns := [synConnection] }

/-- It has the key of both segments. -/
lemma synStateMapping_key : synStateMapping.key = (0x0a000001, 5000) := rfl

end NatRouter
