import NatRouter.Nat.Flows
import NatRouter.Nat.Unsolicited

/-!
# What a packet leaves alone

A packet concerns one flow, and its handler changes nothing that belongs to another (`FlowFrame`).
The mappings of the table stay, in their order; at most one is put in front of them; and at most one
connection that was there changes, a connection of the mapping that the handler has looked up, to
the peer of the packet.

The handlers do not hold the table.  They work with copies of mappings, and the copies share their
connections with the originals, so this rests on the addresses of the nodes: the states here are
those whose nodes are distinct objects (`NatHeap`), as they are in memory and in every reachable
state.
-/

namespace NatRouter

open ByteMemory PackedBits Interleaving KeyedList

/-- The NAT states that memory can hold: the nodes of the table are distinct objects. -/
abbrev NatHeap := {s : SrNat // HeapOk s}

/-- The mapping that the handler of a packet looks up. -/
def NatJob.lookedUp (s : SrNat) : NatJob → Option SrNatMapping
  | .icmp _ p =>
    if srcPrivate p then s.mappings.find? fun m => m.key = icmpKey p
    else s.mappings.find? fun m => m.auxExt = ntohs (SrIcmpHdr.identifier p (ipHeaderLen p))
  | .tcp _ p _ _ =>
    if srcPrivate p then s.mappings.find? fun m => m.key = tcpKey p
    else s.mappings.find? fun m => m.auxExt = ntohs (SrTcpHdr.dstPort p (ipHeaderLen p))

/-- The external endpoint of a TCP packet. -/
def externalPeer (p : ByteMem) : UInt32 × UInt16 :=
  if srcPrivate p then tcpDstPeer p else tcpSrcPeer p

/-- The table `l'` is `l` but for the state and the time of one connection of the mapping `m`, to
the given peer. -/
def OneConnChanged (m : SrNatMapping) (peer : UInt32 × UInt16) (l l' : List SrNatMapping) : Prop :=
  ∃ l₁ l₂ cs₁ c cs₂ state now, l = l₁ ++ m :: l₂ ∧ m.conns = cs₁ ++ c :: cs₂ ∧ c.peer = peer ∧
    l' = l₁ ++
      { m with conns := cs₁ ++ { c with state := state, lastUpdated := now } :: cs₂ } :: l₂

/-- What may have become of the state `s` once the handler of a packet has returned in `s'`. -/
structure FlowFrame (j : NatJob) (s s' : SrNat) : Prop where
  /-- The old mappings follow at most one new one, which has at most one connection.  They are as
  they were, but for one connection of the mapping looked up, to the peer of the packet. -/
  mappings : ∃ added old, s'.mappings = added ++ old ∧ added.length ≤ 1 ∧
    (∀ m ∈ added, m.conns.length ≤ 1) ∧ (old = s.mappings ∨
      ∃ m, j.lookedUp s = some m ∧ OneConnChanged m (externalPeer j.packet) s.mappings old)
  /-- At most one bit of the bitmap has been set. -/
  bitmap : s'.bitmap = s.bitmap ∨ ∃ k < totalPorts, testBit s.bitmap k = false ∧
    ∀ i, testBit s'.bitmap i = (decide (i = k) || testBit s.bitmap i)

/-! ### The operations -/

/-- A store through a connection pointer changes that connection only. -/
lemma storeConn_mappings {s : SrNat} (hs : HeapOk s) {m : SrNatMapping} (hm : m ∈ s.mappings)
    {c c' : SrNatConnection} (hc : c ∈ m.conns) (hnode : c'.node = c.node) :
    ∃ l₁ l₂ cs₁ cs₂, s.mappings = l₁ ++ m :: l₂ ∧ m.conns = cs₁ ++ c :: cs₂ ∧
      (s.storeConn c').mappings = l₁ ++ { m with conns := cs₁ ++ c' :: cs₂ } :: l₂ := by
  obtain ⟨l₁, l₂, hsplit, h₁, h₂⟩ := hs.split hm
  obtain ⟨cs₁, cs₂, hconns⟩ := List.append_of_mem hc
  refine ⟨l₁, l₂, cs₁, cs₂, hsplit, hconns, ?_⟩
  have hnodup := hs.conns_nodup hm
  rw [hconns, List.map_append, List.map_cons] at hnodup
  -- within the mapping, the other connections are at other addresses
  have hstore : (m.conns.map fun d => if d.node = c'.node then c' else d) = cs₁ ++ c' :: cs₂ := by
    rw [hconns, hnode]
    refine map_ite_key_eq ?_ ?_
    · intro d hd heq
      refine (List.nodup_append'.mp hnodup).2.2 (List.mem_map_of_mem hd) ?_
      rw [heq]
      exact List.mem_cons_self
    · intro d hd heq
      have hnotin := (List.nodup_cons.mp (List.nodup_append'.mp hnodup).2.1).1
      exact hnotin (heq ▸ List.mem_map_of_mem hd)
  -- so are those of the other mappings
  have hother : ∀ x ∈ s.mappings, x.node ≠ m.node →
      { x with conns := x.conns.map fun d => if d.node = c'.node then c' else d } = x := by
    intro x hx hne
    have hid : (x.conns.map fun d => if d.node = c'.node then c' else d) = x.conns := by
      refine (List.map_congr_left fun d hd => if_neg fun heq => hne ?_).trans (List.map_id' _)
      rw [(hs.conn_eq hx hm hd hc (heq.trans hnode)).1]
    rw [hid]
  have hkeep : ∀ l : List SrNatMapping, (∀ x ∈ l, x ∈ s.mappings ∧ x.node ≠ m.node) →
      (l.map fun x => { x with
        conns := x.conns.map fun d => if d.node = c'.node then c' else d }) = l := fun l hl =>
    (List.map_congr_left fun x hx => hother x (hl x hx).1 (hl x hx).2).trans (List.map_id' l)
  simp only [SrNat.storeConn, hsplit, List.map_append, List.map_cons]
  rw [hkeep l₁ fun x hx => ⟨hsplit ▸ List.mem_append_left _ hx, h₁ x hx⟩,
    hkeep l₂ fun x hx => ⟨hsplit ▸ List.mem_append_right _ (List.mem_cons_of_mem _ hx), h₂ x hx⟩,
    hstore]

/-- A new mapping sets at most one bit. -/
lemma findNextId_bitmap (bitmap : Bitmap) : (findNextId bitmap).2 = bitmap ∨
    ∃ k < totalPorts, testBit bitmap k = false ∧
      ∀ i, testBit (findNextId bitmap).2 i = (decide (i = k) || testBit bitmap i) := by
  rcases findNextId_cases bitmap with ⟨k, hfirst, heq⟩ | ⟨-, heq⟩
  · right
    refine ⟨k, hfirst.2.1, hfirst.2.2.1, fun i => ?_⟩
    rw [heq]
    exact testBit_setBit bitmap hfirst.2.1 i
  · left
    rw [heq]

namespace FlowFrame

variable {j : NatJob} {s s' s'' : SrNat}

/-- Nothing happens. -/
lemma refl (j : NatJob) (s : SrNat) : FlowFrame j s s :=
  ⟨⟨[], s.mappings, rfl, Nat.zero_le _, fun _ hm => absurd hm List.not_mem_nil, .inl rfl⟩, .inl rfl⟩

/-- A call has changed no mapping and no bit. -/
lemma of_eq (h : FlowFrame j s s') (hmappings : s''.mappings = s'.mappings)
    (hbitmap : s''.bitmap = s'.bitmap) : FlowFrame j s s'' :=
  ⟨hmappings ▸ h.mappings, hbitmap ▸ h.bitmap⟩

/-- The rest of a handler makes no call. -/
lemma of_runs {P : NatProg (ℤ × ByteMem)} {a : ℤ × ByteMem} (h : FlowFrame j s s')
    (hP : P.Calls fun _ => False) (hrun : P.Runs natSem s' a s'') : FlowFrame j s s'' :=
  hrun.preserves (fun _ _ _ _ hno => hno.elim) hP h

/-- A mapping is inserted. -/
lemma insertMapping (j : NatJob) {ipInt : UInt32} {auxInt : UInt16} {type : SrNatMappingType}
    {r : SrNatMappingCopy} (h : natSem (.insertMapping ipInt auxInt type) s r s') :
    FlowFrame j s s' := by
  obtain ⟨now, hins⟩ := natSem_insertMapping h
  cases hins
  refine ⟨⟨[_], s.mappings, rfl, le_rfl, ?_, .inl rfl⟩, findNextId_bitmap s.bitmap⟩
  intro m hm
  rw [List.mem_singleton.mp hm]
  exact Nat.zero_le _

/-- A mapping is inserted, then its connection.  The search of `sr_nat_insert_connection` starts at
the head of the table and so finds the mapping just inserted. -/
lemma insertConnection (j : NatJob) (hs : HeapOk s) {ipInt : UInt32} {auxInt : UInt16}
    {type : SrNatMappingType} {mapping : SrNatMappingCopy} {p : ByteMem} {state : SrTcpStateType}
    {r : Option SrNatConnection} (h : natSem (.insertMapping ipInt auxInt type) s mapping s')
    (h' : natSem (.insertConnection mapping.auxExt p state) s' r s'') : FlowFrame j s s'' := by
  have hs' : HeapOk s' := natExec_heapOk hs h.choose_spec
  have hframe := insertMapping j h
  obtain ⟨now, hins⟩ := natSem_insertMapping h
  cases hins
  obtain ⟨now', hconn⟩ := natSem_insertConnection h'
  have hsame := srNatInsertConnection_sameTable hconn
  obtain ⟨-, hmappings, -⟩ := exists_of_insertConnection_head hs' rfl hconn
  refine ⟨⟨[_], s.mappings, hmappings, le_rfl, ?_, .inl rfl⟩, hsame.bitmap ▸ hframe.bitmap⟩
  intro m hm
  rw [List.mem_singleton.mp hm]
  exact le_rfl

/-- A connection of the mapping looked up is updated, or there is none. -/
lemma updateConnection (hs : HeapOk s) {m : SrNatMapping} (hm : j.lookedUp s = some m)
    (hmem : m ∈ s.mappings) {p : ByteMem} {len : UInt32} {direction : Direction}
    {r : Option SrNatConnection}
    (hpeer : ∀ c, isPeer direction p c = true → c.peer = externalPeer j.packet)
    (h : natSem (.updateConnection m.copy p len direction) s r s') : FlowFrame j s s' := by
  obtain ⟨amb, h⟩ := natSem_updateConnection h
  rw [srNatUpdateConnection_copy hs hmem] at h
  split at h
  · rename_i c hfind
    cases h
    have hnode : (updatedConnection amb.now p c).node = c.node := rfl
    obtain ⟨l₁, l₂, cs₁, cs₂, hsplit, hconns, hstore⟩ := storeConn_mappings hs hmem
      (List.mem_of_find?_eq_some hfind) hnode
    refine ⟨⟨[], _, hstore, Nat.zero_le _, fun _ hx => absurd hx List.not_mem_nil,
      .inr ⟨m, hm, ?_⟩⟩, .inl rfl⟩
    exact ⟨l₁, l₂, cs₁, c, cs₂, _, _, hsplit, hconns, hpeer c (List.find?_some hfind), rfl⟩
  · split at h
    · cases h
    · cases h
      exact (refl j s).of_eq rfl rfl

end FlowFrame

/-! ### The handlers -/

section Handlers

variable {cfg : NetConfig} {p : ByteMem} {len : UInt32} {s s' : SrNat} {a : ℤ × ByteMem}

/-- An outgoing ICMP message. -/
lemma natIcmpOutbound_flowFrame
    (h : (natIcmpOutbound cfg p (ipHeaderLen p)).Runs natSem s a s') :
    FlowFrame (.icmp cfg p) s s' := by
  unfold natIcmpOutbound at h
  simp only at h
  split at h
  · exact absurd h Prog.not_runs_abort
  · obtain ⟨-, rfl⟩ := Prog.runs_ret_iff.mp h
    exact .refl _ _
  obtain ⟨r, s₁, hcall, h⟩ := Prog.runs_call_iff.mp h
  obtain ⟨-, rfl⟩ := natSem_lookupInternal hcall
  cases r with
  | none =>
    obtain ⟨mapping, s₂, hcall, h⟩ := Prog.runs_call_iff.mp h
    exact (FlowFrame.insertMapping _ hcall).of_runs (natIcmpTranslateSource_calls cfg p _ _ _) h
  | some mapping =>
    exact (FlowFrame.refl _ _).of_runs (natIcmpTranslateSource_calls cfg p _ _ mapping) h

/-- An ICMP message from outside: the handler only looks up. -/
lemma natIcmpInbound_flowFrame (h : (natIcmpInbound p (ipHeaderLen p)).Runs natSem s a s') :
    FlowFrame (.icmp cfg p) s s' := by
  obtain ⟨r, s₁, hcall, h⟩ := Prog.runs_call_iff.mp h
  obtain ⟨-, rfl⟩ := natSem_lookupExternal hcall
  rcases r with _ | mapping
  · obtain ⟨-, rfl⟩ := Prog.runs_ret_iff.mp h
    exact .refl _ _
  · obtain ⟨-, rfl⟩ := Prog.runs_ret_iff.mp h
    exact .refl _ _

/-- An outgoing TCP segment. -/
lemma natTcpOutbound_flowFrame (hs : HeapOk s) (hsrc : srcPrivate p) {isToNat : Bool}
    (h : (natTcpOutbound cfg p len (ipHeaderLen p)).Runs natSem s a s') :
    FlowFrame (.tcp cfg p len isToNat) s s' := by
  obtain ⟨r, s₁, hcall, h⟩ := Prog.runs_call_iff.mp h
  obtain ⟨hr, rfl⟩ := natSem_lookupInternal hcall
  cases r with
  | none =>
    obtain ⟨mapping, s₂, hcall, h⟩ := Prog.runs_call_iff.mp h
    obtain ⟨r, s₃, hcall', h⟩ := Prog.runs_call_iff.mp h
    have hframe := FlowFrame.insertConnection (.tcp cfg p len isToNat) hs hcall hcall'
    rcases r with _ | c
    · exact absurd h Prog.not_runs_abort
    · exact hframe.of_runs (natTcpTranslateSource_calls cfg p len _ _) h
  | some mapping =>
    obtain ⟨r, s₂, hcall', h⟩ := Prog.runs_call_iff.mp h
    rw [srNatLookupInternal_eq] at hr
    obtain ⟨m, hfind, rfl⟩ := Option.map_eq_some_iff.mp hr.symm
    have hlooked : NatJob.lookedUp s₁ (.tcp cfg p len isToNat) = some m :=
      (if_pos hsrc).trans hfind
    have hframe := FlowFrame.updateConnection hs hlooked (List.mem_of_find?_eq_some hfind)
      (fun c hc => (isPeer_out_iff.mp hc).trans (if_pos hsrc).symm) hcall'
    rcases r with _ | c
    · obtain ⟨-, rfl⟩ := Prog.runs_ret_iff.mp h
      exact hframe
    · exact hframe.of_runs (natTcpTranslateSource_calls cfg p len _ _) h

/-- A TCP segment from outside. -/
lemma natTcpInbound_flowFrame (hs : HeapOk s) (hsrc : ¬ srcPrivate p) {isToNat : Bool}
    (h : (natTcpInbound p len (ipHeaderLen p)).Runs natSem s a s') :
    FlowFrame (.tcp cfg p len isToNat) s s' := by
  have hlookup : ∀ {r : Option SrNatMappingCopy} {s₁ : SrNat}, natSem (.lookupExternal
      (ntohs (SrTcpHdr.dstPort p (ipHeaderLen p))) .natMappingTcp) s r s₁ → s₁ = s ∧
      ∀ mapping, r = some mapping → ∀ {conn : Option SrNatConnection} {s₂ : SrNat},
        natSem (.updateConnection mapping p len .externalToInternal) s conn s₂ →
        FlowFrame (.tcp cfg p len isToNat) s s₂ := by
    intro r s₁ hcall
    obtain ⟨hr, rfl⟩ := natSem_lookupExternal hcall
    refine ⟨rfl, ?_⟩
    rintro mapping rfl conn s₂ hcall'
    obtain ⟨m, hfind, rfl⟩ := Option.map_eq_some_iff.mp hr.symm
    exact FlowFrame.updateConnection hs ((if_neg hsrc).trans hfind)
      (List.mem_of_find?_eq_some hfind)
      (fun c hc => (isPeer_in_iff.mp hc).trans (if_neg hsrc).symm) hcall'
  by_cases hsyn : isTcpSyn p
  · obtain ⟨k, hk, hnone, hsome⟩ := natTcpInbound_syn len hsyn
    obtain ⟨r, s₁, hcall, h⟩ := Prog.runs_call_iff.mp (hk ▸ h)
    obtain ⟨rfl, hupdate⟩ := hlookup hcall
    rcases r with _ | mapping
    · obtain ⟨r, s₂, ⟨amb, hins⟩, h⟩ := Prog.runs_call_iff.mp (hnone ▸ h)
      obtain ⟨-, rfl⟩ := Prog.runs_ret_iff.mp h
      simp only [natExec] at hins
      split at hins
      · cases hins
      · cases hins
        exact (FlowFrame.refl _ _).of_eq rfl rfl
    · obtain ⟨conn, s₂, hcall', h⟩ := Prog.runs_call_iff.mp (hsome mapping ▸ h)
      obtain ⟨-, rfl⟩ := Prog.runs_ret_iff.mp h
      exact hupdate mapping rfl hcall'
  · obtain ⟨k, hk, hnone, hsome⟩ := natTcpInbound_notSyn len hsyn
    obtain ⟨r, s₁, hcall, h⟩ := Prog.runs_call_iff.mp (hk ▸ h)
    obtain ⟨rfl, hupdate⟩ := hlookup hcall
    rcases r with _ | mapping
    · exact (FlowFrame.refl _ _).of_runs (natTcpUpdateChecksum_calls p len _) (hnone ▸ h)
    · obtain ⟨k', hk', hnone', hsome'⟩ := hsome mapping
      obtain ⟨conn, s₂, hcall', h⟩ := Prog.runs_call_iff.mp (hk' ▸ h)
      have hframe := hupdate mapping rfl hcall'
      rcases conn with _ | conn
      · obtain ⟨-, rfl⟩ := Prog.runs_ret_iff.mp (hnone' ▸ h)
        exact hframe
      · exact hframe.of_runs (natTcpUpdateChecksum_calls _ len _) (hsome' conn ▸ h)

end Handlers

/-- **Packets of one flow leave all other flows alone.**  From any state that memory can hold, when
the handler of a packet returns without a sweep in between, the state has changed in the flow of
that packet only. -/
theorem natStart_flowFrame (s : NatHeap) (j : NatJob) {a : ℤ × ByteMem} {s' : SrNat}
    (h : (natStart j).Runs natSem s.1 a s') : FlowFrame j s.1 s' := by
  have hstarts := natStart_starts j
  generalize natStart j = P at hstarts h
  cases hstarts with
  | ret _ =>
    obtain ⟨-, rfl⟩ := Prog.runs_ret_iff.mp h
    exact .refl j s.1
  | icmpOutbound hsrc hdst => exact natIcmpOutbound_flowFrame h
  | icmpInbound hsrc => exact natIcmpInbound_flowFrame h
  | tcpOutbound hsrc hdst => exact natTcpOutbound_flowFrame s.2 hsrc h
  | tcpInbound hsrc => exact natTcpInbound_flowFrame s.2 hsrc h

/-- An echo request, while a connection is open: it is given a mapping of its own. -/
theorem natStart_flowFrame_request : ∃ a s',
    (natStart (.icmp oneRoute (icmpMessage 8 0x0a000001 0x08080808 7))).Runs natSem synState a s' ∧
      s'.mappings.map SrNatMapping.key = [(0x0a000001, 7), (0x0a000001, 5000)] ∧
      FlowFrame (.icmp oneRoute (icmpMessage 8 0x0a000001 0x08080808 7)) synState s' := by
  obtain ⟨a, hrun⟩ := @echoRequest_runs synState 0x0a000001 7 (by decide) rfl
  exact ⟨a, _, hrun, rfl, natStart_flowFrame ⟨synState, heapOk_synState⟩ _ hrun⟩

end NatRouter
