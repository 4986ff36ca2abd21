import NatRouter.Nat.Flows

/-!
# A new flow and the sweep

What a sweep between two calls of `nat_handle_tcp` can break.  A TCP mapping has no connection until
`sr_nat_insert_connection` has been called for it, and the sweep removes TCP mappings without
connections: a sweep that falls between the two insertions takes the mapping, whatever the time is.
And `sr_nat_update_connection` starts from the connection pointer of a copy that was made under an
earlier lock: a sweep in between that removes this connection leaves the pointer dangling.

These are the only two ways (`flow_survives`): in every interleaving in which the sweeps spare what
the packet thread is about to use, every insertion of a connection finds its mapping and every update
works on a connection that is linked.
-/

namespace NatRouter

open ByteMemory PackedBits Interleaving Relation

/-! ### What the packet thread relies on -/

/-- A sweep at time `now` leaves the connection `c` of the mapping `m` where it is. -/
def SweepKeeps (s : SrNat) (now : Time) (m : SrNatMapping) (c : SrNatConnection) : Prop :=
  match m.type with
  | .natMappingIcmp => ¬ (s.icmpQueryTo.toNat : ℤ) < now - m.lastUpdated
  | .natMappingTcp => connExpired s now c = false

/-- A sweep at time `now` spares what the next call of the packet thread uses: there is no sweep
before a connection is inserted, and none that removes the connection an update starts from. -/
def Spares (s : SrNat) (now : Time) : Option NatCall → Prop
  | some (.insertConnection ..) => False
  | some (.updateConnection mapping ..) => ∀ a, mapping.conns = some a →
      ∀ m ∈ s.mappings, ∀ c ∈ m.conns, c.node = a → SweepKeeps s now m c
  | _ => True

/-- The sweeps that spare what the next call of the packet thread uses. -/
def sparingEnv (next : Option NatCall) (s s' : SrNat) : Prop :=
  ∃ rt now reported, natTimeout rt now s = .ok (reported, s') ∧ Spares s now next

/-- When a TCP mapping is inserted, `nat->unsol_pkt` does not dangle: the insertion of the connection,
which comes next, walks over that list. -/
def UnsolProper : NatCall → SrNat → Prop
  | .insertMapping _ _ .natMappingTcp, s => s.unsolPkt ≠ .dangling
  | _, _ => True

/-- A step of the system that spares what the packet thread is about to use. -/
abbrev SparingStep : NatConf → NatConf → Prop :=
  RespectfulStep (Sem.guarded UnsolProper natSem) sparingEnv natStart

/-- The packet thread is safe in its next operation.  If it is about to insert a connection, this
finds the mapping inserted before it, which was the last allocation, and returns a connection of that
mapping; if it is about to update a connection, it does not follow a dangling pointer, and a
connection that it changes is linked from a mapping; and it has not dereferenced a null connection. -/
def PendingSafe : NatConf → Prop
  | (.busy _ (.call (.insertConnection extPort p state) _), s) => ∀ now, ∃ conn s',
      srNatInsertConnection s now extPort p state = .ok (some conn, s') ∧
        ∃ m ∈ s'.mappings, m.node + 1 = s.nextNode ∧ conn ∈ m.conns
  | (.busy _ (.call (.updateConnection mapping p len direction) _), s) => ∀ amb,
      srNatUpdateConnection s amb mapping p len direction ≠ .error .freedConn ∧
        ∀ conn s', srNatUpdateConnection s amb mapping p len direction = .ok (some conn, s') →
          ∃ m ∈ s'.mappings, conn ∈ m.conns
  | (.busy _ (.abort e), _) => e ≠ .nullConn
  | _ => True

/-- The connection that a pointer refers to is linked from a mapping. -/
def Linked (s : SrNat) (ptr : Option NodeId) : Prop :=
  ∀ a, ptr = some a → ∃ m ∈ s.mappings, ∃ c ∈ m.conns, c.node = a

/-- What holds of the rest of a handler and the state at every point, if the sweeps are sparing: a new
TCP mapping is at the head of the table until its connection is inserted, and the pointer of an
update is linked. -/
def FlowPre : NatProg (ℤ × ByteMem) → SrNat → Prop
  | .call (.insertMapping _ _ .natMappingTcp) k, _ => ∀ mapping : SrNatMappingCopy,
      ∃ p state k', k mapping = .call (.insertConnection mapping.auxExt p state) k'
  | .call (.insertConnection extPort _ _) _, s => ∃ m l, s.mappings = m :: l ∧
      m.node + 1 = s.nextNode ∧ m.type = .natMappingTcp ∧ m.conns = [] ∧ m.auxExt = extPort ∧
      s.unsolPkt ≠ .dangling
  | .call (.updateConnection mapping ..) _, s => Linked s mapping.conns
  | .abort e, _ => e ≠ .nullConn
  | _, _ => True

/-! ### What a sweep takes -/

/-- A connection is left by the sweep if and only if it is kept in a mapping that is kept. -/
lemma sweepKeeps_iff {s : SrNat} {now : Time} {m : SrNatMapping} {c : SrNatConnection}
    (hc : c ∈ m.conns) :
    SweepKeeps s now m c ↔ ∃ m', sweepMapping s now m = some m' ∧ c ∈ m'.conns := by
  unfold SweepKeeps sweepMapping
  cases m.type with
  | natMappingIcmp => simp [hc]
  | natMappingTcp =>
    have hmem : c ∈ sweepConns s now m.conns ↔ connExpired s now c = false := by
      simp [sweepConns, hc]
    simp only [← hmem]
    constructor
    · intro hkept
      split
      · rename_i hnil
        exact absurd (hnil ▸ hkept) List.not_mem_nil
      · exact ⟨_, rfl, hkept⟩
    · rintro ⟨m', hm', hkept⟩
      split at hm'
      · cases hm'
      · cases hm'
        exact hkept

/-- A sparing sweep before an update leaves its pointer linked. -/
lemma Linked.sparing {s s' : SrNat} {mapping : SrNatMappingCopy} {p : ByteMem} {len : UInt32}
    {direction : Direction} (h : Linked s mapping.conns)
    (he : sparingEnv (some (.updateConnection mapping p len direction)) s s') :
    Linked s' mapping.conns := by
  obtain ⟨rt, now, reported, hsweep, hspares⟩ := he
  intro a ha
  obtain ⟨m, hm, c, hc, hnode⟩ := h a ha
  obtain ⟨m', hm', hc'⟩ := (sweepKeeps_iff hc).mp (hspares a ha m hm c hc hnode)
  refine ⟨m', ?_, c, hc', hnode⟩
  rw [(natTimeout_cases hsweep).1]
  exact List.mem_filterMap.mpr ⟨m, hm, hm'⟩

/-- A sweep that does not spare the connection at `a` leaves no connection at `a`. -/
lemma not_linked_of_not_keeps {rt : List SrRt} {now : Time} {s s' : SrNat}
    {reported : List (SrNatUnsolPkt × SrRt)} (hs : HeapOk s)
    (h : natTimeout rt now s = .ok (reported, s')) {m : SrNatMapping} (hm : m ∈ s.mappings)
    {c : SrNatConnection} (hc : c ∈ m.conns) (hkeeps : ¬ SweepKeeps s now m c) :
    connsFrom s'.mappings c.node = none := by
  refine connsFrom_eq_none_iff.mpr fun m' hm' c' hc' hnode => hkeeps ?_
  rw [(natTimeout_cases h).1] at hm'
  obtain ⟨m₀, hm₀, hsweep⟩ := List.mem_filterMap.mp hm'
  have hc₀ : c' ∈ m₀.conns := by
    rcases sweepMapping_conns hsweep with ⟨-, hconns⟩ | ⟨-, hconns, -⟩
    · exact hconns ▸ hc'
    · exact List.mem_of_mem_filter (hconns ▸ hc')
  obtain ⟨rfl, rfl⟩ := hs.conn_eq hm₀ hm hc₀ hc hnode
  exact (sweepKeeps_iff hc).mpr ⟨m', hsweep, hc'⟩

/-- A sweep takes every TCP mapping without connections. -/
lemma not_mem_of_conns_nil {rt : List SrRt} {now : Time} {s s' : SrNat}
    {reported : List (SrNatUnsolPkt × SrRt)} (hs : HeapOk s)
    (h : natTimeout rt now s = .ok (reported, s')) {m : SrNatMapping} (hm : m ∈ s.mappings)
    (htype : m.type = .natMappingTcp) (hconns : m.conns = []) :
    ∀ m' ∈ s'.mappings, m'.node ≠ m.node := by
  intro m' hm' hnode
  rw [(natTimeout_cases h).1] at hm'
  obtain ⟨m₀, hm₀, hsweep⟩ := List.mem_filterMap.mp hm'
  have hnode₀ : m₀.node = m.node := by
    rw [← hnode, ← m'.bare_node, sweepMapping_bare hsweep, m₀.bare_node]
  obtain rfl := hs.mapping_eq hm₀ hm hnode₀
  rcases sweepMapping_conns hsweep with ⟨hicmp, -⟩ | ⟨-, hkept, hne⟩
  · rw [htype] at hicmp
    cases hicmp
  · exact hne (by rw [hkept, hconns]; rfl)

/-! ### The handlers -/

/-- A sparing sweep is a sweep. -/
lemma natEnv_of_sparing {next : Option NatCall} {s s' : SrNat} (h : sparingEnv next s s') :
    natEnv s s' := by
  obtain ⟨rt, now, reported, h, -⟩ := h
  exact ⟨rt, now, reported, h⟩

/-- Sparing sweeps keep the nodes in order. -/
lemma HeapOk.sparing {next : Option NatCall} {s s' : SrNat} (hs : HeapOk s)
    (h : ReflTransGen (sparingEnv next) s s') : HeapOk s' :=
  stable_of_env (I := HeapOk) (fun _ _ hs he => natEnv_heapOk hs (natEnv_of_sparing he)) hs h

/-- The pointer of the copy of a mapping in the table is linked. -/
lemma Linked.copy {s : SrNat} {m : SrNatMapping} (hm : m ∈ s.mappings) : Linked s m.copy.conns := by
  intro a ha
  obtain ⟨c, hc, hnode⟩ := Option.map_eq_some_iff.mp ha
  exact ⟨m, hm, c, List.mem_of_mem_head? hc, hnode⟩

/-- A copy that the external lookup returns has a linked pointer. -/
lemma Linked.of_lookupExternal {s : SrNat} {auxExt : UInt16} {type : SrNatMappingType}
    {mapping : SrNatMappingCopy} (h : srNatLookupExternal s auxExt type = some mapping) :
    Linked s mapping.conns := by
  obtain ⟨m, hfind, rfl⟩ := Option.map_eq_some_iff.mp h
  exact Linked.copy (List.mem_of_find?_eq_some hfind)

section Handlers

variable {cfg : NetConfig} {p : ByteMem} {len : UInt32} {s : SrNat}

/-- The rule for a handler under sparing sweeps. -/
abbrev Flows (P : NatProg (ℤ × ByteMem)) (s : SrNat) : Prop :=
  P.Throughout (Sem.guarded UnsolProper natSem) sparingEnv FlowPre s

/-- A handler that has returned. -/
lemma flows_ret (a : ℤ × ByteMem) (s : SrNat) : Flows (.ret a) s := fun _ _ => trivial

/-- A handler that has come to an undefined operation, other than the null connection. -/
lemma flows_abort {e : Fault} (he : e ≠ .nullConn) (s : SrNat) : Flows (.abort e) s := fun _ _ => he

/-- The checksum update. -/
lemma natTcpUpdateChecksum_flows (p : ByteMem) (len : UInt32) (o : ℕ) (s : SrNat) :
    Flows (natTcpUpdateChecksum p len o) s := by
  unfold natTcpUpdateChecksum
  simp only
  split
  · exact flows_abort (by decide) s
  · exact flows_ret _ s

/-- The translation of an outgoing segment. -/
lemma natTcpTranslateSource_flows (cfg : NetConfig) (p : ByteMem) (len : UInt32) (o : ℕ)
    (mapping : SrNatMappingCopy) (s : SrNat) :
    Flows (natTcpTranslateSource cfg p len o mapping) s := by
  rcases natTcpTranslateSource_cases cfg p len o mapping with ⟨e, heq, he⟩ | ⟨lpm, i, heq, -⟩
  · rw [heq]
    refine flows_abort ?_ s
    rcases he with rfl | rfl | rfl <;> decide
  · rw [heq]
    exact flows_ret _ s

/-- An update starts from a linked pointer, whatever sparing sweeps came since the copy was made. -/
lemma updateConnection_flows {mapping : SrNatMappingCopy} {direction : Direction}
    {k : Option SrNatConnection → NatProg (ℤ × ByteMem)} (hlinked : Linked s mapping.conns)
    (hk : ∀ r s', Flows (k r) s') :
    Flows (.call (.updateConnection mapping p len direction) k) s := by
  intro s' he
  have hlinked' : Linked s' mapping.conns :=
    stable_of_env (I := fun s => Linked s mapping.conns) (fun _ _ h he => h.sparing he) hlinked he
  exact ⟨hlinked', fun r s'' _ => hk r s''⟩

/-- An outgoing segment. -/
lemma natTcpOutbound_flows (hs : HeapOk s) (o : ℕ) : Flows (natTcpOutbound cfg p len o) s := by
  intro s₁ he
  refine ⟨trivial, ?_⟩
  intro r s₂ hcall
  obtain ⟨hr, rfl⟩ := natSem_lookupInternal hcall.2
  cases r with
  | none =>
    intro s₃ he₃
    refine ⟨fun mapping => ⟨p, .synSent, _, rfl⟩, ?_⟩
    intro mapping s₄ hcall
    obtain ⟨hproper, hcall⟩ := hcall
    obtain ⟨now, hins⟩ := natSem_insertMapping hcall
    cases hins
    have hs₄ := srNatInsertMapping_heapOk ((hs.sparing he).sparing he₃) now
      (ntohl (SrIpHdr.ipSrc p)) (ntohs (SrTcpHdr.srcPort p o)) .natMappingTcp
    -- no sweep comes before the connection is inserted
    intro s₅ he₅
    obtain rfl | ⟨_, ⟨_, _, _, _, hno⟩, _⟩ := he₅.cases_head
    · refine ⟨⟨_, _, rfl, rfl, rfl, rfl, rfl, hproper⟩, ?_⟩
      intro r s₆ hcall
      obtain ⟨now', hconn⟩ := natSem_insertConnection hcall.2
      obtain ⟨rfl, -, -⟩ := exists_of_insertConnection_head hs₄ rfl hconn
      exact natTcpTranslateSource_flows cfg p len o _ s₆
    · exact hno.elim
  | some mapping =>
    obtain ⟨m, hm, -, rfl⟩ := exists_of_lookupInternal hr.symm
    apply updateConnection_flows (Linked.copy hm)
    intro r s'
    cases r with
    | none => exact flows_ret _ s'
    | some conn => exact natTcpTranslateSource_flows cfg p len o _ s'

/-- An incoming segment. -/
lemma natTcpInbound_flows (p : ByteMem) (len : UInt32) (o : ℕ) (s : SrNat) :
    Flows (natTcpInbound p len o) s := by
  unfold natTcpInbound
  simp only
  split
  · intro s₁ he
    refine ⟨trivial, ?_⟩
    intro r s₂ hcall
    obtain ⟨hr, rfl⟩ := natSem_lookupExternal hcall.2
    cases r with
    | none => exact fun _ _ => ⟨trivial, fun _ s' _ => flows_ret _ s'⟩
    | some mapping =>
      exact updateConnection_flows (Linked.of_lookupExternal hr.symm) fun _ s' => flows_ret _ s'
  · intro s₁ he
    refine ⟨trivial, ?_⟩
    intro r s₂ hcall
    obtain ⟨hr, rfl⟩ := natSem_lookupExternal hcall.2
    cases r with
    | none => exact natTcpUpdateChecksum_flows p len o s₂
    | some mapping =>
      apply updateConnection_flows (Linked.of_lookupExternal hr.symm)
      intro r s'
      cases r with
      | none => exact flows_ret _ s'
      | some conn => exact natTcpUpdateChecksum_flows _ len o s'

/-- An outgoing ICMP message. -/
lemma natIcmpOutbound_flows (cfg : NetConfig) (p : ByteMem) (o : ℕ) (s : SrNat) :
    Flows (natIcmpOutbound cfg p o) s := by
  have htranslate : ∀ lpm mapping s', Flows (natIcmpTranslateSource cfg p o lpm mapping) s' := by
    intro lpm mapping s'
    unfold natIcmpTranslateSource
    simp only
    split
    · exact flows_abort (by decide) s'
    · exact flows_ret _ s'
  unfold natIcmpOutbound
  simp only
  split
  · rename_i e hlookup
    rw [srRtLookup_error hlookup]
    exact flows_abort (by decide) s
  · exact flows_ret _ s
  · rename_i lpm _
    intro s₁ he
    refine ⟨trivial, ?_⟩
    intro r s₂ hcall
    cases r with
    | none => exact fun _ _ => ⟨trivial, fun mapping s' _ => htranslate lpm mapping s'⟩
    | some mapping => exact htranslate lpm mapping s₂

/-- An incoming ICMP message. -/
lemma natIcmpInbound_flows (p : ByteMem) (o : ℕ) (s : SrNat) : Flows (natIcmpInbound p o) s := by
  intro s₁ he
  refine ⟨trivial, ?_⟩
  intro r s₂ hcall
  cases r with
  | none => exact flows_ret _ s₂
  | some mapping => exact flows_ret _ s₂

/-- Every job. -/
lemma natStart_flows (j : NatJob) (hs : HeapOk s) : Flows (natStart j) s := by
  have hstarts := natStart_starts j
  generalize natStart j = P at hstarts ⊢
  cases hstarts with
  | ret hpass => exact flows_ret _ s
  | icmpOutbound hsrc hdst => exact natIcmpOutbound_flows _ _ _ s
  | icmpInbound hsrc => exact natIcmpInbound_flows _ _ s
  | tcpOutbound hsrc hdst => exact natTcpOutbound_flows hs _
  | tcpInbound hsrc => exact natTcpInbound_flows _ _ _ s

end Handlers

/-! ### Safety, exactly -/

/-- What holds throughout implies that the thread is safe. -/
lemma pendingSafe_of_flowPre {j : NatJob} {P : NatProg (ℤ × ByteMem)} {s : SrNat} (hs : HeapOk s)
    (h : FlowPre P s) : PendingSafe (.busy j P, s) := by
  cases P with
  | ret a => trivial
  | abort e => exact h
  | call c k =>
    cases c with
    | lookupExternal auxExt type => trivial
    | lookupInternal ipInt auxInt type => trivial
    | insertMapping ipInt auxInt type => trivial
    | insertUnsolicitedPacket p len => trivial
    | insertConnection extPort p state =>
      obtain ⟨m, l, hm, hnode, -, -, rfl, hproper⟩ := h
      intro now
      obtain ⟨unsol, hunsol⟩ := exists_of_removeUnsolicited hproper p
      have hins := srNatInsertConnection_head hs hm now p state
      simp only [hunsol] at hins
      exact ⟨_, _, hins, _, List.mem_cons_self .., hnode, List.mem_cons_self ..⟩
    | updateConnection mapping p len direction =>
      have hlinked : Linked s mapping.conns := h
      intro amb
      refine ⟨fun hfreed => ?_, fun conn s' hsome => ?_⟩
      · -- the walk starts from a linked node
        unfold srNatUpdateConnection at hfreed
        simp only at hfreed
        split at hfreed
        · rename_i e hconns
          cases hptr : mapping.conns with
          | none => simp [hptr] at hconns
          | some a =>
            obtain ⟨m, hm, c, hc, hnode⟩ := hlinked a hptr
            cases hfrom : connsFrom s.mappings a with
            | none => exact connsFrom_eq_none_iff.mp hfrom m hm c hc hnode
            | some conns => simp [hptr, hfrom] at hconns
        · split at hfreed
          · cases hfreed
          · split at hfreed
            · rename_i e hins
              cases hfreed
              unfold srNatInsertUnsolicitedPacket at hins
              split at hins
              · cases hins
              · split at hins <;> cases hins
            · cases hfreed
      · -- the connection that is stored is one of those it walks over
        obtain ⟨a, conns, c, -, hfrom, hmem, -, rfl, rfl⟩ := srNatUpdateConnection_some hsome
        obtain ⟨m, hm, hsub⟩ := exists_of_connsFrom hfrom
        have hc : c ∈ m.conns := hsub.subset hmem
        refine ⟨_, List.mem_map_of_mem hm, ?_⟩
        exact List.mem_map.mpr ⟨c, hc, if_pos rfl⟩

/-- A sparing run is a run of the system. -/
lemma steps_of_sparing {c c' : NatConf} (h : ReflTransGen SparingStep c c') : NatSteps c c' := by
  refine ReflTransGen.mono (fun _ _ hstep => ?_) _ _ h
  cases hstep with
  | take j s => exact .take j s
  | call hc => exact .call hc.2
  | finish j a s => exact .finish j a s
  | env he => exact .env (natEnv_of_sparing he)

/-- After a sparing run the nodes are in order and the packet thread is where it should be. -/
lemma flowPre_of_sparing {s₀ : SrNat} (hs₀ : HeapOk s₀) {c : NatConf}
    (h : ReflTransGen SparingStep (.idle, s₀) c) :
    HeapOk c.2 ∧ c.1.Throughout (Sem.guarded UnsolProper natSem) sparingEnv FlowPre c.2 :=
  respectful_invariant (fun _ _ _ _ hs ⟨_, _, hc⟩ => natExec_heapOk hs hc)
    (fun _ _ _ hs he => natEnv_heapOk hs (natEnv_of_sparing he)) (fun j _ hs => natStart_flows j hs)
    hs₀ h

/-- After a sparing run the packet thread is safe. -/
lemma pendingSafe_of_sparing {s₀ : SrNat} (hs₀ : HeapOk s₀) {c : NatConf}
    (h : ReflTransGen SparingStep (.idle, s₀) c) : PendingSafe c := by
  obtain ⟨hs, ht⟩ := flowPre_of_sparing hs₀ h
  obtain ⟨t, s⟩ := c
  cases t with
  | idle => trivial
  | busy j P => exact pendingSafe_of_flowPre hs (Prog.Throughout.here ht)

/-- A sweep that keeps the packet thread safe was a sparing one. -/
lemma spares_of_pendingSafe {j : NatJob} {P : NatProg (ℤ × ByteMem)} {s s' : SrNat}
    {rt : List SrRt} {now : Time} {reported : List (SrNatUnsolPkt × SrRt)} (hs : HeapOk s)
    (hpre : FlowPre P s) (h : natTimeout rt now s = .ok (reported, s'))
    (hsafe : PendingSafe (.busy j P, s')) : Spares s now P.next := by
  cases P with
  | ret a => trivial
  | abort e => trivial
  | call c k =>
    cases c with
    | lookupExternal auxExt type => trivial
    | lookupInternal ipInt auxInt type => trivial
    | insertMapping ipInt auxInt type => trivial
    | insertUnsolicitedPacket p len => trivial
    | insertConnection extPort p state =>
      -- the sweep has taken the new mapping, so the connection is in no mapping of that address
      obtain ⟨m, l, hm, hnode, htype, hconns, -⟩ := hpre
      obtain ⟨conn, s'', hins, m'', hm'', hnode'', -⟩ := hsafe 0
      obtain ⟨m', hm', hbare⟩ := (srNatInsertConnection_sameTable hins).exists_mem hm''
      have hgone := not_mem_of_conns_nil hs h (hm ▸ List.mem_cons_self ..) htype hconns
      refine hgone m' hm' (Nat.succ_injective ?_)
      have hnext := (natTimeout_cases h).2.2
      rw [← m'.bare_node, hbare, m''.bare_node]
      exact hnode''.trans (hnext.trans hnode.symm)
    | updateConnection mapping p len direction =>
      intro a ha m hm c hc hnode
      by_contra hkeeps
      have hfrom := not_linked_of_not_keeps hs h hm hc hkeeps
      refine (hsafe ⟨0, fun _ => 0⟩).1 ?_
      simp only [srNatUpdateConnection, ha, ← hnode, hfrom]

/-- A call that keeps the packet thread safe was made with a proper unsolicited list. -/
lemma unsolProper_of_pendingSafe {j : NatJob} {c : NatCall} {k : c.Result → NatProg (ℤ × ByteMem)}
    {s s' : SrNat} {r : c.Result} (hs : HeapOk s) (hpre : FlowPre (.call c k) s)
    (h : natSem c s r s') (hsafe : PendingSafe (.busy j (k r), s')) : UnsolProper c s := by
  cases c with
  | lookupExternal auxExt type => trivial
  | lookupInternal ipInt auxInt type => trivial
  | insertConnection extPort p state => trivial
  | updateConnection mapping p len direction => trivial
  | insertUnsolicitedPacket p len => trivial
  | insertMapping ipInt auxInt type =>
    cases type with
    | natMappingIcmp => trivial
    | natMappingTcp =>
      obtain ⟨now, hins⟩ := natSem_insertMapping h
      cases hins
      obtain ⟨p, state, k', hk⟩ := hpre (newMapping s now ipInt auxInt .natMappingTcp).copy
      intro hdangling
      change PendingSafe (.busy j (k (newMapping s now ipInt auxInt .natMappingTcp).copy), _) at hsafe
      rw [hk] at hsafe
      obtain ⟨conn, s'', hconn, -⟩ := hsafe 0
      have hhead := srNatInsertConnection_head
        (srNatInsertMapping_heapOk hs now ipInt auxInt .natMappingTcp) rfl 0 p state
      have hunsol : (srNatInsertMapping s now ipInt auxInt .natMappingTcp).2.unsolPkt = .dangling :=
        hdangling
      rw [hunsol] at hhead
      exact absurd (hhead.symm.trans hconn) (by simp [srNatRemoveUnsolicitedPacket])

/-- **When a new flow survives.**  From any state, in every run of the handlers and the sweeps whose
steps spare what the packet thread is about to use, the packet thread is safe in every configuration.
A further step keeps it safe if and only if it is a sparing one. -/
theorem flow_survives {s₀ : SrNat} (hs₀ : HeapOk s₀) {c : NatConf}
    (h : ReflTransGen SparingStep (.idle, s₀) c) :
    NatSteps (.idle, s₀) c ∧ PendingSafe c ∧
      ∀ c', Step natSem natEnv natStart c c' → (PendingSafe c' ↔ SparingStep c c') := by
  refine ⟨steps_of_sparing h, pendingSafe_of_sparing hs₀ h, fun c' hstep => ⟨fun hsafe => ?_,
    fun hsparing => pendingSafe_of_sparing hs₀ (h.tail hsparing)⟩⟩
  obtain ⟨hs, ht⟩ := flowPre_of_sparing hs₀ h
  cases hstep with
  | take j s => exact .take j s
  | finish j a s => exact .finish j a s
  | call hc => exact .call ⟨unsolProper_of_pendingSafe hs (Prog.Throughout.here ht) hc hsafe, hc⟩
  | @env t s s' he =>
    obtain ⟨rt, now, reported, he⟩ := he
    refine .env ⟨rt, now, reported, he, ?_⟩
    cases t with
    | idle => trivial
    | busy j P => exact spares_of_pendingSafe hs (Prog.Throughout.here ht) he hsafe

/-! ### A flow that does not survive -/

/-- The handling of `outboundSyn`. -/
def synJob : NatJob := .tcp oneRoute outboundSyn.buf outboundSyn.len false

/-- What it does with a connection, if there is one. -/
def synRest (mapping : SrNatMappingCopy) (failed : NatProg (ℤ × ByteMem)) :
    Option SrNatConnection → NatProg (ℤ × ByteMem)
  | none => failed
  | some _ => natTcpTranslateSource oneRoute outboundSyn.buf outboundSyn.len 20 mapping

/-- What it does after the insertion of a mapping. -/
def synInsert (mapping : SrNatMappingCopy) : NatProg (ℤ × ByteMem) :=
  .call (.insertConnection mapping.auxExt outboundSyn.buf .synSent)
    (synRest mapping (.abort .nullConn))

/-- The state after its first insertion, at time 0. -/
def mappingState : SrNat := (srNatInsertMapping startState 0 0x0a000001 5000 .natMappingTcp).2

/-- The program of `synJob`: what follows the lookup that fails, and the one that succeeds. -/
lemma natStart_synJob : ∃ k,
    natStart synJob = .call (.lookupInternal 0x0a000001 5000 .natMappingTcp) k ∧
    k none = .call (.insertMapping 0x0a000001 5000 .natMappingTcp) synInsert ∧
    ∀ mapping, k (some mapping) =
      .call (.updateConnection mapping outboundSyn.buf outboundSyn.len .internalToExternal)
        (synRest mapping (.ret (0, outboundSyn.buf))) := by
  have hsrc : ntohl (SrIpHdr.ipSrc outboundSyn.buf) = 0x0a000001 := by
    simp [outboundSyn, tcpSegmentPacket]
  have hport : ntohs (SrTcpHdr.srcPort outboundSyn.buf 20) = 5000 := by
    simp [outboundSyn, tcpSegmentPacket]
  have hoffset : ipHeaderLen outboundSyn.buf = 20 := by
    simp [outboundSyn, tcpSegmentPacket]
  rw [synJob, natStart, natHandleTcp_outbound srcPrivate_outboundSyn not_dstPrivate_outboundSyn,
    hoffset, natTcpOutbound, hsrc, hport]
  refine ⟨_, rfl, congrArg (Prog.call _) (funext fun mapping => congrArg (Prog.call _) ?_),
    fun mapping => congrArg (Prog.call _) ?_⟩
  · funext r
    cases r <;> rfl
  · funext r
    cases r <;> rfl

/-- The handler has inserted the mapping and is about to insert the connection. -/
lemma sparing_mappingState : ReflTransGen SparingStep (.idle, startState)
    (.busy synJob (synInsert synMapping.copy), mappingState) := by
  obtain ⟨k, hstart, hnone, -⟩ := natStart_synJob
  have htake : SparingStep (.idle, startState) (.busy synJob (natStart synJob), startState) :=
    .take synJob startState
  have hlookup : natSem (.lookupInternal 0x0a000001 5000 .natMappingTcp) startState none
      startState := ⟨quiet 0, rfl⟩
  have hcall : SparingStep (.busy synJob (natStart synJob), startState)
      (.busy synJob (k none), startState) := by
    rw [hstart]
    exact .call ⟨trivial, hlookup⟩
  have hinsert : natSem (.insertMapping 0x0a000001 5000 .natMappingTcp) startState synMapping.copy
      mappingState := ⟨quiet 1, rfl⟩
  rw [hnone] at hcall
  have hproper : startState.unsolPkt ≠ .dangling := by
    rintro ⟨⟩
  have hstep : SparingStep
      (.busy synJob (.call (.insertMapping 0x0a000001 5000 .natMappingTcp) synInsert), startState)
      (.busy synJob (synInsert synMapping.copy), mappingState) := .call ⟨hproper, hinsert⟩
  exact .tail (.tail (.single htake) hcall) hstep

/-- Without a sweep in between, the insertion of the connection is safe. -/
theorem flow_survives_syn : PendingSafe (.busy synJob (synInsert synMapping.copy), mappingState) :=
  (flow_survives (HeapOk.initial isInitial_startState) sparing_mappingState).2.1

/-- **A new flow is lost.**  A sweep between the two insertions, at the very time of the first, takes
the new mapping, and the handler dereferences a null connection.  And when the SYN is sent again, a
late sweep between the lookup and the update frees the connection that the update is about to read. -/
theorem flow_lost :
    (∃ s, NatSteps (.idle, startState) (.busy synJob (.abort .nullConn), s)) ∧
    ∃ s, NatSteps (.idle, startState) (.busy synJob
        (.call (.updateConnection synStateMapping.copy outboundSyn.buf outboundSyn.len
          .internalToExternal) (synRest synStateMapping.copy (.ret (0, outboundSyn.buf)))), s) ∧
      ∀ amb, srNatUpdateConnection s amb synStateMapping.copy outboundSyn.buf outboundSyn.len
        .internalToExternal = .error .freedConn := by
  constructor
  · obtain ⟨s, hsweep⟩ : ∃ s, natTimeout [] 0 mappingState = .ok ([], s) := ⟨_, rfl⟩
    have hnil : s.mappings = [] := (natTimeout_cases hsweep).1
    have hconn : natSem (.insertConnection synMapping.auxExt outboundSyn.buf .synSent) s none s := by
      refine ⟨quiet 2, ?_⟩
      simp only [natExec, srNatInsertConnection, hnil, List.find?_nil]
      rfl
    have hswept := (steps_of_sparing sparing_mappingState).tail (.env ⟨[], 0, [], hsweep⟩)
    have hnull : Step natSem natEnv natStart (.busy synJob (synInsert synMapping.copy), s)
        (.busy synJob (synRest synMapping.copy (.abort .nullConn) none), s) := .call hconn
    exact ⟨s, hswept.tail hnull⟩
  · obtain ⟨k, hstart, -, hsome⟩ := natStart_synJob
    obtain ⟨s, hsweep⟩ : ∃ s, natTimeout [] 1000 synState = .ok ([], s) := ⟨_, rfl⟩
    have hnil : s.mappings = [] := (natTimeout_cases hsweep).1
    have htake : Step natSem natEnv natStart (.idle, synState)
        (.busy synJob (natStart synJob), synState) := .take synJob synState
    have hlookup : natSem (.lookupInternal 0x0a000001 5000 .natMappingTcp) synState
        (some synStateMapping.copy) synState := ⟨quiet 0, rfl⟩
    have hcall : Step natSem natEnv natStart (.busy synJob (natStart synJob), synState)
        (.busy synJob (k (some synStateMapping.copy)), synState) := by
      rw [hstart]
      exact .call hlookup
    rw [hsome] at hcall
    refine ⟨s, ((steps_synState.tail htake).tail hcall).tail (.env ⟨[], 1000, [], hsweep⟩),
      fun amb => ?_⟩
    simp only [srNatUpdateConnection, hnil]
    rfl

end NatRouter
