import Mathlib.Data.List.Pairwise
import Mathlib.Data.List.TakeWhile
import NatRouter.Nat.System

/-!
# The nodes of the table

The addresses of the mapping and connection nodes in the table are pairwise distinct, and none is
ahead of the allocation counter (`HeapOk`).  So an address leads to one node: a store through a
connection pointer changes that connection only, and a connection pointer that was read from the
head of a list leads to the whole list (`connsFrom_head`).  Addresses also tell which mapping of a
later state is which of an earlier one (`Kept`).
-/

namespace NatRouter

open ByteMemory PackedBits Interleaving KeyedList Relation

/-- The addresses of a mapping node and of its connections. -/
def SrNatMapping.nodes (m : SrNatMapping) : List NodeId := m.node :: m.conns.map SrNatConnection.node

/-- The addresses of the nodes in the table. -/
def SrNat.nodes (s : SrNat) : List NodeId := s.mappings.flatMap SrNatMapping.nodes

/-- The nodes in the table are distinct objects, and all of them have been allocated. -/
structure HeapOk (s : SrNat) : Prop where
  /-- No address occurs twice. -/
  nodup : s.nodes.Nodup
  /-- Every address stems from an allocation in the past. -/
  lt : ∀ n ∈ s.nodes, n < s.nextNode

/-- A table entry has its own address among its nodes. -/
lemma SrNatMapping.node_mem_nodes (m : SrNatMapping) : m.node ∈ m.nodes := by simp [nodes]

/-- A connection has its address among the nodes of its mapping. -/
lemma SrNatMapping.conn_mem_nodes {m : SrNatMapping} {c : SrNatConnection} (h : c ∈ m.conns) :
    c.node ∈ m.nodes := by
  simp only [nodes, List.mem_cons, List.mem_map]
  exact .inr ⟨c, h, rfl⟩

/-- The nodes of an entry are nodes of the table. -/
lemma SrNat.mem_nodes {s : SrNat} {m : SrNatMapping} (hm : m ∈ s.mappings) {n : NodeId}
    (hn : n ∈ m.nodes) : n ∈ s.nodes :=
  List.mem_flatMap.mpr ⟨m, hm, hn⟩

namespace HeapOk

variable {s s' : SrNat}

/-- Entries that share a node are the same entry. -/
lemma mapping_eq_of_mem_nodes (h : HeapOk s) {m m' : SrNatMapping} (hm : m ∈ s.mappings)
    (hm' : m' ∈ s.mappings) {n : NodeId} (hn : n ∈ m.nodes) (hn' : n ∈ m'.nodes) : m = m' := by
  by_contra hne
  have hsymm : Std.Symm (Function.onFun List.Disjoint SrNatMapping.nodes) :=
    ⟨fun _ _ hdisj _ hx hy => hdisj hy hx⟩
  exact (List.nodup_flatMap.mp h.nodup).2.forall hm hm' hne hn hn'

/-- Entries at the same address are the same entry. -/
lemma mapping_eq (h : HeapOk s) {m m' : SrNatMapping} (hm : m ∈ s.mappings)
    (hm' : m' ∈ s.mappings) (hnode : m.node = m'.node) : m = m' :=
  h.mapping_eq_of_mem_nodes hm hm' m.node_mem_nodes (hnode ▸ m'.node_mem_nodes)

/-- The connections of an entry have distinct addresses. -/
lemma conns_nodup (h : HeapOk s) {m : SrNatMapping} (hm : m ∈ s.mappings) :
    (m.conns.map SrNatConnection.node).Nodup :=
  (List.nodup_cons.mp ((List.nodup_flatMap.mp h.nodup).1 m hm)).2

/-- Connections at the same address are the same connection of the same entry. -/
lemma conn_eq (h : HeapOk s) {m m' : SrNatMapping} (hm : m ∈ s.mappings) (hm' : m' ∈ s.mappings)
    {c c' : SrNatConnection} (hc : c ∈ m.conns) (hc' : c' ∈ m'.conns) (hnode : c.node = c'.node) :
    m = m' ∧ c = c' := by
  have hmm : m = m' := h.mapping_eq_of_mem_nodes hm hm' (SrNatMapping.conn_mem_nodes hc)
    (hnode ▸ SrNatMapping.conn_mem_nodes hc')
  subst hmm
  exact ⟨rfl, List.inj_on_of_nodup_map (h.conns_nodup hm) hc hc' hnode⟩

/-- An entry has a past address. -/
lemma node_lt (h : HeapOk s) {m : SrNatMapping} (hm : m ∈ s.mappings) : m.node < s.nextNode :=
  h.lt _ (SrNat.mem_nodes hm m.node_mem_nodes)

/-- The empty table. -/
lemma initial (h : IsInitial s) : HeapOk s := by
  obtain ⟨icmpTo, estabTo, transTo, unsol, rfl⟩ := h
  exact ⟨List.nodup_nil, fun n hn => absurd hn List.not_mem_nil⟩

/-- A state with the same nodes. -/
lemma of_nodes_eq (h : HeapOk s) (hnodes : s'.nodes = s.nodes) (hnext : s.nextNode ≤ s'.nextNode) :
    HeapOk s' :=
  ⟨hnodes ▸ h.nodup, fun n hn => (h.lt n (hnodes ▸ hn)).trans_le hnext⟩

/-- A state with one node more, the one allocated last. -/
lemma of_nodes_perm (h : HeapOk s) (hnodes : s'.nodes.Perm (s.nextNode :: s.nodes))
    (hnext : s'.nextNode = s.nextNode + 1) : HeapOk s' := by
  have hfresh : s.nextNode ∉ s.nodes := fun hmem => Nat.lt_irrefl _ (h.lt _ hmem)
  refine ⟨hnodes.nodup_iff.mpr (List.nodup_cons.mpr ⟨hfresh, h.nodup⟩), ?_⟩
  intro n hn
  rw [hnext]
  rcases List.mem_cons.mp (hnodes.mem_iff.mp hn) with rfl | hn
  · exact Nat.lt_succ_self _
  · exact (h.lt n hn).trans (Nat.lt_succ_self _)

end HeapOk

/-! ### Effect of the operations on the nodes -/

/-- In a table without repeated addresses, an entry splits it into entries at other addresses. -/
lemma HeapOk.split (h : HeapOk s) {m : SrNatMapping} (hm : m ∈ s.mappings) :
    ∃ l₁ l₂, s.mappings = l₁ ++ m :: l₂ ∧ (∀ x ∈ l₁, x.node ≠ m.node) ∧
      ∀ x ∈ l₂, x.node ≠ m.node := by
  obtain ⟨l₁, l₂, hsplit⟩ := List.append_of_mem hm
  have hnodup := h.nodup
  rw [SrNat.nodes, hsplit, List.flatMap_append, List.flatMap_cons] at hnodup
  refine ⟨l₁, l₂, hsplit, ?_, ?_⟩
  · intro x hx hnode
    exact (List.nodup_append'.mp hnodup).2.2 (List.mem_flatMap.mpr ⟨x, hx, x.node_mem_nodes⟩)
      (List.mem_append_left _ (hnode ▸ m.node_mem_nodes))
  · intro x hx hnode
    exact (List.nodup_append'.mp (List.nodup_append'.mp hnodup).2.1).2.2
      (hnode ▸ m.node_mem_nodes) (List.mem_flatMap.mpr ⟨x, hx, x.node_mem_nodes⟩)

/-- `sr_nat_insert_connection` allocates one node. -/
lemma srNatInsertConnection_heapOk {s s' : SrNat} {now : Time} {extPort : UInt16} {p : ByteMem}
    {state : SrTcpStateType} {r : Option SrNatConnection} (hs : HeapOk s)
    (h : srNatInsertConnection s now extPort p state = .ok (r, s')) : HeapOk s' := by
  unfold srNatInsertConnection at h
  split at h
  · cases h
    exact hs
  · rename_i curr hfind
    split at h
    · cases h
    · cases h
      obtain ⟨l₁, l₂, hsplit, h₁, h₂⟩ := hs.split (List.mem_of_find?_eq_some hfind)
      refine hs.of_nodes_perm ?_ rfl
      simp only [SrNat.nodes, SrNat.modifyMapping, hsplit]
      rw [map_ite_key_eq h₁ h₂]
      simp only [List.flatMap_append, List.flatMap_cons, SrNatMapping.nodes, List.map_cons,
        newConnection, List.cons_append]
      refine (List.Perm.append_left _ (List.Perm.swap _ _ _)).trans ?_
      exact List.perm_middle

/-- Storing a connection at the address of an existing one keeps the nodes. -/
lemma storeConn_nodes (s : SrNat) (c : SrNatConnection) : (s.storeConn c).nodes = s.nodes := by
  simp only [SrNat.nodes, SrNat.storeConn, List.flatMap_map]
  congr 1
  funext m
  simp only [SrNatMapping.nodes, List.map_map]
  congr 1
  apply List.map_congr_left
  intro d _
  simp only [Function.comp_apply]
  split_ifs with hd
  · exact hd.symm
  · rfl

/-- `sr_nat_update_connection` allocates no node of the table. -/
lemma srNatUpdateConnection_nodes {s s' : SrNat} {amb : Ambient} {mapping : SrNatMappingCopy}
    {p : ByteMem} {len : UInt32} {direction : Direction} {r : Option SrNatConnection}
    (h : srNatUpdateConnection s amb mapping p len direction = .ok (r, s')) :
    s'.nodes = s.nodes ∧ s'.nextNode = s.nextNode := by
  unfold srNatUpdateConnection at h
  simp only at h
  split at h
  · cases h
  · split at h
    · cases h
      exact ⟨storeConn_nodes _ _, rfl⟩
    · split at h
      · cases h
      · cases h
        exact ⟨rfl, rfl⟩

/-- `sr_nat_insert_mapping` allocates one node. -/
lemma srNatInsertMapping_heapOk {s : SrNat} (hs : HeapOk s) (now : Time) (ipInt : UInt32)
    (auxInt : UInt16) (type : SrNatMappingType) :
    HeapOk (srNatInsertMapping s now ipInt auxInt type).2 :=
  hs.of_nodes_perm (.refl _) rfl

/-- Every call keeps the nodes in order. -/
lemma natExec_heapOk {amb : Ambient} {c : NatCall} {s s' : SrNat} {r : c.Result} (hs : HeapOk s)
    (h : natExec amb c s = .ok (r, s')) : HeapOk s' := by
  cases c with
  | lookupExternal auxExt type =>
    cases h
    exact hs
  | lookupInternal ipInt auxInt type =>
    cases h
    exact hs
  | insertMapping ipInt auxInt type =>
    cases h
    exact srNatInsertMapping_heapOk hs amb.now ipInt auxInt type
  | insertConnection extPort p state => exact srNatInsertConnection_heapOk hs h
  | updateConnection mapping p len direction =>
    obtain ⟨hnodes, hnext⟩ := srNatUpdateConnection_nodes h
    exact hs.of_nodes_eq hnodes hnext.ge
  | insertUnsolicitedPacket p len =>
    cases hins : srNatInsertUnsolicitedPacket amb s.unsolPkt p len with
    | error e => simp [natExec, hins] at h
    | ok unsol =>
      simp only [natExec, hins] at h
      cases h
      exact hs.of_nodes_eq rfl le_rfl

/-- The nodes of an entry after the sweep are nodes it had before. -/
lemma sweepMapping_nodes_sublist {s : SrNat} {t : Time} {m m' : SrNatMapping}
    (h : sweepMapping s t m = some m') : List.Sublist m'.nodes m.nodes := by
  have hnode : m'.node = m.node := by
    rw [← m'.bare_node, sweepMapping_bare h, m.bare_node]
  unfold SrNatMapping.nodes
  rw [hnode]
  refine List.Sublist.cons_cons _ (List.Sublist.map _ ?_)
  rcases sweepMapping_conns h with ⟨-, hconns⟩ | ⟨-, hconns, -⟩
  · rw [hconns]
  · rw [hconns]
    exact List.filter_sublist

/-- A sweep keeps the nodes in order. -/
lemma natEnv_heapOk {s s' : SrNat} (hs : HeapOk s) (h : natEnv s s') : HeapOk s' := by
  obtain ⟨rt, t, reported, h⟩ := h
  obtain ⟨hmap, -, hnext⟩ := natTimeout_cases h
  have hsub : ∀ l : List SrNatMapping, List.Sublist
      ((l.filterMap (sweepMapping s t)).flatMap SrNatMapping.nodes)
      (l.flatMap SrNatMapping.nodes) := by
    intro l
    induction l with
    | nil => exact .slnil
    | cons m l ih =>
      cases hm : sweepMapping s t m with
      | none =>
        rw [List.filterMap_cons_none hm, List.flatMap_cons]
        exact ih.trans (List.sublist_append_right _ _)
      | some m' =>
        rw [List.filterMap_cons_some hm, List.flatMap_cons, List.flatMap_cons]
        exact (sweepMapping_nodes_sublist hm).append ih
  have hnodes : List.Sublist s'.nodes s.nodes := by
    unfold SrNat.nodes
    rw [hmap]
    exact hsub _
  exact ⟨hs.nodup.sublist hnodes, fun n hn => hnext ▸ hs.lt n (hnodes.subset hn)⟩

/-- The nodes are in order all along a run. -/
lemma heapOk_of_steps {s : SrNat} (hs : HeapOk s) {c : NatConf} (h : NatSteps (.idle, s) c) :
    HeapOk c.2 :=
  natInvariant (fun _ _ _ _ hI ⟨_, hexec⟩ => natExec_heapOk hI hexec)
    (fun _ _ hI he => natEnv_heapOk hI he) hs h

/-! ### What stays of a mapping -/

/-- From `s` to `s'`, the mappings that stay in the table keep their value of `f`: a node of the
later table that existed before was in the earlier table, with the same value. -/
structure Kept {β : Type} (f : SrNatMapping → β) (s s' : SrNat) : Prop where
  /-- Allocations only go on. -/
  nextNode_le : s.nextNode ≤ s'.nextNode
  /-- An old node of the later table is a node of the earlier table. -/
  exists_mem : ∀ m' ∈ s'.mappings, m'.node < s.nextNode →
    ∃ m ∈ s.mappings, m.node = m'.node ∧ f m = f m'

namespace Kept

variable {β : Type} {f : SrNatMapping → β} {s s' s'' : SrNat}

/-- Nothing happens. -/
lemma refl (s : SrNat) : Kept f s s := ⟨le_rfl, fun m hm _ => ⟨m, hm, rfl, rfl⟩⟩

/-- One thing after the other. -/
lemma trans (h : Kept f s s') (h' : Kept f s' s'') : Kept f s s'' := by
  refine ⟨h.nextNode_le.trans h'.nextNode_le, ?_⟩
  intro m'' hm'' hlt
  obtain ⟨m', hm', hnode', hf'⟩ := h'.exists_mem m'' hm'' (hlt.trans_le h.nextNode_le)
  obtain ⟨m, hm, hnode, hf⟩ := h.exists_mem m' hm' (hnode' ▸ hlt)
  exact ⟨m, hm, hnode.trans hnode', hf.trans hf'⟩

/-- A mapping that is in both tables has the same value in both. -/
lemma eq_of_node_eq (h : Kept f s s') (hs : HeapOk s) {m m' : SrNatMapping} (hm : m ∈ s.mappings)
    (hm' : m' ∈ s'.mappings) (hnode : m'.node = m.node) : f m = f m' := by
  obtain ⟨x, hx, hxnode, hf⟩ := h.exists_mem m' hm' (hnode ▸ hs.node_lt hm)
  rw [hs.mapping_eq hm hx (hnode.symm.trans hxnode.symm), hf]

end Kept

/-- A call changes at most the connections of a mapping that stays. -/
lemma natSem_keptBare {c : NatCall} {s s' : SrNat} {r : c.Result} (h : natSem c s r s') :
    Kept SrNatMapping.bare s s' := by
  obtain ⟨amb, h⟩ := h
  rcases natExec_cases h with ht | ⟨ipInt, auxInt, type, rfl, rfl⟩
  · refine ⟨ht.nextNode, ?_⟩
    intro m' hm' _
    obtain ⟨m, hm, hbare⟩ := ht.exists_mem hm'
    exact ⟨m, hm, by rw [← m.bare_node, hbare, m'.bare_node], hbare⟩
  · refine ⟨Nat.le_succ _, ?_⟩
    rintro m' (_ | ⟨_, hm'⟩) hlt
    · exact absurd hlt (Nat.lt_irrefl _)
    · exact ⟨m', hm', rfl, rfl⟩

/-- A sweep changes at most the connections of a mapping that stays. -/
lemma natEnv_keptBare {s s' : SrNat} (h : natEnv s s') : Kept SrNatMapping.bare s s' := by
  obtain ⟨rt, t, reported, h⟩ := h
  obtain ⟨hmap, -, hnext⟩ := natTimeout_cases h
  refine ⟨hnext.ge, ?_⟩
  intro m' hm' _
  obtain ⟨m, hm, hsweep⟩ := List.mem_filterMap.mp (hmap ▸ hm')
  have hbare := (sweepMapping_bare hsweep).symm
  exact ⟨m, hm, by rw [← m.bare_node, hbare, m'.bare_node], hbare⟩

/-- All along a run, a mapping that stays changes at most in its connections. -/
lemma keptBare_of_steps {c c' : NatConf} (h : NatSteps c c') :
    Kept SrNatMapping.bare c.2 c'.2 := by
  induction h with
  | refl => exact .refl _
  | tail _ hstep ih =>
    refine ih.trans ?_
    cases hstep with
    | take j s => exact .refl s
    | call hc => exact natSem_keptBare hc
    | finish j a s => exact .refl s
    | env he => exact natEnv_keptBare he

/-! ### Following a connection pointer -/

/-- A walk from an address that no connection of the table has. -/
lemma connsFrom_eq_none_iff {mappings : List SrNatMapping} {a : NodeId} :
    connsFrom mappings a = none ↔ ∀ m ∈ mappings, ∀ c ∈ m.conns, c.node ≠ a := by
  unfold connsFrom
  rw [List.findSome?_eq_none_iff]
  apply forall₂_congr
  intro m _
  have hnil : (m.conns.dropWhile fun c => decide (c.node ≠ a)) = [] ↔
      ∀ c ∈ m.conns, c.node ≠ a := by
    simp [List.dropWhile_eq_nil_iff]
  rw [← hnil]
  cases m.conns.dropWhile fun c => decide (c.node ≠ a) <;> simp

/-- The pointer to the first connection of a mapping leads to all of them. -/
lemma connsFrom_head {s : SrNat} (hs : HeapOk s) {m : SrNatMapping} (hm : m ∈ s.mappings)
    {c : SrNatConnection} {cs : List SrNatConnection} (hconns : m.conns = c :: cs) :
    connsFrom s.mappings c.node = some (c :: cs) := by
  obtain ⟨l₁, l₂, hsplit, h₁, -⟩ := hs.split hm
  have hc : c ∈ m.conns := hconns ▸ List.mem_cons_self
  have hbefore : connsFrom l₁ c.node = none := by
    refine connsFrom_eq_none_iff.mpr fun x hx d hd hnode => h₁ x hx ?_
    have hx' : x ∈ s.mappings := hsplit ▸ List.mem_append_left _ hx
    rw [(hs.conn_eq hx' hm hd hc hnode).1]
  unfold connsFrom at hbefore ⊢
  rw [hsplit, List.findSome?_append, hbefore, Option.none_or, List.findSome?_cons, hconns]
  simp

/-- An update through the copy of a mapping that is in the table works on the connections of that
mapping. -/
lemma srNatUpdateConnection_copy {s : SrNat} (hs : HeapOk s) {m : SrNatMapping}
    (hm : m ∈ s.mappings) (amb : Ambient) (p : ByteMem) (len : UInt32) (direction : Direction) :
    srNatUpdateConnection s amb m.copy p len direction =
      match m.conns.find? (isPeer direction p) with
      | some c => .ok (some (updatedConnection amb.now p c), s.storeConn (updatedConnection amb.now p c))
      | none =>
        match srNatInsertUnsolicitedPacket amb s.unsolPkt p len with
        | .error e => .error e
        | .ok unsol => .ok (none, { s with unsolPkt := unsol }) := by
  unfold srNatUpdateConnection
  cases hconns : m.conns with
  | nil =>
    cases srNatInsertUnsolicitedPacket amb s.unsolPkt p len with
    | error e => simp only [SrNatMapping.copy, hconns, List.head?_nil, Option.map_none, List.find?_nil]
    | ok unsol =>
      simp only [SrNatMapping.copy, hconns, List.head?_nil, Option.map_none, List.find?_nil]
  | cons c cs =>
    have hwalk := connsFrom_head hs hm hconns
    cases hfind : (c :: cs).find? (isPeer direction p) with
    | some d => simp only [SrNatMapping.copy, hconns, List.head?_cons, Option.map_some, hwalk, hfind]
    | none =>
      cases srNatInsertUnsolicitedPacket amb s.unsolPkt p len with
      | error e =>
        simp only [SrNatMapping.copy, hconns, List.head?_cons, Option.map_some, hwalk, hfind]
      | ok unsol =>
        simp only [SrNatMapping.copy, hconns, List.head?_cons, Option.map_some, hwalk, hfind]

end NatRouter
