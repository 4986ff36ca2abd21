import NatRouter.Lib.LinkedHeap
import NatRouter.Nat.Heap
import NatRouter.Nat.Unsolicited

/-!
# The lists of the NAT in memory

`struct sr_nat` with the nodes of its lists, as the functions that change them find it: they follow
`next` pointers, unlink nodes, free them and write head pointers.  `Represents` says which `SrNat` lies
in a memory.

The two functions on the unsolicited list are here, `sr_nat_remove_unsolicited_packet`, which does not
write the head pointer, and `sr_nat_insert_unsolicited_packet`.  Both put a dummy node before the list,
and both look for the TCP header of a queued packet where that of the packet passed in starts.
-/

namespace NatRouter

open ByteMemory LinkedHeap

/-- `struct sr_nat` and the nodes its lists are made of.  What a mapping node holds is what the lookups
copy. -/
structure NatMemory where
  /-- The nodes of `struct sr_nat_unsol_pkt`. -/
  unsolNodes : Heap NodeId SrNatUnsolPkt
  /-- The nodes of `struct sr_nat_mapping`. -/
  mappingNodes : Heap NodeId SrNatMappingCopy
  /-- The nodes of `struct sr_nat_connection`. -/
  connNodes : Heap NodeId SrNatConnection
  /-- `nat->unsol_pkt`. -/
  unsolPkt : Option NodeId
  /-- `nat->mappings`. -/
  mappings : Option NodeId
  /-- `nat->icmp_query_to`. -/
  icmpQueryTo : UInt32
  /-- `nat->tcp_estab_idle_to`. -/
  tcpEstabIdleTo : UInt32
  /-- `nat->tcp_transitory_to`. -/
  tcpTransitoryTo : UInt32
  /-- `nat->bitmap`. -/
  bitmap : Bitmap
  /-- The next allocation has this number. -/
  nextNode : NodeId

/-- The nodes that an unsolicited list stands for. -/
def UnsolList.LiesIn (h : Heap NodeId SrNatUnsolPkt) (head : Option NodeId) : UnsolList → Prop
  | .linked pkts => ∃ l, LinkedHeap.Linked h head l ∧ l.map Prod.snd = pkts
  | .dangling => ∃ i, head = some i ∧ h i = none

/-- In one place lies one list. -/
lemma UnsolList.LiesIn.unique {h : Heap NodeId SrNatUnsolPkt} {head : Option NodeId}
    {unsol unsol' : UnsolList} (hlies : unsol.LiesIn h head) (hlies' : unsol'.LiesIn h head) :
    unsol = unsol' := by
  have hnot : ∀ pkts, (UnsolList.linked pkts).LiesIn h head → ¬ UnsolList.dangling.LiesIn h head := by
    rintro pkts ⟨l, hl, -⟩ ⟨i, rfl, hi⟩
    cases l with
    | nil => exact Option.some_ne_none i hl
    | cons x l =>
      obtain ⟨hx, n, hcell, -⟩ := hl
      rw [← Option.some.inj hx, hi] at hcell
      cases hcell
  cases unsol with
  | dangling =>
    cases unsol' with
    | dangling => rfl
    | linked pkts => exact absurd hlies (hnot pkts hlies')
  | linked pkts =>
    cases unsol' with
    | dangling => exact absurd hlies' (hnot pkts hlies)
    | linked pkts' =>
      obtain ⟨l, hl, rfl⟩ := hlies
      obtain ⟨l', hl', rfl⟩ := hlies'
      rw [hl.unique hl']

/-- The addresses and contents of a list of connections. -/
def connCells (conns : List SrNatConnection) : List (NodeId × SrNatConnection) :=
  conns.map fun c => (c.node, c)

/-- The addresses and contents of a list of mappings. -/
def mappingCells (mappings : List SrNatMapping) : List (NodeId × SrNatMappingCopy) :=
  mappings.map fun m => (m.node, m.copy)

/-- The NAT state that lies in a memory. -/
structure Represents (M : NatMemory) (s : SrNat) : Prop where
  /-- The mappings. -/
  mappings : LinkedHeap.Linked M.mappingNodes M.mappings (mappingCells s.mappings)
  /-- The connections of each of them. -/
  conns : ∀ m ∈ s.mappings, LinkedHeap.Linked M.connNodes m.copy.conns (connCells m.conns)
  /-- No connection is on two lists. -/
  apart : (s.mappings.flatMap fun m => m.conns.map SrNatConnection.node).Nodup
  /-- The unsolicited packets. -/
  unsol : s.unsolPkt.LiesIn M.unsolNodes M.unsolPkt
  /-- The ICMP query timeout. -/
  icmpQueryTo : M.icmpQueryTo = s.icmpQueryTo
  /-- The TCP established timeout. -/
  tcpEstabIdleTo : M.tcpEstabIdleTo = s.tcpEstabIdleTo
  /-- The TCP transitory timeout. -/
  tcpTransitoryTo : M.tcpTransitoryTo = s.tcpTransitoryTo
  /-- The bitmap. -/
  bitmap : M.bitmap = s.bitmap
  /-- What has not been allocated yet holds nothing. -/
  fresh : ∀ i, M.nextNode ≤ i →
    M.unsolNodes i = none ∧ M.mappingNodes i = none ∧ M.connNodes i = none
  /-- The head pointer of the unsolicited list stems from an allocation in the past. -/
  allocated : ∀ i, M.unsolPkt = some i → i < M.nextNode

/-! ### A memory for every state -/

/-- The nodes of a list of unsolicited packets, numbered from 0 on. -/
def unsolCells (pkts : List SrNatUnsolPkt) : List (NodeId × SrNatUnsolPkt) :=
  pkts.zipIdx.map Prod.swap

/-- The addresses of unsolicited packets. -/
lemma addrs_unsolCells (pkts : List SrNatUnsolPkt) : addrs (unsolCells pkts) = List.range pkts.length := by
  unfold addrs unsolCells
  rw [List.map_map, show Prod.fst ∘ Prod.swap = (Prod.snd : SrNatUnsolPkt × ℕ → ℕ) from rfl,
    List.zipIdx_map_snd, List.range_eq_range']

/-- The addresses of connections. -/
lemma addrs_connCells (conns : List SrNatConnection) :
    addrs (connCells conns) = conns.map SrNatConnection.node := by
  simp only [addrs, connCells, List.map_map, Function.comp_def]

/-- The addresses of mappings. -/
lemma addrs_mappingCells (mappings : List SrNatMapping) :
    addrs (mappingCells mappings) = mappings.map SrNatMapping.node := by
  simp only [addrs, mappingCells, List.map_map, Function.comp_def]

/-- The heap with the connections of every mapping of a list. -/
def layOutConns (mappings : List SrNatMapping) : Heap NodeId SrNatConnection :=
  mappings.foldr (fun m h => layOut h (connCells m.conns)) fun _ => none

/-- The pointer to the first connection. -/
lemma copy_conns (m : SrNatMapping) : m.copy.conns = (connCells m.conns).head?.map Prod.fst := by
  cases h : m.conns with
  | nil => simp [SrNatMapping.copy, connCells, h]
  | cons c conns => simp [SrNatMapping.copy, connCells, h]

/-- Where no connection is there is nothing. -/
lemma layOutConns_of_not_mem {mappings : List SrNatMapping} {i : NodeId}
    (hi : i ∉ mappings.flatMap fun m => m.conns.map SrNatConnection.node) :
    layOutConns mappings i = none := by
  induction mappings with
  | nil => rfl
  | cons m mappings ih =>
    rw [List.flatMap_cons, List.mem_append, not_or] at hi
    exact (layOut_of_not_mem _ (by rw [addrs_connCells]; exact hi.1)).trans (ih hi.2)

/-- The lists of connections lie one beside the other. -/
lemma linked_layOutConns {mappings : List SrNatMapping}
    (h : (mappings.flatMap fun m => m.conns.map SrNatConnection.node).Nodup) :
    ∀ m ∈ mappings, LinkedHeap.Linked (layOutConns mappings) m.copy.conns (connCells m.conns) := by
  induction mappings with
  | nil => exact fun m hm => absurd hm List.not_mem_nil
  | cons m mappings ih =>
    rw [List.flatMap_cons] at h
    obtain ⟨hm, hrest, hdisj⟩ := List.nodup_append'.mp h
    intro m' hm'
    rcases List.mem_cons.mp hm' with rfl | hm'
    · rw [copy_conns]
      exact linked_layOut _ (by rw [addrs_connCells]; exact hm)
    · refine (ih hrest m' hm').congr fun i hi => layOut_of_not_mem _ fun hmem => ?_
      rw [addrs_connCells] at hi hmem
      exact hdisj hmem (List.mem_flatMap.mpr ⟨m', hm', hi⟩)

/-- A memory in which a NAT state lies. -/
def memoryOf (s : SrNat) : NatMemory where
  unsolNodes :=
    match s.unsolPkt with
    | .linked pkts => layOut (fun _ => none) (unsolCells pkts)
    | .dangling => fun _ => none
  mappingNodes := layOut (fun _ => none) (mappingCells s.mappings)
  connNodes := layOutConns s.mappings
  unsolPkt :=
    match s.unsolPkt with
    | .linked pkts => (unsolCells pkts).head?.map Prod.fst
    | .dangling => some 0
  mappings := (mappingCells s.mappings).head?.map Prod.fst
  icmpQueryTo := s.icmpQueryTo
  tcpEstabIdleTo := s.tcpEstabIdleTo
  tcpTransitoryTo := s.tcpTransitoryTo
  bitmap := s.bitmap
  nextNode :=
    match s.unsolPkt with
    | .linked pkts => s.nextNode + pkts.length
    | .dangling => s.nextNode + 1

/-- The unsolicited list of `memoryOf`. -/
lemma liesIn_memoryOf (s : SrNat) :
    s.unsolPkt.LiesIn (memoryOf s).unsolNodes (memoryOf s).unsolPkt ∧
      (∀ i, (memoryOf s).nextNode ≤ i → (memoryOf s).unsolNodes i = none) ∧
      ∀ i, (memoryOf s).unsolPkt = some i → i < (memoryOf s).nextNode := by
  unfold memoryOf
  cases hunsol : s.unsolPkt with
  | dangling =>
    refine ⟨⟨0, rfl, rfl⟩, fun _ _ => rfl, fun i hi => ?_⟩
    obtain rfl : 0 = i := Option.some.inj hi
    exact Nat.succ_pos _
  | linked pkts =>
    have hnodup : (addrs (unsolCells pkts)).Nodup := by
      rw [addrs_unsolCells]
      exact List.nodup_range
    have hlt : ∀ i ∈ addrs (unsolCells pkts), i < s.nextNode + pkts.length := by
      intro i hi
      rw [addrs_unsolCells, List.mem_range] at hi
      exact hi.trans_le (Nat.le_add_left _ _)
    refine ⟨⟨unsolCells pkts, linked_layOut _ hnodup, ?_⟩, fun i hi => ?_, fun i hi => ?_⟩
    · rw [unsolCells, List.map_map, show Prod.snd ∘ Prod.swap = (Prod.fst : SrNatUnsolPkt × ℕ → _) from
        rfl, List.zipIdx_map_fst]
    · exact layOut_of_not_mem _ fun hmem => absurd (hlt i hmem) (Nat.not_lt.mpr hi)
    · refine hlt i ?_
      obtain ⟨x, hx, rfl⟩ := Option.map_eq_some_iff.mp hi
      exact List.mem_map_of_mem (List.mem_of_mem_head? hx)

/-- The nodes of the mappings are among the nodes of the table. -/
lemma map_node_sublist (mappings : List SrNatMapping) :
    (mappings.map SrNatMapping.node).Sublist (mappings.flatMap SrNatMapping.nodes) := by
  induction mappings with
  | nil => exact .slnil
  | cons m mappings ih => exact (ih.trans (List.sublist_append_right _ _)).cons_cons _

/-- So are those of the connections. -/
lemma flatMap_conns_sublist (mappings : List SrNatMapping) :
    (mappings.flatMap fun m => m.conns.map SrNatConnection.node).Sublist
      (mappings.flatMap SrNatMapping.nodes) := by
  induction mappings with
  | nil => exact .slnil
  | cons m mappings ih => exact ((List.Sublist.refl _).append ih).cons _

/-- **Every state whose nodes are distinct lies in a memory.** -/
theorem represents_memoryOf {s : SrNat} (h : HeapOk s) : Represents (memoryOf s) s where
  mappings := by
    refine linked_layOut _ ?_
    rw [addrs_mappingCells]
    exact h.nodup.sublist (map_node_sublist _)
  conns := linked_layOutConns (h.nodup.sublist (flatMap_conns_sublist _))
  apart := h.nodup.sublist (flatMap_conns_sublist _)
  unsol := (liesIn_memoryOf s).1
  icmpQueryTo := rfl
  tcpEstabIdleTo := rfl
  tcpTransitoryTo := rfl
  bitmap := rfl
  fresh := by
    intro i hi
    have hle : s.nextNode ≤ (memoryOf s).nextNode := by
      simp only [memoryOf]
      split
      · exact Nat.le_add_right _ _
      · exact Nat.le_succ _
    have hlt : i ∉ s.nodes := fun hmem => absurd (h.lt i hmem) (Nat.not_lt.mpr (hle.trans hi))
    refine ⟨(liesIn_memoryOf s).2.1 i hi, layOut_of_not_mem _ ?_, layOutConns_of_not_mem ?_⟩
    · rw [addrs_mappingCells]
      exact fun hmem => hlt ((map_node_sublist _).subset hmem)
    · exact fun hmem => hlt ((flatMap_conns_sublist _).subset hmem)
  allocated := (liesIn_memoryOf s).2.2

/-! ### The functions on the unsolicited list -/

/-- What `calloc` makes of a node. -/
def zeroUnsolPkt : SrNatUnsolPkt := ⟨fun _ => 0, 0⟩

/-- The body of the loop of `sr_nat_remove_unsolicited_packet`. -/
def visitQueued (ipPacket : ByteMem) (curr : SrNatUnsolPkt) (_ : Unit) :
    Except (Stop Fault) (Option SrNatUnsolPkt × Unit) :=
  if sameSegment ipPacket curr.ipPacket then .ok (none, ()) else .ok (some curr, ())

/-- `sr_nat_remove_unsolicited_packet`.  The dummy node is not freed, and `nat->unsol_pkt` is not
written. -/
def NatMemory.srNatRemoveUnsolicitedPacket (M : NatMemory) (fuel : ℕ) (ipPacket : ByteMem) :
    Except (Stop Fault) NatMemory := do
  let dummy := M.nextNode
  let nodes := allocate M.unsolNodes dummy ⟨zeroUnsolPkt, M.unsolPkt⟩
  let (nodes, _) ← removeLoop (visitQueued ipPacket) fuel dummy M.unsolPkt nodes ()
  return { M with unsolNodes := nodes, nextNode := dummy + 1 }

/-- `sr_nat_insert_unsolicited_packet`.  The dummy node is freed if a node is put behind the last one,
and then `nat->unsol_pkt` is written. -/
def NatMemory.srNatInsertUnsolicitedPacket (M : NatMemory) (fuel : ℕ) (amb : Ambient)
    (ipPacket : ByteMem) (ipPacketLen : UInt32) : Except (Stop Fault) NatMemory := do
  let dummy := M.nextNode
  let nodes := allocate M.unsolNodes dummy ⟨zeroUnsolPkt, M.unsolPkt⟩
  let (prev, curr) ←
    findLoop (fun curr => sameSegment ipPacket curr.ipPacket) fuel dummy M.unsolPkt nodes
  match curr with
  | some _ => return { M with unsolNodes := nodes, nextNode := dummy + 1 }
  | none =>
    let nodes ← append (dummy + 1) ⟨copied ipPacket ipPacketLen.toNat amb.junk, amb.now⟩ prev nodes
    let first ← load nodes dummy
    let nodes ← release nodes dummy
    return { M with unsolNodes := nodes, unsolPkt := first.next, nextNode := dummy + 2 }

section Unsol

variable {M : NatMemory} {l : List (NodeId × SrNatUnsolPkt)} {p : ByteMem} {fuel : ℕ}

/-- The loop of the removal keeps the packets that are not taken for the segment. -/
lemma visitList_visitQueued (p : ByteMem) (l : List (NodeId × SrNatUnsolPkt)) :
    visitList (visitQueued p) l () =
      .ok (l.filter fun x => !sameSegment p x.2.ipPacket, ()) := by
  induction l with
  | nil => rfl
  | cons x l ih =>
    refine visitList_cons.mpr ⟨if sameSegment p x.2.ipPacket then none else some x.2, (), _, ?_, ih, ?_⟩
    · unfold visitQueued
      split <;> rfl
    · rw [List.filter_cons]
      by_cases hsame : sameSegment p x.2.ipPacket
      · simp [hsame]
      · simp [hsame]

/-- **What the removal does to the nodes**: those taken for the segment are freed, the others are
linked in their order behind the dummy node, and the head pointer is what it was. -/
lemma NatMemory.srNatRemoveUnsolicitedPacket_linked
    (hl : LinkedHeap.Linked M.unsolNodes M.unsolPkt l)
    (hfresh : M.unsolNodes M.nextNode = none) (p : ByteMem) (hfuel : l.length < fuel) :
    ∃ M' first, M.srNatRemoveUnsolicitedPacket fuel p = .ok M' ∧ M'.unsolPkt = M.unsolPkt ∧
      M'.unsolNodes M.nextNode = some ⟨zeroUnsolPkt, first⟩ ∧
      LinkedHeap.Linked M'.unsolNodes first (l.filter fun x => !sameSegment p x.2.ipPacket) ∧
      ∀ x ∈ l, sameSegment p x.2.ipPacket = true → M'.unsolNodes x.1 = none := by
  have hnot : M.nextNode ∉ addrs l := hl.not_mem_of_freed hfresh
  obtain ⟨nodes, first, hloop, hfirst, hl', -, hfreed⟩ := removeLoop_linked
    (hl.update hnot (some ⟨zeroUnsolPkt, M.unsolPkt⟩)) (Function.update_self ..) hnot
    (visitList_visitQueued p l) hfuel
  refine ⟨{ M with unsolNodes := nodes, nextNode := M.nextNode + 1 }, first, ?_, rfl, hfirst, hl', ?_⟩
  · exact bind_ok_iff.mpr ⟨_, hloop, rfl⟩
  · intro x hx hsame
    refine hfreed x.1 (List.mem_map_of_mem hx) fun hmem => ?_
    -- the node would occur twice, once taken for the segment and once not
    obtain ⟨y, hy, hxy⟩ := List.mem_map.mp hmem
    obtain ⟨hy, hnotsame⟩ := List.mem_filter.mp hy
    obtain rfl : y = x := List.inj_on_of_nodup_map hl.nodup hy hx hxy
    rw [hsame] at hnotsame
    cases hnotsame

/-- While the first packet stays, the head pointer still leads to the list. -/
lemma NatMemory.srNatRemoveUnsolicitedPacket_kept
    (hl : LinkedHeap.Linked M.unsolNodes M.unsolPkt l)
    (hfresh : M.unsolNodes M.nextNode = none) (hfuel : l.length < fuel)
    (hhead : ∀ x ∈ l.head?, sameSegment p x.2.ipPacket = false) :
    ∃ M', M.srNatRemoveUnsolicitedPacket fuel p = .ok M' ∧
      LinkedHeap.Linked M'.unsolNodes M'.unsolPkt (l.filter fun x => !sameSegment p x.2.ipPacket) := by
  obtain ⟨M', first, hrun, hhead', -, hl', -⟩ :=
    NatMemory.srNatRemoveUnsolicitedPacket_linked hl hfresh p hfuel
  refine ⟨M', hrun, ?_⟩
  have hfirst : first = M.unsolPkt := by
    cases l with
    | nil =>
      obtain rfl : first = none := hl'
      exact hl.symm
    | cons x l =>
      have hstays : (!sameSegment p x.2.ipPacket) = true := by rw [hhead x rfl]; rfl
      rw [List.filter_cons, if_pos hstays] at hl'
      exact hl'.1.trans hl.1.symm
  rw [hhead', ← hfirst]
  exact hl'

/-- When the first packet goes, the head pointer is left to a node that has been freed. -/
lemma NatMemory.srNatRemoveUnsolicitedPacket_broken {x : NodeId × SrNatUnsolPkt}
    (hl : LinkedHeap.Linked M.unsolNodes M.unsolPkt (x :: l))
    (hfresh : M.unsolNodes M.nextNode = none)
    (hfuel : (x :: l).length < fuel) (hsame : sameSegment p x.2.ipPacket = true) :
    ∃ M', M.srNatRemoveUnsolicitedPacket fuel p = .ok M' ∧ M'.unsolPkt = some x.1 ∧
      M'.unsolNodes x.1 = none := by
  obtain ⟨M', first, hrun, hhead, -, -, hfreed⟩ :=
    NatMemory.srNatRemoveUnsolicitedPacket_linked hl hfresh p hfuel
  exact ⟨M', hrun, hhead.trans hl.1, hfreed x List.mem_cons_self hsame⟩

/-- Two filters leave the same of a list exactly if they agree on its members. -/
lemma filter_eq_filter_iff {α : Type} {f g : α → Bool} {l : List α} :
    l.filter f = l.filter g ↔ ∀ x ∈ l, f x = g x := by
  constructor
  · intro h x hx
    have hmem : f x = true ↔ g x = true := by
      have hiff := congrArg (x ∈ ·) h
      simpa [List.mem_filter, hx] using hiff
    exact Bool.eq_iff_iff.mpr hmem
  · exact fun h => List.filter_congr h

/-- The removal on lists: the list breaks if its first packet is taken for the segment. -/
lemma srNatRemoveUnsolicitedPacket_linked (pkts : List SrNatUnsolPkt) (p : ByteMem) :
    NatRouter.srNatRemoveUnsolicitedPacket (.linked pkts) p =
      .ok (if pkts.head?.any fun q => sameSegment p q.ipPacket then .dangling
        else .linked (pkts.filter fun q => !sameSegment p q.ipPacket)) := by
  cases pkts with
  | nil => rfl
  | cons q rest =>
    by_cases hsame : sameSegment p q.ipPacket = true
    · simp [NatRouter.srNatRemoveUnsolicitedPacket, hsame]
    · have hstays : (!sameSegment p q.ipPacket) = true := by
        rw [Bool.eq_false_iff.mpr hsame]
        rfl
      simp only [NatRouter.srNatRemoveUnsolicitedPacket, List.head?_cons, Option.any_some, if_neg hsame,
        List.filter_cons, if_pos hstays]

/-- **The removal in memory is the removal on lists.** -/
theorem NatMemory.srNatRemoveUnsolicitedPacket_refines {pkts : List SrNatUnsolPkt}
    (hlies : (UnsolList.linked pkts).LiesIn M.unsolNodes M.unsolPkt)
    (hfresh : M.unsolNodes M.nextNode = none) (p : ByteMem) (hfuel : pkts.length < fuel) :
    ∃ M' unsol, M.srNatRemoveUnsolicitedPacket fuel p = .ok M' ∧
      NatRouter.srNatRemoveUnsolicitedPacket (.linked pkts) p = .ok unsol ∧
      unsol.LiesIn M'.unsolNodes M'.unsolPkt := by
  obtain ⟨l, hl, rfl⟩ := hlies
  rw [List.length_map] at hfuel
  rw [NatRouter.srNatRemoveUnsolicitedPacket_linked]
  by_cases hhead : (l.map Prod.snd).head?.any fun q => sameSegment p q.ipPacket
  · rw [if_pos hhead]
    cases l with
    | nil => simp at hhead
    | cons x l =>
      obtain ⟨M', hrun, hdangling, hfreed⟩ :=
        NatMemory.srNatRemoveUnsolicitedPacket_broken hl hfresh hfuel (by simpa using hhead)
      exact ⟨M', _, hrun, rfl, x.1, hdangling, hfreed⟩
  · rw [if_neg hhead]
    have hstays : ∀ x ∈ l.head?, sameSegment p x.2.ipPacket = false := by
      intro x hx
      rw [List.head?_map, hx] at hhead
      exact Bool.eq_false_iff.mpr hhead
    obtain ⟨M', hrun, hl'⟩ := NatMemory.srNatRemoveUnsolicitedPacket_kept hl hfresh hfuel hstays
    refine ⟨M', _, hrun, rfl, _, hl', ?_⟩
    rw [List.filter_map]
    rfl

/-- **The insertion in memory is the insertion on lists.** -/
theorem NatMemory.srNatInsertUnsolicitedPacket_refines {pkts : List SrNatUnsolPkt}
    (hlies : (UnsolList.linked pkts).LiesIn M.unsolNodes M.unsolPkt)
    (hfresh : ∀ i, M.nextNode ≤ i → M.unsolNodes i = none) (amb : Ambient) (p : ByteMem)
    (len : UInt32) (hfuel : pkts.length < fuel) :
    ∃ M' unsol, M.srNatInsertUnsolicitedPacket fuel amb p len = .ok M' ∧
      NatRouter.srNatInsertUnsolicitedPacket amb (.linked pkts) p len = .ok unsol ∧
      unsol.LiesIn M'.unsolNodes M'.unsolPkt := by
  obtain ⟨l, hl, rfl⟩ := hlies
  rw [List.length_map] at hfuel
  have hnot : M.nextNode ∉ addrs l := hl.not_mem_of_freed (hfresh _ (Nat.le_refl _))
  have hl' : LinkedHeap.Linked (allocate M.unsolNodes M.nextNode ⟨zeroUnsolPkt, M.unsolPkt⟩)
      M.unsolPkt l :=
    hl.update hnot _
  simp only [NatRouter.srNatInsertUnsolicitedPacket]
  by_cases hqueued : (l.map Prod.snd).any fun q => sameSegment p q.ipPacket
  · rw [if_pos hqueued]
    have hex : ∃ x ∈ l, sameSegment p x.2.ipPacket = true := by simpa using hqueued
    have hfound := @findLoop_found _ _ Fault (fun curr => sameSegment p curr.ipPacket) _ fuel
      M.nextNode _ l hl' hfuel
    obtain ⟨before, found, hfind⟩ := hfound hex
    refine ⟨{ M with
      unsolNodes := allocate M.unsolNodes M.nextNode ⟨zeroUnsolPkt, M.unsolPkt⟩
      nextNode := M.nextNode + 1 }, _, ?_, rfl, l, hl', rfl⟩
    simp only [NatMemory.srNatInsertUnsolicitedPacket, hfind, bind, Except.bind]
    rfl
  · rw [if_neg hqueued]
    have hnone : ∀ x ∈ l, sameSegment p x.2.ipPacket = false := by simpa using hqueued
    have hlast := @findLoop_none _ _ Fault (fun curr => sameSegment p curr.ipPacket) _ fuel
      M.nextNode _ l hl' hfuel
    have hfind := hlast hnone
    have hnew : allocate M.unsolNodes M.nextNode ⟨zeroUnsolPkt, M.unsolPkt⟩ (M.nextNode + 1) = none :=
      (Function.update_of_ne (Nat.succ_ne_self _) _ _).trans (hfresh _ (Nat.le_succ _))
    let copy : SrNatUnsolPkt := ⟨copied p len.toNat amb.junk, amb.now⟩
    obtain ⟨nodes, first, happend, hdummy, hlinked, -⟩ := @append_linked _ _ Fault _ _
      M.nextNode _ l zeroUnsolPkt copy _ hl' (Function.update_self ..) hnot hnew
    have hnot' : M.nextNode ∉ addrs (l ++ [(M.nextNode + 1, copy)]) := by
      intro hmem
      rw [addrs, List.map_append, List.mem_append] at hmem
      rcases hmem with hmem | hmem
      · exact hnot hmem
      · exact Nat.succ_ne_self _ (List.mem_singleton.mp hmem).symm
    refine ⟨{ M with
      unsolNodes := Function.update nodes M.nextNode none
      unsolPkt := first
      nextNode := M.nextNode + 2 }, _, ?_, rfl, _, hlinked.update hnot' none, ?_⟩
    · simp only [NatMemory.srNatInsertUnsolicitedPacket, hfind, happend, load_eq_ok hdummy,
        release_eq_ok hdummy, bind, Except.bind, copy]
      rfl
    · rw [List.map_append]
      rfl

end Unsol

end NatRouter
