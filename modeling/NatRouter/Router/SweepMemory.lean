import NatRouter.Nat.Effects
import NatRouter.Nat.Memory
import NatRouter.Router.System

/-!
# The sweep in memory

One pass of `sr_nat_timeout` as its three loops over linked nodes: over the unsolicited packets, over the
mappings, and within it over the connections of each TCP mapping.  Every loop has a dummy node in front,
which is freed when it has ended.  An unsolicited packet past its time is reported before its node is
freed, so the first loop carries the rest of the router along.

`srNatTimeout_represents` says that in a memory in which a NAT state lies the pass comes to an end if it
does on lists, and leaves a memory in which the swept state lies; `completes_of_srNatTimeout` is the
converse.
-/

namespace NatRouter

open ByteMemory PackedBits LinkedHeap

/-! ### The loops -/

/-- A step of the router within a loop. -/
def inLoop {α : Type} : Except Fault α → Except (Stop Fault) α
  | .ok a => .ok a
  | .error e => .error (.fault e)

/-- The body of the loop over the unsolicited packets.  The NAT state of `sr` is not read. -/
def visitUnsol (ctx : Surroundings) (curtime : Time) (currUnsol : SrNatUnsolPkt) (sr : SrInstance) :
    Except (Stop Fault) (Option SrNatUnsolPkt × SrInstance) := do
  let lpm ← inLoop (srRtLookup sr.cfg.routingTable (SrIpHdr.ipSrc currUnsol.ipPacket))
  match lpm with
  | some lpm =>
    if defaultTcpSynTo < curtime - currUnsol.lastUpdated then
      let sr ← inLoop (srSendIcmp ctx sr currUnsol.ipPacket lpm.interface icmpTypeDstunreachable 3)
      return (none, sr)
    else return (some currUnsol, sr)
  | none => return (some currUnsol, sr)

/-- What `calloc` makes of a node. -/
def zeroConnection : SrNatConnection := ⟨0, .closed, 0, 0, 0⟩

/-- What `calloc` makes of a node. -/
def zeroMapping : SrNatMappingCopy := ⟨0, .natMappingIcmp, 0, 0, 0, 0, none⟩

/-- The body of the loop over the connections. -/
def NatMemory.visitConn (M : NatMemory) (curtime : Time) (curConn : SrNatConnection) (_ : Unit) :
    Except (Stop Fault) (Option SrNatConnection × Unit) :=
  if curConn.state = .estab ∧ (M.tcpEstabIdleTo.toNat : ℤ) < curtime - curConn.lastUpdated then
    .ok (none, ())
  else if curConn.state = .closed then .ok (none, ())
  else if (M.tcpTransitoryTo.toNat : ℤ) < curtime - curConn.lastUpdated then .ok (none, ())
  else .ok (some curConn, ())

/-- What the loop over the mappings changes besides them. -/
structure TableSweep where
  /-- The nodes of the connections. -/
  connNodes : Heap NodeId SrNatConnection
  /-- The bitmap. -/
  bitmap : Bitmap
  /-- The next allocation has this number. -/
  nextNode : NodeId

/-- The body of the loop over the mappings. -/
def NatMemory.visitMapping (M : NatMemory) (fuel : ℕ) (curtime : Time) (curr : SrNatMappingCopy)
    (w : TableSweep) : Except (Stop Fault) (Option SrNatMappingCopy × TableSweep) :=
  match curr.type with
  | .natMappingIcmp =>
    if (M.icmpQueryTo.toNat : ℤ) < curtime - curr.lastUpdated then
      .ok (none, { w with bitmap := clearBit w.bitmap curr.auxExt.toNat })
    else .ok (some curr, w)
  | .natMappingTcp => do
    let (conns, connNodes, _) ←
      removeNodes (M.visitConn curtime) fuel w.nextNode zeroConnection curr.conns w.connNodes ()
    let w := { w with connNodes := connNodes, nextNode := w.nextNode + 1 }
    match conns with
    | none => return (none, { w with bitmap := clearBit w.bitmap curr.auxExt.toNat })
    | some a => return (some { curr with conns := some a }, w)

/-- One pass of `sr_nat_timeout`. -/
def NatMemory.srNatTimeout (M : NatMemory) (fuel : ℕ) (ctx : Surroundings) (curtime : Time)
    (sr : SrInstance) : Except (Stop Fault) (NatMemory × SrInstance) := do
  let (unsolPkt, unsolNodes, sr) ←
    removeNodes (visitUnsol ctx curtime) fuel M.nextNode zeroUnsolPkt M.unsolPkt M.unsolNodes sr
  let (mappings, mappingNodes, w) ←
    removeNodes (M.visitMapping fuel curtime) fuel (M.nextNode + 1) zeroMapping M.mappings
      M.mappingNodes ⟨M.connNodes, M.bitmap, M.nextNode + 2⟩
  return ({ M with
    unsolNodes := unsolNodes
    mappingNodes := mappingNodes
    connNodes := w.connNodes
    unsolPkt := unsolPkt
    mappings := mappings
    bitmap := w.bitmap
    nextNode := w.nextNode }, sr)

/-! ### The unsolicited packets -/

/-- A step of the router succeeds in a loop if it does outside. -/
@[simp] lemma inLoop_eq_ok {α : Type} {x : Except Fault α} {a : α} : inLoop x = .ok a ↔ x = .ok a := by
  cases x with
  | error e => simp [inLoop]
  | ok b => simp [inLoop]

section Unsol

variable {ctx : Surroundings} {t : Time} {sr sr' : SrInstance}

/-- What is done to one packet: it is reported and goes, or it stays. -/
lemma visitUnsol_eq_ok {q : SrNatUnsolPkt} {verdict : Option SrNatUnsolPkt} :
    visitUnsol ctx t q sr = .ok (verdict, sr') ↔
      ∃ lpm, srRtLookup sr.cfg.routingTable (SrIpHdr.ipSrc q.ipPacket) = .ok lpm ∧
        ((∃ route, lpm = some route ∧ isReported sr.cfg.routingTable t q = true ∧ verdict = none ∧
            srSendIcmp ctx sr q.ipPacket route.interface icmpTypeDstunreachable 3 = .ok sr') ∨
          isReported sr.cfg.routingTable t q = false ∧ verdict = some q ∧ sr' = sr) := by
  unfold visitUnsol
  rw [bind_ok_iff]
  refine exists_congr fun lpm => ?_
  rw [inLoop_eq_ok]
  refine and_congr_right fun hlookup => ?_
  have hcurr := @isReported_of_lookup sr.cfg.routingTable t q lpm hlookup
  cases lpm with
  | none =>
    have hstays : isReported sr.cfg.routingTable t q = false := hcurr
    simp [hstays, pure, Except.pure, eq_comm]
  | some route =>
    have hcurr' : isReported sr.cfg.routingTable t q =
        decide ((defaultTcpSynTo : ℤ) < t - q.lastUpdated) := hcurr
    by_cases hold : (defaultTcpSynTo : ℤ) < t - q.lastUpdated
    · simp only [hold, if_true, hcurr', decide_true, bind_ok_iff, inLoop_eq_ok]
      simp [pure, Except.pure, eq_comm, and_comm]
    · simp [hold, hcurr', pure, Except.pure, eq_comm]

/-- The walk over the list does the same to its head. -/
lemma sweepUnsol_cons_eq_ok {rt : List SrRt} {q : SrNatUnsolPkt} {rest kept : List SrNatUnsolPkt}
    {reported : List (SrNatUnsolPkt × SrRt)} :
    sweepUnsol rt t (q :: rest) = .ok (reported, kept) ↔
      ∃ lpm reported' kept', srRtLookup rt (SrIpHdr.ipSrc q.ipPacket) = .ok lpm ∧
        sweepUnsol rt t rest = .ok (reported', kept') ∧
        ((∃ route, lpm = some route ∧ isReported rt t q = true ∧ reported = (q, route) :: reported' ∧
            kept = kept') ∨
          isReported rt t q = false ∧ reported = reported' ∧ kept = q :: kept') := by
  cases hlookup : srRtLookup rt (SrIpHdr.ipSrc q.ipPacket) with
  | error e => simp [sweepUnsol, hlookup]
  | ok lpm =>
    have hcurr := @isReported_of_lookup rt t q lpm hlookup
    cases hrest : sweepUnsol rt t rest with
    | error e => simp [sweepUnsol, hlookup, hrest]
    | ok r =>
      obtain ⟨reported', kept'⟩ := r
      cases lpm with
      | none =>
        have hstays : isReported rt t q = false := hcurr
        simp [sweepUnsol, hlookup, hrest, hstays, eq_comm]
      | some route =>
        have hcurr' : isReported rt t q = decide ((defaultTcpSynTo : ℤ) < t - q.lastUpdated) := hcurr
        by_cases hold : (defaultTcpSynTo : ℤ) < t - q.lastUpdated
        · simp [sweepUnsol, hlookup, hrest, hcurr', hold, eq_comm]
        · simp [sweepUnsol, hlookup, hrest, hcurr', hold, eq_comm]

/-- **The loop over the unsolicited packets** is the walk over the list, with the messages sent on the
way. -/
lemma visitList_visitUnsol {l l' : List (NodeId × SrNatUnsolPkt)} :
    visitList (visitUnsol ctx t) l sr = .ok (l', sr') ↔ ∃ reported kept,
      sweepUnsol sr.cfg.routingTable t (l.map Prod.snd) = .ok (reported, kept) ∧
        sendReported ctx reported sr = .ok sr' ∧
          l' = l.filter fun x => !isReported sr.cfg.routingTable t x.2 := by
  induction l generalizing sr l' with
  | nil =>
    constructor
    · intro hvisits
      cases hvisits
      exact ⟨[], [], rfl, rfl, rfl⟩
    · rintro ⟨reported, kept, hsweep, hsend, rfl⟩
      cases hsweep
      cases hsend
      rfl
  | cons x l ih =>
    rw [List.map_cons]
    constructor
    · intro hvisits
      obtain ⟨verdict, sr₁, rest, hfirst, hvisits', rfl⟩ := visitList_cons.mp hvisits
      obtain ⟨lpm, hlookup, ⟨route, rfl, hgoes, rfl, hsend⟩ | ⟨hstays, rfl, rfl⟩⟩ :=
        visitUnsol_eq_ok.mp hfirst
      · obtain ⟨reported, kept, hsweep, hrest, rfl⟩ := ih.mp hvisits'
        rw [(sends_srSendIcmp hsend).cfg] at hsweep ⊢
        refine ⟨(x.2, route) :: reported, kept, sweepUnsol_cons_eq_ok.mpr ⟨_, _, _, hlookup, hsweep,
          .inl ⟨route, rfl, hgoes, rfl, rfl⟩⟩, bind_eq_ok.mpr ⟨sr₁, hsend, hrest⟩, ?_⟩
        rw [List.filter_cons, hgoes]
        rfl
      · obtain ⟨reported, kept, hsweep, hrest, rfl⟩ := ih.mp hvisits'
        refine ⟨reported, x.2 :: kept, sweepUnsol_cons_eq_ok.mpr ⟨_, _, _, hlookup, hsweep,
          .inr ⟨hstays, rfl, rfl⟩⟩, hrest, ?_⟩
        rw [List.filter_cons, hstays]
        rfl
    · rintro ⟨reported, kept, hsweep, hsend, rfl⟩
      obtain ⟨lpm, reported', kept', hlookup, hrest, ⟨route, rfl, hgoes, rfl, rfl⟩ |
        ⟨hstays, rfl, rfl⟩⟩ := sweepUnsol_cons_eq_ok.mp hsweep
      · obtain ⟨sr₁, hfirst, hsend⟩ := bind_eq_ok.mp hsend
        rw [← (sends_srSendIcmp hfirst).cfg] at hrest
        refine visitList_cons.mpr ⟨none, sr₁, _, visitUnsol_eq_ok.mpr ⟨_, hlookup,
          .inl ⟨route, rfl, hgoes, rfl, hfirst⟩⟩, ih.mpr ⟨reported', kept, hrest, hsend, rfl⟩, ?_⟩
        rw [List.filter_cons, hgoes, (sends_srSendIcmp hfirst).cfg]
        rfl
      · refine visitList_cons.mpr ⟨some x.2, sr, _, visitUnsol_eq_ok.mpr ⟨_, hlookup,
          .inr ⟨hstays, rfl, rfl⟩⟩, ih.mpr ⟨reported, kept', hrest, hsend, rfl⟩, ?_⟩
        rw [List.filter_cons, hstays]
        rfl

end Unsol

/-! ### The mappings -/

section Mappings

variable {M : NatMemory} {s : SrNat} {t : Time} {fuel : ℕ} {w : TableSweep}

/-- The timeouts in memory are those of the state. -/
structure SameTimeouts (M : NatMemory) (s : SrNat) : Prop where
  /-- The ICMP query timeout. -/
  icmpQueryTo : M.icmpQueryTo = s.icmpQueryTo
  /-- The TCP established timeout. -/
  tcpEstabIdleTo : M.tcpEstabIdleTo = s.tcpEstabIdleTo
  /-- The TCP transitory timeout. -/
  tcpTransitoryTo : M.tcpTransitoryTo = s.tcpTransitoryTo

/-- A connection goes if it has expired. -/
lemma SameTimeouts.visitConn (h : SameTimeouts M s) (t : Time) (c : SrNatConnection) :
    M.visitConn t c () = .ok (if connExpired s t c then none else some c, ()) := by
  unfold NatMemory.visitConn connExpired
  rw [h.tcpEstabIdleTo, h.tcpTransitoryTo]
  split_ifs <;> simp_all

/-- **The loop over the connections** keeps those that have not expired. -/
lemma SameTimeouts.visitList_visitConn (h : SameTimeouts M s) (t : Time)
    (conns : List SrNatConnection) :
    visitList (M.visitConn t) (connCells conns) () = .ok (connCells (sweepConns s t conns), ()) := by
  induction conns with
  | nil => rfl
  | cons c conns ih =>
    refine visitList_cons.mpr ⟨_, (), _, h.visitConn t c, ih, ?_⟩
    unfold sweepConns
    rw [List.filter_cons]
    cases connExpired s t c <;> rfl

/-- What the loop over the mappings does to one of them. -/
lemma SameTimeouts.visitMapping (h : SameTimeouts M s) (t : Time) {m : SrNatMapping}
    (hconns : LinkedHeap.Linked w.connNodes m.copy.conns (connCells m.conns))
    (hfresh : ∀ i, w.nextNode ≤ i → w.connNodes i = none) (hfuel : m.conns.length < fuel) :
    ∃ w', M.visitMapping fuel t m.copy w = .ok ((sweepMapping s t m).map SrNatMapping.copy, w') ∧
      w'.bitmap = (match sweepMapping s t m with
        | none => clearBit w.bitmap m.auxExt.toNat
        | some _ => w.bitmap) ∧
      (∀ m', sweepMapping s t m = some m' →
        LinkedHeap.Linked w'.connNodes m'.copy.conns (connCells m'.conns)) ∧
      (∀ i ∉ m.conns.map SrNatConnection.node, w'.connNodes i = w.connNodes i) ∧
      w.nextNode ≤ w'.nextNode := by
  have hcopy : m.copy.type = m.type := rfl
  cases htype : m.type with
  | natMappingIcmp =>
    simp only [NatMemory.visitMapping, sweepMapping, hcopy, htype, h.icmpQueryTo]
    by_cases hold : (s.icmpQueryTo.toNat : ℤ) < t - m.lastUpdated
    · rw [if_pos hold]
      exact ⟨_, if_pos hold, rfl, fun _ hnone => (by cases hnone), fun _ _ => rfl, Nat.le_refl _⟩
    · rw [if_neg hold]
      refine ⟨w, if_neg hold, rfl, fun m' hm' => ?_, fun _ _ => rfl, Nat.le_refl _⟩
      obtain rfl := Option.some.inj hm'
      exact hconns
  | natMappingTcp =>
    obtain ⟨head, connNodes, hloop, hlinked, hframe, -⟩ := @removeNodes_linked _ _ _ _ _ _ _ _ _
      fuel _ zeroConnection _ _ _ hconns (hfresh _ (Nat.le_refl _)) (h.visitList_visitConn t m.conns)
      (by simpa [connCells] using hfuel)
    have hhead := hlinked.head_eq
    rw [addrs_connCells] at hframe
    simp only [NatMemory.visitMapping, sweepMapping, hcopy, htype, hloop, bind, Except.bind]
    cases hkept : sweepConns s t m.conns with
    | nil =>
      rw [hkept] at hhead
      obtain rfl : head = none := hhead
      exact ⟨_, rfl, rfl, fun _ hnone => (by cases hnone), hframe, Nat.le_succ _⟩
    | cons c conns =>
      rw [hkept] at hhead hlinked
      obtain rfl : head = some c.node := hhead
      refine ⟨_, rfl, rfl, fun m' hm' => ?_, hframe, Nat.le_succ _⟩
      obtain rfl := Option.some.inj hm'
      exact hlinked

/-- What the loop over the mappings leaves. -/
structure SweepsTable (s : SrNat) (t : Time) (mappings : List SrNatMapping) (w w' : TableSweep) :
    Prop where
  /-- The bits of the mappings that are removed are clear. -/
  bitmap : w'.bitmap = (sweepMappings s t mappings w.bitmap).2
  /-- The connections that are kept are linked. -/
  conns : ∀ m ∈ mappings.filterMap (sweepMapping s t),
    LinkedHeap.Linked w'.connNodes m.copy.conns (connCells m.conns)
  /-- No other node is touched. -/
  frame : ∀ i ∉ mappings.flatMap fun m => m.conns.map SrNatConnection.node,
    w'.connNodes i = w.connNodes i
  /-- Allocation goes on. -/
  le : w.nextNode ≤ w'.nextNode

/-- What has not been allocated holds nothing after a loop either. -/
lemma fresh_of_frame {h h' : Heap NodeId SrNatConnection} {n n' : NodeId} {nodes : List NodeId}
    (hfresh : ∀ i, n ≤ i → h i = none) (hframe : ∀ i ∉ nodes, h' i = h i)
    (hnodes : ∀ i ∈ nodes, ∃ c, h i = some c) (hle : n ≤ n') : ∀ i, n' ≤ i → h' i = none := by
  intro i hi
  have hnone : h i = none := hfresh i (Nat.le_trans hle hi)
  rw [hframe i fun hmem => ?_, hnone]
  obtain ⟨c, hc⟩ := hnodes i hmem
  rw [hnone] at hc
  cases hc

/-- What is left of the connections of a mapping is in order. -/
lemma sweepMapping_conns_sublist {m m' : SrNatMapping} (h : sweepMapping s t m = some m') :
    m'.conns.Sublist m.conns := by
  rcases sweepMapping_conns h with ⟨-, hconns⟩ | ⟨-, hconns, -⟩
  · rw [hconns]
  · rw [hconns]
    exact List.filter_sublist

/-- **The loop over the mappings** keeps what the walk over the table keeps. -/
lemma SameTimeouts.visitList_visitMapping (h : SameTimeouts M s) (t : Time)
    {mappings : List SrNatMapping}
    (hconns : ∀ m ∈ mappings, LinkedHeap.Linked w.connNodes m.copy.conns (connCells m.conns))
    (hapart : (mappings.flatMap fun m => m.conns.map SrNatConnection.node).Nodup)
    (hfresh : ∀ i, w.nextNode ≤ i → w.connNodes i = none)
    (hfuel : ∀ m ∈ mappings, m.conns.length < fuel) :
    ∃ w', visitList (M.visitMapping fuel t) (mappingCells mappings) w =
        .ok (mappingCells (mappings.filterMap (sweepMapping s t)), w') ∧
      SweepsTable s t mappings w w' := by
  induction mappings generalizing w with
  | nil => exact ⟨w, rfl, rfl, fun m hm => absurd hm List.not_mem_nil, fun _ _ => rfl, Nat.le_refl _⟩
  | cons m mappings ih =>
    rw [List.flatMap_cons] at hapart
    obtain ⟨-, hrest, hdisj⟩ := List.nodup_append'.mp hapart
    have hm := hconns m List.mem_cons_self
    obtain ⟨w₁, hvisit, hbitmap, hkept, hframe, hle⟩ :=
      h.visitMapping t hm hfresh (hfuel m List.mem_cons_self)
    have hfresh' : ∀ i, w₁.nextNode ≤ i → w₁.connNodes i = none := by
      refine fresh_of_frame hfresh hframe (fun i hi => hm.allocated ?_) hle
      rwa [addrs_connCells]
    have hconns' : ∀ m' ∈ mappings,
        LinkedHeap.Linked w₁.connNodes m'.copy.conns (connCells m'.conns) := by
      intro m' hm'
      refine (hconns m' (List.mem_cons_of_mem _ hm')).congr fun i hi => hframe i fun hmem => ?_
      rw [addrs_connCells] at hi
      exact hdisj hmem (List.mem_flatMap.mpr ⟨m', hm', hi⟩)
    obtain ⟨w', hvisits, hswept⟩ := ih hconns' hrest hfresh' fun m' hm' =>
      hfuel m' (List.mem_cons_of_mem _ hm')
    refine ⟨w', ?_, ?_, ?_, ?_, Nat.le_trans hle hswept.le⟩
    · refine visitList_cons.mpr ⟨_, w₁, _, hvisit, hvisits, ?_⟩
      cases hsweep : sweepMapping s t m with
      | none =>
        rw [List.filterMap_cons_none hsweep]
        rfl
      | some m' =>
        rw [List.filterMap_cons_some hsweep]
        have hnode : m'.node = m.node := by rw [← m'.bare_node, sweepMapping_bare hsweep, m.bare_node]
        simp [mappingCells, hnode]
    · rw [hswept.bitmap, hbitmap]
      cases hsweep : sweepMapping s t m <;> simp [sweepMappings, hsweep]
    · -- the connections of the first mapping are not touched any more
      intro m' hm'
      cases hsweep : sweepMapping s t m with
      | none =>
        rw [List.filterMap_cons_none hsweep] at hm'
        exact hswept.conns m' hm'
      | some m₁ =>
        rw [List.filterMap_cons_some hsweep] at hm'
        rcases List.mem_cons.mp hm' with rfl | hm'
        · refine (hkept m' hsweep).congr fun i hi => hswept.frame i fun hmem => ?_
          rw [addrs_connCells] at hi
          exact hdisj ((sweepMapping_conns_sublist hsweep).map _ |>.subset hi) hmem
        · exact hswept.conns m' hm'
    · intro i hi
      rw [List.flatMap_cons, List.mem_append, not_or] at hi
      rw [hswept.frame i hi.2, hframe i hi.1]

end Mappings

/-! ### The pass -/

section Pass

variable {M : NatMemory} {s s' : SrNat} {t : Time} {ctx : Surroundings} {sr sr' : SrInstance}
  {reported : List (SrNatUnsolPkt × SrRt)}

/-- The timeouts of the state that lies in a memory. -/
lemma Represents.sameTimeouts (h : Represents M s) : SameTimeouts M s :=
  ⟨h.icmpQueryTo, h.tcpEstabIdleTo, h.tcpTransitoryTo⟩

/-- The pass on lists, loop by loop. -/
lemma natTimeout_eq_ok {rt : List SrRt} : natTimeout rt t s = .ok (reported, s') ↔
    ∃ pkts kept, s.unsolPkt = .linked pkts ∧ sweepUnsol rt t pkts = .ok (reported, kept) ∧
      s' = { s with
        mappings := s.mappings.filterMap (sweepMapping s t)
        bitmap := (sweepMappings s t s.mappings s.bitmap).2
        unsolPkt := .linked kept } := by
  unfold natTimeout
  cases hunsol : s.unsolPkt with
  | dangling => simp
  | linked pkts =>
    cases hsweep : sweepUnsol rt t pkts with
    | error e => simp [hsweep]
    | ok r =>
      obtain ⟨reported', kept⟩ := r
      simp only [hsweep, sweepMappings_fst]
      constructor
      · intro h
        cases h
        exact ⟨pkts, kept, rfl, hsweep, rfl⟩
      · rintro ⟨pkts', kept', hpkts, hsweep', rfl⟩
        obtain rfl := UnsolList.linked.inj hpkts
        rw [hsweep] at hsweep'
        cases hsweep'
        rfl

/-- The connections of a swept table are in order. -/
lemma flatMap_conns_sweep_sublist (s : SrNat) (t : Time) (mappings : List SrNatMapping) :
    ((mappings.filterMap (sweepMapping s t)).flatMap fun m =>
      m.conns.map SrNatConnection.node).Sublist
        (mappings.flatMap fun m => m.conns.map SrNatConnection.node) := by
  induction mappings with
  | nil => exact .slnil
  | cons m mappings ih =>
    rw [List.flatMap_cons]
    cases hsweep : sweepMapping s t m with
    | none =>
      rw [List.filterMap_cons_none hsweep]
      exact ih.trans (List.sublist_append_right _ _)
    | some m' =>
      rw [List.filterMap_cons_some hsweep, List.flatMap_cons]
      exact ((sweepMapping_conns_sublist hsweep).map _).append ih

/-- Outside of the list no node appears. -/
lemma none_of_frame {α : Type} {h h' : Heap NodeId α} {a : Option NodeId} {l : List (NodeId × α)}
    {i : NodeId} (hl : LinkedHeap.Linked h a l) (hnone : h i = none)
    (hframe : ∀ i ∉ addrs l, h' i = h i) :
    h' i = none :=
  (hframe i (hl.not_mem_of_freed hnone)).trans hnone

/-- **The pass in memory is the pass on lists**: if on lists it comes to an end, it does so in memory,
and leaves a memory in which the swept state lies. -/
theorem srNatTimeout_represents (h : Represents M s)
    (hsweep : natTimeout sr.cfg.routingTable t s = .ok (reported, s'))
    (hsend : sendReported ctx reported sr = .ok sr') :
    ∃ N, ∀ fuel, N ≤ fuel → ∃ M', M.srNatTimeout fuel ctx t sr = .ok (M', sr') ∧
      Represents M' s' := by
  obtain ⟨pkts, kept, hunsol, hkept, rfl⟩ := natTimeout_eq_ok.mp hsweep
  obtain ⟨l, hl, rfl⟩ : (UnsolList.linked pkts).LiesIn M.unsolNodes M.unsolPkt := hunsol ▸ h.unsol
  refine ⟨l.length + s.mappings.length +
    (s.mappings.flatMap fun m => m.conns.map SrNatConnection.node).length + 1, fun fuel hfuel => ?_⟩
  -- the unsolicited packets
  have hvisits := visitList_visitUnsol.mpr ⟨reported, kept, hkept, hsend, rfl⟩
  obtain ⟨unsolPkt, unsolNodes, hloop, hlinked, hframe, -⟩ := @removeNodes_linked _ _ _ _ _ _ _ _ _
    fuel _ zeroUnsolPkt _ _ _ hl (h.fresh _ (Nat.le_refl _)).1 hvisits (by omega)
  -- the mappings
  have hconns : ∀ m ∈ s.mappings, m.conns.length < fuel := by
    intro m hm
    have hsub := (List.sublist_flatten_of_mem (List.mem_map_of_mem (f := fun m : SrNatMapping =>
      m.conns.map SrNatConnection.node) hm)).length_le
    rw [List.length_map, ← List.flatMap_def] at hsub
    omega
  obtain ⟨w', hvisits', hswept⟩ := @SameTimeouts.visitList_visitMapping M s fuel
    ⟨M.connNodes, M.bitmap, M.nextNode + 2⟩ h.sameTimeouts t _ h.conns h.apart
    (fun i hi => (h.fresh i (Nat.le_trans (Nat.le_add_right _ _) hi)).2.2) hconns
  obtain ⟨mappings, mappingNodes, hloop', hlinked', hframe', -⟩ :=
    @removeNodes_linked _ _ _ _ _ _ _ _ _ fuel _ zeroMapping _ _ _ h.mappings
      (h.fresh _ (Nat.le_succ _)).2.1 hvisits' (by simp only [mappingCells, List.length_map]; omega)
  have hle : M.nextNode ≤ w'.nextNode := Nat.le_trans (Nat.le_add_right _ 2) hswept.le
  have hnone : ∀ i, w'.nextNode ≤ i → unsolNodes i = none := fun i hi =>
    none_of_frame hl (h.fresh i (Nat.le_trans hle hi)).1 hframe
  refine ⟨{ M with
    unsolNodes := unsolNodes
    mappingNodes := mappingNodes
    connNodes := w'.connNodes
    unsolPkt := unsolPkt
    mappings := mappings
    bitmap := w'.bitmap
    nextNode := w'.nextNode }, ?_, ?_⟩
  · simp only [NatMemory.srNatTimeout, hloop, hloop', bind, Except.bind]
    rfl
  · refine ⟨hlinked', hswept.conns, h.apart.sublist (flatMap_conns_sweep_sublist s t _),
      ⟨_, hlinked, ?_⟩, h.icmpQueryTo, h.tcpEstabIdleTo, h.tcpTransitoryTo, ?_, fun i hi =>
        ⟨hnone i hi, ?_, ?_⟩, fun i hi => ?_⟩
    · rw [(sweepUnsol_eq hkept).2, List.filter_map]
      rfl
    · rw [hswept.bitmap, h.bitmap]
    · exact none_of_frame h.mappings (h.fresh i (Nat.le_trans hle hi)).2.1 hframe'
    · refine fresh_of_frame (fun i hi => (h.fresh i hi).2.2) hswept.frame (fun j hj => ?_) hle i hi
      obtain ⟨m, hm, hj⟩ := List.mem_flatMap.mp hj
      exact (h.conns m hm).allocated (by rwa [addrs_connCells])
    · -- the head is a node, and those are numbered from before
      by_contra hge
      have hfreed := hnone i (Nat.le_of_not_lt hge)
      have hhead : unsolPkt = some i := hi
      rw [hhead] at hlinked
      cases hlist : l.filter fun x => !isReported sr.cfg.routingTable t x.2 with
      | nil =>
        rw [hlist] at hlinked
        cases hlinked
      | cons x rest =>
        rw [hlist] at hlinked
        obtain ⟨hx, n, hcell, -⟩ := hlinked
        rw [← Option.some.inj hx, hfreed] at hcell
        cases hcell

/-- The messages do not depend on the NAT state. -/
lemma srSendIcmp_withNat (nat : SrNat) {packet : ByteMem} {interface : IfName} {type code : UInt8}
    (h : srSendIcmp ctx sr packet interface type code = .ok sr') :
    srSendIcmp ctx { sr with nat := nat } packet interface type code = .ok { sr' with nat := nat } := by
  unfold srSendIcmp at h ⊢
  obtain ⟨message, hmessage, h⟩ := bind_eq_ok.mp h
  refine bind_eq_ok.mpr ⟨message, hmessage, ?_⟩
  cases hentry : srArpcacheLookup sr.cache (SrIpHdr.ipSrc packet) with
  | none =>
    simp only [SrInstance.record, hentry] at h ⊢
    cases h
    rfl
  | some entry =>
    simp only [SrInstance.record, hentry] at h ⊢
    obtain ⟨i, hi, h⟩ := bind_eq_ok.mp h
    cases h
    exact bind_eq_ok.mpr ⟨i, hi, rfl⟩

/-- Nor do those of a sweep. -/
lemma sendReported_withNat (nat : SrNat) (h : sendReported ctx reported sr = .ok sr') :
    sendReported ctx reported { sr with nat := nat } = .ok { sr' with nat := nat } := by
  induction reported generalizing sr with
  | nil =>
    obtain rfl : sr = sr' := Except.ok.inj h
    rfl
  | cons x rest ih =>
    obtain ⟨mid, hfirst, hrest⟩ := bind_eq_ok.mp h
    exact bind_eq_ok.mpr ⟨_, srSendIcmp_withNat nat hfirst, ih hrest⟩

/-- **The pass in memory follows the sweeps of the router.** -/
theorem srNatTimeout_simulates {nat' : SrNat} (h : Represents M sr.nat)
    (hsweep : natTimeout sr.cfg.routingTable t sr.nat = .ok (reported, nat'))
    (hsend : sendReported ctx reported { sr with nat := nat' } = .ok sr') :
    ∃ N, ∀ fuel, N ≤ fuel → ∃ M', M.srNatTimeout fuel ctx t sr = .ok (M', { sr' with nat := sr.nat }) ∧
      Represents M' sr'.nat := by
  have hnat : sr'.nat = nat' := (sends_sendReported hsend).nat
  rw [hnat]
  exact srNatTimeout_represents h hsweep
    (@sendReported_withNat ctx { sr with nat := nat' } sr' reported sr.nat hsend)

/-- **A pass that comes to an end in memory does so on lists.** -/
theorem completes_of_srNatTimeout (h : Represents M s) {fuel : ℕ} {M' : NatMemory}
    (hrun : M.srNatTimeout fuel ctx t sr = .ok (M', sr')) :
    ∃ reported s', natTimeout sr.cfg.routingTable t s = .ok (reported, s') ∧
      sendReported ctx reported sr = .ok sr' := by
  obtain ⟨⟨unsolPkt, unsolNodes, sr₁⟩, hloop, hrest⟩ := bind_ok_iff.mp hrun
  obtain ⟨⟨mappings, mappingNodes, w⟩, -, hrest⟩ := bind_ok_iff.mp hrest
  cases hrest
  cases hunsol : s.unsolPkt with
  | dangling =>
    obtain ⟨i, hi, hfreed⟩ : UnsolList.dangling.LiesIn M.unsolNodes M.unsolPkt := hunsol ▸ h.unsol
    rw [hi] at hloop
    exact absurd hloop (removeNodes_freed (Nat.ne_of_lt (h.allocated i hi)) hfreed _)
  | linked pkts =>
    obtain ⟨l, hl, rfl⟩ : (UnsolList.linked pkts).LiesIn M.unsolNodes M.unsolPkt := hunsol ▸ h.unsol
    obtain ⟨l', hvisits⟩ := visitList_of_removeNodes hl (h.fresh _ (Nat.le_refl _)).1 hloop
    obtain ⟨reported, kept, hsweep, hsend, -⟩ := visitList_visitUnsol.mp hvisits
    exact ⟨reported, _, natTimeout_eq_ok.mpr ⟨_, kept, hunsol, hsweep, rfl⟩, hsend⟩

end Pass

end NatRouter
