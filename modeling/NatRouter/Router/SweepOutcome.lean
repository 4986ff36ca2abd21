import NatRouter.Nat.SimultaneousOpen
import NatRouter.Router.Senders
import NatRouter.Router.SweepMemory

/-!
# What a sweep achieves

A pass of `sr_nat_timeout` over a NAT state in memory.  What it does to the mappings and the bitmap is
exact whenever the pass comes to an end (`sweep_exact_iff`), and it does unless the head pointer of the
unsolicited list was left to a freed node, or a waiting packet cannot be reported.  The waiting packets
are answered and forgotten in time if moreover there is a route to each of their senders
(`answers_exactly_iff`): a packet without one stays.
-/

namespace NatRouter

open ByteMemory PackedBits LinkedHeap

/-- A packet has waited for longer than it may. -/
def IsOverdue (t : Time) (q : SrNatUnsolPkt) : Prop := (defaultTcpSynTo : ℤ) < t - q.lastUpdated

instance (t : Time) (q : SrNatUnsolPkt) : Decidable (IsOverdue t q) :=
  inferInstanceAs (Decidable (_ < _))

/-- The pass can go over the unsolicited list: it is a list, there is a routing table to look its packets
up in, and the routes to the senders of overdue packets name interfaces. -/
def Sweepable (cfg : NetConfig) (t : Time) (unsol : UnsolList) : Prop :=
  ∃ pkts, unsol = .linked pkts ∧ (pkts ≠ [] → cfg.routingTable ≠ []) ∧
    ∀ q ∈ pkts, ∀ lpm, srRtLookup cfg.routingTable (SrIpHdr.ipSrc q.ipPacket) = .ok (some lpm) →
      IsOverdue t q → ∃ i, srGetInterface cfg.ifList lpm.interface = some i

section Completion

variable {ctx : Surroundings} {t : Time} {sr sr' : SrInstance} {s s' : SrNat}

/-- An ICMP error is sent exactly if the interface is there. -/
lemma srSendIcmp_iff {packet : ByteMem} {interface : IfName} {type code : UInt8}
    (htype : type ≠ icmpTypeEchoreply) :
    (∃ sr', srSendIcmp ctx sr packet interface type code = .ok sr') ↔
      ∃ i, srGetInterface sr.cfg.ifList interface = some i := by
  constructor
  · rintro ⟨sr', hsend⟩
    obtain ⟨len, message, hmessage, -⟩ := srSendIcmp_cases hsend
    exact interface_of_icmpIppacket htype hmessage
  · rintro ⟨i, hi⟩
    exact srSendIcmp_of_interface htype hi

/-- A lookup succeeds, with or without a route, exactly if there is a routing table. -/
lemma exists_srRtLookup_iff {rt : List SrRt} {ip : UInt32} :
    (∃ lpm, srRtLookup rt ip = .ok lpm) ↔ rt ≠ [] := by
  unfold srRtLookup
  cases rt <;> simp

/-- A packet to whose sender there is a route is reported if it is overdue. -/
lemma isReported_iff {rt : List SrRt} {q : SrNatUnsolPkt} {route : SrRt}
    (hlookup : srRtLookup rt (SrIpHdr.ipSrc q.ipPacket) = .ok (some route)) :
    isReported rt t q = true ↔ IsOverdue t q := by
  rw [isReported_of_lookup hlookup, Option.isSome_some, Bool.true_and, decide_eq_true_eq]
  rfl

/-- A packet to whose sender there is none is not reported. -/
lemma isReported_of_none {rt : List SrRt} {q : SrNatUnsolPkt}
    (hlookup : srRtLookup rt (SrIpHdr.ipSrc q.ipPacket) = .ok none) : isReported rt t q = false := by
  rw [isReported_of_lookup hlookup]
  rfl

/-- When the walk over the unsolicited list comes to an end, with its messages sent. -/
lemma sweepUnsol_completes_iff {pkts : List SrNatUnsolPkt} :
    (∃ reported kept sr', sweepUnsol sr.cfg.routingTable t pkts = .ok (reported, kept) ∧
        sendReported ctx reported sr = .ok sr') ↔
      (pkts ≠ [] → sr.cfg.routingTable ≠ []) ∧ ∀ q ∈ pkts, ∀ lpm,
        srRtLookup sr.cfg.routingTable (SrIpHdr.ipSrc q.ipPacket) = .ok (some lpm) →
          IsOverdue t q → ∃ i, srGetInterface sr.cfg.ifList lpm.interface = some i := by
  induction pkts generalizing sr with
  | nil => exact ⟨fun _ => ⟨fun h => absurd rfl h, by simp⟩, fun _ => ⟨[], [], sr, rfl, rfl⟩⟩
  | cons q pkts ih =>
    constructor
    · rintro ⟨reported, kept, sr', hsweep, hsend⟩
      obtain ⟨lpm, reported', kept', hlookup, hrest, hcases⟩ := sweepUnsol_cons_eq_ok.mp hsweep
      have hrt := exists_srRtLookup_iff.mp ⟨lpm, hlookup⟩
      refine ⟨fun _ => hrt, ?_⟩
      rcases hcases with ⟨route, rfl, -, rfl, rfl⟩ | ⟨hstays, rfl, rfl⟩
      · obtain ⟨sr₁, hfirst, hsend⟩ := bind_eq_ok.mp hsend
        have hi := srSendIcmp_iff (by decide) |>.mp ⟨sr₁, hfirst⟩
        rw [← (sends_srSendIcmp hfirst).cfg] at hrest
        have hlater := (ih.mp ⟨_, _, _, hrest, hsend⟩).2
        rw [(sends_srSendIcmp hfirst).cfg] at hlater
        intro x hx lpm hroute hold
        rcases List.mem_cons.mp hx with rfl | hx
        · rw [hlookup] at hroute
          obtain rfl := Option.some.inj (Except.ok.inj hroute)
          exact hi
        · exact hlater x hx lpm hroute hold
      · have hlater := (ih.mp ⟨_, _, _, hrest, hsend⟩).2
        intro x hx lpm hroute hold
        rcases List.mem_cons.mp hx with rfl | hx
        · rw [(isReported_iff hroute).mpr hold] at hstays
          cases hstays
        · exact hlater x hx lpm hroute hold
    · rintro ⟨hrt, hroutes⟩
      obtain ⟨lpm, hlookup⟩ := @exists_srRtLookup_iff _ (SrIpHdr.ipSrc q.ipPacket) |>.mpr
        (hrt (List.cons_ne_nil _ _))
      have hlater := fun x hx => hroutes x (List.mem_cons_of_mem q hx)
      by_cases hgoes : isReported sr.cfg.routingTable t q = true
      · cases lpm with
        | none =>
          rw [isReported_of_none hlookup] at hgoes
          cases hgoes
        | some route =>
          obtain ⟨sr₁, hfirst⟩ := (@srSendIcmp_iff ctx sr q.ipPacket route.interface
            icmpTypeDstunreachable 3 (by decide)).mpr (hroutes q List.mem_cons_self route hlookup
              ((isReported_iff hlookup).mp hgoes))
          have hcfg := (sends_srSendIcmp hfirst).cfg
          obtain ⟨reported, kept, sr', hsweep, hsend⟩ := (@ih sr₁).mpr (by
            rw [hcfg]
            exact ⟨fun _ => hrt (List.cons_ne_nil _ _), hlater⟩)
          rw [hcfg] at hsweep
          exact ⟨_, _, sr', sweepUnsol_cons_eq_ok.mpr ⟨_, _, _, hlookup, hsweep,
            .inl ⟨route, rfl, hgoes, rfl, rfl⟩⟩, bind_eq_ok.mpr ⟨sr₁, hfirst, hsend⟩⟩
      · obtain ⟨reported, kept, sr', hsweep, hsend⟩ := (@ih sr).mpr
          ⟨fun _ => hrt (List.cons_ne_nil _ _), hlater⟩
        exact ⟨_, _, sr', sweepUnsol_cons_eq_ok.mpr ⟨_, _, _, hlookup, hsweep,
          .inr ⟨Bool.eq_false_iff.mpr hgoes, rfl, rfl⟩⟩, hsend⟩

/-- **When the pass comes to an end on lists.** -/
lemma sweepable_iff : Sweepable sr.cfg t s.unsolPkt ↔ ∃ reported s' sr',
    natTimeout sr.cfg.routingTable t s = .ok (reported, s') ∧
      sendReported ctx reported sr = .ok sr' := by
  constructor
  · rintro ⟨pkts, hunsol, hpkts⟩
    obtain ⟨reported, kept, sr', hsweep, hsend⟩ := sweepUnsol_completes_iff.mpr hpkts
    exact ⟨reported, _, sr', natTimeout_eq_ok.mpr ⟨pkts, kept, hunsol, hsweep, rfl⟩, hsend⟩
  · rintro ⟨reported, s', sr', hsweep, hsend⟩
    obtain ⟨pkts, kept, hunsol, hsweep, -⟩ := natTimeout_eq_ok.mp hsweep
    exact ⟨pkts, hunsol, sweepUnsol_completes_iff.mp ⟨reported, kept, sr', hsweep, hsend⟩⟩

end Completion

/-! ### The mappings -/

/-- A mapping has expired: an ICMP mapping that was not used for too long, or a TCP mapping none of
whose connections survives. -/
def Expired (s : SrNat) (t : Time) (m : SrNatMapping) : Prop :=
  (m.type = .natMappingIcmp ∧ (s.icmpQueryTo.toNat : ℤ) < t - m.lastUpdated) ∨
    (m.type = .natMappingTcp ∧ ∀ c ∈ m.conns, connExpired s t c = true)

instance (s : SrNat) (t : Time) (m : SrNatMapping) : Decidable (Expired s t m) :=
  inferInstanceAs (Decidable (_ ∨ _))

/-- A mapping with the connections that survive.  It is only those of TCP mappings that may not. -/
def withSurvivors (s : SrNat) (t : Time) (m : SrNatMapping) : SrNatMapping :=
  { m with conns := m.conns.filter fun c => ¬ (m.type = .natMappingTcp ∧ connExpired s t c = true) }

/-- The pass terminates, removes the expired mappings, leaves the others in order with the connections
that survive, and clears the bits of the mappings it removes and no others. -/
def SweepsExactly (M : NatMemory) (s : SrNat) (ctx : Surroundings) (sr : SrInstance) (t : Time) : Prop :=
  ∃ N, ∀ fuel, N ≤ fuel → ∃ M' sr' s', M.srNatTimeout fuel ctx t sr = .ok (M', sr') ∧
    Represents M' s' ∧
    s'.mappings = (s.mappings.filter fun m => ¬ Expired s t m).map (withSurvivors s t) ∧
    ∀ k, testBit M'.bitmap k = true ↔
      testBit M.bitmap k = true ∧ ∀ m ∈ s.mappings, Expired s t m → m.auxExt.toNat ≠ k

section Mappings

variable {ctx : Surroundings} {t : Time} {sr : SrInstance} {s : SrNat} {M : NatMemory}

/-- The sweep of a mapping, told by whether it has expired. -/
lemma sweepMapping_eq (s : SrNat) (t : Time) (m : SrNatMapping) :
    sweepMapping s t m = if Expired s t m then none else some (withSurvivors s t m) := by
  cases htype : m.type with
  | natMappingIcmp =>
    have hexpired : Expired s t m ↔ (s.icmpQueryTo.toNat : ℤ) < t - m.lastUpdated := by
      simp [Expired, htype]
    have hkept : withSurvivors s t m = m := by
      unfold withSurvivors
      rw [List.filter_eq_self.mpr fun c _ => by simp [htype]]
    simp only [sweepMapping, htype, hexpired, hkept]
  | natMappingTcp =>
    have hexpired : Expired s t m ↔ ∀ c ∈ m.conns, connExpired s t c = true := by
      simp [Expired, htype]
    have hkept : withSurvivors s t m = { m with conns := sweepConns s t m.conns } := by
      simp [withSurvivors, htype, sweepConns]
    have hnil : sweepConns s t m.conns = [] ↔ ∀ c ∈ m.conns, connExpired s t c = true := by
      simp [sweepConns, List.filter_eq_nil_iff]
    simp only [sweepMapping, htype, hkept]
    cases hconns : sweepConns s t m.conns with
    | nil => rw [if_pos (hexpired.mpr (hnil.mp hconns))]
    | cons c conns =>
      rw [if_neg fun hm => ?_]
      rw [hnil.mpr (hexpired.mp hm)] at hconns
      cases hconns

/-- What the sweep leaves of a table. -/
lemma filterMap_sweepMapping_eq (s : SrNat) (t : Time) (mappings : List SrNatMapping) :
    mappings.filterMap (sweepMapping s t) =
      (mappings.filter fun m => ¬ Expired s t m).map (withSurvivors s t) := by
  induction mappings with
  | nil => rfl
  | cons m mappings ih =>
    by_cases hm : Expired s t m
    · rw [List.filterMap_cons_none (by rw [sweepMapping_eq, if_pos hm]), ih, List.filter_cons,
        if_neg (by simpa using hm)]
    · rw [List.filterMap_cons_some (by rw [sweepMapping_eq, if_neg hm]), ih, List.filter_cons,
        if_pos (by simpa using hm), List.map_cons]

/-- **When the sweep of the mappings is exact**: whenever the pass can go over the unsolicited list. -/
theorem sweep_exact_iff (h : Represents M s) (ctx : Surroundings) (sr : SrInstance) (t : Time) :
    SweepsExactly M s ctx sr t ↔ Sweepable sr.cfg t s.unsolPkt := by
  constructor
  · rintro ⟨N, hpass⟩
    obtain ⟨M', sr', s', hrun, -⟩ := hpass N (Nat.le_refl _)
    obtain ⟨reported, s'', hsweep, hsend⟩ := completes_of_srNatTimeout h hrun
    exact sweepable_iff.mpr ⟨reported, s'', sr', hsweep, hsend⟩
  · intro hcan
    obtain ⟨reported, s', sr', hsweep, hsend⟩ := (@sweepable_iff ctx t sr s).mp hcan
    obtain ⟨N, hpass⟩ := srNatTimeout_represents h hsweep hsend
    obtain ⟨hmappings, hbitmap, -⟩ := natTimeout_cases hsweep
    refine ⟨N, fun fuel hfuel => ?_⟩
    obtain ⟨M', hrun, hrep⟩ := hpass fuel hfuel
    refine ⟨M', sr', s', hrun, hrep, ?_, fun k => ?_⟩
    · rw [hmappings, filterMap_sweepMapping_eq]
    · rw [hrep.bitmap, hbitmap, testBit_sweepMappings_snd, h.bitmap]
      refine and_congr_right fun _ => forall₂_congr fun m _ => ?_
      rw [sweepMapping_eq]
      by_cases hm : Expired s t m <;> simp [hm]

/-- The mapping of `synState`, whose connection is not established, has expired after 1000 seconds. -/
theorem sweep_exact_synState :
    SweepsExactly (memoryOf synState) synState quietSurroundings (natRouter synState) 1000 :=
  (sweep_exact_iff (represents_memoryOf heapOk_synState) quietSurroundings (natRouter synState) 1000).mpr
    ⟨[], rfl, fun h => absurd rfl h, fun _ hq => absurd hq List.not_mem_nil⟩

/-- The state that is left of `peerSynState` when its only packet has been taken off the list. -/
def brokenState : SrNat := { peerSynState with unsolPkt := .dangling }

/-- After the removal of the first packet the pass reads a node that has been freed. -/
theorem sweep_of_brokenState :
    srNatRemoveUnsolicitedPacket peerSynState.unsolPkt peerSynPkt.ipPacket =
      .ok brokenState.unsolPkt ∧
    Represents (memoryOf brokenState) brokenState ∧
    ¬ SweepsExactly (memoryOf brokenState) brokenState quietSurroundings (natRouter brokenState) 0 := by
  have hrep : Represents (memoryOf brokenState) brokenState :=
    represents_memoryOf (heapOk_waiting _)
  refine ⟨?_, hrep, ?_⟩
  · have hsame : sameSegment peerSynPkt.ipPacket peerSynPkt.ipPacket = true := by simp [sameSegment]
    simp [srNatRemoveUnsolicitedPacket, peerSynState, brokenState, hsame]
  · rintro ⟨N, hpass⟩
    obtain ⟨M', sr', s', hrun, -⟩ := hpass N (Nat.le_refl _)
    obtain ⟨reported, s'', hsweep, -⟩ := completes_of_srNatTimeout hrep hrun
    obtain ⟨pkts, kept, hunsol, -⟩ := natTimeout_eq_ok.mp hsweep
    cases hunsol

end Mappings

/-! ### The waiting packets -/

/-- The errors that are due: for each overdue packet to whose sender there is a route, that the port is
unreachable. -/
def errorsDue (cfg : NetConfig) (t : Time) (pkts : List SrNatUnsolPkt) : List RouterEvent :=
  pkts.filterMap fun q =>
    match srRtLookup cfg.routingTable (SrIpHdr.ipSrc q.ipPacket) with
    | .ok (some lpm) =>
      if IsOverdue t q then some (.icmp q.ipPacket lpm.interface icmpTypeDstunreachable 3) else none
    | _ => none

/-- The errors about overdue packets are addressed to their senders. -/
def AddressesSenders (cfg : NetConfig) (t : Time) (pkts : List SrNatUnsolPkt) : Prop :=
  ∀ q ∈ pkts, IsOverdue t q → ∀ lpm,
    srRtLookup cfg.routingTable (SrIpHdr.ipSrc q.ipPacket) = .ok (some lpm) →
      ∃ len message, icmpIppacket (srGetInterface cfg.ifList lpm.interface) q.ipPacket
        icmpTypeDstunreachable 3 = .ok (len, message) ∧
          SrIpHdr.ipDst message = SrIpHdr.ipSrc q.ipPacket

/-- The pass terminates, the packets that are not overdue stay on the list, in order, and no others, and
the errors that are due are made, and no others. -/
def AnswersExactly (M : NatMemory) (s : SrNat) (ctx : Surroundings) (sr : SrInstance) (t : Time) : Prop :=
  ∃ pkts, s.unsolPkt = .linked pkts ∧ AddressesSenders sr.cfg t pkts ∧
    ∃ N, ∀ fuel, N ≤ fuel → ∃ M' sr' events, M.srNatTimeout fuel ctx t sr = .ok (M', sr') ∧
      (UnsolList.linked (pkts.filter fun q => ¬ IsOverdue t q)).LiesIn M'.unsolNodes M'.unsolPkt ∧
      sr'.log = sr.log ++ events ∧ events.filter RouterEvent.isError = errorsDue sr.cfg t pkts

/-- The overdue packets can all be answered: there are a route to the sender of each and the interface
that it names. -/
def Answerable (cfg : NetConfig) (t : Time) (unsol : UnsolList) : Prop :=
  ∃ pkts, unsol = .linked pkts ∧ (pkts ≠ [] → cfg.routingTable ≠ []) ∧
    ∀ q ∈ pkts, IsOverdue t q → ∃ lpm i,
      srRtLookup cfg.routingTable (SrIpHdr.ipSrc q.ipPacket) = .ok (some lpm) ∧
        srGetInterface cfg.ifList lpm.interface = some i

section Answers

variable {ctx : Surroundings} {t : Time} {sr sr' : SrInstance} {s : SrNat} {M : NatMemory}
  {pkts : List SrNatUnsolPkt}

/-- The messages of a sweep are one error each. -/
lemma sendReported_errors {reported : List (SrNatUnsolPkt × SrRt)}
    (h : sendReported ctx reported sr = .ok sr') : ∃ events, sr'.log = sr.log ++ events ∧
      events.filter RouterEvent.isError =
        reported.map fun x => .icmp x.1.ipPacket x.2.interface icmpTypeDstunreachable 3 := by
  induction reported generalizing sr with
  | nil =>
    obtain rfl : sr = sr' := Except.ok.inj h
    exact ⟨[], (List.append_nil _).symm, rfl⟩
  | cons x rest ih =>
    obtain ⟨mid, hfirst, hrest⟩ := bind_eq_ok.mp h
    obtain ⟨events, hlog, herrors⟩ := srSendIcmp_errors hfirst
    obtain ⟨events', hlog', herrors'⟩ := ih hrest
    refine ⟨events ++ events', by rw [hlog', hlog, List.append_assoc], ?_⟩
    rw [List.filter_append, herrors, herrors']
    rfl

/-- What the walk over the list reports is what is due. -/
lemma sweepUnsol_reported {cfg : NetConfig} {kept : List SrNatUnsolPkt}
    {reported : List (SrNatUnsolPkt × SrRt)}
    (h : sweepUnsol cfg.routingTable t pkts = .ok (reported, kept)) :
    (reported.map fun x => RouterEvent.icmp x.1.ipPacket x.2.interface icmpTypeDstunreachable 3) =
      errorsDue cfg t pkts := by
  induction pkts generalizing reported kept with
  | nil =>
    cases h
    rfl
  | cons q pkts ih =>
    obtain ⟨lpm, reported', kept', hlookup, hrest, ⟨route, rfl, hgoes, rfl, rfl⟩ |
      ⟨hstays, rfl, rfl⟩⟩ := sweepUnsol_cons_eq_ok.mp h
    · have hold := (isReported_iff hlookup).mp hgoes
      rw [List.map_cons, ih hrest]
      simp [errorsDue, hlookup, hold]
    · rw [ih hrest]
      cases lpm with
      | none => simp [errorsDue, hlookup]
      | some route =>
        have hyoung : ¬ IsOverdue t q := by
          rw [← isReported_iff hlookup, hstays]
          exact Bool.false_ne_true
        simp [errorsDue, hlookup, hyoung]

/-- A list that can be answered can be gone over. -/
lemma Answerable.sweepable {cfg : NetConfig} {unsol : UnsolList} (h : Answerable cfg t unsol) :
    Sweepable cfg t unsol := by
  obtain ⟨pkts, hunsol, hrt, hroutes⟩ := h
  refine ⟨pkts, hunsol, hrt, fun q hq lpm hlookup hold => ?_⟩
  obtain ⟨lpm', i, hlookup', hi⟩ := hroutes q hq hold
  rw [hlookup] at hlookup'
  obtain rfl := Option.some.inj (Except.ok.inj hlookup')
  exact ⟨i, hi⟩

/-- Where the waiting packets are answered and forgotten, the overdue ones can be answered. -/
lemma AnswersExactly.answerable (hexact : AnswersExactly M s ctx sr t) (h : Represents M s) :
    Answerable sr.cfg t s.unsolPkt := by
  obtain ⟨pkts, hunsol, -, N, hpass⟩ := hexact
  -- the pass comes to an end, also with enough fuel for the walk on lists
  obtain ⟨M₀, sr₀, -, hrun₀, -⟩ := hpass N (Nat.le_refl _)
  obtain ⟨reported, s', hsweep, hsend⟩ := completes_of_srNatTimeout h hrun₀
  obtain ⟨N', hpass'⟩ := srNatTimeout_represents h hsweep hsend
  obtain ⟨M', sr', -, hrun, hlies, -⟩ := hpass (max N N') (Nat.le_max_left _ _)
  obtain ⟨M'', hrun', hrep⟩ := hpass' (max N N') (Nat.le_max_right _ _)
  obtain ⟨rfl, rfl⟩ := Prod.mk.inj (Except.ok.inj (hrun.symm.trans hrun'))
  obtain ⟨pkts', hunsol', -, hkept⟩ := natTimeout_unsol hsweep
  rw [hunsol] at hunsol'
  obtain rfl := UnsolList.linked.inj hunsol'
  have hlists := hlies.unique (hkept ▸ hrep.unsol)
  rw [UnsolList.linked.injEq, filter_eq_filter_iff] at hlists
  obtain ⟨pkts', hunsol', hrt, hinterfaces⟩ := (@sweepable_iff ctx t sr s).mpr
    ⟨reported, s', _, hsweep, hsend⟩
  rw [hunsol] at hunsol'
  obtain rfl := UnsolList.linked.inj hunsol'
  refine ⟨pkts, hunsol, hrt, fun q hq hold => ?_⟩
  have hgoes : isReported sr.cfg.routingTable t q = true := by simpa [hold] using hlists q hq
  obtain ⟨lpm, hlookup⟩ := @exists_srRtLookup_iff _ (SrIpHdr.ipSrc q.ipPacket) |>.mpr
    (hrt (List.ne_nil_of_mem hq))
  cases lpm with
  | none =>
    rw [isReported_of_none hlookup] at hgoes
    cases hgoes
  | some lpm =>
    obtain ⟨i, hi⟩ := hinterfaces q hq lpm hlookup hold
    exact ⟨lpm, i, hlookup, hi⟩

/-- Where the overdue packets can be answered, they are answered and forgotten. -/
lemma Answerable.answersExactly (hanswer : Answerable sr.cfg t s.unsolPkt) (h : Represents M s)
    (ctx : Surroundings) : AnswersExactly M s ctx sr t := by
  obtain ⟨reported, s', sr', hsweep, hsend⟩ := (@sweepable_iff ctx t sr s).mp hanswer.sweepable
  obtain ⟨N, hpass⟩ := srNatTimeout_represents h hsweep hsend
  obtain ⟨pkts, hunsol, hrt, hroutes⟩ := hanswer
  obtain ⟨pkts', kept, hunsol', hwalk, rfl⟩ := natTimeout_eq_ok.mp hsweep
  rw [hunsol] at hunsol'
  obtain rfl := UnsolList.linked.inj hunsol'
  obtain ⟨events, hlog, herrors⟩ := sendReported_errors hsend
  refine ⟨pkts, hunsol, fun q hq hold lpm hlookup => ?_, N, fun fuel hfuel => ?_⟩
  · obtain ⟨lpm', i, hlookup', hi⟩ := hroutes q hq hold
    rw [hlookup] at hlookup'
    obtain rfl := Option.some.inj (Except.ok.inj hlookup')
    obtain ⟨sr₁, hsend₁⟩ := @srSendIcmp_of_interface ctx sr q.ipPacket lpm.interface
      icmpTypeDstunreachable 3 (by decide) i hi
    obtain ⟨len, message, hmessage, -⟩ := srSendIcmp_cases hsend₁
    exact ⟨len, message, hmessage, ipDst_icmpIppacket hmessage⟩
  · obtain ⟨M', hrun, hrep⟩ := hpass fuel hfuel
    refine ⟨M', sr', events, hrun, ?_, hlog, herrors.trans (sweepUnsol_reported hwalk)⟩
    -- what is not reported is not overdue
    have hlies := hrep.unsol
    rw [(sweepUnsol_eq hwalk).2] at hlies
    have hlists : (pkts.filter fun q => !isReported sr.cfg.routingTable t q) =
        pkts.filter fun q => ¬ IsOverdue t q := by
      refine filter_eq_filter_iff.mpr fun q hq => ?_
      by_cases hold : IsOverdue t q
      · obtain ⟨lpm, -, hlookup, -⟩ := hroutes q hq hold
        simp [(isReported_iff hlookup).mpr hold, hold]
      · have hstays : isReported sr.cfg.routingTable t q = false := by
          unfold isReported
          split
          · exact decide_eq_false hold
          · rfl
        simp [hstays, hold]
    rwa [hlists] at hlies

/-- **When the waiting packets are answered and forgotten on time**: whenever all that are overdue can be
answered. -/
theorem answers_exactly_iff (h : Represents M s) (ctx : Surroundings) (sr : SrInstance) (t : Time) :
    AnswersExactly M s ctx sr t ↔ Answerable sr.cfg t s.unsolPkt :=
  ⟨fun hexact => hexact.answerable h, fun hanswer => hanswer.answersExactly h ctx⟩

/-- The SYN of `peerSynState` is overdue after seven seconds, and there is a route to its sender. -/
theorem answers_exactly_peerSynState : AnswersExactly (memoryOf peerSynState) peerSynState
    quietSurroundings (natRouter peerSynState) 7 := by
  have hrep : Represents (memoryOf peerSynState) peerSynState :=
    represents_memoryOf (heapOk_waiting _)
  refine (answers_exactly_iff hrep quietSurroundings (natRouter peerSynState) 7).mpr
    ⟨[peerSynPkt], rfl, fun _ => List.cons_ne_nil _ _, fun q hq _ => ?_⟩
  rw [List.mem_singleton.mp hq, peerSynPkt_inboundSyn.2.1]
  exact ⟨outerRoute, outerInterface, rfl, rfl⟩

/-- A SYN from 9.9.9.9:80, to which `twoSided` has no route, to port 1024 of the router. -/
def unroutedPkt : SrNatUnsolPkt where
  ipPacket := ofBytes [0x45, 0, 0, 40, 0, 0, 0, 0, 64, 6, 0, 0, 9, 9, 9, 9, 172, 64, 3, 1,
    0, 80, 4, 0, 0, 0, 0, 7, 0, 0, 0, 0, 0x50, 2, 0, 0, 0, 0, 0, 0]
  lastUpdated := 0

/-- The state in which it waits. -/
def unroutedState : SrNat := { startState with unsolPkt := .linked [unroutedPkt] }

/-- It waits for ever. -/
theorem unrouted_not_answered :
    srRtLookup twoSided.routingTable (SrIpHdr.ipSrc unroutedPkt.ipPacket) = .ok none ∧
    Represents (memoryOf unroutedState) unroutedState ∧
    ¬ AnswersExactly (memoryOf unroutedState) unroutedState quietSurroundings (natRouter unroutedState) 1000 := by
  have hlookup : srRtLookup twoSided.routingTable (SrIpHdr.ipSrc unroutedPkt.ipPacket) = .ok none := rfl
  have hrep : Represents (memoryOf unroutedState) unroutedState :=
    represents_memoryOf (heapOk_waiting _)
  refine ⟨hlookup, hrep, fun hexact => ?_⟩
  obtain ⟨pkts, hunsol, -, hroutes⟩ := hexact.answerable hrep
  obtain rfl := UnsolList.linked.inj hunsol
  obtain ⟨lpm, -, hroute, -⟩ := hroutes unroutedPkt List.mem_cons_self (by unfold IsOverdue; decide)
  have hnone : srRtLookup (natRouter unroutedState).cfg.routingTable (SrIpHdr.ipSrc unroutedPkt.ipPacket) =
      .ok none := hlookup
  rw [hnone] at hroute
  cases hroute

end Answers

end NatRouter
