import Mathlib.Data.List.DropRight
import NatRouter.Nat.History

/-!
# Opening and closing of connections

What the states `ESTAB`, `SYN_SENT` and `CLOSED` of a stored connection say about the packets it has
seen.  `_determine_state` reads the flags of a packet but not the side it comes from, although
`sr_nat_update_connection` knows the side.

* A connection should be `CLOSED` only when both sides have sent a FIN since the last SYN.  But a
  FIN that one side repeats passes for the FIN of the other: `FinsAnswered` is the condition under
  which it does not (`finsSeen_of_closed`).
* A connection should be established by a handshake.  But any packet from inside opens a connection,
  in `SYN_SENT`, and a SYN+ACK establishes it from whichever side it comes.  With a SYN first, and
  the first SYN+ACK from the other side of a SYN, every state is as it should be, and only then
  (`handshakeOk_iff`).
-/

namespace NatRouter

open ByteMemory Interleaving Relation

/-! ### Closing -/

/-- The packets since the last SYN, or all of them if there is none. -/
def sinceSyn (h : List Seen) : List Seen := h.rtakeWhile fun x => !x.isSyn

/-- Since the last SYN, both sides have sent a FIN. -/
def FinsSeen (h : List Seen) : Prop :=
  ∀ direction, ∃ x ∈ sinceSyn h, x.direction = direction ∧ x.fin = true

/-- No side's FIN passes for that of the other: a FIN that comes to a connection in `FIN_WAIT_1` or
`FIN_WAIT_2` makes up, with those before it, for the FINs of both sides since the last SYN. -/
def FinsAnswered (h : List Seen) : Prop :=
  ∀ g x, g ++ [x] <+: h → x.isSyn = false → x.fin = true →
    stateAfter g = .finWait1 ∨ stateAfter g = .finWait2 → FinsSeen (g ++ [x])

/-- A SYN leads to `SYN_SENT` from every state. -/
lemma advance_of_isSyn {x : Seen} (hx : x.isSyn = true) (state : SrTcpStateType) :
    advance state x = .synSent := by
  obtain ⟨hsyn, hack⟩ : x.syn = true ∧ x.ack = false := by simpa [Seen.isSyn] using hx
  exact if_pos ⟨hsyn, Bool.eq_false_iff.mp hack⟩

/-- How a connection comes to be in `CLOSING` or `CLOSED`: it was already, or a FIN has come to it
in `FIN_WAIT_1` or `FIN_WAIT_2`. -/
lemma closing_of_advance {state : SrTcpStateType} {x : Seen} (hx : x.isSyn = false)
    (h : advance state x = .closing ∨ advance state x = .closed) :
    (state = .closing ∨ state = .closed) ∨
      x.fin = true ∧ (state = .finWait1 ∨ state = .finWait2) := by
  have hsyn : ¬ (x.syn = true ∧ ¬ x.ack = true) := by
    rintro ⟨hsyn, hack⟩
    simp [Seen.isSyn, hsyn, hack] at hx
  change (determineState state x.packet (ipHeaderLen x.packet) = .closing ∨
    determineState state x.packet (ipHeaderLen x.packet) = .closed) at h
  unfold determineState at h
  change ¬ (SrTcpHdr.syn x.packet (ipHeaderLen x.packet) = true ∧
    ¬ SrTcpHdr.ack x.packet (ipHeaderLen x.packet) = true) at hsyn
  simp only [if_neg hsyn] at h
  change _ ∨ SrTcpHdr.fin x.packet (ipHeaderLen x.packet) = true ∧ _
  cases state <;> simp at h ⊢ <;> grind

/-- A packet that is no SYN adds to those since the last SYN. -/
lemma FinsSeen.concat {h : List Seen} (hfins : FinsSeen h) {x : Seen} (hx : x.isSyn = false) :
    FinsSeen (h ++ [x]) := by
  intro direction
  obtain ⟨y, hy, hdirection, hfin⟩ := hfins direction
  refine ⟨y, ?_, hdirection, hfin⟩
  have hsince : sinceSyn (h ++ [x]) = sinceSyn h ++ [x] :=
    List.rtakeWhile_concat_pos _ _ x (by simp [hx])
  rw [hsince]
  exact List.mem_append_left _ hy

/-- One packet more. -/
lemma finsAnswered_concat_iff {h : List Seen} {x : Seen} :
    FinsAnswered (h ++ [x]) ↔ FinsAnswered h ∧ (x.isSyn = false → x.fin = true →
      stateAfter h = .finWait1 ∨ stateAfter h = .finWait2 → FinsSeen (h ++ [x])) := by
  constructor
  · intro hfins
    exact ⟨fun g y hbegins => hfins g y (hbegins.trans (List.prefix_append h [x])),
      hfins h x List.prefix_rfl⟩
  · rintro ⟨hfins, hlast⟩ g y hbegins
    rcases List.prefix_concat_iff.mp hbegins with heq | hbefore
    · obtain ⟨rfl, hlist⟩ := List.append_inj' heq rfl
      obtain rfl : y = x := by simpa using hlist
      exact hlast
    · exact hfins g y hbefore

/-- Packets that close a connection bring the FINs of both sides. -/
lemma finsSeen_of_closing {h : List Seen} (hfins : FinsAnswered h)
    (hclosing : stateAfter h = .closing ∨ stateAfter h = .closed) : FinsSeen h := by
  induction h using List.reverseRecOn with
  | nil =>
    rcases hclosing with hstate | hstate
    · cases hstate
    · cases hstate
  | append_singleton h x ih =>
    rcases eq_or_ne h [] with rfl | hne
    · rcases hclosing with hstate | hstate
      · cases hstate
      · cases hstate
    rw [stateAfter_concat hne] at hclosing
    cases hsyn : x.isSyn with
    | true =>
      rw [advance_of_isSyn hsyn] at hclosing
      rcases hclosing with hstate | hstate
      · cases hstate
      · cases hstate
    | false =>
      rcases closing_of_advance hsyn hclosing with hbefore | ⟨hfin, hwait⟩
      · exact (ih (finsAnswered_concat_iff.mp hfins).1 hbefore).concat hsyn
      · exact (finsAnswered_concat_iff.mp hfins).2 hsyn hfin hwait

/-- **Closed by both sides.**  In every run, a stored connection is in `CLOSED` only if both sides
have sent a FIN since the last SYN, provided that among its packets no FIN of one side passes for
that of the other. -/
theorem finsSeen_of_closed {s₀ : SrNat} (hs₀ : IsInitial s₀) {x : HistoryConf}
    (h : HistorySteps (.idle, s₀, []) x) {m : SrNatMapping} (hm : m ∈ x.2.1.mappings)
    {c : SrNatConnection} (hc : c ∈ m.conns) (hfins : FinsAnswered (history x.2.2 c.node))
    (hclosed : c.state = .closed) : FinsSeen (history x.2.2 c.node) := by
  have hstate : c.state = stateAfter (history x.2.2 c.node) :=
    (historiesOk_of_steps hs₀ h).state_eq c (List.mem_flatMap.mpr ⟨m, hm, hc⟩)
  exact finsSeen_of_closing hfins (.inr (hstate.symm.trans hclosed))

/-- A SYN and its answer, a FIN from each side, and an ACK: the sides close the connection in
turn. -/
theorem finsSeen_of_closed_inTurn : ∃ x m c, HistorySteps (.idle, startState, []) x ∧
    m ∈ x.2.1.mappings ∧ c ∈ m.conns ∧ c.state = .closed ∧ FinsSeen (history x.2.2 c.node) := by
  obtain ⟨x, m, c, hsteps, hm, hc, hstate, hhistory⟩ := exists_historySteps 0x02
    [(.externalToInternal, 0x12), (.internalToExternal, 0x11), (.externalToInternal, 0x11),
      (.internalToExternal, 0x10)] (by simp [Seen.isSyn])
  rw [stateAfter_segmentHistory] at hstate
  refine ⟨x, m, c, hsteps, hm, hc, hstate, ?_⟩
  refine finsSeen_of_closed isInitial_startState hsteps hm hc ?_ hstate
  rw [hhistory]
  -- the second FIN is the only packet the condition is about
  have hestab : stateAfter (segmentHistory 0x02 [(.externalToInternal, 0x12)]) = .estab := by
    rw [stateAfter_segmentHistory]
    decide
  have hsecond : FinsSeen (segmentHistory 0x02
      [(.externalToInternal, 0x12), (.internalToExternal, 0x11), (.externalToInternal, 0x11)]) := by
    intro direction
    refine ⟨seenSegment direction 0x11, ?_, direction_seenSegment _ _, by simp⟩
    cases direction <;> simp [sinceSyn, segmentHistory, List.rtakeWhile, Seen.isSyn]
  change FinsAnswered ([] ++ [seenSegment .internalToExternal 0x02] ++
    [seenSegment .externalToInternal 0x12] ++ [seenSegment .internalToExternal 0x11] ++
    [seenSegment .externalToInternal 0x11] ++ [seenSegment .internalToExternal 0x10])
  rw [finsAnswered_concat_iff, finsAnswered_concat_iff, finsAnswered_concat_iff,
    finsAnswered_concat_iff, finsAnswered_concat_iff]
  refine ⟨⟨⟨⟨⟨?_, ?_⟩, ?_⟩, ?_⟩, ?_⟩, ?_⟩
  · exact fun g y hbegins => absurd hbegins (by simp)
  · simp
  · simp
  · intro _ _ hstate
    change stateAfter (segmentHistory 0x02 [(.externalToInternal, 0x12)]) = _ ∨
      stateAfter (segmentHistory 0x02 [(.externalToInternal, 0x12)]) = _ at hstate
    simp [hestab] at hstate
  · exact fun _ _ _ => hsecond
  · simp

/-- **A repeated FIN closes**: after a handshake, a side that sends its FIN twice closes the
connection with the next ACK. -/
theorem closed_of_repeatedFin : ∃ x m c, HistorySteps (.idle, startState, []) x ∧
    m ∈ x.2.1.mappings ∧ c ∈ m.conns ∧ c.state = .closed ∧
    ¬ FinsSeen (history x.2.2 c.node) := by
  obtain ⟨x, m, c, hsteps, hm, hc, hstate, hhistory⟩ := exists_historySteps 0x02
    [(.externalToInternal, 0x12), (.internalToExternal, 0x11), (.internalToExternal, 0x11),
      (.externalToInternal, 0x10)] (by simp [Seen.isSyn])
  rw [stateAfter_segmentHistory] at hstate
  refine ⟨x, m, c, hsteps, hm, hc, hstate, ?_⟩
  rw [hhistory]
  intro hfins
  obtain ⟨y, hy, hdirection, hfin⟩ := hfins .externalToInternal
  have hmem := (List.rtakeWhile_suffix _ _).subset hy
  simp only [segmentHistory, List.map_cons, List.map_nil, List.mem_cons, List.not_mem_nil,
    or_false] at hmem
  rcases hmem with rfl | rfl | rfl | rfl | rfl <;> simp at hdirection hfin

/-! ### Opening -/

/-- A SYN, and afterwards a packet with `ACK` from the other side that answers it: a SYN+ACK, or one
that comes after a SYN of its own side. -/
def Handshake (h : List Seen) : Prop :=
  ∃ before syn between answer after, h = before ++ syn :: (between ++ answer :: after) ∧
    syn.isSyn = true ∧ answer.direction ≠ syn.direction ∧ answer.ack = true ∧
    (answer.syn = true ∨ ∃ y ∈ before ++ between, y.isSyn = true ∧ y.direction = answer.direction)

/-- What the state of a connection should say about its packets. -/
structure HandshakeOk (h : List Seen) : Prop where
  /-- An established connection has had its handshake. -/
  estab : stateAfter h = .estab → Handshake h
  /-- A connection in `SYN_SENT` has had a SYN. -/
  synSent : stateAfter h = .synSent → ∃ x ∈ h, x.isSyn = true

/-- The connection is opened by a SYN, and its first SYN+ACK comes from the other side of a SYN. -/
structure OpenedBySyn (h : List Seen) : Prop where
  /-- The first packet is a SYN. -/
  first : ∀ x, h.head? = some x → x.isSyn = true
  /-- The first SYN+ACK has a SYN to answer. -/
  answer : ∀ g x, g ++ [x] <+: h → x.isSynAck = true → (∀ y ∈ g, y.isSynAck = false) →
    ∃ y ∈ g, y.isSyn = true ∧ y.direction ≠ x.direction

/-- Without a SYN+ACK, a connection stays in `SYN_SENT`. -/
lemma stateAfter_of_no_synAck {h : List Seen} (hno : ∀ x ∈ h, x.isSynAck = false) :
    stateAfter h = .synSent := by
  induction h using List.reverseRecOn with
  | nil => rfl
  | append_singleton h x ih =>
    rcases eq_or_ne h [] with rfl | hne
    · rfl
    have hsynAck : x.isSynAck = false := hno x (List.mem_append_right _ (List.mem_singleton_self x))
    rw [stateAfter_concat hne, ih fun y hy => hno y (List.mem_append_left _ hy)]
    cases hsyn : x.isSyn with
    | true => exact advance_of_isSyn hsyn _
    | false =>
      have hflag : SrTcpHdr.syn x.packet (ipHeaderLen x.packet) = false := by
        rw [Seen.isSyn] at hsyn
        rw [Seen.isSynAck] at hsynAck
        change x.syn = false
        cases hack : x.ack with
        | true => simpa [hack] using hsynAck
        | false => simpa [hack] using hsyn
      simp [advance, determineState, hflag]

/-- A SYN+ACK establishes a connection in `SYN_SENT`. -/
lemma advance_of_isSynAck {x : Seen} (hx : x.isSynAck = true) : advance .synSent x = .estab := by
  obtain ⟨hsyn, hack⟩ : SrTcpHdr.syn x.packet (ipHeaderLen x.packet) = true ∧
      SrTcpHdr.ack x.packet (ipHeaderLen x.packet) = true := by
    simpa [Seen.isSynAck, Seen.syn, Seen.ack] using hx
  simp [advance, determineState, hsyn, hack]

/-- A SYN is no SYN+ACK. -/
lemma Seen.isSynAck_of_isSyn {x : Seen} (hx : x.isSyn = true) : x.isSynAck = false := by
  obtain ⟨hsyn, hack⟩ : x.syn = true ∧ x.ack = false := by simpa [Seen.isSyn] using hx
  simp [Seen.isSynAck, hack]

/-- The first SYN+ACK of a list. -/
lemma exists_first_synAck {h : List Seen} (hex : ∃ x ∈ h, x.isSynAck = true) :
    ∃ g x rest, h = g ++ x :: rest ∧ x.isSynAck = true ∧ ∀ y ∈ g, y.isSynAck = false := by
  obtain ⟨x, hfind⟩ := Option.isSome_iff_exists.mp (List.find?_isSome.mpr hex)
  obtain ⟨hx, g, rest, hsplit, hg⟩ := List.find?_eq_some_iff_append.mp hfind
  exact ⟨g, x, rest, hsplit, hx, fun y hy => by simpa using hg y hy⟩

/-- Opened by a SYN and answered from the other side, a connection has had its handshake when it has
had a SYN+ACK. -/
lemma OpenedBySyn.handshake {h g : List Seen} (hopened : OpenedBySyn h) (hbegins : g <+: h)
    (hex : ∃ x ∈ g, x.isSynAck = true) : Handshake g := by
  obtain ⟨before, x, rest, rfl, hx, hbefore⟩ := exists_first_synAck hex
  have hbegins' : before ++ [x] <+: h := by
    refine List.IsPrefix.trans ?_ hbegins
    exact ⟨rest, by simp⟩
  obtain ⟨y, hy, hsyn, hdirection⟩ := hopened.answer before x hbegins' hx hbefore
  obtain ⟨l₁, l₂, rfl⟩ := List.append_of_mem hy
  obtain ⟨hxsyn, hxack⟩ : x.syn = true ∧ x.ack = true := by simpa [Seen.isSynAck] using hx
  exact ⟨l₁, y, l₂, x, rest, by simp, hsyn, hdirection.symm, hxack, .inl hxsyn⟩

/-- A SYN opens, and only the other side sends SYN+ACKs. -/
lemma OpenedBySyn.of_other_side {x : Seen} {h : List Seen} (hx : x.isSyn = true)
    (hother : ∀ y ∈ h, y.isSynAck = true → y.direction ≠ x.direction) : OpenedBySyn (x :: h) := by
  constructor
  · intro y hy
    obtain rfl : x = y := Option.some.inj hy
    exact hx
  · rintro g y ⟨rest, hsplit⟩ hy -
    rcases g with _ | ⟨z, g⟩
    · obtain rfl : y = x := (List.cons.inj hsplit).1
      rw [Seen.isSynAck_of_isSyn hx] at hy
      cases hy
    · obtain ⟨rfl, hrest⟩ := List.cons.inj hsplit
      have hmem : y ∈ h := by simp [← hrest]
      exact ⟨z, List.mem_cons_self, hx, (hother y hmem hy).symm⟩

/-- **Exactly when it is a handshake.**  A connection is as its state says, from its first packet to
its last, if and only if it is opened by a SYN and its first SYN+ACK comes from the other side of a
SYN. -/
lemma handshakeOk_iff {h : List Seen} :
    (∀ g, g ≠ [] → g <+: h → HandshakeOk g) ↔ OpenedBySyn h := by
  constructor
  · intro hok
    have hfirst : ∀ x, h.head? = some x → x.isSyn = true := by
      intro x hx
      obtain ⟨rest, rfl⟩ : ∃ rest, h = x :: rest := List.head?_eq_some_iff.mp hx
      obtain ⟨y, hy, hsyn⟩ := (hok [x] (List.cons_ne_nil _ _) ⟨rest, rfl⟩).synSent rfl
      rwa [List.mem_singleton.mp hy] at hsyn
    refine ⟨hfirst, ?_⟩
    intro g x hbegins hx hg
    have hne : g ≠ [] := by
      rintro rfl
      obtain ⟨rest, rfl⟩ := hbegins
      have hno := Seen.isSynAck_of_isSyn (hfirst x rfl)
      rw [hx] at hno
      cases hno
    have hestab : stateAfter (g ++ [x]) = .estab := by
      rw [stateAfter_concat hne, stateAfter_of_no_synAck hg, advance_of_isSynAck hx]
    obtain ⟨before, syn, between, answer, after, hsplit, hsyn, hdirection, hack, hanswer⟩ :=
      (hok (g ++ [x]) (by simp) hbegins).estab hestab
    -- either the answer is the SYN+ACK itself, or it is an ACK that comes before it
    rcases List.eq_nil_or_concat after with rfl | ⟨after', z, rfl⟩
    · have hsplit' : g ++ [x] = (before ++ syn :: between) ++ [answer] := by simp [hsplit]
      obtain ⟨rfl, hlast⟩ := List.append_inj' hsplit' rfl
      obtain rfl : x = answer := by simpa using hlast
      exact ⟨syn, by simp, hsyn, hdirection.symm⟩
    · have hsplit' : g ++ [x] = (before ++ syn :: (between ++ answer :: after')) ++ [z] := by
        simp [hsplit]
      obtain ⟨rfl, -⟩ := List.append_inj' hsplit' rfl
      have hnotSynAck : answer.isSynAck = false := hg answer (by simp)
      rcases hanswer with hansyn | ⟨y, hy, hysyn, hydirection⟩
      · simp [Seen.isSynAck, hansyn, hack] at hnotSynAck
      · by_cases hsame : syn.direction = x.direction
        · refine ⟨y, ?_, hysyn, ?_⟩
          · rcases List.mem_append.mp hy with hy | hy
            · exact List.mem_append_left _ hy
            · simp [hy]
          · rw [hydirection, ← hsame]
            exact hdirection
        · exact ⟨syn, by simp, hsyn, hsame⟩
  · intro hopened g hne hbegins
    constructor
    · intro hestab
      refine hopened.handshake hbegins ?_
      by_contra hno
      push Not at hno
      rw [stateAfter_of_no_synAck fun x hx => Bool.eq_false_iff.mpr (hno x hx)] at hestab
      cases hestab
    · intro _
      obtain ⟨x, rest, rfl⟩ := List.exists_cons_of_ne_nil hne
      obtain ⟨rest', rfl⟩ := hbegins
      exact ⟨x, List.mem_cons_self, hopened.first x rfl⟩

/-- **Established by a handshake.**  In every run, a stored connection has gone through the states
that its packets lead to, and these were as they should be all along, an established connection
with its handshake and one in `SYN_SENT` with a SYN, if and only if it was opened by a SYN and its
first SYN+ACK came from the other side of a SYN. -/
theorem establishedByHandshake_iff {s₀ : SrNat} (hs₀ : IsInitial s₀) {x : HistoryConf}
    (h : HistorySteps (.idle, s₀, []) x) {m : SrNatMapping} (hm : m ∈ x.2.1.mappings)
    {c : SrNatConnection} (hc : c ∈ m.conns) :
    history x.2.2 c.node ≠ [] ∧ c.state = stateAfter (history x.2.2 c.node) ∧
      ((∀ g, g ≠ [] → g <+: history x.2.2 c.node → HandshakeOk g) ↔
        OpenedBySyn (history x.2.2 c.node)) := by
  have hok := historiesOk_of_steps hs₀ h
  have hmem : c ∈ x.2.1.connections := List.mem_flatMap.mpr ⟨m, hm, hc⟩
  exact ⟨hok.ne_nil c hmem, hok.state_eq c hmem, handshakeOk_iff⟩

/-- A SYN and its answer. -/
theorem establishedByHandshake_synAck : ∃ x m c, HistorySteps (.idle, startState, []) x ∧
    m ∈ x.2.1.mappings ∧ c ∈ m.conns ∧ c.state = .estab ∧ Handshake (history x.2.2 c.node) := by
  obtain ⟨x, m, c, hsteps, hm, hc, hstate, hhistory⟩ := exists_historySteps 0x02
    [(.externalToInternal, 0x12)] (by simp [Seen.isSyn])
  rw [stateAfter_segmentHistory] at hstate
  obtain ⟨hne, hafter, hiff⟩ := establishedByHandshake_iff isInitial_startState hsteps hm hc
  refine ⟨x, m, c, hsteps, hm, hc, hstate, ?_⟩
  refine (hiff.mpr ?_ _ hne List.prefix_rfl).estab (hafter ▸ hstate)
  rw [hhistory]
  refine OpenedBySyn.of_other_side (by simp [Seen.isSyn]) ?_
  intro y hy _
  obtain rfl : y = seenSegment .externalToInternal 0x12 := List.mem_singleton.mp hy
  simp

/-- **An ACK opens and a SYN+ACK establishes**: a connection can be in `ESTAB` without any SYN. -/
theorem established_without_syn : ∃ x m c, HistorySteps (.idle, startState, []) x ∧
    m ∈ x.2.1.mappings ∧ c ∈ m.conns ∧ c.state = .estab ∧
    ¬ Handshake (history x.2.2 c.node) := by
  obtain ⟨x, m, c, hsteps, hm, hc, hstate, hhistory⟩ := exists_historySteps 0x10
    [(.externalToInternal, 0x12)] (by simp [Seen.isSyn])
  rw [stateAfter_segmentHistory] at hstate
  refine ⟨x, m, c, hsteps, hm, hc, hstate, ?_⟩
  rw [hhistory]
  rintro ⟨before, syn, between, answer, after, hsplit, hsyn, -⟩
  have hmem : syn ∈ segmentHistory 0x10 [(.externalToInternal, 0x12)] := by simp [hsplit]
  simp only [segmentHistory, List.map_cons, List.map_nil, List.mem_cons, List.not_mem_nil,
    or_false] at hmem
  rcases hmem with rfl | rfl <;> simp [Seen.isSyn] at hsyn

end NatRouter
