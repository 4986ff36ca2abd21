import NatRouter.Vns.Reading
import NatRouter.Vns.Session

/-!
# A session over a connection that cuts the stream

A session follows the stream to the router as one row of bytes, from which a message is read in one
step.  On a connection the bytes come in pieces, cut anywhere, and calls are interrupted; a message is
read in the two loops of `sr_read_from_server_expect`.  Neither makes a difference: over every
connection that brings what is sent, in whatever pieces, a session with the loops in place of the step
has the runs that it has without them (`session_cut_iff`).
-/

namespace NatRouter

open ByteMemory PartialReads Relation

/-- A session, and what the connection is going to bring to the router. -/
abbrev CutSession := VnsSession × List (Delivery UInt8)

/-- A connection: the pieces in which it may bring what is sent, whatever has been done before. -/
structure Cutting where
  /-- In this state of the session it may bring these pieces. -/
  Brings : CutSession → List (Delivery UInt8) → Prop
  /-- It brings whatever is sent. -/
  exists_brings : ∀ c new, ∃ pieces, Brings c pieces ∧ stream pieces = new

/-- For example in any pieces. -/
instance : Inhabited Cutting where
  default := ⟨fun _ _ => True, fun _ new =>
    match new with
    | [] => ⟨[], trivial, rfl⟩
    | c :: rest => ⟨[.chunk c rest], trivial, List.append_nil _⟩⟩

/-- The session after a message was read. -/
def VnsSession.afterRead (s : VnsSession) (action : ServerAction) (rest : List UInt8)
    (client : SrClient) (writes : List (List UInt8)) : VnsSession :=
  { s with
    client := client
    down := rest
    up := s.up ++ writes.flatten
    read := s.read + 1
    written := s.written ++ writes
    handed := s.handed ++ action.frames
    transmitted := s.transmitted ++ s.client.transmits client
    ready := (becomesReady action client).or s.ready }

/-- A step of a session whose stream is cut. -/
inductive CutStep (cfg : SessionConfig) (cut : Cutting) : CutSession → CutSession → Prop
  /-- The router reads a message, in its loops. -/
  | read {s : VnsSession} {expected : UInt32} {ctx : ReadSurroundings} {action : ServerAction}
      {client : SrClient} {writes : List (List UInt8)} {fuel : ℕ} {feed feed' : List (Delivery UInt8)}
      (hexpected : s.client.expectedCmd = some expected)
      (hread : readFromServerExpect (s.client.netConfig cfg) expected ctx.behind fuel feed =
        some (action, feed'))
      (hperform : s.client.perform cfg ctx action = (client, writes)) :
      CutStep cfg cut (s, feed) (s.afterRead action (stream feed') client writes, feed')
  /-- Any other step is made, and what is sent in it is going to come in pieces. -/
  | other {s s' : VnsSession} {feed pieces : List (Delivery UInt8)} (hstep : VnsStep cfg s s')
      (hread : s'.read = s.read) (hdown : s'.down = s.down ++ stream pieces)
      (hpieces : cut.Brings (s, feed) pieces) :
      CutStep cfg cut (s, feed) (s', feed ++ pieces)

/-- The runs of a session whose stream is cut. -/
abbrev CutSteps (cfg : SessionConfig) (cut : Cutting) : CutSession → CutSession → Prop :=
  ReflTransGen (CutStep cfg cut)

/-! ### Steps that do not read -/

/-- What comes later is behind what comes first. -/
lemma stream_append (feed pieces : List (Delivery UInt8)) :
    stream (feed ++ pieces) = stream feed ++ stream pieces := List.flatMap_append

section Steps

variable {cfg : SessionConfig} {s s' : VnsSession}

/-- Nothing is read, and the stream to the router only grows. -/
def SendsOn (s s' : VnsSession) : Prop := s'.read = s.read ∧ ∃ new, s'.down = s.down ++ new

/-- If it is left alone. -/
lemma SendsOn.of_eq (hread : s'.read = s.read) (hdown : s'.down = s.down) : SendsOn s s' :=
  ⟨hread, [], by rw [hdown, List.append_nil]⟩

/-- If the server sends. -/
lemma sendsOn_serverSend (m : ServerMessage) : SendsOn s (s.serverSend cfg m) := by
  unfold VnsSession.serverSend
  split
  · exact ⟨rfl, _, rfl⟩
  · exact .of_eq rfl rfl

/-- If the server answers. -/
lemma sendsOn_react (m : Option RouterMessage) : SendsOn s (s.react cfg m) := by
  unfold VnsSession.react
  split
  · exact .of_eq rfl rfl
  · split
    · exact .of_eq rfl rfl
    · dsimp only
      split
      · exact sendsOn_serverSend _
      · exact .of_eq rfl rfl

/-- **What a step does to the stream to the router**: a message is read from it, or it grows. -/
lemma VnsStep.reads_or_sendsOn (h : VnsStep cfg s s') :
    (∃ expected ctx action rest client writes, s.client.expectedCmd = some expected ∧
      srReadFromServerExpect (s.client.netConfig cfg) expected ctx.behind s.down =
        some (action, rest) ∧
      s.client.perform cfg ctx action = (client, writes) ∧
      s' = s.afterRead action rest client writes) ∨ SendsOn s s' := by
  cases h with
  | routerInfo info => exact .inr (.of_eq rfl rfl)
  | packetIn hport pkt => exact .inr (sendsOn_serverSend _)
  | receive hreceive => exact .inr (sendsOn_react _)
  | read hexpected hread hperform => exact .inl ⟨_, _, _, _, _, _, hexpected, hread, hperform, rfl⟩
  | sweep hclient hsweep => exact .inr (.of_eq rfl rfl)

end Steps

/-! ### One step for the other -/

section Refinement

variable {cfg : SessionConfig} {cut : Cutting} {s s' : VnsSession}
  {feed feed' : List (Delivery UInt8)}

/-- A message that can be read from a stream is there. -/
lemma holdsMessage_of_read {net : NetConfig} {expected : UInt32} {behind : ByteMem}
    {down rest : List UInt8} {action : ServerAction}
    (h : srReadFromServerExpect net expected behind down = some (action, rest)) :
    HoldsMessage down := by
  rw [srReadFromServerExpect_eq] at h
  split_ifs at h with hlength hrefused hmessage
  · exact ⟨by omega, by omega⟩
  · exact ⟨by omega, by omega⟩

/-- The loops make the step that a session makes. -/
lemma CutStep.vnsStep {c c' : CutSession} (h : CutStep cfg cut c c') (hfeed : stream c.2 = c.1.down) :
    VnsStep cfg c.1 c'.1 ∧ stream c'.2 = c'.1.down := by
  cases h with
  | read hexpected hread hperform =>
    have hstream := (readFromServerExpect_refines hread).2
    rw [hfeed] at hstream
    exact ⟨.read hexpected hstream hperform, rfl⟩
  | other hstep hread hdown hpieces =>
    refine ⟨hstep, ?_⟩
    rw [stream_append, hfeed, hdown]

/-- Where a session makes a step the loops make it, however the stream is cut. -/
lemma VnsStep.cutStep (h : VnsStep cfg s s') (hfeed : stream feed = s.down) :
    ∃ feed', CutStep cfg cut (s, feed) (s', feed') := by
  rcases h.reads_or_sendsOn with
    ⟨expected, ctx, action, rest, client, writes, hexpected, hread, hperform, rfl⟩ |
      ⟨hread, new, hdown⟩
  · rw [← hfeed] at hread
    obtain ⟨⟨action', feed'⟩, hloop⟩ : ∃ r, readFromServerExpect (s.client.netConfig cfg) expected
        ctx.behind (10000 + interrupts feed + 1) feed = some r :=
      readFromServerExpect_ends (holdsMessage_of_read hread) (Nat.lt_succ_self _)
    have hsame := (readFromServerExpect_refines hloop).2
    rw [hread] at hsame
    cases hsame
    exact ⟨feed', .read hexpected hloop hperform⟩
  · obtain ⟨pieces, hpieces, rfl⟩ := cut.exists_brings (s, feed) new
    exact ⟨feed ++ pieces, .other h hread hdown hpieces⟩

/-- A run of the loops is a run of the session. -/
lemma CutSteps.vnsSteps {c c' : CutSession} (h : CutSteps cfg cut c c') (hfeed : stream c.2 = c.1.down) :
    VnsSteps cfg c.1 c'.1 ∧ stream c'.2 = c'.1.down := by
  induction h with
  | refl => exact ⟨.refl, hfeed⟩
  | tail _ hstep ih =>
    obtain ⟨hnext, hstream⟩ := hstep.vnsStep ih.2
    exact ⟨ih.1.tail hnext, hstream⟩

/-- A run of the session is a run of the loops. -/
lemma VnsSteps.cutSteps (h : VnsSteps cfg s s') (hfeed : stream feed = s.down) :
    ∃ feed', CutSteps cfg cut (s, feed) (s', feed') ∧ stream feed' = s'.down := by
  induction h with
  | refl => exact ⟨feed, .refl, hfeed⟩
  | tail _ hstep ih =>
    obtain ⟨feed₁, hsteps, hfeed₁⟩ := ih
    obtain ⟨feed₂, hnext⟩ := hstep.cutStep hfeed₁
    exact ⟨feed₂, hsteps.tail hnext, (hnext.vnsStep hfeed₁).2⟩

end Refinement

/-- **Where the stream is cut makes no difference**: over every connection a session goes from one state
to another with the loops around `recv` and `read` if and only if it does with whole messages. -/
theorem session_cut_iff (cfg : SessionConfig) (cut : Cutting) (s s' : VnsSession)
    (feed : List (Delivery UInt8)) :
    (∃ feed', CutSteps cfg cut ({ s with down := stream feed }, feed) (s', feed')) ↔
      VnsSteps cfg { s with down := stream feed } s' := by
  constructor
  · rintro ⟨feed', h⟩
    exact (CutSteps.vnsSteps h rfl).1
  · intro h
    obtain ⟨feed', hsteps, -⟩ := h.cutSteps rfl
    exact ⟨feed', hsteps⟩

end NatRouter
