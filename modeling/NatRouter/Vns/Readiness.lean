import NatRouter.Vns.SessionRuns

/-!
# What a session comes to

A router becomes ready if and only if the first three messages of the server are the salt, the status
and a list of at most 46 interfaces that its routing table can do with (`session_ready`): a packet of
the switch among them ends it.  From then on it is handed all packets in their order, and all frames
it transmits are given to the switch in theirs (`session_frames`).  No message stays on its way
(`session_settles`), and a router that is left alone with the server becomes ready
(`session_becomesReady`).
-/

namespace NatRouter

open ByteMemory StructPack MessageStream Relation

variable {cfg : SessionConfig} {s : VnsSession}

/-! ### Readiness -/

/-- Interfaces that the routing table can do with are those its routes need. -/
lemma UsablePorts.routesUsable {ports : List SwitchPort} {net : NetConfig}
    (h : UsablePorts ports net.routingTable)
    (hsame : List.Forall₂ SameInterface (ports.map SwitchPort.intf) net.ifList) :
    RoutesUsable net := by
  intro dst lpm hlookup
  obtain ⟨i, hi⟩ :=
    interface_of_verified ((srVerifyRoutingTable_iff hsame).mpr h) (mem_of_srRtLookup hlookup)
  exact ⟨i, List.mem_of_find?_eq_some hi, hi⟩

/-- A router that is not ready has not read an opening. -/
lemma Progress.not_ready (h : Progress cfg s) (hready : s.ready = none) :
    s.read < 3 ∧ s.client ≠ .stopped ∨ NoOpening cfg s.sent := by
  cases h with
  | awaitRequest hclient hread => exact .inl ⟨by omega, by simp [hclient]⟩
  | awaitStatus hclient hread => exact .inl ⟨by omega, by simp [hclient]⟩
  | accepted hclient hread => exact .inl ⟨by omega, by simp [hclient]⟩
  | ready hclient hwas => cases hwas.ready.symm.trans hready
  | failed hclient hwritten hnot hno => exact .inr hno
  | ended hclient hwas => cases hwas.ready.symm.trans hready

/-- A router that is ready was ready with its interfaces. -/
lemma Progress.wasReady (h : Progress cfg s) {ifList : List SrIf} (hready : s.ready = some ifList) :
    WasReady cfg s ifList := by
  have heq : ∀ {ifList'}, WasReady cfg s ifList' → WasReady cfg s ifList := by
    intro ifList' hwas
    obtain rfl := Option.some.inj (hwas.ready.symm.trans hready)
    exact hwas
  cases h with
  | awaitRequest hclient hread hwritten hnot => cases hnot.ready.symm.trans hready
  | awaitStatus hclient hread hwritten hnot => cases hnot.ready.symm.trans hready
  | accepted hclient hread hwritten hnot => cases hnot.ready.symm.trans hready
  | ready hclient hwas => exact heq hwas
  | failed hclient hwritten hnot => cases hnot.ready.symm.trans hready
  | ended hclient hwas => exact heq hwas

/-- What was sent is no opening if nothing can make it one. -/
lemma NoOpening.not_opening {sent : List ServerMessage} (h : NoOpening cfg sent)
    (ports : List SwitchPort) : ¬ Opening cfg sent ports := by
  have hnil := h [] ports
  rwa [List.append_nil] at hnil

/-- **Readiness**, in every state of a session: a router is ready if and only if it has read three
messages and they are an opening.  Once it has read what was sent, or has ended, it is ready if and
only if an opening was sent.  Its interfaces are then those of the switch, and its routes can be
used. -/
theorem session_ready {infos : List (List SwitchPort)} {salt : Vector UInt8 20}
    (hrun : VnsSteps cfg (VnsSession.start cfg infos salt) s) :
    (s.ready.isSome ↔ 3 ≤ s.read ∧ ∃ ports, Opening cfg s.sent ports) ∧
    (s.down = [] ∨ s.client = .stopped → (s.ready.isSome ↔ ∃ ports, Opening cfg s.sent ports)) ∧
    ∀ ifList, s.ready = some ifList → RoutesUsable { cfg.start.cfg with ifList := ifList } ∧
      ∃ ports, Opening cfg s.sent ports ∧
        List.Forall₂ SameInterface (ports.map SwitchPort.intf) ifList := by
  have h := sessionInv_of_steps hrun
  have hwas : s.ready.isSome → 3 ≤ s.read ∧ ∃ ports, Opening cfg s.sent ports := by
    intro hready
    obtain ⟨ifList, hifList⟩ := Option.isSome_iff_exists.mp hready
    have hwas := h.progress.wasReady hifList
    obtain ⟨ports, hopening, -⟩ := hwas.opening
    exact ⟨hwas.read, ports, hopening⟩
  have hnone : ¬ s.ready.isSome → (∃ ports, Opening cfg s.sent ports) →
      s.read < 3 ∧ s.client ≠ .stopped := by
    rintro hready ⟨ports, hopening⟩
    exact (h.progress.not_ready (Option.not_isSome_iff_eq_none.mp hready)).resolve_right
      fun hno => hno.not_opening ports hopening
  refine ⟨⟨hwas, fun hopening => ?_⟩, fun hdone => ⟨fun hready => (hwas hready).2, fun hopening => ?_⟩,
    fun ifList hready => ?_⟩
  · by_contra hready
    have hearly := hnone hready hopening.2
    omega
  · by_contra hready
    obtain ⟨hread, hrunning⟩ := hnone hready hopening
    have hdown := h.down hrunning
    rw [hdone.resolve_right hrunning] at hdown
    have hall := hdown.taken_eq fun m _ => m.frame_ne_nil
    obtain ⟨ports, hopening⟩ := hopening
    obtain ⟨r, rest, hsent⟩ := hopening.messages
    rw [hsent] at hall
    simp only [List.length_cons] at hall
    omega
  · obtain ⟨ports, hopening, hsame, -⟩ := (h.progress.wasReady hready).opening
    exact ⟨@UsablePorts.routesUsable ports { cfg.start.cfg with ifList := ifList } hopening.usable hsame,
      ports, hopening, hsame⟩

/-! ### Frames -/

/-- The main loop is handed what was read of the packets. -/
lemma SessionInv.handed (h : SessionInv cfg s) : s.handed <+: broadcasts (s.sent.take s.read) ∧
    ∀ sr, s.client = .running sr → s.handed = broadcasts (s.sent.take s.read) := by
  have hfrom : s.handed = broadcasts (s.sent.take s.read) →
      s.handed <+: broadcasts (s.sent.take s.read) ∧
        ∀ sr, s.client = .running sr → s.handed = broadcasts (s.sent.take s.read) :=
    fun heq => ⟨heq ▸ List.prefix_refl _, fun _ _ => heq⟩
  obtain ⟨r, tail, hsent, -⟩ := h.server.replies
  cases h.progress with
  | awaitRequest hclient hread hwritten hnot hhanded =>
    refine hfrom ?_
    rw [hhanded, hread]
    rfl
  | awaitStatus hclient hread hwritten hnot hhanded =>
    refine hfrom ?_
    rw [hhanded, hread, hsent]
    rfl
  | accepted hclient hread hwritten hnot hhanded hsecond =>
    obtain ⟨r, rest, hsent, -⟩ := h.server.after_status hsecond
    refine hfrom ?_
    rw [hhanded, hread, hsent]
    rfl
  | ready hclient hready hcfg hshort hhanded => exact hfrom hhanded
  | failed hclient hwritten hnot hno hhanded =>
    exact ⟨hhanded, fun sr hrunning => by cases hclient.symm.trans hrunning⟩
  | ended hclient hready hhanded =>
    exact ⟨hhanded, fun sr hrunning => by cases hclient.symm.trans hrunning⟩

/-- All frames are written when the opening is. -/
lemma Progress.all_written (h : Progress cfg s) :
    s.transmitted = [] ∨ s.written.length = s.transmitted.length + 2 := by
  have hready : ∀ {ifList}, WasReady cfg s ifList → s.written.length = s.transmitted.length + 2 := by
    intro ifList hready
    obtain ⟨reply, -, hwritten⟩ := hready.written
    rw [hwritten, List.length_cons, List.length_cons, List.length_map]
  cases h with
  | awaitRequest hclient hread hwritten hnot => exact .inl hnot.transmitted
  | awaitStatus hclient hread hwritten hnot => exact .inl hnot.transmitted
  | accepted hclient hread hwritten hnot => exact .inl hnot.transmitted
  | ready hclient h => exact .inr (hready h)
  | failed hclient hwritten hnot => exact .inl hnot.transmitted
  | ended hclient h => exact .inr (hready h)

/-- Nothing that is written is empty. -/
lemma Progress.written_ne_nil (h : Progress cfg s) {msg : List UInt8} (hmsg : msg ∈ s.written) :
    msg ≠ [] := by
  have hframe : ∀ type body, vnsFrame type body ≠ [] := by
    intro type body hnil
    have hlength := length_vnsFrame type body
    rw [hnil, List.length_nil] at hlength
    omega
  obtain ⟨k, hk⟩ := List.getElem?_of_mem hmsg
  obtain ⟨-, body, r, rfl, -⟩ | ⟨-, rfl⟩ | ⟨j, x, ports, -, -, rfl, -⟩ := h.written_at hk
  · exact hframe _ _
  · rw [openMessage_eq]
    exact hframe _ _
  · exact hframe _ _

/-- When nothing is on its way to the server it has received all that was written, and raised an event
for each frame. -/
lemma SessionInv.all_received (h : SessionInv cfg s) (hup : s.up = []) :
    s.taken = s.written.length ∧
      s.packetsOut.map (fun o => (o.intfName, o.pkt)) = s.transmitted := by
  have hall := h.uplink.up
  rw [hup] at hall
  have htaken := hall.taken_eq fun msg hmsg => h.progress.written_ne_nil hmsg
  refine ⟨htaken, ?_⟩
  rw [h.uplink.packetsOut, htaken]
  rcases h.progress.all_written with hnil | hlength
  · rw [hnil, List.take_nil]
  · rw [hlength, Nat.add_sub_cancel, List.take_length]

/-- **Frames keep their order**, in every state of a session: the main loop is handed the packets that
the server has sent, and while the router runs it is handed all but those that are still on their
way.  The frames that `sr_send_packet` has accepted raise one event each, and all have when nothing is
on its way.  The server runs into no exception. -/
theorem session_frames {infos : List (List SwitchPort)} {salt : Vector UInt8 20}
    (hrun : VnsSteps cfg (VnsSession.start cfg infos salt) s) :
    s.handed <+: broadcasts s.sent ∧
    (∀ sr, s.client = .running sr →
      broadcasts s.sent = s.handed ++ broadcasts (s.sent.drop s.read) ∧
        s.down = (s.sent.drop s.read).flatMap ServerMessage.frame) ∧
    s.packetsOut.map (fun o => (o.intfName, o.pkt)) <+: s.transmitted ∧
    (s.up = [] → s.packetsOut.map (fun o => (o.intfName, o.pkt)) = s.transmitted) ∧
    s.raised = false := by
  have h := sessionInv_of_steps hrun
  have hsplit : broadcasts s.sent =
      broadcasts (s.sent.take s.read) ++ broadcasts (s.sent.drop s.read) := by
    rw [broadcasts, broadcasts, broadcasts, ← List.filterMap_append, List.take_append_drop]
  obtain ⟨hhanded, hrunning⟩ := h.handed
  refine ⟨?_, fun sr hclient => ⟨?_, ?_⟩, ?_, fun hup => (h.all_received hup).2, h.uplink.raised⟩
  · rw [hsplit]
    exact hhanded.trans (List.prefix_append _ _)
  · rw [hsplit, hrunning sr hclient]
  · refine (h.down ?_).stream_eq
    rw [hclient]
    exact fun h => by cases h
  · rw [h.uplink.packetsOut]
    exact List.take_prefix _ _

/-! ### Progress -/

/-- A step in which the router reads a message or the server receives one.  All other steps leave both
numbers as they are. -/
def MoveStep (cfg : SessionConfig) (s s' : VnsSession) : Prop :=
  VnsStep cfg s s' ∧ (s'.read = s.read + 1 ∨ s'.taken = s.taken + 1)

/-- Some of these steps. -/
abbrev MoveSteps (cfg : SessionConfig) : VnsSession → VnsSession → Prop := ReflTransGen (MoveStep cfg)

/-- Nothing that was there is lost. -/
structure Keeps (s s' : VnsSession) : Prop where
  /-- What the server has sent. -/
  sent : s.sent <+: s'.sent
  /-- What the router has written. -/
  written : s.written <+: s'.written
  /-- The frames that the main loop was handed. -/
  handed : s.handed <+: s'.handed
  /-- The frames that were transmitted. -/
  transmitted : s.transmitted <+: s'.transmitted
  /-- The events that were raised. -/
  packetsOut : s.packetsOut <+: s'.packetsOut

/-- All messages have come to where they go. -/
structure AllArrived (s : VnsSession) : Prop where
  /-- Nothing is on its way to the server. -/
  up : s.up = []
  /-- It has received all that was written. -/
  taken : s.taken = s.written.length
  /-- It has raised an event for each frame. -/
  packetsOut : s.packetsOut.map (fun o => (o.intfName, o.pkt)) = s.transmitted
  /-- A router that has not ended has read all that was sent. -/
  down : s.client ≠ .stopped → s.down = [] ∧ s.read = s.sent.length
  /-- Its main loop was handed all packets. -/
  handed : ∀ sr, s.client = .running sr → s.handed = broadcasts s.sent

lemma Keeps.refl (s : VnsSession) : Keeps s s :=
  ⟨List.prefix_refl _, List.prefix_refl _, List.prefix_refl _, List.prefix_refl _, List.prefix_refl _⟩

lemma Keeps.trans {s' s'' : VnsSession} (h : Keeps s s') (h' : Keeps s' s'') : Keeps s s'' :=
  ⟨h.sent.trans h'.sent, h.written.trans h'.written, h.handed.trans h'.handed,
    h.transmitted.trans h'.transmitted, h.packetsOut.trans h'.packetsOut⟩

/-- To send a message adds to what was sent, if it can be sent. -/
lemma keeps_serverSend (cfg : SessionConfig) (s : VnsSession) (m : ServerMessage) :
    Keeps s (s.serverSend cfg m) := by
  unfold VnsSession.serverSend
  split
  · exact { Keeps.refl s with sent := List.prefix_append _ _ }
  · exact .refl s

/-- The server forgets nothing when it receives a message. -/
lemma keeps_react (cfg : SessionConfig) (s : VnsSession) (m : Option RouterMessage) :
    Keeps s (s.react cfg m) := by
  unfold VnsSession.react
  cases m with
  | none => exact { Keeps.refl s with }
  | some m =>
    dsimp only
    split
    · exact { Keeps.refl s with }
    · rename_i reply out _
      have hout : Keeps s { s with packetsOut := s.packetsOut ++ out.toList } :=
        { Keeps.refl s with packetsOut := List.prefix_append _ _ }
      split
      · exact hout.trans (keeps_serverSend cfg _ _)
      · exact hout

/-- **No step loses anything.** -/
lemma VnsStep.keeps {s' : VnsSession} (h : VnsStep cfg s s') : Keeps s s' := by
  cases h with
  | routerInfo info => exact { Keeps.refl s with }
  | packetIn hport pkt => exact keeps_serverSend cfg s _
  | @receive type body rest hreceive =>
    have htook : Keeps s { s with up := rest, taken := s.taken + 1 } := { Keeps.refl s with }
    exact htook.trans (keeps_react cfg _ _)
  | read hexpected hread hperform =>
    exact ⟨List.prefix_refl _, List.prefix_append _ _, List.prefix_append _ _,
      List.prefix_append _ _, List.prefix_refl _⟩
  | sweep hclient hsweep =>
    exact { Keeps.refl s with
      written := List.prefix_append _ _, transmitted := List.prefix_append _ _ }

/-- No run does. -/
lemma keeps_of_moveSteps {s' : VnsSession} (h : MoveSteps cfg s s') : Keeps s s' := by
  induction h with
  | refl => exact .refl s
  | tail _ hstep ih => exact ih.trans hstep.1.keeps

/-- In a state of a session in which nothing is on its way all has arrived. -/
lemma SessionInv.allArrived (h : SessionInv cfg s) (hup : s.up = [])
    (hdone : s.down = [] ∨ s.client = .stopped) : AllArrived s := by
  obtain ⟨htaken, hout⟩ := h.all_received hup
  have hdown : s.client ≠ .stopped → s.down = [] ∧ s.read = s.sent.length := by
    intro hrunning
    have hnil := hdone.resolve_right hrunning
    have hall := h.down hrunning
    rw [hnil] at hall
    exact ⟨hnil, hall.taken_eq fun m _ => m.frame_ne_nil⟩
  refine ⟨hup, htaken, hout, hdown, fun sr hclient => ?_⟩
  have hread := (hdown (by rw [hclient]; exact fun h => by cases h)).2
  rw [h.handed.2 sr hclient, hread, List.take_length]

/-- Surroundings that supply zeros. -/
def quietReads : ReadSurroundings where
  behind := fun _ => 0
  authKey := fun _ => 0
  sha1 := ⟨SecureHash.init, 0, 0, fun _ => 0, 0, false, false⟩
  reply := fun _ => 0
  interfaces := fun _ => (Vector.replicate 6 0, 0)
  frame := quietSurroundings
  now := 0

/-- A message that is on its way is read by a router that has not ended. -/
lemma SessionInv.exists_read (h : SessionInv cfg s) {m : ServerMessage} (hm : s.sent[s.read]? = some m)
    (hrunning : s.client ≠ .stopped) : ∃ s', VnsStep cfg s s' ∧ s'.read = s.read + 1 ∧
      s'.sent = s.sent ∧ s'.taken = s.taken ∧ s'.server = s.server := by
  obtain ⟨expected, hexpected⟩ : ∃ expected, s.client.expectedCmd = some expected := by
    cases hclient : s.client with
    | stopped => exact absurd hclient hrunning
    | _ => exact ⟨_, rfl⟩
  obtain ⟨rest, hdown, -⟩ := (h.down hrunning).next hm
  obtain ⟨⟨action, rest'⟩, hread⟩ := NatRouter.exists_read (s.client.netConfig cfg) expected
    quietReads.behind (h.server.fits m (List.mem_of_getElem? hm)) rest
  rw [← hdown] at hread
  exact ⟨_, @VnsStep.read cfg s expected quietReads _ _ _ _ hexpected hread rfl, rfl, rfl, rfl, rfl⟩

/-- What sending a reply leaves alone. -/
lemma serverSend_kept (cfg : SessionConfig) (s : VnsSession) {m : ServerMessage} (hm : m.broadcast = none) :
    (s.serverSend cfg m).taken = s.taken ∧ (s.serverSend cfg m).server = s.server ∧
      broadcasts (s.serverSend cfg m).sent = broadcasts s.sent := by
  rcases s.serverSend_cases cfg m with ⟨-, heq⟩ | heq
  · rw [heq]
    refine ⟨rfl, rfl, ?_⟩
    change broadcasts (s.sent ++ [m]) = broadcasts s.sent
    rw [broadcasts, List.filterMap_append]
    simp [broadcasts, hm]
  · rw [heq]
    exact ⟨rfl, rfl, rfl⟩

/-- A step in which the server receives a message. -/
structure Received (cfg : SessionConfig) (s s' : VnsSession) : Prop where
  /-- It is a step. -/
  step : VnsStep cfg s s'
  /-- One more message is received. -/
  taken : s'.taken = s.taken + 1
  /-- The router is left alone. -/
  leaves : LeavesRouter s s'
  /-- The server is told nothing. -/
  server : s'.server = s.server
  /-- No packet is sent. -/
  broadcasts : broadcasts s'.sent = broadcasts s.sent
  /-- The reply is answered. -/
  status : s.taken = 0 → s'.sent = s.sent ++ [.authStatus ⟨true, cfg.statusMsg⟩]
  /-- So is the opening. -/
  hardware : ∀ info, s.taken = 1 → s.server.interfaces = some info → info.length ≤ 46 →
    s'.sent = s.sent ++ [.hardwareInfo info]
  /-- Frames are not. -/
  down : 2 ≤ s.taken → s'.down = s.down

/-- A message that is on its way is received. -/
lemma SessionInv.exists_receive (h : SessionInv cfg s) {msg : List UInt8}
    (hmsg : s.written[s.taken]? = some msg) : ∃ s', Received cfg s s' := by
  obtain ⟨type, body, rest, hreceive, -, hnext⟩ := h.next_received hmsg
  have hstep : VnsStep cfg s (VnsSession.react cfg (s.took rest) (unpackMessage type body)) :=
    .receive hreceive
  have htook : LeavesRouter s (s.took rest) := ⟨rfl, rfl, rfl, rfl, rfl, rfl, List.prefix_refl _⟩
  have hsend : ∀ m, m.broadcast = none →
      VnsSession.react cfg (s.took rest) (unpackMessage type body) = (s.took rest).serverSend cfg m →
      (s.taken = 0 → m = .authStatus ⟨true, cfg.statusMsg⟩) →
      (∀ info, s.taken = 1 → s.server.interfaces = some info → m = .hardwareInfo info) →
      s.taken < 2 → Received cfg s ((s.took rest).serverSend cfg m) := by
    intro m hm hreact hstatus hhardware htwo
    obtain ⟨htaken, hserver, hbroadcasts⟩ := serverSend_kept cfg (s.took rest) hm
    refine ⟨hreact ▸ hstep, htaken, htook.trans (leavesRouter_serverSend cfg _ m), hserver, hbroadcasts,
      fun hk => ?_, fun info hk hinfo hshort => ?_, fun hk => by omega⟩
    · rw [hstatus hk, VnsSession.serverSend_eq _ (cfg.fits_status)]
      rfl
    · rw [hhardware info hk hinfo, VnsSession.serverSend_eq]
      · rfl
      · rw [length_hardwareInfo]
        omega
  cases hnext with
  | reply hk hunpack =>
    refine ⟨_, hsend _ rfl (react_reply _ hunpack) (fun _ => rfl) (fun info hone => ?_) (by omega)⟩
    omega
  | opened hk =>
    cases hinterfaces : s.server.interfaces with
    | none =>
      have hreact := @react_open_none cfg (s.took rest) hinterfaces cfg.names
      refine ⟨s.took rest, hreact ▸ hstep, rfl, htook, rfl, rfl, fun hzero => by omega,
        fun info hone hinfo => ?_, fun htwo => rfl⟩
      cases hinterfaces.symm.trans hinfo
    | some info =>
      refine ⟨_, hsend _ rfl (react_open_some (s := s.took rest) hinterfaces cfg.names)
        (fun hzero => by omega) (fun info' _ hinfo => ?_) (by omega)⟩
      cases hinterfaces.symm.trans hinfo
      rfl
  | @frame x port hk hx hport hunpack =>
    have hreact := @react_frame cfg (s.took rest) x port hport hunpack
    rw [hreact] at hstep
    exact ⟨_, hstep, rfl, ⟨rfl, rfl, rfl, rfl, rfl, rfl, List.prefix_refl _⟩, rfl, rfl,
      fun hzero => by omega, fun info hone => by omega, fun _ => rfl⟩

/-- Steps in which messages are read and received, and no packet is sent. -/
structure Quiet (cfg : SessionConfig) (s s' : VnsSession) : Prop where
  /-- They are such steps. -/
  moves : MoveSteps cfg s s'
  /-- The server is told nothing. -/
  server : s'.server = s.server
  /-- No packet is sent. -/
  broadcasts : broadcasts s'.sent = broadcasts s.sent

lemma Quiet.refl (cfg : SessionConfig) (s : VnsSession) : Quiet cfg s s := ⟨.refl, rfl, rfl⟩

lemma Quiet.trans {s' s'' : VnsSession} (h : Quiet cfg s s') (h' : Quiet cfg s' s'') :
    Quiet cfg s s'' :=
  ⟨h.moves.trans h'.moves, h'.server.trans h.server, h'.broadcasts.trans h.broadcasts⟩

/-- They are steps of the session. -/
lemma Quiet.steps {s' : VnsSession} (h : Quiet cfg s s') : VnsSteps cfg s s' :=
  h.moves.lift id fun _ _ hstep => hstep.1

/-- What is received. -/
lemma Received.quiet {s' : VnsSession} (h : Received cfg s s') : Quiet cfg s s' :=
  ⟨.single ⟨h.step, .inr h.taken⟩, h.server, h.broadcasts⟩

/-- What is read. -/
lemma quiet_of_read {s' : VnsSession} (hstep : VnsStep cfg s s') (hread : s'.read = s.read + 1)
    (hserver : s'.server = s.server) (hsent : s'.sent = s.sent) : Quiet cfg s s' :=
  ⟨.single ⟨hstep, .inl hread⟩, hserver, congrArg broadcasts hsent⟩

/-- **The router reads** all that is on its way, or ends. -/
lemma SessionInv.readAll (h : SessionInv cfg s) : ∃ s', Quiet cfg s s' ∧ SessionInv cfg s' ∧
    (s'.down = [] ∨ s'.client = .stopped) ∧ s'.taken = s.taken := by
  induction hn : s.sent.length - s.read generalizing s with
  | zero =>
    refine ⟨s, .refl cfg s, h, ?_, rfl⟩
    by_cases hrunning : s.client = .stopped
    · exact .inr hrunning
    · have hdown := h.down hrunning
      obtain ⟨hnil, -⟩ | ⟨m, hm⟩ := hdown.all_or_next
      · exact .inl hnil
      · have hlt := (List.getElem?_eq_some_iff.mp hm).1
        omega
  | succ n ih =>
    by_cases hrunning : s.client = .stopped
    · exact ⟨s, .refl cfg s, h, .inr hrunning, rfl⟩
    · obtain ⟨m, hm⟩ : ∃ m, s.sent[s.read]? = some m :=
        ⟨_, List.getElem?_eq_getElem (by omega)⟩
      obtain ⟨s', hstep, hread, hsent, htaken, hserver⟩ := h.exists_read hm hrunning
      have hlength := congrArg List.length hsent
      obtain ⟨s'', hquiet, h'', hdone, htaken'⟩ := ih (h.step hstep) (by omega)
      exact ⟨s'', (quiet_of_read hstep hread hserver hsent).trans hquiet, h'', hdone,
        htaken'.trans htaken⟩

/-- **The server receives** all frames that are on their way. -/
lemma SessionInv.receiveAll (h : SessionInv cfg s) (htwo : 2 ≤ s.taken) : ∃ s', Quiet cfg s s' ∧
    s'.up = [] ∧ s'.down = s.down ∧ s'.client = s.client := by
  induction hn : s.written.length - s.taken generalizing s with
  | zero =>
    obtain ⟨hnil, -⟩ | ⟨msg, hmsg⟩ := h.uplink.up.all_or_next
    · exact ⟨s, .refl cfg s, hnil, rfl, rfl⟩
    · have hlt := (List.getElem?_eq_some_iff.mp hmsg).1
      omega
  | succ n ih =>
    obtain ⟨msg, hmsg⟩ : ∃ msg, s.written[s.taken]? = some msg :=
      ⟨_, List.getElem?_eq_getElem (by omega)⟩
    obtain ⟨s', hreceived⟩ := h.exists_receive hmsg
    have htaken := hreceived.taken
    have hwritten := congrArg List.length hreceived.leaves.written
    obtain ⟨s'', hquiet, hup, hdown, hclient⟩ := ih (h.step hreceived.step) (by omega) (by omega)
    exact ⟨s'', hreceived.quiet.trans hquiet, hup, hdown.trans (hreceived.down htwo),
      hclient.trans hreceived.leaves.client⟩

/-- **Nothing stays on its way**: from every state of a session, steps in which messages are read and
received lead to one in which the server has received all that was written, and the router has read
all that was sent or has ended.  Nothing is lost on the way, and the server sends no packet. -/
theorem session_settles {infos : List (List SwitchPort)} {salt : Vector UInt8 20}
    (hrun : VnsSteps cfg (VnsSession.start cfg infos salt) s) : ∃ s', MoveSteps cfg s s' ∧
      AllArrived s' ∧ (s'.down = [] ∨ s'.client = .stopped) ∧ Keeps s s' ∧
      s'.server = s.server ∧ broadcasts s'.sent = broadcasts s.sent := by
  have hsettle : ∀ {s}, SessionInv cfg s → ∃ s', Quiet cfg s s' ∧ s'.up = [] ∧
      (s'.down = [] ∨ s'.client = .stopped) := by
    intro s h
    -- the server receives two messages that it may answer, and frames after them
    induction hn : 2 - s.taken generalizing s with
    | zero =>
      obtain ⟨s₁, hread, h₁, hdone, htaken⟩ := h.readAll
      obtain ⟨s₂, hreceive, hup, hdown, hclient⟩ := h₁.receiveAll (by omega)
      exact ⟨s₂, hread.trans hreceive, hup, hdown ▸ hclient ▸ hdone⟩
    | succ n ih =>
      obtain ⟨s₁, hread, h₁, hdone, htaken⟩ := h.readAll
      obtain ⟨hnil, -⟩ | ⟨msg, hmsg⟩ := h₁.uplink.up.all_or_next
      · exact ⟨s₁, hread, hnil, hdone⟩
      · obtain ⟨s₂, hreceived⟩ := h₁.exists_receive hmsg
        have htaken' := hreceived.taken
        obtain ⟨s₃, hquiet, hup, hdone'⟩ := ih (h₁.step hreceived.step) (by omega)
        exact ⟨s₃, (hread.trans hreceived.quiet).trans hquiet, hup, hdone'⟩
  obtain ⟨s', hquiet, hup, hdone⟩ := hsettle (sessionInv_of_steps hrun)
  exact ⟨s', hquiet.moves, (sessionInv_of_steps (hrun.trans hquiet.steps)).allArrived hup hdone, hdone,
    keeps_of_moveSteps hquiet.moves, hquiet.server, hquiet.broadcasts⟩

/-! ### A router that is left alone -/

/-- The router is ready with some interfaces of the switch. -/
def ReadyWith (s : VnsSession) (ports : List SwitchPort) : Prop :=
  ∃ ifList, s.ready = some ifList ∧ List.Forall₂ SameInterface (ports.map SwitchPort.intf) ifList

/-- An opening has one list of interfaces. -/
lemma Opening.unique {sent more : List ServerMessage} {ports ports' : List SwitchPort}
    (h : Opening cfg sent ports) (h' : Opening cfg (sent ++ more) ports') : ports = ports' := by
  obtain ⟨r, rest, heq⟩ := (h.append more).messages
  obtain ⟨r', rest', heq'⟩ := h'.messages
  have hlists := heq.symm.trans heq'
  simp only [List.cons.injEq, ServerMessage.hardwareInfo.injEq] at hlists
  exact hlists.2.2.1

/-- A router that was ready was ready with the interfaces of the opening. -/
lemma WasReady.readyWith {ifList : List SrIf} (h : WasReady cfg s ifList)
    {more : List ServerMessage} {ports : List SwitchPort} (hopening : Opening cfg (s.sent ++ more) ports) :
    ReadyWith s ports := by
  obtain ⟨ports', hopening', hsame, -⟩ := h.opening
  obtain rfl := hopening'.unique hopening
  exact ⟨ifList, h.ready, hsame⟩

/-- How far a router is that can still become ready. -/
lemma SessionInv.hopeful (h : SessionInv cfg s) {more : List ServerMessage} {ports : List SwitchPort}
    (hopening : Opening cfg (s.sent ++ more) ports) :
    (s.read = 0 ∧ s.client ≠ .stopped ∧ s.written.length = 0) ∨
      (s.read = 1 ∧ s.client ≠ .stopped ∧ s.written.length = 1) ∨
      (s.read = 2 ∧ s.client ≠ .stopped ∧ s.written.length = 2) ∨ ReadyWith s ports := by
  cases h.progress with
  | awaitRequest hclient hread hwritten =>
    exact .inl ⟨hread, by simp [hclient], by simp [hwritten]⟩
  | awaitStatus hclient hread hwritten =>
    obtain ⟨reply, -, hwritten⟩ := hwritten
    exact .inr (.inl ⟨hread, by simp [hclient], by simp [hwritten]⟩)
  | accepted hclient hread hwritten =>
    obtain ⟨reply, -, hwritten⟩ := hwritten
    exact .inr (.inr (.inl ⟨hread, by simp [hclient], by simp [hwritten]⟩))
  | ready hclient hwas => exact .inr (.inr (.inr (hwas.readyWith hopening)))
  | failed hclient hwritten hnot hno => exact absurd hopening (hno more ports)
  | ended hclient hwas => exact .inr (.inr (.inr (hwas.readyWith hopening)))

/-- A session in which the server has sent its part of the opening only, as far as it can. -/
structure Unspoilt (cfg : SessionConfig) (s : VnsSession) (info : List SwitchPort) : Prop where
  /-- The invariant. -/
  inv : SessionInv cfg s
  /-- The salt, and the status if the server has received the reply. -/
  sent : ∃ r, s.taken = 0 ∧ s.sent = [.authRequest r] ∨
    s.taken = 1 ∧ s.sent = [.authRequest r, .authStatus ⟨true, cfg.statusMsg⟩]
  /-- The interfaces. -/
  interfaces : s.server.interfaces = some info
  /-- There are not too many. -/
  short : info.length ≤ 46
  /-- The routing table can do with them. -/
  usable : UsablePorts info cfg.start.cfg.routingTable

/-- The session will have an opening. -/
lemma Unspoilt.opening {info : List SwitchPort} (h : Unspoilt cfg s info) :
    ∃ more, Opening cfg (s.sent ++ more) info := by
  obtain ⟨r, ⟨-, heq⟩ | ⟨-, heq⟩⟩ := h.sent
  · exact ⟨[.authStatus ⟨true, cfg.statusMsg⟩, .hardwareInfo info], ⟨r, [], by rw [heq]; rfl⟩, h.short,
      h.usable⟩
  · exact ⟨[.hardwareInfo info], ⟨r, [], by rw [heq]; rfl⟩, h.short, h.usable⟩

/-- **The last steps**, when the router is accepted. -/
lemma Unspoilt.ready_of_read {info : List SwitchPort} (h : Unspoilt cfg s info) (htaken : s.taken = 1)
    (hread : s.read = 2) (hrunning : s.client ≠ .stopped) (hwritten : s.written.length = 2) :
    ∃ s', Quiet cfg s s' ∧ ReadyWith s' info := by
  obtain ⟨msg, hmsg⟩ : ∃ msg, s.written[s.taken]? = some msg :=
    ⟨_, List.getElem?_eq_getElem (by omega)⟩
  obtain ⟨s₁, hreceived⟩ := h.inv.exists_receive hmsg
  have h₁ := h.inv.step hreceived.step
  have hsent := hreceived.hardware info htaken h.interfaces h.short
  obtain ⟨r, ⟨hzero, -⟩ | ⟨-, heq⟩⟩ := h.sent
  · omega
  rw [heq] at hsent
  have hm : s₁.sent[s₁.read]? = some (.hardwareInfo info) := by
    rw [hsent, hreceived.leaves.read, hread]
    rfl
  obtain ⟨s₂, hstep, hread', hsent', -, hserver⟩ :=
    h₁.exists_read hm (hreceived.leaves.client ▸ hrunning)
  have h₂ := h₁.step hstep
  refine ⟨s₂, hreceived.quiet.trans (quiet_of_read hstep hread' hserver hsent'), ?_⟩
  have hopening : Opening cfg (s₂.sent ++ []) info := by
    rw [List.append_nil, hsent', hsent]
    exact ⟨⟨r, [], rfl⟩, h.short, h.usable⟩
  have hthree : s₂.read = 3 := by rw [hread', hreceived.leaves.read, hread]
  obtain ⟨hzero, -⟩ | ⟨hone, -⟩ | ⟨htwo, -⟩ | hready := h₂.hopeful hopening
  · omega
  · omega
  · omega
  · exact hready

/-- They come after the status, which the router reads. -/
lemma Unspoilt.ready_of_accepted {info : List SwitchPort} (h : Unspoilt cfg s info)
    (htaken : s.taken = 1) : ∃ s', Quiet cfg s s' ∧ ReadyWith s' info := by
  have hle := h.inv.uplink.up.taken_le
  obtain ⟨more, hopening⟩ := h.opening
  obtain ⟨-, -, hwritten⟩ | ⟨hread, hrunning, -⟩ | ⟨hread, hrunning, hwritten⟩ | hready :=
    h.inv.hopeful hopening
  · omega
  · obtain ⟨r, ⟨hzero, -⟩ | ⟨-, heq⟩⟩ := h.sent
    · omega
    have hm : s.sent[s.read]? = some (.authStatus ⟨true, cfg.statusMsg⟩) := by
      rw [heq, hread]
      rfl
    obtain ⟨s₁, hstep, hread', hsent, htaken', hserver⟩ := h.inv.exists_read hm hrunning
    have hquiet : Quiet cfg s s₁ := quiet_of_read hstep hread' hserver hsent
    have h₁ : Unspoilt cfg s₁ info := ⟨h.inv.step hstep, ⟨r, .inr ⟨htaken'.trans htaken, hsent.trans heq⟩⟩,
      hserver ▸ h.interfaces, h.short, h.usable⟩
    rw [← hsent] at hopening
    obtain ⟨hzero, -⟩ | ⟨hone, -⟩ | ⟨htwo, hrunning', hwritten⟩ | hready := h₁.inv.hopeful hopening
    · omega
    · omega
    · obtain ⟨s', hquiet', hready⟩ :=
        h₁.ready_of_read (htaken'.trans htaken) htwo hrunning' hwritten
      exact ⟨s', hquiet.trans hquiet', hready⟩
    · exact ⟨s₁, hquiet, hready⟩
  · exact h.ready_of_read htaken hread hrunning hwritten
  · exact ⟨s, .refl cfg s, hready⟩

/-- And the status comes after the reply, which the server receives. -/
lemma Unspoilt.ready_of_replied {info : List SwitchPort} (h : Unspoilt cfg s info)
    (htaken : s.taken = 0) (hwritten : s.written.length = 1) :
    ∃ s', Quiet cfg s s' ∧ ReadyWith s' info := by
  obtain ⟨msg, hmsg⟩ : ∃ msg, s.written[s.taken]? = some msg :=
    ⟨_, List.getElem?_eq_getElem (by omega)⟩
  obtain ⟨s₁, hreceived⟩ := h.inv.exists_receive hmsg
  obtain ⟨r, ⟨-, heq⟩ | ⟨hone, -⟩⟩ := h.sent
  · have hsent := hreceived.status htaken
    rw [heq] at hsent
    have htaken' : s₁.taken = 1 := by rw [hreceived.taken, htaken]
    have h₁ : Unspoilt cfg s₁ info := ⟨h.inv.step hreceived.step, ⟨r, .inr ⟨htaken', hsent⟩⟩,
      hreceived.server ▸ h.interfaces, h.short, h.usable⟩
    obtain ⟨s', hquiet, hready⟩ := h₁.ready_of_accepted htaken'
    exact ⟨s', hreceived.quiet.trans hquiet, hready⟩
  · omega

/-- **A session that is not spoilt** can be brought to where the router is ready. -/
lemma Unspoilt.becomesReady {info : List SwitchPort} (h : Unspoilt cfg s info) :
    ∃ s', Quiet cfg s s' ∧ ReadyWith s' info := by
  obtain ⟨r, ⟨htaken, heq⟩ | ⟨htaken, -⟩⟩ := h.sent
  · obtain ⟨more, hopening⟩ := h.opening
    have hle := h.inv.read_le
    rw [heq] at hle
    obtain ⟨hread, hrunning, -⟩ | ⟨-, -, hwritten⟩ | ⟨htwo, -⟩ | hready := h.inv.hopeful hopening
    · have hm : s.sent[s.read]? = some (.authRequest r) := by
        rw [heq, hread]
        rfl
      obtain ⟨s₁, hstep, hread', hsent, htaken', hserver⟩ := h.inv.exists_read hm hrunning
      have hquiet : Quiet cfg s s₁ := quiet_of_read hstep hread' hserver hsent
      have h₁ : Unspoilt cfg s₁ info := ⟨h.inv.step hstep,
        ⟨r, .inl ⟨htaken'.trans htaken, hsent.trans heq⟩⟩, hserver ▸ h.interfaces, h.short, h.usable⟩
      rw [← hsent] at hopening
      obtain ⟨hzero, -⟩ | ⟨-, -, hwritten⟩ | ⟨htwo, -⟩ | hready := h₁.inv.hopeful hopening
      · omega
      · obtain ⟨s', hquiet', hready⟩ := h₁.ready_of_replied (htaken'.trans htaken) hwritten
        exact ⟨s', hquiet.trans hquiet', hready⟩
      · omega
      · exact ⟨s₁, hquiet, hready⟩
    · exact h.ready_of_replied htaken hwritten
    · rw [htwo, List.length_singleton] at hle
      omega
    · exact ⟨s, .refl cfg s, hready⟩
  · exact h.ready_of_accepted htaken

/-- Without packets all messages are replies. -/
lemma answers_eq_self {sent : List ServerMessage} (h : broadcasts sent = []) : answers sent = sent := by
  refine List.filter_eq_self.mpr fun m hm => ?_
  rw [List.filterMap_eq_nil_iff.mp h m hm]
  rfl

/-- Whether a session is not spoilt is seen from the server. -/
lemma SessionInv.unspoilt (h : SessionInv cfg s) {info : List SwitchPort}
    (hinfo : s.server.interfaces = some info) (hshort : info.length ≤ 46)
    (husable : UsablePorts info cfg.start.cfg.routingTable) (htaken : s.taken ≤ 1)
    (hquiet : broadcasts s.sent = []) : Unspoilt cfg s info := by
  obtain ⟨r, tail, heq, -, hreplies⟩ := h.server.replies
  rw [heq] at hquiet
  rw [@answers_eq_self tail hquiet] at hreplies
  refine ⟨h, ⟨r, ?_⟩, hinfo, hshort, husable⟩
  rcases Nat.le_one_iff_eq_zero_or_eq_one.mp htaken with hzero | hone
  · rw [hzero] at hreplies
    exact .inl ⟨hzero, hreplies.eq_nil ▸ heq⟩
  · rw [hone] at hreplies
    exact .inr ⟨hone, hreplies.eq_accepted ▸ heq⟩

/-- **A router that is left alone becomes ready**: if the server knows interfaces that the routing
table can do with, no more than 46, and has received no more than the reply to the salt and sent no
packet, then some steps in which messages are read and received make the router ready with these
interfaces. -/
theorem session_becomesReady {infos : List (List SwitchPort)} {salt : Vector UInt8 20}
    (hrun : VnsSteps cfg (VnsSession.start cfg infos salt) s) {info : List SwitchPort}
    (hinfo : s.server.interfaces = some info) (hshort : info.length ≤ 46)
    (husable : UsablePorts info cfg.start.cfg.routingTable) (htaken : s.taken ≤ 1)
    (hquiet : broadcasts s.sent = []) : ∃ s', MoveSteps cfg s s' ∧ broadcasts s'.sent = [] ∧
      ∃ ifList, s'.ready = some ifList ∧
        List.Forall₂ SameInterface (info.map SwitchPort.intf) ifList := by
  obtain ⟨s', hsteps, hready⟩ :=
    ((sessionInv_of_steps hrun).unspoilt hinfo hshort husable htaken hquiet).becomesReady
  exact ⟨s', hsteps.moves, hsteps.broadcasts.trans hquiet, hready⟩

/-! ### A session of a router with one interface -/

/-- A message is received by the length in its prefix. -/
def prefixReceive (stream : List UInt8) : Option ((ℕ × List UInt8) × List UInt8) :=
  if stream.length < 8 then none
  else
    let len := (ofBe32 (stream.take 4)).toNat
    if len < 8 ∨ stream.length < len then none
    else some (((ofBe32 ((stream.drop 4).take 4)).toNat, (stream.take len).drop 8), stream.drop len)

/-- The framing that is the prefix and nothing else, at both ends. -/
def prefixConnection : VnsConnection where
  toLtProtocol := prefixFraming
  frame_isSome := by
    intro type body htype hfits
    simp only [prefixFraming, pack, Code.pack, if_pos hfits, if_pos htype]
    rfl
  receive := prefixReceive
  receive_nil := rfl
  receive_eq := by
    intro type body rest htype hfits
    have hlength := length_vnsFrame type body
    have htake : (vnsFrame type body ++ rest).take 4 = be32 (UInt32.ofNat (8 + body.length)) := by
      rw [vnsFrame, List.append_assoc]
      exact List.take_left' (length_be32 _)
    have hdrop : ((vnsFrame type body ++ rest).drop 4).take 4 = be32 (UInt32.ofNat type) := by
      rw [vnsFrame, List.append_assoc, List.drop_left' (length_be32 _), List.append_assoc]
      exact List.take_left' (length_be32 _)
    have hbody : (vnsFrame type body).drop 8 = body := by
      rw [vnsFrame, ← List.append_assoc]
      exact List.drop_left' (by rw [List.length_append, length_be32, length_be32])
    unfold prefixReceive
    rw [if_neg (by rw [List.length_append]; omega)]
    simp only [htake, hdrop, ofBe32_be32, UInt32.toNat_ofNat_of_lt' hfits,
      UInt32.toNat_ofNat_of_lt' htype]
    rw [if_neg (by rw [List.length_append]; omega), List.take_left' hlength, List.drop_left' hlength,
      hbody]

/-- The outer interface as a port of the switch. -/
def outerPort : SwitchPort where
  intf := ⟨outerInterface.name, List.replicate 6 2, [0xac, 0x40, 3, 1], [255, 255, 255, 0], rfl, rfl,
    rfl⟩
  port := 2
  name_notMem := by decide
  length_name := by decide

/-- A router with one route, before it has interfaces. -/
def outerConfig : SessionConfig where
  lt := prefixConnection
  names := ⟨[117, 115, 101, 114], [104, 111, 115, 116], 0, by decide, by decide⟩
  keyFile := List.replicate 64 97
  keyFile_ne := by decide
  statusMsg := []
  length_statusMsg := by decide
  start := { natRouter startState with cfg := { oneRoute with ifList := [] } }
  ifList_start := rfl
  cache_start := rfl
  log_start := rfl

/-- Its session. -/
def outerSession : VnsSession := .start outerConfig [[outerPort]] (Vector.replicate 20 7)

/-- It is not spoilt. -/
lemma unspoilt_outerSession : Unspoilt outerConfig outerSession [outerPort] := by
  have hports : UsablePorts [outerPort] outerConfig.start.cfg.routingTable := by
    refine ⟨by decide, by decide, fun e he => ⟨outerPort, List.mem_cons_self, ?_⟩⟩
    obtain rfl := List.mem_singleton.mp he
    decide
  exact (sessionInv_start _ _).unspoilt rfl (by decide) hports (by decide) rfl

/-- A run in which the router becomes ready. -/
theorem session_ready_outerPort : ∃ s, VnsSteps outerConfig outerSession s ∧ s.ready.isSome ∧
    (s.ready.isSome ↔ 3 ≤ s.read ∧ ∃ ports, Opening outerConfig s.sent ports) := by
  obtain ⟨s, hquiet, ifList, hready, -⟩ := unspoilt_outerSession.becomesReady
  exact ⟨s, hquiet.steps, hready ▸ rfl, (session_ready hquiet.steps).1⟩

/-- A run in which a packet is sent to a router that is ready. -/
theorem session_frames_outerPort : ∃ s, VnsSteps outerConfig outerSession s ∧ s.ready.isSome ∧
    broadcasts s.sent = [(outerInterface.name, [1, 2])] ∧ s.handed <+: broadcasts s.sent ∧
    (∀ sr, s.client = .running sr → broadcasts s.sent = s.handed ++ broadcasts (s.sent.drop s.read)) ∧
    s.packetsOut.map (fun o => (o.intfName, o.pkt)) <+: s.transmitted ∧ s.raised = false := by
  obtain ⟨s, hquiet, ifList, hready, -⟩ := unspoilt_outerSession.becomesReady
  have hport : s.server.portToIntfname 2 = some outerPort.portName := by
    rw [hquiet.server]
    rfl
  have hrun := hquiet.steps.tail (.packetIn hport [1, 2])
  have hsend := @VnsSession.serverSend_eq outerConfig s (.packet outerPort.portName [1, 2])
    (by decide)
  obtain ⟨hhanded, hrunning, hout, -, hraised⟩ := session_frames hrun
  refine ⟨_, hrun, ?_, ?_, hhanded, fun sr hclient => (hrunning sr hclient).1, hout, hraised⟩
  · rw [hsend]
    exact hready ▸ rfl
  · rw [hsend]
    change broadcasts (s.sent ++ [.packet outerPort.portName [1, 2]]) = _
    rw [broadcasts, List.filterMap_append]
    exact congrArg (· ++ [(outerInterface.name, [1, 2])]) hquiet.broadcasts

/-- The session comes to rest. -/
theorem session_settles_outerPort : ∃ s', MoveSteps outerConfig outerSession s' ∧
    AllArrived s' ∧ (s'.down = [] ∨ s'.client = .stopped) ∧ Keeps outerSession s' ∧
    s'.server = outerSession.server ∧ broadcasts s'.sent = broadcasts outerSession.sent :=
  session_settles .refl

/-- The router becomes ready. -/
theorem session_becomesReady_outerPort : ∃ s', MoveSteps outerConfig outerSession s' ∧
    broadcasts s'.sent = [] ∧ ∃ ifList, s'.ready = some ifList ∧
      List.Forall₂ SameInterface ([outerPort].map SwitchPort.intf) ifList :=
  session_becomesReady .refl rfl unspoilt_outerSession.short unspoilt_outerSession.usable
    (by decide) rfl

end NatRouter
