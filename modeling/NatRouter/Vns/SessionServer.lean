import NatRouter.Vns.SessionInvariant

/-!
# Steps of the server

The steps of the server keep the invariant.  They only add to what is sent, and leave the router where
it is (`LeavesRouter`).  Which message is the next on the way to the router follows from the replies.
-/

namespace NatRouter

open ByteMemory StructPack MessageStream Relation

/-- What a step of the server leaves alone. -/
structure LeavesRouter (s s' : VnsSession) : Prop where
  /-- The router. -/
  client : s'.client = s.client
  /-- What it has read. -/
  read : s'.read = s.read
  /-- What it has written. -/
  written : s'.written = s.written
  /-- The frames it was handed. -/
  handed : s'.handed = s.handed
  /-- The frames it has transmitted. -/
  transmitted : s'.transmitted = s.transmitted
  /-- Whether it is ready. -/
  ready : s'.ready = s.ready
  /-- More is sent. -/
  sent : s.sent <+: s'.sent

section Server

variable {cfg : SessionConfig} {s s' : VnsSession}

lemma LeavesRouter.trans {s'' : VnsSession} (h : LeavesRouter s s') (h' : LeavesRouter s' s'') :
    LeavesRouter s s'' where
  client := h'.client.trans h.client
  read := h'.read.trans h.read
  written := h'.written.trans h.written
  handed := h'.handed.trans h.handed
  transmitted := h'.transmitted.trans h.transmitted
  ready := h'.ready.trans h.ready
  sent := h.sent.trans h'.sent

/-- To send a message leaves the router alone. -/
lemma leavesRouter_serverSend (cfg : SessionConfig) (s : VnsSession) (m : ServerMessage) :
    LeavesRouter s (s.serverSend cfg m) := by
  rcases s.serverSend_cases cfg m with ⟨-, heq⟩ | heq
  · rw [heq]
    exact ⟨rfl, rfl, rfl, rfl, rfl, rfl, List.prefix_append _ _⟩
  · rw [heq]
    exact ⟨rfl, rfl, rfl, rfl, rfl, rfl, List.prefix_refl _⟩

/-- What was read stays the same. -/
lemma LeavesRouter.take_sent (h : LeavesRouter s s') (hle : s.read ≤ s.sent.length) :
    s'.sent.take s'.read = s.sent.take s.read := by
  obtain ⟨more, hmore⟩ := h.sent
  rw [h.read, ← hmore, List.take_append_of_le_length hle]

/-- It stays ready. -/
lemma LeavesRouter.wasReady (h : LeavesRouter s s') {ifList : List SrIf}
    (hready : WasReady cfg s ifList) : WasReady cfg s' ifList where
  read := h.read ▸ hready.read
  ready := h.ready ▸ hready.ready
  opening := by
    obtain ⟨ports, hopening, hsame, hports⟩ := hready.opening
    obtain ⟨more, hmore⟩ := h.sent
    exact ⟨ports, hmore ▸ hopening.append more, hsame, h.transmitted ▸ hports⟩
  written := by
    rw [h.written, h.transmitted]
    exact hready.written
  frames := h.transmitted ▸ hready.frames

/-- It stays as far as it is. -/
lemma LeavesRouter.progress (h : LeavesRouter s s') (hle : s.read ≤ s.sent.length)
    (hprogress : Progress cfg s) : Progress cfg s' := by
  have hnot' : NotReady s → NotReady s' := fun hnot =>
    ⟨h.ready.trans hnot.ready, h.transmitted.trans hnot.transmitted⟩
  have htake := h.take_sent hle
  obtain ⟨more, hmore⟩ := h.sent
  cases hprogress with
  | awaitRequest hclient hread hwritten hnot hhanded =>
    exact .awaitRequest (h.client.trans hclient) (h.read.trans hread) (h.written.trans hwritten)
      (hnot' hnot) (h.handed.trans hhanded)
  | awaitStatus hclient hread hwritten hnot hhanded =>
    exact .awaitStatus (h.client.trans hclient) (h.read.trans hread) (h.written ▸ hwritten)
      (hnot' hnot) (h.handed.trans hhanded)
  | accepted hclient hread hwritten hnot hhanded hsecond hcfg hshort =>
    refine .accepted (h.client.trans hclient) (h.read.trans hread) (h.written ▸ hwritten)
      (hnot' hnot) (h.handed.trans hhanded) ?_ hcfg hshort
    rw [← hmore]
    exact List.getElem?_append_left (List.getElem?_eq_some_iff.mp hsecond).1 ▸ hsecond
  | ready hclient hready hcfg hshort hhanded =>
    exact .ready (h.client.trans hclient) (h.wasReady hready) hcfg hshort
      (by rw [h.handed, htake, hhanded])
  | failed hclient hwritten hnot hno hhanded =>
    exact .failed (h.client.trans hclient) (h.written ▸ hwritten) (hnot' hnot)
      (hmore ▸ hno.append more) (by rwa [h.handed, htake])
  | ended hclient hready hhanded =>
    exact .ended (h.client.trans hclient) (h.wasReady hready) (by rwa [h.handed, htake])

/-- What is on its way to the router. -/
lemma inTransit_serverSend (m : ServerMessage) (h : InTransit ServerMessage.frame s.down s.sent s.read) :
    InTransit ServerMessage.frame (s.serverSend cfg m).down (s.serverSend cfg m).sent
      (s.serverSend cfg m).read := by
  rcases s.serverSend_cases cfg m with ⟨-, heq⟩ | heq
  · rw [heq]
    exact h.send m
  · rwa [heq]

/-! ### What the server knows -/

/-- It learns the ports of one interface after the other. -/
lemma knows_addPort (server : SrServer) (ps : List SwitchPort) (name : List UInt8)
    (h : (server.intfnameToPort name).isSome ∨ ∃ p ∈ ps, p.intf.name = name) :
    ((ps.foldl SrServer.addPort server).intfnameToPort name).isSome := by
  induction ps generalizing server with
  | nil =>
    rcases h with hknown | ⟨p, hp, -⟩
    · exact hknown
    · cases hp
  | cons p ps ih =>
    rw [List.foldl_cons]
    refine ih _ ?_
    by_cases hname : p.intf.name = name
    · refine .inl ?_
      rw [SrServer.addPort, ← hname]
      simp
    · rcases h with hknown | ⟨q, hq, hqname⟩
      · refine .inl ?_
        rw [SrServer.addPort]
        simpa [Function.update_of_ne (Ne.symm hname)] using hknown
      · rcases List.mem_cons.mp hq with rfl | hrest
        · exact absurd hqname hname
        · exact .inr ⟨q, hrest, hqname⟩

/-- The event `RouterInfo` adds to what it knows. -/
lemma SrServer.Knows.routerInfo {server : SrServer} {ports : List SwitchPort} (h : server.Knows ports)
    (info : List SwitchPort) : (server.handleRouterInfo info).Knows ports := fun p hp =>
  knows_addPort server info p.intf.name (.inl (h p hp))

/-- It knows the interfaces it was told of. -/
lemma knows_routerInfo (server : SrServer) (info : List SwitchPort) :
    (server.handleRouterInfo info).Knows info := fun p hp =>
  knows_addPort server info p.intf.name (.inr ⟨p, hp, rfl⟩)

/-- The event keeps the invariant. -/
lemma SessionInv.routerInfo (h : SessionInv cfg s) (info : List SwitchPort) :
    SessionInv cfg { s with server := s.server.handleRouterInfo info } where
  down := h.down
  read_le := h.read_le
  server :=
    { replies := h.server.replies
      fits := h.server.fits
      interfaces := by
        intro info' hinfo
        obtain rfl := Option.some.inj hinfo
        exact knows_routerInfo s.server info
      sentPorts := fun ports hports => (h.server.sentPorts ports hports).routerInfo info }
  progress :=
    LeavesRouter.progress (s := s) ⟨rfl, rfl, rfl, rfl, rfl, rfl, List.prefix_refl _⟩ h.read_le
      h.progress
  uplink := ⟨h.uplink.up, h.uplink.packetsOut, h.uplink.raised⟩

/-! ### What the server sends -/

/-- The replies among the messages. -/
lemma ServerSide.answered (h : ServerSide cfg s) (hserver : s'.server = s.server)
    (hsent : s'.sent = s.sent)
    (hreplies : ∀ old, Replies cfg s.taken old → Replies cfg s'.taken old) : ServerSide cfg s' where
  replies := by
    obtain ⟨r, tail, heq, hsalt, hold⟩ := h.replies
    exact ⟨r, tail, hsent.trans heq, hsalt, hreplies _ hold⟩
  fits := hsent ▸ h.fits
  interfaces := by
    rw [hserver]
    exact h.interfaces
  sentPorts := by
    rw [hserver, hsent]
    exact h.sentPorts

/-- A message is sent, if it can be. -/
lemma ServerSide.serverSend (h : ServerSide cfg s) (hserver : s'.server = s.server)
    (hsent : s'.sent = s.sent) {m : ServerMessage}
    (hports : ∀ ports, m = .hardwareInfo ports → s.server.Knows ports)
    (hreplies : ∀ old, Replies cfg s.taken old →
      Replies cfg s'.taken (old ++ answers [m]))
    (hkept : ¬ 8 + m.body.length < 2 ^ 32 → ∀ old, Replies cfg s.taken old → Replies cfg s'.taken old) :
    ServerSide cfg (s'.serverSend cfg m) := by
  by_cases hfits : 8 + m.body.length < 2 ^ 32
  · rw [s'.serverSend_eq hfits]
    obtain ⟨r, tail, heq, hsalt, hold⟩ := h.replies
    refine ⟨⟨r, tail ++ [m], ?_, hsalt, ?_⟩, fun m' hm' => ?_, ?_, fun ports hmem => ?_⟩
    · rw [hsent, heq]
      rfl
    · rw [answers, List.filter_append]
      exact hreplies _ hold
    · rw [hsent] at hm'
      rcases List.mem_append.mp hm' with hold' | hnew
      · exact h.fits m' hold'
      · exact List.mem_singleton.mp hnew ▸ hfits
    · rw [hserver]
      exact h.interfaces
    · rw [hserver]
      rw [hsent] at hmem
      rcases List.mem_append.mp hmem with hold' | hnew
      · exact h.sentPorts ports hold'
      · exact hports ports (List.mem_singleton.mp hnew).symm
  · have heq : s'.serverSend cfg m = s' := (s'.serverSend_cases cfg m).resolve_left fun hsend =>
      hfits hsend.1
    rw [heq]
    exact h.answered hserver hsent (hkept hfits)

/-- A packet of the switch is sent on. -/
lemma SessionInv.packetIn (h : SessionInv cfg s) (name : PortName) (pkt : List UInt8) :
    SessionInv cfg (s.serverSend cfg (.packet name pkt)) := by
  have hleaves := leavesRouter_serverSend cfg s (.packet name pkt)
  refine ⟨fun hclient => ?_, ?_, ?_, hleaves.progress h.read_le h.progress, ?_⟩
  · exact inTransit_serverSend _ (h.down (hleaves.client ▸ hclient))
  · rw [hleaves.read]
    exact h.read_le.trans hleaves.sent.length_le
  · refine h.server.serverSend rfl rfl (fun ports heq => by cases heq) (fun old hold => ?_)
      fun _ _ hold => hold
    have hnone : answers [.packet name pkt] = [] := rfl
    rwa [hnone, List.append_nil]
  · rcases s.serverSend_cases cfg (.packet name pkt) with ⟨-, heq⟩ | heq
    · rw [heq]
      exact ⟨h.uplink.up, h.uplink.packetsOut, h.uplink.raised⟩
    · rw [heq]
      exact h.uplink

/-! ### What the server receives -/

/-- What the router has written: its part of the opening, and then frames. -/
lemma Progress.written_at (h : Progress cfg s) {k : ℕ} {msg : List UInt8}
    (hk : s.written[k]? = some msg) :
    (k = 0 ∧ IsReply msg) ∨ (k = 1 ∧ msg = openMessage cfg.names) ∨
      ∃ j x ports, k = j + 2 ∧ s.transmitted[j]? = some x ∧ msg = routerFrame x ∧
        x.2.length ≤ maxFrameLen ∧ .hardwareInfo ports ∈ s.sent ∧ ∃ p ∈ ports, x.1 = p.intf.name := by
  have hbefore : (∃ reply, IsReply reply ∧ s.written <+: [reply, openMessage cfg.names]) →
      (k = 0 ∧ IsReply msg) ∨ k = 1 ∧ msg = openMessage cfg.names := by
    rintro ⟨reply, hreply, hprefix⟩
    have hmsg : [reply, openMessage cfg.names][k]? = some msg := by
      obtain ⟨more, hmore⟩ := hprefix
      rw [← hmore]
      exact (List.getElem?_append_left (List.getElem?_eq_some_iff.mp hk).1).trans hk
    match k with
    | 0 => exact .inl ⟨rfl, Option.some.inj hmsg ▸ hreply⟩
    | 1 => exact .inr ⟨rfl, (Option.some.inj hmsg).symm⟩
    | k + 2 => cases hmsg
  have hafter : ∀ {ifList}, WasReady cfg s ifList →
      (k = 0 ∧ IsReply msg) ∨ (k = 1 ∧ msg = openMessage cfg.names) ∨
      ∃ j x ports, k = j + 2 ∧ s.transmitted[j]? = some x ∧ msg = routerFrame x ∧
        x.2.length ≤ maxFrameLen ∧ .hardwareInfo ports ∈ s.sent ∧
        ∃ p ∈ ports, x.1 = p.intf.name := by
    intro ifList hready
    obtain ⟨reply, hreply, hwritten⟩ := hready.written
    obtain ⟨ports, hopening, -, hports⟩ := hready.opening
    rw [hwritten] at hk
    match k with
    | 0 => exact .inl ⟨rfl, Option.some.inj hk ▸ hreply⟩
    | 1 => exact .inr (.inl ⟨rfl, (Option.some.inj hk).symm⟩)
    | j + 2 =>
      rw [List.getElem?_cons_succ, List.getElem?_cons_succ, List.getElem?_map] at hk
      obtain ⟨x, hx, rfl⟩ := Option.map_eq_some_iff.mp hk
      have hmem := List.mem_of_getElem? hx
      obtain ⟨r, rest, hsent⟩ := hopening.messages
      exact .inr (.inr ⟨j, x, ports, rfl, hx, rfl, hready.frames x hmem, by simp [hsent],
        hports x hmem⟩)
  cases h with
  | awaitRequest hclient hread hwritten =>
    rw [hwritten] at hk
    cases hk
  | awaitStatus hclient hread hwritten =>
    obtain ⟨reply, hreply, heq⟩ := hwritten
    have hcases := hbefore ⟨reply, hreply, heq ▸ List.prefix_append _ _⟩
    exact hcases.imp_right .inl
  | accepted hclient hread hwritten =>
    obtain ⟨reply, hreply, heq⟩ := hwritten
    have hcases := hbefore ⟨reply, hreply, heq ▸ List.prefix_refl _⟩
    exact hcases.imp_right .inl
  | ready hclient hready => exact hafter hready
  | failed hclient hwritten => exact (hbefore hwritten).imp_right .inl
  | ended hclient hready => exact hafter hready

/-- The server has taken a message off its stream. -/
def VnsSession.took (s : VnsSession) (rest : List UInt8) : VnsSession :=
  { s with up := rest, taken := s.taken + 1 }

/-- **Replying**: the invariant is kept by a message that is not a frame, and its reply. -/
lemma SessionInv.reply (h : SessionInv cfg s) {rest : List UInt8} {m : ServerMessage}
    (hup : InTransit id rest s.written (s.taken + 1)) (htaken : s.taken < 2)
    (hports : ∀ ports, m = .hardwareInfo ports → s.server.Knows ports)
    (hreplies : ∀ old, Replies cfg s.taken old →
      Replies cfg (s.taken + 1) (old ++ answers [m]))
    (hkept : ¬ 8 + m.body.length < 2 ^ 32 →
      ∀ old, Replies cfg s.taken old → Replies cfg (s.taken + 1) old) :
    SessionInv cfg ((s.took rest).serverSend cfg m) := by
  have htook : LeavesRouter s (s.took rest) := ⟨rfl, rfl, rfl, rfl, rfl, rfl, List.prefix_refl _⟩
  have hleaves := htook.trans (leavesRouter_serverSend cfg (s.took rest) m)
  have hnone : s.transmitted.take (s.taken + 1 - 2) = s.transmitted.take (s.taken - 2) := by
    rw [Nat.sub_eq_zero_of_le htaken, Nat.sub_eq_zero_of_le (Nat.le_of_lt htaken)]
  refine ⟨fun hclient => ?_, ?_, ?_, hleaves.progress h.read_le h.progress, ?_⟩
  · exact inTransit_serverSend (s := s.took rest) _ (h.down (hleaves.client ▸ hclient))
  · rw [hleaves.read]
    exact h.read_le.trans hleaves.sent.length_le
  · exact @ServerSide.serverSend cfg s (s.took rest) h.server rfl rfl _ hports hreplies hkept
  · rcases (s.took rest).serverSend_cases cfg m with ⟨-, heq⟩ | heq
    · rw [heq]
      exact ⟨hup, h.uplink.packetsOut.trans hnone.symm, h.uplink.raised⟩
    · rw [heq]
      exact ⟨hup, h.uplink.packetsOut.trans hnone.symm, h.uplink.raised⟩

/-- The first message after the salt is the router's reply, and no others come with it. -/
lemma Replies.eq_nil {old : List ServerMessage} (h : Replies cfg 0 old) : old = [] := by
  cases h with
  | none => rfl
  | unknown h => omega
  | opened h => omega

/-- Then the router is accepted. -/
lemma Replies.eq_accepted {old : List ServerMessage} (h : Replies cfg 1 old) :
    old = [.authStatus ⟨true, cfg.statusMsg⟩] := by
  cases h with
  | accepted => rfl
  | unknown h => omega
  | opened h => omega

/-- Frames are not replied to. -/
lemma Replies.succ {old : List ServerMessage} {taken : ℕ} (h : Replies cfg taken old)
    (htaken : 2 ≤ taken) : Replies cfg (taken + 1) old := by
  cases h with
  | none => omega
  | accepted => omega
  | unknown h => exact .unknown (Nat.le_succ_of_le h)
  | opened h ports => exact .opened (Nat.le_succ_of_le h) ports

/-! ### What the server does with a message -/

/-- The reply to the salt is answered with the status. -/
lemma react_reply (s : VnsSession) {body : List UInt8} {r : VnsAuthReply}
    (hunpack : VnsAuthReply.unpack body = some r) :
    VnsSession.react cfg s (unpackMessage VnsAuthReply.type body) =
      s.serverSend cfg (.authStatus ⟨true, cfg.statusMsg⟩) := by
  have hmessage : unpackMessage VnsAuthReply.type body = some (.authReply r) :=
    congrArg (Option.map RouterMessage.authReply) hunpack
  rw [hmessage]
  simp [VnsSession.react, SrServer.handleRecvMsg]

/-- The opening is a message that the server unpacks. -/
lemma unpackMessage_open (names : SrNames) :
    ∃ o, unpackMessage VnsOpen.type (openBody names) = some (.opened o) :=
  ⟨_, congrArg (Option.map RouterMessage.opened) (VnsOpen.unpack_openBody names)⟩

/-- The opening is not answered if there are no interfaces. -/
lemma react_open_none (hnone : s.server.interfaces = none) (names : SrNames) :
    VnsSession.react cfg s (unpackMessage VnsOpen.type (openBody names)) = s := by
  obtain ⟨o, ho⟩ := unpackMessage_open names
  rw [ho]
  simp [VnsSession.react, SrServer.handleRecvMsg, hnone]

/-- It is answered with the interfaces. -/
lemma react_open_some {info : List SwitchPort} (hinfo : s.server.interfaces = some info)
    (names : SrNames) : VnsSession.react cfg s (unpackMessage VnsOpen.type (openBody names)) =
      s.serverSend cfg (.hardwareInfo info) := by
  obtain ⟨o, ho⟩ := unpackMessage_open names
  rw [ho]
  simp [VnsSession.react, SrServer.handleRecvMsg, hinfo]

/-- A frame is given to the switch. -/
lemma react_frame {x : IfName × List UInt8} {port : ℕ} (hport : s.server.intfnameToPort x.1 = some port)
    (hunpack : VnsPacket.unpack (padded 16 x.1 ++ x.2) = some ⟨x.1, x.2⟩) :
    VnsSession.react cfg s (unpackMessage VnsPacket.type (padded 16 x.1 ++ x.2)) =
      { s with packetsOut := s.packetsOut ++ [⟨x.1, x.2, port⟩] } := by
  have hmessage : unpackMessage VnsPacket.type (padded 16 x.1 ++ x.2) = some (.packet ⟨x.1, x.2⟩) :=
    congrArg (Option.map RouterMessage.packet) hunpack
  rw [hmessage]
  simp [VnsSession.react, SrServer.handleRecvMsg, hport]

/-- The status can be sent. -/
lemma SessionConfig.fits_status (cfg : SessionConfig) :
    8 + (ServerMessage.authStatus ⟨true, cfg.statusMsg⟩).body.length < 2 ^ 32 := by
  have hlength : (ServerMessage.authStatus ⟨true, cfg.statusMsg⟩).body.length =
      cfg.statusMsg.length + 1 := rfl
  have hmsg := cfg.length_statusMsg
  omega

section Receive

variable {rest : List UInt8}

/-- The reply keeps the invariant. -/
lemma SessionInv.receiveReply (h : SessionInv cfg s) (hk : s.taken = 0)
    (hrest : InTransit id rest s.written (s.taken + 1)) {body : List UInt8} {r : VnsAuthReply}
    (hunpack : VnsAuthReply.unpack body = some r) :
    SessionInv cfg (VnsSession.react cfg (s.took rest) (unpackMessage VnsAuthReply.type body)) := by
  rw [react_reply _ hunpack]
  refine h.reply hrest (by omega) (fun ports hports => by cases hports) (fun old hold => ?_)
    fun hlong => absurd cfg.fits_status hlong
  rw [hk] at hold ⊢
  rw [hold.eq_nil]
  exact .accepted

/-- So does the opening. -/
lemma SessionInv.receiveOpen (h : SessionInv cfg s) (hk : s.taken = 1)
    (hrest : InTransit id rest s.written (s.taken + 1)) :
    SessionInv cfg
      (VnsSession.react cfg (s.took rest) (unpackMessage VnsOpen.type (openBody cfg.names))) := by
  have hold : ∀ {old}, Replies cfg s.taken old → old = [.authStatus ⟨true, cfg.statusMsg⟩] :=
    fun hold => Replies.eq_accepted (hk ▸ hold)
  cases hinterfaces : s.server.interfaces with
  | none =>
    rw [react_open_none (s := s.took rest) hinterfaces]
    refine ⟨h.down, h.read_le, h.server.answered rfl rfl fun old h' => ?_,
      LeavesRouter.progress (s := s) ⟨rfl, rfl, rfl, rfl, rfl, rfl, List.prefix_refl _⟩ h.read_le
        h.progress, hrest, h.uplink.packetsOut.trans ?_, h.uplink.raised⟩
    · obtain rfl := hold h'
      exact .unknown (by simp [VnsSession.took, hk])
    · simp [VnsSession.took, hk]
  | some info =>
    rw [react_open_some (s := s.took rest) hinterfaces]
    refine h.reply hrest (by omega) (fun ports hports => ?_) (fun old h' => ?_) fun _ old h' => ?_
    · cases hports
      exact h.server.interfaces info hinterfaces
    · obtain rfl := hold h'
      exact .opened (by omega) info
    · obtain rfl := hold h'
      exact .unknown (by omega)

/-- And so does a frame. -/
lemma SessionInv.receiveFrame (h : SessionInv cfg s) (htwo : 2 ≤ s.taken)
    (hrest : InTransit id rest s.written (s.taken + 1)) {x : IfName × List UInt8}
    (hx : s.transmitted[s.taken - 2]? = some x) {port : ℕ}
    (hport : s.server.intfnameToPort x.1 = some port)
    (hunpack : VnsPacket.unpack (padded 16 x.1 ++ x.2) = some ⟨x.1, x.2⟩) :
    SessionInv cfg
      (VnsSession.react cfg (s.took rest) (unpackMessage VnsPacket.type (padded 16 x.1 ++ x.2))) := by
  rw [react_frame (s := s.took rest) hport hunpack]
  refine ⟨h.down, h.read_le, h.server.answered rfl rfl fun old hold => hold.succ htwo,
    LeavesRouter.progress (s := s) ⟨rfl, rfl, rfl, rfl, rfl, rfl, List.prefix_refl _⟩ h.read_le
      h.progress, hrest, ?_, h.uplink.raised⟩
  have hnext : s.taken + 1 - 2 = s.taken - 2 + 1 := by omega
  change (s.packetsOut ++ [SrPacketOut.mk x.1 x.2 port]).map _ = s.transmitted.take (s.taken + 1 - 2)
  rw [List.map_append, h.uplink.packetsOut, hnext, List.take_add_one, hx]
  rfl

/-- The next message of the router is received, and is a reply, the opening or a frame. -/
inductive NextReceived (cfg : SessionConfig) (s : VnsSession) : ℕ → List UInt8 → Prop
  /-- The reply to the salt. -/
  | reply {body : List UInt8} {r : VnsAuthReply} (hk : s.taken = 0)
      (hunpack : VnsAuthReply.unpack body = some r) : NextReceived cfg s VnsAuthReply.type body
  /-- The opening. -/
  | opened (hk : s.taken = 1) : NextReceived cfg s VnsOpen.type (openBody cfg.names)
  /-- A frame. -/
  | frame {x : IfName × List UInt8} {port : ℕ} (hk : 2 ≤ s.taken)
      (hx : s.transmitted[s.taken - 2]? = some x) (hport : s.server.intfnameToPort x.1 = some port)
      (hunpack : VnsPacket.unpack (padded 16 x.1 ++ x.2) = some ⟨x.1, x.2⟩) :
      NextReceived cfg s VnsPacket.type (padded 16 x.1 ++ x.2)

/-- What the router has written is received, if it has not been yet. -/
lemma SessionInv.next_received (h : SessionInv cfg s) {msg : List UInt8}
    (hmsg : s.written[s.taken]? = some msg) : ∃ type body rest,
      cfg.lt.receive s.up = some ((type, body), rest) ∧
        InTransit id rest s.written (s.taken + 1) ∧ NextReceived cfg s type body := by
  obtain ⟨rest, hup, hrest⟩ := h.uplink.up.next hmsg
  have hreceive : ∀ {type body}, msg = vnsFrame type body → type < 2 ^ 32 →
      8 + body.length < 2 ^ 32 → cfg.lt.receive s.up = some ((type, body), rest) := by
    intro type body heq htype hfits
    rw [hup, id, heq]
    exact cfg.lt.receive_eq rest htype hfits
  obtain ⟨hk, body, r, heq, hfits, hunpack⟩ | ⟨hk, hopen⟩ |
    ⟨j, x, ports, hk, hx, heq, hshort, hhardware, p, hp, hname⟩ := h.progress.written_at hmsg
  · exact ⟨_, _, rest, hreceive heq (by decide) hfits, hrest, .reply hk hunpack⟩
  · have hfits : 8 + (openBody cfg.names).length < 2 ^ 32 := by
      rw [length_openBody]
      decide
    exact ⟨_, _, rest, hreceive (hopen.trans (openMessage_eq cfg.names)) (by decide) hfits, hrest,
      .opened hk⟩
  · have hfits : 8 + (padded 16 x.1 ++ x.2).length < 2 ^ 32 := by
      rw [List.length_append, length_padded]
      rw [maxFrameLen] at hshort
      omega
    obtain ⟨port, hport⟩ := Option.isSome_iff_exists.mp (h.server.sentPorts ports hhardware p hp)
    refine ⟨_, _, rest, hreceive heq (by decide) hfits, hrest,
      .frame (hk ▸ Nat.le_add_left 2 j) ?_ (hname ▸ hport)
        (VnsPacket.unpack_padded (hname ▸ p.name_notMem) (hname ▸ Nat.le_succ_of_le p.length_name))⟩
    rw [hk]
    exact hx

/-- **What the server receives** keeps the invariant. -/
lemma SessionInv.receive (h : SessionInv cfg s) {type : ℕ} {body : List UInt8}
    (hreceive : cfg.lt.receive s.up = some ((type, body), rest)) :
    SessionInv cfg (VnsSession.react cfg (s.took rest) (unpackMessage type body)) := by
  obtain ⟨hup, -⟩ | ⟨msg, hmsg⟩ := h.uplink.up.all_or_next
  · rw [hup, cfg.lt.receive_nil] at hreceive
    cases hreceive
  obtain ⟨type', body', rest', hreceive', hrest, hnext⟩ := h.next_received hmsg
  rw [hreceive] at hreceive'
  cases hreceive'
  cases hnext with
  | reply hk hunpack => exact h.receiveReply hk hrest hunpack
  | opened hk => exact h.receiveOpen hk hrest
  | frame hk hx hport hunpack => exact h.receiveFrame hk hrest hx hport hunpack

end Receive

end Server

/-! ### The messages on the way to the router -/

section Messages

variable {cfg : SessionConfig} {s : VnsSession} {sent : List ServerMessage} {m : ServerMessage}

/-- The status says that the router is accepted. -/
lemma Replies.status {taken : ℕ} {old : List ServerMessage} (h : Replies cfg taken old)
    {st : VnsAuthStatus} (hmem : .authStatus st ∈ old) : st = ⟨true, cfg.statusMsg⟩ := by
  cases h <;> simp_all

/-- After the status there is one more reply at most. -/
lemma Replies.after_status {taken : ℕ} {old : List ServerMessage} {st : VnsAuthStatus}
    (h : Replies cfg taken (.authStatus st :: old)) : old = [] ∨ ∃ ports, old = [.hardwareInfo ports] := by
  cases h with
  | accepted => exact .inl rfl
  | unknown h => exact .inl rfl
  | opened h ports => exact .inr ⟨ports, rfl⟩

/-- The second message is the status, or no status. -/
lemma ServerSide.second (h : ServerSide cfg s) (hm : s.sent[1]? = some m) :
    m = .authStatus ⟨true, cfg.statusMsg⟩ ∨ ∀ st, m ≠ .authStatus st := by
  obtain ⟨r, tail, heq, -, hreplies⟩ := h.replies
  rw [heq, List.getElem?_cons_succ] at hm
  by_cases hst : ∃ st, m = .authStatus st
  · obtain ⟨st, rfl⟩ := hst
    have hmem := mem_answers (List.mem_of_getElem? hm) rfl
    exact .inl (congrArg ServerMessage.authStatus (hreplies.status hmem))
  · exact .inr fun st hst' => hst ⟨st, hst'⟩

/-- After the status come the interfaces, once at most, and packets. -/
lemma ServerSide.after_status (h : ServerSide cfg s) {st : VnsAuthStatus}
    (hsecond : s.sent[1]? = some (.authStatus st)) : ∃ r rest,
      s.sent = .authRequest r :: .authStatus st :: rest ∧
        (answers rest = [] ∨ ∃ ports, answers rest = [.hardwareInfo ports]) := by
  obtain ⟨r, tail, heq, -, hreplies⟩ := h.replies
  rw [heq, List.getElem?_cons_succ] at hsecond
  cases tail with
  | nil => cases hsecond
  | cons m rest =>
    obtain rfl := Option.some.inj hsecond
    exact ⟨r, rest, heq, @Replies.after_status cfg _ (answers rest) st hreplies⟩

/-- A message with a frame is a packet. -/
lemma packet_of_broadcast (h : ¬ m.broadcast.isNone = true) : ∃ name frame, m = .packet name frame := by
  cases m with
  | packet name frame => exact ⟨name, frame, rfl⟩
  | _ => exact absurd rfl h

/-- The third message, if the second is the status. -/
lemma ServerSide.third (h : ServerSide cfg s) {st : VnsAuthStatus}
    (hsecond : s.sent[1]? = some (.authStatus st)) (hm : s.sent[2]? = some m) :
    (∃ ports, m = .hardwareInfo ports) ∨ ∃ name frame, m = .packet name frame := by
  obtain ⟨r, rest, heq, hreplies⟩ := h.after_status hsecond
  rw [heq, List.getElem?_cons_succ, List.getElem?_cons_succ] at hm
  by_cases hframe : m.broadcast.isNone = true
  · have hmem := mem_answers (List.mem_of_getElem? hm) hframe
    rcases hreplies with hnil | ⟨ports, hports⟩
    · rw [hnil] at hmem
      cases hmem
    · rw [hports] at hmem
      exact .inl ⟨ports, List.mem_singleton.mp hmem⟩
  · exact .inr (packet_of_broadcast hframe)

/-- All others are packets. -/
lemma ServerSide.later (h : ServerSide cfg s) {ports : List SwitchPort}
    (hopening : Opening cfg s.sent ports) {k : ℕ} (hk : 3 ≤ k) (hm : s.sent[k]? = some m) :
    ∃ name frame, m = .packet name frame := by
  obtain ⟨r, rest, heq⟩ := hopening.messages
  have hsecond : s.sent[1]? = some (.authStatus ⟨true, cfg.statusMsg⟩) := by
    rw [heq]
    rfl
  obtain ⟨r', rest', heq', hreplies⟩ := h.after_status hsecond
  obtain ⟨rfl, -, rfl⟩ : r = r' ∧ True ∧ .hardwareInfo ports :: rest = rest' := by
    rw [heq] at heq'
    simpa using heq'
  have hcons : answers (.hardwareInfo ports :: rest) = .hardwareInfo ports :: answers rest := rfl
  rw [hcons] at hreplies
  obtain ⟨j, rfl⟩ := Nat.exists_eq_add_of_le' hk
  rw [heq, List.getElem?_cons_succ, List.getElem?_cons_succ, List.getElem?_cons_succ] at hm
  refine packet_of_broadcast fun hframe => ?_
  have hmem := mem_answers (List.mem_of_getElem? hm) hframe
  rcases hreplies with hnil | ⟨ports', hports'⟩
  · cases hnil
  · rw [(List.cons.inj hports').2] at hmem
    cases hmem

/-- What was sent stays first. -/
lemma getElem?_append_of_some {k : ℕ} (hm : sent[k]? = some m) (more : List ServerMessage) :
    (sent ++ more)[k]? = some m :=
  (List.getElem?_append_left (List.getElem?_eq_some_iff.mp hm).1).trans hm

/-- Without the status there is no opening. -/
lemma noOpening_of_second (hm : sent[1]? = some m) (hst : ∀ st, m ≠ .authStatus st) :
    NoOpening cfg sent := by
  intro more ports hopening
  obtain ⟨r, rest, heq⟩ := hopening.messages
  have hsecond := getElem?_append_of_some hm more
  rw [heq] at hsecond
  exact hst _ (Option.some.inj hsecond).symm

/-- Without usable interfaces there is none. -/
lemma noOpening_of_third (hm : sent[2]? = some m)
    (hports : ∀ ports, m = .hardwareInfo ports →
      ¬ (ports.length ≤ 46 ∧ UsablePorts ports cfg.start.cfg.routingTable)) :
    NoOpening cfg sent := by
  intro more ports hopening
  obtain ⟨r, rest, heq⟩ := hopening.messages
  have hthird := getElem?_append_of_some hm more
  rw [heq] at hthird
  exact hports ports (Option.some.inj hthird).symm ⟨hopening.short, hopening.usable⟩

/-- The length of a hardware message. -/
lemma length_hardwareInfo (ports : List SwitchPort) :
    (ServerMessage.hardwareInfo ports).body.length = 216 * ports.length := by
  rw [ServerMessage.body, ServerMessage.pack, VnsHardwareInfo.pack_eq, Option.getD_some,
    length_entries, List.length_map]

end Messages

end NatRouter
