import NatRouter.Vns.SessionReads

/-!
# What holds in a session

The router and the server keep in step by what they have sent: the server sends one reply for each
message of the opening, and how far the router is depends on which messages it has read.  The
invariant says this of both (`Replies`, `Progress`), and of what the server has received
(`Uplink`).
-/

namespace NatRouter

open ByteMemory StructPack MessageStream Relation

/-! ### Frames of the router -/

/-- The message for a frame. -/
def routerFrame (x : IfName × List UInt8) : List UInt8 :=
  vnsFrame VnsPacket.type (padded 16 x.1 ++ x.2)

/-- What is written for a frame that is accepted. -/
lemma srSendPacketWrites_eq {cfg : NetConfig} {junk : ByteMem} {name frame : List UInt8}
    (hframe : frame.length + 24 < 2 ^ 32) :
    srSendPacketWrites cfg junk frame name =
      if srSendPacketAccepts cfg frame name then some (routerFrame (name, frame)) else none := by
  have htotal : (UInt32.ofNat (frame.length + sizeofPacketHeader)).toNat = frame.length + 24 :=
    UInt32.toNat_ofNat_of_lt' hframe
  have hlength : 8 + (padded 16 name ++ frame).length = frame.length + sizeofPacketHeader := by
    rw [List.length_append, length_padded, sizeofPacketHeader]
    omega
  have hbytes : bytes (packetMessage junk frame name) (frame.length + 24) =
      routerFrame (name, frame) := by
    have hholds := packetMessage_holds junk frame name
    rw [List.append_assoc, ← hlength] at hholds
    have hread := holds_iff_bytes.mp hholds
    have hsize : (vnsFrame VnsPacket.type (padded 16 name ++ frame)).length = frame.length + 24 := by
      rw [length_vnsFrame, hlength]
      rfl
    rw [← hsize]
    exact hread
  rw [srSendPacketWrites, htotal, hbytes]

/-- An accepted frame leaves through one of the interfaces. -/
lemma interface_of_accepted {cfg : NetConfig} {frame : List UInt8} {iface : IfName}
    (h : srSendPacketAccepts cfg frame iface = true) : stopsAtInterface iface cfg.ifList = true := by
  rw [srSendPacketAccepts, decide_eq_true_iff] at h
  have hmatch := h.2
  unfold srEtherAddrsMatchInterface at hmatch
  split at hmatch
  · rename_i i hi
    exact stopsAtInterface_iff.mpr ⟨i, hi⟩
  · cases hmatch

/-- A short name is the same only as itself. -/
lemma eq_of_sameIfName {name iface : IfName} (hname : name.length ≤ 15)
    (h : sameIfName name iface = true) : iface = name := by
  rw [sameIfName, decide_eq_true_iff, List.take_of_length_le (by omega)] at h
  have hlength : (iface.take 32).length ≤ 15 := by rwa [← h]
  rw [List.length_take] at hlength
  rw [h, List.take_of_length_le (by omega)]

section Events

variable {cfg : NetConfig} {events : List RouterEvent}

/-- **What is written** are the frames that are accepted, message by message. -/
lemma packetWrites_eq
    (hshort : ∀ origin frame iface, RouterEvent.send origin frame iface ∈ events →
      frame.length ≤ maxFrameLen) :
    packetWrites cfg events = (acceptedFrames cfg events).map routerFrame := by
  induction events with
  | nil => rfl
  | cons e events ih =>
    have hrest := ih fun origin frame iface h => hshort origin frame iface (List.mem_cons_of_mem e h)
    unfold packetWrites acceptedFrames at hrest ⊢
    cases e with
    | send origin frame iface =>
      have hframe : frame.length + 24 < 2 ^ 32 :=
        lt_of_le_of_lt (Nat.add_le_add_right (hshort origin frame iface List.mem_cons_self) 24)
          (by decide)
      simp only [List.filterMap_cons, srSendPacketWrites_eq hframe]
      split_ifs with haccepted
      · rw [List.map_cons, hrest]
      · exact hrest
    | _ => simpa only [List.filterMap_cons] using hrest

/-- Without interfaces no frame is accepted. -/
lemma acceptedFrames_none (hnone : cfg.ifList = []) : acceptedFrames cfg events = [] := by
  refine List.filterMap_eq_nil_iff.mpr fun e he => ?_
  cases e with
  | send origin frame iface =>
    refine if_neg fun haccepted => ?_
    have hstops := interface_of_accepted haccepted
    rw [hnone] at hstops
    cases hstops
  | _ => rfl

/-- An accepted frame names a port of the switch. -/
lemma port_of_acceptedFrames {ports : List SwitchPort}
    (hsame : List.Forall₂ SameInterface (ports.map SwitchPort.intf) cfg.ifList)
    {x : IfName × List UInt8} (hx : x ∈ acceptedFrames cfg events) :
    ∃ p ∈ ports, x.1 = p.intf.name := by
  obtain ⟨e, -, he⟩ := List.mem_filterMap.mp hx
  cases e with
  | send origin frame iface =>
    dsimp only at he
    split_ifs at he with haccepted
    cases he
    obtain ⟨p, hp, hpname⟩ :=
      (stopsAtInterface_of_same hsame iface).mp (interface_of_accepted haccepted)
    exact ⟨p, hp, eq_of_sameIfName p.length_name hpname⟩
  | _ => cases he

end Events

/-! ### Steps of the router -/

/-- What the router does while nothing is read: frames are sent, and its NAT changes. -/
def Emits (sr sr' : SrInstance) : Prop :=
  ∃ nat, Emissions FitsFrame (fun _ _ => True) { sr with nat := nat } sr'

/-- A frame that is not too long is handled. -/
lemma emits_handleFrame {ctx : Surroundings} {sr sr' : SrInstance} {now : Time} {packet : ByteMem}
    {len : UInt32} {interface : IfName} (hlen : len.toNat ≤ maxFrameLen)
    (h : handleFrame ctx sr now packet len interface = .ok sr') : Emits sr sr' := by
  unfold handleFrame at h
  split at h
  · cases h
  · rename_i action nat hrun
    refine ⟨nat, ?_⟩
    cases action with
    | drop =>
      obtain rfl := Except.ok.inj h
      exact .refl
    | arp packet => exact emissions_srHandleArp h fun _ _ => trivial
    | ip action =>
      refine emissions_perform (fun _ => fitsFrame_of_isMessageLen) ?_ h
      rwa [FitsFrame, frameLen_frameLoadLen]

/-- A sweep is done. -/
lemma emits_sweep {sr sr' : SrInstance} {t t' : Trace} (h : RouterEnv (sr, t) (sr', t')) :
    Emits sr sr' := by
  cases h with
  | @nat _ _ _ ctx curtime nat' reported hsweep hsend =>
    exact ⟨nat', emissions_sendReported (fun _ => fitsFrame_of_isMessageLen) hsend⟩
  | arp h => exact ⟨sr.nat, emissions_srArpcacheTimeout (fun _ => fitsFrame_of_isMessageLen) h⟩

section Emits

variable {sr sr' : SrInstance}

/-- The interfaces and routes stay. -/
lemma Emits.cfg (h : Emits sr sr') : sr'.cfg = sr.cfg := by
  obtain ⟨nat, h⟩ := h
  exact h.invariant (fun _ _ hI he => he.cfg.trans hI) rfl

/-- The log grows. -/
lemma Emits.log (h : Emits sr sr') : sr'.log = sr.log ++ sr.newEvents sr' := by
  obtain ⟨nat, h⟩ := h
  have hprefix : sr.log <+: sr'.log :=
    h.invariant (I := fun x => sr.log <+: x.log) (fun _ _ hI he => hI.trans he.log_prefix)
      (List.prefix_refl _)
  exact (List.prefix_iff_eq_append.mp hprefix).symm

/-- The frames stay short. -/
lemma Emits.short (h : Emits sr sr') (hshort : ShortFrames sr) : ShortFrames sr' := by
  obtain ⟨nat, h⟩ := h
  have hstart : ShortFrames { sr with nat := nat } := ⟨hshort.frames, hshort.waiting⟩
  exact hstart.emissions h

/-- What is written are the frames that are accepted. -/
lemma Emits.packetWrites (h : Emits sr sr') (hshort : ShortFrames sr) :
    packetWrites sr'.cfg (sr.newEvents sr') =
      (acceptedFrames sr'.cfg (sr.newEvents sr')).map routerFrame := by
  refine packetWrites_eq fun origin frame iface hmem => ?_
  refine (h.short hshort).frames origin frame iface ?_
  rw [h.log]
  exact List.mem_append_right _ hmem

/-- The router starts with short frames. -/
lemma SessionConfig.short_start (cfg : SessionConfig) : ShortFrames cfg.start where
  frames origin frame iface hmem := by
    rw [cfg.log_start] at hmem
    cases hmem
  waiting w hw := by
    rw [cfg.cache_start, waiting_srArpcacheInit] at hw
    exact absurd hw (Multiset.notMem_zero w)

end Emits

/-! ### What is sent and written -/

/-- The frame in a message of the server. -/
def ServerMessage.broadcast : ServerMessage → Option (IfName × List UInt8)
  | .packet intfName ethernetFrame => some (intfName.name, ethernetFrame)
  | _ => none

/-- The frames that the server has sent, each with its interface. -/
def broadcasts (sent : List ServerMessage) : List (IfName × List UInt8) :=
  sent.filterMap ServerMessage.broadcast

/-- The messages without a frame. -/
def answers (sent : List ServerMessage) : List ServerMessage :=
  sent.filter fun m => m.broadcast.isNone

lemma mem_answers {sent : List ServerMessage} {m : ServerMessage} (hm : m ∈ sent)
    (hframe : m.broadcast.isNone = true) : m ∈ answers sent :=
  List.mem_filter.mpr ⟨hm, hframe⟩

/-- The server's replies to as many messages as it has received, after the salt. -/
inductive Replies (cfg : SessionConfig) : ℕ → List ServerMessage → Prop
  /-- It has not received any. -/
  | none : Replies cfg 0 []
  /-- It has accepted the router. -/
  | accepted : Replies cfg 1 [.authStatus ⟨true, cfg.statusMsg⟩]
  /-- It did not know of any interfaces when it received `VNS_OPEN`. -/
  | unknown {taken : ℕ} (h : 2 ≤ taken) : Replies cfg taken [.authStatus ⟨true, cfg.statusMsg⟩]
  /-- It has sent its interfaces. -/
  | opened {taken : ℕ} (h : 2 ≤ taken) (ports : List SwitchPort) :
      Replies cfg taken [.authStatus ⟨true, cfg.statusMsg⟩, .hardwareInfo ports]

/-- The first messages are those that make a router ready, and their interfaces are usable. -/
structure Opening (cfg : SessionConfig) (sent : List ServerMessage) (ports : List SwitchPort) :
    Prop where
  /-- The first three messages. -/
  messages : ∃ r rest, sent =
    .authRequest r :: .authStatus ⟨true, cfg.statusMsg⟩ :: .hardwareInfo ports :: rest
  /-- The router accepts the third. -/
  short : ports.length ≤ 46
  /-- The routing table can do with the interfaces. -/
  usable : UsablePorts ports cfg.start.cfg.routingTable

/-- More is sent. -/
lemma Opening.append {cfg : SessionConfig} {sent : List ServerMessage} {ports : List SwitchPort}
    (h : Opening cfg sent ports) (more : List ServerMessage) : Opening cfg (sent ++ more) ports := by
  obtain ⟨r, rest, rfl⟩ := h.messages
  exact ⟨⟨r, rest ++ more, rfl⟩, h.short, h.usable⟩

/-- Nothing that is sent now makes the first messages an opening. -/
def NoOpening (cfg : SessionConfig) (sent : List ServerMessage) : Prop :=
  ∀ more ports, ¬ Opening cfg (sent ++ more) ports

/-- More is sent. -/
lemma NoOpening.append {cfg : SessionConfig} {sent : List ServerMessage} (h : NoOpening cfg sent)
    (more : List ServerMessage) : NoOpening cfg (sent ++ more) := by
  intro more' ports
  rw [List.append_assoc]
  exact h (more ++ more') ports

/-! ### The invariant -/

/-- The server knows the ports of some interfaces. -/
def SrServer.Knows (server : SrServer) (ports : List SwitchPort) : Prop :=
  ∀ p ∈ ports, (server.intfnameToPort p.intf.name).isSome

/-- What the server has sent. -/
structure ServerSide (cfg : SessionConfig) (s : VnsSession) : Prop where
  /-- The first message, and the replies among the others. -/
  replies : ∃ r tail, s.sent = .authRequest r :: tail ∧ r.salt.length = 20 ∧
    Replies cfg s.taken (answers tail)
  /-- The prefix of each message holds its length. -/
  fits : ∀ m ∈ s.sent, 8 + m.body.length < 2 ^ 32
  /-- The interfaces it will send have ports. -/
  interfaces : ∀ info, s.server.interfaces = some info → s.server.Knows info
  /-- So do those it has sent. -/
  sentPorts : ∀ ports, .hardwareInfo ports ∈ s.sent → s.server.Knows ports

/-- The router is not ready. -/
structure NotReady (s : VnsSession) : Prop where
  /-- Nothing has been said of it. -/
  ready : s.ready = none
  /-- No frames were transmitted. -/
  transmitted : s.transmitted = []

/-- The router was ready with some interfaces. -/
structure WasReady (cfg : SessionConfig) (s : VnsSession) (ifList : List SrIf) : Prop where
  /-- It has read the opening. -/
  read : 3 ≤ s.read
  /-- It was told so. -/
  ready : s.ready = some ifList
  /-- The interfaces are those of the opening, and frames are transmitted through them only. -/
  opening : ∃ ports, Opening cfg s.sent ports ∧
    List.Forall₂ SameInterface (ports.map SwitchPort.intf) ifList ∧
    ∀ x ∈ s.transmitted, ∃ p ∈ ports, x.1 = p.intf.name
  /-- It has written its part of the opening, and then frames. -/
  written : ∃ reply, IsReply reply ∧
    s.written = reply :: openMessage cfg.names :: s.transmitted.map routerFrame
  /-- The frames are short. -/
  frames : ∀ x ∈ s.transmitted, x.2.length ≤ maxFrameLen

/-- How far the router is. -/
inductive Progress (cfg : SessionConfig) (s : VnsSession) : Prop
  /-- It has read nothing. -/
  | awaitRequest (hclient : s.client = .awaitRequest) (hread : s.read = 0) (hwritten : s.written = [])
      (hnot : NotReady s) (hhanded : s.handed = [])
  /-- It has read the salt. -/
  | awaitStatus (hclient : s.client = .awaitStatus) (hread : s.read = 1)
      (hwritten : ∃ reply, IsReply reply ∧ s.written = [reply]) (hnot : NotReady s)
      (hhanded : s.handed = [])
  /-- It is accepted. -/
  | accepted {sr : SrInstance} (hclient : s.client = .running sr) (hread : s.read = 2)
      (hwritten : ∃ reply, IsReply reply ∧ s.written = [reply, openMessage cfg.names])
      (hnot : NotReady s) (hhanded : s.handed = [])
      (hsecond : s.sent[1]? = some (.authStatus ⟨true, cfg.statusMsg⟩))
      (hcfg : sr.cfg = cfg.start.cfg) (hshort : ShortFrames sr)
  /-- It has interfaces. -/
  | ready {sr : SrInstance} {ifList : List SrIf} (hclient : s.client = .running sr)
      (hready : WasReady cfg s ifList) (hcfg : sr.cfg = { cfg.start.cfg with ifList := ifList })
      (hshort : ShortFrames sr) (hhanded : s.handed = broadcasts (s.sent.take s.read))
  /-- It has ended before it had any. -/
  | failed (hclient : s.client = .stopped)
      (hwritten : ∃ reply, IsReply reply ∧ s.written <+: [reply, openMessage cfg.names])
      (hnot : NotReady s) (hno : NoOpening cfg s.sent)
      (hhanded : s.handed <+: broadcasts (s.sent.take s.read))
  /-- It has ended. -/
  | ended {ifList : List SrIf} (hclient : s.client = .stopped) (hready : WasReady cfg s ifList)
      (hhanded : s.handed <+: broadcasts (s.sent.take s.read))

/-- What the server has received. -/
structure Uplink (s : VnsSession) : Prop where
  /-- The others are on their way. -/
  up : InTransit id s.up s.written s.taken
  /-- The frames. -/
  packetsOut : s.packetsOut.map (fun o => (o.intfName, o.pkt)) = s.transmitted.take (s.taken - 2)
  /-- There was no exception. -/
  raised : s.raised = false

/-- The invariant of a session. -/
structure SessionInv (cfg : SessionConfig) (s : VnsSession) : Prop where
  /-- What the router has not read is on its way. -/
  down : s.client ≠ .stopped → InTransit ServerMessage.frame s.down s.sent s.read
  /-- What was read was sent. -/
  read_le : s.read ≤ s.sent.length
  /-- The server. -/
  server : ServerSide cfg s
  /-- The router. -/
  progress : Progress cfg s
  /-- The way back. -/
  uplink : Uplink s

end NatRouter
