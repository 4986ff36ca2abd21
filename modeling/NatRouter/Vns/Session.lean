import NatRouter.Lib.MessageStream
import NatRouter.Router.FrameLengths
import NatRouter.Router.Stations
import NatRouter.Vns.Opening
import NatRouter.Vns.VerifiedRoutes

/-!
# A session (`main`, `srhandler.py`)

The server sends a salt to a router that connects.  The router authenticates itself, waits to be told
that it is accepted, and sends `VNS_OPEN`; then it is in its main loop, and gets the interfaces there.
The server is driven by three kinds of events: a message of the router, the info about the switch, and
a packet from the switch, which it sends on to all routers that are connected, in whatever state these
are.

The two parties and what is on the connection between them are one state, and a step is a step of
either of them.  The state has records beside it, which no step reads: what was sent, and how much of
it has been received.  One connection is followed, without a template.  What a router has sent when it
stops at a fault is not followed.
-/

namespace NatRouter

open ByteMemory StructPack MessageStream Relation

/-! ### `SRServerListener` -/

/-- A name of an interface of the switch, which is a string of at most 15 bytes. -/
structure PortName where
  /-- The name. -/
  name : List UInt8
  /-- It is a string. -/
  name_notMem : 0 ∉ name
  /-- It is short. -/
  length_name : name.length ≤ 15

/-- An interface in the event `RouterInfo`. -/
structure SwitchPort where
  /-- The interface, as it is packed. -/
  intf : VnsInterface
  /-- Its port. -/
  port : ℕ
  /-- Its name is a string. -/
  name_notMem : 0 ∉ intf.name
  /-- It is short. -/
  length_name : intf.name.length ≤ 15

/-- The name of a port. -/
def SwitchPort.portName (p : SwitchPort) : PortName := ⟨p.intf.name, p.name_notMem, p.length_name⟩

/-- `SRServerListener`. -/
structure SrServer where
  /-- `intfname_to_port`. -/
  intfnameToPort : List UInt8 → Option ℕ
  /-- `port_to_intfname`. -/
  portToIntfname : ℕ → Option PortName
  /-- `interfaces`, which is not there to begin with. -/
  interfaces : Option (List SwitchPort)

/-- `SRServerListener.__init__`. -/
def srServerInit : SrServer := ⟨fun _ => none, fun _ => none, none⟩

/-- The body of the loop of `_handle_RouterInfo`. -/
def SrServer.addPort (server : SrServer) (p : SwitchPort) : SrServer :=
  { server with
    intfnameToPort := Function.update server.intfnameToPort p.intf.name (some p.port)
    portToIntfname := Function.update server.portToIntfname p.port (some p.portName) }

/-- `_handle_RouterInfo`. -/
def SrServer.handleRouterInfo (server : SrServer) (info : List SwitchPort) : SrServer :=
  { info.foldl SrServer.addPort server with interfaces := some info }

/-- A message of the server. -/
inductive ServerMessage where
  /-- `VNSAuthRequest`. -/
  | authRequest (r : VnsAuthRequest)
  /-- `VNSAuthStatus`. -/
  | authStatus (s : VnsAuthStatus)
  /-- `VNSHardwareInfo`. -/
  | hardwareInfo (interfaces : List SwitchPort)
  /-- `VNSPacket`. -/
  | packet (intfName : PortName) (ethernetFrame : List UInt8)

/-- `get_type()`. -/
def ServerMessage.type : ServerMessage → ℕ
  | .authRequest _ => VnsAuthRequest.type
  | .authStatus _ => VnsAuthStatus.type
  | .hardwareInfo _ => VnsHardwareInfo.type
  | .packet .. => VnsPacket.type

/-- `pack`. -/
def ServerMessage.pack : ServerMessage → Option (List UInt8)
  | .authRequest r => some r.pack
  | .authStatus s => some s.pack
  | .hardwareInfo interfaces => VnsHardwareInfo.pack ⟨interfaces.map SwitchPort.intf⟩
  | .packet intfName ethernetFrame => VnsPacket.pack ⟨intfName.name, ethernetFrame⟩

/-- A message of the router, as the server unpacks it. -/
inductive RouterMessage where
  /-- `VNSAuthReply`. -/
  | authReply (r : VnsAuthReply)
  /-- `VNSOpen`. -/
  | opened (o : VnsOpen)
  /-- `VNSPacket`. -/
  | packet (p : VnsPacket)

/-- The message of a type and a body, if it is one of those that a router without a template sends. -/
def unpackMessage (type : ℕ) (body : List UInt8) : Option RouterMessage :=
  match type with
  | 256 => (VnsAuthReply.unpack body).map .authReply
  | 1 => (VnsOpen.unpack body).map .opened
  | 4 => (VnsPacket.unpack body).map .packet
  | _ => none

/-- `SRPacketOut`, with the name of the interface. -/
structure SrPacketOut where
  /-- The interface. -/
  intfName : List UInt8
  /-- The packet. -/
  pkt : List UInt8
  /-- The port it is to leave through. -/
  port : ℕ

/-- `_handle_recv_msg`: what is sent back and what event is raised; nothing stands for an exception,
which `_handle_packet_msg` runs into for an interface it does not know. -/
def SrServer.handleRecvMsg (statusMsg : List UInt8) (server : SrServer) :
    RouterMessage → Option (Option ServerMessage × Option SrPacketOut)
  | .authReply _ => some (some (.authStatus ⟨true, statusMsg⟩), none)
  | .opened _ => some (server.interfaces.map .hardwareInfo, none)
  | .packet p => (server.intfnameToPort p.intfName).map fun port =>
    (none, some ⟨p.intfName, p.ethernetFrame, port⟩)

/-! ### The configuration -/

/-- `LTProtocol` on a connection, at both of its ends: what can be sent, and what is received. -/
structure VnsConnection extends LtProtocol where
  /-- A message can be sent if its length fits into its prefix. -/
  frame_isSome : ∀ {type : ℕ} {body : List UInt8}, type < 2 ^ 32 → 8 + body.length < 2 ^ 32 →
    (frame type body).isSome
  /-- The type and the body of the message that is first on a stream, and what is behind it. -/
  receive : List UInt8 → Option ((ℕ × List UInt8) × List UInt8)
  /-- Nothing is received before anything was sent. -/
  receive_nil : receive [] = none
  /-- A message that was sent is received. -/
  receive_eq : ∀ {type : ℕ} {body : List UInt8} (rest : List UInt8), type < 2 ^ 32 →
    8 + body.length < 2 ^ 32 → receive (vnsFrame type body ++ rest) = some ((type, body), rest)

/-- What a session runs with. -/
structure SessionConfig where
  /-- The framing. -/
  lt : VnsConnection
  /-- The names that the router sends. -/
  names : SrNames
  /-- The file `auth_key`. -/
  keyFile : List UInt8
  /-- It can be read. -/
  keyFile_ne : keyFile ≠ []
  /-- The text of `VNSAuthStatus`. -/
  statusMsg : List UInt8
  /-- It is not too long for the router. -/
  length_statusMsg : 9 + statusMsg.length ≤ 10000
  /-- The router after `sr_init`, with its routing table. -/
  start : SrInstance
  /-- It has no interfaces yet. -/
  ifList_start : start.cfg.ifList = []
  /-- Its ARP cache is empty. -/
  cache_start : start.cache = srArpcacheInit
  /-- It has done nothing. -/
  log_start : start.log = []

/-! ### The router -/

/-- Where the router is in `main`. -/
inductive SrClient where
  /-- It waits for `VNS_AUTH_REQUEST`. -/
  | awaitRequest
  /-- It waits for `VNS_AUTH_STATUS`. -/
  | awaitStatus
  /-- It is in the main loop. -/
  | running (sr : SrInstance)
  /-- It has ended. -/
  | stopped

/-- `expected_cmd`, unless the router has ended. -/
def SrClient.expectedCmd : SrClient → Option UInt32
  | .awaitRequest => some 128
  | .awaitStatus => some 512
  | .running _ => some 0
  | .stopped => none

/-- The interfaces and routes. -/
def SrClient.netConfig (cfg : SessionConfig) : SrClient → NetConfig
  | .running sr => sr.cfg
  | _ => cfg.start.cfg

/-- What the surroundings supply when a message is read. -/
structure ReadSurroundings where
  /-- The memory behind the buffer. -/
  behind : ByteMem
  /-- The old content of `auth_key`. -/
  authKey : ByteMem
  /-- The old content of `sha1`. -/
  sha1 : Sha1Context
  /-- The old content of the block for the reply. -/
  reply : ByteMem
  /-- The old content of the blocks for interfaces. -/
  interfaces : ℕ → Mac × UInt32
  /-- What is supplied to the handling of a frame. -/
  frame : Surroundings
  /-- The time. -/
  now : Time

/-- What they supply to `sr_handle_auth_request`. -/
def ReadSurroundings.auth (ctx : ReadSurroundings) (cfg : SessionConfig) : AuthSurroundings :=
  ⟨some cfg.keyFile, ctx.authKey, ctx.sha1, ctx.reply⟩

/-- What `sr_send_packet` writes for some entries of the log.  The message is stored in all of its
block before it is written (`packetMessage_holds`), so the block may as well hold zeros. -/
def packetWrites (cfg : NetConfig) (events : List RouterEvent) : List (List UInt8) :=
  events.filterMap fun
    | .send _ frame iface => srSendPacketWrites cfg (fun _ => 0) frame iface
    | _ => none

/-- The frames that it accepts, each with its interface. -/
def acceptedFrames (cfg : NetConfig) (events : List RouterEvent) : List (IfName × List UInt8) :=
  events.filterMap fun
    | .send _ frame iface => if srSendPacketAccepts cfg frame iface then some (iface, frame) else none
    | _ => none

/-- The entries of the log that are new. -/
def SrInstance.newEvents (sr sr' : SrInstance) : List RouterEvent := sr'.log.drop sr.log.length

/-- What the main loop does with a message: where the router is then, and what it writes. -/
def mainLoop (cfg : SessionConfig) (ctx : ReadSurroundings) (sr : SrInstance) :
    ServerAction → SrClient × List (List UInt8)
  | .failed => (.stopped, [])
  | .aborted .. => (.stopped, [])
  | .dropped _ => (.running sr, [])
  | .handled args =>
    match handleFrame ctx.frame sr ctx.now args.packet args.len args.interface with
    | .ok sr' => (.running sr', packetWrites sr'.cfg (sr.newEvents sr'))
    | .error _ => (.stopped, [])
  | .close => (.stopped, [])
  | .banner => (.running sr, [])
  | .hwinfo buf =>
    match srHandleHwinfo ctx.interfaces sr.cfg.ifList buf with
    | .ok (ifList, _) =>
      let sr := { sr with cfg := { sr.cfg with ifList := ifList } }
      if srVerifyRoutingTable sr.cfg = some 0 then (.running sr, []) else (.stopped, [])
    | .error _ => (.stopped, [])
  -- the server sends no routing table
  | .rtable _ => (.running sr, [])
  | .authRequest buf =>
    match srHandleAuthRequest cfg.names (ctx.auth cfg) buf with
    | some (some reply) => (.running sr, [reply])
    | _ => (.stopped, [])
  | .authStatus buf => if srHandleAuthStatus buf then (.running sr, []) else (.stopped, [])
  | .unknown => (.running sr, [])

/-- What the router does with a message. -/
def SrClient.perform (cfg : SessionConfig) (ctx : ReadSurroundings) :
    SrClient → ServerAction → SrClient × List (List UInt8)
  | .awaitRequest, .authRequest buf =>
    match srHandleAuthRequest cfg.names (ctx.auth cfg) buf with
    | some (some reply) => (.awaitStatus, [reply])
    | _ => (.stopped, [])
  | .awaitRequest, _ => (.stopped, [])
  | .awaitStatus, .authStatus buf =>
    if srHandleAuthStatus buf then (.running cfg.start, [openMessage cfg.names]) else (.stopped, [])
  | .awaitStatus, _ => (.stopped, [])
  | .running sr, action => mainLoop cfg ctx sr action
  | .stopped, _ => (.stopped, [])

/-! ### The session -/

/-- The state of a session, with its record. -/
structure VnsSession where
  /-- The server. -/
  server : SrServer
  /-- The router. -/
  client : SrClient
  /-- What the router has not read yet. -/
  down : List UInt8
  /-- What the server has not received yet. -/
  up : List UInt8
  /-- The messages that the server has sent. -/
  sent : List ServerMessage
  /-- How many of them the router has read. -/
  read : ℕ
  /-- What the router has written, message by message. -/
  written : List (List UInt8)
  /-- How many of them the server has received. -/
  taken : ℕ
  /-- The frames that the main loop was handed, each with its interface. -/
  handed : List (IfName × List UInt8)
  /-- The frames that `sr_send_packet` has accepted, each with its interface. -/
  transmitted : List (IfName × List UInt8)
  /-- The events `SRPacketOut` that were raised. -/
  packetsOut : List SrPacketOut
  /-- An exception was raised. -/
  raised : Bool
  /-- The interfaces of the router when it is ready to process packets. -/
  ready : Option (List SrIf)

/-- `conn.send`: a message that cannot be sent leaves no trace. -/
def VnsSession.serverSend (cfg : SessionConfig) (s : VnsSession) (m : ServerMessage) : VnsSession :=
  match m.pack.bind (cfg.lt.frame m.type) with
  | some msg => { s with down := s.down ++ msg, sent := s.sent ++ [m] }
  | none => s

/-- What the server does with a message that it has received. -/
def VnsSession.react (cfg : SessionConfig) (s : VnsSession) : Option RouterMessage → VnsSession
  | none => { s with raised := true }
  | some m =>
    match s.server.handleRecvMsg cfg.statusMsg m with
    | none => { s with raised := true }
    | some (reply, out) =>
      let s := { s with packetsOut := s.packetsOut ++ out.toList }
      match reply with
      | some reply => s.serverSend cfg reply
      | none => s

/-- The frame that a packet function is called with first. -/
def ServerAction.frames (action : ServerAction) : List (IfName × List UInt8) :=
  (action.handedOn.take 1).map fun args => (args.interface, bytes args.packet args.len.toNat)

/-- The interfaces when `Ready to process packets` is printed. -/
def becomesReady : ServerAction → SrClient → Option (List SrIf)
  | .hwinfo _, .running sr => some sr.cfg.ifList
  | _, _ => none

/-- The frames that are transmitted in a step of the router. -/
def SrClient.transmits : SrClient → SrClient → List (IfName × List UInt8)
  | .running sr, .running sr' => acceptedFrames sr'.cfg (sr.newEvents sr')
  | _, _ => []

/-- A step of a session. -/
inductive VnsStep (cfg : SessionConfig) : VnsSession → VnsSession → Prop
  /-- The server is told about the switch. -/
  | routerInfo {s : VnsSession} (info : List SwitchPort) :
      VnsStep cfg s { s with server := s.server.handleRouterInfo info }
  /-- A packet comes from a port of the switch, and is sent to the router. -/
  | packetIn {s : VnsSession} {port : ℕ} {name : PortName}
      (hport : s.server.portToIntfname port = some name) (pkt : List UInt8) :
      VnsStep cfg s (s.serverSend cfg (.packet name pkt))
  /-- The server receives a message of the router. -/
  | receive {s : VnsSession} {type : ℕ} {body rest : List UInt8}
      (hreceive : cfg.lt.receive s.up = some ((type, body), rest)) :
      VnsStep cfg s
        (VnsSession.react cfg { s with up := rest, taken := s.taken + 1 } (unpackMessage type body))
  /-- The router reads a message. -/
  | read {s : VnsSession} {expected : UInt32} {ctx : ReadSurroundings} {action : ServerAction}
      {rest : List UInt8} {client : SrClient} {writes : List (List UInt8)}
      (hexpected : s.client.expectedCmd = some expected)
      (hread : srReadFromServerExpect (s.client.netConfig cfg) expected ctx.behind s.down =
        some (action, rest))
      (hperform : s.client.perform cfg ctx action = (client, writes)) :
      VnsStep cfg s { s with
        client := client
        down := rest
        up := s.up ++ writes.flatten
        read := s.read + 1
        written := s.written ++ writes
        handed := s.handed ++ action.frames
        transmitted := s.transmitted ++ s.client.transmits client
        ready := (becomesReady action client).or s.ready }
  /-- One of the sweeps of the router. -/
  | sweep {s : VnsSession} {sr sr' : SrInstance} {t t' : Trace} (hclient : s.client = .running sr)
      (hsweep : RouterEnv (sr, t) (sr', t')) :
      VnsStep cfg s { s with
        client := .running sr'
        up := s.up ++ (packetWrites sr'.cfg (sr.newEvents sr')).flatten
        written := s.written ++ packetWrites sr'.cfg (sr.newEvents sr')
        transmitted := s.transmitted ++ acceptedFrames sr'.cfg (sr.newEvents sr') }

/-- A router that has just connected to a server, which was told about the switch so many times. -/
def VnsSession.start (cfg : SessionConfig) (infos : List (List SwitchPort)) (salt : Vector UInt8 20) :
    VnsSession :=
  VnsSession.serverSend cfg
    ⟨infos.foldl SrServer.handleRouterInfo srServerInit, .awaitRequest, [], [], [], 0, [], 0, [], [],
      [], false, none⟩ (.authRequest ⟨salt.toList⟩)

/-- The runs of a session. -/
abbrev VnsSteps (cfg : SessionConfig) : VnsSession → VnsSession → Prop := ReflTransGen (VnsStep cfg)

end NatRouter
