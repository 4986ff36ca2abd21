import NatRouter.Arp.MissPath
import NatRouter.Lib.StructPack

/-!
# The connection to the VNS server (`sr_vns_comm.c`)

What the router writes to the connection for a frame, and what it does with a message it reads: the
dispatch on its type, the interface list it makes of a hardware message, and the frame it hands on
for a packet message.  The messages that set up the session are told apart but not looked into, and
the output on the terminal and in the log is left out.

A message is read into a buffer of its own length; `behind` is the memory that follows the buffer.
-/

namespace NatRouter

open ByteMemory StructPack

/-! ### The interface list (`sr_if.c`) -/

/-- `sr_IFACE_NAMELEN`. -/
def srIfaceNamelen : ℕ := 32

/-- The string behind a `char *`, as far as an interface name is looked at. -/
def ifNameAt (b : ByteMem) (i : ℕ) : IfName :=
  (bytes (fun j => b (i + j)) srIfaceNamelen).takeWhile (· ≠ 0)

/-- `sr_add_interface`: a new element at the end of the list.  `junk` is what its address fields
hold: they are not set. -/
def srAddInterface (junk : Mac × UInt32) (ifList : List SrIf) (name : IfName) : List SrIf :=
  ifList ++ [⟨name.take srIfaceNamelen, junk.1, junk.2⟩]

/-- A change of the last element of the list, which the source asserts to exist. -/
def setLastInterface (f : SrIf → SrIf) : List SrIf → Except Fault (List SrIf)
  | [] => .error .assertFailed
  | [i] => .ok [f i]
  | i :: rest =>
    match setLastInterface f rest with
    | .ok ifList => .ok (i :: ifList)
    | .error e => .error e

/-- `sr_set_ether_addr`. -/
def srSetEtherAddr (ifList : List SrIf) (addr : Mac) : Except Fault (List SrIf) :=
  setLastInterface (fun i => { i with addr := addr }) ifList

/-- `sr_set_ether_ip`. -/
def srSetEtherIp (ifList : List SrIf) (ipNbo : UInt32) : Except Fault (List SrIf) :=
  setLastInterface (fun i => { i with ip := ipNbo }) ifList

/-! ### Hardware information -/

/-- `sizeof(c_base)`. -/
def sizeofBase : ℕ := 8

/-- `sizeof(c_hw_entry)`. -/
def sizeofHwEntry : ℕ := 36

/-- `num_entries` for a message whose length field holds `mLen`. -/
def numEntries (mLen : UInt32) : ℤ :=
  ((mLen.toUInt64 - UInt64.ofNat sizeofBase) / UInt64.ofNat sizeofHwEntry).toUInt32.toBitVec.toInt

/-- `&hwinfo->mHWInfo[i]`. -/
def hwEntry (hwinfo : ByteMem) (i : ℕ) : ByteMem :=
  fun j => hwinfo (sizeofBase + sizeofHwEntry * i + j)

/-- The body of the loop of `sr_handle_hwinfo`, for one entry: its key and then its value. -/
def handleHwEntry (junk : Mac × UInt32) (ifList : List SrIf) (entry : ByteMem) :
    Except Fault (List SrIf) :=
  match (ntohl (load32 entry 0)).toNat with
  -- HWFIXEDIP
  | 16 => .ok ifList
  -- HWINTERFACE
  | 1 => .ok (srAddInterface junk ifList (ifNameAt entry 4))
  -- HWSPEED
  | 2 => .ok ifList
  -- HWSUBNET
  | 4 => .ok ifList
  -- HWMASK
  | 128 => .ok ifList
  -- HWETHIP
  | 64 => srSetEtherIp ifList (load32 entry 4)
  -- HWETHER
  | 32 => srSetEtherAddr ifList (loadMac entry 4)
  | _ => .ok ifList

/-- The loop of `sr_handle_hwinfo` over `n` entries from entry `i` on. -/
def handleHwEntries (junk : ℕ → Mac × UInt32) (hwinfo : ByteMem) :
    ℕ → ℕ → List SrIf → Except Fault (List SrIf)
  | 0, _, ifList => .ok ifList
  | n + 1, i, ifList =>
    match handleHwEntry (junk i) ifList (hwEntry hwinfo i) with
    | .ok ifList' => handleHwEntries junk hwinfo n (i + 1) ifList'
    | .error e => .error e

/-- `sr_handle_hwinfo`: the interface list afterwards, and the number of entries. -/
def srHandleHwinfo (junk : ℕ → Mac × UInt32) (ifList : List SrIf) (hwinfo : ByteMem) :
    Except Fault (List SrIf × ℤ) :=
  let num := numEntries (ntohl (load32 hwinfo 0))
  match handleHwEntries junk hwinfo num.toNat 0 ifList with
  | .ok ifList' => .ok (ifList', num)
  | .error e => .error e

/-! ### Sending -/

/-- `VNSPACKET`. -/
def vnsPacket : UInt32 := 4

/-- `VNSCLOSE`. -/
def vnsClose : UInt32 := 2

/-- `sizeof(c_packet_header)`. -/
def sizeofPacketHeader : ℕ := 24

/-- The message that `sr_send_packet` makes for a frame: the length, the type, the name of the
interface as `strncpy` leaves it in 16 bytes, and the frame. -/
def packetMessage (junk : ByteMem) (frame : List UInt8) (iface : IfName) : ByteMem :=
  let totalLen := UInt32.ofNat (frame.length + sizeofPacketHeader)
  let srPkt := store32 junk 0 (htonl totalLen)
  let srPkt := store32 srPkt 4 (htonl vnsPacket)
  let srPkt := storeBlock srPkt 8 (ofBytes (padded 16 iface)) 16
  storeBlock srPkt sizeofPacketHeader (ofBytes frame) frame.length

/-- What `sr_send_packet` writes to the server, if it accepts the frame. -/
def srSendPacketWrites (cfg : NetConfig) (junk : ByteMem) (frame : List UInt8) (iface : IfName) :
    Option (List UInt8) :=
  if srSendPacketAccepts cfg frame iface then
    some (bytes (packetMessage junk frame iface)
      (UInt32.ofNat (frame.length + sizeofPacketHeader)).toNat)
  else none

/-! ### Receiving -/

/-- The arguments of `sr_arp_req_not_for_us` and of `sr_handlepacket`. -/
structure PacketArgs where
  /-- The frame. -/
  packet : ByteMem
  /-- Its length. -/
  len : UInt32
  /-- The interface it came in at. -/
  interface : IfName

/-- `ar_tip` of an ARP packet, in network byte order. -/
def SrArpPacket.arTip (p : ByteMem) : UInt32 := load32 p 24

/-- `sr_arp_req_not_for_us`. -/
def srArpReqNotForUs (cfg : NetConfig) (args : PacketArgs) : Except Fault Bool :=
  if args.len < UInt32.ofNat sizeofEthernetHdr + sizeofArpPacket then .ok false
  else
    match srGetInterface cfg.ifList args.interface with
    | none => .error .assertFailed
    | some iface =>
      let aHdr : ByteMem := fun j => args.packet (sizeofEthernetHdr + j)
      .ok (load16 args.packet 12 = htons ethertypeArp ∧ SrArpPacket.arOp aHdr = htons arpOpRequest ∧
        SrArpPacket.arTip aHdr ≠ iface.ip)

/-- What `sr_read_from_server_expect` does with a message. -/
inductive ServerAction where
  /-- An error is reported, and the result is -1. -/
  | failed
  /-- A packet is handed to `sr_arp_req_not_for_us`, whose assertion fails. -/
  | aborted (args : PacketArgs) (e : Fault)
  /-- A packet is handed to `sr_arp_req_not_for_us` and dropped. -/
  | dropped (args : PacketArgs)
  /-- A packet is handed to `sr_arp_req_not_for_us` and then to `sr_handlepacket`. -/
  | handled (args : PacketArgs)
  /-- The session is closed. -/
  | close
  /-- A banner is printed. -/
  | banner
  /-- The message is handed to `sr_handle_hwinfo`. -/
  | hwinfo (buf : ByteMem)
  /-- The message is handed to `sr_handle_rtable`. -/
  | rtable (buf : ByteMem)
  /-- The message is handed to `sr_handle_auth_request`. -/
  | authRequest (buf : ByteMem)
  /-- The message is handed to `sr_handle_auth_status`. -/
  | authStatus (buf : ByteMem)
  /-- The command is unknown. -/
  | unknown

/-- The arguments that the two packet functions are called with, call by call. -/
def ServerAction.handedOn : ServerAction → List PacketArgs
  | .aborted args _ => [args]
  | .dropped args => [args]
  | .handled args => [args, args]
  | _ => []

/-- The case `VNSPACKET` of `sr_read_from_server_expect`, for a message of length `len`. -/
def handOnPacket (cfg : NetConfig) (buf : ByteMem) (len : ℤ) : ServerAction :=
  let args : PacketArgs :=
    { packet := fun j => buf (sizeofPacketHeader + j)
      len := ⟨BitVec.ofInt 32 (len - (sizeofPacketHeader + sizeofEthernetHdr) + sizeofEthernetHdr)⟩
      interface := ifNameAt buf sizeofBase }
  match srArpReqNotForUs cfg args with
  | .error e => .aborted args e
  | .ok true => .dropped args
  | .ok false => .handled args

/-- The dispatch on the command. -/
def serverAction (cfg : NetConfig) (buf : ByteMem) (len : ℤ) (command : UInt32) : ServerAction :=
  match command.toNat with
  -- VNSPACKET
  | 4 => handOnPacket cfg buf len
  -- VNSCLOSE
  | 2 => .close
  -- VNSBANNER
  | 8 => .banner
  -- VNSHWINFO
  | 16 => .hwinfo buf
  -- VNS_RTABLE
  | 32 => .rtable buf
  -- VNS_AUTH_REQUEST
  | 128 => .authRequest buf
  -- VNS_AUTH_STATUS
  | 512 => .authStatus buf
  | _ => .unknown

/-- `sr_read_from_server_expect` on what the server has sent: what it does, and what it leaves to be
read, or nothing while the message is not complete.  The command is put back into the buffer in host
order. -/
def srReadFromServerExpect (cfg : NetConfig) (expectedCmd : UInt32) (behind : ByteMem)
    (stream : List UInt8) : Option (ServerAction × List UInt8) :=
  if stream.length < 4 then none
  else
    let len : ℤ := (ntohl (load32 (ofBytes stream) 0)).toBitVec.toInt
    if 10000 < len ∨ len < 0 then some (.failed, stream.drop 4)
    else if (stream.length : ℤ) < len then none
    else
      let buf := storeBlock behind 4 (fun j => ofBytes stream (4 + j)) (len.toNat - 4)
      let buf := store32 buf 0 (htonl ⟨BitVec.ofInt 32 len⟩)
      let command := ntohl (load32 buf 4)
      let buf := store32 buf 4 command
      let rest := stream.drop (max 4 len.toNat)
      if expectedCmd ≠ 0 ∧ command ≠ expectedCmd ∧ command ≠ vnsClose then some (.failed, rest)
      else some (serverAction cfg buf len command, rest)

end NatRouter
