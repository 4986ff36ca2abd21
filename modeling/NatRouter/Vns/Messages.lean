import NatRouter.Lib.StructPack

/-!
# Messages of the VNS server (`VNSProtocol.py`)

The messages that set up a session, and those that carry interfaces and packets between the server
and the router, as the server packs and unpacks them.  A string of Python 2 is a list of bytes.  The
framing of the messages on the connection is that of `LTProtocol`, of which only the prefix is known
here: the total length and the type.
-/

namespace NatRouter

open StructPack

/-- `strip_null_chars`: all zero bytes are removed. -/
def stripNullChars (s : List UInt8) : List UInt8 := s.filter (· ≠ 0)

/-- The framing of messages.  What goes over the connection for a body is the body behind two words:
the total length and the type. -/
structure LtProtocol where
  /-- The bytes sent for a message type and a packed body, if it can be sent. -/
  frame : ℕ → List UInt8 → Option (List UInt8)
  /-- The prefix. -/
  frame_eq : ∀ {type : ℕ} {body msg : List UInt8}, frame type body = some msg → ∃ header,
    pack [.u32, .u32] [.int (8 + body.length), .int type] = some header ∧ msg = header ++ body

/-- `VNSPacket`. -/
structure VnsPacket where
  /-- The interface. -/
  intfName : List UInt8
  /-- The Ethernet frame. -/
  ethernetFrame : List UInt8

namespace VnsPacket

/-- `VNSPacket.get_type()`. -/
def type : ℕ := 4

/-- `VNSPacket.HEADER_FORMAT`. -/
def headerFormat : List Code := [.str 16]

/-- `VNSPacket.HEADER_SIZE`. -/
def headerSize : ℕ := calcsize headerFormat

/-- `VNSPacket.pack`. -/
def pack (p : VnsPacket) : Option (List UInt8) :=
  (StructPack.pack headerFormat [.str p.intfName]).map (· ++ p.ethernetFrame)

/-- `VNSPacket.unpack`. -/
def unpack (body : List UInt8) : Option VnsPacket :=
  match StructPack.unpack headerFormat (body.take headerSize) with
  | some [.str name] => some ⟨stripNullChars name, body.drop headerSize⟩
  | _ => none

end VnsPacket

/-- `VNSInterface`. -/
structure VnsInterface where
  /-- The name. -/
  name : List UInt8
  /-- The Ethernet address. -/
  mac : List UInt8
  /-- The IP address. -/
  ip : List UInt8
  /-- The mask of its network. -/
  mask : List UInt8
  /-- An Ethernet address has 6 bytes. -/
  length_mac : mac.length = 6
  /-- An IP address has 4 bytes. -/
  length_ip : ip.length = 4
  /-- So has a mask. -/
  length_mask : mask.length = 4

namespace VnsInterface

/-- `VNSInterface.__init__`, with the message of the exception it raises. -/
def init (name mac ip mask : List UInt8) : Except String VnsInterface :=
  if hmac : mac.length ≠ 6 then .error "MAC address must be 6B"
  else if hip : ip.length ≠ 4 then .error "IP address must be 4B"
  else if hmask : mask.length ≠ 4 then .error "IP address mask must be 4B"
  else .ok ⟨name, mac, ip, mask, not_not.mp hmac, not_not.mp hip, not_not.mp hmask⟩

/-- `VNSInterface.HWINTERFACE`. -/
def hwInterface : ℕ := 1

/-- `VNSInterface.HWSPEED`. -/
def hwSpeed : ℕ := 2

/-- `VNSInterface.HWSUBNET`. -/
def hwSubnet : ℕ := 4

/-- `VNSInterface.HWETHER`. -/
def hwEther : ℕ := 32

/-- `VNSInterface.HWETHIP`. -/
def hwEthip : ℕ := 64

/-- `VNSInterface.HWMASK`. -/
def hwMask : ℕ := 128

/-- `VNSInterface.FORMAT`. -/
def format : List Code :=
  [.u32, .str 32, .u32, .u32, .str 28, .u32, .str 32, .u32, .str 4, .str 28, .u32, .u32, .str 28,
    .u32, .str 4, .str 28]

/-- `VNSInterface.pack`. -/
def pack (i : VnsInterface) : Option (List UInt8) :=
  StructPack.pack format
    [.int hwInterface, .str i.name,
      .int hwSpeed, .int 0, .str [],
      .int hwEther, .str i.mac,
      .int hwEthip, .str i.ip, .str [],
      .int hwSubnet, .int 0, .str [],
      .int hwMask, .str i.mask, .str []]

end VnsInterface

/-- `VNSHardwareInfo`. -/
structure VnsHardwareInfo where
  /-- The interfaces. -/
  interfaces : List VnsInterface

namespace VnsHardwareInfo

/-- `VNSHardwareInfo.get_type()`. -/
def type : ℕ := 16

/-- `VNSHardwareInfo.pack`. -/
def pack (info : VnsHardwareInfo) : Option (List UInt8) :=
  (info.interfaces.mapM VnsInterface.pack).map List.flatten

end VnsHardwareInfo

/-- `VNSAuthRequest`. -/
structure VnsAuthRequest where
  /-- The salt. -/
  salt : List UInt8

namespace VnsAuthRequest

/-- `VNSAuthRequest.get_type()`. -/
def type : ℕ := 128

/-- `VNSAuthRequest.pack`. -/
def pack (r : VnsAuthRequest) : List UInt8 := r.salt

end VnsAuthRequest

/-- `VNSAuthReply`. -/
structure VnsAuthReply where
  /-- The name of the user. -/
  username : List UInt8
  /-- The message digest of the salt and the password. -/
  ssp : List UInt8

namespace VnsAuthReply

/-- `VNSAuthReply.get_type()`. -/
def type : ℕ := 256

/-- `VNSAuthReply.unpack`. -/
def unpack (body : List UInt8) : Option VnsAuthReply :=
  match StructPack.unpack [.u32] (body.take 4) with
  | some [.int usernameLen] =>
    let body := body.drop 4
    some ⟨body.take usernameLen, body.drop usernameLen⟩
  | _ => none

end VnsAuthReply

/-- `VNSAuthStatus`. -/
structure VnsAuthStatus where
  /-- Whether the reply was accepted. -/
  authOk : Bool
  /-- A message to the user. -/
  msg : List UInt8

namespace VnsAuthStatus

/-- `VNSAuthStatus.get_type()`. -/
def type : ℕ := 512

/-- `VNSAuthStatus.pack`. -/
def pack (s : VnsAuthStatus) : List UInt8 := (if s.authOk then 1 else 0) :: s.msg

end VnsAuthStatus

/-- `VNSOpen`. -/
structure VnsOpen where
  /-- The topology that is asked for. -/
  topoId : ℕ
  /-- The name of the router. -/
  vhost : List UInt8
  /-- The name of the user. -/
  user : List UInt8
  /-- The password. -/
  pw : List UInt8

namespace VnsOpen

/-- `VNSOpen.get_type()`. -/
def type : ℕ := 1

/-- `VNSOpen.FORMAT`, in which an `H` is taken as its two bytes. -/
def format : List Code := [.str 2, .str 2, .str 32, .str 32, .str 32]

/-- `VNSOpen.unpack`. -/
def unpack (body : List UInt8) : Option VnsOpen :=
  match StructPack.unpack format body with
  | some [.str topoId, .str _, .str vhost, .str user, .str pw] =>
    some ⟨(ofBe16 topoId).toNat, stripNullChars vhost, stripNullChars user, stripNullChars pw⟩
  | _ => none

end VnsOpen

/-! ### What is packed -/

/-- A packet is its name in 16 bytes and the frame. -/
lemma VnsPacket.pack_eq (p : VnsPacket) : p.pack = some (padded 16 p.intfName ++ p.ethernetFrame) := by
  simp [VnsPacket.pack, headerFormat, StructPack.pack, Code.pack]

/-- A name and a frame are unpacked from the name in 16 bytes and the frame. -/
lemma VnsPacket.unpack_padded {name frame : List UInt8} (hname : 0 ∉ name)
    (hlength : name.length ≤ 16) : VnsPacket.unpack (padded 16 name ++ frame) = some ⟨name, frame⟩ := by
  have hpack : StructPack.pack headerFormat [.str name] = some (padded 16 name) := by
    simp [headerFormat, StructPack.pack, Code.pack]
  have hlen : (padded 16 name).length = headerSize := length_padded 16 name
  unfold VnsPacket.unpack
  rw [List.take_left' hlen, List.drop_left' hlen, unpack_of_pack hpack]
  simp only [headerFormat, List.zipWith_cons_cons, List.zipWith_nil_left, Code.stored,
    stripNullChars, filter_padded hname hlength]

/-- The six entries of an interface: a key and 32 bytes each. -/
def VnsInterface.entries (i : VnsInterface) : List (List UInt8) :=
  [be32 1 ++ padded 32 i.name,
    be32 2 ++ (be32 0 ++ padded 28 []),
    be32 32 ++ padded 32 i.mac,
    be32 64 ++ (padded 4 i.ip ++ padded 28 []),
    be32 4 ++ (be32 0 ++ padded 28 []),
    be32 128 ++ (padded 4 i.mask ++ padded 28 [])]

/-- An interface is packed as its entries, one behind the other. -/
lemma VnsInterface.pack_eq (i : VnsInterface) : i.pack = some i.entries.flatten := by
  simp [VnsInterface.pack, format, StructPack.pack, Code.pack, hwInterface, hwSpeed, hwEther,
    hwEthip, hwSubnet, hwMask, entries]

/-- A list of interfaces is packed as the entries of all of them. -/
lemma VnsHardwareInfo.pack_eq (info : VnsHardwareInfo) :
    info.pack = some (info.interfaces.flatMap fun i => i.entries.flatten) := by
  obtain ⟨interfaces⟩ := info
  have hmap : interfaces.mapM VnsInterface.pack =
      some (interfaces.map fun i => i.entries.flatten) := by
    induction interfaces with
    | nil => rfl
    | cons i interfaces ih =>
      rw [List.mapM_cons, ih, VnsInterface.pack_eq]
      rfl
  rw [VnsHardwareInfo.pack, hmap]
  rfl

end NatRouter
