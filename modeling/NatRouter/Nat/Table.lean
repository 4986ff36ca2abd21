import NatRouter.Lib.PackedBits
import NatRouter.Network

/-!
# The NAT table (`sr_nat.h`)

The state of the NAT and the operations of `sr_nat.c` on its mappings: allocation of external ids
from the bitmap, the two lookups, and insertion.

The linked lists of the source are lists here.  A list node keeps the number of the allocation that
made it (`node`), which stands for its address: a pointer to a node is that number, and it dangles
once no list holds a node of that number any more, whatever `malloc` does with the memory.  The
lookups return a copy of a mapping node, and such a copy holds the pointer to the first connection
of the list, not the list.
-/

namespace NatRouter

open ByteMemory PackedBits

/-- `time_t`. -/
abbrev Time := ℤ

/-- The number of an allocation, standing for the address of the node it made. -/
abbrev NodeId := ℕ

/-- `sr_nat_mapping_type`. -/
inductive SrNatMappingType where
  | natMappingIcmp
  | natMappingTcp
  deriving DecidableEq

/-- `sr_tcp_state_type`. -/
inductive SrTcpStateType where
  | closed
  | listen
  | synSent
  | synRcvd
  | estab
  | finWait1
  | finWait2
  | closing
  | timeWait
  | clostWait
  | lastAck
  deriving DecidableEq

/-- `struct sr_nat_unsol_pkt`: a buffered inbound packet. -/
structure SrNatUnsolPkt where
  /-- The copy of the packet. -/
  ipPacket : ByteMem
  /-- When it was buffered. -/
  lastUpdated : Time

/-- `struct sr_nat_connection`: a TCP connection of a mapping. -/
structure SrNatConnection where
  /-- The allocation of this node. -/
  node : NodeId
  /-- TCP state of the connection. -/
  state : SrTcpStateType
  /-- Peer address, in network byte order. -/
  peerIp : UInt32
  /-- Peer port, in network byte order. -/
  peerPort : UInt16
  /-- Used to time out the connection. -/
  lastUpdated : Time

/-- `struct sr_nat_mapping`. -/
structure SrNatMapping where
  /-- The allocation of this node. -/
  node : NodeId
  /-- ICMP or TCP. -/
  type : SrNatMappingType
  /-- Internal address, in host order. -/
  ipInt : UInt32
  /-- Internal port or ICMP id, in host order. -/
  auxInt : UInt16
  /-- External port or ICMP id, in host order. -/
  auxExt : UInt16
  /-- Used to time out the mapping. -/
  lastUpdated : Time
  /-- The connections. -/
  conns : List SrNatConnection

/-- A copy of a mapping node, as the lookups return it. -/
structure SrNatMappingCopy where
  /-- The node it is a copy of. -/
  node : NodeId
  /-- ICMP or TCP. -/
  type : SrNatMappingType
  /-- Internal address. -/
  ipInt : UInt32
  /-- Internal port or ICMP id. -/
  auxInt : UInt16
  /-- External port or ICMP id. -/
  auxExt : UInt16
  /-- Time of the mapping. -/
  lastUpdated : Time
  /-- Pointer to the first connection, null if there is none. -/
  conns : Option NodeId

/-- The list behind `nat->unsol_pkt`. -/
inductive UnsolList where
  /-- A proper list. -/
  | linked (pkts : List SrNatUnsolPkt)
  /-- The head pointer refers to a freed node. -/
  | dangling

/-- `DEFAULT_ID`: external ids below it are never handed out. -/
def defaultId : ℕ := 1024

/-- `TOTAL_PORTS`. -/
def totalPorts : ℕ := 65536

/-- `DEFAULT_TCP_SYN_TO`: seconds an unsolicited packet is kept. -/
def defaultTcpSynTo : ℕ := 6

/-- `int bitmap[TOTAL_PORTS / 32]`. -/
abbrev Bitmap := Words 32 2048

/-- `struct sr_nat`. -/
structure SrNat where
  /-- The mapping table. -/
  mappings : List SrNatMapping
  /-- ICMP query timeout. -/
  icmpQueryTo : UInt32
  /-- TCP established timeout. -/
  tcpEstabIdleTo : UInt32
  /-- TCP transitory timeout. -/
  tcpTransitoryTo : UInt32
  /-- Which external ids are in use. -/
  bitmap : Bitmap
  /-- Unsolicited packets. -/
  unsolPkt : UnsolList
  /-- The next allocation has this number. -/
  nextNode : NodeId

/-- The struct copy of a mapping node. -/
def SrNatMapping.copy (m : SrNatMapping) : SrNatMappingCopy where
  node := m.node
  type := m.type
  ipInt := m.ipInt
  auxInt := m.auxInt
  auxExt := m.auxExt
  lastUpdated := m.lastUpdated
  conns := m.conns.head?.map SrNatConnection.node

/-! ### External ids -/

/-- `find_next_id`: the first clear bit of the bitmap from `DEFAULT_ID` on, which is then set, or -1
if there is none. -/
def findNextId (bitmap : Bitmap) : ℤ × Bitmap :=
  match scanWords bitmap (defaultId / 32) (totalPorts / 32 - defaultId / 32) with
  | some res => (res, setBit bitmap res)
  | none => (-1, bitmap)

/-- The conversion of an `int` to `uint16_t`. -/
def toUint16 (i : ℤ) : UInt16 := ⟨BitVec.ofInt 16 i⟩

/-! ### Lookup and insertion -/

/-- `sr_nat_lookup_external`: a copy of the first mapping with that external id.  The requested type
is not looked at. -/
def srNatLookupExternal (nat : SrNat) (auxExt : UInt16) (_type : SrNatMappingType) :
    Option SrNatMappingCopy :=
  (nat.mappings.find? fun curr => curr.auxExt = auxExt).map SrNatMapping.copy

/-- `sr_nat_lookup_internal`: a copy of the first mapping with that internal address and port or id.
The requested type is not looked at. -/
def srNatLookupInternal (nat : SrNat) (ipInt : UInt32) (auxInt : UInt16)
    (_type : SrNatMappingType) : Option SrNatMappingCopy :=
  (nat.mappings.find? fun curr => curr.ipInt = ipInt ∧ curr.auxInt = auxInt).map SrNatMapping.copy

/-- The node `sr_nat_insert_mapping` allocates. -/
def newMapping (nat : SrNat) (now : Time) (ipInt : UInt32) (auxInt : UInt16)
    (type : SrNatMappingType) : SrNatMapping where
  node := nat.nextNode
  type := type
  ipInt := ipInt
  auxInt := auxInt
  auxExt := toUint16 (findNextId nat.bitmap).1
  lastUpdated := now
  conns := []

/-- `sr_nat_insert_mapping`: a new mapping at the head of the table, and a copy of it. -/
def srNatInsertMapping (nat : SrNat) (now : Time) (ipInt : UInt32) (auxInt : UInt16)
    (type : SrNatMappingType) : SrNatMappingCopy × SrNat :=
  let newEntry := newMapping nat now ipInt auxInt type
  (newEntry.copy,
    { nat with
      mappings := newEntry :: nat.mappings
      bitmap := (findNextId nat.bitmap).2
      nextNode := nat.nextNode + 1 })

end NatRouter
