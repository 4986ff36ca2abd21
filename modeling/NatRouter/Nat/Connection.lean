import NatRouter.Nat.Table

/-!
# Connections and unsolicited packets (`sr_nat.c`)

The TCP state of a connection, the operations that add a connection to a mapping and update one,
and the list of unsolicited packets they feed.

`sr_nat_update_connection` starts from the connection pointer of a copied mapping.  It reads the
list that is linked from that node now: if the node has been freed since the copy was made, the
read is of freed memory (`Fault.freedConn`).  `sr_nat_remove_unsolicited_packet` unlinks and frees
nodes but does not store the new head of the list, so when the first node goes, `nat->unsol_pkt` is
left pointing to it (`UnsolList.dangling`) and the next walk of the list reads freed memory
(`Fault.freedUnsol`).
-/

namespace NatRouter

open ByteMemory PackedBits

/-- What the surroundings supply to a lock-protected call. -/
structure Ambient where
  /-- The result of `time(NULL)`. -/
  now : Time
  /-- The old content of a block that `malloc` returns. -/
  junk : ByteMem

/-- `direction`: the way a segment crosses the NAT. -/
inductive Direction where
  /-- `direction == 1`. -/
  | externalToInternal
  /-- `direction == 0`. -/
  | internalToExternal
  deriving DecidableEq

/-- `_determine_state`: the state of a connection after a segment with TCP header at offset `o`. -/
def determineState (state : SrTcpStateType) (buf : ByteMem) (o : ℕ) : SrTcpStateType :=
  let fin := SrTcpHdr.fin buf o
  let syn := SrTcpHdr.syn buf o
  let ack := SrTcpHdr.ack buf o
  if syn ∧ ¬ ack then .synSent
  else if state = .synSent ∧ syn ∧ ack then .estab
  else if state = .synSent ∧ syn then .synRcvd
  else if state = .synRcvd ∧ ack then .estab
  else if state = .estab ∧ fin then .finWait1
  else if state = .finWait1 ∧ fin then .closing
  else if state = .closing ∧ ack then .closed
  else if state = .finWait1 ∧ fin ∧ ack then .closed
  else if state = .finWait1 ∧ ack then .finWait2
  else if state = .finWait2 ∧ fin then .closed
  else state

/-! ### Unsolicited packets -/

/-- The comparison of the unsolicited-list loops: `p` is the packet passed in, `q` a queued one.
The TCP header of both is taken to start where that of `p` does. -/
def sameSegment (p q : ByteMem) : Bool :=
  let ipHeaderLen := ipHeaderLen p
  SrIpHdr.ipSrc p = SrIpHdr.ipSrc q ∧ SrIpHdr.ipDst p = SrIpHdr.ipDst q ∧
    SrTcpHdr.srcPort p ipHeaderLen = SrTcpHdr.srcPort q ipHeaderLen ∧
    SrTcpHdr.dstPort p ipHeaderLen = SrTcpHdr.dstPort q ipHeaderLen ∧
    SrTcpHdr.seqNum p ipHeaderLen = SrTcpHdr.seqNum q ipHeaderLen

/-- `sr_nat_insert_unsolicited_packet`: append a copy unless the same segment is queued. -/
def srNatInsertUnsolicitedPacket (amb : Ambient) (unsol : UnsolList) (ipPacket : ByteMem)
    (ipPacketLen : UInt32) : Except Fault UnsolList :=
  match unsol with
  | .dangling => .error .freedUnsol
  | .linked pkts =>
    if pkts.any fun curr => sameSegment ipPacket curr.ipPacket then .ok (.linked pkts)
    else
      .ok (.linked (pkts ++ [⟨copied ipPacket ipPacketLen.toNat amb.junk, amb.now⟩]))

/-- `sr_nat_remove_unsolicited_packet`: unlink and free every queued copy of the segment.  The head
pointer is not updated. -/
def srNatRemoveUnsolicitedPacket (unsol : UnsolList) (ipPacket : ByteMem) :
    Except Fault UnsolList :=
  match unsol with
  | .dangling => .error .freedUnsol
  | .linked [] => .ok (.linked [])
  | .linked (curr :: rest) =>
    if sameSegment ipPacket curr.ipPacket then .ok .dangling
    else .ok (.linked (curr :: rest.filter fun q => !sameSegment ipPacket q.ipPacket))

/-! ### Connections -/

/-- Apply `f` to the mapping at address `node`. -/
def SrNat.modifyMapping (nat : SrNat) (node : NodeId) (f : SrNatMapping → SrNatMapping) : SrNat :=
  { nat with mappings := nat.mappings.map fun m => if m.node = node then f m else m }

/-- Write the connection `c` at the address of `c`. -/
def SrNat.storeConn (nat : SrNat) (c : SrNatConnection) : SrNat :=
  { nat with
    mappings := nat.mappings.map fun m =>
      { m with conns := m.conns.map fun d => if d.node = c.node then c else d } }

/-- The connections a walk from the node at address `a` reads: that node and those linked behind
it, if some mapping of the table still links it. -/
def connsFrom (mappings : List SrNatMapping) (a : NodeId) : Option (List SrNatConnection) :=
  mappings.findSome? fun m =>
    match m.conns.dropWhile fun c => c.node ≠ a with
    | [] => none
    | conns => some conns

/-- The node `sr_nat_insert_connection` allocates. -/
def newConnection (nat : SrNat) (now : Time) (ipPacket : ByteMem) (state : SrTcpStateType) :
    SrNatConnection where
  node := nat.nextNode
  state := state
  peerIp := SrIpHdr.ipDst ipPacket
  peerPort := SrTcpHdr.dstPort ipPacket (ipHeaderLen ipPacket)
  lastUpdated := now

/-- `sr_nat_insert_connection`: put a connection to the destination of the packet at the head of
the list of the first mapping with that external port, then drop the queued copies of the packet.
A null result means that there is no such mapping. -/
def srNatInsertConnection (nat : SrNat) (now : Time) (extPort : UInt16) (ipPacket : ByteMem)
    (state : SrTcpStateType) : Except Fault (Option SrNatConnection × SrNat) :=
  match nat.mappings.find? fun curr => curr.auxExt = extPort with
  | none => .ok (none, nat)
  | some curr =>
    let newEntry := newConnection nat now ipPacket state
    let nat' := nat.modifyMapping curr.node fun m => { m with conns := newEntry :: m.conns }
    match srNatRemoveUnsolicitedPacket nat.unsolPkt ipPacket with
    | .error e => .error e
    | .ok unsol => .ok (some newEntry, { nat' with unsolPkt := unsol, nextNode := nat.nextNode + 1 })

/-- The peer test of `sr_nat_update_connection`. -/
def isPeer (direction : Direction) (ipPacket : ByteMem) (c : SrNatConnection) : Bool :=
  let ipHeaderLen := ipHeaderLen ipPacket
  match direction with
  | .externalToInternal =>
    c.peerIp = SrIpHdr.ipSrc ipPacket ∧ c.peerPort = SrTcpHdr.srcPort ipPacket ipHeaderLen
  | .internalToExternal =>
    c.peerIp = SrIpHdr.ipDst ipPacket ∧ c.peerPort = SrTcpHdr.dstPort ipPacket ipHeaderLen

/-- The connection after `sr_nat_update_connection`. -/
def updatedConnection (now : Time) (ipPacket : ByteMem) (c : SrNatConnection) : SrNatConnection :=
  { c with
    state := determineState c.state ipPacket (ipHeaderLen ipPacket)
    lastUpdated := now }

/-- `sr_nat_update_connection`: find the connection of the packet's peer among those of the copied
mapping and advance its state.  If there is none, the packet is buffered as unsolicited and the
result is null. -/
def srNatUpdateConnection (nat : SrNat) (amb : Ambient) (mapping : SrNatMappingCopy)
    (ipPacket : ByteMem) (ipPacketLen : UInt32) (direction : Direction) :
    Except Fault (Option SrNatConnection × SrNat) :=
  let conns : Except Fault (List SrNatConnection) :=
    match mapping.conns with
    | none => .ok []
    | some a =>
      match connsFrom nat.mappings a with
      | none => .error .freedConn
      | some conns => .ok conns
  match conns with
  | .error e => .error e
  | .ok conns =>
    match conns.find? (isPeer direction ipPacket) with
    | some curr =>
      let curr' := updatedConnection amb.now ipPacket curr
      .ok (some curr', nat.storeConn curr')
    | none =>
      match srNatInsertUnsolicitedPacket amb nat.unsolPkt ipPacket ipPacketLen with
      | .error e => .error e
      | .ok unsol => .ok (none, { nat with unsolPkt := unsol })

/-! ### The lock-protected calls -/

/-- The calls of `sr_nat.c` that the packet handlers make, each under `nat->lock`. -/
inductive NatCall where
  | lookupExternal (auxExt : UInt16) (type : SrNatMappingType)
  | lookupInternal (ipInt : UInt32) (auxInt : UInt16) (type : SrNatMappingType)
  | insertMapping (ipInt : UInt32) (auxInt : UInt16) (type : SrNatMappingType)
  | insertConnection (extPort : UInt16) (ipPacket : ByteMem) (state : SrTcpStateType)
  | updateConnection (mapping : SrNatMappingCopy) (ipPacket : ByteMem) (ipPacketLen : UInt32)
      (direction : Direction)
  | insertUnsolicitedPacket (ipPacket : ByteMem) (ipPacketLen : UInt32)

/-- What a call returns; an `Option` is a pointer that may be null. -/
def NatCall.Result : NatCall → Type
  | .lookupExternal .. => Option SrNatMappingCopy
  | .lookupInternal .. => Option SrNatMappingCopy
  | .insertMapping .. => SrNatMappingCopy
  | .insertConnection .. => Option SrNatConnection
  | .updateConnection .. => Option SrNatConnection
  | .insertUnsolicitedPacket .. => Unit

/-- The effect of a call. -/
def natExec (amb : Ambient) : (c : NatCall) → SrNat → Except Fault (c.Result × SrNat)
  | .lookupExternal auxExt type, nat => .ok (srNatLookupExternal nat auxExt type, nat)
  | .lookupInternal ipInt auxInt type, nat => .ok (srNatLookupInternal nat ipInt auxInt type, nat)
  | .insertMapping ipInt auxInt type, nat => .ok (srNatInsertMapping nat amb.now ipInt auxInt type)
  | .insertConnection extPort ipPacket state, nat =>
    srNatInsertConnection nat amb.now extPort ipPacket state
  | .updateConnection mapping ipPacket ipPacketLen direction, nat =>
    srNatUpdateConnection nat amb mapping ipPacket ipPacketLen direction
  | .insertUnsolicitedPacket ipPacket ipPacketLen, nat =>
    match srNatInsertUnsolicitedPacket amb nat.unsolPkt ipPacket ipPacketLen with
    | .error e => .error e
    | .ok unsol => .ok ((), { nat with unsolPkt := unsol })

end NatRouter
