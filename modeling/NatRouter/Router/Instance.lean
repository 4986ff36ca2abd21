import NatRouter.Arp.Cache
import NatRouter.Nat.Connection
import NatRouter.Router.Packets

/-!
# Sending and forwarding (`sr_router.c`)

The state of the router and the functions through which packets leave it: `sr_send_arp`,
`sr_send_icmp` and `sr_forward_ippacket`.

The state carries a log of what the router has done, which no function reads: each call of
`sr_send_packet` and of `sr_send_icmp`, each packet that is put on the ARP queue, and each packet
that is forwarded.  The theorems about packets are about the entries a function adds to it.
-/

namespace NatRouter

open ByteMemory

/-- An entry of the log. -/
inductive RouterEvent where
  /-- A frame is handed to `sr_send_packet`; `origin` is the packet it holds, if that was waiting for
  an address. -/
  | send (origin : Option SrPacket) (frame : List UInt8) (iface : IfName)
  /-- `sr_send_icmp` is called. -/
  | icmp (packet : ByteMem) (interface : IfName) (type code : UInt8)
  /-- A packet is put on the ARP queue, to wait for `ip`. -/
  | queued (ip : UInt32) (pkt : SrPacket)
  /-- A packet is transmitted or queued by `sr_forward_ippacket`, along a route. -/
  | forward (packet : ByteMem) (len : UInt32) (lpm : SrRt)
  /-- The pointer to the next request is read from a request that has been freed. -/
  | readFreed (node : NodeId)

/-- `struct sr_instance`, with the log. -/
structure SrInstance where
  /-- The interfaces and the routing table. -/
  cfg : NetConfig
  /-- ARP cache. -/
  cache : SrArpcache
  /-- The NAT state. -/
  nat : SrNat
  /-- Whether the NAT is switched on. -/
  natEnabled : Bool
  /-- What has been done so far. -/
  log : List RouterEvent

/-- What the surroundings supply to a call of the router. -/
structure Surroundings where
  /-- The old content of the blocks that `malloc` returns to `sr_arpcache_queuereq`. -/
  heap : NodeId → ByteMem
  /-- What they supply to the calls of the NAT. -/
  nat : ℕ → Ambient

/-- Read through a pointer that may be null. -/
def deref {α : Type} : Option α → Except Fault α
  | some a => .ok a
  | none => .error .nullDeref

/-- Add to the log. -/
def SrInstance.record (sr : SrInstance) (events : List RouterEvent) : SrInstance :=
  { sr with log := sr.log ++ events }

/-- `sr_send_packet`: from here on the frame is the server's business. -/
def srSendPacket (sr : SrInstance) (origin : Option SrPacket) (frame : ByteMem) (len : UInt32)
    (iface : IfName) : SrInstance :=
  sr.record [.send origin (bytes frame len.toNat) iface]

/-- Put a packet on the ARP queue of the router. -/
def SrInstance.queuereq (sr : SrInstance) (heap : NodeId → ByteMem) (ip : UInt32) (packet : ByteMem)
    (packetLen : UInt32) (iface sender : IfName) : SrInstance :=
  let junk := heap sr.cache.nextNode
  { sr with
    cache := srArpcacheQueuereq sr.cache junk ip packet packetLen iface sender
    log := sr.log ++
      (newPacket junk packet packetLen iface sender).toList.map (RouterEvent.queued ip) }

/-- `sr_send_arp`. -/
def srSendArp (sr : SrInstance) (interface : IfName) (arpType : UInt16) (destEtherAddr : Mac)
    (destIpAddr : UInt32) : Except Fault SrInstance := do
  let interfaceInfo ← deref (srGetInterface sr.cfg.ifList interface)
  let arpPacket :=
    srCreateArppacket arpType interfaceInfo.addr interfaceInfo.ip destEtherAddr destIpAddr
  let frame :=
    srCreateEtherframe sizeofArpPacket arpPacket destEtherAddr interfaceInfo.addr ethertypeArp
  return srSendPacket sr none frame (frameLen sizeofArpPacket) interface

/-- The source address of a message: an echo reply comes from the address the request was sent to,
every other message from that of the interface. -/
def icmpSourceIp (interfaceInfo : Option SrIf) (packet : ByteMem) (type : UInt8) :
    Except Fault UInt32 :=
  if type = icmpTypeEchoreply then .ok (SrIpHdr.ipDst packet)
  else
    match interfaceInfo with
    | some interfaceInfo => .ok interfaceInfo.ip
    | none => .error .nullDeref

/-- The IP packet that `sr_send_icmp` makes, and its length. -/
def icmpIppacket (interfaceInfo : Option SrIf) (packet : ByteMem) (type code : UInt8) :
    Except Fault (UInt32 × ByteMem) := do
  let icmpPacket ← srCreateIcmppacket packet type code
  let sourceIp ← icmpSourceIp interfaceInfo packet type
  return (icmpPacket.1 + UInt32.ofNat sizeofIpHdr,
    srCreateIppacket icmpPacket.1 icmpPacket.2 ipProtocolIcmp sourceIp (SrIpHdr.ipSrc packet))

/-- `sr_send_icmp`: make the message and send it out of `interface`, or have it wait for the Ethernet
address of its destination. -/
def srSendIcmp (ctx : Surroundings) (sr : SrInstance) (packet : ByteMem) (interface : IfName)
    (type code : UInt8) : Except Fault SrInstance := do
  let sr := sr.record [.icmp packet interface type code]
  let interfaceInfo := srGetInterface sr.cfg.ifList interface
  let message ← icmpIppacket interfaceInfo packet type code
  let (loadLen, ipPacket) := message
  let sourceIp := SrIpHdr.ipSrc packet
  match srArpcacheLookup sr.cache sourceIp with
  | some arpentry =>
    let interfaceInfo ← deref interfaceInfo
    let frame := srCreateEtherframe loadLen ipPacket arpentry.mac interfaceInfo.addr ethertypeIp
    return srSendPacket sr none frame (frameLen loadLen) interface
  | none => return sr.queuereq ctx.heap sourceIp ipPacket loadLen interface interface

/-- The packet as `sr_forward_ippacket` sends it on: one hop less to live, and the header checksum
computed again. -/
def decrementTtl (packet : ByteMem) : ByteMem :=
  let packet := SrIpHdr.setIpSum packet 0
  let packet := SrIpHdr.setIpTtl packet (SrIpHdr.ipTtl packet - 1)
  SrIpHdr.setIpSum packet (cksum packet (ipHeaderLen packet))

section Hop

variable {q : ByteMem}

/-- One hop less to live changes the byte of the hops and the checksum. -/
lemma decrementTtl_apply {j : ℕ} (hj : j ≠ 8 ∧ j ≠ 10 ∧ j ≠ 11) : decrementTtl q j = q j := by
  have hsum : j < 10 ∨ 10 + 2 ≤ j := by omega
  simp only [decrementTtl, SrIpHdr.setIpSum, SrIpHdr.setIpTtl, store16_apply_of_disjoint hsum,
    store8_apply_of_ne hj.1]

/-- The source stays. -/
@[simp] lemma ipSrc_decrementTtl (q : ByteMem) :
    SrIpHdr.ipSrc (decrementTtl q) = SrIpHdr.ipSrc q :=
  load32_congr fun _ _ _ => decrementTtl_apply (by omega)

/-- So does the destination. -/
@[simp] lemma ipDst_decrementTtl (q : ByteMem) :
    SrIpHdr.ipDst (decrementTtl q) = SrIpHdr.ipDst q :=
  load32_congr fun _ _ _ => decrementTtl_apply (by omega)

end Hop

/-- `sr_forward_ippacket`. -/
def srForwardIppacket (ctx : Surroundings) (sr : SrInstance) (packet : ByteMem) (len : UInt32)
    (interface : IfName) : Except Fault SrInstance := do
  let lpm ← srRtLookup sr.cfg.routingTable (SrIpHdr.ipDst packet)
  match lpm with
  | some lpm =>
    let packet := decrementTtl packet
    match srArpcacheLookup sr.cache lpm.gw with
    | some arpEntry =>
      let interfaceInfo ← deref (srGetInterface sr.cfg.ifList lpm.interface)
      let frame := srCreateEtherframe len packet arpEntry.mac interfaceInfo.addr ethertypeIp
      return srSendPacket (sr.record [.forward packet len lpm]) none frame (frameLen len)
        lpm.interface
    | none =>
      return (sr.record [.forward packet len lpm]).queuereq ctx.heap lpm.gw packet len lpm.interface
        interface
  | none => srSendIcmp ctx sr packet interface icmpTypeDstunreachable 0

end NatRouter
