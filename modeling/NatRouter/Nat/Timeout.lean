import NatRouter.Nat.Connection

/-!
# The timeout sweep (`sr_nat_timeout`)

One pass of the periodic loop, made under `nat->lock`: waiting unsolicited packets past their time
are removed and reported, connections that are closed or idle for too long are removed, and with
them the mappings nobody uses any more, whose external ids become free.
-/

namespace NatRouter

open PackedBits

/-- The walk over `nat->unsol_pkt`: the packets to report, each with the route to its source, and
the packets kept. -/
def sweepUnsol (routingTable : List SrRt) (curtime : Time) :
    List SrNatUnsolPkt → Except Fault (List (SrNatUnsolPkt × SrRt) × List SrNatUnsolPkt)
  | [] => .ok ([], [])
  | curr :: rest =>
    match srRtLookup routingTable (SrIpHdr.ipSrc curr.ipPacket) with
    | .error e => .error e
    | .ok lpm =>
      match sweepUnsol routingTable curtime rest with
      | .error e => .error e
      | .ok (reported, kept) =>
        match lpm with
        | some route =>
          if defaultTcpSynTo < curtime - curr.lastUpdated then .ok ((curr, route) :: reported, kept)
          else .ok (reported, curr :: kept)
        | none => .ok (reported, curr :: kept)

/-- The test by which the sweep frees a connection. -/
def connExpired (nat : SrNat) (curtime : Time) (c : SrNatConnection) : Bool :=
  if c.state = .estab ∧ (nat.tcpEstabIdleTo.toNat : ℤ) < curtime - c.lastUpdated then true
  else if c.state = .closed then true
  else if (nat.tcpTransitoryTo.toNat : ℤ) < curtime - c.lastUpdated then true
  else false

/-- The connections of a mapping that the sweep keeps. -/
def sweepConns (nat : SrNat) (curtime : Time) (conns : List SrNatConnection) :
    List SrNatConnection :=
  conns.filter fun c => !connExpired nat curtime c

/-- What the sweep leaves of one mapping: nothing if it is removed. -/
def sweepMapping (nat : SrNat) (curtime : Time) (curr : SrNatMapping) : Option SrNatMapping :=
  match curr.type with
  | .natMappingIcmp =>
    if (nat.icmpQueryTo.toNat : ℤ) < curtime - curr.lastUpdated then none else some curr
  | .natMappingTcp =>
    match sweepConns nat curtime curr.conns with
    | [] => none
    | conns => some { curr with conns := conns }

/-- The walk over `nat->mappings`: the mappings kept, and the bitmap in which `ClearBit` has freed
the ids of the others. -/
def sweepMappings (nat : SrNat) (curtime : Time) :
    List SrNatMapping → Bitmap → List SrNatMapping × Bitmap
  | [], bitmap => ([], bitmap)
  | curr :: rest, bitmap =>
    match sweepMapping nat curtime curr with
    | none => sweepMappings nat curtime rest (clearBit bitmap curr.auxExt.toNat)
    | some curr' =>
      let (kept, bitmap') := sweepMappings nat curtime rest bitmap
      (curr' :: kept, bitmap')

/-- One pass of `sr_nat_timeout` over the NAT state, with the unsolicited packets for which an ICMP
error is sent on the interface of the route to their source. -/
def natTimeout (routingTable : List SrRt) (curtime : Time) (nat : SrNat) :
    Except Fault (List (SrNatUnsolPkt × SrRt) × SrNat) :=
  match nat.unsolPkt with
  | .dangling => .error .freedUnsol
  | .linked pkts =>
    match sweepUnsol routingTable curtime pkts with
    | .error e => .error e
    | .ok (reported, kept) =>
      let (mappings, bitmap) := sweepMappings nat curtime nat.mappings nat.bitmap
      .ok (reported, { nat with
        mappings := mappings
        bitmap := bitmap
        unsolPkt := .linked kept })

end NatRouter
