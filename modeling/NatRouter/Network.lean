import NatRouter.Protocol

/-!
# Interfaces and routes (`sr_if.c`, `sr_rt.c`)

The interface list and the routing table of the router, with the two lookups the packet code makes:
an interface by its name, and the longest-prefix match for a destination.
-/

namespace NatRouter

/-- Operations of the source whose effect C does not define, or that end the process.  A model
function that comes to one stops with it. -/
inductive Fault where
  /-- A null route or interface is dereferenced. -/
  | nullDeref
  /-- The null result of `sr_nat_insert_connection` is dereferenced. -/
  | nullConn
  /-- A connection is read or written after the sweep has removed it. -/
  | freedConn
  /-- An unsolicited packet is read after it was freed. -/
  | freedUnsol
  /-- A request of the ARP queue is read after it was destroyed. -/
  | freedReq
  /-- A copy of negative, that is huge, length is made. -/
  | overrun
  /-- An `assert` fails. -/
  | assertFailed
  deriving DecidableEq

/-- An Ethernet address. -/
abbrev Mac := Vector UInt8 6

/-- An interface name: the bytes of a `char` array up to its NUL. -/
abbrev IfName := List UInt8

/-- `strncmp(a, b, sr_IFACE_NAMELEN) == 0`: only the first 32 bytes are compared. -/
def sameIfName (a b : IfName) : Bool := a.take 32 = b.take 32

/-- `struct sr_if`. -/
structure SrIf where
  /-- The name of the interface. -/
  name : IfName
  /-- Its Ethernet address. -/
  addr : Mac
  /-- Its IP address, in network byte order. -/
  ip : UInt32

/-- `struct sr_rt`, all addresses in network byte order. -/
structure SrRt where
  /-- Destination network. -/
  dest : UInt32
  /-- Next hop. -/
  gw : UInt32
  /-- Subnet mask. -/
  mask : UInt32
  /-- Output interface. -/
  interface : IfName

/-- The interface list and the routing table of `struct sr_instance`. -/
structure NetConfig where
  /-- `sr->if_list`. -/
  ifList : List SrIf
  /-- `sr->routing_table`. -/
  routingTable : List SrRt

/-- `sr_get_interface`: the first interface of that name. -/
def srGetInterface (ifList : List SrIf) (name : IfName) : Option SrIf :=
  ifList.find? fun i => sameIfName i.name name

/-- The walk of `sr_rt_lookup` over the table, with the best entry so far and its mask. -/
def srRtLookupLoop (ip : UInt32) : List SrRt → Option SrRt → UInt32 → Option SrRt
  | [], lpm, _ => lpm
  | curr :: rest, lpm, longestMask =>
    if ip &&& curr.mask = curr.dest &&& curr.mask ∧ longestMask < ntohl curr.mask then
      srRtLookupLoop ip rest (some curr) (ntohl curr.mask)
    else srRtLookupLoop ip rest lpm longestMask

/-- `sr_rt_lookup`: the entry that matches `ip` with the longest mask.  It asserts that there is a
routing table. -/
def srRtLookup (rt : List SrRt) (ip : UInt32) : Except Fault (Option SrRt) :=
  if rt.isEmpty then .error .assertFailed else .ok (srRtLookupLoop ip rt none 0)

/-- The only way for the lookup to fail is the assertion. -/
lemma srRtLookup_error {rt : List SrRt} {ip : UInt32} {e : Fault} (h : srRtLookup rt ip = .error e) :
    e = .assertFailed := by
  unfold srRtLookup at h
  split at h
  · exact (Except.error.inj h).symm
  · cases h

end NatRouter
