import NatRouter.Routes
import NatRouter.Vns.Comm

/-!
# Verified routing tables (`sr_verify_routing_table`)

When the interfaces are known the router counts the entries of its routing table whose interface
does not exist, and goes on if there are none.  From then on the interface of every route that
`sr_rt_lookup` returns is found by `sr_get_interface`, also when interfaces are added
(`verified_routes`), and the code that looks it up does not test the result: it has no need to.
-/

namespace NatRouter

open ByteMemory Interleaving

/-! ### `sr_main.c` -/

/-- The inner loop of `sr_verify_routing_table`: whether it stops at an interface. -/
def stopsAtInterface (name : IfName) : List SrIf → Bool
  | [] => false
  | ifWalker :: rest => if sameIfName ifWalker.name name then true else stopsAtInterface name rest

/-- The outer loop.  The count is an `int`; nothing is returned if it overflows, for which C defines
nothing. -/
def verifyEntries (ifList : List SrIf) : List SrRt → ℤ → Option ℤ
  | [], ret => some ret
  | rtWalker :: rest, ret =>
    if stopsAtInterface rtWalker.interface ifList then verifyEntries ifList rest ret
    else if ret = 2 ^ 31 - 1 then none
    else verifyEntries ifList rest (ret + 1)

/-- `sr_verify_routing_table`. -/
def srVerifyRoutingTable (cfg : NetConfig) : Option ℤ :=
  if cfg.ifList.isEmpty ∨ cfg.routingTable.isEmpty then some 999
  else verifyEntries cfg.ifList cfg.routingTable 0

/-- Calls of `sr_add_interface`, one after the other. -/
def addInterfaces (ifList : List SrIf) (calls : List ((Mac × UInt32) × IfName)) : List SrIf :=
  calls.foldl (fun ifList call => srAddInterface call.1 ifList call.2) ifList

/-! ### What is verified -/

/-- The inner loop stops exactly if `sr_get_interface` finds the interface. -/
lemma stopsAtInterface_iff {name : IfName} {ifList : List SrIf} :
    stopsAtInterface name ifList = true ↔ ∃ i, srGetInterface ifList name = some i := by
  induction ifList with
  | nil => simp [stopsAtInterface, srGetInterface]
  | cons j rest ih =>
    unfold stopsAtInterface srGetInterface
    rw [List.find?_cons]
    cases hsame : sameIfName j.name name with
    | true => simp
    | false => exact ih

/-- The outer loop counts the entries whose interface does not exist. -/
lemma verifyEntries_eq_some {ifList : List SrIf} {rt : List SrRt} {ret n : ℤ}
    (h : verifyEntries ifList rt ret = some n) :
    n = ret + rt.countP fun e => !stopsAtInterface e.interface ifList := by
  induction rt generalizing ret with
  | nil =>
    obtain rfl := Option.some.inj h
    simp
  | cons e rest ih =>
    unfold verifyEntries at h
    split_ifs at h with hstops hmax
    · rw [List.countP_cons_of_neg (by simp [hstops])]
      exact ih h
    · rw [List.countP_cons_of_pos (by simp [hstops]), Nat.cast_add, Nat.cast_one]
      have hrest := ih h
      omega

/-- The interface of every entry of the table exists. -/
lemma interface_of_verified {cfg : NetConfig} (h : srVerifyRoutingTable cfg = some 0) {e : SrRt}
    (he : e ∈ cfg.routingTable) : ∃ i, srGetInterface cfg.ifList e.interface = some i := by
  unfold srVerifyRoutingTable at h
  split_ifs at h with hempty
  · exact absurd (Option.some.inj h) (by decide)
  · have hcount := verifyEntries_eq_some h
    rw [Int.zero_add] at hcount
    have hall := List.countP_eq_zero.mp (Int.ofNat_eq_zero.mp hcount.symm) e he
    exact stopsAtInterface_iff.mp (by simpa using hall)

/-- The lookup returns an entry of the table. -/
lemma mem_of_srRtLookup {rt : List SrRt} {ip : UInt32} {lpm : SrRt}
    (h : srRtLookup rt ip = .ok (some lpm)) : lpm ∈ rt := by
  unfold srRtLookup at h
  split_ifs at h with hempty
  have hloop := Except.ok.inj h
  rw [srRtLookupLoop_eq_scan] at hloop
  rcases @FirstMaximum.scan_cases _ _ _ (fun e : SrRt => e.Matches ip)
    (fun e => (ntohl e.mask).toNat) _ rt none 0 with ⟨-, hscan⟩ | ⟨e, hmax, -, hscan⟩
  · rw [UInt32.toNat_zero, hscan] at hloop
    cases hloop
  · rw [UInt32.toNat_zero, hscan] at hloop
    exact Option.some.inj hloop ▸ hmax.mem

/-- An interface that is found is still found when others are added. -/
lemma srGetInterface_addInterfaces {ifList : List SrIf} {name : IfName} {i : SrIf}
    (h : srGetInterface ifList name = some i) (calls : List ((Mac × UInt32) × IfName)) :
    srGetInterface (addInterfaces ifList calls) name = some i := by
  induction calls generalizing ifList with
  | nil => exact h
  | cons call rest ih =>
    refine ih ?_
    unfold srGetInterface srAddInterface at *
    rw [List.find?_append, h, Option.some_or]

/-! ### Who relies on it -/

/-- Every route that is found has an interface in the list. -/
def RoutesUsable (cfg : NetConfig) : Prop :=
  ∀ dst lpm, srRtLookup cfg.routingTable dst = .ok (some lpm) →
    ∃ i ∈ cfg.ifList, srGetInterface cfg.ifList lpm.interface = some i

/-- No code that looks up the interface of a route comes to a null pointer. -/
structure RoutesDereferenced (sr : SrInstance) : Prop where
  /-- `sr_forward_ippacket` sends or queues every packet that has a route. -/
  forward : ∀ ctx packet len interface lpm,
    srRtLookup sr.cfg.routingTable (SrIpHdr.ipDst packet) = .ok (some lpm) →
      ∃ sr', srForwardIppacket ctx sr packet len interface = .ok sr'
  /-- `nat_handle_tcp` rewrites the source to the address of an interface. -/
  tcp : ∀ p ipPacketLen o mapping lpm,
    srRtLookup sr.cfg.routingTable
        (SrIpHdr.ipDst (SrTcpHdr.setSrcPort p o (htons mapping.auxExt))) = .ok (some lpm) →
      ∃ i ∈ sr.cfg.ifList, natTcpTranslateSource sr.cfg p ipPacketLen o mapping =
        natTcpUpdateChecksum
          (SrIpHdr.setIpSrc (SrTcpHdr.setSrcPort p o (htons mapping.auxExt)) i.ip) ipPacketLen o
  /-- So does `nat_handle_icmp`. -/
  icmp : ∀ p o mapping dst lpm, srRtLookup sr.cfg.routingTable dst = .ok (some lpm) →
    ∃ i ∈ sr.cfg.ifList, natIcmpTranslateSource sr.cfg p o lpm mapping =
      natIcmpUpdateChecksum
        (SrIpHdr.setIpSrc (SrIcmpHdr.setIdentifier p o (htons mapping.auxExt)) i.ip) o
  /-- `sr_send_icmp` does not stop at a null pointer when it sends along a route. -/
  sendIcmp : ∀ ctx packet dst lpm type code, srRtLookup sr.cfg.routingTable dst = .ok (some lpm) →
    srSendIcmp ctx sr packet lpm.interface type code ≠ .error .nullDeref

/-- A message out of an interface that exists does not come to a null pointer. -/
lemma srSendIcmp_ne_nullDeref {ctx : Surroundings} {sr : SrInstance} {packet : ByteMem}
    {interface : IfName} {type code : UInt8} {i : SrIf}
    (hi : srGetInterface sr.cfg.ifList interface = some i) :
    srSendIcmp ctx sr packet interface type code ≠ .error .nullDeref := by
  intro h
  cases hmessage : icmpIppacket (some i) packet type code with
  | ok message =>
    obtain ⟨sr', hok⟩ := @srSendIcmp_of_message ctx sr packet interface type code i message hi
      hmessage
    rw [hok] at h
    cases h
  | error e =>
    have hi' : srGetInterface (sr.record [.icmp packet interface type code]).cfg.ifList interface =
        some i := hi
    unfold srSendIcmp at h
    simp only [hi', hmessage, bind, Except.bind] at h
    obtain rfl := Except.error.inj h
    unfold icmpIppacket srCreateIcmppacket icmpContent icmpSourceIp at hmessage
    simp only [bind, Except.bind] at hmessage
    split_ifs at hmessage <;> cases hmessage

/-- Routes that are usable are used without a null pointer. -/
lemma RoutesUsable.dereferenced {sr : SrInstance} (h : RoutesUsable sr.cfg) :
    RoutesDereferenced sr where
  forward ctx packet len interface lpm hlookup := by
    obtain ⟨i, -, hi⟩ := h _ lpm hlookup
    cases hcache : srArpcacheLookup sr.cache lpm.gw with
    | none => exact ⟨_, srForwardIppacket_miss hlookup hcache⟩
    | some entry => exact ⟨_, srForwardIppacket_hit hlookup hcache hi⟩
  tcp p ipPacketLen o mapping lpm hlookup := by
    obtain ⟨i, hmem, hi⟩ := h _ lpm hlookup
    exact ⟨i, hmem, by simp only [natTcpTranslateSource, hlookup, hi]⟩
  icmp p o mapping dst lpm hlookup := by
    obtain ⟨i, hmem, hi⟩ := h _ lpm hlookup
    exact ⟨i, hmem, by simp only [natIcmpTranslateSource, hi]⟩
  sendIcmp ctx packet dst lpm type code hlookup := by
    obtain ⟨i, -, hi⟩ := h _ lpm hlookup
    exact srSendIcmp_ne_nullDeref hi

/-- **A verified routing table never leads to a missing interface**, however many interfaces are
added afterwards. -/
theorem verified_routes {cfg : NetConfig} (h : srVerifyRoutingTable cfg = some 0)
    (calls : List ((Mac × UInt32) × IfName)) :
    RoutesUsable { cfg with ifList := addInterfaces cfg.ifList calls } ∧
      ∀ sr : SrInstance, sr.cfg = { cfg with ifList := addInterfaces cfg.ifList calls } →
        RoutesDereferenced sr := by
  have husable : RoutesUsable { cfg with ifList := addInterfaces cfg.ifList calls } := by
    intro dst lpm hlookup
    obtain ⟨i, hi⟩ := interface_of_verified h (mem_of_srRtLookup hlookup)
    have hgrown := srGetInterface_addInterfaces hi calls
    exact ⟨i, List.mem_of_find?_eq_some hgrown, hgrown⟩
  refine ⟨husable, fun sr hcfg => RoutesUsable.dereferenced ?_⟩
  rw [hcfg]
  exact husable

/-- The router `twoSided`, when an interface is added. -/
theorem verified_routes_twoSided :
    RoutesUsable { twoSided with
      ifList := addInterfaces twoSided.ifList [((Vector.replicate 6 0, 0), [101, 116, 104, 51])] } ∧
      ∀ sr : SrInstance, sr.cfg =
        { twoSided with
          ifList :=
            addInterfaces twoSided.ifList [((Vector.replicate 6 0, 0), [101, 116, 104, 51])] } →
        RoutesDereferenced sr :=
  verified_routes (by decide) [((Vector.replicate 6 0, 0), [101, 116, 104, 51])]

end NatRouter
