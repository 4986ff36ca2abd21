import NatRouter.Nat.Occupancy
import NatRouter.Router.FrameBounds
import NatRouter.Routes
import NatRouter.Vns.Comm

/-!
# Safe frames

A frame is safe if no access leaves it, whatever the interfaces and routes of the router are and
whatever the NAT has seen before (`FrameSafe`).  What a frame may cause is seen at routers with one
interface (`site`): its address decides whether a packet is for the router, and the hosts that have a
route decide where it can be forwarded to.
-/

namespace NatRouter

open ByteMemory Interleaving Footprint

/-- Wherever `sr_handlepacket` is given the frame, every byte of it that is read or written has an
index below its length. -/
def FrameSafe (natEnabled : Bool) (frame : ByteMem) (len : UInt32) : Prop :=
  ∀ cfg interface nat, srArpReqNotForUs cfg ⟨frame, len, interface⟩ = .ok false → Reached nat →
    StaysInside natSem natEnv len.toNat (InFrame.srHandlepacket cfg natEnabled frame len interface)
      nat

/-! ### Routers with one interface -/

/-- A router with one interface, and routes to single hosts. -/
def site (mac : Mac) (ip : UInt32) (hosts : List UInt32) : NetConfig where
  ifList := [⟨outerInterface.name, mac, ip⟩]
  routingTable := hosts.map fun host => ⟨host, host, 0xffffffff, outerInterface.name⟩

section Site

variable {mac : Mac} {ip host : UInt32} {hosts : List UInt32}

/-- Its interface. -/
lemma srGetInterface_site :
    srGetInterface (site mac ip hosts).ifList outerInterface.name =
      some ⟨outerInterface.name, mac, ip⟩ := rfl

/-- The masks of its routes. -/
lemma isContiguous_site : ∀ e ∈ (site mac ip hosts).routingTable, IsContiguous e.mask := by
  intro e he
  obtain ⟨host, -, rfl⟩ := List.mem_map.mp he
  exact ⟨32, le_rfl, show (ntohl 0xffffffff).toNat = leadingOnes 32 by decide⟩

/-- A route matches its host only. -/
lemma matches_site (host : UInt32) {e : SrRt} (he : e ∈ (site mac ip hosts).routingTable) :
    (e.Matches host ↔ e.dest = host) ∧ e.dest ∈ hosts ∧ e.mask ≠ 0 ∧
      e.interface = outerInterface.name := by
  obtain ⟨dest, hdest, rfl⟩ := List.mem_map.mp he
  refine ⟨?_, hdest, show (0xffffffff : UInt32) ≠ 0 by decide, rfl⟩
  have hand : ∀ x : UInt32, x &&& 0xffffffff = x := fun x => by
    rw [← UInt32.toNat_inj, UInt32.toNat_and]
    exact Nat.and_two_pow_sub_one_of_lt_two_pow x.toNat_lt
  rw [SrRt.Matches, hand, hand, eq_comm]

/-- There is a route to each of the hosts. -/
lemma srRtLookup_site (h : host ∈ hosts) :
    ∃ lpm, srRtLookup (site mac ip hosts).routingTable host = .ok (some lpm) ∧
      lpm.interface = outerInterface.name := by
  have hne : ¬ (site mac ip hosts).routingTable.isEmpty = true := by
    rw [List.isEmpty_iff, site, List.map_eq_nil_iff]
    exact List.ne_nil_of_mem h
  rw [srRtLookup, if_neg hne]
  rcases @srRtLookupLoop_cases _ host (@isContiguous_site mac ip hosts) with
    ⟨hnone, -⟩ | ⟨e, hmax, -, hloop⟩
  · have hmem : (⟨host, host, 0xffffffff, outerInterface.name⟩ : SrRt) ∈
        (site mac ip hosts).routingTable := List.mem_map.mpr ⟨host, h, rfl⟩
    obtain ⟨hdest, -, hmask, -⟩ := matches_site host hmem
    exact absurd (hnone _ hmem (hdest.mpr rfl)) hmask
  · exact ⟨e, by rw [hloop], (matches_site host hmax.mem).2.2.2⟩

/-- There is no other route. -/
lemma srRtLookup_site_none (hne : hosts ≠ []) (h : host ∉ hosts) :
    srRtLookup (site mac ip hosts).routingTable host = .ok none := by
  have hne' : ¬ (site mac ip hosts).routingTable.isEmpty = true := by
    rw [List.isEmpty_iff, site, List.map_eq_nil_iff]
    exact hne
  rw [srRtLookup, if_neg hne']
  rcases @srRtLookupLoop_cases _ host (@isContiguous_site mac ip hosts) with
    ⟨-, hloop⟩ | ⟨e, hmax, -, -⟩
  · rw [hloop]
  · obtain ⟨hdest, hmem, -⟩ := matches_site host hmax.mem
    exact absurd (hdest.mp hmax.accepted ▸ hmem) h

/-- What is for it. -/
lemma isForRouter_site :
    isForRouter (site mac ip hosts) host = (ip = host || host = ipBroadcastAddr) := by
  simp [isForRouter, isRouterIp, site]

end Site

/-! ### From frames to packets -/

/-- What is asked of the frame when its load is an IP packet. -/
def PacketSafe (mac : Mac) (natEnabled : Bool) (p : ByteMem) (len : UInt32) : Prop :=
  ∀ ip hosts nat, Reached nat → StaysInside natSem natEnv (sizeofEthernetHdr + len.toNat)
    (InFrame.srHandleIppacket (site mac ip hosts) natEnabled p len) nat

/-- Bytes of the load that are inside. -/
lemma end_of_load {i n len : ℕ} (h : (InFrame.load i n).Inside (sizeofEthernetHdr + len))
    (hn : 0 < n) : i + n ≤ len := by
  have hle := h.le hn
  simp only [InFrame.load] at hle
  omega

section Frames

variable {natEnabled : Bool} {frame : ByteMem} {len : UInt32} {ip : UInt32} {hosts : List UInt32}

/-- Of the frames that are long enough for an ARP packet, only ARP packets are held back. -/
lemma srArpReqNotForUs_site {mac : Mac}
    (h : len.toNat < 42 ∨ ntohs (load16 frame 12) ≠ ethertypeArp) :
    srArpReqNotForUs (site mac ip hosts) ⟨frame, len, outerInterface.name⟩ = .ok false := by
  unfold srArpReqNotForUs
  split_ifs with hlen
  · rfl
  · have harp : load16 frame 12 ≠ htons ethertypeArp := by
      rintro heq
      rcases h with h | h
      · exact hlen (UInt32.lt_iff_toNat_lt.mpr h)
      · exact h (by rw [heq, ntohs_htons])
    simp [srGetInterface_site, harp]

/-- What a router with one interface does with a frame for it. -/
lemma srHandlepacket_site :
    InFrame.srHandlepacket (site (loadMac frame 0) ip hosts) natEnabled frame len
        outerInterface.name =
      accessing [InFrame.etherDhost] (accessing [InFrame.etherType] <|
        if ntohs (load16 frame 12) = ethertypeArp then
          accessing (InFrame.srHandleArp (frameLoad frame)) (.ret (.arp (frameLoad frame)))
        else if ntohs (load16 frame 12) = ethertypeIp then
          (InFrame.srHandleIppacket (site (loadMac frame 0) ip hosts) natEnabled (frameLoad frame)
            (frameLoadLen len)).map .ip
        else .ret .drop) := by
  unfold InFrame.srHandlepacket
  rw [srGetInterface_site]
  simp [isMisdirected]

/-- A safe frame has an Ethernet header. -/
lemma FrameSafe.header (h : FrameSafe natEnabled frame len) : sizeofEthernetHdr ≤ len.toNat := by
  by_contra hshort
  simp only [sizeofEthernetHdr] at hshort
  have hsite := h (site (loadMac frame 0) 0 []) outerInterface.name startState
    (srArpReqNotForUs_site (.inl (by omega))) reached_startState
  rw [srHandlepacket_site] at hsite
  have hle := (hsite.access.2.access.1 InFrame.etherType (List.mem_singleton_self _)).le (by decide)
  exact hshort hle

/-- A safe frame that carries an ARP packet. -/
lemma FrameSafe.arp (h : FrameSafe natEnabled frame len)
    (harp : ntohs (load16 frame 12) = ethertypeArp) :
    ArpFits (frameLoad frame) (frameLoadLen len) := by
  have hload := toNat_frameLoadLen h.header
  simp only [sizeofEthernetHdr] at hload
  by_cases hlong : len.toNat < 42
  · have hsite := h (site (loadMac frame 0) 0 []) outerInterface.name startState
      (srArpReqNotForUs_site (.inl hlong)) reached_startState
    rw [srHandlepacket_site, if_pos harp] at hsite
    have hspans := hsite.access.2.access.2.access.1
    have hinside : ∀ x ∈ InFrame.srHandleArp (frameLoad frame),
        x.Inside (sizeofEthernetHdr + (frameLoadLen len).toNat) := by
      rwa [toNat_frameLoadLen h.header]
    unfold InFrame.srHandleArp at hinside
    refine ⟨?_, fun hhrd => ⟨?_, fun hpro => ?_⟩⟩
    · refine end_of_load (hinside InFrame.arHrd ?_) (by decide)
      split_ifs <;> exact List.mem_cons_self
    · rw [if_pos hhrd] at hinside
      refine end_of_load (hinside InFrame.arPro ?_) (by decide)
      split_ifs <;> exact List.mem_cons_of_mem _ List.mem_cons_self
    · rw [if_pos hhrd, if_pos hpro] at hinside
      exact end_of_load (hinside InFrame.arSip (by simp)) (by decide)
  · refine ⟨?_, fun _ => ⟨?_, fun _ => ?_⟩⟩
    all_goals omega

/-- A safe frame that carries an IP packet. -/
lemma FrameSafe.ipPacket (h : FrameSafe natEnabled frame len)
    (hip : ntohs (load16 frame 12) = ethertypeIp) :
    PacketSafe (loadMac frame 0) natEnabled (frameLoad frame) (frameLoadLen len) := by
  intro ip hosts nat hnat
  have harp : ntohs (load16 frame 12) ≠ ethertypeArp := by
    rw [hip]
    decide
  have hsite := h (site (loadMac frame 0) ip hosts) outerInterface.name nat
    (srArpReqNotForUs_site (.inr harp)) hnat
  rw [srHandlepacket_site, if_neg harp, if_pos hip] at hsite
  rw [toNat_frameLoadLen h.header]
  exact hsite.access.2.access.2.of_map

end Frames

/-! ### What is decided about a packet -/

/-- It is done what was decided. -/
abbrev performing (cfg : NetConfig) (action : IpAction) : InFrame.FrameProg IpAction :=
  accessing (InFrame.perform cfg action) (.ret action)

/-- An address of the router for which a packet is for the router. -/
def ownIp (p : ByteMem) : UInt32 :=
  if SrIpHdr.ipDst p = ipBroadcastAddr then outerInterface.ip else SrIpHdr.ipDst p

/-- An address of the router for which a packet is in transit, unless it is a broadcast. -/
def otherIp (p : ByteMem) : UInt32 :=
  if SrIpHdr.ipDst p = outerInterface.ip then outerRoute.gw else outerInterface.ip

section Packets

variable {mac : Mac} {natEnabled : Bool} {p : ByteMem} {len : UInt32} {nat : SrNat}

/-- `cksum` over bytes that are inside. -/
lemma end_of_cksum {i len : ℕ} {n : ℤ} (h : (InFrame.cksum i n).Inside (sizeofEthernetHdr + len))
    (hi : i ≤ len) : i + n.toNat ≤ len := by
  rcases Nat.eq_zero_or_pos n.toNat with hn | hn
  · rwa [hn]
  · exact end_of_load h hn

/-- A packet is for the router that has this address. -/
lemma isForRouter_ownIp (hosts : List UInt32) :
    isForRouter (site mac (ownIp p) hosts) (SrIpHdr.ipDst p) = true := by
  rw [isForRouter_site, ownIp]
  split_ifs with h <;> simp [h]

/-- A packet is not for the router that has the other address. -/
lemma isForRouter_otherIp (hdst : SrIpHdr.ipDst p ≠ ipBroadcastAddr) (hosts : List UInt32) :
    isForRouter (site mac (otherIp p) hosts) (SrIpHdr.ipDst p) = false := by
  have hne : outerRoute.gw ≠ outerInterface.ip := by decide
  rw [isForRouter_site, otherIp]
  split_ifs with h
  · simp [h, hne, h ▸ hdst]
  · simp [Ne.symm h, hdst]

/-- The header of a packet that is summed. -/
lemma PacketSafe.ipHeader (h : PacketSafe mac natEnabled p len) (hmax : len ≤ ipMaxpacket)
    (hmin : UInt32.ofNat sizeofIpHdr < len) : ipHeaderLen p ≤ len.toNat := by
  have hsize : ¬ (ipMaxpacket < len ∨ len ≤ UInt32.ofNat sizeofIpHdr) :=
    not_or.mpr ⟨UInt32.not_lt.mpr hmax, UInt32.not_le.mpr hmin⟩
  have hsite := (h 0 [] startState reached_startState).first
  rw [InFrame.ipAction, if_neg hsize] at hsite
  have hsum := hsite.access.1 (InFrame.cksum 0 (ipHeaderLen p)) (by simp)
  simpa using end_of_cksum hsum (Nat.zero_le _)

/-- A packet that passes the tests goes its way. -/
lemma staysInside_of_accepted {cfg : NetConfig} {N : ℕ} (hok : Accepted p len)
    (h : StaysInside natSem natEnv N (InFrame.srHandleIppacket cfg natEnabled p len) nat) :
    StaysInside natSem natEnv N
      (andThen (performing cfg)
        (if isForRouter cfg (SrIpHdr.ipDst p) then InFrame.routerAction cfg natEnabled p len
        else InFrame.transitAction cfg natEnabled p len)) nat := by
  obtain ⟨hmax, hmin, hsum⟩ := hok
  have hsize : ¬ (ipMaxpacket < len ∨ len ≤ UInt32.ofNat sizeofIpHdr) :=
    not_or.mpr ⟨UInt32.not_lt.mpr hmax, UInt32.not_le.mpr hmin⟩
  have hsum' : ¬ cksum (SrIpHdr.setIpSum p 0) (ipHeaderLen p) ≠ SrIpHdr.ipSum p := not_not.mpr hsum
  unfold InFrame.srHandleIppacket InFrame.ipAction at h
  simp only [if_neg hsize, if_neg hsum', setIpSum_restore] at h
  exact h.access.2.access.2

/-- It may be for the router. -/
lemma PacketSafe.toRouter (h : PacketSafe mac natEnabled p len) (hok : Accepted p len)
    (hosts : List UInt32) (hnat : Reached nat) :
    StaysInside natSem natEnv (sizeofEthernetHdr + len.toNat)
      (andThen (performing (site mac (ownIp p) hosts))
        (InFrame.routerAction (site mac (ownIp p) hosts) natEnabled p len)) nat := by
  have hsite := staysInside_of_accepted hok (h (ownIp p) hosts nat hnat)
  rwa [if_pos (isForRouter_ownIp hosts)] at hsite

/-- It may be in transit, unless it is a broadcast. -/
lemma PacketSafe.inTransit (h : PacketSafe mac natEnabled p len) (hok : Accepted p len)
    (hdst : SrIpHdr.ipDst p ≠ ipBroadcastAddr) (hosts : List UInt32) (hnat : Reached nat) :
    StaysInside natSem natEnv (sizeofEthernetHdr + len.toNat)
      (andThen (performing (site mac (otherIp p) hosts))
        (InFrame.transitAction (site mac (otherIp p) hosts) natEnabled p len)) nat := by
  have hsite := staysInside_of_accepted hok (h (otherIp p) hosts nat hnat)
  rwa [if_neg (Bool.eq_false_iff.mp (isForRouter_otherIp hdst hosts))] at hsite

/-- An error quotes the first 28 bytes of what it is about. -/
lemma quote_of_sendIcmp {cfg : NetConfig} {q : ByteMem} {type code : UInt8}
    (htype : type ≠ icmpTypeEchoreply)
    (h : StaysInside natSem natEnv (sizeofEthernetHdr + len.toNat)
      (performing cfg (.sendIcmp q type code)) nat) : icmpDataSize ≤ len.toNat := by
  have hspans := h.access.1
  rw [InFrame.perform, InFrame.srCreateIcmppacket, if_pos htype] at hspans
  simpa using end_of_load (hspans _ (List.mem_singleton_self _)) (by decide)

/-- It is sent about a packet without a route. -/
lemma quote_of_forward {cfg : NetConfig} {q : ByteMem}
    (hnone : srRtLookup cfg.routingTable (SrIpHdr.ipDst q) = .ok none)
    (h : StaysInside natSem natEnv (sizeofEthernetHdr + len.toNat) (performing cfg (.forward q))
      nat) : icmpDataSize ≤ len.toNat := by
  have hspans := h.access.1
  rw [InFrame.perform, InFrame.srForwardIppacket, hnone] at hspans
  simp only [InFrame.srCreateIcmppacket] at hspans
  rw [if_pos (by decide)] at hspans
  simpa using end_of_load (hspans _ (List.mem_singleton_self _)) (by decide)

end Packets

end NatRouter
