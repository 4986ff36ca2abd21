import NatRouter.Arp.Requests

/-!
# The next hop of a message

`sr_forward_ippacket` sends a packet to the gateway of its route, out of the interface of the route.
`sr_send_icmp` looks for no route: it asks for the Ethernet address of the destination itself, and sends
the message out of the interface it is given.  The two agree exactly where the destination is its own
gateway and its route leads back to that interface (`sameHop_iff`).
-/

namespace NatRouter

open ByteMemory

/-- From `sr` to `sr'` a packet goes to the next hop `nh` out of `iface`: in a frame to the Ethernet
address that the cache has for `nh`, or it is put on the ARP queue to wait for that. -/
def SendsTo (sr sr' : SrInstance) (nh : UInt32) (iface : IfName) : Prop :=
  ∃ events, sr'.log = sr.log ++ events ∧
    ((∃ entry load shost name, ∃ len : UInt32, srArpcacheLookup sr.cache nh = some entry ∧
        sameIfName name iface = true ∧
        RouterEvent.send none (bytes (srCreateEtherframe len load entry.mac shost ethertypeIp)
          (frameLen len).toNat) name ∈ events) ∨
      srArpcacheLookup sr.cache nh = none ∧
        ∃ pkt, RouterEvent.queued nh pkt ∈ events ∧ sameIfName pkt.iface iface = true)

/-- From the same state, two packets go to the same next hop out of the same interface. -/
def SameHop (sr sr₁ sr₂ : SrInstance) : Prop :=
  ∃ nh iface, SendsTo sr sr₁ nh iface ∧ SendsTo sr sr₂ nh iface

/-- A message to `d` that `sr_send_icmp` sends out of `interface` goes the way of every packet to `d`
that `sr_forward_ippacket` sends, in every state of the router. -/
def SendersAgree (cfg : NetConfig) (d : UInt32) (interface : IfName) : Prop :=
  ∀ (ctx ctx' : Surroundings) (sr sr₁ sr₂ : SrInstance) (p q : ByteMem) (type code : UInt8)
    (len : UInt32) (incoming : IfName), sr.cfg = cfg → SrIpHdr.ipSrc p = d → SrIpHdr.ipDst q = d →
    UInt32.ofNat sizeofIpHdr < len → srSendIcmp ctx sr p interface type code = .ok sr₁ →
    srForwardIppacket ctx' sr q len incoming = .ok sr₂ → SameHop sr sr₁ sr₂

section Senders

variable {ctx : Surroundings} {sr sr' : SrInstance} {packet : ByteMem} {len : UInt32}
  {interface name iface : IfName}

/-- Names are compared up to the length of an interface name. -/
lemma sameIfName_refl (name : IfName) : sameIfName name name = true := decide_eq_true rfl

/-- A copied name is the name. -/
lemma sameIfName_copyIfName (name : IfName) : sameIfName (copyIfName name) name = true := by
  unfold sameIfName copyIfName
  rw [List.take_take, min_self]
  exact decide_eq_true rfl

/-- Two names of one interface are the same. -/
lemma sameIfName_trans {a b : IfName} (ha : sameIfName name a = true)
    (hb : sameIfName name b = true) : sameIfName a b = true := by
  unfold sameIfName at ha hb ⊢
  exact decide_eq_true ((of_decide_eq_true ha).symm.trans (of_decide_eq_true hb))

/-- A packet is queued for its next hop. -/
lemma queued_mem_queuereq {heap : NodeId → ByteMem} {ip : UInt32} {sender : IfName}
    (hlen : len ≠ 0) : ∃ pkt, RouterEvent.queued ip pkt ∈
      (newPacket (heap sr.cache.nextNode) packet len iface sender).toList.map
        (RouterEvent.queued ip) ∧ pkt.iface = copyIfName iface := by
  unfold newPacket
  rw [if_pos hlen]
  exact ⟨_, List.mem_cons_self, rfl⟩

/-- **The way of a message**: to its destination, out of the interface given. -/
lemma sendsTo_srSendIcmp {type code : UInt8}
    (h : srSendIcmp ctx sr packet interface type code = .ok sr') :
    SendsTo sr sr' (SrIpHdr.ipSrc packet) interface := by
  obtain ⟨⟨loadLen, ipPacket⟩, hmessage, hsend⟩ := bind_eq_ok.mp h
  simp only [SrInstance.record] at hsend
  split at hsend
  · rename_i entry hlookup
    obtain ⟨i, -, hsend⟩ := bind_eq_ok.mp hsend
    obtain rfl := Except.ok.inj hsend
    exact ⟨_, List.append_assoc .., .inl ⟨entry, ipPacket, i.addr, interface, loadLen, hlookup,
      sameIfName_refl interface, List.mem_cons_of_mem _ List.mem_cons_self⟩⟩
  · rename_i hlookup
    obtain rfl := Except.ok.inj hsend
    obtain ⟨pkt, hpkt, hiface⟩ := @queued_mem_queuereq sr ipPacket loadLen interface ctx.heap
      (SrIpHdr.ipSrc packet) interface (icmpIppacket_len_ne_zero hmessage)
    exact ⟨_, List.append_assoc .., .inr ⟨hlookup, pkt, List.mem_cons_of_mem _ hpkt,
      hiface ▸ sameIfName_copyIfName interface⟩⟩

/-- **The way of a forwarded packet**: to the gateway of its route, out of the interface of the
route. -/
lemma sendsTo_srForwardIppacket {lpm : SrRt}
    (hroute : srRtLookup sr.cfg.routingTable (SrIpHdr.ipDst packet) = .ok (some lpm))
    (hlen : UInt32.ofNat sizeofIpHdr < len)
    (h : srForwardIppacket ctx sr packet len interface = .ok sr') :
    SendsTo sr sr' lpm.gw lpm.interface := by
  have hpos : len ≠ 0 := by
    rintro rfl
    exact absurd hlen (by decide)
  obtain ⟨hnone, -⟩ | ⟨lpm', hroute', hcase⟩ := srForwardIppacket_cases h
  · rw [hroute] at hnone
    cases hnone
  · obtain rfl : lpm = lpm' := Option.some.inj (Except.ok.inj (hroute.symm.trans hroute'))
    cases hlookup : srArpcacheLookup sr.cache lpm.gw with
    | none =>
      obtain rfl := Except.ok.inj ((srForwardIppacket_miss hroute hlookup).symm.trans h)
      obtain ⟨pkt, hpkt, hiface⟩ := @queued_mem_queuereq sr (decrementTtl packet) len lpm.interface
        ctx.heap lpm.gw interface hpos
      exact ⟨_, List.append_assoc .., .inr ⟨hlookup, pkt, List.mem_cons_of_mem _ hpkt,
        hiface ▸ sameIfName_copyIfName lpm.interface⟩⟩
    | some entry =>
      obtain ⟨i, -, hi, -⟩ | ⟨hmiss, -⟩ := hcase
      · obtain rfl := Except.ok.inj ((srForwardIppacket_hit hroute hlookup hi).symm.trans h)
        exact ⟨_, List.append_assoc .., .inl ⟨entry, decrementTtl packet, i.addr, lpm.interface, len,
          hlookup, sameIfName_refl lpm.interface, List.mem_cons_of_mem _ List.mem_cons_self⟩⟩
      · rw [hlookup] at hmiss
        cases hmiss

/-- A way out of an interface is one under every name of the interface. -/
lemma SendsTo.of_sameIfName {nh : UInt32} (h : SendsTo sr sr' nh iface)
    (hname : sameIfName iface name = true) : SendsTo sr sr' nh name := by
  have htrans : ∀ {a : IfName}, sameIfName a iface = true → sameIfName a name = true := by
    intro a ha
    unfold sameIfName at ha hname ⊢
    exact decide_eq_true ((of_decide_eq_true ha).trans (of_decide_eq_true hname))
  obtain ⟨events, hlog, ⟨entry, load, shost, name', len, hlookup, hsame, hmem⟩ |
    ⟨hlookup, pkt, hmem, hsame⟩⟩ := h
  · exact ⟨events, hlog, .inl ⟨entry, load, shost, name', len, hlookup, htrans hsame, hmem⟩⟩
  · exact ⟨events, hlog, .inr ⟨hlookup, pkt, hmem, htrans hsame⟩⟩

/-- Where nothing is known, a packet that was queued went that way only. -/
lemma SendsTo.eq_of_queued {nh ip : UInt32} {events : List RouterEvent} {name : IfName}
    (h : SendsTo sr sr' nh iface) (hlog : sr'.log = sr.log ++ events)
    (hnone : ∀ ip, srArpcacheLookup sr.cache ip = none)
    (honly : ∀ ip' pkt, RouterEvent.queued ip' pkt ∈ events → ip' = ip ∧ pkt.iface = copyIfName name) :
    nh = ip ∧ sameIfName name iface = true := by
  obtain ⟨events', hlog', ⟨entry, load, shost, name', len, hlookup, -⟩ |
    ⟨-, pkt, hmem, hsame⟩⟩ := h
  · rw [hnone] at hlookup
    cases hlookup
  · obtain rfl : events = events' := List.append_cancel_left (hlog.symm.trans hlog')
    obtain ⟨hip, hiface⟩ := honly nh pkt hmem
    rw [hiface] at hsame
    exact ⟨hip, sameIfName_trans (sameIfName_copyIfName name) hsame⟩

/-- What `sr_arpcache_queuereq` queues, it queues for its address and with its interface. -/
lemma eq_of_mem_queued {junk : ByteMem} {ip ip' : UInt32} {sender : IfName} {pkt : SrPacket}
    {first : RouterEvent} (hfirst : RouterEvent.queued ip' pkt ≠ first)
    (h : RouterEvent.queued ip' pkt ∈ first ::
      (newPacket junk packet len iface sender).toList.map (RouterEvent.queued ip)) :
    ip' = ip ∧ pkt.iface = copyIfName iface := by
  rcases List.mem_cons.mp h with hold | hnew
  · exact absurd hold hfirst
  · obtain ⟨pkt', hpkt, heq⟩ := List.mem_map.mp hnew
    cases heq
    unfold newPacket at hpkt
    split_ifs at hpkt
    · obtain rfl := List.mem_singleton.mp hpkt
      exact ⟨rfl, rfl⟩
    · cases hpkt

end Senders

/-- Where the two senders agree, the destination is its own gateway, and its route goes out of the
interface that `sr_send_icmp` is given. -/
lemma SendersAgree.gateway {cfg : NetConfig} {d : UInt32} {lpm : SrRt} {interface : IfName} {i : SrIf}
    (hagree : SendersAgree cfg d interface)
    (hroute : srRtLookup cfg.routingTable d = .ok (some lpm))
    (hi : srGetInterface cfg.ifList interface = some i) :
    lpm.gw = d ∧ sameIfName lpm.interface interface = true := by
  -- a router whose ARP cache is empty, where both packets have to wait
  let sr : SrInstance := ⟨cfg, srArpcacheInit, startState, true, []⟩
  let p : ByteMem := SrIpHdr.setIpSrc (fun _ => 0) d
  let q : ByteMem := SrIpHdr.setIpDst (fun _ => 0) d
  have hp : SrIpHdr.ipSrc p = d := load32_store32_self ..
  have hq : SrIpHdr.ipDst q = d := load32_store32_self ..
  have hnone : ∀ ip, srArpcacheLookup sr.cache ip = none := srArpcacheLookup_init
  obtain ⟨sr₁, hsend⟩ := @srSendIcmp_of_interface quietSurroundings sr p interface
    icmpTypeDstunreachable 0 (by decide) i hi
  have hforward := @srForwardIppacket_miss quietSurroundings sr q 40 interface lpm
    (by rw [hq]; exact hroute) (hnone lpm.gw)
  obtain ⟨nh, iface, hmessage, hpacket⟩ := hagree _ _ sr sr₁ _ p q _ _ 40 interface rfl hp hq
    (by decide) hsend hforward
  obtain ⟨rfl, hname⟩ : nh = d ∧ sameIfName interface iface = true := by
    obtain ⟨loadLen, ipPacket, -, ⟨entry, frame, hlookup, -⟩ | ⟨-, rfl⟩⟩ := srSendIcmp_cases hsend
    · rw [hnone] at hlookup
      cases hlookup
    · rw [hp] at hmessage
      refine hmessage.eq_of_queued (List.append_assoc ..) hnone fun ip' pkt hmem => ?_
      exact eq_of_mem_queued (fun heq => by cases heq) hmem
  obtain ⟨hgw, hname'⟩ : nh = lpm.gw ∧ sameIfName lpm.interface iface = true := by
    refine hpacket.eq_of_queued (List.append_assoc ..) hnone fun ip' pkt hmem => ?_
    exact eq_of_mem_queued (fun heq => by cases heq) hmem
  refine ⟨hgw.symm, ?_⟩
  unfold sameIfName at hname hname' ⊢
  exact decide_eq_true ((of_decide_eq_true hname').trans (of_decide_eq_true hname).symm)

/-- **The two senders agree** on the way to a destination exactly when the destination is its own
gateway and its route goes out of the interface that `sr_send_icmp` is given. -/
theorem sameHop_iff {cfg : NetConfig} {d : UInt32} {lpm : SrRt} {interface : IfName} {i : SrIf}
    (hroute : srRtLookup cfg.routingTable d = .ok (some lpm))
    (hi : srGetInterface cfg.ifList interface = some i) :
    SendersAgree cfg d interface ↔ lpm.gw = d ∧ sameIfName lpm.interface interface = true := by
  refine ⟨fun hagree => hagree.gateway hroute hi, ?_⟩
  rintro ⟨hgw, hname⟩ ctx ctx' sr sr₁ sr₂ p q type code len incoming rfl hp hq hlen hsend hforward
  have hmessage := sendsTo_srSendIcmp hsend
  have hpacket := sendsTo_srForwardIppacket (by rw [hq]; exact hroute) hlen hforward
  rw [hp, ← hgw] at hmessage
  exact ⟨lpm.gw, interface, hmessage, hpacket.of_sameIfName hname⟩

/-- The destination 172.64.3.2 is its own gateway on the outside. -/
def gatewayRoute : SrRt := ⟨outerRoute.gw, outerRoute.gw, 0xffffffff, outerInterface.name⟩

/-- A message to a directly attached host goes the way of every packet. -/
theorem sameHop_gatewayRoute :
    SendersAgree ⟨[outerInterface], [gatewayRoute]⟩ outerRoute.gw outerInterface.name :=
  (@sameHop_iff ⟨[outerInterface], [gatewayRoute]⟩ outerRoute.gw gatewayRoute outerInterface.name
    outerInterface rfl rfl).mpr ⟨rfl, by decide⟩

/-- A message to 8.8.8.8, which lies behind the gateway 172.64.3.2, waits for the Ethernet address of
8.8.8.8 itself. -/
theorem behindGateway_differs :
    srRtLookup oneRoute.routingTable (htonl 0x08080808) = .ok (some outerRoute) ∧
      ¬ SendersAgree oneRoute (htonl 0x08080808) outerInterface.name := by
  have hroute : srRtLookup oneRoute.routingTable (htonl 0x08080808) = .ok (some outerRoute) := rfl
  refine ⟨hroute, fun hagree => ?_⟩
  have hgw : outerRoute.gw = htonl 0x08080808 := (hagree.gateway hroute rfl).1
  exact absurd hgw (by decide)

end NatRouter
