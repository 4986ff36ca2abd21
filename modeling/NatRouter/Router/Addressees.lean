import NatRouter.Router.Buffered
import NatRouter.Router.Emissions
import NatRouter.Router.Stations

/-!
# The stations that frames are sent to

The router learns Ethernet addresses from ARP packets only, and sends a frame to no other: in every
run, each frame that it sends is an ARP packet to all stations, or goes to an Ethernet address that an
ARP packet has come from (`addressees_heard`).
-/

namespace NatRouter

open ByteMemory Interleaving Relation

/-- A frame goes to the sender of an ARP packet, or is an ARP packet to all stations. -/
def AddressedBy (A : Mac → UInt32 → Prop) (frame : List UInt8) : Prop :=
  (∃ ip, A (loadMac (ofBytes frame) 0) ip) ∨
    loadMac (ofBytes frame) 0 = etherBroadcastAddr ∧ ntohs (load16 (ofBytes frame) 12) = ethertypeArp

/-- The router knows the addresses that have come together in ARP packets, and no others. -/
structure Heard (A : Mac → UInt32 → Prop) (sr : SrInstance) : Prop where
  /-- The valid entries of the cache. -/
  cache : ∀ entry ∈ sr.cache.entries, entry.valid = true → A entry.mac entry.ip
  /-- The frames that `sr_send_packet` does not find too short. -/
  frames : ∀ origin frame iface, RouterEvent.send origin frame iface ∈ sr.log →
    sizeofEthernetHdr ≤ frame.length → AddressedBy A frame

/-- The ARP packets that are received have their addresses from `A`. -/
def HearsOnly (A : Mac → UInt32 → Prop) : RouterCall → SrInstance × Trace → Prop
  | .arp packet _, _ => Announces A packet
  | _, _ => True

variable {A : Mac → UInt32 → Prop} {sr sr' : SrInstance}

/-! ### The header of a frame -/

section Header

variable {len : UInt32} {load : ByteMem} {dhost shost : Mac} {type : UInt16} {n : ℕ}

/-- The destination and the type of a frame are among its bytes. -/
lemma header_bytes (h : sizeofEthernetHdr ≤ n) :
    loadMac (ofBytes (bytes (srCreateEtherframe len load dhost shost type) n)) 0 = dhost ∧
      ntohs (load16 (ofBytes (bytes (srCreateEtherframe len load dhost shost type) n)) 12) =
        type := by
  have hhdr : sizeofEthernetHdr = 14 := rfl
  have hsame : ∀ j < 14, ofBytes (bytes (srCreateEtherframe len load dhost shost type) n) j =
      srCreateEtherframe len load dhost shost type j := fun j hj => ofBytes_bytes (by omega)
  constructor
  · rw [loadMac_congr fun j hj => hsame (0 + j) (by omega)]
    exact loadMac_srCreateEtherframe_dhost
  · rw [load16_congr fun j _ hj => hsame j (by omega), load16_srCreateEtherframe, ntohs_htons]

end Header

/-! ### One emission -/

/-- An address that is looked up is in a valid entry. -/
lemma mem_of_srArpcacheLookup {cache : SrArpcache} {ip : UInt32} {entry : SrArpentry}
    (h : srArpcacheLookup cache ip = some entry) : entry ∈ cache.entries ∧ entry.valid = true := by
  rw [srArpcacheLookup_eq] at h
  obtain ⟨hmem, hentry⟩ := List.mem_filter.mp (List.mem_of_getLast? h)
  rw [isEntryFor, decide_eq_true_iff] at hentry
  exact ⟨Vector.mem_toList_iff.mp hmem, hentry.1⟩

/-- A valid entry after an insertion is the new one, or was there before. -/
lemma mem_srArpcacheInsert {cache : SrArpcache} {now : Time} {mac : Mac} {ip : UInt32}
    {entry : SrArpentry} (h : entry ∈ (srArpcacheInsert cache now mac ip).2.entries) :
    entry = ⟨mac, ip, now, true⟩ ∨ entry ∈ cache.entries := by
  unfold srArpcacheInsert at h
  dsimp only at h
  split at h
  · exact (Vector.mem_or_eq_of_mem_set h).symm
  · exact .inr h

/-- What is added to the log, when the cache stays. -/
lemma Heard.record (h : Heard A sr) {events : List RouterEvent}
    (hevents : ∀ origin frame iface, RouterEvent.send origin frame iface ∈ events →
      sizeofEthernetHdr ≤ frame.length → AddressedBy A frame) : Heard A (sr.record events) where
  cache := h.cache
  frames origin frame iface hmem hlen := by
    rcases List.mem_append.mp hmem with hold | hnew
    · exact h.frames origin frame iface hold hlen
    · exact hevents origin frame iface hnew hlen

/-- A frame is sent. -/
lemma Heard.send (h : Heard A sr) {origin : Option SrPacket} {frame : ByteMem} {len : UInt32}
    {iface : IfName} (hframe : sizeofEthernetHdr ≤ len.toNat →
      AddressedBy A (bytes frame len.toNat)) : Heard A (srSendPacket sr origin frame len iface) := by
  refine h.record fun origin' frame' iface' hmem hlen => ?_
  cases List.mem_singleton.mp hmem
  exact hframe (length_bytes frame len.toNat ▸ hlen)

/-- **Each emission** goes to an address that has been heard of. -/
lemma Heard.emission {L : UInt32 → Prop} (h : Heard A sr) (he : Emission L A sr sr') :
    Heard A sr' := by
  cases he with
  | note hnote =>
    refine h.record fun origin frame iface hmem _ => ?_
    exact absurd (hnote _ hmem) Bool.false_ne_true
  | arp hdhost =>
    refine h.send fun hlen => ?_
    rcases hdhost with rfl | ⟨ip, hA⟩
    · exact .inr (header_bytes hlen)
    · refine .inl ⟨ip, ?_⟩
      rw [(header_bytes hlen).1]
      exact hA
  | @ip ip entry len load shost iface hlookup hlen =>
    refine h.send fun hlen => .inl ⟨entry.ip, ?_⟩
    obtain ⟨hmem, hvalid⟩ := mem_of_srArpcacheLookup hlookup
    rw [(header_bytes hlen).1]
    exact h.cache entry hmem hvalid
  | queuereq hlen =>
    refine ⟨h.cache, fun origin frame iface hmem hlen => ?_⟩
    rcases List.mem_append.mp hmem with hold | hnew
    · exact h.frames origin frame iface hold hlen
    · obtain ⟨pkt, -, heq⟩ := List.mem_map.mp hnew
      cases heq
  | @answer now mac ip pkts iface cache hA hpkts hentries hrequests =>
    have hsent : Heard A (sr.record (pkts.map (flushEvent sr.cfg mac iface))) := by
      refine h.record fun origin frame iface' hmem hlen => .inl ⟨ip, ?_⟩
      obtain ⟨pkt, -, heq⟩ := List.mem_map.mp hmem
      cases heq
      rw [length_bytes] at hlen
      rw [(header_bytes hlen).1]
      exact hA
    refine ⟨fun entry hentry hvalid => ?_, hsent.frames⟩
    rcases mem_srArpcacheInsert (hentries ▸ hentry) with rfl | hold
    · exact hA
    · exact h.cache entry hold hvalid
  | cache hentries hwaiting =>
    exact ⟨fun entry hentry hvalid => h.cache entry (hentries entry hentry hvalid) hvalid, h.frames⟩

/-- And so does everything that sends. -/
lemma Heard.emissions {L : UInt32 → Prop} (h : Heard A sr) (he : Emissions L A sr sr') :
    Heard A sr' :=
  he.invariant (fun _ _ hI hstep => hI.emission hstep) h

/-! ### Runs -/

/-- The calls of the packet thread. -/
lemma Heard.call {c : RouterCall} {r : c.Result} {x x' : SrInstance × Trace} (h : Heard A x.1)
    (hguard : HearsOnly A c x) (hcall : routerSem c x r x') : Heard A x'.1 := by
  cases c with
  | receive a =>
    obtain ⟨-, rfl⟩ := hcall
    exact h
  | nat n c =>
    obtain ⟨amb, nat', -, rfl⟩ := hcall
    exact ⟨h.cache, h.frames⟩
  | perform n len interface action =>
    obtain ⟨ctx, events, hperform, -⟩ := hcall
    exact h.emissions (@emissions_perform (fun _ => True) A _ _ _ _ _ (fun _ _ => trivial) trivial _
      hperform)
  | arp packet interface =>
    obtain ⟨now, hhandle, -⟩ := hcall
    exact h.emissions (@emissions_srHandleArp (fun _ => True) A _ _ _ _ _ hhandle hguard)

/-- The sweeps. -/
lemma Heard.env {x x' : SrInstance × Trace} (h : Heard A x.1) (henv : RouterEnv x x') :
    Heard A x'.1 := by
  cases henv with
  | @nat sr sr' t ctx curtime nat' reported hsweep hsend =>
    have hswept : Heard A { sr with nat := nat' } := ⟨h.cache, h.frames⟩
    exact hswept.emissions (@emissions_sendReported (fun _ => True) A _ _ _ (fun _ _ => trivial) _
      hsend)
  | arp hsweep =>
    exact h.emissions (@emissions_srArpcacheTimeout (fun _ => True) A _ _ _ (fun _ _ => trivial) _ _
      hsweep)

/-- **Frames go to stations that have been heard of**: in every run in which the addresses of the ARP
packets received come from `A`, all addresses in the cache are from `A`, and every frame is sent to
one of them or is an ARP packet to all stations. -/
theorem addressees_heard {cfg : NetConfig} {natEnabled : Bool} {x : SrInstance × Trace}
    (hinit : RouterInit cfg x) {c : RouterConf}
    (hrun : RouterSteps (HearsOnly A) cfg natEnabled (.idle, x) c) : Heard A c.2.1 := by
  have hx : Heard A x.1 := by
    refine ⟨fun entry hentry hvalid => ?_, fun origin frame iface hmem _ => ?_⟩
    · rw [hinit.cache] at hentry
      obtain ⟨-, rfl⟩ := Vector.mem_replicate.mp hentry
      cases hvalid
    · exact absurd hmem (hinit.log_notMem _)
  exact @router_invariant (HearsOnly A) cfg natEnabled x (fun x => Heard A x.1) (fun _ _ => True)
    (fun _ _ => True) (fun _ => Prog.calls_of_forall _ fun _ => trivial)
    (fun _ => Prog.returns_of_forall _ fun _ => trivial)
    (fun _ _ _ _ hguard _ hI hcall => hI.call hguard hcall) (fun _ _ hI henv => hI.env henv) hx c hrun

/-- An ARP packet from 02:02:02:02:02:02 and 10.0.1.5 that asks for 10.0.1.1. -/
def arpFromInner : ByteMem :=
  srCreateArppacket arpOpRequest (Vector.replicate 6 2) (htonl 0x0a000105) (Vector.replicate 6 0)
    (htonl 0x0a000101)

/-- The only addresses in a run in which it is received once. -/
theorem addressees_heard_arpFromInner :
    let A : Mac → UInt32 → Prop := fun mac ip =>
      mac = SrArpPacket.arSha arpFromInner ∧ ip = SrArpPacket.arSip arpFromInner
    ∃ x, RouterSteps (HearsOnly A) twoSided true (.idle, freshRouter) (.idle, x) ∧
      (∃ frame iface, RouterEvent.send none frame iface ∈ x.1.log ∧ frame.length = 42) ∧
      Heard A x.1 := by
  intro A
  have harp : isEthernetIp arpFromInner = true ∧
      ntohs (SrArpPacket.arOp arpFromInner) = arpOpRequest := by decide +kernel
  have hreply : srHandleArp freshRouter.1 0 arpFromInner innerInterface.name =
      srSendArp { freshRouter.1 with cache := (srArpcacheInsert freshRouter.1.cache 0
          (SrArpPacket.arSha arpFromInner) (SrArpPacket.arSip arpFromInner)).2 }
        innerInterface.name arpOpReply (SrArpPacket.arSha arpFromInner)
        (SrArpPacket.arSip arpFromInner) := by
    unfold srHandleArp
    simp only [harp.1, harp.2, if_true]
  obtain ⟨sr', hsr'⟩ : ∃ sr', srHandleArp freshRouter.1 0 arpFromInner innerInterface.name =
      .ok sr' := ⟨_, hreply⟩
  obtain ⟨frame, hsend⟩ := srSendArp_cases (hreply.symm.trans hsr')
  have hcall : Sem.guarded (HearsOnly A) routerSem (.arp arpFromInner innerInterface.name) freshRouter
      () (sr', freshRouter.2) := ⟨fun _ _ => ⟨rfl, rfl⟩, 0, hsr', rfl⟩
  have hjob : (routerStart twoSided true (.arp arpFromInner innerInterface.name)).Runs
      (Sem.guarded (HearsOnly A) routerSem) freshRouter () (sr', freshRouter.2) :=
    .call hcall (.ret () _)
  refine ⟨_, hjob.job, ⟨_, innerInterface.name, ?_, length_bytes frame (frameLen sizeofArpPacket).toNat⟩,
    addressees_heard routerInit_freshRouter hjob.job⟩
  rw [hsend]
  exact List.mem_append_right _ List.mem_cons_self

end NatRouter
