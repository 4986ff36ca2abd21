import NatRouter.Arp.MissPath
import NatRouter.Router.Frames

/-!
# Frames for other stations

`sr_handlepacket` is to look at a frame only if it is addressed to the interface it came in on, or
to all stations.  The comparison with the broadcast address is closed in the wrong place,
`memcmp(dest_macaddr, ether_broadcast_addr, ETHER_ADDR_LEN != 0)`, and looks at one byte.  So a
foreign address is ignored exactly if it does not begin with `ff` (`foreign_ignored_iff`).
-/

namespace NatRouter

open ByteMemory Interleaving

/-! ### The whole of `sr_handlepacket` -/

/-- What `sr_handlepacket` does once it has decided. -/
def performFrame (ctx : Surroundings) (sr : SrInstance) (now : Time) (len : UInt32)
    (interface : IfName) : FrameAction → Except Fault SrInstance
  | .drop => .ok sr
  | .arp packet => srHandleArp sr now packet interface
  | .ip action => perform ctx sr (frameLoadLen len) interface action

/-- `sr_handlepacket`, run alone. -/
def handleFrame (ctx : Surroundings) (sr : SrInstance) (now : Time) (packet : ByteMem)
    (len : UInt32) (interface : IfName) : Except Fault SrInstance :=
  match (srHandlepacket sr.cfg sr.natEnabled packet len interface).run natExec ctx.nat sr.nat with
  | .error e => .error e
  | .ok (action, nat) => performFrame ctx { sr with nat := nat } now len interface action

section Handle

variable {ctx : Surroundings} {sr : SrInstance} {now : Time} {packet : ByteMem} {len : UInt32}
  {interface : IfName} {i : SrIf}

/-- A frame that fails the test of its destination is dropped. -/
lemma handleFrame_misdirected (hi : srGetInterface sr.cfg.ifList interface = some i)
    (h : isMisdirected packet i = true) : handleFrame ctx sr now packet len interface = .ok sr := by
  unfold handleFrame srHandlepacket
  simp only [hi, h, if_true]
  rfl

/-- An ARP packet in a frame that passes it is handed to `sr_handle_arp`. -/
lemma handleFrame_arp (hi : srGetInterface sr.cfg.ifList interface = some i)
    (h : isMisdirected packet i = false) (harp : ntohs (load16 packet 12) = ethertypeArp) :
    handleFrame ctx sr now packet len interface =
      srHandleArp sr now (frameLoad packet) interface := by
  unfold handleFrame srHandlepacket
  simp only [hi, h, harp, if_true, Bool.false_eq_true, if_false]
  rfl

end Handle

/-! ### Frames that are made -/

section Created

variable {len : UInt32} {load : ByteMem} {dhost shost : Mac} {type : UInt16}

/-- The destination address of a frame. -/
lemma loadMac_srCreateEtherframe_dhost :
    loadMac (srCreateEtherframe len load dhost shost type) 0 = dhost := by
  have hhdr : sizeofEthernetHdr = 14 := rfl
  have haddr : etherAddrLen = 6 := rfl
  apply Vector.ext
  intro k hk
  have hsource : ∀ b : ByteMem, storeMac b 6 shost k = b k := fun b =>
    storeBlock_apply_of_disjoint (.inl hk)
  have hdest : storeMac (fun _ => 0) 0 dhost (0 + k) = dhost.toList.getD k 0 :=
    storeMac_apply (by omega)
  simp only [loadMac, Vector.getElem_ofFn, srCreateEtherframe, Nat.zero_add] at hdest ⊢
  rw [storeBlock_apply_of_disjoint (.inl (by omega)), store16_apply_of_disjoint (.inl (by omega)),
    hsource, hdest]
  simp [hk]

/-- The type of a frame. -/
lemma load16_srCreateEtherframe :
    load16 (srCreateEtherframe len load dhost shost type) 12 = htons type := by
  have hhdr : sizeofEthernetHdr = 14 := rfl
  refine Eq.trans ?_ (load16_store16_self
    (storeMac (storeMac (fun _ => 0) 0 dhost) 6 shost) 12 (htons type))
  exact load16_congr fun j _ hj => storeBlock_apply_of_disjoint (.inl (by omega))

/-- Its load. -/
lemma frameLoad_srCreateEtherframe {k : ℕ} (hk : k < len.toNat) :
    frameLoad (srCreateEtherframe len load dhost shost type) k = load k :=
  storeBlock_apply_add hk

end Created

/-- An ARP packet is read from its 28 bytes. -/
structure SameArp (p p' : ByteMem) : Prop where
  /-- The formats of the addresses. -/
  isEthernetIp : isEthernetIp p' = isEthernetIp p
  /-- The operation. -/
  arOp : SrArpPacket.arOp p' = SrArpPacket.arOp p
  /-- The Ethernet address of the sender. -/
  arSha : SrArpPacket.arSha p' = SrArpPacket.arSha p
  /-- Its IP address. -/
  arSip : SrArpPacket.arSip p' = SrArpPacket.arSip p

lemma sameArp_of_bytes {p p' : ByteMem} (h : ∀ k < 28, p' k = p k) : SameArp p p' where
  isEthernetIp := by
    have hhrd : SrArpPacket.arHrd p' = SrArpPacket.arHrd p :=
      load16_congr fun j _ hj => h j (by omega)
    have hpro : SrArpPacket.arPro p' = SrArpPacket.arPro p :=
      load16_congr fun j _ hj => h j (by omega)
    rw [NatRouter.isEthernetIp, NatRouter.isEthernetIp, hhrd, hpro]
  arOp := load16_congr fun j _ hj => h j (by omega)
  arSha := congrArg Vector.ofFn (funext fun k => h (8 + k) (by omega))
  arSip := load32_congr fun j _ hj => h j (by omega)

/-! ### The test -/

/-- What is done to a frame that is ignored. -/
structure Ignored (sr sr' : SrInstance) : Prop where
  /-- Nothing is sent or noted. -/
  log : sr'.log = sr.log
  /-- The ARP cache and its queue stay as they are. -/
  cache : sr'.cache = sr.cache
  /-- So does the NAT. -/
  nat : sr'.nat = sr.nat

/-- The first byte of an address in a frame. -/
lemma getElem_loadMac (frame : ByteMem) : (loadMac frame 0)[0] = frame 0 := by
  simp [loadMac]

/-- A frame fails the test if its destination neither begins with `ff` nor is the interface. -/
lemma isMisdirected_iff {frame : ByteMem} {i : SrIf} :
    isMisdirected frame i = true ↔ (loadMac frame 0)[0] ≠ 0xff ∧ loadMac frame 0 ≠ i.addr := by
  rw [getElem_loadMac, isMisdirected, decide_eq_true_iff]

/-- An ARP request to all stations of 0.0.0.0 for itself. -/
def arpProbe : ByteMem :=
  srCreateArppacket arpOpRequest (Vector.replicate 6 0) 0 (Vector.replicate 6 0) 0

/-- It is an ARP request. -/
lemma arpProbe_fields :
    isEthernetIp arpProbe = true ∧ ntohs (SrArpPacket.arOp arpProbe) = arpOpRequest := by
  decide +kernel

/-- The frame that carries it to an address. -/
def probeFrame (dhost : Mac) : ByteMem :=
  srCreateEtherframe sizeofArpPacket arpProbe dhost (Vector.replicate 6 0) ethertypeArp

/-- The probe is answered if it passes the test. -/
lemma handleFrame_probe {ctx : Surroundings} {sr : SrInstance} {now : Time} {interface : IfName}
    {i : SrIf} {d : Mac} (hi : srGetInterface sr.cfg.ifList interface = some i)
    (h : isMisdirected (probeFrame d) i = false) : ∃ sr' frame len,
      handleFrame ctx sr now (probeFrame d) 42 interface = .ok sr' ∧
        sr'.log = sr.log ++ [.send none frame len] := by
  have htype : ntohs (load16 (probeFrame d) 12) = ethertypeArp := by
    rw [probeFrame, load16_srCreateEtherframe, ntohs_htons]
  have hsame : SameArp arpProbe (frameLoad (probeFrame d)) :=
    sameArp_of_bytes fun k hk => frameLoad_srCreateEtherframe hk
  obtain ⟨hip, hop⟩ := arpProbe_fields
  rw [← hsame.isEthernetIp] at hip
  rw [← hsame.arOp] at hop
  rw [handleFrame_arp hi h htype]
  simp only [srHandleArp, if_pos hip, if_pos hop, srSendArp, hi, srArpcacheInsert]
  exact ⟨_, _, _, rfl, rfl⟩

variable {cfg : NetConfig} {interface : IfName} {i : SrIf} {d : Mac}

/-- **Frames for other stations are ignored** if and only if the address of the station does not
begin with `ff`; frames to all stations and to the interface pass the test. -/
theorem foreign_ignored_iff (hi : srGetInterface cfg.ifList interface = some i)
    (hbroadcast : d ≠ etherBroadcastAddr) (hown : d ≠ i.addr) :
    ((∀ ctx sr now frame len, sr.cfg = cfg → loadMac frame 0 = d → 14 ≤ len.toNat →
        ∃ sr', handleFrame ctx sr now frame len interface = .ok sr' ∧ Ignored sr sr') ↔
      d[0] ≠ 0xff) ∧
    ∀ frame, loadMac frame 0 = etherBroadcastAddr ∨ loadMac frame 0 = i.addr →
      isMisdirected frame i = false := by
  refine ⟨⟨fun h hff => ?_, ?_⟩, ?_⟩
  · -- a frame to a station whose address begins with `ff` may be answered
    have hdest : loadMac (probeFrame d) 0 = d := loadMac_srCreateEtherframe_dhost
    have hpass : isMisdirected (probeFrame d) i = false := by
      rw [← Bool.not_eq_true, isMisdirected_iff, hdest]
      exact fun hmis => hmis.1 hff
    obtain ⟨sr', hhandle, hignored⟩ :=
      h quietSurroundings ⟨cfg, srArpcacheInit, startState, false, []⟩ 0
      (probeFrame d) 42 rfl hdest (by decide)
    obtain ⟨sr'', frame, name, hhandle', hlog⟩ := @handleFrame_probe quietSurroundings
      ⟨cfg, srArpcacheInit, startState, false, []⟩ 0 interface i d hi hpass
    obtain rfl := Except.ok.inj (hhandle.symm.trans hhandle')
    rw [hignored.log] at hlog
    exact absurd (congrArg List.length hlog) (by simp)
  · rintro hff ctx sr now frame len rfl rfl -
    exact ⟨sr, handleFrame_misdirected hi (isMisdirected_iff.mpr ⟨hff, hown⟩), rfl, rfl, rfl⟩
  · intro frame hdest
    rw [← Bool.not_eq_true, isMisdirected_iff]
    rintro ⟨hff, hne⟩
    rcases hdest with hall | hown
    · exact hff (by rw [hall]; rfl)
    · exact hne hown

/-- Frames to 02:00:00:00:00:01 are ignored at the interface 01:01:01:01:01:01, and those to all
stations are not. -/
theorem foreign_ignored_example :
    (∀ ctx sr now frame len, sr.cfg = twoSided → loadMac frame 0 = #v[2, 0, 0, 0, 0, 1] →
      14 ≤ len.toNat →
      ∃ sr', handleFrame ctx sr now frame len innerInterface.name = .ok sr' ∧ Ignored sr sr') ∧
    isMisdirected (probeFrame etherBroadcastAddr) innerInterface = false := by
  obtain ⟨hforeign, hpass⟩ := @foreign_ignored_iff twoSided innerInterface.name innerInterface
    #v[2, 0, 0, 0, 0, 1] rfl (by decide) (by decide)
  exact ⟨hforeign.mpr (by decide), hpass _ (.inl loadMac_srCreateEtherframe_dhost)⟩

/-- An ARP request to ff:00:00:00:00:01 is answered there. -/
theorem foreign_answered :
    loadMac (probeFrame #v[0xff, 0, 0, 0, 0, 1]) 0 = #v[0xff, 0, 0, 0, 0, 1] ∧
    (#v[0xff, 0, 0, 0, 0, 1] : Mac) ≠ etherBroadcastAddr ∧
    (#v[0xff, 0, 0, 0, 0, 1] : Mac) ≠ innerInterface.addr ∧
    ∃ sr' frame len, handleFrame quietSurroundings (natRouter startState) 0
        (probeFrame #v[0xff, 0, 0, 0, 0, 1]) 42 innerInterface.name = .ok sr' ∧
      sr'.log = (natRouter startState).log ++ [.send none frame len] := by
  refine ⟨loadMac_srCreateEtherframe_dhost, by decide, by decide, ?_⟩
  have hi : srGetInterface (natRouter startState).cfg.ifList innerInterface.name =
      some innerInterface := rfl
  refine handleFrame_probe hi ?_
  rw [← Bool.not_eq_true, isMisdirected_iff, probeFrame, loadMac_srCreateEtherframe_dhost]
  exact fun hmis => hmis.1 rfl

end NatRouter
