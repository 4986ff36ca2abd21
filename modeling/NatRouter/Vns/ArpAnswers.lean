import NatRouter.Router.Stations
import NatRouter.Vns.Agreement

/-!
# Which ARP requests are answered

An ARP request that comes from the server passes two places: `sr_arp_req_not_for_us` drops it unless
it asks for the address of the interface it came in on, and `sr_handle_arp` answers whatever request
it gets.  Together they answer the requests for the own address of the interface and no others
(`arp_request_answered`), and the answer passes the tests of `sr_send_packet`.
-/

namespace NatRouter

open ByteMemory StructPack

/-- `ar_tha`. -/
def SrArpPacket.arTha (p : ByteMem) : Mac := loadMac p 18

/-- What the router does with a packet message. -/
def performServer (ctx : Surroundings) (sr : SrInstance) (now : Time) :
    ServerAction → Except Fault SrInstance
  | .aborted _ e => .error e
  | .handled args => handleFrame ctx sr now args.packet args.len args.interface
  | _ => .ok sr

/-- The frame carries an ARP request for IP addresses on Ethernet. -/
structure IsArpRequest (frame : ByteMem) : Prop where
  /-- It carries ARP. -/
  type : load16 frame 12 = htons ethertypeArp
  /-- The addresses are of these kinds. -/
  isEthernetIp : isEthernetIp (frameLoad frame) = true
  /-- It is a request. -/
  arOp : SrArpPacket.arOp (frameLoad frame) = htons arpOpRequest

/-- The frame answers an ARP request with the addresses of the interface `i`. -/
structure AnswersArp (i : SrIf) (request : ByteMem) (frame : List UInt8) : Prop where
  /-- It goes to the requester. -/
  dhost : loadMac (ofBytes frame) 0 = SrArpPacket.arSha request
  /-- It comes from the interface. -/
  shost : loadMac (ofBytes frame) 6 = i.addr
  /-- It carries ARP. -/
  type : load16 (ofBytes frame) 12 = htons ethertypeArp
  /-- The addresses are an Ethernet and an IP address. -/
  isEthernetIp : isEthernetIp (frameLoad (ofBytes frame)) = true
  /-- It is a reply. -/
  arOp : SrArpPacket.arOp (frameLoad (ofBytes frame)) = htons arpOpReply
  /-- The sender has the Ethernet address of the interface. -/
  arSha : SrArpPacket.arSha (frameLoad (ofBytes frame)) = i.addr
  /-- It has its IP address. -/
  arSip : SrArpPacket.arSip (frameLoad (ofBytes frame)) = i.ip
  /-- The target has the Ethernet address of the requester. -/
  arTha : SrArpPacket.arTha (frameLoad (ofBytes frame)) = SrArpPacket.arSha request
  /-- It has its IP address. -/
  arTip : SrArpPacket.arTip (frameLoad (ofBytes frame)) = SrArpPacket.arSip request

/-! ### The reply -/

section Reply

variable {sha tha : Mac} {sip tip : UInt32}

/-- The first words of a reply say what kinds of addresses are in it. -/
lemma isEthernetIp_reply : isEthernetIp (srCreateArppacket arpOpReply sha sip tha tip) = true := by
  have hhrd :
      SrArpPacket.arHrd (srCreateArppacket arpOpReply sha sip tha tip) = htons arpHrdEthernet := by
    refine Eq.trans (load16_congr fun j _ hj => ?_) (load16_store16_self (fun _ => 0) 0 _)
    simp (disch := omega) only [srCreateArppacket, if_true, store32_apply_of_disjoint,
      storeMac_apply_of_disjoint, store16_apply_of_disjoint, store8_apply_of_ne]
  have hpro :
      SrArpPacket.arPro (srCreateArppacket arpOpReply sha sip tha tip) = htons arpProIp := by
    refine Eq.trans (load16_congr fun j _ hj => ?_)
      (load16_store16_self (store16 (fun _ => 0) 0 (htons arpHrdEthernet)) 2 _)
    simp (disch := omega) only [srCreateArppacket, if_true, store32_apply_of_disjoint,
      storeMac_apply_of_disjoint, store16_apply_of_disjoint, store8_apply_of_ne]
  rw [isEthernetIp, hhrd, hpro, ntohs_htons, ntohs_htons]
  rfl

/-- Its operation is the one given. -/
lemma arOp_srCreateArppacket (type : UInt16) :
    SrArpPacket.arOp (srCreateArppacket type sha sip tha tip) = htons type := by
  refine Eq.trans (load16_congr fun j _ hj => ?_)
    (load16_store16_self (store8 (store8 (store16 (store16 (fun _ => 0) 0 (htons arpHrdEthernet)) 2
      (htons arpProIp)) 4 (UInt8.ofNat etherAddrLen)) 5 ipAddrLen) 6 _)
  simp only [srCreateArppacket]
  split
  · simp (disch := omega) only [store32_apply_of_disjoint, storeMac_apply_of_disjoint]
  · simp (disch := omega) only [store32_apply_of_disjoint, storeMac_apply_of_disjoint]

/-- The sender is the interface. -/
lemma arSha_reply : SrArpPacket.arSha (srCreateArppacket arpOpReply sha sip tha tip) = sha := by
  refine Eq.trans (loadMac_congr fun j hj => ?_) (loadMac_storeMac (fun _ => 0) 8 sha)
  simp (disch := omega) only [srCreateArppacket, if_true, store32_apply_of_disjoint,
    storeMac_apply_of_disjoint]
  rw [storeMac_apply hj, storeMac_apply hj]

/-- Its IP address is that of the interface. -/
lemma arSip_reply : SrArpPacket.arSip (srCreateArppacket arpOpReply sha sip tha tip) = sip := by
  rw [SrArpPacket.arSip, srCreateArppacket]
  simp only [if_true]
  rw [load32_store32_of_disjoint (.inr (by decide))]
  exact (load32_storeBlock (by decide)).trans (load32_store32_self ..)

/-- The target is the one that is answered. -/
lemma arTha_reply : SrArpPacket.arTha (srCreateArppacket arpOpReply sha sip tha tip) = tha := by
  refine Eq.trans (loadMac_congr fun j hj => ?_) (loadMac_storeMac (fun _ => 0) 18 tha)
  simp (disch := omega) only [srCreateArppacket, if_true, store32_apply_of_disjoint]
  rw [storeMac_apply hj, storeMac_apply hj]

/-- Its IP address is the one given. -/
lemma arTip_srCreateArppacket (type : UInt16) :
    SrArpPacket.arTip (srCreateArppacket type sha sip tha tip) = tip := load32_store32_self _ 24 tip

/-- A frame with such a reply answers the request. -/
lemma answersArp_reply (i : SrIf) (request : ByteMem) :
    AnswersArp i request (bytes (srCreateEtherframe sizeofArpPacket
      (srCreateArppacket arpOpReply i.addr i.ip (SrArpPacket.arSha request)
      (SrArpPacket.arSip request))
      (SrArpPacket.arSha request) i.addr ethertypeArp) 42) := by
  set reply := srCreateArppacket arpOpReply i.addr i.ip (SrArpPacket.arSha request)
    (SrArpPacket.arSip request) with hreply
  set frame := srCreateEtherframe sizeofArpPacket reply (SrArpPacket.arSha request) i.addr
    ethertypeArp
    with hframe
  have hbytes : ∀ k < 42, ofBytes (bytes frame 42) k = frame k := fun k hk => ofBytes_bytes hk
  have hload : ∀ k < 28, frameLoad (ofBytes (bytes frame 42)) k = reply k := fun k hk =>
    (hbytes _ (by unfold sizeofEthernetHdr; omega)).trans (frameLoad_srCreateEtherframe hk)
  have hsame := sameArp_of_bytes hload
  constructor
  case dhost =>
    exact (loadMac_congr fun j hj => hbytes _ (by omega)).trans loadMac_srCreateEtherframe_dhost
  case shost =>
    exact (loadMac_congr fun j hj => hbytes _ (by omega)).trans loadMac_srCreateEtherframe
  case type =>
    exact (load16_congr fun j _ hj => hbytes j (by omega)).trans load16_srCreateEtherframe
  case isEthernetIp => exact hsame.isEthernetIp.trans isEthernetIp_reply
  case arOp => exact hsame.arOp.trans (arOp_srCreateArppacket arpOpReply)
  case arSha => exact hsame.arSha.trans arSha_reply
  case arSip => exact hsame.arSip.trans arSip_reply
  case arTha => exact (loadMac_congr fun j hj => hload _ (by omega)).trans arTha_reply
  case arTip =>
    exact (load32_congr fun j _ hj => hload j (by omega)).trans (arTip_srCreateArppacket arpOpReply)

end Reply

/-! ### From the server to the answer -/

section Answer

variable {ctx : Surroundings} {sr : SrInstance} {now : Time} {expected : UInt32} {behind : ByteMem}
  {stream rest : List UInt8} {action : ServerAction} {args : PacketArgs} {i : SrIf}

/-- Whether a frame is an ARP request is seen in its first 42 bytes. -/
lemma isArpRequest_of_bytes {frame frame' : ByteMem} (h : ∀ k < 42, frame' k = frame k)
    (hreq : IsArpRequest frame) : IsArpRequest frame' := by
  have hsame : SameArp (frameLoad frame) (frameLoad frame') :=
    sameArp_of_bytes fun k hk => h _ (by unfold sizeofEthernetHdr; omega)
  exact ⟨(load16_congr fun j _ hj => h j (by omega)).trans hreq.type,
    hsame.isEthernetIp.trans hreq.isEthernetIp, hsame.arOp.trans hreq.arOp⟩

/-- What is done with a packet that is in the buffer depends on the filter. -/
lemma handOnPacket_of_handedOn {cfg : NetConfig} {buf : ByteMem} {len : ℤ}
    (hargs : args ∈ (handOnPacket cfg buf len).handedOn) :
    handOnPacket cfg buf len = match srArpReqNotForUs cfg args with
      | .error e => .aborted args e
      | .ok true => .dropped args
      | .ok false => .handled args := by
  unfold handOnPacket at hargs ⊢
  dsimp only at hargs ⊢
  split at hargs
  · rename_i e hfilter
    obtain rfl := List.mem_singleton.mp hargs
    rw [hfilter]
  · rename_i hfilter
    obtain rfl := List.mem_singleton.mp hargs
    rw [hfilter]
  · rename_i hfilter
    obtain rfl : args = _ := (List.mem_cons.mp hargs).elim id List.mem_singleton.mp
    rw [hfilter]

/-- What is done with a packet that is read depends on the filter. -/
lemma action_of_handedOn {cfg : NetConfig}
    (h : srReadFromServerExpect cfg expected behind stream = some (action, rest))
    (hargs : args ∈ action.handedOn) :
    action = match srArpReqNotForUs cfg args with
      | .error e => .aborted args e
      | .ok true => .dropped args
      | .ok false => .handled args := by
  have hhanded : ∃ buf len, action = handOnPacket cfg buf len := by
    unfold srReadFromServerExpect at h
    dsimp only at h
    split_ifs at h
    · cases h
      cases hargs
    · cases h
      cases hargs
    · obtain ⟨rfl, -⟩ := Prod.mk.inj (Option.some.inj h)
      unfold serverAction at hargs ⊢
      split at hargs
      · exact ⟨_, _, rfl⟩
      all_goals cases hargs
  obtain ⟨buf, len, rfl⟩ := hhanded
  exact handOnPacket_of_handedOn hargs

/-- The filter lets pass the requests for the address of the interface. -/
lemma srArpReqNotForUs_request {cfg : NetConfig} (hlen : 42 ≤ args.len.toNat)
    (hi : srGetInterface cfg.ifList args.interface = some i) (hreq : IsArpRequest args.packet) :
    srArpReqNotForUs cfg args = .ok (SrArpPacket.arTip (frameLoad args.packet) ≠ i.ip) := by
  have hlong : ¬ args.len < UInt32.ofNat sizeofEthernetHdr + sizeofArpPacket := by
    rw [UInt32.not_lt, UInt32.le_iff_toNat_le]
    exact hlen
  have htype := hreq.type
  have hop := hreq.arOp
  unfold srArpReqNotForUs
  rw [if_neg hlong]
  simp only [hi, htype, true_and]
  exact congrArg Except.ok (decide_eq_decide.mpr (and_iff_right hop))

/-- **The router answers exactly the ARP requests for the address of the interface**: with one
frame, from the interface to the requester, which `sr_send_packet` accepts. -/
theorem arp_request_answered
    (hread : srReadFromServerExpect sr.cfg expected behind stream = some (action, rest))
    (hargs : args ∈ action.handedOn) (hlen : 42 ≤ args.len.toNat)
    (hi : srGetInterface sr.cfg.ifList args.interface = some i)
    (hdest : isMisdirected args.packet i = false) (hreq : IsArpRequest args.packet) :
    (SrArpPacket.arTip (frameLoad args.packet) = i.ip → ∃ sr' frame,
      performServer ctx sr now action = .ok sr' ∧
      sr'.log = sr.log ++ [.send none frame args.interface] ∧
      srSendPacketAccepts sr.cfg frame args.interface = true ∧
      AnswersArp i (frameLoad args.packet) frame) ∧
    (SrArpPacket.arTip (frameLoad args.packet) ≠ i.ip →
      performServer ctx sr now action = .ok sr) := by
  have haction := action_of_handedOn hread hargs
  rw [srArpReqNotForUs_request hlen hi hreq] at haction
  constructor
  · intro hself
    obtain rfl : action = .handled args := by simpa [hself] using haction
    have htype : ntohs (load16 args.packet 12) = ethertypeArp := by rw [hreq.type, ntohs_htons]
    have hop : ntohs (SrArpPacket.arOp (frameLoad args.packet)) = arpOpRequest := by
      rw [hreq.arOp, ntohs_htons]
    rw [performServer, handleFrame_arp hi hdest htype]
    simp only [srHandleArp, if_pos hreq.isEthernetIp, if_pos hop, srSendArp, hi, srArpcacheInsert]
    refine ⟨_, _, rfl, rfl, ?_, answersArp_reply i (frameLoad args.packet)⟩
    refine decide_eq_true ⟨by rw [length_bytes]; decide, ?_⟩
    simp only [srEtherAddrsMatchInterface, hi]
    exact decide_eq_true (answersArp_reply i (frameLoad args.packet)).shost
  · intro hother
    obtain rfl : action = .dropped args := by simpa [hother] using haction
    rfl

end Answer

/-- The request of 10.0.1.100 for the address of the interface `innerInterface`, to all stations. -/
def arpQuestion : ByteMem :=
  srCreateEtherframe sizeofArpPacket
    (srCreateArppacket arpOpRequest (Vector.replicate 6 9) innerRoute.gw etherBroadcastAddr
      innerInterface.ip) etherBroadcastAddr (Vector.replicate 6 9) ethertypeArp

/-- It is one. -/
lemma isArpRequest_arpQuestion : IsArpRequest arpQuestion :=
  ⟨by decide +kernel, by decide +kernel, by decide +kernel⟩

/-- The message with it. -/
def arpQuestionMessage : List UInt8 :=
  be32 (UInt32.ofNat ((bytes arpQuestion 42).length + 24)) ++
    (be32 4 ++ (padded 16 innerInterface.name ++ bytes arpQuestion 42))

/-- The request is answered. -/
theorem arpQuestion_answered : ∃ action args sr' frame,
    srReadFromServerExpect (natRouter startState).cfg 0 (fun _ => 0) (arpQuestionMessage ++ []) =
      some (action, []) ∧
    args ∈ action.handedOn ∧
    performServer quietSurroundings (natRouter startState) 0 action = .ok sr' ∧
    sr'.log = (natRouter startState).log ++ [.send none frame args.interface] ∧
    srSendPacketAccepts (natRouter startState).cfg frame args.interface = true ∧
    AnswersArp innerInterface (frameLoad args.packet) frame := by
  obtain ⟨action, hread, hhanded, hargs⟩ :=
    @srReadFromServerExpect_packet (natRouter startState).cfg 0 (fun _ => 0) innerInterface.name
      (bytes arpQuestion 42) arpQuestionMessage (by decide) (by decide)
    (by rw [length_bytes]; decide) rfl []
  obtain ⟨args, hmem⟩ := List.exists_mem_of_ne_nil _ (hhanded (.inl rfl))
  obtain ⟨hname, hbytes⟩ := hargs args hmem
  have hlen : args.len.toNat = 42 := by
    have hlength := congrArg List.length hbytes
    rwa [length_bytes, length_bytes] at hlength
  rw [hlen] at hbytes
  have hsame : ∀ k < 42, args.packet k = arpQuestion k := fun k hk =>
    List.map_inj_left.mp hbytes k (List.mem_range.mpr hk)
  have hdest : isMisdirected args.packet innerInterface = false := by
    have hdhost : loadMac args.packet 0 = etherBroadcastAddr :=
      (loadMac_congr fun j hj => hsame _ (by omega)).trans loadMac_srCreateEtherframe_dhost
    rw [← Bool.not_eq_true, isMisdirected_iff, hdhost]
    exact fun hmis => hmis.1 rfl
  have htip : SrArpPacket.arTip (frameLoad args.packet) = innerInterface.ip := by
    have hquestion : SrArpPacket.arTip (frameLoad arpQuestion) = innerInterface.ip := by
      decide +kernel
    refine Eq.trans (load32_congr fun j _ hj => ?_) hquestion
    exact hsame (14 + j) (by omega)
  obtain ⟨sr', frame, hperform, hlog, haccepts, hanswers⟩ := (arp_request_answered hread hmem
    hlen.ge (by rw [hname]; rfl) hdest (isArpRequest_of_bytes hsame isArpRequest_arpQuestion)).1 htip
  exact ⟨action, args, sr', frame, hread, hmem, hperform, hlog, haccepts, hanswers⟩

end NatRouter
