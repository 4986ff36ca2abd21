import NatRouter.Arp.Accounting
import NatRouter.Router.Passage

/-!
# A packet that had to wait

A packet for a next hop whose Ethernet address is not known waits on the ARP queue, and is sent by
`sr_handle_arp` when the next hop answers (`AnsweredWait`).  It should be sent as
`sr_forward_ippacket` sends it when the address is in the cache (`SentAsHit`): the same frame, on the
interface of the route, which `sr_send_packet` accepts.

The frame is the same in every case, with the Ethernet address of the route's interface as its source.
But `sr_handle_arp` sends it on the interface the reply came in on, so the packet goes out as it
should exactly when the next hop answers on the interface of the route.
-/

namespace NatRouter

open ByteMemory GroupedQueue Relation

/-! ### The tests of `sr_send_packet` -/

/-- `sr_ether_addrs_match_interface`. -/
def srEtherAddrsMatchInterface (cfg : NetConfig) (buf : ByteMem) (name : IfName) : Bool :=
  match srGetInterface cfg.ifList name with
  | some iface => loadMac buf 6 = iface.addr
  | none => false

/-- The tests that `sr_send_packet` makes before it writes the frame to the server. -/
def srSendPacketAccepts (cfg : NetConfig) (frame : List UInt8) (iface : IfName) : Bool :=
  sizeofEthernetHdr ≤ frame.length ∧ srEtherAddrsMatchInterface cfg (ofBytes frame) iface = true

section Frame

variable {cfg : NetConfig} {len : UInt32} {load load' : ByteMem} {dhost shost : Mac} {type : UInt16}

/-- A frame depends on the bytes of its load only. -/
lemma srCreateEtherframe_congr (h : ∀ i < len.toNat, load i = load' i) :
    srCreateEtherframe len load dhost shost type = srCreateEtherframe len load' dhost shost type := by
  funext i
  simp only [srCreateEtherframe, storeBlock]
  split
  · rename_i hi
    exact h _ (by omega)
  · rfl

/-- The source address of a frame. -/
lemma loadMac_srCreateEtherframe :
    loadMac (srCreateEtherframe len load dhost shost type) 6 = shost := by
  apply Vector.ext
  intro i hi
  have hload : ¬ (sizeofEthernetHdr ≤ 6 + i ∧ 6 + i < sizeofEthernetHdr + len.toNat) := by
    have hsize : sizeofEthernetHdr = 14 := rfl
    omega
  have htype : 6 + i < 12 ∨ 12 + 2 ≤ 6 + i := by omega
  simp only [loadMac, Vector.getElem_ofFn, srCreateEtherframe, storeBlock, if_neg hload]
  rw [store16_apply_of_disjoint htype, storeMac_apply hi]
  simp [hi]

/-- The source address is among the bytes of the frame. -/
lemma loadMac_bytes {n : ℕ} (h : sizeofEthernetHdr ≤ n) :
    loadMac (ofBytes (bytes (srCreateEtherframe len load dhost shost type) n)) 6 = shost := by
  refine Eq.trans ?_ (@loadMac_srCreateEtherframe len load dhost shost type)
  apply Vector.ext
  intro i hi
  have hin : 6 + i < n := by
    have hhdr : sizeofEthernetHdr = 14 := rfl
    omega
  simp only [loadMac, Vector.getElem_ofFn, ofBytes_bytes hin]

end Frame

/-! ### The history of a packet that is answered -/

/-- Entries of the log were added between two states. -/
def Added (sr sr' : SrInstance) (e : RouterEvent) : Prop :=
  ∃ events, sr'.log = sr.log ++ events ∧ e ∈ events

/-- The history of a packet that waits for the address of its next hop until that answers. -/
structure AnsweredWait where
  /-- The router to begin with. -/
  start : SrInstance
  /-- The router when it forwards the packet. -/
  before : SrInstance
  /-- The router when it has put the packet on the queue. -/
  queued : SrInstance
  /-- The router when the reply comes in. -/
  waiting : SrInstance
  /-- The router when it has handled the reply. -/
  answered : SrInstance
  /-- What the surroundings supply when the packet is forwarded. -/
  ctx : Surroundings
  /-- The packet that is forwarded. -/
  packet : ByteMem
  /-- Its length. -/
  len : UInt32
  /-- The interface it came in on. -/
  interface : IfName
  /-- Its route. -/
  lpm : SrRt
  /-- What waits on the queue for it. -/
  pkt : SrPacket
  /-- When the reply comes in. -/
  now : Time
  /-- The reply. -/
  reply : ByteMem
  /-- The interface the reply comes in on. -/
  replyInterface : IfName
  /-- The cache is empty to begin with. -/
  empty : start.cache = srArpcacheInit
  /-- Anything may have happened to the cache before the packet comes. -/
  run : ReflTransGen (fun s s' => ∃ e, ArpStep e s s') start before
  /-- The packet has the size that `sr_handle_ippacket` has checked. -/
  size : UInt32.ofNat sizeofIpHdr < len ∧ len ≤ ipMaxpacket
  /-- There is a route to its destination. -/
  route : srRtLookup before.cfg.routingTable (SrIpHdr.ipDst packet) = .ok (some lpm)
  /-- The address of the next hop is not in the cache. -/
  miss : srArpcacheLookup before.cache lpm.gw = none
  /-- The packet is forwarded. -/
  forward : srForwardIppacket ctx before packet len interface = .ok queued
  /-- It is put on the queue. -/
  enqueued : Added before queued (.queued lpm.gw pkt)
  /-- Anything may happen to the cache while it waits. -/
  wait : ReflTransGen (fun s s' => ∃ e, ArpStep e s s') queued waiting
  /-- It is waiting still. -/
  waits : (lpm.gw, pkt) ∈ waiting.cache.waiting
  /-- The reply is an ARP reply about IP addresses on Ethernet. -/
  isReply : isEthernetIp reply = true ∧ ntohs (SrArpPacket.arOp reply) = arpOpReply
  /-- It comes from the next hop. -/
  fromGateway : SrArpPacket.arSip reply = lpm.gw
  /-- The router handles it. -/
  answer : srHandleArp waiting now reply replyInterface = .ok answered

/-- What `sr_forward_ippacket` hands to `sr_send_packet` if the cache has an entry `lpm.gw ↦ mac`. -/
def HitSends (ctx : Surroundings) (sr : SrInstance) (packet : ByteMem) (len : UInt32)
    (interface : IfName) (lpm : SrRt) (mac : Mac) (frame : List UInt8) (iface : IfName) : Prop :=
  ∀ cache entry, srArpcacheLookup cache lpm.gw = some entry → entry.mac = mac →
    ∃ sr', srForwardIppacket ctx { sr with cache := cache } packet len interface = .ok sr' ∧
      Added { sr with cache := cache } sr' (.send none frame iface)

/-- The frame for the packet that waited is the one of the hit case, with the Ethernet address of the
route's interface as its source, is sent on that interface, and is accepted by `sr_send_packet`. -/
structure AnsweredWait.SentAsHit (w : AnsweredWait) (frame : List UInt8) (iface : IfName) :
    Prop where
  /-- The frame of the hit case. -/
  hit : HitSends w.ctx w.before w.packet w.len w.interface w.lpm (SrArpPacket.arSha w.reply) frame
    w.lpm.interface
  /-- Its source is the interface of the route. -/
  source : loadMac (ofBytes frame) 6 = addrOf w.before.cfg w.lpm.interface
  /-- It is sent on that interface. -/
  onRoute : sameIfName iface w.lpm.interface = true
  /-- It passes the tests of `sr_send_packet`. -/
  accepted : srSendPacketAccepts w.before.cfg frame iface = true

/-- The packet is sent when the reply has come, and as in the hit case. -/
def AnsweredWait.MissAsHit (w : AnsweredWait) : Prop :=
  (∃ frame iface, Added w.waiting w.answered (.send (some w.pkt) frame iface)) ∧
    ∀ frame iface, Added w.waiting w.answered (.send (some w.pkt) frame iface) →
      w.SentAsHit frame iface

/-! ### What the history says -/

/-- The interfaces and the routes are the same in every state of a run. -/
lemma cfg_of_steps {sr sr' : SrInstance}
    (hrun : ReflTransGen (fun s s' => ∃ e, ArpStep e s s') sr sr') : sr'.cfg = sr.cfg := by
  induction hrun with
  | refl => rfl
  | tail _ hstep ih =>
    obtain ⟨e, ctx, hstep⟩ := hstep
    refine Eq.trans ?_ ih
    cases e with
    | queue ip packet packetLen iface sender =>
      obtain rfl := Except.ok.inj hstep
      rfl
    | arp now packet interface => exact (sends_srHandleArp hstep).cfg
    | expire curtime =>
      obtain rfl := Except.ok.inj hstep
      rfl
    | visit now later node => exact (sends_visitRequest hstep).cfg

section Answer

variable {ctx : Surroundings} {sr sr' : SrInstance} {packet : ByteMem} {len : UInt32}
  {interface : IfName} {lpm : SrRt}

/-- What `sr_handle_arp` does with a reply that is waited for. -/
lemma srHandleArp_reply {now : Time} {req : SrArpreq}
    (hip : isEthernetIp packet = true) (hop : ntohs (SrArpPacket.arOp packet) = arpOpReply)
    (hreq : sr.cache.requests.find? (fun req => req.ip = SrArpPacket.arSip packet) = some req)
    (h : srHandleArp sr now packet interface = .ok sr') :
    sr'.log = sr.log ++ req.packets.map (flushEvent sr.cfg (SrArpPacket.arSha packet) interface) ∧
      ∀ pkt ∈ req.packets, ∃ i, srGetInterface sr.cfg.ifList pkt.iface = some i := by
  have hop' : ¬ ntohs (SrArpPacket.arOp packet) = arpOpRequest := by
    rw [hop]
    decide
  simp only [srHandleArp, if_pos hip, if_neg hop', if_pos hop, srArpcacheInsert, hreq] at h
  obtain ⟨mid, hflush, h⟩ := bind_eq_ok.mp h
  obtain rfl := Except.ok.inj h
  obtain ⟨rfl, hall⟩ := flushPackets_eq hflush
  exact ⟨rfl, hall⟩

/-- Names that are the same to the router name the same interface. -/
lemma srGetInterface_of_same {name name' : IfName} (h : sameIfName name name' = true)
    (ifList : List SrIf) : srGetInterface ifList name = srGetInterface ifList name' := by
  have heq : name.take 32 = name'.take 32 := of_decide_eq_true h
  simp only [srGetInterface, sameIfName, heq]

namespace AnsweredWait

variable (w : AnsweredWait)

/-- The packet is put on the queue. -/
lemma queued_eq : w.queued =
    (w.before.record [.forward (decrementTtl w.packet) w.len w.lpm]).queuereq w.ctx.heap w.lpm.gw
      (decrementTtl w.packet) w.len w.lpm.interface w.interface :=
  Except.ok.inj (w.forward.symm.trans (srForwardIppacket_miss w.route w.miss))

/-- What waits is a copy of the packet. -/
lemma pkt_eq : ∃ junk, w.pkt = ⟨copied (decrementTtl w.packet) w.len.toNat junk, w.len,
    copyIfName w.lpm.interface, copyIfName w.interface⟩ := by
  obtain ⟨events, hlog, hmem⟩ := w.enqueued
  rw [w.queued_eq] at hlog
  obtain rfl := List.append_cancel_left (hlog.symm.trans (List.append_assoc ..))
  rcases List.mem_cons.mp hmem with heq | hmem
  · cases heq
  · obtain ⟨pkt, hpkt, heq⟩ := List.mem_map.mp hmem
    cases heq
    have hnew := Option.mem_toList.mp hpkt
    unfold newPacket at hnew
    split_ifs at hnew
    · exact ⟨_, (Option.some.inj hnew).symm⟩

/-- The queue is well formed when the reply comes in. -/
lemma wellFormed : w.waiting.cache.WellFormed := by
  refine SrArpcache.WellFormed.steps ?_ w.wait
  rw [w.queued_eq]
  exact (wellFormed_of_steps w.empty w.run).queuereq ..

/-- The interfaces and routes are those at the time the packet was forwarded. -/
lemma waiting_cfg : w.waiting.cfg = w.before.cfg := by
  rw [cfg_of_steps w.wait, w.queued_eq]
  rfl

/-- The length of the frame. -/
lemma toNat_frameLen : (frameLen w.len).toNat = sizeofEthernetHdr + w.len.toNat := by
  have hmax : w.len.toNat ≤ 65535 := UInt32.le_iff_toNat_le.mp w.size.2
  have hsize : (UInt32.ofNat sizeofEthernetHdr).toNat = 14 := by decide
  have hhdr : sizeofEthernetHdr = 14 := rfl
  rw [frameLen, UInt32.toNat_add, hsize, hhdr]
  omega

/-- **What is sent for the packet**: the frame of the hit case, on the interface of the reply. -/
lemma sends : ∃ i, srGetInterface w.before.cfg.ifList w.lpm.interface = some i ∧
    ∀ frame iface, Added w.waiting w.answered (.send (some w.pkt) frame iface) ↔
      frame = bytes (srCreateEtherframe w.len (decrementTtl w.packet) (SrArpPacket.arSha w.reply)
        i.addr ethertypeIp) (frameLen w.len).toNat ∧ iface = w.replyInterface := by
  obtain ⟨req, hmem, hip, hpkt⟩ := mem_content.mp w.waits
  have hfind : w.waiting.cache.requests.find? (fun req => req.ip = SrArpPacket.arSip w.reply) =
      some req := by
    rw [w.fromGateway]
    obtain ⟨req', hreq'⟩ : ∃ req', w.waiting.cache.requests.find? (fun req => req.ip = w.lpm.gw) =
        some req' :=
      Option.isSome_iff_exists.mp (List.find?_isSome.mpr ⟨req, hmem, decide_eq_true hip⟩)
    have hip' : req'.ip = w.lpm.gw := by simpa using List.find?_some hreq'
    rw [hreq', w.wellFormed.eq_of_ip (List.mem_of_find?_eq_some hreq') hmem (hip'.trans hip.symm)]
  obtain ⟨hlog, hall⟩ := srHandleArp_reply w.isReply.1 w.isReply.2 hfind w.answer
  obtain ⟨junk, hcopy⟩ := w.pkt_eq
  obtain ⟨i, hi⟩ := hall w.pkt hpkt
  rw [hcopy, srGetInterface_copyIfName, w.waiting_cfg] at hi
  have hframe : flushEvent w.waiting.cfg (SrArpPacket.arSha w.reply) w.replyInterface w.pkt =
      .send (some w.pkt) (bytes (srCreateEtherframe w.len (decrementTtl w.packet)
        (SrArpPacket.arSha w.reply) i.addr ethertypeIp) (frameLen w.len).toNat) w.replyInterface := by
    have hload : ∀ n < w.len.toNat,
        copied (decrementTtl w.packet) w.len.toNat junk n = decrementTtl w.packet n :=
      fun n hn => if_pos hn
    have haddr : addrOf w.waiting.cfg (copyIfName w.lpm.interface) = i.addr := by
      rw [w.waiting_cfg]
      exact addrOf_eq ((srGetInterface_copyIfName _ _).trans hi)
    rw [flushEvent, hcopy, haddr, srCreateEtherframe_congr hload]
  refine ⟨i, hi, ?_⟩
  intro frame iface
  constructor
  · rintro ⟨events, hevents, hsend⟩
    obtain rfl := List.append_cancel_left (hevents.symm.trans hlog)
    obtain ⟨pkt, -, heq⟩ := List.mem_map.mp hsend
    obtain rfl : pkt = w.pkt := Option.some.inj (RouterEvent.send.inj heq).1
    have hsent := RouterEvent.send.inj (hframe.symm.trans heq)
    exact ⟨hsent.2.1.symm, hsent.2.2.symm⟩
  · rintro ⟨rfl, rfl⟩
    exact ⟨_, hlog, hframe ▸ List.mem_map_of_mem hpkt⟩

/-- The packet goes out as in the hit case if and only if the reply comes in on the interface of the
route. -/
lemma missAsHit_iff_sameIfName :
    w.MissAsHit ↔ sameIfName w.replyInterface w.lpm.interface = true := by
  obtain ⟨i, hi, hsends⟩ := w.sends
  have hlong : sizeofEthernetHdr ≤ (frameLen w.len).toNat := by
    rw [w.toNat_frameLen]
    exact Nat.le_add_right ..
  constructor
  · intro h
    exact (h.2 _ _ ((hsends _ _).mpr ⟨rfl, rfl⟩)).onRoute
  · intro h
    refine ⟨⟨_, _, (hsends _ _).mpr ⟨rfl, rfl⟩⟩, ?_⟩
    intro frame iface hsend
    obtain ⟨rfl, rfl⟩ := (hsends _ _).mp hsend
    refine ⟨?_, ?_, h, ?_⟩
    · intro cache entry hentry hmac
      rw [← hmac]
      refine ⟨_, srForwardIppacket_hit w.route hentry hi, _, List.append_assoc .., ?_⟩
      exact List.mem_cons_of_mem _ List.mem_cons_self
    · rw [loadMac_bytes hlong, addrOf_eq hi]
    · have hiface : srGetInterface w.before.cfg.ifList w.replyInterface = some i :=
        (srGetInterface_of_same h _).trans hi
      simp only [srSendPacketAccepts, length_bytes, hlong, srEtherAddrsMatchInterface, hiface,
        loadMac_bytes hlong, decide_true, and_self]

end AnsweredWait

end Answer

/-! ### The interface of the reply -/

/-- **The miss path.**  For every packet that is forwarded over a route and waits for the address of
its next hop, in every state of the ARP cache, and every reply of the next hop that comes while it
waits: the frame for the packet is that of the hit case, with the source address of the route's
interface, is sent on that interface, and passes the tests of `sr_send_packet`, if and only if the
reply comes in on that interface. -/
theorem missAsHit_iff (w : AnsweredWait) :
    w.MissAsHit ↔ sameIfName w.replyInterface w.lpm.interface = true :=
  w.missAsHit_iff_sameIfName

/-- A message from 10.0.1.5 to 8.8.8.8, which waits for the address of 172.64.3.2. -/
def waitingEcho : IpPacket := sealedMessage 64 8 0x0a000105 0x08080808 7

/-- The copy of the message that waits. -/
def waitingEchoPacket : SrPacket where
  buf := copied (decrementTtl waitingEcho.buf) waitingEcho.len.toNat fun _ => 0
  len := waitingEcho.len
  iface := outerInterface.name
  sender := innerInterface.name

/-- The router while the message waits. -/
def waitingEchoRouter : SrInstance :=
  ((natRouter startState).record
    [.forward (decrementTtl waitingEcho.buf) waitingEcho.len outerRoute]).queuereq
      quietSurroundings.heap outerRoute.gw (decrementTtl waitingEcho.buf) waitingEcho.len
      outerRoute.interface innerInterface.name

/-- The reply to the packet that waits for 172.64.3.2 on the outside comes in on the inside. -/
theorem reply_onOtherInterface : ∃ w : AnsweredWait,
    w.lpm.interface = outerInterface.name ∧ w.replyInterface = innerInterface.name ∧
      ¬ w.MissAsHit := by
  obtain ⟨hip, hop, hsip⟩ := arpReplyFromGateway_fields
  have hroute : srRtLookup (natRouter startState).cfg.routingTable (SrIpHdr.ipDst waitingEcho.buf) =
      .ok (some outerRoute) := by
    rw [waitingEcho, ipDst_sealedMessage]
    rfl
  have hmiss : srArpcacheLookup (natRouter startState).cache outerRoute.gw = none :=
    srArpcacheLookup_init _
  have hforward : srForwardIppacket quietSurroundings (natRouter startState) waitingEcho.buf
      waitingEcho.len innerInterface.name = .ok waitingEchoRouter :=
    srForwardIppacket_miss hroute hmiss
  obtain ⟨answered, hanswer⟩ : ∃ answered,
      srHandleArp waitingEchoRouter 1 arpReplyFromGateway innerInterface.name = .ok answered := by
    have hop' : ¬ ntohs (SrArpPacket.arOp arpReplyFromGateway) = arpOpRequest := by
      rw [hop]
      decide
    simp only [srHandleArp, if_pos hip, if_neg hop', if_pos hop, hsip]
    exact ⟨_, rfl⟩
  refine ⟨{
    start := natRouter startState
    before := natRouter startState
    queued := waitingEchoRouter
    waiting := waitingEchoRouter
    answered := answered
    ctx := quietSurroundings
    packet := waitingEcho.buf
    len := waitingEcho.len
    interface := innerInterface.name
    lpm := outerRoute
    pkt := waitingEchoPacket
    now := 1
    reply := arpReplyFromGateway
    replyInterface := innerInterface.name
    empty := rfl
    run := .refl
    size := ⟨by decide, by decide⟩
    route := hroute
    miss := hmiss
    forward := hforward
    enqueued := ⟨_, List.append_assoc .., List.mem_cons_of_mem _ List.mem_cons_self⟩
    wait := .refl
    waits := mem_content.mpr ⟨_, List.mem_cons_self, rfl, List.mem_cons_self⟩
    isReply := ⟨hip, hop⟩
    fromGateway := hsip
    answer := hanswer }, rfl, rfl, fun h => ?_⟩
  have hother : ¬ sameIfName innerInterface.name outerInterface.name = true := by decide
  exact hother ((AnsweredWait.missAsHit_iff_sameIfName _).mp h)

end NatRouter
