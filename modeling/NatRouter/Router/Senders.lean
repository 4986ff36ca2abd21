import NatRouter.Router.Origins
import NatRouter.Router.Errors

/-!
# To whom errors go

An ICMP error goes to the source of the buffer it is about, and that buffer may have been put aside
long before.  `nat_handle_icmp` and `nat_handle_tcp` rewrite the source of an outgoing packet in place
before `sr_forward_ippacket` puts it on the ARP queue, so that when its next hop does not answer the
error goes to the router itself.  Where packets with another source than they came with find their next
hop in the ARP cache, every error goes to the sender of the packet it is about
(`errorsGoBack_of_forwardsAtOnce`).
-/

namespace NatRouter

open ByteMemory Interleaving Relation

/-- Every error about a buffer that was made from a received packet is addressed to the source that
the packet had when it was received. -/
def ErrorsGoBack (x : SrInstance × Trace) : Prop :=
  ∀ b interface type code, RouterEvent.icmp b interface type code ∈ x.1.log →
    type ≠ icmpTypeEchoreply → ∀ n a, (b, n) ∈ x.2.origins → x.2.received[n]? = some a →
    ∀ interfaceInfo len message, icmpIppacket interfaceInfo b type code = .ok (len, message) →
      SrIpHdr.ipDst message = SrIpHdr.ipSrc a.packet

/-- A packet that is passed on with another source than it was received with does not have to wait: there
is a route, and the address of the next hop is in the ARP cache. -/
def ForwardsAtOnce : RouterCall → SrInstance × Trace → Prop
  | .perform n _ _ (.forward q), x => ∀ a, x.2.received[n]? = some a →
    SrIpHdr.ipSrc q = SrIpHdr.ipSrc a.packet ∨
      ∃ lpm, srRtLookup x.1.cfg.routingTable (SrIpHdr.ipDst q) = .ok (some lpm) ∧
        (srArpcacheLookup x.1.cache lpm.gw).isSome
  | _, _ => True

/-! ### The message -/

/-- The destination of a packet that the router makes. -/
lemma ipDst_srCreateIppacket (loadLen : UInt32) (load : ByteMem) (protocol : UInt8)
    (sourceIp destIp : UInt32) :
    SrIpHdr.ipDst (srCreateIppacket loadLen load protocol sourceIp destIp) = destIp := by
  unfold srCreateIppacket SrIpHdr.ipDst SrIpHdr.setIpSum SrIpHdr.setIpDst
  simp only
  rw [load32_storeBlock (by decide), load32_store16_of_disjoint (by decide), load32_store32_self]

/-- An ICMP message is addressed to the source of the buffer it is about. -/
lemma ipDst_icmpIppacket {interfaceInfo : Option SrIf} {b message : ByteMem} {type code : UInt8}
    {len : UInt32} (h : icmpIppacket interfaceInfo b type code = .ok (len, message)) :
    SrIpHdr.ipDst message = SrIpHdr.ipSrc b := by
  obtain ⟨icmpPacket, -, h⟩ := bind_eq_ok.mp h
  obtain ⟨sourceIp, -, h⟩ := bind_eq_ok.mp h
  have hmessage : srCreateIppacket icmpPacket.1 icmpPacket.2 ipProtocolIcmp sourceIp
      (SrIpHdr.ipSrc b) = message := congrArg Prod.snd (Except.ok.inj h)
  rw [← hmessage]
  exact ipDst_srCreateIppacket ..

/-! ### What is decided about a packet -/

/-- What the handlers of the NAT return: the packet as it is, but with the code 1. -/
def HandlerKeeps (p : ByteMem) (r : ℤ × ByteMem) : Prop := r.1 ≠ 1 → r.2 = p

section Handlers

variable {p : ByteMem}

/-- A packet that is left as it is. -/
lemma handlerKeeps_self (p : ByteMem) (code : ℤ) : HandlerKeeps p (code, p) := fun _ => rfl

/-- A packet that goes through. -/
lemma handlerKeeps_one (p q : ByteMem) : HandlerKeeps p (1, q) := fun hcode => absurd rfl hcode

/-- Filling in the checksums of a TCP segment. -/
lemma natTcpUpdateChecksum_keeps (p q : ByteMem) (len : UInt32) (o : ℕ) :
    (natTcpUpdateChecksum q len o).Returns (HandlerKeeps p) := by
  unfold natTcpUpdateChecksum
  simp only
  split
  · trivial
  · exact handlerKeeps_one p _

/-- What `nat_handle_tcp` returns. -/
lemma natHandleTcp_returns (cfg : NetConfig) (p : ByteMem) (len : UInt32) (isToNat : Bool) :
    (natHandleTcp cfg p len isToNat).Returns (HandlerKeeps p) := by
  apply TcpRules.natHandleTcp
  constructor
  · exact handlerKeeps_self p
  · exact fun _ => trivial
  · exact fun _ _ _ _ hk => hk
  · intro _ _ mapping
    unfold natTcpTranslateSource
    simp only
    split
    · trivial
    · trivial
    · split
      · trivial
      · exact natTcpUpdateChecksum_keeps p _ len _
  · exact fun q _ => natTcpUpdateChecksum_keeps p q len _

/-- What `nat_handle_icmp` returns. -/
lemma natHandleIcmp_returns (cfg : NetConfig) (p : ByteMem) :
    (natHandleIcmp cfg p).Returns (HandlerKeeps p) := by
  apply IcmpRules.natHandleIcmp
  constructor
  · exact handlerKeeps_self p 0
  · exact fun _ => trivial
  · exact fun _ _ _ hk => hk
  · intro _ _ lpm _ mapping
    unfold natIcmpTranslateSource
    simp only
    split
    · trivial
    · exact handlerKeeps_one p _
  · exact fun q _ => handlerKeeps_one p q

end Handlers

/-- What becomes of a received packet: an ICMP message is about the packet itself, and what is passed on
has passed the tests. -/
def ActionKeeps (a : Arrival) : IpAction → Prop
  | .drop => True
  | .sendIcmp b _ _ => b = a.packet
  | .forward _ => Accepted a.packet a.len

/-- The decision about a packet. -/
lemma ipAction_returns (cfg : NetConfig) (natEnabled : Bool) (a : Arrival) :
    (ipAction cfg natEnabled a.packet a.len).Returns (ActionKeeps a) := by
  have hdecides := ipAction_decides cfg natEnabled a.packet a.len
  generalize ipAction cfg natEnabled a.packet a.len = P at hdecides ⊢
  cases hdecides with
  | drop => trivial
  | sendIcmp type code => exact rfl
  | forward hok => exact hok
  | natIcmp hok hon hp hg =>
    apply (natHandleIcmp_returns cfg a.packet).map
    intro r _
    rcases hg r with hdrop | hforward
    · rw [hdrop]
      trivial
    · rw [hforward]
      exact hok
  | @natTcp hok hon hp isToNat hfor =>
    apply (natHandleTcp_returns cfg a.packet a.len isToNat).map
    intro r hr
    unfold tcpVerdict
    split_ifs with hnat hone hminus hzero
    · exact hok
    · trivial
    · exact hr hone
    · exact hr (by rw [hzero]; decide)
    · exact hok

/-! ### The buffers on record -/

section Senders

variable {cfg : NetConfig} {natEnabled : Bool} {x x' : SrInstance × Trace}

/-- **The buffers on record keep their senders.** -/
structure SendersKept (cfg : NetConfig) (x : SrInstance × Trace) : Prop where
  /-- The interfaces and routes are those of the router. -/
  cfg : x.1.cfg = cfg
  /-- A buffer that was made from a packet has its source. -/
  origins : ∀ b n, (b, n) ∈ x.2.origins →
    ∃ a, x.2.received[n]? = some a ∧ SrIpHdr.ipSrc b = SrIpHdr.ipSrc a.packet

/-- Nothing is put on record. -/
lemma SendersKept.of_origins (h : SendersKept cfg x) (hcfg : x'.1.cfg = x.1.cfg)
    (horigins : ∀ b n, (b, n) ∈ x'.2.origins → (b, n) ∈ x.2.origins)
    (hreceived : ∀ (n : ℕ) a, x.2.received[n]? = some a → x'.2.received[n]? = some a) :
    SendersKept cfg x' := by
  refine ⟨hcfg.trans h.cfg, ?_⟩
  intro b n hb
  obtain ⟨a, hn, hsrc⟩ := h.origins b n (horigins b n hb)
  exact ⟨a, hreceived n a hn, hsrc⟩

/-- A call of the NAT puts copies of its packet on record. -/
lemma SendersKept.nat {a : Arrival} {n : ℕ} {c : NatCall} {r : c.Result} (h : SendersKept cfg x)
    (hn : x.2.received[n]? = some a) (hc : CallsAbout a c)
    (hcall : routerSem (.nat n c) x r x') : SendersKept cfg x' := by
  have hreceived := @routerSem_received x x' (.nat n c) r hcall
  have hcfg : x'.1.cfg = x.1.cfg := by
    obtain ⟨amb, nat', -, rfl⟩ := hcall
    rfl
  refine ⟨hcfg.trans h.cfg, ?_⟩
  intro b m hb
  rcases nat_origins hcall hb with hold | ⟨rfl, p, len, junk, hbuffers, rfl⟩
  · obtain ⟨a', hm, hsrc⟩ := h.origins b m hold
    exact ⟨a', hreceived hm, hsrc⟩
  · refine ⟨a, hreceived hn, ?_⟩
    obtain ⟨hok, rfl, rfl⟩ := hc.of_buffers hbuffers
    exact ipSrc_copied hok.twenty_le

/-- What was decided puts buffers on record that have the source of the packet, if a packet with another
source does not have to wait. -/
lemma SendersKept.perform {a : Arrival} {n : ℕ} {interface : IfName} {action : IpAction}
    (h : SendersKept cfg x) (hn : x.2.received[n]? = some a) (hkeeps : ActionKeeps a action)
    (hguard : ForwardsAtOnce (.perform n a.len interface action) x)
    (hcall : routerSem (.perform n a.len interface action) x () x') : SendersKept cfg x' := by
  have hreceived := @routerSem_received x x' (.perform n a.len interface action) () hcall
  obtain ⟨ctx, events, hperform, hlog, htrace⟩ := hcall
  refine ⟨(sends_perform hperform).cfg.trans h.cfg, ?_⟩
  intro b m hb
  rw [htrace] at hb
  rcases List.mem_append.mp hb with hold | hnew
  · obtain ⟨a', hm, hsrc⟩ := h.origins b m hold
    exact ⟨a', hreceived hm, hsrc⟩
  · obtain ⟨b', hb', heq⟩ := List.mem_map.mp hnew
    obtain ⟨rfl, rfl⟩ : b' = b ∧ n = m := ⟨congrArg Prod.fst heq, congrArg Prod.snd heq⟩
    refine ⟨a, hreceived hn, ?_⟩
    cases action with
    | drop => cases hb'
    | sendIcmp packet type code =>
      obtain rfl := List.mem_singleton.mp hb'
      exact congrArg SrIpHdr.ipSrc hkeeps
    | forward q =>
      have hok : Accepted a.packet a.len := hkeeps
      have hsender := hguard a hn
      rcases forward_buffers hperform hlog hb' with ⟨rfl, hnone⟩ | ⟨lpm, junk, hsome, hmiss, rfl⟩
      · -- there is no route, so the source is that of the packet
        rcases hsender with hsame | ⟨lpm, hroute, -⟩
        · exact hsame
        · rw [hnone] at hroute
          cases hroute
      · -- the copy waits, so the source is that of the packet
        refine (ipSrc_copied hok.twenty_le).trans ((ipSrc_decrementTtl q).trans ?_)
        rcases hsender with hsame | ⟨lpm', hroute, hhit⟩
        · exact hsame
        · rw [hsome] at hroute
          cases hroute
          rw [hmiss] at hhit
          cases hhit

/-- Every call keeps them. -/
lemma SendersKept.call {c : RouterCall} {r : c.Result} (h : SendersKept cfg x)
    (hguard : ForwardsAtOnce c x) (hlegit : Legit CallsAbout ActionKeeps c x)
    (hcall : routerSem c x r x') : SendersKept cfg x' := by
  cases c with
  | receive a =>
    have hreceived := @routerSem_received x x' (.receive a) r hcall
    obtain ⟨-, rfl⟩ := hcall
    exact h.of_origins rfl (fun _ _ hb => hb) fun _ _ hn => hreceived hn
  | nat n c =>
    obtain ⟨a, hn, hc⟩ := hlegit
    exact h.nat hn hc hcall
  | perform n len interface action =>
    obtain ⟨a, hn, rfl, rfl, hkeeps⟩ := hlegit
    exact h.perform hn hkeeps hguard hcall
  | arp packet interface =>
    obtain ⟨now, harp, htrace⟩ := hcall
    exact h.of_origins (sends_srHandleArp harp).cfg (fun _ _ hb => htrace ▸ hb)
      fun _ _ hn => htrace ▸ hn

/-- So do the sweeps. -/
lemma SendersKept.env (h : SendersKept cfg x) (henv : RouterEnv x x') : SendersKept cfg x' := by
  have hreceived := henv.received
  cases henv with
  | @nat sr sr' t ctx curtime nat' reported hsweep hsend =>
    refine h.of_origins (sends_sendReported hsend).cfg (fun b n hb => ?_) fun _ _ hn => hreceived ▸ hn
    unfold Trace.afterSweep at hb
    split at hb
    · exact hb
    · exact hb
  | arp h' => exact h.of_origins (sends_srArpcacheTimeout h').cfg (fun _ _ hb => hb) fun _ _ hn => hn

end Senders

/-- **Errors go back to the sender**, in every run in which the packets that are passed on with another
source than they came with find their next hop in the ARP cache. -/
theorem errorsGoBack_of_forwardsAtOnce {cfg : NetConfig} {natEnabled : Bool} {x : SrInstance × Trace}
    (hinit : RouterInit cfg x) {c : RouterConf}
    (hrun : RouterSteps ForwardsAtOnce cfg natEnabled (.idle, x) c) :
    ErrorsGoBack c.2 := by
  have hx : SendersKept cfg x := by
    refine ⟨hinit.cfg, ?_⟩
    intro b n hb
    rw [hinit.trace] at hb
    cases hb
  have hc : SendersKept cfg c.2 := router_invariant (ipAction_callsAbout cfg natEnabled)
    (ipAction_returns cfg natEnabled)
    (fun _ _ _ _ hguard hlegit hI hcall => hI.call hguard hlegit hcall)
    (fun _ _ hI henv => hI.env henv) hx hrun
  intro b interface type code _ _ n a hb hn interfaceInfo len message hmessage
  obtain ⟨a', hn', hsrc⟩ := hc.origins b n hb
  obtain rfl := Option.some.inj (hn.symm.trans hn')
  exact (ipDst_icmpIppacket hmessage).trans hsrc

/-- An echo request from 8.8.8.8 to 10.0.0.1, on its last hop. -/
def expiringRequest : Arrival :=
  ⟨(sealedMessage 1 8 0x08080808 0x0a000001 7).buf, 28, outerInterface.name⟩

/-- The decision about it. -/
lemma ipAction_expiringRequest : ipAction twoSided true expiringRequest.packet expiringRequest.len =
    .ret (.sendIcmp expiringRequest.packet icmpTypeTimeexceeded 0) := by
  refine ipAction_expired (accepted_sealedMessage ..) ?_ (ipTtl_sealedMessage ..)
  have hip : SrIpHdr.ipDst expiringRequest.packet = htonl 0x0a000001 := ipDst_sealedMessage ..
  rw [hip]
  decide

/-- The error about it goes back to 8.8.8.8. -/
theorem errorsGoBack_expiringRequest : ∃ x, RouterInit twoSided freshRouter ∧
    RouterSteps ForwardsAtOnce twoSided true (.idle, freshRouter) (.idle, x) ∧
    RouterEvent.icmp expiringRequest.packet expiringRequest.interface icmpTypeTimeexceeded 0 ∈
      x.1.log ∧ (expiringRequest.packet, 0) ∈ x.2.origins ∧ ErrorsGoBack x := by
  have hinterface : srGetInterface freshRouter.1.cfg.ifList expiringRequest.interface =
      some outerInterface := rfl
  obtain ⟨sr', hsend⟩ := @srSendIcmp_of_interface quietSurroundings freshRouter.1
    expiringRequest.packet expiringRequest.interface icmpTypeTimeexceeded 0 (by decide) outerInterface
    hinterface
  obtain ⟨events, hlog, herrors⟩ := srSendIcmp_errors hsend
  obtain ⟨t', hsteps, hhandled⟩ := @routerSteps_ip ForwardsAtOnce twoSided true freshRouter
    expiringRequest (.sendIcmp expiringRequest.packet icmpTypeTimeexceeded 0) startState
    quietSurroundings sr' events routerInit_freshRouter.ownersMatch
    (by rw [ipAction_expiringRequest]; exact .ret _ _) hsend hlog trivial fun _ _ => trivial
  refine ⟨(sr', t'), routerInit_freshRouter, hsteps, ?_, hhandled.origins _ (List.mem_singleton_self _),
    errorsGoBack_of_forwardsAtOnce routerInit_freshRouter hsteps⟩
  rw [hlog]
  exact List.mem_append_right _ (mem_of_filter_isError herrors rfl)

/-- It is on record what the error is about. -/
theorem errors_onRecord_expiringRequest : ∃ x, RouterInit twoSided freshRouter ∧
    RouterSteps (fun _ _ => True) twoSided true (.idle, freshRouter) (.idle, x) ∧
    RouterEvent.icmp expiringRequest.packet expiringRequest.interface icmpTypeTimeexceeded 0 ∈
      x.1.log ∧ IsKnown true freshRouter.1.nat.unsolPkt x.2 expiringRequest.packet := by
  obtain ⟨sr', hsend⟩ := @srSendIcmp_of_interface quietSurroundings freshRouter.1
    expiringRequest.packet expiringRequest.interface icmpTypeTimeexceeded 0 (by decide) outerInterface
    rfl
  obtain ⟨events, hlog, herrors⟩ := srSendIcmp_errors hsend
  obtain ⟨t', hsteps, -⟩ := @routerSteps_ip (fun _ _ => True) twoSided true freshRouter
    expiringRequest (.sendIcmp expiringRequest.packet icmpTypeTimeexceeded 0) startState
    quietSurroundings sr' events routerInit_freshRouter.ownersMatch
    (by rw [ipAction_expiringRequest]; exact .ret _ _) hsend hlog trivial fun _ _ => trivial
  have hmem : RouterEvent.icmp expiringRequest.packet expiringRequest.interface icmpTypeTimeexceeded 0 ∈
      sr'.log := by
    rw [hlog]
    exact List.mem_append_right _ (mem_of_filter_isError herrors rfl)
  exact ⟨(sr', t'), routerInit_freshRouter, hsteps, hmem,
    errors_onRecord routerInit_freshRouter hsteps hmem (by decide)⟩

/-! ### A next hop that does not answer -/

section Waiting

variable {sr mid : SrInstance} {req : SrArpreq} {pkt : SrPacket} {i : SrIf}

/-- A sweep of a queue with one request. -/
lemma srArpcacheTimeout_single (hreq : sr.cache.requests = [req]) {curtime now later : Time}
    (hhandle : srHandleArpreqQueue quietSurroundings now later req.node
      { sr with cache := srArpcacheExpire sr.cache curtime } = .ok mid) :
    ∃ sr', srArpcacheTimeout quietSurroundings curtime (fun _ => (now, later)) sr = .ok sr' ∧
      sr'.cache = mid.cache ∧ ∃ events, sr'.log = mid.log ++ events := by
  by_cases hany : mid.cache.requests.any fun r => r.node = req.node
  · refine ⟨mid, srArpcacheTimeout_of_visit hreq ?_, rfl, [], (List.append_nil _).symm⟩
    simp only [visitRequest, hhandle, bind, Except.bind, hany, if_true]
    rfl
  · refine ⟨mid.record [.readFreed req.node], srArpcacheTimeout_of_visit hreq ?_, rfl, _, rfl⟩
    simp only [visitRequest, hhandle, bind, Except.bind, if_neg hany]
    rfl

/-- The sweep finds the request. -/
lemma find?_expire (hreq : sr.cache.requests = [req]) (curtime : Time) :
    (srArpcacheExpire sr.cache curtime).requests.find? (fun r => r.node = req.node) = some req := by
  change sr.cache.requests.find? _ = _
  rw [hreq]
  exact List.find?_cons_of_pos (decide_eq_true rfl)

/-- Up to five times a sweep asks for the address once more. -/
lemma srArpcacheTimeout_resend (hreq : sr.cache.requests = [req]) (hpkts : req.packets = [pkt])
    (hi : srGetInterface sr.cfg.ifList pkt.iface = some i) (hsent : req.timesSent < srArpreqMax) :
    ∃ sr', srArpcacheTimeout quietSurroundings 0 (fun _ => (req.sent + 2, 0)) sr = .ok sr' ∧
      sr'.cache.requests = [{ req with sent := 0, timesSent := req.timesSent + 1 }] := by
  obtain ⟨mid, hhandle, hcache⟩ : ∃ mid, srHandleArpreqQueue quietSurroundings (req.sent + 2) 0
      req.node { sr with cache := srArpcacheExpire sr.cache 0 } = .ok mid ∧
      mid.cache = (srArpcacheExpire sr.cache 0).touch req.node 0 := by
    simp only [srHandleArpreqQueue, find?_expire hreq, if_pos (srArpreqTo_lt req.sent),
      if_neg (Nat.not_le.mpr hsent), hpkts, List.head?_cons, deref, srSendArp, hi, bind, Except.bind]
    exact ⟨_, rfl, rfl⟩
  obtain ⟨sr', hsweep, hcache', -⟩ := srArpcacheTimeout_single hreq hhandle
  refine ⟨sr', hsweep, ?_⟩
  rw [hcache', hcache]
  change sr.cache.requests.map _ = _
  rw [hreq]
  simp only [List.map_cons, if_true, List.map_nil]

/-- Then it gives up, and sends an error about the packet. -/
lemma srArpcacheTimeout_giveUp (hreq : sr.cache.requests = [req]) (hpkts : req.packets = [pkt])
    (hi : srGetInterface sr.cfg.ifList pkt.sender = some i) (hsent : srArpreqMax ≤ req.timesSent) :
    ∃ sr', srArpcacheTimeout quietSurroundings 0 (fun _ => (req.sent + 2, 0)) sr = .ok sr' ∧
      RouterEvent.icmp pkt.buf pkt.sender icmpTypeDstunreachable 1 ∈ sr'.log := by
  obtain ⟨mid, hsend⟩ := @srSendIcmp_of_interface quietSurroundings
    { sr with cache := srArpcacheExpire sr.cache 0 } pkt.buf pkt.sender icmpTypeDstunreachable 1
    (by decide) i hi
  obtain ⟨events, hlog, herrors⟩ := srSendIcmp_errors hsend
  have hhandle : srHandleArpreqQueue quietSurroundings (req.sent + 2) 0 req.node
      { sr with cache := srArpcacheExpire sr.cache 0 } =
        .ok { mid with cache := srArpreqDestroy mid.cache req.node } := by
    simp only [srHandleArpreqQueue, find?_expire hreq, if_pos (srArpreqTo_lt req.sent), if_pos hsent,
      hpkts, sendUnreachable, hsend, bind, Except.bind]
    rfl
  obtain ⟨sr', hsweep, -, events', hlog'⟩ := srArpcacheTimeout_single hreq hhandle
  refine ⟨sr', hsweep, ?_⟩
  rw [hlog', hlog]
  exact List.mem_append_left _ (List.mem_append_right _ (mem_of_filter_isError herrors rfl))

/-- A router in which one packet waits, and its address has been asked for `k` times. -/
structure WaitsAlone (sr : SrInstance) (pkt : SrPacket) (k : ℕ) : Prop where
  /-- The request. -/
  request : ∃ req, sr.cache.requests = [req] ∧ req.packets = [pkt] ∧ req.timesSent = k
  /-- The outgoing interface exists. -/
  iface : ∃ i, srGetInterface sr.cfg.ifList pkt.iface = some i
  /-- And so does the incoming interface. -/
  sender : ∃ i, srGetInterface sr.cfg.ifList pkt.sender = some i

/-- After some sweeps it has been asked for five times. -/
lemma WaitsAlone.asked {guard : RouterCall → SrInstance × Trace → Prop} {cfg : NetConfig}
    {natEnabled : Bool} {t : Trace} {k m : ℕ} (h : WaitsAlone sr pkt k) (hk : k + m = srArpreqMax) :
    ∃ sr', RouterSteps guard cfg natEnabled (.idle, (sr, t)) (.idle, (sr', t)) ∧
      WaitsAlone sr' pkt srArpreqMax := by
  induction m generalizing sr k with
  | zero =>
    obtain rfl : k = srArpreqMax := hk
    exact ⟨sr, .refl, h⟩
  | succ m ih =>
    obtain ⟨req, hreq, hpkts, rfl⟩ := h.request
    obtain ⟨i, hi⟩ := h.iface
    obtain ⟨mid, hsweep, hrequests⟩ := srArpcacheTimeout_resend hreq hpkts hi (by omega)
    have hcfg := (sends_srArpcacheTimeout hsweep).cfg
    have hmid : WaitsAlone mid pkt (req.timesSent + 1) :=
      ⟨⟨_, hrequests, hpkts, rfl⟩, hcfg ▸ h.iface, hcfg ▸ h.sender⟩
    obtain ⟨sr', hsteps, hsr'⟩ := ih hmid (by omega)
    exact ⟨sr', .head (.env (.arp hsweep)) hsteps, hsr'⟩

/-- A packet whose next hop does not answer is reported in the end. -/
lemma WaitsAlone.reported {guard : RouterCall → SrInstance × Trace → Prop} {cfg : NetConfig}
    {natEnabled : Bool} {t : Trace} (h : WaitsAlone sr pkt 0) :
    ∃ sr', RouterSteps guard cfg natEnabled (.idle, (sr, t)) (.idle, (sr', t)) ∧
      RouterEvent.icmp pkt.buf pkt.sender icmpTypeDstunreachable 1 ∈ sr'.log := by
  obtain ⟨mid, hsteps, hmid⟩ := h.asked (m := srArpreqMax) (Nat.zero_add _)
  obtain ⟨req, hreq, hpkts, hsent⟩ := hmid.request
  obtain ⟨i, hi⟩ := hmid.sender
  obtain ⟨sr', hsweep, hmem⟩ := srArpcacheTimeout_giveUp hreq hpkts hi hsent.ge
  exact ⟨sr', hsteps.tail (.env (.arp hsweep)), hmem⟩

end Waiting

/-- When 172.64.3.2 does not answer, the error about the SYN from 10.0.0.1 goes to the router. -/
theorem openingSyn_misdirected : ∃ x c, RouterInit twoSided x ∧
    RouterSteps unguarded twoSided true (.idle, x) c ∧ ¬ ErrorsGoBack c.2 := by
  obtain ⟨q, hrun, hdst, hsrc⟩ := runs_openingSyn
  have hlookup : srRtLookup (natRouter synState).cfg.routingTable (SrIpHdr.ipDst q) =
      .ok (some outerRoute) := by
    rw [hdst]
    rfl
  have hmiss : srArpcacheLookup (natRouter synState).cache outerRoute.gw = none :=
    srArpcacheLookup_init _
  -- the translated SYN waits for the address of its next hop
  let pkt : SrPacket := ⟨copied (decrementTtl q) 40 fun _ => 0, 40, outerInterface.name,
    innerInterface.name⟩
  obtain ⟨sr₁, hforward, hlog, hwaits⟩ : ∃ sr₁, srForwardIppacket quietSurroundings
      (natRouter synState) q openingSyn.len openingSyn.interface = .ok sr₁ ∧
      sr₁.log = (natRouter synState).log ++
        [.forward (decrementTtl q) openingSyn.len outerRoute, .queued outerRoute.gw pkt] ∧
      WaitsAlone sr₁ pkt 0 := by
    exact ⟨_, srForwardIppacket_miss hlookup hmiss, rfl, ⟨_, rfl, rfl, rfl⟩, ⟨outerInterface, rfl⟩,
      ⟨innerInterface, rfl⟩⟩
  obtain ⟨t₁, hsteps, hhandled⟩ := routerSteps_ip_unguarded (x := freshRouter)
    routerInit_freshRouter.ownersMatch hrun hforward hlog
  have horigin : (pkt.buf, 0) ∈ t₁.origins := hhandled.origins _ (List.mem_singleton_self _)
  have hreceived : t₁.received[0]? = some openingSyn := by
    rw [hhandled.received]
    rfl
  obtain ⟨sr₂, hsweeps, hmem⟩ := @WaitsAlone.reported _ _ unguarded twoSided true t₁ hwaits
  refine ⟨freshRouter, (.idle, (sr₂, t₁)), routerInit_freshRouter, hsteps.trans hsweeps, ?_⟩
  intro hback
  obtain ⟨message, hmessage⟩ : ∃ message, icmpIppacket (some innerInterface) pkt.buf
      icmpTypeDstunreachable 1 = .ok message := ⟨_, rfl⟩
  have hto := hback _ _ _ _ hmem (by decide) 0 openingSyn horigin hreceived _ _ _ hmessage
  rw [ipDst_icmpIppacket hmessage] at hto
  have hpkt : SrIpHdr.ipSrc pkt.buf = outerInterface.ip :=
    (ipSrc_copied (by decide)).trans ((ipSrc_decrementTtl q).trans hsrc)
  have hhost : SrIpHdr.ipSrc openingSyn.packet = htonl 0x0a000001 := ipSrc_sealedSegment ..
  rw [hpkt, hhost] at hto
  exact absurd hto (by decide)

end NatRouter
