import NatRouter.Vns.SessionServer

/-!
# Runs of a session

The steps of the router keep the invariant too: they only add to what is written.  So it holds in
every state of a run.
-/

namespace NatRouter

open ByteMemory StructPack MessageStream Relation

variable {cfg : SessionConfig} {s : VnsSession}

/-! ### What the router adds -/

/-- More is on its way to the server. -/
lemma Uplink.grow (h : Uplink s) {s' : VnsSession} {writes : List (List UInt8)}
    (hup : s'.up = s.up ++ writes.flatten) (hwritten : s'.written = s.written ++ writes)
    (htaken : s'.taken = s.taken) (hout : s'.packetsOut = s.packetsOut) (hraised : s'.raised = s.raised)
    {frames : List (IfName × List UInt8)} (htransmitted : s'.transmitted = s.transmitted ++ frames)
    (hle : s.taken ≤ s.transmitted.length + 2) : Uplink s' where
  up := by
    rw [hup, hwritten, htaken, List.flatten_eq_flatMap]
    exact h.up.sendAll writes
  packetsOut := by
    rw [hout, htransmitted, htaken, List.take_append_of_le_length (by omega)]
    exact h.packetsOut
  raised := hraised.trans h.raised

/-- No more is written than the opening and the frames. -/
lemma Progress.length_written (h : Progress cfg s) : s.written.length ≤ s.transmitted.length + 2 := by
  have hready : ∀ {ifList}, WasReady cfg s ifList → s.written.length ≤ s.transmitted.length + 2 := by
    intro ifList hready
    obtain ⟨reply, -, hwritten⟩ := hready.written
    rw [hwritten, List.length_cons, List.length_cons, List.length_map]
  cases h with
  | awaitRequest hclient hread hwritten =>
    rw [hwritten]
    exact Nat.zero_le _
  | awaitStatus hclient hread hwritten =>
    obtain ⟨reply, -, hwritten⟩ := hwritten
    rw [hwritten, List.length_singleton]
    omega
  | accepted hclient hread hwritten =>
    obtain ⟨reply, -, hwritten⟩ := hwritten
    rw [hwritten]
    exact Nat.le_add_left 2 _
  | ready hclient h => exact hready h
  | failed hclient hwritten =>
    obtain ⟨reply, -, hwritten⟩ := hwritten
    exact hwritten.length_le.trans (Nat.le_add_left 2 _)
  | ended hclient h => exact hready h

/-- Frames are transmitted. -/
lemma WasReady.transmit {ifList : List SrIf} (h : WasReady cfg s ifList) {s' : VnsSession}
    {frames : List (IfName × List UInt8)} (hsent : s'.sent = s.sent) (hread : s.read ≤ s'.read)
    (hready : s'.ready = s.ready) (hwritten : s'.written = s.written ++ frames.map routerFrame)
    (htransmitted : s'.transmitted = s.transmitted ++ frames)
    (hports : ∀ ports : List SwitchPort, List.Forall₂ SameInterface (ports.map SwitchPort.intf) ifList →
      ∀ x ∈ frames, ∃ p ∈ ports, x.1 = p.intf.name)
    (hframes : ∀ x ∈ frames, x.2.length ≤ maxFrameLen) : WasReady cfg s' ifList where
  read := h.read.trans hread
  ready := hready.trans h.ready
  opening := by
    obtain ⟨ports, hopening, hsame, hold⟩ := h.opening
    refine ⟨ports, hsent ▸ hopening, hsame, fun x hx => ?_⟩
    rw [htransmitted] at hx
    exact (List.mem_append.mp hx).elim (hold x) (hports ports hsame x)
  written := by
    obtain ⟨reply, hreply, heq⟩ := h.written
    refine ⟨reply, hreply, ?_⟩
    rw [hwritten, heq, htransmitted, List.map_append]
    rfl
  frames := fun x hx => by
    rw [htransmitted] at hx
    exact (List.mem_append.mp hx).elim (h.frames x) (hframes x)

/-- The frames that are accepted are short. -/
lemma Emits.accepted_short {sr sr' : SrInstance} (h : Emits sr sr') (hshort : ShortFrames sr)
    {net : NetConfig} {x : IfName × List UInt8} (hx : x ∈ acceptedFrames net (sr.newEvents sr')) :
    x.2.length ≤ maxFrameLen := by
  obtain ⟨e, hmem, he⟩ := List.mem_filterMap.mp hx
  cases e with
  | send origin frame iface =>
    dsimp only at he
    split_ifs at he
    cases he
    refine (h.short hshort).frames origin frame iface ?_
    rw [h.log]
    exact List.mem_append_right _ hmem
  | _ => cases he

/-- A router that was ready sends. -/
lemma WasReady.emit {ifList : List SrIf} (h : WasReady cfg s ifList) {sr sr' : SrInstance}
    (hemits : Emits sr sr') (hshort : ShortFrames sr)
    (hcfg : sr.cfg = { cfg.start.cfg with ifList := ifList }) {s' : VnsSession}
    (hsent : s'.sent = s.sent) (hread : s.read ≤ s'.read) (hready : s'.ready = s.ready)
    (hwritten : s'.written = s.written ++ packetWrites sr'.cfg (sr.newEvents sr'))
    (htransmitted : s'.transmitted = s.transmitted ++ acceptedFrames sr'.cfg (sr.newEvents sr')) :
    WasReady cfg s' ifList := by
  refine h.transmit hsent hread hready (by rw [hwritten, hemits.packetWrites hshort]) htransmitted
    (fun ports hsame x hx => ?_) fun x hx => hemits.accepted_short hshort hx
  refine port_of_acceptedFrames ?_ hx
  rw [hemits.cfg, hcfg]
  exact hsame

/-! ### Sweeps -/

/-- A sweep keeps the invariant. -/
lemma SessionInv.sweep (h : SessionInv cfg s) {sr sr' : SrInstance} {t t' : Trace}
    (hclient : s.client = .running sr) (hsweep : RouterEnv (sr, t) (sr', t')) :
    SessionInv cfg { s with
      client := .running sr'
      up := s.up ++ (packetWrites sr'.cfg (sr.newEvents sr')).flatten
      written := s.written ++ packetWrites sr'.cfg (sr.newEvents sr')
      transmitted := s.transmitted ++ acceptedFrames sr'.cfg (sr.newEvents sr') } := by
  have hemits := emits_sweep hsweep
  have hne : s.client ≠ .stopped := by
    rw [hclient]
    exact fun h => by cases h
  refine ⟨fun _ => h.down hne, h.read_le, h.server.answered rfl rfl fun _ hold => hold, ?_,
    h.uplink.grow rfl rfl rfl rfl rfl rfl (h.uplink.up.taken_le.trans h.progress.length_written)⟩
  cases h.progress with
  | awaitRequest hclient' => rw [hclient'] at hclient; cases hclient
  | awaitStatus hclient' => rw [hclient'] at hclient; cases hclient
  | accepted hclient' hread hwritten hnot hhanded hsecond hcfg hshort =>
    obtain rfl := SrClient.running.inj (hclient.symm.trans hclient')
    have hnone : acceptedFrames sr'.cfg (sr.newEvents sr') = [] := by
      refine acceptedFrames_none ?_
      rw [hemits.cfg, hcfg]
      exact cfg.ifList_start
    have hwrites : packetWrites sr'.cfg (sr.newEvents sr') = [] := by
      rw [hemits.packetWrites hshort, hnone]
      rfl
    refine .accepted rfl hread ?_ ⟨hnot.ready, ?_⟩ hhanded hsecond (hemits.cfg.trans hcfg)
      (hemits.short hshort)
    · dsimp only
      rwa [hwrites, List.append_nil]
    · dsimp only
      rw [hnone, List.append_nil]
      exact hnot.transmitted
  | @ready _ ifList hclient' hready hcfg hshort hhanded =>
    obtain rfl := SrClient.running.inj (hclient.symm.trans hclient')
    exact .ready rfl (hready.emit hemits hshort hcfg rfl le_rfl rfl rfl rfl) (hemits.cfg.trans hcfg)
      (hemits.short hshort) hhanded
  | failed hclient' => rw [hclient'] at hclient; cases hclient
  | ended hclient' => rw [hclient'] at hclient; cases hclient

/-! ### Reads -/

/-- The router has read a message. -/
def VnsSession.didRead (s : VnsSession) (action : ServerAction) (rest : List UInt8)
    (client : SrClient) (writes : List (List UInt8)) : VnsSession :=
  { s with
    client := client
    down := rest
    up := s.up ++ writes.flatten
    read := s.read + 1
    written := s.written ++ writes
    handed := s.handed ++ action.frames
    transmitted := s.transmitted ++ s.client.transmits client
    ready := (becomesReady action client).or s.ready }

/-- The frames among the messages, one message after the other. -/
lemma broadcasts_take_succ {sent : List ServerMessage} {k : ℕ} {m : ServerMessage}
    (hm : sent[k]? = some m) :
    broadcasts (sent.take (k + 1)) = broadcasts (sent.take k) ++ m.broadcast.toList := by
  rw [List.take_add_one, hm, broadcasts, List.filterMap_append]
  cases hframe : m.broadcast with
  | none => simp [broadcasts, hframe]
  | some x => simp [broadcasts, hframe]

/-- What can happen to a message: it is refused, or it is dispatched. -/
lemma read_cases {ctx : ReadSurroundings} {net : NetConfig} {expected : UInt32} {m : ServerMessage}
    {rest rest' : List UInt8} {action : ServerAction} (hfits : 8 + m.body.length < 2 ^ 32)
    (hread : srReadFromServerExpect net expected ctx.behind (m.frame ++ rest) =
      some (action, rest')) :
    (action = .failed ∧ (10000 < 8 + m.body.length ∨ expected ≠ 0 ∧ UInt32.ofNat m.type ≠ expected)) ∨
      rest' = rest ∧ 8 + m.body.length ≤ 10000 ∧ (expected = 0 ∨ UInt32.ofNat m.type = expected) ∧
        ∃ buf, InBuffer buf m.body ∧
          action = serverAction net buf ((8 + m.body.length : ℕ) : ℤ) (UInt32.ofNat m.type) := by
  by_cases hlong : 10000 < 8 + m.body.length
  · exact .inl ⟨read_tooLong hlong hfits hread, .inl hlong⟩
  · obtain ⟨hrest, ⟨h0, htype, hfailed⟩ | ⟨buf, hbuf, hexpected, haction⟩⟩ :=
      read_message (Nat.not_lt.mp hlong) hread
    · exact .inl ⟨hfailed, .inr ⟨h0, htype⟩⟩
    · exact .inr ⟨hrest, Nat.not_lt.mp hlong, hexpected, buf, hbuf, haction⟩

section Stop

variable {action : ServerAction} {rest : List UInt8}

/-- The router ends before it is ready. -/
lemma progress_failed (hnot : NotReady s)
    (hwritten : ∃ reply, IsReply reply ∧ s.written <+: [reply, openMessage cfg.names])
    (hno : NoOpening cfg s.sent)
    (hhanded : s.handed ++ action.frames <+: broadcasts (s.sent.take (s.read + 1))) :
    Progress cfg (s.didRead action rest .stopped []) := by
  have htransmits : s.client.transmits .stopped = [] := by
    cases s.client <;> rfl
  have hready : becomesReady action .stopped = none := by
    cases action <;> rfl
  refine .failed rfl ?_ ⟨?_, ?_⟩ hno hhanded
  · rwa [VnsSession.didRead, List.append_nil]
  · rw [VnsSession.didRead, hready, Option.none_or]
    exact hnot.ready
  · change s.transmitted ++ s.client.transmits .stopped = []
    rw [htransmits, hnot.transmitted]
    rfl

/-- It ends after it was. -/
lemma progress_ended {ifList : List SrIf} (hready : WasReady cfg s ifList)
    (hhanded : s.handed ++ action.frames <+: broadcasts (s.sent.take (s.read + 1))) :
    Progress cfg (s.didRead action rest .stopped []) := by
  have htransmits : s.client.transmits .stopped = [] := by
    cases s.client <;> rfl
  have hnone : becomesReady action .stopped = none := by
    cases action <;> rfl
  refine .ended rfl (@WasReady.transmit cfg s ifList hready _ [] rfl (Nat.le_succ _) ?_ rfl ?_ ?_ ?_) hhanded
  · rw [VnsSession.didRead, hnone, Option.none_or]
  · rw [VnsSession.didRead, htransmits]
  · exact fun ports _ x hx => absurd hx List.not_mem_nil
  · exact fun x hx => absurd hx List.not_mem_nil

end Stop

section Read

variable {ctx : ReadSurroundings} {m : ServerMessage} {action : ServerAction}
  {rest rest' : List UInt8} {client : SrClient} {writes : List (List UInt8)}

/-- **The salt** is read. -/
lemma SessionInv.readRequest (h : SessionInv cfg s) (hclient : s.client = .awaitRequest)
    (hread : s.read = 0) (hwritten : s.written = []) (hnot : NotReady s) (hhanded : s.handed = [])
    (hm : s.sent[s.read]? = some m)
    (haction : srReadFromServerExpect (s.client.netConfig cfg) 128 ctx.behind (m.frame ++ rest) =
      some (action, rest'))
    (hperform : s.client.perform cfg ctx action = (client, writes)) :
    Progress cfg (s.didRead action rest' client writes) ∧ rest' = rest := by
  obtain ⟨r, tail, heq, hsalt, -⟩ := h.server.replies
  rw [hread, heq] at hm
  obtain rfl : ServerMessage.authRequest r = m := Option.some.inj hm
  have hlength : (ServerMessage.authRequest r).body.length = 20 := hsalt
  obtain ⟨-, hlong | ⟨-, htype⟩⟩ | ⟨hrest, -, -, buf, hbuf, haction⟩ := read_cases (by omega) haction
  · omega
  · exact absurd rfl htype
  · rw [hclient, haction] at hperform
    obtain ⟨reply, hreply, hreplied⟩ := @perform_authRequest cfg ctx r buf (by omega) hbuf
    obtain ⟨rfl, rfl⟩ := Prod.mk.inj (hreplied.symm.trans hperform)
    refine ⟨.awaitStatus rfl (by rw [VnsSession.didRead, hread]) ⟨reply, hreply, ?_⟩ ⟨?_, ?_⟩ ?_, hrest⟩
    · rw [VnsSession.didRead, hwritten, List.nil_append]
    · rw [haction]
      exact hnot.ready
    · rw [VnsSession.didRead, hnot.transmitted, hclient]
      rfl
    · rw [VnsSession.didRead, hhanded, haction]
      rfl

/-- **The status** is read, or the router ends. -/
lemma SessionInv.readStatus (h : SessionInv cfg s) (hclient : s.client = .awaitStatus)
    (hread : s.read = 1) (hwritten : ∃ reply, IsReply reply ∧ s.written = [reply]) (hnot : NotReady s)
    (hhanded : s.handed = []) (hm : s.sent[s.read]? = some m)
    (haction : srReadFromServerExpect (s.client.netConfig cfg) 512 ctx.behind (m.frame ++ rest) =
      some (action, rest'))
    (hperform : s.client.perform cfg ctx action = (client, writes)) :
    Progress cfg (s.didRead action rest' client writes) ∧ (client = .stopped ∨ rest' = rest) := by
  obtain ⟨reply, hreply, hwritten⟩ := hwritten
  have hfits := h.server.fits m (List.mem_of_getElem? hm)
  rw [hread] at hm
  have hstop : (∀ st, m ≠ .authStatus st) → action = .failed →
      Progress cfg (s.didRead action rest' client writes) ∧ (client = .stopped ∨ rest' = rest) := by
    rintro hother rfl
    rw [SrClient.perform_failed] at hperform
    cases hperform
    refine ⟨progress_failed hnot ⟨reply, hreply, ?_⟩ (noOpening_of_second hm hother) ?_, .inl rfl⟩
    · rw [hwritten]
      exact List.prefix_append _ _
    · rw [hhanded]
      exact List.nil_prefix
  rcases h.server.second hm with rfl | hother
  · have hlength : (ServerMessage.authStatus ⟨true, cfg.statusMsg⟩).body.length =
        cfg.statusMsg.length + 1 := rfl
    have hmsg := cfg.length_statusMsg
    obtain ⟨-, hlong | ⟨-, htype⟩⟩ | ⟨hrest, -, -, buf, hbuf, haction⟩ := read_cases hfits haction
    · omega
    · exact absurd rfl htype
    · rw [hclient, haction] at hperform
      have haccepted := @perform_authStatus cfg ctx ⟨true, cfg.statusMsg⟩ buf hbuf
      rw [if_pos rfl] at haccepted
      obtain ⟨rfl, rfl⟩ := Prod.mk.inj (haccepted.symm.trans hperform)
      refine ⟨.accepted rfl (by rw [VnsSession.didRead, hread]) ⟨reply, hreply, ?_⟩ ⟨?_, ?_⟩ ?_ hm rfl
        cfg.short_start, .inr hrest⟩
      · rw [VnsSession.didRead, hwritten]
        rfl
      · rw [haction]
        exact hnot.ready
      · rw [VnsSession.didRead, hnot.transmitted, hclient]
        rfl
      · rw [VnsSession.didRead, hhanded, haction]
        rfl
  · obtain ⟨hfailed, -⟩ | ⟨-, -, hexpected, -⟩ := read_cases hfits haction
    · exact hstop hother hfailed
    · -- only a status has the type that is expected
      refine absurd (hexpected.resolve_left (by decide)) ?_
      cases m with
      | authRequest r => exact (by decide : UInt32.ofNat 128 ≠ 512)
      | authStatus st => exact absurd rfl (hother st)
      | hardwareInfo ports => exact (by decide : UInt32.ofNat 16 ≠ 512)
      | packet name frame => exact (by decide : UInt32.ofNat 4 ≠ 512)

/-- **The interfaces** are read, or the router ends. -/
lemma SessionInv.readHardware (h : SessionInv cfg s) {sr : SrInstance}
    (hclient : s.client = .running sr) (hread : s.read = 2)
    (hwritten : ∃ reply, IsReply reply ∧ s.written = [reply, openMessage cfg.names])
    (hnot : NotReady s) (hhanded : s.handed = [])
    (hsecond : s.sent[1]? = some (.authStatus ⟨true, cfg.statusMsg⟩))
    (hcfg : sr.cfg = cfg.start.cfg) (hshort : ShortFrames sr) (hm : s.sent[s.read]? = some m)
    (haction : srReadFromServerExpect (s.client.netConfig cfg) 0 ctx.behind (m.frame ++ rest) =
      some (action, rest'))
    (hperform : s.client.perform cfg ctx action = (client, writes)) :
    Progress cfg (s.didRead action rest' client writes) ∧ (client = .stopped ∨ rest' = rest) := by
  have hwritten' : ∃ reply, IsReply reply ∧ s.written <+: [reply, openMessage cfg.names] := by
    obtain ⟨reply, hreply, heq⟩ := hwritten
    exact ⟨reply, hreply, heq ▸ List.prefix_refl _⟩
  have hfits := h.server.fits m (List.mem_of_getElem? hm)
  obtain ⟨r, others, hsent, -⟩ := h.server.after_status hsecond
  have hnone : sr.cfg.ifList = [] := by
    rw [hcfg]
    exact cfg.ifList_start
  have hbroadcasts : broadcasts (s.sent.take s.read) = [] := by
    rw [hread, hsent]
    rfl
  have htake := broadcasts_take_succ hm
  rw [hbroadcasts, List.nil_append] at htake
  rw [hclient] at hperform haction
  rw [hread] at hm
  rcases h.server.third hsecond hm with ⟨ports, rfl⟩ | ⟨name, frame, rfl⟩
  · have hlength := length_hardwareInfo ports
    have hstop : ¬ (ports.length ≤ 46 ∧ UsablePorts ports cfg.start.cfg.routingTable) →
        action.frames = [] → client = .stopped → writes = [] →
        Progress cfg (s.didRead action rest' client writes) ∧ (client = .stopped ∨ rest' = rest) := by
      rintro hports hframes rfl rfl
      refine ⟨progress_failed hnot hwritten' (noOpening_of_third hm fun ports' heq => ?_) ?_, .inl rfl⟩
      · cases heq
        exact hports
      · rw [hhanded, hframes]
        exact List.nil_prefix
    obtain ⟨rfl, hlong | ⟨h0, -⟩⟩ | ⟨hrest, hle, -, buf, hbuf, rfl⟩ := read_cases hfits haction
    · rw [SrClient.perform_failed] at hperform
      obtain ⟨rfl, rfl⟩ := Prod.mk.inj hperform
      exact hstop (fun hports => by omega) rfl rfl rfl
    · exact absurd rfl h0
    · have hperform' : mainLoop cfg ctx sr (.hwinfo buf) = (client, writes) := hperform
      obtain ⟨husable, ifList, hsame, hready⟩ | ⟨hunusable, hstopped⟩ :=
        @mainLoop_hwinfo cfg ctx sr ports buf hfits hbuf hnone
      · obtain ⟨rfl, rfl⟩ := Prod.mk.inj (hready.symm.trans hperform')
        have htransmits : s.client.transmits
            (.running { sr with cfg := { sr.cfg with ifList := ifList } }) = [] := by
          rw [hclient]
          exact congrArg (acceptedFrames _) List.drop_length
        have hopening : Opening cfg s.sent ports := by
          rw [hsent] at hm ⊢
          obtain ⟨third, hthird⟩ : ∃ third, others = .hardwareInfo ports :: third := by
            cases others with
            | nil => cases hm
            | cons m' third =>
              obtain rfl : m' = .hardwareInfo ports := Option.some.inj hm
              exact ⟨third, rfl⟩
          exact ⟨⟨r, third, by rw [hthird]⟩, by omega, hcfg ▸ husable⟩
        refine ⟨.ready rfl ⟨?_, rfl, ⟨ports, hopening, hsame, ?_⟩, ?_, ?_⟩ ?_
          ⟨hshort.frames, hshort.waiting⟩ ?_, .inr hrest⟩
        · change 3 ≤ s.read + 1
          omega
        · rw [VnsSession.didRead, htransmits, hnot.transmitted]
          exact fun x hx => absurd hx List.not_mem_nil
        · obtain ⟨reply, hreply, heq⟩ := hwritten
          refine ⟨reply, hreply, ?_⟩
          rw [VnsSession.didRead, heq, htransmits, hnot.transmitted]
          rfl
        · rw [VnsSession.didRead, htransmits, hnot.transmitted]
          exact fun x hx => absurd hx List.not_mem_nil
        · rw [hcfg]
        · change s.handed ++ [] = broadcasts (s.sent.take (s.read + 1))
          rw [hhanded, htake]
          rfl
      · obtain ⟨rfl, rfl⟩ := Prod.mk.inj (hstopped.symm.trans hperform')
        exact hstop (fun hports => hunusable (hcfg ▸ hports.2)) rfl rfl rfl
  · have hno : NoOpening cfg s.sent := noOpening_of_third hm fun ports' heq => by cases heq
    have hstop : action.frames <+: [(name.name, frame)] → client = .stopped → writes = [] →
        Progress cfg (s.didRead action rest' client writes) ∧ (client = .stopped ∨ rest' = rest) := by
      rintro hframes rfl rfl
      refine ⟨progress_failed hnot hwritten' hno ?_, .inl rfl⟩
      rw [hhanded, htake]
      exact hframes
    obtain ⟨rfl, -⟩ | ⟨hrest, hle, -, buf, hbuf, rfl⟩ := read_cases hfits haction
    · rw [SrClient.perform_failed] at hperform
      obtain ⟨rfl, rfl⟩ := Prod.mk.inj hperform
      exact hstop List.nil_prefix rfl rfl
    · obtain ⟨hframes, -⟩ := handOnPacket_frames sr.cfg hle hbuf
      obtain ⟨rfl, rfl⟩ := Prod.mk.inj ((mainLoop_packet_none hnone).symm.trans hperform)
      exact hstop (hframes ▸ List.prefix_refl _) rfl rfl

/-- **A frame** is read by a router that is ready. -/
lemma SessionInv.readFrame (h : SessionInv cfg s) {sr : SrInstance} {ifList : List SrIf}
    (hclient : s.client = .running sr) (hready : WasReady cfg s ifList)
    (hcfg : sr.cfg = { cfg.start.cfg with ifList := ifList }) (hshort : ShortFrames sr)
    (hhanded : s.handed = broadcasts (s.sent.take s.read)) (hm : s.sent[s.read]? = some m)
    (haction : srReadFromServerExpect (s.client.netConfig cfg) 0 ctx.behind (m.frame ++ rest) =
      some (action, rest'))
    (hperform : s.client.perform cfg ctx action = (client, writes)) :
    Progress cfg (s.didRead action rest' client writes) ∧ (client = .stopped ∨ rest' = rest) := by
  have hfits := h.server.fits m (List.mem_of_getElem? hm)
  have htake := broadcasts_take_succ hm
  obtain ⟨ports, hopening, hsame, -⟩ := hready.opening
  obtain ⟨name, frame, rfl⟩ := h.server.later hopening hready.read hm
  have htake' : broadcasts (s.sent.take (s.read + 1)) = s.handed ++ [(name.name, frame)] := by
    rw [htake, hhanded]
    rfl
  rw [hclient] at hperform haction
  have hstop : action.frames <+: [(name.name, frame)] → client = .stopped → writes = [] →
      Progress cfg (s.didRead action rest' client writes) ∧ (client = .stopped ∨ rest' = rest) := by
    rintro hframes rfl rfl
    refine ⟨progress_ended hready ?_, .inl rfl⟩
    rw [htake']
    exact (List.prefix_append_right_inj _).mpr hframes
  obtain ⟨rfl, -⟩ | ⟨hrest, hle, -, buf, hbuf, hdispatch⟩ := read_cases hfits haction
  · rw [SrClient.perform_failed] at hperform
    obtain ⟨rfl, rfl⟩ := Prod.mk.inj hperform
    exact hstop List.nil_prefix rfl rfl
  · obtain ⟨hframes, hlen⟩ := handOnPacket_frames sr.cfg hle hbuf
    have hdispatch' : action = handOnPacket sr.cfg buf _ := hdispatch
    rw [← hdispatch'] at hframes hlen
    have hgo : ∀ sr', Emits sr sr' → client = .running sr' →
        writes = packetWrites sr'.cfg (sr.newEvents sr') → becomesReady action client = none →
        Progress cfg (s.didRead action rest' client writes) ∧ (client = .stopped ∨ rest' = rest) := by
      rintro sr' hemits rfl rfl hnone
      refine ⟨.ready rfl (hready.emit hemits hshort hcfg rfl (Nat.le_succ _) ?_ rfl ?_)
        (hemits.cfg.trans hcfg) (hemits.short hshort) ?_, .inr hrest⟩
      · rw [VnsSession.didRead, hnone, Option.none_or]
      · rw [VnsSession.didRead, hclient]
        rfl
      · change s.handed ++ action.frames = broadcasts (s.sent.take (s.read + 1))
        rw [htake', hframes]
    cases action with
    | aborted args e =>
      obtain ⟨rfl, rfl⟩ := Prod.mk.inj hperform
      exact hstop (hframes ▸ List.prefix_refl _) rfl rfl
    | dropped args =>
      obtain ⟨rfl, rfl⟩ := Prod.mk.inj hperform
      have hnew : sr.newEvents sr = [] := List.drop_length
      exact hgo sr ⟨sr.nat, .refl⟩ rfl (by rw [hnew]; rfl) rfl
    | handled args =>
      have hargs : args.len.toNat ≤ maxFrameLen := by
        have hbody : (ServerMessage.packet name frame).body = padded 16 name.name ++ frame := by
          rw [ServerMessage.body, ServerMessage.pack, VnsPacket.pack_eq]
          rfl
        rw [hbody, List.length_append, length_padded] at hle
        rw [hlen args List.mem_cons_self, maxFrameLen]
        omega
      change mainLoop cfg ctx sr (.handled args) = (client, writes) at hperform
      unfold mainLoop at hperform
      dsimp only at hperform
      split at hperform
      · rename_i sr' hhandle
        obtain ⟨rfl, rfl⟩ := Prod.mk.inj hperform
        exact hgo sr' (emits_handleFrame hargs hhandle) rfl rfl rfl
      · obtain ⟨rfl, rfl⟩ := Prod.mk.inj hperform
        exact hstop (hframes ▸ List.prefix_refl _) rfl rfl
    | _ => cases hframes

end Read

/-- A read keeps the invariant. -/
lemma SessionInv.read (h : SessionInv cfg s) {expected : UInt32} {ctx : ReadSurroundings}
    {action : ServerAction} {rest : List UInt8} {client : SrClient} {writes : List (List UInt8)}
    (hexpected : s.client.expectedCmd = some expected)
    (haction : srReadFromServerExpect (s.client.netConfig cfg) expected ctx.behind s.down =
      some (action, rest))
    (hperform : s.client.perform cfg ctx action = (client, writes)) :
    SessionInv cfg (s.didRead action rest client writes) := by
  have hne : s.client ≠ .stopped := by
    intro hstopped
    rw [hstopped] at hexpected
    cases hexpected
  have hdown := h.down hne
  obtain ⟨hnil, -⟩ | ⟨m, hm⟩ := hdown.all_or_next
  · rw [hnil] at haction
    cases haction
  obtain ⟨rest', heq, hrest'⟩ := hdown.next hm
  rw [heq] at haction
  have hprogress : Progress cfg (s.didRead action rest client writes) ∧
      (client = .stopped ∨ rest = rest') := by
    cases h.progress with
    | awaitRequest hclient hread hwritten hnot hhanded =>
      rw [hclient] at hexpected
      obtain rfl : 128 = expected := Option.some.inj hexpected
      exact (h.readRequest hclient hread hwritten hnot hhanded hm haction hperform).imp_right .inr
    | awaitStatus hclient hread hwritten hnot hhanded =>
      rw [hclient] at hexpected
      obtain rfl : 512 = expected := Option.some.inj hexpected
      exact h.readStatus hclient hread hwritten hnot hhanded hm haction hperform
    | accepted hclient hread hwritten hnot hhanded hsecond hcfg hshort =>
      rw [hclient] at hexpected
      obtain rfl : 0 = expected := Option.some.inj hexpected
      exact h.readHardware hclient hread hwritten hnot hhanded hsecond hcfg hshort hm haction hperform
    | ready hclient hready hcfg hshort hhanded =>
      rw [hclient] at hexpected
      obtain rfl : 0 = expected := Option.some.inj hexpected
      exact h.readFrame hclient hready hcfg hshort hhanded hm haction hperform
    | failed hclient => exact absurd hclient hne
    | ended hclient => exact absurd hclient hne
  refine ⟨fun hrunning => ?_, ?_, h.server.answered rfl rfl fun _ hold => hold, hprogress.1, ?_⟩
  · have hrest := hprogress.2.resolve_left hrunning
    exact hrest ▸ hrest'
  · exact (List.getElem?_eq_some_iff.mp hm).1
  · exact h.uplink.grow rfl rfl rfl rfl rfl rfl
      (h.uplink.up.taken_le.trans h.progress.length_written)

/-! ### The invariant in a run -/

/-- A session starts so. -/
lemma sessionInv_start (infos : List (List SwitchPort)) (salt : Vector UInt8 20) :
    SessionInv cfg (VnsSession.start cfg infos salt) := by
  have hlength : (ServerMessage.authRequest ⟨salt.toList⟩).body.length = 20 := salt.length_toList
  have hfits : 8 + (ServerMessage.authRequest ⟨salt.toList⟩).body.length < 2 ^ 32 := by omega
  have hknows : ∀ (infos : List (List SwitchPort)) (server : SrServer),
      (∀ info, server.interfaces = some info → server.Knows info) →
      ∀ info, (infos.foldl SrServer.handleRouterInfo server).interfaces = some info →
        (infos.foldl SrServer.handleRouterInfo server).Knows info := by
    intro infos
    induction infos with
    | nil => exact fun server hserver => hserver
    | cons first infos ih =>
      intro server _
      refine ih (server.handleRouterInfo first) fun info hinfo => ?_
      obtain rfl := Option.some.inj hinfo
      exact knows_routerInfo server first
  rw [VnsSession.start, VnsSession.serverSend_eq _ hfits]
  refine ⟨fun _ => inTransit_nil.send _, Nat.zero_le _, ⟨⟨_, [], rfl, salt.length_toList, .none⟩,
    fun m hm => List.mem_singleton.mp hm ▸ hfits, ?_, fun ports hports => ?_⟩,
    .awaitRequest rfl rfl rfl ⟨rfl, rfl⟩ rfl, ⟨inTransit_nil, rfl, rfl⟩⟩
  · exact hknows infos srServerInit fun info hinfo => by cases hinfo
  · cases List.mem_singleton.mp hports

/-- **A step** keeps the invariant. -/
lemma SessionInv.step {s' : VnsSession} (h : SessionInv cfg s) (hstep : VnsStep cfg s s') :
    SessionInv cfg s' := by
  cases hstep with
  | routerInfo info => exact h.routerInfo info
  | packetIn hport pkt => exact h.packetIn _ pkt
  | receive hreceive => exact h.receive hreceive
  | read hexpected hread hperform => exact h.read hexpected hread hperform
  | sweep hclient hsweep => exact h.sweep hclient hsweep

/-- **A run** keeps it. -/
lemma sessionInv_of_steps {infos : List (List SwitchPort)} {salt : Vector UInt8 20}
    (hrun : VnsSteps cfg (VnsSession.start cfg infos salt) s) : SessionInv cfg s := by
  induction hrun with
  | refl => exact sessionInv_start infos salt
  | tail _ hstep ih => exact ih.step hstep

end NatRouter
