import NatRouter.Vns.Session

/-!
# What the router makes of a message

One lemma for each kind of message and each state of the router: which message takes it how far, and
which ends it.  A frame that comes before there are interfaces ends the router, since it is looked at
with the interface it came in on.
-/

namespace NatRouter

open ByteMemory StructPack MessageStream Relation

/-- The body of a message. -/
def ServerMessage.body (m : ServerMessage) : List UInt8 := m.pack.getD []

/-- What goes over the connection. -/
def ServerMessage.frame (m : ServerMessage) : List UInt8 := vnsFrame m.type m.body

/-- Every message is packed. -/
lemma ServerMessage.pack_eq (m : ServerMessage) : m.pack = some m.body := by
  unfold ServerMessage.body
  cases m with
  | authRequest r => rfl
  | authStatus s => rfl
  | hardwareInfo interfaces => rw [ServerMessage.pack, VnsHardwareInfo.pack_eq]; rfl
  | packet intfName ethernetFrame => rw [ServerMessage.pack, VnsPacket.pack_eq]; rfl

/-- No message is empty. -/
lemma ServerMessage.frame_ne_nil (m : ServerMessage) : m.frame ≠ [] := by
  intro h
  have hlength := length_vnsFrame m.type m.body
  rw [← ServerMessage.frame, h, List.length_nil] at hlength
  omega

/-- The types of the messages. -/
lemma ServerMessage.type_lt (m : ServerMessage) : m.type < 2 ^ 32 := by
  have h : m.type ≤ 512 := by
    cases m with
    | authRequest r => exact (by decide : 128 ≤ 512)
    | authStatus s => exact Nat.le_refl 512
    | hardwareInfo interfaces => exact (by decide : 16 ≤ 512)
    | packet intfName ethernetFrame => exact (by decide : 4 ≤ 512)
  exact lt_of_le_of_lt h (by decide)

/-- The server closes no connection. -/
lemma ServerMessage.type_ne_close (m : ServerMessage) : UInt32.ofNat m.type ≠ vnsClose := by
  cases m with
  | authRequest r => exact (by decide : UInt32.ofNat 128 ≠ vnsClose)
  | authStatus s => exact (by decide : UInt32.ofNat 512 ≠ vnsClose)
  | hardwareInfo interfaces => exact (by decide : UInt32.ofNat 16 ≠ vnsClose)
  | packet intfName ethernetFrame => exact (by decide : UInt32.ofNat 4 ≠ vnsClose)

/-- A message that the prefix allows is sent. -/
lemma VnsSession.serverSend_eq {cfg : SessionConfig} (s : VnsSession) {m : ServerMessage}
    (hfits : 8 + m.body.length < 2 ^ 32) :
    s.serverSend cfg m = { s with down := s.down ++ m.frame, sent := s.sent ++ [m] } := by
  obtain ⟨msg, hmsg⟩ := Option.isSome_iff_exists.mp (cfg.lt.frame_isSome m.type_lt hfits)
  obtain ⟨-, heq⟩ := cfg.lt.frame_eq_vnsFrame hmsg
  unfold VnsSession.serverSend
  rw [m.pack_eq, Option.bind_some, hmsg, heq]
  rfl

/-- What is sent, is a message that the prefix allows, or nothing. -/
lemma VnsSession.serverSend_cases (s : VnsSession) (cfg : SessionConfig) (m : ServerMessage) :
    (8 + m.body.length < 2 ^ 32 ∧
        s.serverSend cfg m = { s with down := s.down ++ m.frame, sent := s.sent ++ [m] }) ∨
      s.serverSend cfg m = s := by
  by_cases hfits : 8 + m.body.length < 2 ^ 32
  · exact .inl ⟨hfits, s.serverSend_eq hfits⟩
  · refine .inr ?_
    unfold VnsSession.serverSend
    rw [m.pack_eq, Option.bind_some]
    split
    · rename_i msg hmsg
      exact absurd (cfg.lt.frame_eq_vnsFrame hmsg).1 hfits
    · rfl

section Reads

variable {cfg : SessionConfig} {ctx : ReadSurroundings} {net : NetConfig} {expected : UInt32}
  {m : ServerMessage} {rest : List UInt8} {action : ServerAction} {rest' : List UInt8}

/-- A message that is too long ends the router. -/
lemma read_tooLong (hlong : 10000 < 8 + m.body.length) (hfits : 8 + m.body.length < 2 ^ 32)
    (hread : srReadFromServerExpect net expected ctx.behind (m.frame ++ rest) =
      some (action, rest')) : action = .failed := by
  obtain ⟨rest'', hrefused⟩ :=
    @srReadFromServerExpect_refused m.type m.body net expected ctx.behind hlong hfits rest
  exact (Prod.mk.inj (Option.some.inj (hread.symm.trans hrefused))).1

/-- Any other message is taken off the stream, and is dispatched if it is expected. -/
lemma read_message (hshort : 8 + m.body.length ≤ 10000)
    (hread : srReadFromServerExpect net expected ctx.behind (m.frame ++ rest) =
      some (action, rest')) : rest' = rest ∧
      ((expected ≠ 0 ∧ UInt32.ofNat m.type ≠ expected ∧ action = .failed) ∨
        ∃ buf, InBuffer buf m.body ∧ (expected = 0 ∨ UInt32.ofNat m.type = expected) ∧
          action = serverAction net buf ((8 + m.body.length : ℕ) : ℤ) (UInt32.ofNat m.type)) := by
  obtain ⟨buf, hbuf, heq⟩ :=
    @srReadFromServerExpect_message m.type m.body net expected ctx.behind hshort rest
  obtain ⟨haction, hrest⟩ := Prod.mk.inj (Option.some.inj (hread.symm.trans heq))
  refine ⟨hrest, ?_⟩
  split_ifs at haction with hunexpected
  · exact .inl ⟨hunexpected.1, hunexpected.2.1, haction⟩
  · refine .inr ⟨buf, hbuf, ?_, haction⟩
    by_contra hnot
    exact hunexpected ⟨fun h0 => hnot (.inl h0), fun htype => hnot (.inr htype), m.type_ne_close⟩

/-- A message can be read, whatever is expected. -/
lemma exists_read (net : NetConfig) (expected : UInt32) (behind : ByteMem)
    (hfits : 8 + m.body.length < 2 ^ 32) (rest : List UInt8) :
    ∃ r, srReadFromServerExpect net expected behind (m.frame ++ rest) = some r := by
  by_cases hlong : 10000 < 8 + m.body.length
  · obtain ⟨rest', hrefused⟩ :=
      @srReadFromServerExpect_refused m.type m.body net expected behind hlong hfits rest
    exact ⟨_, hrefused⟩
  · obtain ⟨buf, -, heq⟩ :=
      @srReadFromServerExpect_message m.type m.body net expected behind (Nat.not_lt.mp hlong) rest
    exact ⟨_, heq⟩

/-! ### Before the main loop -/

/-- A failed action ends the router. -/
lemma SrClient.perform_failed (client : SrClient) :
    client.perform cfg ctx .failed = (.stopped, []) := by
  cases client <;> rfl

/-- The reply is a message that the server unpacks. -/
def IsReply (reply : List UInt8) : Prop :=
  ∃ body r, reply = vnsFrame VnsAuthReply.type body ∧ 8 + body.length < 2 ^ 32 ∧
    VnsAuthReply.unpack body = some r

/-- **The request** is answered with a reply. -/
lemma perform_authRequest {r : VnsAuthRequest} {buf : ByteMem} (hshort : 8 + r.salt.length ≤ 10000)
    (hbuf : InBuffer buf r.salt) : ∃ reply, IsReply reply ∧
      SrClient.awaitRequest.perform cfg ctx (.authRequest buf) = (.awaitStatus, [reply]) := by
  obtain ⟨c, file, hfile⟩ := List.exists_cons_of_ne_nil cfg.keyFile_ne
  obtain ⟨line, left, hline⟩ : ∃ line left,
      TextFile.fgets (authKeyLen + 1) cfg.keyFile = some (line, left) := by
    rw [hfile]
    exact ⟨_, _, rfl⟩
  have hreply := @srHandleAuthRequest_eq cfg.names (ctx.auth cfg) cfg.keyFile line left rfl hline buf
    r.salt hshort hbuf
  have huser := cfg.names.length_userString
  refine ⟨authReply (ctx.auth cfg).reply cfg.names
    (SecureHash.digest (r.salt ++ authKeyBytes (ctx.auth cfg).authKey line)), ?_, ?_⟩
  · refine ⟨_, _, authReply_eq _ _ _, ?_, VnsAuthReply.unpack_eq (lt_of_le_of_lt huser (by decide))⟩
    have hdigest : ∀ d, (digestBytes d).length = 20 := fun _ => rfl
    simp only [List.length_append, length_be32, hdigest]
    omega
  · unfold SrClient.perform
    simp only [hreply]

/-- **The status** takes the router to the main loop if it says so. -/
lemma perform_authStatus {st : VnsAuthStatus} {buf : ByteMem} (hbuf : InBuffer buf st.pack) :
    SrClient.awaitStatus.perform cfg ctx (.authStatus buf) =
      if st.authOk then (.running cfg.start, [openMessage cfg.names]) else (.stopped, []) := by
  have hfirst : buf 8 = if st.authOk then 1 else 0 := by
    have h := hbuf.body 0 (Nat.zero_lt_succ _)
    rwa [Nat.add_zero] at h
  have hstatus : srHandleAuthStatus buf = st.authOk := by
    unfold srHandleAuthStatus
    rw [hfirst]
    cases st.authOk <;> rfl
  unfold SrClient.perform
  simp only [hstatus]

/-! ### In the main loop -/

/-- The routing table names interfaces of the switch only, and there are some of both. -/
structure UsablePorts (ports : List SwitchPort) (rt : List SrRt) : Prop where
  /-- There are interfaces. -/
  ports_ne : ports ≠ []
  /-- There are routes. -/
  rt_ne : rt ≠ []
  /-- The interface of a route is one of the switch. -/
  interfaces : ∀ e ∈ rt, ∃ p ∈ ports, sameIfName p.intf.name e.interface = true

/-- Nothing is counted if all interfaces exist. -/
lemma verifyEntries_of_all {ifList : List SrIf} {rt : List SrRt}
    (h : ∀ e ∈ rt, stopsAtInterface e.interface ifList = true) (ret : ℤ) :
    verifyEntries ifList rt ret = some ret := by
  induction rt with
  | nil => rfl
  | cons e rest ih =>
    rw [verifyEntries, if_pos (h e List.mem_cons_self)]
    exact ih fun e' he' => h e' (List.mem_cons_of_mem e he')

/-- The loop stops at an interface if the switch has it. -/
lemma stopsAtInterface_of_same {ports : List SwitchPort} {ifList : List SrIf}
    (h : List.Forall₂ SameInterface (ports.map SwitchPort.intf) ifList) (name : IfName) :
    stopsAtInterface name ifList = true ↔ ∃ p ∈ ports, sameIfName p.intf.name name = true := by
  induction ports generalizing ifList with
  | nil =>
    obtain rfl := List.forall₂_nil_left_iff.mp h
    simp [stopsAtInterface]
  | cons p ports ih =>
    obtain ⟨i, rest, hsame, hrest, rfl⟩ := List.forall₂_cons_left_iff.mp h
    rw [stopsAtInterface, hsame.name]
    by_cases hname : sameIfName p.intf.name name = true
    · simp [hname]
    · simp [hname, ih hrest]

/-- **The routing table is verified** if and only if the ports are usable. -/
lemma srVerifyRoutingTable_iff {ports : List SwitchPort} {net : NetConfig}
    (h : List.Forall₂ SameInterface (ports.map SwitchPort.intf) net.ifList) :
    srVerifyRoutingTable net = some 0 ↔ UsablePorts ports net.routingTable := by
  have hlength := h.length_eq
  rw [List.length_map] at hlength
  constructor
  · intro hverified
    have hsome : ¬ (net.ifList.isEmpty ∨ net.routingTable.isEmpty) := by
      intro hempty
      rw [srVerifyRoutingTable, if_pos hempty] at hverified
      exact absurd (Option.some.inj hverified) (by decide)
    rw [not_or] at hsome
    refine ⟨?_, fun hnil => hsome.2 (by rw [hnil]; rfl), fun e he => ?_⟩
    · rintro rfl
      exact hsome.1 (List.isEmpty_iff.mpr (List.length_eq_zero_iff.mp hlength.symm))
    · exact (stopsAtInterface_of_same h e.interface).mp
        (stopsAtInterface_iff.mpr (interface_of_verified hverified he))
  · intro hports
    have hsome : ¬ (net.ifList.isEmpty ∨ net.routingTable.isEmpty) := by
      rintro (hempty | hempty)
      · rw [List.isEmpty_iff.mp hempty, List.length_nil] at hlength
        exact hports.ports_ne (List.length_eq_zero_iff.mp hlength)
      · exact hports.rt_ne (List.isEmpty_iff.mp hempty)
    rw [srVerifyRoutingTable, if_neg hsome]
    exact verifyEntries_of_all (fun e he =>
      (stopsAtInterface_of_same h e.interface).mpr (hports.interfaces e he)) 0

/-- **The hardware message** makes the router ready if and only if its ports are usable. -/
lemma mainLoop_hwinfo {sr : SrInstance} {ports : List SwitchPort} {buf : ByteMem}
    (hfits : 8 + (ServerMessage.hardwareInfo ports).body.length < 2 ^ 32)
    (hbuf : InBuffer buf (ServerMessage.hardwareInfo ports).body) (hnone : sr.cfg.ifList = []) :
    (UsablePorts ports sr.cfg.routingTable ∧ ∃ ifList,
        List.Forall₂ SameInterface (ports.map SwitchPort.intf) ifList ∧
        mainLoop cfg ctx sr (.hwinfo buf) =
          (.running { sr with cfg := { sr.cfg with ifList := ifList } }, [])) ∨
      ¬ UsablePorts ports sr.cfg.routingTable ∧ mainLoop cfg ctx sr (.hwinfo buf) = (.stopped, []) := by
  have hnames : ∀ v ∈ ports.map SwitchPort.intf, 0 ∉ v.name ∧ v.name.length < 32 := by
    intro v hv
    obtain ⟨p, -, rfl⟩ := List.mem_map.mp hv
    exact ⟨p.name_notMem, Nat.lt_of_le_of_lt p.length_name (by decide)⟩
  obtain ⟨ifList, num, hhwinfo, hsame⟩ := @srHandleHwinfo_inBuffer (ports.map SwitchPort.intf) hnames
    buf _ (ServerMessage.pack_eq (.hardwareInfo ports)) hfits hbuf ctx.interfaces
  have hverify := @srVerifyRoutingTable_iff ports { sr.cfg with ifList := ifList } hsame
  unfold mainLoop
  simp only [hnone, hhwinfo]
  by_cases hports : UsablePorts ports sr.cfg.routingTable
  · rw [if_pos (hverify.mpr hports)]
    exact .inl ⟨hports, ifList, hsame, rfl⟩
  · rw [if_neg (mt hverify.mp hports)]
    exact .inr ⟨hports, rfl⟩

/-- **A frame** is handed on, with the interface it came in on, to what looks at it first. -/
lemma handOnPacket_frames (net : NetConfig) {buf : ByteMem} {name : PortName} {frame : List UInt8}
    (hshort : 8 + (ServerMessage.packet name frame).body.length ≤ 10000)
    (hbuf : InBuffer buf (ServerMessage.packet name frame).body) :
    (handOnPacket net buf ((8 + (ServerMessage.packet name frame).body.length : ℕ) : ℤ)).frames =
        [(name.name, frame)] ∧
      ∀ args ∈ (handOnPacket net buf
        ((8 + (ServerMessage.packet name frame).body.length : ℕ) : ℤ)).handedOn,
        args.len.toNat = frame.length := by
  have hbody : (ServerMessage.packet name frame).body = padded 16 name.name ++ frame := by
    rw [ServerMessage.body, ServerMessage.pack, VnsPacket.pack_eq]
    rfl
  rw [hbody] at hshort hbuf ⊢
  have hlength : 8 + (padded 16 name.name ++ frame).length = frame.length + 24 := by
    rw [List.length_append, length_padded]
    omega
  rw [hlength] at hshort ⊢
  obtain ⟨hne, hargs⟩ := handOnPacket_handedOn net name.name_notMem
    (Nat.lt_succ_of_le name.length_name) hshort hbuf.body
  obtain ⟨args, others, hcons⟩ := List.exists_cons_of_ne_nil hne
  refine ⟨?_, fun args' hargs' => ?_⟩
  · obtain ⟨hname, hframe⟩ := hargs args (hcons ▸ List.mem_cons_self)
    rw [ServerAction.frames, hcons, List.take_succ_cons, List.take_zero, List.map_singleton, hname,
      hframe]
  · rw [← (hargs args' hargs').2, length_bytes]

/-- Without interfaces a frame ends the router. -/
lemma mainLoop_packet_none {sr : SrInstance} {buf : ByteMem} {len : ℤ} (hnone : sr.cfg.ifList = []) :
    mainLoop cfg ctx sr (handOnPacket sr.cfg buf len) = (.stopped, []) := by
  have hget : ∀ name, srGetInterface sr.cfg.ifList name = none := by
    intro name
    rw [hnone]
    rfl
  unfold handOnPacket
  dsimp only
  split
  · rfl
  · rename_i hdropped
    unfold srArpReqNotForUs at hdropped
    split_ifs at hdropped with hshort
    · cases hdropped
    · rw [hget] at hdropped
      cases hdropped
  · unfold mainLoop handleFrame srHandlepacket
    simp only [hget]
    rfl

end Reads

end NatRouter
