import NatRouter.Vns.Dumper
import NatRouter.Vns.Opening

/-!
# What the handlers of messages read

The lists of reads in `messageUses` stand beside the handlers of the messages.  Here the two are tied
together: of two messages that agree wherever those reads look, the handlers make the same
(`handledAlike_of_readAlike`).  So a handler reads nothing that is missing in the list, and what is made
of a message that is long enough does not depend on what is behind it (`handledAlike_behind`).
-/

namespace NatRouter

open ByteMemory TextFile

/-- The second memory holds what the first one does, wherever the reads look. -/
def ReadAlike (buf buf' : ByteMem) (reads : List FieldRead) : Prop :=
  ∀ r ∈ reads, ∀ j, r.Touches buf j → buf' j = buf j

/-- The string at `start` is `s`. -/
def HasString (buf : ByteMem) (start : ℕ) (s : List UInt8) : Prop :=
  0 ∉ s ∧ Holds buf start (s ++ [0])

/-! ### What the handlers make of a message -/

/-- What is handed to `sr_arp_req_not_for_us` and to `sr_handlepacket`. -/
def packetArgs (buf : ByteMem) (len : ℕ) : PacketArgs where
  packet := fun j => buf (sizeofPacketHeader + j)
  len := packetLen len
  interface := ifNameAt buf sizeofBase

/-- The call of `sr_log_packet` for a packet message. -/
def packetLogCall (ts : Timeval) (buf : ByteMem) : LogCall where
  ts := ts
  buf := fun j => buf (sizeofPacketHeader + j)
  len := (BitVec.ofNat 32 (sizeDifference (messageLen buf).toUInt64 sizeofPacketHeader).computed).toInt

/-- Two packet messages are filtered and logged the same way, and come in at the same interface. -/
structure PacketAlike (cfg : NetConfig) (host : HostFiles) (buf buf' : ByteMem) (len : ℕ) : Prop where
  /-- The interface. -/
  interface : srGetInterface cfg.ifList (ifNameAt buf' sizeofBase) =
    srGetInterface cfg.ifList (ifNameAt buf sizeofBase)
  /-- The filter. -/
  filter : srArpReqNotForUs cfg (packetArgs buf' len) = srArpReqNotForUs cfg (packetArgs buf len)
  /-- The record of a packet that passes. -/
  record : srArpReqNotForUs cfg (packetArgs buf len) = .ok false → host.logfile = true →
    ∀ ts, srLogPacket (packetLogCall ts buf') = srLogPacket (packetLogCall ts buf)

/-- What `sr_handle_rtable` writes to its file. -/
def rtableContents (rtable : ByteMem) : List UInt8 :=
  bytes (fun j => rtable (sizeofBase + idsize + j))
    (messageLen rtable - 8 - UInt32.ofNat idsize).toNat

/-- There is a line in `auth_key`, if the host has one there. -/
def AuthSurroundings.Fits (ctx : AuthSurroundings) (host : HostFiles) : Prop :=
  host.authKey = false → ∀ file, ctx.keyFile = some file → fgets (authKeyLen + 1) file = none

/-- The handlers make the same of two messages. -/
def HandledAlike (cfg : NetConfig) (host : HostFiles) (buf buf' : ByteMem) (len : ℕ)
    (command : UInt32) : Prop :=
  match command.toNat with
  -- VNSPACKET
  | 4 => PacketAlike cfg host buf buf' len
  -- VNSCLOSE
  | 2 => ∀ s, HasString buf' sizeofBase s ↔ HasString buf sizeofBase s
  -- VNSBANNER
  | 8 => ∀ s, HasString buf' sizeofBase s ↔ HasString buf sizeofBase s
  -- VNSHWINFO
  | 16 => ∀ junk ifList, srHandleHwinfo junk ifList buf' = srHandleHwinfo junk ifList buf
  -- VNS_RTABLE
  | 32 => (∀ s, HasString buf' sizeofBase s ↔ HasString buf sizeofBase s) ∧
    (host.rtableFile = true → rtableContents buf' = rtableContents buf)
  -- VNS_AUTH_REQUEST
  | 128 => ∀ names (ctx : AuthSurroundings), ctx.Fits host →
    srHandleAuthRequest names ctx buf' = srHandleAuthRequest names ctx buf
  -- VNS_AUTH_STATUS
  | 512 => srHandleAuthStatus buf' = srHandleAuthStatus buf ∧
    (srHandleAuthStatus buf = false →
      ∀ s, HasString buf' (sizeofBase + 1) s ↔ HasString buf (sizeofBase + 1) s)
  | _ => True

section Reads

variable {buf buf' : ByteMem} {reads reads' : List FieldRead} {start size : ℕ}

/-! ### The kinds of reads -/

/-- Fewer reads look at less. -/
lemma ReadAlike.mono (h : ReadAlike buf buf' reads) (hsub : ∀ r ∈ reads', r ∈ reads) :
    ReadAlike buf buf' reads' := fun r hr => h r (hsub r hr)

/-- What is read after something else. -/
lemma ReadAlike.tail {r : FieldRead} (h : ReadAlike buf buf' (r :: reads)) :
    ReadAlike buf buf' reads := h.mono fun _ hr => List.mem_cons_of_mem _ hr

/-- Bytes that are read are the same. -/
lemma ReadAlike.bytes_eq (h : ReadAlike buf buf' reads) (hr : .bytes start size ∈ reads) (j : ℕ)
    (hj : start ≤ j) (hlt : j < start + size) : buf' j = buf j := h _ hr j ⟨hj, hlt⟩

/-- So are they as a list. -/
lemma ReadAlike.bytes_shift (h : ReadAlike buf buf' reads) (hr : .bytes start size ∈ reads) :
    bytes (fun j => buf' (start + j)) size = bytes (fun j => buf (start + j)) size :=
  List.map_congr_left fun j hj => h.bytes_eq hr (start + j) (Nat.le_add_right start j)
    (Nat.add_lt_add_left (List.mem_range.mp hj) start)

/-- A word is the same. -/
lemma ReadAlike.load32_eq (h : ReadAlike buf buf' reads) (hr : .bytes start 4 ∈ reads) :
    load32 buf' start = load32 buf start := load32_congr fun j => h.bytes_eq hr j

/-- So is half a word. -/
lemma ReadAlike.load16_eq (h : ReadAlike buf buf' reads) (hr : .bytes start 2 ∈ reads) :
    load16 buf' start = load16 buf start := load16_congr fun j => h.bytes_eq hr j

/-- A string has no zero before its end. -/
lemma HasString.ne_zero {s : List UInt8} (h : HasString buf start s) {k : ℕ} (hk : start ≤ k)
    (hlt : k < start + s.length) : buf k ≠ 0 := by
  obtain ⟨j, rfl⟩ := Nat.exists_eq_add_of_le hk
  have hj : j < s.length := by omega
  have hget := h.2 j (by rw [List.length_append]; omega)
  rw [List.getElem_append_left hj] at hget
  rw [hget]
  exact fun hzero => h.1 (hzero ▸ List.getElem_mem hj)

/-- A string is read up to its NUL, and no byte behind that can make it another one. -/
lemma ReadAlike.hasString_iff (h : ReadAlike buf buf' reads) (hr : .string start ∈ reads)
    (s : List UInt8) : HasString buf' start s ↔ HasString buf start s := by
  have htouch : ∀ j, start ≤ j → (∀ k, start ≤ k → k < j → buf k ≠ 0) → buf' j = buf j :=
    fun j hj hne => h _ hr j ⟨hj, hne⟩
  constructor
  · intro hs
    -- the bytes up to each of them are the same, by induction on how many are
    have hsame : ∀ n ≤ s.length + 1, ∀ j, start ≤ j → j < start + n → buf' j = buf j := by
      intro n hn
      induction n with
      | zero => exact fun j hj hlt => absurd hlt (by omega)
      | succ n ih =>
        intro j hj hlt
        refine htouch j hj fun k hk hkj => ?_
        rw [← ih (by omega) k hk (by omega)]
        exact hs.ne_zero hk (by omega)
    refine ⟨hs.1, hs.2.congr fun j hj hlt => (hsame _ (Nat.le_refl _) j hj ?_).symm⟩
    rwa [List.length_append] at hlt
  · intro hs
    refine ⟨hs.1, hs.2.congr fun j hj hlt => htouch j hj fun k hk hkj => ?_⟩
    rw [List.length_append, List.length_singleton] at hlt
    exact hs.ne_zero hk (by omega)

/-- What is kept of some bytes up to the first zero does not depend on what is behind that. -/
lemma takeWhile_bytes_congr {f f' : ByteMem} {n : ℕ}
    (h : ∀ j < n, (∀ k < j, f k ≠ 0) → f' j = f j) :
    (bytes f' n).takeWhile (· ≠ 0) = (bytes f n).takeWhile (· ≠ 0) := by
  induction n generalizing f f' with
  | zero => rfl
  | succ n ih =>
    have hfirst : f' 0 = f 0 := h 0 (Nat.succ_pos n) fun k hk => absurd hk (Nat.not_lt_zero k)
    have hrest : f 0 ≠ 0 → (bytes (fun j => f' (1 + j)) n).takeWhile (· ≠ 0) =
        (bytes (fun j => f (1 + j)) n).takeWhile (· ≠ 0) := by
      refine fun hne => ih fun j hj hbefore => h (1 + j) (by omega) fun k hk => ?_
      cases k with
      | zero => exact hne
      | succ k => exact Nat.add_comm 1 k ▸ hbefore k (by omega)
    rw [bytes_succ, bytes_succ, hfirst, List.takeWhile_cons, List.takeWhile_cons]
    split_ifs with hne
    · rw [hrest (of_decide_eq_true hne)]
    · rfl

/-- A name that is copied is the same. -/
lemma ReadAlike.ifNameAt_eq (h : ReadAlike buf buf' reads)
    (hr : .copied start srIfaceNamelen ∈ reads) : ifNameAt buf' start = ifNameAt buf start := by
  refine takeWhile_bytes_congr fun j hj hbefore => h _ hr (start + j) ⟨?_, ?_, fun k hk hkj => ?_⟩
  · exact Nat.le_add_right start j
  · omega
  · obtain ⟨i, rfl⟩ := Nat.exists_eq_add_of_le hk
    exact hbefore i (by omega)

/-- `strncmp` finds out whether the first bytes of a string are a name, by those that it looks at. -/
lemma take_eq_takeWhile_congr {n : ℕ} {name : IfName} {i : ℕ}
    (h : ∀ j, i ≤ j → j < i + strncmpReads buf n name i → buf' j = buf j) :
    name.take n = (bytes (fun j => buf' (i + j)) n).takeWhile (· ≠ 0) ↔
      name.take n = (bytes (fun j => buf (i + j)) n).takeWhile (· ≠ 0) := by
  induction n generalizing name i with
  | zero => rfl
  | succ n ih =>
    have hbytes : ∀ b : ByteMem, bytes (fun j => b (i + j)) (n + 1) =
        b i :: bytes (fun j => b (i + 1 + j)) n := by
      intro b
      rw [bytes_succ]
      simp only [Nat.add_assoc, Nat.add_zero]
    have hfirst : buf' i = buf i :=
      h i (Nat.le_refl i) (Nat.lt_add_of_pos_right (strncmpReads_pos buf n name i))
    rw [hbytes, hbytes, hfirst, List.takeWhile_cons, List.takeWhile_cons]
    split_ifs with hne
    · cases name with
      | nil => simp
      | cons c name =>
        rw [List.take_succ_cons, List.cons.injEq, List.cons.injEq]
        refine and_congr_right fun hc => ih fun j hj hlt => h j (by omega) ?_
        rw [strncmpReads, if_pos hc.symm]
        omega
    · rfl

/-- A name that is compared with another one is equal to it in both. -/
lemma ReadAlike.sameIfName_eq {name : IfName} (h : ReadAlike buf buf' reads)
    (hr : .compared start name ∈ reads) :
    sameIfName name (ifNameAt buf' start) = sameIfName name (ifNameAt buf start) := by
  have htake : ∀ b : ByteMem, (ifNameAt b start).take 32 = ifNameAt b start := fun b =>
    List.take_of_length_le ((List.takeWhile_sublist _).length_le.trans_eq (length_bytes _ _))
  rw [sameIfName, sameIfName, htake, htake]
  exact decide_eq_decide.mpr (take_eq_takeWhile_congr fun j hj hlt => h _ hr j ⟨hj, hlt⟩)

/-! ### The handlers -/

/-- The interface that is looked for is the same. -/
lemma srGetInterface_alike {ifList : List SrIf}
    (h : ReadAlike buf buf' (getInterfaceReads start buf ifList)) :
    srGetInterface ifList (ifNameAt buf' start) = srGetInterface ifList (ifNameAt buf start) := by
  induction ifList with
  | nil => rfl
  | cons i rest ih =>
    have hsame := h.sameIfName_eq List.mem_cons_self
    unfold srGetInterface at ih ⊢
    rw [List.find?_cons, List.find?_cons, hsame]
    cases hfound : sameIfName i.name (ifNameAt buf start) with
    | true => rfl
    | false =>
      unfold getInterfaceReads at h
      rw [hfound] at h
      exact ih h.tail

/-- The filter decides the same. -/
lemma srArpReqNotForUs_alike {cfg : NetConfig} {len : ℕ}
    (h : ReadAlike buf buf' (arpReqNotForUsUses cfg buf (packetLen len)).reads) :
    srArpReqNotForUs cfg (packetArgs buf' len) = srArpReqNotForUs cfg (packetArgs buf len) := by
  have hinterface := srGetInterface_alike (h.mono fun r hr => List.mem_append_left _ hr)
  have hfields := h.mono fun r hr => List.mem_append_right _ hr
  unfold srArpReqNotForUs packetArgs
  dsimp only
  rw [hinterface]
  by_cases hshort : packetLen len < UInt32.ofNat sizeofEthernetHdr + sizeofArpPacket
  · rw [if_pos hshort, if_pos hshort]
  rw [if_neg hshort, if_neg hshort]
  rw [if_neg hshort] at hfields
  cases srGetInterface cfg.ifList (ifNameAt buf sizeofBase) with
  | none => rfl
  | some i =>
    -- the fields are read one after the other, as long as they are those of an ARP request
    refine congrArg Except.ok (decide_eq_decide.mpr ?_)
    have htype : load16 buf' 36 = load16 buf 36 := hfields.load16_eq List.mem_cons_self
    change load16 buf' 36 = _ ∧ load16 buf' 44 = _ ∧ load32 buf' 62 ≠ _ ↔
      load16 buf 36 = _ ∧ load16 buf 44 = _ ∧ load32 buf 62 ≠ _
    rw [htype]
    refine and_congr_right fun harp => ?_
    have hfields := hfields.tail
    rw [if_neg (not_not_intro harp)] at hfields
    have hop : load16 buf' 44 = load16 buf 44 := hfields.load16_eq List.mem_cons_self
    rw [hop]
    refine and_congr_right fun hrequest => ?_
    have hfields := hfields.tail
    rw [if_neg (not_not_intro hrequest)] at hfields
    have htip : load32 buf' 62 = load32 buf 62 := hfields.load32_eq List.mem_cons_self
    rw [htip]

/-- The same is logged. -/
lemma srLogPacket_alike {host : HostFiles} {ts : Timeval} (hlog : host.logfile = true)
    (h : ReadAlike buf buf' (logPacketUses host buf).reads) :
    srLogPacket (packetLogCall ts buf') = srLogPacket (packetLogCall ts buf) := by
  have hlen : messageLen buf' = messageLen buf :=
    congrArg ntohl (h.load32_eq List.mem_cons_self)
  have hframe := h.tail
  rw [if_pos hlog] at hframe
  unfold srLogPacket packetLogCall
  dsimp only
  rw [hlen]
  by_cases hneg : min packetDumpSize (BitVec.ofNat 32
      (sizeDifference (messageLen buf).toUInt64 sizeofPacketHeader).computed).toInt < 0
  · rw [if_pos hneg, if_pos hneg]
  · rw [if_neg hneg, if_neg hneg]
    exact congrArg (fun l => Except.ok (_ ++ l)) (hframe.bytes_shift List.mem_cons_self)

/-- A packet is treated the same way. -/
lemma packetAlike {cfg : NetConfig} {host : HostFiles} {len : ℕ}
    (h : ReadAlike buf buf' (packetUses cfg host buf len).reads) :
    PacketAlike cfg host buf buf' len := by
  have hpass := h.mono fun r hr => List.mem_append_right _ hr
  have hfilter := hpass.mono fun r hr => List.mem_append_left _ hr
  refine ⟨srGetInterface_alike (hfilter.mono fun r hr => List.mem_append_left _ hr),
    srArpReqNotForUs_alike hfilter, fun hok hlog ts => ?_⟩
  have hrest := hpass.mono fun r hr => List.mem_append_right _ hr
  have hhandled : handOnPacket cfg buf len = .handled (packetArgs buf len) := by
    unfold packetArgs packetLen at hok ⊢
    unfold handOnPacket
    dsimp only
    rw [hok]
  rw [hhandled] at hrest
  exact srLogPacket_alike hlog (hrest.mono fun r hr => List.mem_append_left _ hr)

/-- An entry of a hardware message says the same. -/
lemma handleHwEntry_alike {junk : Mac × UInt32} {ifList : List SrIf} {i : ℕ}
    (h : ReadAlike buf buf' (hwEntryReads buf i)) :
    handleHwEntry junk ifList (hwEntry buf' i) = handleHwEntry junk ifList (hwEntry buf i) := by
  have hkey : load32 (hwEntry buf' i) 0 = load32 (hwEntry buf i) 0 :=
    h.load32_eq List.mem_cons_self
  have hvalue := h.tail
  unfold handleHwEntry
  rw [hkey]
  generalize (ntohl (load32 (hwEntry buf i) 0)).toNat = key at hvalue ⊢
  split
  · rfl
  · have hname : ifNameAt (hwEntry buf' i) 4 = ifNameAt (hwEntry buf i) 4 :=
      hvalue.ifNameAt_eq List.mem_cons_self
    rw [hname]
  · rfl
  · rfl
  · rfl
  · have hip : load32 (hwEntry buf' i) 4 = load32 (hwEntry buf i) 4 :=
      hvalue.load32_eq List.mem_cons_self
    rw [hip]
  · have haddr : loadMac (hwEntry buf' i) 4 = loadMac (hwEntry buf i) 4 :=
      loadMac_congr fun j hj => hvalue.bytes_eq List.mem_cons_self (_ + (4 + j)) (by omega)
        (by unfold etherAddrLen; omega)
    rw [haddr]
  · rfl

/-- So do some of them. -/
lemma handleHwEntries_alike {junk : ℕ → Mac × UInt32} {ifList : List SrIf} {n i : ℕ}
    (h : ∀ k, i ≤ k → k < i + n → ReadAlike buf buf' (hwEntryReads buf k)) :
    handleHwEntries junk buf' n i ifList = handleHwEntries junk buf n i ifList := by
  induction n generalizing i ifList with
  | zero => rfl
  | succ n ih =>
    unfold handleHwEntries
    rw [handleHwEntry_alike (h i (Nat.le_refl i) (Nat.lt_add_of_pos_right (Nat.succ_pos n)))]
    cases handleHwEntry (junk i) ifList (hwEntry buf i) with
    | error e => rfl
    | ok ifList' => exact ih fun k hk hlt => h k (by omega) (by omega)

/-- A hardware message gives the same interfaces. -/
lemma srHandleHwinfo_alike {junk : ℕ → Mac × UInt32} {ifList : List SrIf}
    (h : ReadAlike buf buf' (hwinfoUses buf).reads) :
    srHandleHwinfo junk ifList buf' = srHandleHwinfo junk ifList buf := by
  have hlen : load32 buf' 0 = load32 buf 0 := h.load32_eq List.mem_cons_self
  unfold srHandleHwinfo
  dsimp only
  rw [hlen, handleHwEntries_alike fun k _ hlt => h.tail.mono fun r hr =>
    List.mem_flatMap.mpr ⟨k, List.mem_range.mpr (by rwa [Nat.zero_add] at hlt), hr⟩]

/-- The same is written as a routing table. -/
lemma rtableContents_alike {host : HostFiles} (hfile : host.rtableFile = true)
    (h : ReadAlike buf buf' (rtableUses host buf).reads) :
    rtableContents buf' = rtableContents buf := by
  unfold rtableUses at h
  rw [if_pos hfile] at h
  have hlen : messageLen buf' = messageLen buf :=
    congrArg ntohl (h.tail.load32_eq List.mem_cons_self)
  unfold rtableContents
  rw [hlen]
  exact h.tail.tail.bytes_shift List.mem_cons_self

/-- The reply to a salt is the same. -/
lemma srHandleAuthRequest_alike {host : HostFiles} {names : SrNames} {ctx : AuthSurroundings}
    (hfits : ctx.Fits host) (h : ReadAlike buf buf' (authRequestUses host buf).reads) :
    srHandleAuthRequest names ctx buf' = srHandleAuthRequest names ctx buf := by
  unfold srHandleAuthRequest
  cases hfile : ctx.keyFile with
  | none => rfl
  | some file =>
    dsimp only
    cases hline : fgets (authKeyLen + 1) file with
    | none => rfl
    | some read =>
      have hkey : host.authKey = true := by
        by_contra hkey
        rw [hfits (Bool.eq_false_of_not_eq_true hkey) file hfile] at hline
        cases hline
      unfold authRequestUses at h
      rw [if_pos hkey] at h
      have hlen : load32 buf' 0 = load32 buf 0 := h.load32_eq List.mem_cons_self
      have hsize : UInt32.ofNat (sizeDifference (messageLen buf).toUInt64 sizeofBase).computed =
          ntohl (load32 buf 0) - UInt32.ofNat sizeofBase := by
        rw [← UInt32.toNat_inj]
        simp only [sizeDifference, messageLen]
        rw [UInt32.toNat_ofNat', UInt64.toNat_sub, UInt32.toNat_sub, UInt32.toNat_toUInt64]
        have hmax := (ntohl (load32 buf 0)).toNat_lt
        have hbase : (UInt64.ofNat sizeofBase).toNat = 8 := rfl
        have hbase' : (UInt32.ofNat sizeofBase).toNat = 8 := rfl
        rw [hbase, hbase']
        omega
      have hsalt := h.tail.bytes_shift List.mem_cons_self
      rw [hsize] at hsalt
      dsimp only
      rw [hlen]
      change (bytes (fun j => buf' (8 + j)) _ = bytes (fun j => buf (8 + j)) _) at hsalt
      rw [hsalt]

/-- A status says the same. -/
lemma srHandleAuthStatus_alike (h : ReadAlike buf buf' (authStatusUses buf).reads) :
    srHandleAuthStatus buf' = srHandleAuthStatus buf ∧ (srHandleAuthStatus buf = false →
      ∀ s, HasString buf' (sizeofBase + 1) s ↔ HasString buf (sizeofBase + 1) s) := by
  have hstatus : buf' 8 = buf 8 := h.bytes_eq List.mem_cons_self 8 (Nat.le_refl 8) (by decide)
  unfold srHandleAuthStatus
  refine ⟨by rw [hstatus], fun hfailed => ?_⟩
  have hzero : buf sizeofBase = 0 := by simpa [sizeofBase] using hfailed
  have hmessage := h.tail
  rw [if_pos hzero] at hmessage
  exact hmessage.hasString_iff List.mem_cons_self

end Reads

/-! ### Messages -/

variable {cfg : NetConfig} {host : HostFiles} {expected : UInt32} {buf buf' : ByteMem} {len : ℕ}

/-- **The reads are those of the handlers**: of two messages that agree wherever the reads look, the
command is the same, and if the message is dispatched the handlers make the same. -/
theorem handledAlike_of_readAlike
    (h : ReadAlike buf buf' (messageUses cfg host expected buf len).reads) :
    load32 buf' 4 = load32 buf 4 ∧
      (¬ (expected ≠ 0 ∧ load32 buf 4 ≠ expected ∧ load32 buf 4 ≠ vnsClose) →
        HandledAlike cfg host buf buf' len (load32 buf 4)) := by
  refine ⟨h.load32_eq (List.mem_append_left _ List.mem_cons_self), fun hexpected => ?_⟩
  have hdispatch := h.mono fun r hr => List.mem_append_right _ hr
  rw [if_neg hexpected, dispatchUses] at hdispatch
  unfold HandledAlike
  generalize (load32 buf 4).toNat = command at hdispatch ⊢
  split
  · exact packetAlike hdispatch
  · exact hdispatch.hasString_iff List.mem_cons_self
  · exact hdispatch.hasString_iff List.mem_cons_self
  · exact fun junk ifList => srHandleHwinfo_alike hdispatch
  · refine ⟨hdispatch.hasString_iff ?_, fun hfile => rtableContents_alike hfile hdispatch⟩
    dsimp only [rtableUses]
    split_ifs
    · exact List.mem_cons_self
    · exact List.mem_cons_self
  · exact fun names ctx hfits => srHandleAuthRequest_alike hfits hdispatch
  · exact srHandleAuthStatus_alike hdispatch
  · trivial

/-- What a message that is long enough makes is decided by its own bytes. -/
lemma handledAlike_of_longEnough (hlen : (messageLen buf).toNat = len) (hmax : len ≤ 10000)
    (hlong : LongEnough cfg host expected buf len) (hsame : ∀ j < len, buf' j = buf j) :
    load32 buf' 4 = load32 buf 4 ∧
      (¬ (expected ≠ 0 ∧ load32 buf 4 ≠ expected ∧ load32 buf 4 ≠ vnsClose) →
        HandledAlike cfg host buf buf' len (load32 buf 4)) := by
  have hsound := (sound_messageUses hlen hmax).mpr hlong
  exact handledAlike_of_readAlike fun r hr j hj => hsame j (hsound.reads r hr j hj)

/-- A word that is stored in two memories leaves them alike where they were. -/
lemma store32_alike {b b' : ByteMem} {i j : ℕ} (v : UInt32)
    (h : ¬ (i ≤ j ∧ j < i + 4) → b' j = b j) : store32 b' i v j = store32 b i v j := by
  unfold store32
  split_ifs with h0 h1 h2 h3
  · rfl
  · rfl
  · rfl
  · rfl
  · exact h (by omega)

/-- A message is in the buffer whatever is behind it. -/
lemma messageBuffer_alike (behind behind' : ByteMem) (body : List UInt8) (hmin : 8 ≤ len) {j : ℕ}
    (hj : j < len) : messageBuffer behind' len body j = messageBuffer behind len body j := by
  have hblock : ∀ v : UInt32, ∀ j < len,
      store32 (storeBlock behind' 4 (ofBytes body) (len - 4)) 0 v j =
        store32 (storeBlock behind 4 (ofBytes body) (len - 4)) 0 v j := by
    intro v j hj
    refine store32_alike v fun hout => ?_
    rw [storeBlock, storeBlock, if_pos (by omega), if_pos (by omega)]
  unfold messageBuffer
  rw [load32_congr fun j _ hj => hblock _ j (by omega)]
  exact store32_alike _ fun _ => hblock _ j hj

/-- **What is behind a message does not matter** if it is long enough: from blocks with other old
contents it is dispatched in the same way, and handled in the same way. -/
theorem handledAlike_behind (hmax : len ≤ 10000) (behind behind' : ByteMem) (body : List UInt8)
    (hlong : LongEnough cfg host expected (messageBuffer behind len body) len) :
    let buf := messageBuffer behind len body
    let buf' := messageBuffer behind' len body
    (dispatchMessage cfg expected behind len body = .failed ∧
        dispatchMessage cfg expected behind' len body = .failed) ∨
      (dispatchMessage cfg expected behind len body = serverAction cfg buf len (load32 buf 4) ∧
        dispatchMessage cfg expected behind' len body = serverAction cfg buf' len (load32 buf 4) ∧
        HandledAlike cfg host buf buf' len (load32 buf 4)) := by
  intro buf buf'
  obtain ⟨hcommand, halike⟩ := handledAlike_of_longEnough (messageLen_messageBuffer behind body hmax)
    hmax hlong fun j hj => messageBuffer_alike behind behind' body hlong.1 hj
  have hsame : load32 (messageBuffer behind' len body) 4 = load32 buf 4 := hcommand
  rw [dispatchMessage_eq, dispatchMessage_eq]
  dsimp only
  rw [hsame]
  by_cases hrefused : expected ≠ 0 ∧ load32 buf 4 ≠ expected ∧ load32 buf 4 ≠ vnsClose
  · exact .inl ⟨if_pos hrefused, if_pos hrefused⟩
  · exact .inr ⟨if_neg hrefused, if_neg hrefused, halike hrefused⟩

end NatRouter
