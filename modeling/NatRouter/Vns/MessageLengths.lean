import NatRouter.Vns.Reading

/-!
# What is done with the length of a message

`sr_read_from_server_expect` takes every length from 0 to 10000, and the code that handles a message
subtracts the size of its header from that: 38 or 24 for a packet, 8 for the interfaces or a salt,
40 for a routing table.  Each of these differences is unsigned.  It also reads fields of the
message, and strings up to their NUL, in a buffer of the announced length.  `message_lengths_iff`
says for which messages no difference wraps around and nothing is read behind the end.
-/

namespace NatRouter

open ByteMemory PartialReads

/-! ### Differences and reads -/

/-- A difference between unsigned numbers. -/
structure Difference where
  /-- What is computed. -/
  computed : ℕ
  /-- The difference itself. -/
  exact : ℤ

/-- It wraps around. -/
def Difference.Wraps (d : Difference) : Prop := (d.computed : ℤ) ≠ d.exact

/-- A difference of `size_t`. -/
def sizeDifference (a : UInt64) (k : ℕ) : Difference := ⟨(a - UInt64.ofNat k).toNat, a.toNat - k⟩

/-- A read of a message. -/
inductive FieldRead where
  /-- A number of bytes. -/
  | bytes (start size : ℕ)
  /-- A string, up to its NUL. -/
  | string (start : ℕ)
  /-- A string of which at most `size` bytes are copied. -/
  | copied (start size : ℕ)
  /-- A string that is compared with the name of an interface. -/
  | compared (start : ℕ) (name : IfName)

/-- How many bytes of the second string `strncmp` looks at, of at most `n`; the first one has its
NUL behind its end. -/
def strncmpReads (b : ByteMem) : ℕ → IfName → ℕ → ℕ
  | 0, _, _ => 0
  | _ + 1, [], _ => 1
  | n + 1, c :: name, i => if b i = c then 1 + strncmpReads b n name (i + 1) else 1

/-- The bytes that are looked at. -/
def FieldRead.Touches (b : ByteMem) : FieldRead → ℕ → Prop
  | .bytes start size, j => start ≤ j ∧ j < start + size
  | .string start, j => start ≤ j ∧ ∀ k, start ≤ k → k < j → b k ≠ 0
  | .copied start size, j => start ≤ j ∧ j < start + size ∧ ∀ k, start ≤ k → k < j → b k ≠ 0
  | .compared start name, j => start ≤ j ∧ j < start + strncmpReads b srIfaceNamelen name start

/-- What is done with a message. -/
structure MessageUse where
  /-- The differences that are computed from its length. -/
  differences : List Difference
  /-- What is read of it. -/
  reads : List FieldRead

/-- One after the other. -/
def MessageUse.append (u v : MessageUse) : MessageUse :=
  ⟨u.differences ++ v.differences, u.reads ++ v.reads⟩

/-- No difference wraps around, and all reads are inside the message. -/
structure MessageUse.Sound (b : ByteMem) (len : ℕ) (u : MessageUse) : Prop where
  /-- The differences are right. -/
  differences : ∀ d ∈ u.differences, ¬ d.Wraps
  /-- The bytes that are read are in the message. -/
  reads : ∀ r ∈ u.reads, ∀ j, r.Touches b j → j < len

/-! ### The handlers -/

/-- What else the handlers depend on. -/
structure HostFiles where
  /-- Packets are logged. -/
  logfile : Bool
  /-- There is a line in `auth_key`. -/
  authKey : Bool
  /-- The file for a routing table can be opened. -/
  rtableFile : Bool

/-- `mLen`, in host order. -/
def messageLen (buf : ByteMem) : UInt32 := ntohl (load32 buf 0)

/-- `sr_get_interface`: the name is compared with those in the list, up to the first that is the
same. -/
def getInterfaceReads (start : ℕ) (buf : ByteMem) : List SrIf → List FieldRead
  | [] => []
  | i :: rest =>
    .compared start i.name ::
      if sameIfName i.name (ifNameAt buf start) then [] else getInterfaceReads start buf rest

/-- `sr_arp_req_not_for_us`. -/
def arpReqNotForUsUses (cfg : NetConfig) (buf : ByteMem) (packetLen : UInt32) : MessageUse where
  differences := []
  reads :=
    getInterfaceReads sizeofBase buf cfg.ifList ++
      if packetLen < UInt32.ofNat sizeofEthernetHdr + sizeofArpPacket then []
      else
        .bytes 36 2 ::
          if load16 buf 36 ≠ htons ethertypeArp then []
          else .bytes 44 2 :: if load16 buf 44 ≠ htons arpOpRequest then [] else [.bytes 62 4]

/-- `PACKET_DUMP_SIZE`. -/
def packetDumpSize : ℤ := 1024

/-- `sr_log_packet`, of a length that is converted to `int`. -/
def logPacketUses (host : HostFiles) (buf : ByteMem) : MessageUse :=
  let d := sizeDifference (messageLen buf).toUInt64 sizeofPacketHeader
  let size := min packetDumpSize (BitVec.ofNat 32 d.computed).toInt
  { differences := [d]
    reads := .bytes 0 4 :: if host.logfile then [.bytes 24 (BitVec.ofInt 32 size).toNat] else [] }

/-- The length of the frame, `len - sizeof(c_packet_ethernet_header)` and again the size of its
header. -/
def packetLenUses (len : ℕ) : MessageUse :=
  ⟨[sizeDifference (UInt64.ofNat len) (sizeofPacketHeader + sizeofEthernetHdr)], []⟩

/-- The length that is handed on with a frame. -/
def packetLen (len : ℕ) : UInt32 :=
  ⟨BitVec.ofInt 32 ((len : ℤ) - (sizeofPacketHeader + sizeofEthernetHdr) + sizeofEthernetHdr)⟩

/-- The case `VNSPACKET`, up to the call of `sr_handlepacket`. -/
def packetUses (cfg : NetConfig) (host : HostFiles) (buf : ByteMem) (len : ℕ) : MessageUse :=
  (packetLenUses len).append <| (arpReqNotForUsUses cfg buf (packetLen len)).append <|
    match handOnPacket cfg buf len with
    | .handled _ => (logPacketUses host buf).append (packetLenUses len)
    | _ => ⟨[], []⟩

/-- The reads of one entry in `sr_handle_hwinfo`: its key, and the value that it needs. -/
def hwEntryReads (buf : ByteMem) (i : ℕ) : List FieldRead :=
  .bytes (sizeofBase + sizeofHwEntry * i) 4 ::
    match (ntohl (load32 (hwEntry buf i) 0)).toNat with
    -- HWINTERFACE
    | 1 => [.copied (sizeofBase + sizeofHwEntry * i + 4) srIfaceNamelen]
    -- HWETHIP
    | 64 => [.bytes (sizeofBase + sizeofHwEntry * i + 4) 4]
    -- HWETHER
    | 32 => [.bytes (sizeofBase + sizeofHwEntry * i + 4) etherAddrLen]
    | _ => []

/-- `sr_handle_hwinfo`, if no assertion fails on the way. -/
def hwinfoUses (buf : ByteMem) : MessageUse where
  differences := [sizeDifference (messageLen buf).toUInt64 sizeofBase]
  reads := .bytes 0 4 ::
    (List.range (numEntries (messageLen buf)).toNat).flatMap (hwEntryReads buf)

/-- `IDSIZE`. -/
def idsize : ℕ := 32

/-- `sr_handle_rtable`.  The file size is an `unsigned int`. -/
def rtableUses (host : HostFiles) (buf : ByteMem) : MessageUse :=
  if host.rtableFile then
    let size := messageLen buf - 8 - UInt32.ofNat idsize
    { differences := [⟨size.toNat, (messageLen buf).toNat - (8 + idsize : ℕ)⟩]
      reads := [.string sizeofBase, .bytes 0 4, .bytes (sizeofBase + idsize) size.toNat] }
  else ⟨[], [.string sizeofBase]⟩

/-- `sr_handle_auth_request`.  `SHA1Input` takes the length of the salt as an `unsigned int`. -/
def authRequestUses (host : HostFiles) (buf : ByteMem) : MessageUse :=
  if host.authKey then
    let d := sizeDifference (messageLen buf).toUInt64 sizeofBase
    { differences := [d]
      reads := [.bytes 0 4, .bytes sizeofBase (UInt32.ofNat d.computed).toNat] }
  else ⟨[], []⟩

/-- `sr_handle_auth_status`, which prints the message of a failure. -/
def authStatusUses (buf : ByteMem) : MessageUse where
  differences := []
  reads := .bytes sizeofBase 1 :: if buf sizeofBase = 0 then [.string (sizeofBase + 1)] else []

/-- The `switch` of `sr_read_from_server_expect`. -/
def dispatchUses (cfg : NetConfig) (host : HostFiles) (buf : ByteMem) (len : ℕ) (command : UInt32) :
    MessageUse :=
  match command.toNat with
  -- VNSPACKET
  | 4 => packetUses cfg host buf len
  -- VNSCLOSE
  | 2 => ⟨[], [.string sizeofBase]⟩
  -- VNSBANNER
  | 8 => ⟨[], [.string sizeofBase]⟩
  -- VNSHWINFO
  | 16 => hwinfoUses buf
  -- VNS_RTABLE
  | 32 => rtableUses host buf
  -- VNS_AUTH_REQUEST
  | 128 => authRequestUses host buf
  -- VNS_AUTH_STATUS
  | 512 => authStatusUses buf
  | _ => ⟨[], []⟩

/-- `sr_read_from_server_expect` reads the command, and dispatches the message unless another
command is expected. -/
def messageUses (cfg : NetConfig) (host : HostFiles) (expectedCmd : UInt32) (buf : ByteMem)
    (len : ℕ) :
    MessageUse :=
  let command := load32 buf 4
  MessageUse.append ⟨[], [.bytes 4 4]⟩ <|
    if expectedCmd ≠ 0 ∧ command ≠ expectedCmd ∧ command ≠ vnsClose then ⟨[], []⟩
    else dispatchUses cfg host buf len command

/-- The buffer with the message: the announced length, the command in host order, and what has been
read. -/
def messageBuffer (behind : ByteMem) (len : ℕ) (body : List UInt8) : ByteMem :=
  let buf := storeBlock behind 4 (ofBytes body) (len - 4)
  let buf := store32 buf 0 (htonl ⟨BitVec.ofInt 32 len⟩)
  store32 buf 4 (ntohl (load32 buf 4))

/-! ### Which messages are long enough -/

/-- The string that begins at `start` has its NUL in the message. -/
def EndsInside (buf : ByteMem) (len start : ℕ) : Prop := ∃ j, start ≤ j ∧ j < len ∧ buf j = 0

/-- What a message of each kind needs. -/
def LongEnough (cfg : NetConfig) (host : HostFiles) (expectedCmd : UInt32) (buf : ByteMem)
    (len : ℕ) :
    Prop :=
  8 ≤ len ∧
    (¬ (expectedCmd ≠ 0 ∧ load32 buf 4 ≠ expectedCmd ∧ load32 buf 4 ≠ vnsClose) →
      match (load32 buf 4).toNat with
      | 4 => 38 ≤ len ∧
        ∀ name, .compared sizeofBase name ∈ getInterfaceReads sizeofBase buf cfg.ifList →
          8 + strncmpReads buf srIfaceNamelen name 8 ≤ len
      | 2 => EndsInside buf len 8
      | 8 => EndsInside buf len 8
      | 32 => EndsInside buf len 8 ∧ (host.rtableFile = true → 40 ≤ len)
      | 512 => 9 ≤ len ∧ (buf 8 = 0 → EndsInside buf len 9)
      | _ => True)

section Sound

variable {buf : ByteMem} {len : ℕ}

/-- Both parts of what is done have to be right. -/
lemma sound_append {u v : MessageUse} :
    (u.append v).Sound buf len ↔ u.Sound buf len ∧ v.Sound buf len := by
  constructor
  · intro h
    exact ⟨⟨fun d hd => h.differences d (List.mem_append_left _ hd),
        fun r hr => h.reads r (List.mem_append_left _ hr)⟩,
      ⟨fun d hd => h.differences d (List.mem_append_right _ hd),
        fun r hr => h.reads r (List.mem_append_right _ hr)⟩⟩
  · rintro ⟨hu, hv⟩
    exact ⟨fun d hd => (List.mem_append.mp hd).elim (hu.differences d) (hv.differences d),
      fun r hr => (List.mem_append.mp hr).elim (hu.reads r) (hv.reads r)⟩

/-- Nothing is wrong with doing nothing. -/
lemma sound_nothing : MessageUse.Sound buf len ⟨[], []⟩ :=
  ⟨fun _ hd => absurd hd List.not_mem_nil, fun _ hr => absurd hr List.not_mem_nil⟩

/-- A difference of `size_t` wraps around if it is negative. -/
lemma wraps_sizeDifference {a : UInt64} {k : ℕ} (hk : k < 2 ^ 64) :
    (sizeDifference a k).Wraps ↔ a.toNat < k := by
  have ha := a.toNat_lt
  have hsub : (a - UInt64.ofNat k).toNat = (2 ^ 64 - k + a.toNat) % 2 ^ 64 := by
    rw [UInt64.toNat_sub, UInt64.toNat_ofNat_of_lt' hk]
  simp only [Difference.Wraps, sizeDifference, hsub]
  omega

/-- Bytes at an index are inside up to the last one. -/
lemma bytes_inside_iff {start size : ℕ} (hsize : 0 < size) :
    (∀ j, (FieldRead.bytes start size).Touches buf j → j < len) ↔ start + size ≤ len := by
  constructor
  · intro h
    have hlast := h (start + size - 1) ⟨by omega, by omega⟩
    omega
  · rintro h j ⟨-, hj⟩
    omega

/-- A string is inside if its NUL is. -/
lemma string_inside_iff {start : ℕ} :
    (∀ j, (FieldRead.string start).Touches buf j → j < len) ↔ EndsInside buf len start := by
  constructor
  · intro h
    by_contra hends
    have hne : ∀ k, start ≤ k → k < len → buf k ≠ 0 :=
      fun k hk hlt hzero => hends ⟨k, hk, hlt, hzero⟩
    have hlast := h (max start len) ⟨Nat.le_max_left _ _, fun k hk hlt => hne k hk (by omega)⟩
    omega
  · rintro ⟨k, hk, hlt, hzero⟩ j ⟨-, hj⟩
    by_contra hge
    exact hj k hk (by omega) hzero

/-- A string alone needs its NUL. -/
lemma sound_string {start : ℕ} :
    MessageUse.Sound buf len ⟨[], [.string start]⟩ ↔ EndsInside buf len start := by
  constructor
  · intro h
    exact string_inside_iff.mp (h.reads _ (List.mem_singleton_self _))
  · intro hends
    refine ⟨fun _ hd => absurd hd List.not_mem_nil, fun r hr => ?_⟩
    obtain rfl := List.mem_singleton.mp hr
    exact string_inside_iff.mpr hends

/-- What is left of a length that is not too short when the header is taken off. -/
lemma toNat_sub_sizeofBase {m : UInt32} (hmin : 8 ≤ m.toNat) :
    (m.toUInt64 - UInt64.ofNat sizeofBase).toNat = m.toNat - 8 := by
  have hle : UInt64.ofNat sizeofBase ≤ m.toUInt64 := UInt64.le_iff_toNat_le.mpr hmin
  rw [UInt64.toNat_sub_of_le _ _ hle]
  rfl

/-- The difference does not wrap around. -/
lemma not_wraps_sizeofBase {m : UInt32} (hmin : 8 ≤ m.toNat) :
    ¬ (sizeDifference m.toUInt64 sizeofBase).Wraps := by
  rw [wraps_sizeDifference (by decide), UInt32.toNat_toUInt64]
  exact Nat.not_lt.mpr hmin

/-- The number of entries in a message that is not too short. -/
lemma numEntries_of_le {m : UInt32} (hmin : 8 ≤ m.toNat) (hmax : m.toNat ≤ 10000) :
    (numEntries m).toNat = (m.toNat - 8) / 36 := by
  have hdiv : ((m.toUInt64 - UInt64.ofNat sizeofBase) / UInt64.ofNat sizeofHwEntry).toUInt32.toNat =
      (m.toNat - 8) / 36 := by
    rw [UInt64.toNat_toUInt32, UInt64.toNat_div, toNat_sub_sizeofBase hmin]
    refine Nat.mod_eq_of_lt ?_
    change (m.toNat - 8) / 36 < _
    omega
  rw [numEntries, BitVec.toInt_eq_toNat_of_lt (by rw [UInt32.toNat_toBitVec, hdiv]; omega),
    UInt32.toNat_toBitVec, hdiv, Int.toNat_natCast]

/-- The entries of a hardware message are in it. -/
lemma sound_hwinfo (hbuf : (messageLen buf).toNat = len) (hmin : 8 ≤ len) (hmax : len ≤ 10000) :
    (hwinfoUses buf).Sound buf len := by
  constructor
  · intro d hd
    obtain rfl := List.mem_singleton.mp hd
    exact not_wraps_sizeofBase (hbuf.symm ▸ hmin)
  · intro r hr j hj
    rcases List.mem_cons.mp hr with rfl | hr
    · exact Nat.lt_of_lt_of_le hj.2 (by omega)
    · obtain ⟨i, hi, hr⟩ := List.mem_flatMap.mp hr
      rw [List.mem_range, numEntries_of_le (hbuf.symm ▸ hmin) (hbuf.symm ▸ hmax), hbuf] at hi
      have hentry : sizeofBase + sizeofHwEntry * i + 36 ≤ len := by
        unfold sizeofBase sizeofHwEntry
        omega
      rcases List.mem_cons.mp hr with rfl | hr
      · have hlt := hj.2
        omega
      · split at hr
        · obtain rfl := List.mem_singleton.mp hr
          have hlt := hj.2.1
          unfold srIfaceNamelen at hlt
          omega
        · obtain rfl := List.mem_singleton.mp hr
          have hlt := hj.2
          omega
        · obtain rfl := List.mem_singleton.mp hr
          have hlt := hj.2
          unfold etherAddrLen at hlt
          omega
        · cases hr

/-- A routing table needs a name that ends, and if it is written the whole header. -/
lemma sound_rtable {host : HostFiles} (hbuf : (messageLen buf).toNat = len) (hmin : 8 ≤ len) :
    (rtableUses host buf).Sound buf len ↔
      EndsInside buf len 8 ∧ (host.rtableFile = true → 40 ≤ len) := by
  have hlt := (messageLen buf).toNat_lt
  have hsize :
      (messageLen buf - 8 - UInt32.ofNat idsize).toNat = (len + 4294967296 - 40) % 4294967296 := by
    rw [UInt32.toNat_sub, UInt32.toNat_sub, hbuf]
    simp only [idsize, UInt32.reduceOfNat, UInt32.reduceToNat]
    omega
  unfold rtableUses
  cases host.rtableFile with
  | true =>
    constructor
    · intro h
      refine ⟨string_inside_iff.mp (h.reads _ List.mem_cons_self), fun _ => ?_⟩
      have hexact := h.differences _ (List.mem_singleton_self _)
      simp only [Difference.Wraps, hsize, hbuf] at hexact
      unfold idsize at hexact
      omega
    · rintro ⟨hends, hlong⟩
      have hlong := hlong rfl
      constructor
      · intro d hd
        obtain rfl := List.mem_singleton.mp hd
        simp only [Difference.Wraps, hsize, hbuf]
        unfold idsize
        omega
      · intro r hr
        simp only [if_true, List.mem_cons, List.not_mem_nil, or_false] at hr
        rcases hr with rfl | rfl | rfl
        · exact string_inside_iff.mpr hends
        · exact (bytes_inside_iff (by decide)).mpr (by omega)
        · intro j hj
          have hlast := hj.2
          rw [hsize] at hlast
          unfold sizeofBase idsize at hlast
          omega
  | false =>
    simp only [Bool.false_eq_true, if_false, false_implies, and_true]
    exact sound_string

/-- A salt is what follows the header. -/
lemma sound_authRequest {host : HostFiles} (hbuf : (messageLen buf).toNat = len) (hmin : 8 ≤ len) :
    (authRequestUses host buf).Sound buf len := by
  have hsub : ((messageLen buf).toUInt64 - UInt64.ofNat sizeofBase).toNat = len - 8 :=
    hbuf ▸ toNat_sub_sizeofBase (hbuf.symm ▸ hmin)
  have hlt := (messageLen buf).toNat_lt
  unfold authRequestUses
  split_ifs
  · constructor
    · intro d hd
      obtain rfl := List.mem_singleton.mp hd
      exact not_wraps_sizeofBase (hbuf.symm ▸ hmin)
    · intro r hr j hj
      simp only [List.mem_cons, List.not_mem_nil, or_false] at hr
      rcases hr with rfl | rfl
      · exact Nat.lt_of_lt_of_le hj.2 (by omega)
      · have hlast := hj.2
        simp only [sizeDifference, hsub] at hlast
        rw [UInt32.toNat_ofNat_of_lt' (by rw [UInt32.size]; omega)] at hlast
        unfold sizeofBase at hlast
        omega
  · exact sound_nothing

/-- A status needs its one byte, and a message of failure its NUL. -/
lemma sound_authStatus : (authStatusUses buf).Sound buf len ↔
    9 ≤ len ∧ (buf 8 = 0 → EndsInside buf len 9) := by
  constructor
  · intro h
    refine ⟨(bytes_inside_iff (by decide)).mp (h.reads _ List.mem_cons_self), fun hfailed => ?_⟩
    refine string_inside_iff.mp (h.reads (.string (sizeofBase + 1)) ?_)
    simp [authStatusUses, sizeofBase, hfailed]
  · rintro ⟨hmin, hends⟩
    refine ⟨fun _ hd => absurd hd List.not_mem_nil, fun r hr => ?_⟩
    rcases List.mem_cons.mp hr with rfl | hr
    · exact (bytes_inside_iff (by decide)).mpr hmin
    · split_ifs at hr with hfailed
      · obtain rfl := List.mem_singleton.mp hr
        exact string_inside_iff.mpr (hends hfailed)
      · cases hr

/-! ### Packets -/

/-- The length of the frame is right from the size of both headers on. -/
lemma sound_packetLen (hmax : len ≤ 10000) : (packetLenUses len).Sound buf len ↔ 38 ≤ len := by
  have hlen : (UInt64.ofNat len).toNat = len :=
    UInt64.toNat_ofNat_of_lt' (by rw [UInt64.size]; omega)
  have hwraps : (sizeDifference (UInt64.ofNat len) (sizeofPacketHeader + sizeofEthernetHdr)).Wraps ↔
      len < 38 := by
    rw [wraps_sizeDifference (by decide), hlen]
    rfl
  constructor
  · intro h
    exact Nat.not_lt.mp (mt hwraps.mpr (h.differences _ (List.mem_singleton_self _)))
  · intro hmin
    refine ⟨fun d hd => ?_, fun _ hr => absurd hr List.not_mem_nil⟩
    obtain rfl := List.mem_singleton.mp hd
    exact mt hwraps.mp (Nat.not_lt.mpr hmin)

/-- That length, as a number. -/
lemma toNat_packetLen (hmin : 38 ≤ len) (hmax : len ≤ 10000) :
    (packetLen len).toNat = len - 24 := by
  have htoNat : (packetLen len).toNat = (BitVec.ofInt 32 ((len : ℤ) -
      (sizeofPacketHeader + sizeofEthernetHdr) + sizeofEthernetHdr)).toNat := rfl
  rw [htoNat, BitVec.toNat_ofInt]
  simp only [sizeofPacketHeader, sizeofEthernetHdr]
  omega

/-- To look for an interface is to compare names. -/
lemma compared_of_mem_getInterfaceReads {start : ℕ} {ifList : List SrIf} {r : FieldRead}
    (h : r ∈ getInterfaceReads start buf ifList) : ∃ name, r = .compared start name := by
  induction ifList with
  | nil => cases h
  | cons i rest ih =>
    rcases List.mem_cons.mp h with rfl | h
    · exact ⟨i.name, rfl⟩
    · split_ifs at h
      · cases h
      · exact ih h

/-- A comparison looks at one byte at least. -/
lemma strncmpReads_pos (b : ByteMem) (n : ℕ) (name : IfName) (i : ℕ) :
    0 < strncmpReads b (n + 1) name i := by
  cases name with
  | nil => exact Nat.one_pos
  | cons c name =>
    unfold strncmpReads
    split_ifs <;> omega

/-- A comparison is inside if the last byte that it looks at is. -/
lemma compared_inside_iff {start : ℕ} {name : IfName} :
    (∀ j, (FieldRead.compared start name).Touches buf j → j < len) ↔
      start + strncmpReads buf srIfaceNamelen name start ≤ len := by
  have hpos : 0 < strncmpReads buf srIfaceNamelen name start := strncmpReads_pos buf 31 name start
  have hbytes :
      (∀ j, (FieldRead.bytes start (strncmpReads buf srIfaceNamelen name start)).Touches buf j →
        j < len) ↔
        start + strncmpReads buf srIfaceNamelen name start ≤ len := bytes_inside_iff hpos
  exact hbytes

/-- The filter compares names, and else looks at fields of frames that are long enough. -/
lemma sound_arpReqNotForUs {cfg : NetConfig} (hmin : 38 ≤ len) (hmax : len ≤ 10000) :
    (arpReqNotForUsUses cfg buf (packetLen len)).Sound buf len ↔
      ∀ name, .compared sizeofBase name ∈ getInterfaceReads sizeofBase buf cfg.ifList →
        8 + strncmpReads buf srIfaceNamelen name 8 ≤ len := by
  constructor
  · intro h name hname
    exact compared_inside_iff.mp (h.reads _ (List.mem_append_left _ hname))
  · intro h
    refine ⟨fun _ hd => absurd hd List.not_mem_nil, fun r hr => ?_⟩
    rcases List.mem_append.mp hr with hname | hfield
    · obtain ⟨name, rfl⟩ := compared_of_mem_getInterfaceReads hname
      exact compared_inside_iff.mpr (h name hname)
    · split_ifs at hfield with hshort htype hop
      · cases hfield
      all_goals
        have hlong : 66 ≤ len := by
          rw [UInt32.not_lt, UInt32.le_iff_toNat_le, toNat_packetLen hmin hmax] at hshort
          have hsize : (UInt32.ofNat sizeofEthernetHdr + sizeofArpPacket).toNat = 42 := rfl
          omega
        simp only [List.mem_cons, List.not_mem_nil, or_false] at hfield
      · rcases hfield with rfl
        exact (bytes_inside_iff (by decide)).mpr (by omega)
      · rcases hfield with rfl | rfl
        · exact (bytes_inside_iff (by decide)).mpr (by omega)
        · exact (bytes_inside_iff (by decide)).mpr (by omega)
      · rcases hfield with rfl | rfl | rfl
        · exact (bytes_inside_iff (by decide)).mpr (by omega)
        · exact (bytes_inside_iff (by decide)).mpr (by omega)
        · exact (bytes_inside_iff (by decide)).mpr (by omega)

/-- What is logged is part of the frame. -/
lemma sound_logPacket {host : HostFiles} (hbuf : (messageLen buf).toNat = len) (hmin : 38 ≤ len)
    (hmax : len ≤ 10000) : (logPacketUses host buf).Sound buf len := by
  have hle : UInt64.ofNat sizeofPacketHeader ≤ (messageLen buf).toUInt64 := by
    rw [UInt64.le_iff_toNat_le, UInt32.toNat_toUInt64, hbuf]
    exact Nat.le_trans (show 24 ≤ 38 by decide) hmin
  have hsub : ((messageLen buf).toUInt64 - UInt64.ofNat sizeofPacketHeader).toNat = len - 24 := by
    rw [UInt64.toNat_sub_of_le _ _ hle, UInt32.toNat_toUInt64, hbuf]
    rfl
  constructor
  · intro d hd
    obtain rfl := List.mem_singleton.mp hd
    rw [wraps_sizeDifference (by decide), UInt32.toNat_toUInt64, hbuf]
    exact Nat.not_lt.mpr (Nat.le_trans (show 24 ≤ 38 by decide) hmin)
  · intro r hr j hj
    rcases List.mem_cons.mp hr with rfl | hr
    · exact Nat.lt_of_lt_of_le hj.2 (by omega)
    · split_ifs at hr
      · obtain rfl := List.mem_singleton.mp hr
        have hint : (BitVec.ofNat 32 (len - 24)).toInt = ((len - 24 : ℕ) : ℤ) := by
          rw [BitVec.toInt_eq_toNat_of_lt (by rw [BitVec.toNat_ofNat]; omega), BitVec.toNat_ofNat]
          omega
        have hlast := hj.2
        simp only [sizeDifference, hsub, hint, BitVec.toNat_ofInt, packetDumpSize] at hlast
        omega
      · cases hr

/-- A packet needs both headers, and names that end. -/
lemma sound_packet {cfg : NetConfig} {host : HostFiles} (hbuf : (messageLen buf).toNat = len)
    (hmax : len ≤ 10000) : (packetUses cfg host buf len).Sound buf len ↔ 38 ≤ len ∧
      ∀ name, .compared sizeofBase name ∈ getInterfaceReads sizeofBase buf cfg.ifList →
        8 + strncmpReads buf srIfaceNamelen name 8 ≤ len := by
  rw [packetUses, sound_append, sound_append, sound_packetLen hmax]
  refine and_congr_right fun hmin => ?_
  rw [sound_arpReqNotForUs hmin hmax]
  refine and_iff_left ?_
  split
  · rw [sound_append]
    exact ⟨sound_logPacket hbuf hmin hmax, (sound_packetLen hmax).mpr hmin⟩
  · exact sound_nothing

end Sound

/-! ### Messages -/

variable {cfg : NetConfig} {host : HostFiles} {expected : UInt32} {len : ℕ}

/-- The buffer begins with the length. -/
lemma messageLen_messageBuffer (behind : ByteMem) (body : List UInt8) (hmax : len ≤ 10000) :
    (messageLen (messageBuffer behind len body)).toNat = len := by
  unfold messageLen messageBuffer
  rw [load32_store32_of_disjoint (.inr (by decide)), load32_store32_self, ntohl_htonl]
  change (BitVec.ofInt 32 len).toNat = len
  rw [BitVec.toNat_ofInt]
  omega

/-- This is the buffer that the message is dispatched from. -/
lemma dispatchMessage_eq (cfg : NetConfig) (expected : UInt32) (behind : ByteMem) (len : ℕ)
    (body : List UInt8) : dispatchMessage cfg expected behind len body =
      let buf := messageBuffer behind len body
      let command := load32 buf 4
      if expected ≠ 0 ∧ command ≠ expected ∧ command ≠ vnsClose then .failed
      else serverAction cfg buf len command := by
  simp only [dispatchMessage, messageBuffer, Int.toNat_natCast, load32_store32_self]

/-- For a message that announces its own length, what is done with it is right if and only if it is
long enough for its command. -/
lemma sound_messageUses {buf : ByteMem} (hbuf : (messageLen buf).toNat = len) (hmax : len ≤ 10000) :
    (messageUses cfg host expected buf len).Sound buf len ↔
      LongEnough cfg host expected buf len := by
  have hcommand : MessageUse.Sound buf len ⟨[], [.bytes 4 4]⟩ ↔ 8 ≤ len := by
    constructor
    · intro h
      exact (bytes_inside_iff (by decide)).mp (h.reads _ (List.mem_singleton_self _))
    · intro hmin
      refine ⟨fun _ hd => absurd hd List.not_mem_nil, fun r hr => ?_⟩
      obtain rfl := List.mem_singleton.mp hr
      exact (bytes_inside_iff (by decide)).mpr hmin
  rw [messageUses, sound_append, hcommand, LongEnough]
  refine and_congr_right fun hmin => ?_
  split_ifs with hrefused
  · exact iff_of_true sound_nothing fun h => absurd hrefused h
  · rw [imp_iff_right hrefused, dispatchUses]
    generalize (load32 buf 4).toNat = command
    split
    · exact sound_packet hbuf hmax
    · exact sound_string
    · exact sound_string
    · exact iff_of_true (sound_hwinfo hbuf hmin hmax) trivial
    · exact sound_rtable hbuf hmin
    · exact iff_of_true (sound_authRequest hbuf hmin) trivial
    · exact sound_authStatus
    · refine iff_of_true sound_nothing ?_
      split <;> trivial

/-- **Message lengths**: for a length that is admitted no difference wraps around and all reads are
in the message, if and only if the message is long enough for its command. -/
theorem message_lengths_iff (hmax : len ≤ 10000) (behind : ByteMem) (body : List UInt8) :
    (messageUses cfg host expected (messageBuffer behind len body) len).Sound
        (messageBuffer behind len body) len ↔
      LongEnough cfg host expected (messageBuffer behind len body) len :=
  sound_messageUses (messageLen_messageBuffer behind body hmax) hmax

/-- A comparison looks at no more bytes than it is told to. -/
lemma strncmpReads_le (b : ByteMem) (n : ℕ) (name : IfName) (i : ℕ) :
    strncmpReads b n name i ≤ n := by
  induction n generalizing name i with
  | zero => exact Nat.le_refl 0
  | succ n ih =>
    cases name with
    | nil => exact Nat.le_add_left 1 n
    | cons c name =>
      have hrest := ih name (i + 1)
      unfold strncmpReads
      split_ifs <;> omega

/-- The body of a message of 66 bytes with a frame for the interface `innerInterface`. -/
def packetBody : List UInt8 := [0, 0, 0, 4] ++ innerInterface.name ++ List.replicate 54 0

/-- It is long enough, also on a host that logs its packets. -/
theorem message_lengths_packet :
    (messageUses twoSided ⟨true, false, false⟩ 0 (messageBuffer (fun _ => 0) 66 packetBody) 66).Sound
      (messageBuffer (fun _ => 0) 66 packetBody) 66 := by
  have hcommand : (load32 (messageBuffer (fun _ => 0) 66 packetBody) 4).toNat = 4 := by decide
  refine (message_lengths_iff (by decide) (fun _ => 0) packetBody).mpr ⟨by decide, fun _ => ?_⟩
  rw [hcommand]
  refine ⟨by decide, fun name _ => ?_⟩
  have hle := strncmpReads_le (messageBuffer (fun _ => 0) 66 packetBody) srIfaceNamelen name 8
  unfold srIfaceNamelen at hle ⊢
  omega

/-- A host without log, key and files. -/
def bareHost : HostFiles := ⟨false, false, false⟩

/-- A packet message that ends behind its command is not: the length of its frame is 8 less 38, plus
14. -/
theorem short_packet_wraps :
    ¬ (messageUses twoSided bareHost 0 (messageBuffer (fun _ => 0) 8 [0, 0, 0, 4]) 8).Sound
        (messageBuffer (fun _ => 0) 8 [0, 0, 0, 4]) 8 ∧
      packetLen 8 = 4294967280 := by
  refine ⟨fun h => ?_, by decide⟩
  have hcommand : (load32 (messageBuffer (fun _ => 0) 8 [0, 0, 0, 4]) 4).toNat = 4 := by decide
  have hdispatch := (sound_append.mp h).2
  rw [if_neg (fun hrefused => hrefused.1 rfl), dispatchUses, hcommand] at hdispatch
  exact absurd ((sound_packetLen (by decide)).mp (sound_append.mp hdispatch).1) (by decide)

end NatRouter
