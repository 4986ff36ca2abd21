import NatRouter.Nat.Execution
import NatRouter.Vns.Comm
import NatRouter.Vns.Messages

/-!
# Agreement of the two ends of the VNS connection

The server packs and unpacks its messages with format strings, the router reads and writes them
through packed structs, a loop over key and value entries, and string functions.  Both mean the
same (`vnsMessages_agree`): the router gets the interfaces the server has packed, in their order,
and a packet message gives back the interface name and the frame in both directions.
-/

namespace NatRouter

open ByteMemory StructPack

/-- The bytes of an address as it lies in memory. -/
def ipBytes (ip : UInt32) : List UInt8 := bytes (store32 (fun _ => 0) 0 ip) 4

/-- An interface of the router is one of the server: name, Ethernet address and IP address. -/
structure SameInterface (v : VnsInterface) (i : SrIf) : Prop where
  /-- The names are the same. -/
  name : i.name = v.name
  /-- The Ethernet addresses are the same. -/
  mac : i.addr.toList = v.mac
  /-- The IP addresses are the same. -/
  ip : ipBytes i.ip = v.ip

/-! ### Reading fields -/

section Fields

variable {b : ByteMem} {i : ℕ}

/-- A key or a length. -/
lemma ntohl_load32_of_holds {v : UInt32} (h : Holds b i (be32 v)) : ntohl (load32 b i) = v := by
  rw [load32_of_holds h]
  exact byteSwap32_byteSwap32 v

/-- A name in a field that is longer. -/
lemma ifNameAt_of_holds {n : ℕ} {name : List UInt8} (hn : n ≤ srIfaceNamelen) (hname : 0 ∉ name)
    (hlength : name.length < n) (h : Holds b i (padded n name)) : ifNameAt b i = name := by
  have hfield : bytes (fun j => b (i + j)) n = padded n name := by
    have hbytes := holds_iff_bytes.mp (Holds.shift (k := 0) h)
    rwa [length_padded] at hbytes
  have hsplit : srIfaceNamelen = n + (srIfaceNamelen - n) := by omega
  rw [ifNameAt, hsplit, bytes_add, hfield, takeWhile_padded hname hlength]

/-- An Ethernet address. -/
lemma toList_loadMac_of_holds {mac : List UInt8} (hmac : mac.length = 6) (h : Holds b i mac) :
    (loadMac b i).toList = mac := by
  refine List.ext_getElem (by simp [hmac]) fun j hj hj' => ?_
  rw [← h j hj']
  simp [loadMac]

/-- An IP address. -/
lemma ipBytes_load32_of_holds {ip : List UInt8} (hip : ip.length = 4) (h : Holds b i ip) :
    ipBytes (load32 b i) = ip := by
  have hload : load32 b i = byteSwap32 (ofBe32 ip) :=
    load32_of_holds ((be32_ofBe32 hip).symm ▸ h)
  have hstore := holds_iff_bytes.mp (holds_store32 (fun _ => 0) 0 (ofBe32 ip))
  rw [be32_ofBe32 hip, hip] at hstore
  rw [ipBytes, hload, hstore]

end Fields

/-- The prefix of a message. -/
lemma header_eq {len type : ℕ} {header : List UInt8}
    (h : pack [.u32, .u32] [.int len, .int type] = some header) :
    len < 2 ^ 32 ∧ header = be32 (UInt32.ofNat len) ++ be32 (UInt32.ofNat type) := by
  simp only [pack, Code.pack] at h
  split_ifs at h with hlen htype
  cases h
  exact ⟨hlen, by simp⟩

/-! ### Hardware information -/

/-- A change of the last interface. -/
lemma setLastInterface_concat (f : SrIf → SrIf) (ifList : List SrIf) (i : SrIf) :
    setLastInterface f (ifList ++ [i]) = .ok (ifList ++ [f i]) := by
  induction ifList with
  | nil => rfl
  | cons j rest ih =>
    obtain ⟨k, rest', hrest⟩ := List.exists_cons_of_ne_nil (l := rest ++ [i]) (by simp)
    rw [List.cons_append, hrest, setLastInterface, ← hrest, ih]
    · rfl
    · simp

section Entries

variable {junk : Mac × UInt32} {ifList : List SrIf} {i : SrIf} {entry : ByteMem}

/-- The entry of the name. -/
lemma handleHwEntry_name {name : List UInt8} (hname : 0 ∉ name) (hlength : name.length < 32)
    (h : Holds entry 0 (be32 1 ++ padded 32 name)) :
    handleHwEntry junk ifList entry = .ok (ifList ++ [⟨name, junk.1, junk.2⟩]) := by
  obtain ⟨hkey, hvalue⟩ := holds_append.mp h
  have hread := ifNameAt_of_holds le_rfl hname hlength hvalue
  rw [length_be32] at hread
  unfold handleHwEntry
  rw [ntohl_load32_of_holds hkey]
  change Except.ok (srAddInterface junk ifList (ifNameAt entry 4)) = _
  have hfits : name.length ≤ srIfaceNamelen := Nat.le_of_lt hlength
  rw [hread, srAddInterface, List.take_of_length_le hfits]

/-- The entry of the Ethernet address. -/
lemma handleHwEntry_ether {mac : List UInt8} (hmac : mac.length = 6)
    (h : Holds entry 0 (be32 32 ++ padded 32 mac)) : ∃ addr : Mac, addr.toList = mac ∧
      handleHwEntry junk (ifList ++ [i]) entry = .ok (ifList ++ [{ i with addr := addr }]) := by
  obtain ⟨hkey, hvalue⟩ := holds_append.mp h
  rw [padded_of_le (by omega)] at hvalue
  refine ⟨loadMac entry 4, toList_loadMac_of_holds hmac (holds_append.mp hvalue).1, ?_⟩
  unfold handleHwEntry
  rw [ntohl_load32_of_holds hkey]
  exact setLastInterface_concat _ ifList i

/-- The entry of the IP address. -/
lemma handleHwEntry_ethip {ip : List UInt8} (hip : ip.length = 4)
    (h : Holds entry 0 (be32 64 ++ (padded 4 ip ++ padded 28 []))) : ∃ a, ipBytes a = ip ∧
      handleHwEntry junk (ifList ++ [i]) entry = .ok (ifList ++ [{ i with ip := a }]) := by
  obtain ⟨hkey, hvalue⟩ := holds_append.mp h
  obtain ⟨hvalue, -⟩ := holds_append.mp hvalue
  rw [padded_of_le (by omega)] at hvalue
  refine ⟨load32 entry 4, ipBytes_load32_of_holds hip (holds_append.mp hvalue).1, ?_⟩
  unfold handleHwEntry
  rw [ntohl_load32_of_holds hkey]
  exact setLastInterface_concat _ ifList i

/-- An entry of speed, subnet or mask. -/
lemma handleHwEntry_other {key : UInt32} {value : List UInt8}
    (hkey : key = 2 ∨ key = 4 ∨ key = 128) (h : Holds entry 0 (be32 key ++ value)) :
    handleHwEntry junk ifList entry = .ok ifList := by
  unfold handleHwEntry
  rw [ntohl_load32_of_holds (holds_append.mp h).1]
  rcases hkey with rfl | rfl | rfl <;> rfl

end Entries

/-- The first entry of a run of entries, and what comes behind it. -/
lemma holds_hwEntry {hwinfo : ByteMem} {i : ℕ} {e rest : List UInt8} {es : List (List UInt8)}
    (he : e.length = sizeofHwEntry)
    (h : Holds hwinfo (sizeofBase + sizeofHwEntry * i) ((e :: es).flatten ++ rest)) :
    Holds (hwEntry hwinfo i) 0 e ∧
      Holds hwinfo (sizeofBase + sizeofHwEntry * (i + 1)) (es.flatten ++ rest) := by
  rw [List.flatten_cons, List.append_assoc] at h
  obtain ⟨hentry, hrest⟩ := holds_append.mp h
  rw [he, Nat.add_assoc, ← Nat.mul_succ] at hrest
  exact ⟨Holds.shift (k := 0) hentry, hrest⟩

section Loop

variable {junk : ℕ → Mac × UInt32} {hwinfo : ByteMem}

/-- One turn of the loop. -/
lemma handleHwEntries_succ {i : ℕ} {ifList ifList' : List SrIf}
    (h : handleHwEntry (junk i) ifList (hwEntry hwinfo i) = .ok ifList') (n : ℕ) :
    handleHwEntries junk hwinfo (n + 1) i ifList =
      handleHwEntries junk hwinfo n (i + 1) ifList' := by
  rw [handleHwEntries, h]

/-- The six entries of an interface make one interface. -/
lemma handleHwEntries_interface {v : VnsInterface} (hname : 0 ∉ v.name)
    (hlength : v.name.length < 32) {i : ℕ} {rest : List UInt8}
    (h : Holds hwinfo (sizeofBase + sizeofHwEntry * i) (v.entries.flatten ++ rest)) (n : ℕ)
    (ifList : List SrIf) : ∃ j, SameInterface v j ∧
      Holds hwinfo (sizeofBase + sizeofHwEntry * (i + 6)) rest ∧
      handleHwEntries junk hwinfo (n + 6) i ifList =
        handleHwEntries junk hwinfo n (i + 6) (ifList ++ [j]) := by
  obtain ⟨h1, h⟩ := holds_hwEntry (by simp [sizeofHwEntry]) h
  obtain ⟨h2, h⟩ := holds_hwEntry (by simp [sizeofHwEntry]) h
  obtain ⟨h3, h⟩ := holds_hwEntry (by simp [sizeofHwEntry]) h
  obtain ⟨h4, h⟩ := holds_hwEntry (by simp [sizeofHwEntry]) h
  obtain ⟨h5, h⟩ := holds_hwEntry (by simp [sizeofHwEntry]) h
  obtain ⟨h6, h⟩ := holds_hwEntry (by simp [sizeofHwEntry]) h
  obtain ⟨addr, haddr, h3⟩ := handleHwEntry_ether v.length_mac h3
  obtain ⟨ip, hip, h4⟩ := handleHwEntry_ethip v.length_ip h4
  refine ⟨⟨v.name, addr, ip⟩, ⟨rfl, haddr, hip⟩, h, ?_⟩
  rw [handleHwEntries_succ (handleHwEntry_name hname hlength h1),
    handleHwEntries_succ (handleHwEntry_other (.inl rfl) h2), handleHwEntries_succ h3,
    handleHwEntries_succ h4, handleHwEntries_succ (handleHwEntry_other (.inr (.inl rfl)) h5),
    handleHwEntries_succ (handleHwEntry_other (.inr (.inr rfl)) h6)]

/-- The entries of a list of interfaces make the list. -/
lemma handleHwEntries_interfaces {vs : List VnsInterface}
    (hnames : ∀ v ∈ vs, 0 ∉ v.name ∧ v.name.length < 32) {i : ℕ}
    (h : Holds hwinfo (sizeofBase + sizeofHwEntry * i) (vs.flatMap fun v => v.entries.flatten))
    (ifList : List SrIf) : ∃ js, List.Forall₂ SameInterface vs js ∧
      handleHwEntries junk hwinfo (6 * vs.length) i ifList = .ok (ifList ++ js) := by
  induction vs generalizing i ifList with
  | nil => exact ⟨[], .nil, by simp [handleHwEntries]⟩
  | cons v vs ih =>
    obtain ⟨hname, hlength⟩ := hnames v List.mem_cons_self
    obtain ⟨j, hsame, hrest, hloop⟩ :=
      @handleHwEntries_interface junk _ v hname hlength i _ h (6 * vs.length) ifList
    obtain ⟨js, hall, hloop'⟩ :=
      ih (fun w hw => hnames w (List.mem_cons_of_mem v hw)) hrest (ifList ++ [j])
    refine ⟨j :: js, .cons hsame hall, ?_⟩
    rw [List.length_cons, Nat.mul_succ, hloop, hloop', List.append_assoc]
    rfl

end Loop

/-- The size of the entries of a list of interfaces. -/
lemma length_entries (vs : List VnsInterface) :
    (vs.flatMap fun v => v.entries.flatten).length = 216 * vs.length := by
  induction vs with
  | nil => rfl
  | cons v vs ih =>
    have hv : v.entries.flatten.length = 216 := by simp [VnsInterface.entries]
    rw [List.flatMap_cons, List.length_append, ih, hv, List.length_cons]
    omega

/-- The number of entries of a message of `n` interfaces. -/
lemma numEntries_eq {n : ℕ} (h : 8 + 216 * n < 2 ^ 32) :
    numEntries (UInt32.ofNat (8 + 216 * n)) = ((6 * n : ℕ) : ℤ) := by
  have hlen : (UInt32.ofNat (8 + 216 * n)).toUInt64.toNat = 8 + 216 * n := by
    rw [UInt32.toNat_toUInt64, UInt32.toNat_ofNat_of_lt' h]
  have hle : UInt64.ofNat sizeofBase ≤ (UInt32.ofNat (8 + 216 * n)).toUInt64 := by
    rw [UInt64.le_iff_toNat_le, hlen]
    exact Nat.le_add_right 8 _
  have hsub : ((UInt32.ofNat (8 + 216 * n)).toUInt64 - UInt64.ofNat sizeofBase).toNat = 216 * n := by
    rw [UInt64.toNat_sub_of_le _ _ hle, hlen]
    exact Nat.add_sub_cancel_left 8 _
  have hnum : (((UInt32.ofNat (8 + 216 * n)).toUInt64 - UInt64.ofNat sizeofBase) /
      UInt64.ofNat sizeofHwEntry).toUInt32.toNat = 6 * n := by
    rw [UInt64.toNat_toUInt32, UInt64.toNat_div, hsub]
    change 216 * n / 36 % 2 ^ 32 = 6 * n
    omega
  rw [numEntries, BitVec.toInt_eq_toNat_of_lt (by rw [UInt32.toNat_toBitVec, hnum]; omega),
    UInt32.toNat_toBitVec, hnum]

/-- The interface list of a router that reads what the server has packed for a list of interfaces:
the same names, Ethernet addresses and IP addresses in the same order. -/
lemma srHandleHwinfo_frame (lt : LtProtocol) {info : VnsHardwareInfo}
    (hnames : ∀ v ∈ info.interfaces, 0 ∉ v.name ∧ v.name.length < 32) {body msg : List UInt8}
    (hpack : info.pack = some body) (hframe : lt.frame VnsHardwareInfo.type body = some msg)
    {hwinfo : ByteMem} (h : Holds hwinfo 0 msg) (junk : ℕ → Mac × UInt32) :
    ∃ ifList num, srHandleHwinfo junk [] hwinfo = .ok (ifList, num) ∧
      List.Forall₂ SameInterface info.interfaces ifList := by
  rw [info.pack_eq] at hpack
  cases hpack
  obtain ⟨header, hheader, rfl⟩ := lt.frame_eq hframe
  obtain ⟨hfits, rfl⟩ := header_eq hheader
  rw [length_entries] at h hfits
  rw [List.append_assoc] at h
  obtain ⟨hlength, hrest⟩ := holds_append.mp h
  obtain ⟨-, hentries⟩ := holds_append.mp hrest
  obtain ⟨ifList, hsame, hloop⟩ :=
    @handleHwEntries_interfaces junk _ info.interfaces hnames 0 hentries []
  refine ⟨ifList, ((6 * info.interfaces.length : ℕ) : ℤ), ?_, hsame⟩
  simp only [srHandleHwinfo, ntohl_load32_of_holds hlength, numEntries_eq hfits, Int.toNat_natCast,
    hloop, List.nil_append]

/-! ### Packets -/

/-- The message for a frame: two words, the name in 16 bytes, and the frame. -/
lemma packetMessage_holds (junk : ByteMem) (frame : List UInt8) (name : IfName) :
    Holds (packetMessage junk frame name) 0
      (be32 (UInt32.ofNat (frame.length + sizeofPacketHeader)) ++ be32 vnsPacket ++
        (padded 16 name ++ frame)) := by
  have hname : ∀ b, Holds (storeBlock b 8 (ofBytes (padded 16 name)) 16) 8 (padded 16 name) :=
    fun b => holds_storeBlock b 8 (holds_ofBytes _) (length_padded 16 name).le
  refine holds_append.mpr ⟨holds_append.mpr ⟨?_, ?_⟩, holds_append.mpr ⟨?_, ?_⟩⟩
  · exact (((holds_store32 junk 0 _).store32 (.inl le_rfl)).storeBlock (.inl (by simp))).storeBlock
      (.inl (by simp [sizeofPacketHeader]))
  · exact ((holds_store32 _ 4 vnsPacket).storeBlock (.inl (by simp))).storeBlock
      (.inl (by simp [sizeofPacketHeader]))
  · exact (hname _).storeBlock (.inl (by simp [sizeofPacketHeader]))
  · rw [length_padded]
    exact holds_storeBlock _ sizeofPacketHeader (holds_ofBytes frame) le_rfl

/-- The body of the message that is written for an accepted frame is unpacked to the name of the
interface and the frame. -/
lemma srSendPacketWrites_unpack {cfg : NetConfig} {junk : ByteMem} {name frame msg : List UInt8}
    (hname : 0 ∉ name) (hlength : name.length < 16) (hframe : frame.length + 24 < 2 ^ 32)
    (h : srSendPacketWrites cfg junk frame name = some msg) : ∃ header body,
      pack [.u32, .u32] [.int (8 + body.length), .int VnsPacket.type] = some header ∧
        msg = header ++ body ∧ VnsPacket.unpack body = some ⟨name, frame⟩ := by
  have hmsg : bytes (packetMessage junk frame name)
      (UInt32.ofNat (frame.length + sizeofPacketHeader)).toNat = msg := by
    rw [srSendPacketWrites] at h
    split_ifs at h
    exact Option.some.inj h
  have htotal : (UInt32.ofNat (frame.length + sizeofPacketHeader)).toNat = frame.length + 24 :=
    UInt32.toNat_ofNat_of_lt' hframe
  have hbody : (padded 16 name ++ frame).length = frame.length + 16 := by
    rw [List.length_append, length_padded, Nat.add_comm]
  refine ⟨be32 (UInt32.ofNat (8 + (padded 16 name ++ frame).length)) ++ be32 4,
    padded 16 name ++ frame, ?_, ?_, VnsPacket.unpack_padded hname (Nat.le_of_lt hlength)⟩
  · have hfits : 8 + (padded 16 name ++ frame).length < 2 ^ 32 := by omega
    simp only [pack, Code.pack, if_pos hfits]
    rfl
  · rw [← hmsg, htotal, hbody]
    have hfield : frame.length + 24 = (be32 (UInt32.ofNat (8 + (frame.length + 16))) ++ be32 4 ++
        (padded 16 name ++ frame)).length := by
      simp only [List.length_append, length_be32, length_padded]
      omega
    rw [hfield]
    refine holds_iff_bytes.mp ?_
    have hsum : 8 + (frame.length + 16) = frame.length + sizeofPacketHeader := by
      simp only [sizeofPacketHeader]
      omega
    rw [hsum]
    exact packetMessage_holds junk frame name

/-- A packet that is in the buffer is handed on with the name and the frame of the message. -/
lemma handOnPacket_handedOn (cfg : NetConfig) {buf : ByteMem} {name frame : List UInt8}
    (hname : 0 ∉ name) (hlength : name.length < 16) (hframe : frame.length + 24 ≤ 10000)
    (h : Holds buf 8 (padded 16 name ++ frame)) :
    (handOnPacket cfg buf ((frame.length + 24 : ℕ) : ℤ)).handedOn ≠ [] ∧
      ∀ args ∈ (handOnPacket cfg buf ((frame.length + 24 : ℕ) : ℤ)).handedOn,
        args.interface = name ∧ bytes args.packet args.len.toNat = frame := by
  obtain ⟨hfield, hbytes⟩ := holds_append.mp h
  rw [length_padded] at hbytes
  have hlen : (BitVec.ofInt 32 (((frame.length + 24 : ℕ) : ℤ) -
      ((sizeofPacketHeader : ℤ) + (sizeofEthernetHdr : ℤ)) + (sizeofEthernetHdr : ℤ))).toNat =
      frame.length := by
    rw [BitVec.toNat_ofInt]
    simp only [sizeofPacketHeader, sizeofEthernetHdr]
    omega
  have hargs : ifNameAt buf sizeofBase = name ∧
      bytes (fun j => buf (sizeofPacketHeader + j)) frame.length = frame :=
    ⟨ifNameAt_of_holds (by simp [srIfaceNamelen]) hname hlength hfield,
      holds_iff_bytes.mp (Holds.shift (k := 0) hbytes)⟩
  rw [← hlen] at hargs
  unfold handOnPacket
  dsimp only
  split
  · exact ⟨List.cons_ne_nil _ _, fun args hmem => List.mem_singleton.mp hmem ▸ hargs⟩
  · exact ⟨List.cons_ne_nil _ _, fun args hmem => List.mem_singleton.mp hmem ▸ hargs⟩
  · refine ⟨List.cons_ne_nil _ _, fun args hmem => ?_⟩
    rcases List.mem_cons.mp hmem with rfl | hmem
    · exact hargs
    · exact List.mem_singleton.mp hmem ▸ hargs

/-- A packet message that comes first in the stream is read, and handed on if packets are expected
or no command in particular is. -/
lemma srReadFromServerExpect_packet (cfg : NetConfig) (expected : UInt32) (behind : ByteMem)
    {name frame msg : List UInt8} (hname : 0 ∉ name) (hlength : name.length < 16)
    (hframe : frame.length + 24 ≤ 10000)
    (hmsg : msg = be32 (UInt32.ofNat (frame.length + 24)) ++ (be32 4 ++ (padded 16 name ++ frame)))
    (rest : List UInt8) : ∃ action,
      srReadFromServerExpect cfg expected behind (msg ++ rest) = some (action, rest) ∧
      (expected = 0 ∨ expected = vnsPacket → action.handedOn ≠ []) ∧
      ∀ args ∈ action.handedOn, args.interface = name ∧ bytes args.packet args.len.toNat = frame := by
  have hlenMsg : msg.length = frame.length + 24 := by
    rw [hmsg]
    simp only [List.length_append, length_be32, length_padded]
    omega
  have hstream := (holds_append.mp (holds_ofBytes (msg ++ rest))).1
  generalize hs : msg ++ rest = stream at hstream ⊢
  have hlenStream : frame.length + 24 ≤ stream.length := by
    rw [← hs, List.length_append, hlenMsg]
    exact Nat.le_add_right _ _
  rw [hmsg] at hstream
  obtain ⟨hword, hbehind⟩ := holds_append.mp hstream
  have hlen : (ntohl (load32 (ofBytes stream) 0)).toBitVec.toInt = ((frame.length + 24 : ℕ) : ℤ) := by
    have htoNat : (UInt32.ofNat (frame.length + 24)).toNat = frame.length + 24 :=
      UInt32.toNat_ofNat_of_lt' (lt_of_le_of_lt hframe (by decide))
    rw [ntohl_load32_of_holds hword, BitVec.toInt_eq_toNat_of_lt
      (by rw [UInt32.toNat_toBitVec, htoNat]; omega), UInt32.toNat_toBitVec, htoNat]
  -- the buffer, as it is filled
  have hbuf : Holds (store32 (storeBlock behind 4 (fun j => ofBytes stream (4 + j))
      (frame.length + 24 - 4)) 0 (htonl ⟨BitVec.ofInt 32 ((frame.length + 24 : ℕ) : ℤ)⟩)) 4
      (be32 4 ++ (padded 16 name ++ frame)) := by
    refine Holds.store32 (holds_storeBlock _ 4 (Holds.shift (k := 0) hbehind) ?_) (.inr le_rfl)
    simp only [List.length_append, length_be32, length_padded]
    omega
  obtain ⟨hcommand, hbody⟩ := holds_append.mp hbuf
  have hcommand : ntohl (load32 (store32 (storeBlock behind 4 (fun j => ofBytes stream (4 + j))
      (frame.length + 24 - 4)) 0 (htonl ⟨BitVec.ofInt 32 ((frame.length + 24 : ℕ) : ℤ)⟩)) 4) =
      vnsPacket := ntohl_load32_of_holds hcommand
  have hrest : stream.drop (max 4 (frame.length + 24)) = rest := by
    rw [← hs, max_eq_right (by omega)]
    exact List.drop_left' hlenMsg
  unfold srReadFromServerExpect
  rw [if_neg (by omega)]
  dsimp only
  rw [hlen, if_neg (by omega), if_neg (by omega), Int.toNat_natCast, hcommand, hrest]
  split_ifs with hunexpected
  · refine ⟨_, rfl, fun hor => ?_, fun args hmem => absurd hmem List.not_mem_nil⟩
    rcases hor with h0 | hpacket
    · exact absurd h0 hunexpected.1
    · exact absurd hpacket.symm hunexpected.2.1
  · have hhanded := handOnPacket_handedOn cfg hname hlength hframe
      (Holds.store32 (v := vnsPacket) hbody (.inr le_rfl))
    exact ⟨_, rfl, fun _ => hhanded.1, hhanded.2⟩

/-! ### Both ends -/

/-- The framing that is the prefix and nothing else. -/
def prefixFraming : LtProtocol where
  frame type body :=
    (pack [.u32, .u32] [.int (8 + body.length), .int type]).map (· ++ body)
  frame_eq h := by
    obtain ⟨header, hheader, hmsg⟩ := Option.map_eq_some_iff.mp h
    exact ⟨header, hheader, hmsg.symm⟩

/-- **Both ends of the connection agree on the encoding.**  The router makes the interfaces of the
server out of its hardware message, in their order, and a packet message gives back the interface
name and the frame, be it from the router to the server or from the server to the router. -/
theorem vnsMessages_agree (lt : LtProtocol) :
    (∀ info : VnsHardwareInfo,
      (∀ v ∈ info.interfaces, v.name ≠ [] ∧ 0 ∉ v.name ∧ v.name.length ≤ 31) →
      ∀ body msg, info.pack = some body → lt.frame VnsHardwareInfo.type body = some msg →
      ∀ hwinfo junk, Holds hwinfo 0 msg →
        ∃ ifList num, srHandleHwinfo junk [] hwinfo = .ok (ifList, num) ∧
          List.Forall₂ SameInterface info.interfaces ifList) ∧
    ∀ name frame : List UInt8, 0 ∉ name → 1 ≤ name.length → name.length ≤ 15 →
      sizeofEthernetHdr ≤ frame.length → frame.length + sizeofPacketHeader ≤ 10000 →
      (∀ cfg junk msg, srSendPacketWrites cfg junk frame name = some msg → ∃ header body,
        pack [.u32, .u32] [.int (8 + body.length), .int VnsPacket.type] = some header ∧
          msg = header ++ body ∧ VnsPacket.unpack body = some ⟨name, frame⟩) ∧
      ∀ body msg, VnsPacket.pack ⟨name, frame⟩ = some body →
        lt.frame VnsPacket.type body = some msg → ∀ cfg expected behind rest, ∃ action,
          srReadFromServerExpect cfg expected behind (msg ++ rest) = some (action, rest) ∧
          (expected = 0 ∨ expected = vnsPacket → action.handedOn ≠ []) ∧
          ∀ args ∈ action.handedOn,
            args.interface = name ∧ bytes args.packet args.len.toNat = frame := by
  refine ⟨fun info hnames body msg hpack hframe hwinfo junk h => ?_,
    fun name frame hname _ hlength _ hframe => ⟨fun cfg junk msg h => ?_,
      fun body msg hpack hmsg cfg expected behind rest => ?_⟩⟩
  · exact srHandleHwinfo_frame lt
      (fun v hv => ⟨(hnames v hv).2.1, Nat.lt_succ_of_le (hnames v hv).2.2⟩) hpack hframe h junk
  · exact srSendPacketWrites_unpack hname (Nat.lt_succ_of_le hlength)
      (lt_of_le_of_lt hframe (by decide)) h
  · rw [VnsPacket.pack_eq] at hpack
    cases hpack
    obtain ⟨header, hheader, rfl⟩ := lt.frame_eq hmsg
    obtain ⟨-, rfl⟩ := header_eq hheader
    refine srReadFromServerExpect_packet cfg expected behind hname (Nat.lt_succ_of_le hlength)
      hframe ?_ rest
    have hlen : 8 + (padded 16 name ++ frame).length = frame.length + 24 := by
      rw [List.length_append, length_padded]
      omega
    rw [hlen, List.append_assoc]
    rfl

/-- `vnsMessages_agree` for the outer interface, and for a frame from it and one to it. -/
theorem vnsMessages_agree_outerInterface :
    let server : VnsInterface :=
      ⟨outerInterface.name, List.replicate 6 2, [0xac, 0x40, 3, 1], [255, 255, 255, 0], rfl, rfl, rfl⟩
    let frame : List UInt8 := List.replicate 14 2
    (∃ body msg, VnsHardwareInfo.pack ⟨[server]⟩ = some body ∧
      prefixFraming.frame VnsHardwareInfo.type body = some msg ∧
      ∃ ifList num, srHandleHwinfo (fun _ => (Vector.replicate 6 0, 0)) [] (ofBytes msg) =
          .ok (ifList, num) ∧ List.Forall₂ SameInterface [server] ifList) ∧
    (∃ msg, srSendPacketWrites oneRoute (fun _ => 0) frame outerInterface.name = some msg ∧
      ∃ header body, pack [.u32, .u32] [.int (8 + body.length), .int VnsPacket.type] = some header ∧
        msg = header ++ body ∧ VnsPacket.unpack body = some ⟨outerInterface.name, frame⟩) ∧
    ∃ body msg, VnsPacket.pack ⟨outerInterface.name, frame⟩ = some body ∧
      prefixFraming.frame VnsPacket.type body = some msg ∧
      ∃ action, srReadFromServerExpect oneRoute 0 (fun _ => 0) (msg ++ [1, 2]) =
          some (action, [1, 2]) ∧
        action.handedOn ≠ [] ∧ ∀ args ∈ action.handedOn,
          args.interface = outerInterface.name ∧ bytes args.packet args.len.toNat = frame := by
  intro server frame
  have hname : 0 ∉ outerInterface.name ∧ 1 ≤ outerInterface.name.length ∧
      outerInterface.name.length ≤ 15 := by decide
  obtain ⟨hhwinfo, hpackets⟩ := vnsMessages_agree prefixFraming
  obtain ⟨hsent, hreceived⟩ :=
    hpackets outerInterface.name frame hname.1 hname.2.1 hname.2.2 (by decide) (by decide)
  refine ⟨⟨_, _, rfl, rfl, hhwinfo ⟨[server]⟩ ?_ _ _ rfl rfl _ _ (holds_ofBytes _)⟩,
    ⟨_, if_pos (by decide), hsent oneRoute _ _ (if_pos (by decide))⟩, ?_⟩
  · intro v hv
    rw [List.mem_singleton.mp hv]
    exact ⟨by decide, hname.1, by decide⟩
  · obtain ⟨action, haction, hhanded, hargs⟩ := hreceived _ _ rfl rfl oneRoute 0 (fun _ => 0) [1, 2]
    exact ⟨_, _, rfl, rfl, action, haction, hhanded (.inl rfl), hargs⟩

end NatRouter
