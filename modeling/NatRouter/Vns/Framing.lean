import NatRouter.Vns.Agreement

/-!
# Messages on the stream

A message of the server that comes first in the stream is taken off it and dispatched on its type,
if it is no longer than the router allows (`srReadFromServerExpect_message`); a longer one is refused
(`srReadFromServerExpect_refused`).  What has been dispatched lies in a buffer that holds the length
and the body as they were sent, but the type in host order.
-/

namespace NatRouter

open ByteMemory StructPack

/-- The bytes of a message: the prefix and the body. -/
def vnsFrame (type : ℕ) (body : List UInt8) : List UInt8 :=
  be32 (UInt32.ofNat (8 + body.length)) ++ (be32 (UInt32.ofNat type) ++ body)

/-- A message lies in a buffer, whatever stands in the place of its type. -/
structure InBuffer (buf : ByteMem) (body : List UInt8) : Prop where
  /-- Its length. -/
  length : Holds buf 0 (be32 (UInt32.ofNat (8 + body.length)))
  /-- Its body. -/
  body : Holds buf 8 body

/-- What goes over the connection for a body. -/
lemma LtProtocol.frame_eq_vnsFrame (lt : LtProtocol) {type : ℕ} {body msg : List UInt8}
    (h : lt.frame type body = some msg) : 8 + body.length < 2 ^ 32 ∧ msg = vnsFrame type body := by
  obtain ⟨header, hheader, rfl⟩ := lt.frame_eq h
  obtain ⟨hfits, rfl⟩ := header_eq hheader
  exact ⟨hfits, List.append_assoc _ _ _⟩

@[simp] lemma length_vnsFrame (type : ℕ) (body : List UInt8) :
    (vnsFrame type body).length = 8 + body.length := by
  simp only [vnsFrame, List.length_append, length_be32]
  omega

section Read

variable {type : ℕ} {body : List UInt8}

/-- The length as it is read off a stream that begins with a message. -/
lemma ntohl_vnsFrame (type : ℕ) (body rest : List UInt8) :
    ntohl (load32 (ofBytes (vnsFrame type body ++ rest)) 0) = UInt32.ofNat (8 + body.length) := by
  have hstream := (holds_append.mp (holds_ofBytes (vnsFrame type body ++ rest))).1
  exact ntohl_load32_of_holds (holds_append.mp hstream).1

/-- **A message that comes first in the stream** is dispatched on its type, or is an error if
another one is expected. -/
lemma srReadFromServerExpect_message (cfg : NetConfig) (expected : UInt32) (behind : ByteMem)
    (hfits : 8 + body.length ≤ 10000) (rest : List UInt8) : ∃ buf, InBuffer buf body ∧
      srReadFromServerExpect cfg expected behind (vnsFrame type body ++ rest) =
        some (if expected ≠ 0 ∧ UInt32.ofNat type ≠ expected ∧ UInt32.ofNat type ≠ vnsClose
          then .failed
          else serverAction cfg buf ((8 + body.length : ℕ) : ℤ) (UInt32.ofNat type), rest) := by
  have hword := ntohl_vnsFrame type body rest
  have hstream := (holds_append.mp (holds_ofBytes (vnsFrame type body ++ rest))).1
  have hlenStream : 8 + body.length ≤ (vnsFrame type body ++ rest).length := by
    rw [List.length_append, length_vnsFrame]
    exact Nat.le_add_right _ _
  have hrest : (vnsFrame type body ++ rest).drop (max 4 (8 + body.length)) = rest := by
    rw [max_eq_right (by omega)]
    exact List.drop_left' (length_vnsFrame type body)
  generalize vnsFrame type body ++ rest = stream at hword hstream hlenStream hrest ⊢
  obtain ⟨-, hbehind⟩ := holds_append.mp hstream
  have htoNat : (UInt32.ofNat (8 + body.length)).toNat = 8 + body.length :=
    UInt32.toNat_ofNat_of_lt' (lt_of_le_of_lt hfits (by decide))
  have hlen : (ntohl (load32 (ofBytes stream) 0)).toBitVec.toInt = ((8 + body.length : ℕ) : ℤ) := by
    rw [hword, BitVec.toInt_eq_toNat_of_lt (by rw [UInt32.toNat_toBitVec, htoNat]; omega),
      UInt32.toNat_toBitVec, htoNat]
  -- the buffer, as it is filled
  set buf := store32 (storeBlock behind 4 (fun j => ofBytes stream (4 + j)) (8 + body.length - 4)) 0
    (htonl ⟨BitVec.ofInt 32 ((8 + body.length : ℕ) : ℤ)⟩) with hbuf
  have hholds : Holds buf 4 (be32 (UInt32.ofNat type) ++ body) := by
    refine Holds.store32 (holds_storeBlock _ 4 (Holds.shift (k := 0) hbehind) ?_) (.inr le_rfl)
    rw [List.length_append, length_be32]
    omega
  obtain ⟨htype, hbody⟩ := holds_append.mp hholds
  have hcommand : ntohl (load32 buf 4) = UInt32.ofNat type := ntohl_load32_of_holds htype
  have hlength : (⟨BitVec.ofInt 32 ((8 + body.length : ℕ) : ℤ)⟩ : UInt32) =
      UInt32.ofNat (8 + body.length) :=
    UInt32.eq_of_toBitVec_eq (BitVec.ofInt_natCast 32 (8 + body.length))
  have hfirst : Holds buf 0 (be32 (UInt32.ofNat (8 + body.length))) := by
    rw [hbuf, hlength]
    exact holds_store32 _ 0 _
  refine ⟨store32 buf 4 (UInt32.ofNat type),
    ⟨hfirst.store32 (.inl le_rfl), hbody.store32 (.inr le_rfl)⟩, ?_⟩
  unfold srReadFromServerExpect
  rw [if_neg (by omega)]
  dsimp only
  rw [hlen, if_neg (by omega), if_neg (by omega), Int.toNat_natCast, ← hbuf, hcommand, hrest]
  split_ifs <;> rfl

/-- **A message that is too long** is refused. -/
lemma srReadFromServerExpect_refused (cfg : NetConfig) (expected : UInt32) (behind : ByteMem)
    (hlong : 10000 < 8 + body.length) (hfits : 8 + body.length < 2 ^ 32) (rest : List UInt8) :
    ∃ rest', srReadFromServerExpect cfg expected behind (vnsFrame type body ++ rest) =
      some (.failed, rest') := by
  have hlenStream : ¬ (vnsFrame type body ++ rest).length < 4 := by
    rw [List.length_append, length_vnsFrame]
    omega
  have htoNat : (UInt32.ofNat (8 + body.length)).toNat = 8 + body.length :=
    UInt32.toNat_ofNat_of_lt' hfits
  have hlen : 10000 < (ntohl (load32 (ofBytes (vnsFrame type body ++ rest)) 0)).toBitVec.toInt ∨
      (ntohl (load32 (ofBytes (vnsFrame type body ++ rest)) 0)).toBitVec.toInt < 0 := by
    rw [ntohl_vnsFrame, BitVec.toInt_eq_toNat_cond, UInt32.toNat_toBitVec, htoNat]
    split_ifs <;> omega
  unfold srReadFromServerExpect
  rw [if_neg hlenStream]
  dsimp only
  rw [if_pos hlen]
  exact ⟨_, rfl⟩

end Read

/-! ### Hardware information -/

/-- **The interfaces of a hardware message** are made out of its body: the same names, Ethernet
addresses and IP addresses in the same order. -/
lemma srHandleHwinfo_inBuffer {vs : List VnsInterface}
    (hnames : ∀ v ∈ vs, 0 ∉ v.name ∧ v.name.length < 32) {hwinfo : ByteMem} {body : List UInt8}
    (hpack : VnsHardwareInfo.pack ⟨vs⟩ = some body) (hfits : 8 + body.length < 2 ^ 32)
    (h : InBuffer hwinfo body) (junk : ℕ → Mac × UInt32) :
    ∃ ifList num, srHandleHwinfo junk [] hwinfo = .ok (ifList, num) ∧
      List.Forall₂ SameInterface vs ifList := by
  rw [VnsHardwareInfo.pack_eq] at hpack
  cases hpack
  obtain ⟨hlength, hentries⟩ := h
  rw [length_entries] at hfits hlength
  obtain ⟨ifList, hsame, hloop⟩ :=
    @handleHwEntries_interfaces junk _ vs hnames 0 hentries []
  refine ⟨ifList, ((6 * vs.length : ℕ) : ℤ), ?_, hsame⟩
  simp only [srHandleHwinfo, ntohl_load32_of_holds hlength, numEntries_eq hfits, Int.toNat_natCast,
    hloop, List.nil_append]

end NatRouter
