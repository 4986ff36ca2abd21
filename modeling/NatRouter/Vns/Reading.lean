import NatRouter.Lib.PartialReads
import NatRouter.Vns.Comm

/-!
# Reading a message from the connection

`sr_read_from_server_expect` reads the length of a message and then the rest of it, each in a loop
around `recv` or `read` that goes on until all bytes are there.  When the server has closed the
connection the calls return 0, which is neither an error nor progress.  So the function ends exactly
if the length and what it announces have been sent (`reading_ends_iff`), and then does what
`srReadFromServerExpect` says (`readFromServerExpect_refines`).
-/

namespace NatRouter

open ByteMemory PartialReads

/-- The length that is announced in the first word of a stream. -/
def announcedLen (stream : List UInt8) : ℤ := (ntohl (load32 (ofBytes stream) 0)).toBitVec.toInt

/-- The rest of `sr_read_from_server_expect`, when the message has been read. -/
def dispatchMessage (cfg : NetConfig) (expectedCmd : UInt32) (behind : ByteMem) (len : ℤ)
    (body : List UInt8) : ServerAction :=
  let buf := storeBlock behind 4 (ofBytes body) (len.toNat - 4)
  let buf := store32 buf 0 (htonl ⟨BitVec.ofInt 32 len⟩)
  let command := ntohl (load32 buf 4)
  let buf := store32 buf 4 command
  if expectedCmd ≠ 0 ∧ command ≠ expectedCmd ∧ command ≠ vnsClose then .failed
  else serverAction cfg buf len command

/-- `sr_read_from_server_expect` with its two loops, each run for `fuel` calls at most. -/
def readFromServerExpect (cfg : NetConfig) (expectedCmd : UInt32) (behind : ByteMem) (fuel : ℕ)
    (feed : List (Delivery UInt8)) : Option (ServerAction × List (Delivery UInt8)) :=
  match readLoop receive 4 fuel [] feed with
  | none => none
  | some (none, feed) => some (.failed, feed)
  | some (some word, feed) =>
    let len := announcedLen word
    if 10000 < len ∨ len < 0 then some (.failed, feed)
    else
      match readLoop receive (len.toNat - 4) fuel [] feed with
      | none => none
      | some (none, feed) => some (.failed, feed)
      | some (some body, feed) => some (dispatchMessage cfg expectedCmd behind len body, feed)

/-- The stream begins with a length, and with a whole message unless that is refused. -/
def HoldsMessage (stream : List UInt8) : Prop :=
  4 ≤ stream.length ∧ (10000 < announcedLen stream ∨ announcedLen stream ≤ stream.length)

variable {cfg : NetConfig} {expected : UInt32} {behind : ByteMem} {fuel : ℕ}
  {feed feed' : List (Delivery UInt8)} {action : ServerAction}

/-! ### The stream -/

/-- The announced length is in the first word. -/
lemma announcedLen_take (stream : List UInt8) :
    announcedLen (stream.take 4) = announcedLen stream := by
  have hword : load32 (ofBytes (stream.take 4)) 0 = load32 (ofBytes stream) 0 :=
    load32_congr fun j _ hj => ofBytes_take (by omega)
  rw [announcedLen, announcedLen, hword]

/-- What is done with a stream: nothing yet, or a length is refused, or the bytes behind the length
are dispatched. -/
lemma srReadFromServerExpect_eq (cfg : NetConfig) (expected : UInt32) (behind : ByteMem)
    (stream : List UInt8) : srReadFromServerExpect cfg expected behind stream =
      if stream.length < 4 then none
      else if 10000 < announcedLen stream ∨ announcedLen stream < 0 then
        some (.failed, stream.drop 4)
      else if (stream.length : ℤ) < announcedLen stream then none
      else some (dispatchMessage cfg expected behind (announcedLen stream)
        ((stream.drop 4).take ((announcedLen stream).toNat - 4)),
        stream.drop (max 4 (announcedLen stream).toNat)) := by
  have hbody : storeBlock behind 4 (fun j => ofBytes stream (4 + j))
    ((announcedLen stream).toNat - 4) =
      storeBlock behind 4 (ofBytes ((stream.drop 4).take ((announcedLen stream).toNat - 4)))
        ((announcedLen stream).toNat - 4) :=
    storeBlock_congr fun j hj => by rw [ofBytes_take hj, ofBytes_drop]
  unfold announcedLen at hbody ⊢
  unfold srReadFromServerExpect dispatchMessage
  dsimp only
  rw [hbody]
  split_ifs <;> rfl

/-! ### The two loops -/

/-- **What it does when it ends** is what the stream says, and there was a message. -/
theorem readFromServerExpect_refines
    (h : readFromServerExpect cfg expected behind fuel feed = some (action, feed')) :
    HoldsMessage (stream feed) ∧
      srReadFromServerExpect cfg expected behind (stream feed) = some (action, stream feed') := by
  unfold readFromServerExpect at h
  cases hword : readLoop receive 4 fuel [] feed with
  | none =>
    rw [hword] at h
    cases h
  | some r =>
    obtain ⟨word, feed₁⟩ := r
    obtain ⟨hlength, rfl, hstream, -⟩ := readLoop_eq_some hword
    simp only [hword, List.nil_append, List.length_nil, Nat.sub_zero, announcedLen_take] at h
    rw [List.length_nil, Nat.sub_zero] at hlength hstream
    rw [srReadFromServerExpect_eq, if_neg (by omega)]
    split_ifs at h with hrefused
    · cases h
      rw [if_pos hrefused, hstream]
      exact ⟨⟨hlength, by omega⟩, rfl⟩
    · set len := announcedLen (stream feed)
      cases hbody : readLoop receive (len.toNat - 4) fuel [] feed₁ with
      | none =>
        rw [hbody] at h
        cases h
      | some r =>
        obtain ⟨body, feed₂⟩ := r
        obtain ⟨hlength', rfl, hstream', -⟩ := readLoop_eq_some hbody
        simp only [hbody, List.nil_append, List.length_nil, Nat.sub_zero] at h
        rw [List.length_nil, Nat.sub_zero] at hlength' hstream'
        rw [hstream, List.length_drop] at hlength'
        cases h
        have hdrop : 4 + (len.toNat - 4) = max 4 len.toNat := by omega
        rw [if_neg hrefused, if_neg (by omega), hstream', hstream, List.drop_drop, hdrop]
        exact ⟨⟨hlength, by omega⟩, rfl⟩

/-- A message that is there is read. -/
lemma readFromServerExpect_ends (h : HoldsMessage (stream feed))
    (hfuel : 10000 + interrupts feed < fuel) :
    ∃ r, readFromServerExpect cfg expected behind fuel feed = some r := by
  obtain ⟨hlength, hmessage⟩ := h
  obtain ⟨word, feed₁, hword⟩ := @readLoop_ends _ feed 4 fuel [] (by rw [List.length_nil]; omega)
    hlength
  obtain ⟨-, rfl, hstream, hfewer⟩ := readLoop_eq_some hword
  rw [List.length_nil, Nat.sub_zero] at hstream
  unfold readFromServerExpect
  simp only [hword, List.nil_append, List.length_nil, Nat.sub_zero, announcedLen_take]
  split_ifs with hrefused
  · exact ⟨_, rfl⟩
  · set len := announcedLen (stream feed)
    have hleft : len.toNat - 4 - 0 ≤ (stream feed₁).length := by
      rw [hstream, List.length_drop]
      omega
    obtain ⟨body, feed₂, hbody⟩ :=
      @readLoop_ends _ feed₁ (len.toNat - 4) fuel [] (by rw [List.length_nil]; omega) hleft
    obtain ⟨-, rfl, -, -⟩ := readLoop_eq_some hbody
    rw [hbody]
    exact ⟨_, rfl⟩

/-- **Reading ends** if and only if the server has sent a message, or a length that is refused,
before it closed the connection. -/
theorem reading_ends_iff (cfg : NetConfig) (expected : UInt32) (behind : ByteMem)
    (feed : List (Delivery UInt8)) :
    (∃ fuel r, readFromServerExpect cfg expected behind fuel feed = some r) ↔
      HoldsMessage (stream feed) := by
  constructor
  · rintro ⟨fuel, ⟨action, feed'⟩, h⟩
    exact (readFromServerExpect_refines h).1
  · intro h
    obtain ⟨r, hr⟩ := @readFromServerExpect_ends cfg expected behind _ feed h (Nat.lt_succ_self _)
    exact ⟨_, r, hr⟩

/-- When the server closes the connection in the middle of a length, it is read for ever. -/
theorem reading_never_ends : stream [Delivery.chunk (0 : UInt8) [0]] = [0, 0] ∧
    ¬ ∃ fuel r, readFromServerExpect twoSided 0 (fun _ => 0) fuel [.chunk 0 [0]] = some r := by
  refine ⟨rfl, ?_⟩
  rintro ⟨fuel, ⟨action, feed'⟩, h⟩
  exact absurd (readFromServerExpect_refines h).1.1 (by decide)

end NatRouter
