import Mathlib.Data.List.Basic
import Mathlib.Tactic.Common

/-!
# Reading a number of elements in pieces

A connection hands over what it has in pieces: a call that asks for `n` elements gets at least one
and at most `n`, it may be interrupted, and when everything has been read it gets none (`receive`).
`readLoop` calls again until it has as many elements as it wants.

With enough to be read it ends (`readLoop_ends`), and then it has what it wanted from the front of
the stream (`readLoop_eq_some`).  With less it never does: at the end of the stream it gets nothing,
again and again.
-/

namespace PartialReads

variable {α : Type}

/-- What happens next on a connection. -/
inductive Delivery (α : Type) where
  /-- Some elements are there to be read. -/
  | chunk (first : α) (more : List α)
  /-- A call is interrupted. -/
  | interrupt

/-- What a call comes back with. -/
inductive Reply (α : Type) where
  /-- The elements read; none at the end of the stream. -/
  | data (read : List α)
  /-- It was interrupted. -/
  | interrupted
  /-- It failed. -/
  | failed

/-- Put back what is left of a piece. -/
def putBack : List α → List (Delivery α) → List (Delivery α)
  | [], feed => feed
  | first :: more, feed => .chunk first more :: feed

/-- A call that asks for `n` elements.  What it leaves of a piece is there for the next call. -/
def receive (n : ℕ) : List (Delivery α) → Reply α × List (Delivery α)
  | [] => (.data [], [])
  | .interrupt :: feed => (.interrupted, feed)
  | .chunk first more :: feed =>
    (.data ((first :: more).take n), putBack ((first :: more).drop n) feed)

/-- The loop that reads `want` elements, with those it `got` so far: an interrupted call is made
again, and nothing is returned by one that failed.  It is run for `fuel` calls at most. -/
def readLoop (call : ℕ → List (Delivery α) → Reply α × List (Delivery α)) (want : ℕ) :
    ℕ → List α → List (Delivery α) → Option (Option (List α) × List (Delivery α))
  | 0, _, _ => none
  | fuel + 1, got, feed =>
    if got.length < want then
      match call (want - got.length) feed with
      | (.data read, feed) => readLoop call want fuel (got ++ read) feed
      | (.interrupted, feed) => readLoop call want fuel got feed
      | (.failed, feed) => some (none, feed)
    else some (some got, feed)

/-- The elements that one delivery brings. -/
def Delivery.elements : Delivery α → List α
  | .chunk first more => first :: more
  | .interrupt => []

/-- The stream that is cut into the pieces. -/
def stream (feed : List (Delivery α)) : List α := feed.flatMap Delivery.elements

/-- How many calls are interrupted. -/
def interrupts : List (Delivery α) → ℕ
  | [] => 0
  | .chunk .. :: feed => interrupts feed
  | .interrupt :: feed => interrupts feed + 1

variable {feed feed' : List (Delivery α)} {n want fuel : ℕ} {got got' : List α}

/-! ### One call -/

/-- What is put back is in front of the stream. -/
lemma stream_putBack (l : List α) (feed : List (Delivery α)) :
    stream (putBack l feed) = l ++ stream feed := by
  cases l <;> rfl

/-- It interrupts nothing. -/
lemma interrupts_putBack (l : List α) (feed : List (Delivery α)) :
    interrupts (putBack l feed) = interrupts feed := by
  cases l <;> rfl

/-- **What a call does**: it is interrupted, or reads from the front of the stream, and something if
there is anything and it asks for it. -/
lemma receive_cases (n : ℕ) (feed : List (Delivery α)) :
    (∃ feed', receive n feed = (.interrupted, feed') ∧ stream feed' = stream feed ∧
        interrupts feed = interrupts feed' + 1) ∨
      ∃ read feed', receive n feed = (.data read, feed') ∧ stream feed = read ++ stream feed' ∧
        read.length ≤ n ∧ (read = [] → n = 0 ∨ stream feed = []) ∧
        interrupts feed' = interrupts feed := by
  rcases feed with _ | ⟨⟨first, more⟩ | _, feed⟩
  · exact .inr ⟨[], [], rfl, rfl, Nat.zero_le _, fun _ => .inr rfl, rfl⟩
  · right
    refine ⟨_, _, rfl, ?_, List.length_take_le n _, fun h => ?_, interrupts_putBack _ feed⟩
    · rw [stream_putBack, ← List.append_assoc, List.take_append_drop]
      rfl
    · rcases List.take_eq_nil_iff.mp h with hn | hnil
      · exact .inl hn
      · cases hnil
  · exact .inl ⟨feed, rfl, rfl, rfl⟩

/-! ### The loop -/

/-- The loop ends when it has enough. -/
lemma readLoop_done (h : want ≤ got.length) :
    readLoop receive want (fuel + 1) got feed = some (some got, feed) := by
  rw [readLoop, if_neg (Nat.not_lt.mpr h)]

/-- **What the loop has when it ends** is the front of the stream, of the length that was wanted. -/
theorem readLoop_eq_some {r : Option (List α)}
    (h : readLoop receive want fuel got feed = some (r, feed')) :
    want - got.length ≤ (stream feed).length ∧
      r = some (got ++ (stream feed).take (want - got.length)) ∧
      stream feed' = (stream feed).drop (want - got.length) ∧
      interrupts feed' ≤ interrupts feed := by
  induction fuel generalizing got feed with
  | zero => cases h
  | succ fuel ih =>
    by_cases hwant : got.length < want
    · rw [readLoop, if_pos hwant] at h
      rcases receive_cases (want - got.length) feed with
        ⟨feed₁, hcall, hstream, hcount⟩ | ⟨read, feed₁, hcall, hstream, hle, -, hcount⟩
      · -- the call is made again
        rw [hcall] at h
        obtain ⟨hlength, hr, hleft, hfewer⟩ := ih h
        rw [← hstream]
        exact ⟨hlength, hr, hleft, by omega⟩
      · rw [hcall] at h
        obtain ⟨hlength, hr, hleft, hfewer⟩ := ih h
        have hneed : want - (got ++ read).length = want - got.length - read.length := by
          rw [List.length_append]
          omega
        rw [hneed] at hlength hr hleft
        refine ⟨?_, ?_, ?_, by omega⟩
        · rw [hstream, List.length_append]
          omega
        · rw [hr, hstream, List.take_append, List.take_of_length_le hle, List.append_assoc]
        · rw [hleft, hstream, List.drop_append, List.drop_of_length_le hle, List.nil_append]
    · have hzero : want - got.length = 0 := by omega
      rw [readLoop_done (by omega)] at h
      cases h
      rw [hzero]
      exact ⟨Nat.zero_le _, by rw [List.take_zero, List.append_nil], by rw [List.drop_zero],
        Nat.le_refl _⟩

/-- **With enough to be read it ends**: every call that is not interrupted reads something. -/
theorem readLoop_ends (hfuel : want - got.length + interrupts feed < fuel)
    (h : want - got.length ≤ (stream feed).length) :
    ∃ r feed', readLoop receive want fuel got feed = some (r, feed') := by
  induction fuel generalizing got feed with
  | zero => omega
  | succ fuel ih =>
    by_cases hwant : got.length < want
    · rw [readLoop, if_pos hwant]
      rcases receive_cases (want - got.length) feed with
        ⟨feed₁, hcall, hstream, hcount⟩ | ⟨read, feed₁, hcall, hstream, hle, hnil, hcount⟩
      · rw [hcall]
        exact ih (by omega) (by rw [hstream]; exact h)
      · rw [hcall]
        have hsome : 0 < read.length := by
          rw [List.length_pos_iff]
          intro hempty
          rcases hnil hempty with hzero | hend
          · omega
          · rw [hend, List.length_nil] at h
            omega
        rw [hstream, List.length_append] at h
        refine ih ?_ ?_
        · rw [List.length_append]
          omega
        · rw [List.length_append]
          omega
    · exact ⟨_, _, readLoop_done (by omega)⟩

end PartialReads
