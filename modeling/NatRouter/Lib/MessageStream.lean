import Mathlib.Data.List.Basic

/-!
# Messages on a stream

A stream between two parties carries, one behind the other, the encodings of the messages that have
been sent and not been taken off yet (`InTransit`).  Sending appends an encoding; taking off removes
the first one, and that is the message which was sent next.
-/

namespace MessageStream

variable {M β : Type} {enc : M → List β} {stream : List β} {sent : List M} {taken : ℕ}

/-- Of the messages sent, the first `taken` have been taken off the stream, and it carries the
others. -/
structure InTransit (enc : M → List β) (stream : List β) (sent : List M) (taken : ℕ) : Prop where
  /-- What is on the stream. -/
  stream_eq : stream = (sent.drop taken).flatMap enc
  /-- No more has been taken off than was sent. -/
  taken_le : taken ≤ sent.length

/-- Nothing has been sent. -/
lemma inTransit_nil : InTransit enc [] [] 0 := ⟨rfl, Nat.le_refl 0⟩

/-- A message is sent. -/
lemma InTransit.send (h : InTransit enc stream sent taken) (m : M) :
    InTransit enc (stream ++ enc m) (sent ++ [m]) taken where
  stream_eq := by
    rw [List.drop_append_of_le_length h.taken_le, List.flatMap_append, ← h.stream_eq,
      List.flatMap_singleton]
  taken_le := by
    rw [List.length_append]
    exact Nat.le_add_right_of_le h.taken_le

/-- Some messages are sent. -/
lemma InTransit.sendAll (h : InTransit enc stream sent taken) (ms : List M) :
    InTransit enc (stream ++ ms.flatMap enc) (sent ++ ms) taken where
  stream_eq := by
    rw [List.drop_append_of_le_length h.taken_le, List.flatMap_append, ← h.stream_eq]
  taken_le := by
    rw [List.length_append]
    exact Nat.le_add_right_of_le h.taken_le

/-- **The next message** is first on the stream, if there is one. -/
lemma InTransit.next (h : InTransit enc stream sent taken) {m : M} (hm : sent[taken]? = some m) :
    ∃ rest, stream = enc m ++ rest ∧ InTransit enc rest sent (taken + 1) := by
  obtain ⟨hlt, hget⟩ := List.getElem?_eq_some_iff.mp hm
  refine ⟨(sent.drop (taken + 1)).flatMap enc, ?_, rfl, hlt⟩
  rw [h.stream_eq, List.drop_eq_getElem_cons hlt, hget, List.flatMap_cons]

/-- All has been taken off, or there is a next message. -/
lemma InTransit.all_or_next (h : InTransit enc stream sent taken) :
    (stream = [] ∧ taken = sent.length) ∨ ∃ m, sent[taken]? = some m := by
  rcases Nat.lt_or_eq_of_le h.taken_le with hlt | heq
  · exact .inr ⟨_, List.getElem?_eq_getElem hlt⟩
  · refine .inl ⟨?_, heq⟩
    rw [h.stream_eq, heq, List.drop_length, List.flatMap_nil]

/-- An empty stream has been read to its end, if no encoding is empty. -/
lemma InTransit.taken_eq (h : InTransit enc [] sent taken) (henc : ∀ m ∈ sent, enc m ≠ []) :
    taken = sent.length := by
  rcases h.all_or_next with ⟨-, heq⟩ | ⟨m, hm⟩
  · exact heq
  · obtain ⟨rest, hrest, -⟩ := h.next hm
    exact absurd (List.append_eq_nil_iff.mp hrest.symm).1 (henc m (List.mem_of_getElem? hm))

end MessageStream
