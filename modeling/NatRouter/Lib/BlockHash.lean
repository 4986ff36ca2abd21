import Mathlib.Data.List.Basic
import Mathlib.Data.List.Induction
import Mathlib.Tactic.Common

/-!
# Iterated hashing

A hash function of the Merkle–Damgård kind cuts a padded message into blocks of `n` elements and folds
a compression function over them.  An implementation does not have the message at once: it takes in
one element after the other and compresses whenever a block is full.  `Absorbed` says what it has then
computed, whatever the pieces were that the message came in.

Of two different lists of blocks with the same hash value, one is the end of the other or there is a
collision of the compression function (`exists_collision_or_suffix`).  So a padding under which no
padded message is the end of another one leaves only the collision.
-/

namespace BlockHash

variable {α σ β : Type*}

/-! ### Blocks -/

/-- The blocks of `n` elements that a list is cut into; what is left at the end is in no block. -/
def blocks (n : ℕ) (l : List α) : List (List α) :=
  (List.range (l.length / n)).map fun i => (l.drop (n * i)).take n

/-- The blocks of a list that is put together from blocks, and a rest that is none. -/
lemma blocks_flatten_append {n : ℕ} {bs : List (List α)} (hbs : ∀ b ∈ bs, b.length = n)
    {rest : List α} (hrest : rest.length < n) : blocks n (bs.flatten ++ rest) = bs := by
  induction bs with
  | nil => simp [blocks, Nat.div_eq_of_lt hrest]
  | cons b bs ih =>
    have hb : b.length = n := hbs b List.mem_cons_self
    have hpos : 0 < n := Nat.zero_lt_of_lt hrest
    have hcount : ((b :: bs).flatten ++ rest).length / n =
        (bs.flatten ++ rest).length / n + 1 := by
      rw [List.flatten_cons, List.append_assoc, List.length_append, hb, Nat.add_comm,
        Nat.add_div_right _ hpos]
    unfold blocks at ih ⊢
    rw [hcount, List.range_succ_eq_map, List.map_cons, List.map_map, List.flatten_cons,
      List.append_assoc]
    congr 1
    · rw [Nat.mul_zero, List.drop_zero, List.take_left' hb]
    · refine Eq.trans (List.map_congr_left fun i _ => ?_)
        (ih fun b' hb' => hbs b' (List.mem_cons_of_mem b hb'))
      have hdrop : n * (i + 1) = b.length + n * i := by rw [hb, Nat.mul_succ, Nat.add_comm]
      rw [Function.comp_apply, Nat.succ_eq_add_one, hdrop, List.drop_append, List.drop_of_length_le
        (Nat.le_add_right _ _), Nat.add_sub_cancel_left, List.nil_append]

/-- The blocks of a list that is put together from blocks. -/
lemma blocks_flatten {n : ℕ} (hn : 0 < n) {bs : List (List α)} (hbs : ∀ b ∈ bs, b.length = n) :
    blocks n bs.flatten = bs := by
  have h := @blocks_flatten_append α n bs hbs [] hn
  rwa [List.append_nil] at h

/-- A list whose length is a multiple of that of a block is put together from blocks. -/
lemma exists_flatten_eq {n : ℕ} {l : List α} (hl : n ∣ l.length) :
    ∃ bs : List (List α), bs.flatten = l ∧ ∀ b ∈ bs, b.length = n := by
  obtain ⟨k, hk⟩ := hl
  induction k generalizing l with
  | zero =>
    rw [List.length_eq_zero_iff.mp hk]
    exact ⟨[], rfl, fun b hb => absurd hb List.not_mem_nil⟩
  | succ k ih =>
    have hle : n ≤ l.length := by
      rw [hk, Nat.mul_succ]
      exact Nat.le_add_left _ _
    have hrest : (l.drop n).length = n * k := by
      rw [List.length_drop, hk, Nat.mul_succ, Nat.add_sub_cancel]
    obtain ⟨bs, hflatten, hbs⟩ := ih hrest
    refine ⟨l.take n :: bs, ?_, ?_⟩
    · rw [List.flatten_cons, hflatten, List.take_append_drop]
    · intro b hb
      rcases List.mem_cons.mp hb with rfl | hb
      · exact List.length_take_of_le hle
      · exact hbs b hb

/-! ### Taking in a message -/

section Absorb

variable {compress : σ → List α → σ} {n : ℕ} {init s : σ} {msg rest : List α}

/-- After `msg` has been taken in, the blocks that were full have been compressed into `s`, and `rest`
waits for more. -/
def Absorbed (compress : σ → List α → σ) (n : ℕ) (init : σ) (msg : List α) (s : σ)
    (rest : List α) : Prop :=
  ∃ bs : List (List α), msg = bs.flatten ++ rest ∧ (∀ b ∈ bs, b.length = n) ∧
    rest.length < n ∧ s = bs.foldl compress init

namespace Absorbed

/-- To begin with nothing has been taken in. -/
lemma nil (hn : 0 < n) : Absorbed compress n init [] init [] :=
  ⟨[], rfl, fun _ hb => absurd hb List.not_mem_nil, hn, rfl⟩

/-- Elements wait until there is a block. -/
lemma wait (h : Absorbed compress n init msg s rest) {more : List α}
    (hmore : (rest ++ more).length < n) :
    Absorbed compress n init (msg ++ more) s (rest ++ more) := by
  obtain ⟨bs, rfl, hbs, -, rfl⟩ := h
  exact ⟨bs, List.append_assoc _ _ _, hbs, hmore, rfl⟩

/-- A block that is full is compressed. -/
lemma compressed (h : Absorbed compress n init msg s rest) {more : List α}
    (hmore : (rest ++ more).length = n) :
    Absorbed compress n init (msg ++ more) (compress s (rest ++ more)) [] := by
  obtain ⟨bs, rfl, hbs, hrest, rfl⟩ := h
  refine ⟨bs ++ [rest ++ more], ?_, ?_, Nat.zero_lt_of_lt hrest, ?_⟩
  · simp
  · intro b hb
    rcases List.mem_append.mp hb with hb | hb
    · exact hbs b hb
    · rw [List.mem_singleton.mp hb, hmore]
  · rw [List.foldl_concat]

/-- The rest is as long as what is over when the message is cut into blocks. -/
lemma length_rest (h : Absorbed compress n init msg s rest) : rest.length = msg.length % n := by
  obtain ⟨bs, rfl, hbs, hrest, -⟩ := h
  have hlength : bs.flatten.length = n * bs.length := by
    induction bs with
    | nil => rfl
    | cons b bs ih =>
      rw [List.flatten_cons, List.length_append, List.length_cons, hbs b List.mem_cons_self,
        ih fun b' hb' => hbs b' (List.mem_cons_of_mem b hb'), Nat.mul_succ, Nat.add_comm]
  rw [List.length_append, hlength, Nat.mul_add_mod, Nat.mod_eq_of_lt hrest]

/-- **When nothing is left over** the blocks of the message have been compressed, one after the
other. -/
lemma eq_foldl (h : Absorbed compress n init msg s []) : s = (blocks n msg).foldl compress init := by
  obtain ⟨bs, rfl, hbs, hrest, rfl⟩ := h
  rw [blocks_flatten_append hbs hrest]

end Absorbed

end Absorb

/-! ### Collisions -/

/-- Two different inputs on which a compression function agrees, met when `bs` are compressed from `s`
and `bs'` from `s'`: each is a chaining value on the way with the block that comes next, and the blocks
behind are the same. -/
structure Collision (f : σ → β → σ) (s s' : σ) (bs bs' : List β) where
  /-- The blocks in front. -/
  front : List β
  /-- A block. -/
  b : β
  /-- The other blocks in front. -/
  front' : List β
  /-- The other block. -/
  b' : β
  /-- The blocks behind. -/
  rest : List β
  /-- The first list. -/
  left : bs = front ++ b :: rest
  /-- The other one. -/
  right : bs' = front' ++ b' :: rest
  /-- They are not the same inputs. -/
  ne : (front.foldl f s, b) ≠ (front'.foldl f s', b')
  /-- They have the same result. -/
  eq : f (front.foldl f s) b = f (front'.foldl f s') b'

section Collision

variable {f : σ → β → σ} {s s' : σ} {bs bs' : List β}

/-- The block is in the list. -/
lemma Collision.mem_left (c : Collision f s s' bs bs') : c.b ∈ bs :=
  (congrArg (c.b ∈ ·) c.left).mpr (List.mem_append_right c.front List.mem_cons_self)

/-- The other block is in the other list. -/
lemma Collision.mem_right (c : Collision f s s' bs bs') : c.b' ∈ bs' :=
  (congrArg (c.b' ∈ ·) c.right).mpr (List.mem_append_right c.front' List.mem_cons_self)

/-- Blocks behind leave a collision one. -/
def Collision.concat (c : Collision f s s' bs bs') (b : β) :
    Collision f s s' (bs ++ [b]) (bs' ++ [b]) where
  front := c.front
  b := c.b
  front' := c.front'
  b' := c.b'
  rest := c.rest ++ [b]
  left := (congrArg (· ++ [b]) c.left).trans (List.append_assoc _ _ _)
  right := (congrArg (· ++ [b]) c.right).trans (List.append_assoc _ _ _)
  ne := c.ne
  eq := c.eq

/-- **Two lists of blocks with the same value**: one is the end of the other, or somewhere on the way
back from the common value two different inputs were compressed to the same value. -/
theorem exists_collision_or_suffix (h : bs.foldl f s = bs'.foldl f s') :
    Nonempty (Collision f s s' bs bs') ∨ bs <:+ bs' ∨ bs' <:+ bs := by
  induction bs using List.reverseRecOn generalizing bs' with
  | nil => exact .inr (.inl (List.nil_suffix))
  | append_singleton bs b ih =>
    rcases List.eq_nil_or_concat' bs' with rfl | ⟨bs', b', rfl⟩
    · exact .inr (.inr List.nil_suffix)
    · rw [List.foldl_concat, List.foldl_concat] at h
      by_cases heq : (bs.foldl f s, b) = (bs'.foldl f s', b')
      · obtain ⟨hchain, rfl⟩ := Prod.mk.inj heq
        rcases ih hchain with ⟨⟨c⟩⟩ | hsuffix | hsuffix
        · exact .inl ⟨c.concat b⟩
        · exact .inr (.inl (List.suffix_append_self_iff.mpr hsuffix))
        · exact .inr (.inr (List.suffix_append_self_iff.mpr hsuffix))
      · exact .inl ⟨⟨bs, b, bs', b', [], rfl, rfl, heq, h⟩⟩

end Collision

end BlockHash
