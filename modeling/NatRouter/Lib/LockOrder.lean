import Mathlib.Algebra.BigOperators.Group.Finset.Basic
import Mathlib.Algebra.Order.BigOperators.Group.Finset
import Mathlib.Data.Fintype.Basic
import Mathlib.Data.Finset.Max
import Mathlib.Logic.Relation
import Mathlib.Tactic.Common

/-!
# Locks that are taken in order

Threads that take and release recursive locks: what is left of a thread is a list of actions, and a lock
can be taken unless another thread holds it.

If every thread takes the locks that it does not hold yet in the order of a rank (`Ordered`), then there
is no deadlock: in every state that is reached (`LockInv.steps`), a thread can go on unless all have ended
(`LockInv.progress`), and so all threads come to their ends (`LockInv.ends`).  The argument is that of a
thread which waits for a lock of the highest rank: the thread that holds this lock waits for none of a
lower one.

What is written as critical sections, one in the other and one after the other (`Sections`), keeps to the
order if each section is of a lock that does not come before those around it (`Sections.ordered`).
-/

namespace LockOrder

open Relation

/-- What a thread does with a lock. -/
inductive LockAction (L : Type) where
  /-- It takes it. -/
  | acquire (l : L)
  /-- It gives it back. -/
  | release (l : L)

/-- A thread: what is left to do, and how often it holds each lock. -/
structure LockThread (L : Type) where
  /-- What is left. -/
  todo : List (LockAction L)
  /-- How often each lock is held. -/
  held : L → ℕ

variable {L ι : Type} [DecidableEq L] [DecidableEq ι]

/-- One step of a thread. -/
inductive LockStep : (ι → LockThread L) → (ι → LockThread L) → Prop
  /-- A lock is taken that no other thread holds. -/
  | acquire {c : ι → LockThread L} {i : ι} {l : L} {rest : List (LockAction L)}
      (htodo : (c i).todo = .acquire l :: rest) (hfree : ∀ j, j ≠ i → (c j).held l = 0) :
      LockStep c (Function.update c i
        ⟨rest, Function.update (c i).held l ((c i).held l + 1)⟩)
  /-- A lock is given back. -/
  | release {c : ι → LockThread L} {i : ι} {l : L} {rest : List (LockAction L)}
      (htodo : (c i).todo = .release l :: rest) (hheld : 0 < (c i).held l) :
      LockStep c (Function.update c i
        ⟨rest, Function.update (c i).held l ((c i).held l - 1)⟩)

/-- What a thread that holds locks may do: it takes a lock that it does not hold only if it is of a
higher rank than all that it holds, gives back what it holds, and holds nothing in the end. -/
def Ordered (rank : L → ℕ) : List (LockAction L) → (L → ℕ) → Prop
  | [], held => ∀ l, held l = 0
  | .acquire l :: rest, held =>
    (held l = 0 → ∀ l', held l' ≠ 0 → rank l' < rank l) ∧
      Ordered rank rest (Function.update held l (held l + 1))
  | .release l :: rest, held =>
    0 < held l ∧ Ordered rank rest (Function.update held l (held l - 1))

/-- All threads keep to the order, and no lock is held by two of them. -/
structure LockInv (rank : L → ℕ) (c : ι → LockThread L) : Prop where
  /-- The threads keep to the order. -/
  ordered : ∀ i, Ordered rank (c i).todo (c i).held
  /-- No lock is held twice. -/
  exclusive : ∀ i j l, (c i).held l ≠ 0 → (c j).held l ≠ 0 → i = j

variable {rank : L → ℕ} {c c' : ι → LockThread L}

omit [DecidableEq ι] in
/-- The start: no lock is held. -/
lemma LockInv.initial {todo : ι → List (LockAction L)} (h : ∀ i, Ordered rank (todo i) fun _ => 0) :
    LockInv rank fun i => ⟨todo i, fun _ => 0⟩ :=
  ⟨h, fun _ _ _ hheld => absurd rfl hheld⟩

/-- What is held after a lock was taken was held before, or it is that lock. -/
lemma held_of_update {i j : ι} {l l' : L} {rest : List (LockAction L)} {n : ℕ}
    (h : (Function.update c i ⟨rest, Function.update (c i).held l n⟩ j).held l' ≠ 0) :
    j = i ∧ l' = l ∧ n ≠ 0 ∨ (c j).held l' ≠ 0 := by
  by_cases hj : j = i
  · subst hj
    rw [Function.update_self] at h
    dsimp only at h
    by_cases hl : l' = l
    · subst hl
      rw [Function.update_self] at h
      exact .inl ⟨rfl, rfl, h⟩
    · rw [Function.update_of_ne hl] at h
      exact .inr h
  · rw [Function.update_of_ne hj] at h
    exact .inr h

/-- A thread that goes on keeps to the order. -/
lemma LockInv.ordered_update (h : LockInv rank c) {i : ι} {t : LockThread L}
    (ht : Ordered rank t.todo t.held) (j : ι) :
    Ordered rank (Function.update c i t j).todo (Function.update c i t j).held := by
  by_cases hj : j = i
  · subst hj
    rw [Function.update_self]
    exact ht
  · rw [Function.update_of_ne hj]
    exact h.ordered j

/-- A step keeps the invariant. -/
lemma LockInv.step (h : LockInv rank c) (hstep : LockStep c c') : LockInv rank c' := by
  cases hstep with
  | @acquire i l rest htodo hfree =>
    have hordered := h.ordered i
    rw [htodo] at hordered
    -- the lock is held by nobody else
    have honly : ∀ j, (c j).held l ≠ 0 → j = i := fun j hheld =>
      by_contra fun hj => hheld (hfree j hj)
    refine ⟨h.ordered_update hordered.2, fun j k l' hj hk => ?_⟩
    rcases held_of_update hj with ⟨rfl, rfl, -⟩ | hold
    · rcases held_of_update hk with ⟨rfl, -, -⟩ | hold'
      · rfl
      · exact (honly k hold').symm
    · rcases held_of_update hk with ⟨rfl, rfl, -⟩ | hold'
      · exact honly j hold
      · exact h.exclusive j k l' hold hold'
  | @release i l rest htodo hheld =>
    have hordered := h.ordered i
    rw [htodo] at hordered
    have hbefore : ∀ j l', (Function.update c i
        ⟨rest, Function.update (c i).held l ((c i).held l - 1)⟩ j).held l' ≠ 0 →
        (c j).held l' ≠ 0 := by
      intro j l' hj
      rcases held_of_update hj with ⟨rfl, rfl, -⟩ | hold
      · exact Nat.ne_zero_of_lt hheld
      · exact hold
    exact ⟨h.ordered_update hordered.2, fun j k l' hj hk =>
      h.exclusive j k l' (hbefore j l' hj) (hbefore k l' hk)⟩

/-! ### Progress -/

/-- A thread waits for a lock that another one holds. -/
def Waits (c : ι → LockThread L) (i : ι) (l : L) : Prop :=
  (∃ rest, (c i).todo = .acquire l :: rest) ∧ ∃ j, j ≠ i ∧ (c j).held l ≠ 0

/-- If nobody can go on, all that have not ended wait. -/
lemma LockInv.waits_of_stuck (h : LockInv rank c) (hstuck : ¬ ∃ c', LockStep c c') {i : ι}
    (hi : (c i).todo ≠ []) : ∃ l, Waits c i l := by
  obtain ⟨action, rest, htodo⟩ := List.exists_cons_of_ne_nil hi
  cases action with
  | acquire l =>
    refine ⟨l, ⟨rest, htodo⟩, by_contra fun hnone => hstuck ⟨_, .acquire htodo fun j hj => ?_⟩⟩
    exact by_contra fun hheld => hnone ⟨j, hj, hheld⟩
  | release l =>
    have hordered := h.ordered i
    rw [htodo] at hordered
    exact absurd ⟨_, .release htodo hordered.1⟩ hstuck

/-- Then the thread that holds a lock waits for one of a higher rank. -/
lemma LockInv.waits_higher (h : LockInv rank c) (hstuck : ¬ ∃ c', LockStep c c') {i : ι} {l : L}
    (hwaits : Waits c i l) : ∃ j l', Waits c j l' ∧ rank l < rank l' := by
  obtain ⟨-, j, -, hheld⟩ := hwaits
  have hordered := h.ordered j
  have hj : (c j).todo ≠ [] := by
    intro hnil
    rw [hnil] at hordered
    exact hheld (hordered l)
  obtain ⟨l', ⟨rest, htodo⟩, k, hk, hheld'⟩ := h.waits_of_stuck hstuck hj
  rw [htodo] at hordered
  -- it does not hold what it waits for, for another thread does
  have hfree : (c j).held l' = 0 := by_contra fun hown => hk (h.exclusive k j l' hheld' hown)
  exact ⟨j, l', ⟨⟨rest, htodo⟩, k, hk, hheld'⟩, hordered.1 hfree l hheld⟩

/-- The rank of the lock that is next for a thread. -/
def nextRank (rank : L → ℕ) (t : LockThread L) : ℕ :=
  match t.todo with
  | .acquire l :: _ => rank l
  | _ => 0

/-- **There is no deadlock**: unless all threads have ended, one of them can go on. -/
theorem LockInv.progress [Fintype ι] (h : LockInv rank c) {i : ι} (hi : (c i).todo ≠ []) :
    ∃ c', LockStep c c' := by
  classical
  by_contra hstuck
  have hrank : ∀ {j l}, Waits c j l → nextRank rank (c j) = rank l := by
    rintro j l ⟨⟨rest, htodo⟩, -⟩
    rw [nextRank, htodo]
  obtain ⟨l, hwaits⟩ := h.waits_of_stuck hstuck hi
  -- a thread that waits for a lock of the highest rank
  obtain ⟨m, hm, hmax⟩ := (Finset.univ.filter fun j => ∃ l, Waits c j l).exists_max_image
    (fun j => nextRank rank (c j)) ⟨i, by simpa using ⟨l, hwaits⟩⟩
  obtain ⟨l', hwaits'⟩ := (Finset.mem_filter.mp hm).2
  obtain ⟨k, l'', hwaits'', hlt⟩ := h.waits_higher hstuck hwaits'
  have hle := hmax k (by simpa using ⟨l'', hwaits''⟩)
  rw [hrank hwaits', hrank hwaits''] at hle
  exact Nat.not_lt.mpr hle hlt

/-- The invariant holds in every state that is reached. -/
lemma LockInv.steps (h : LockInv rank c) (hsteps : ReflTransGen LockStep c c') : LockInv rank c' := by
  induction hsteps with
  | refl => exact h
  | tail _ hstep ih => exact ih.step hstep

/-- How many actions are left. -/
def actionsLeft [Fintype ι] (c : ι → LockThread L) : ℕ := ∑ i, (c i).todo.length

/-- A step is one of them. -/
lemma LockStep.actionsLeft_lt [Fintype ι] (hstep : LockStep c c') : actionsLeft c' < actionsLeft c := by
  -- one list gets shorter, and the others stay
  have hshorter : ∀ (i : ι) (t : LockThread L), t.todo.length < (c i).todo.length →
      actionsLeft (Function.update c i t) < actionsLeft c := by
    intro i t hlt
    apply Finset.sum_lt_sum
    · intro j _
      by_cases hj : j = i
      · subst hj
        rw [Function.update_self]
        exact hlt.le
      · rw [Function.update_of_ne hj]
    · exact ⟨i, Finset.mem_univ i, by rwa [Function.update_self]⟩
  cases hstep with
  | acquire htodo _ => exact hshorter _ _ (by rw [htodo]; exact Nat.lt_succ_self _)
  | release htodo _ => exact hshorter _ _ (by rw [htodo]; exact Nat.lt_succ_self _)

/-- **All threads come to their ends**, and then no lock is held. -/
theorem LockInv.ends [Fintype ι] (h : LockInv rank c) :
    ∃ c', ReflTransGen LockStep c c' ∧ ∀ i, (c' i).todo = [] ∧ ∀ l, (c' i).held l = 0 := by
  induction hn : actionsLeft c using Nat.strongRecOn generalizing c with
  | _ n ih =>
    by_cases hdone : ∀ i, (c i).todo = []
    · refine ⟨c, .refl, fun i => ⟨hdone i, ?_⟩⟩
      have hordered := h.ordered i
      rw [hdone i] at hordered
      exact hordered
    · obtain ⟨i, hi⟩ := not_forall.mp hdone
      obtain ⟨c₁, hstep⟩ := h.progress hi
      obtain ⟨c', hsteps, hends⟩ := ih _ (hn ▸ hstep.actionsLeft_lt) (h.step hstep) rfl
      exact ⟨c', .head hstep hsteps, hends⟩

/-! ### Critical sections -/

/-- A critical section. -/
def critical (l : L) (inside : List (LockAction L)) : List (LockAction L) :=
  .acquire l :: (inside ++ [.release l])

/-- Critical sections of locks of rank `n` or higher, with sections in them of locks of no lower rank
than the one around. -/
inductive Sections (rank : L → ℕ) : ℕ → List (LockAction L) → Prop
  /-- No section. -/
  | nil (n : ℕ) : Sections rank n []
  /-- A section, and what comes after it. -/
  | critical {n : ℕ} {l : L} {inside rest : List (LockAction L)} (hrank : n ≤ rank l)
      (hinside : Sections rank (rank l) inside) (hrest : Sections rank n rest) :
      Sections rank n (critical l inside ++ rest)

/-- Work of a kind, done again and again. -/
inductive Repeated (P : List (LockAction L) → Prop) : List (LockAction L) → Prop
  /-- None. -/
  | nil : Repeated P []
  /-- Once, and then again and again. -/
  | next {work rest : List (LockAction L)} (hwork : P work) (hrest : Repeated P rest) :
      Repeated P (work ++ rest)

namespace Sections

variable {n m : ℕ} {l : L} {actions actions' : List (LockAction L)}

omit [DecidableEq L] in
/-- One section. -/
lemma single (hrank : n ≤ rank l) (hinside : Sections rank (rank l) actions) :
    Sections rank n (LockOrder.critical l actions) := by
  rw [← List.append_nil (LockOrder.critical l actions)]
  exact .critical hrank hinside (.nil n)

omit [DecidableEq L] in
/-- A lower bound is one as well. -/
lemma mono (h : Sections rank n actions) (hle : m ≤ n) : Sections rank m actions := by
  induction h with
  | nil => exact .nil m
  | critical hrank hinside _ _ ih => exact .critical (Nat.le_trans hle hrank) hinside (ih hle)

omit [DecidableEq L] in
/-- Sections one after the other. -/
lemma append (h : Sections rank n actions) (h' : Sections rank n actions') :
    Sections rank n (actions ++ actions') := by
  induction h with
  | nil => exact h'
  | critical hrank hinside _ _ ih =>
    rw [List.append_assoc]
    exact .critical hrank hinside (ih h')

omit [DecidableEq L] in
/-- Sections for each member of a list. -/
lemma flatMap {α : Type} {f : α → List (LockAction L)} {as : List α}
    (h : ∀ a ∈ as, Sections rank n (f a)) : Sections rank n (as.flatMap f) := by
  induction as with
  | nil => exact .nil n
  | cons a as ih =>
    rw [List.flatMap_cons]
    exact (h a List.mem_cons_self).append (ih fun b hb => h b (List.mem_cons_of_mem a hb))

omit [DecidableEq L] in
/-- Work of a kind, done again and again. -/
lemma repeated {P : List (LockAction L) → Prop} (hP : ∀ {actions}, P actions → Sections rank n actions)
    (h : Repeated P actions) : Sections rank n actions := by
  induction h with
  | nil => exact .nil n
  | next hwork _ ih => exact (hP hwork).append ih

/-- They can be gone through by a thread that holds locks of no higher rank. -/
lemma ordered_append (hinj : Function.Injective rank) (h : Sections rank n actions)
    {held : L → ℕ} (hheld : ∀ l, held l ≠ 0 → rank l ≤ n) {rest : List (LockAction L)}
    (hrest : Ordered rank rest held) : Ordered rank (actions ++ rest) held := by
  induction h generalizing held rest with
  | nil => exact hrest
  | @critical n l inside after hrank _ _ ihinside ihrest =>
    rw [LockOrder.critical, List.append_assoc, List.cons_append, List.append_assoc]
    refine ⟨fun hfree l' hheld' => ?_, ihinside (fun l' hheld' => ?_) ⟨?_, ?_⟩⟩
    · -- a lock that is held already is another one
      apply Nat.lt_of_le_of_ne (Nat.le_trans (hheld l' hheld') hrank)
      intro heq
      rw [hinj heq] at hheld'
      exact hheld' hfree
    · by_cases hl : l' = l
      · rw [hl]
      · rw [Function.update_of_ne hl] at hheld'
        exact Nat.le_trans (hheld l' hheld') hrank
    · rw [Function.update_self]
      exact Nat.succ_pos _
    · rw [Function.update_idem, Function.update_self, Nat.add_sub_cancel, Function.update_eq_self]
      exact ihrest hheld hrest

/-- So a thread that does no more keeps to the order. -/
lemma ordered (hinj : Function.Injective rank) (h : Sections rank n actions) :
    Ordered rank actions fun _ => 0 := by
  rw [← List.append_nil actions]
  exact h.ordered_append hinj (fun l hl => absurd rfl hl) fun _ => rfl

end Sections

end LockOrder
