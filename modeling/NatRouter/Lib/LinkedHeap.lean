import Mathlib.Data.List.Nodup
import Mathlib.Logic.Function.Basic
import Mathlib.Tactic.Common

/-!
# Singly linked lists in a heap

A list of C nodes, each with a content and a `next` pointer, in a memory in which a freed node
cannot be read any more.  `Linked h a l` says that the nodes reached from the pointer `a` have the
addresses and contents `l`.

Two loops over such lists are modelled as C programs write them, with a dummy node before the head
so that the pointer to the current node always has a predecessor.  `removeLoop` visits the nodes in
order and unlinks and frees some; whatever nodes it removes, what is left is the list that remains
(`removeLoop_linked`).  `findLoop` stops at the first node that passes a test, or at the last one,
behind which `append` puts a new node (`append_linked`).  Without a dummy node, `walk` looks for a
node and its predecessor, which may be null, and `unlink` takes the node off the list
(`unlink_linked`).

The loops get fuel, and `Stop.running` says that it was not enough: a list of `n` nodes needs
`n + 1`.
-/

namespace LinkedHeap

/-- A node of a list. -/
structure Cell (ι α : Type) where
  /-- Its content. -/
  val : α
  /-- The pointer to the next node, null in the last one. -/
  next : Option ι

/-- A memory for nodes.  An address that is not allocated, or was freed, has none. -/
abbrev Heap (ι α : Type) := ι → Option (Cell ι α)

/-- Why a computation has no result. -/
inductive Stop (ε : Type) where
  /-- A node is accessed that is not allocated. -/
  | freed
  /-- An error of another kind. -/
  | fault (e : ε)
  /-- It has not come to an end yet. -/
  | running
  deriving DecidableEq

variable {ι α σ ε : Type}

/-! ### Lists -/

/-- The nodes reached from the pointer `a` have the addresses and contents `l`, and the last one of
them is the last of the list. -/
def Linked (h : Heap ι α) : Option ι → List (ι × α) → Prop
  | a, [] => a = none
  | a, (i, x) :: l => a = some i ∧ ∃ n, h i = some ⟨x, n⟩ ∧ Linked h n l

/-- The addresses of the nodes of a list. -/
def addrs (l : List (ι × α)) : List ι := l.map Prod.fst

@[simp] lemma addrs_cons (x : ι × α) (l : List (ι × α)) : addrs (x :: l) = x.1 :: addrs l := rfl

namespace Linked

variable {h h' : Heap ι α} {a : Option ι} {l l' : List (ι × α)}

/-- From one pointer one list is reached. -/
lemma unique (hl : Linked h a l) (hl' : Linked h a l') : l = l' := by
  induction l generalizing a l' with
  | nil =>
    obtain rfl : a = none := hl
    cases l' with
    | nil => rfl
    | cons x l' => exact absurd hl'.1 (Option.some_ne_none _).symm
  | cons x l ih =>
    obtain ⟨rfl, n, hx, hl⟩ := hl
    cases l' with
    | nil => exact absurd hl' (Option.some_ne_none _)
    | cons y l' =>
      obtain ⟨hxy, n', hy, hl'⟩ := hl'
      obtain ⟨i, v⟩ := x
      obtain ⟨j, w⟩ := y
      obtain rfl : i = j := Option.some.inj hxy
      obtain ⟨rfl, rfl⟩ := Cell.mk.inj (Option.some.inj (hx.symm.trans hy))
      rw [ih hl hl']

/-- The nodes of a list are allocated. -/
lemma allocated (hl : Linked h a l) {i : ι} (hi : i ∈ addrs l) : ∃ c, h i = some c := by
  induction l generalizing a with
  | nil => cases hi
  | cons x l ih =>
    obtain ⟨-, n, hx, hl⟩ := hl
    rcases List.mem_cons.mp hi with rfl | hi
    · exact ⟨_, hx⟩
    · exact ih hl hi

/-- A node on a list is the head of what follows. -/
lemma exists_suffix (hl : Linked h a l) {i : ι} (hi : i ∈ addrs l) :
    ∃ l', Linked h (some i) l' ∧ l'.length ≤ l.length := by
  induction l generalizing a with
  | nil => cases hi
  | cons x l ih =>
    obtain ⟨rfl, n, hx, hrest⟩ := hl
    rcases List.mem_cons.mp hi with rfl | hi
    · exact ⟨x :: l, ⟨rfl, n, hx, hrest⟩, Nat.le_refl _⟩
    · obtain ⟨l', hl', hle⟩ := ih hrest hi
      exact ⟨l', hl', Nat.le_trans hle (Nat.le_succ _)⟩

/-- No node is reached twice: from its second occurrence the list would begin again. -/
lemma nodup (hl : Linked h a l) : (addrs l).Nodup := by
  induction l generalizing a with
  | nil => exact List.nodup_nil
  | cons x l ih =>
    obtain ⟨rfl, n, hx, hrest⟩ := hl
    refine List.nodup_cons.mpr ⟨fun hmem => ?_, ih hrest⟩
    obtain ⟨l', hl', hle⟩ := hrest.exists_suffix hmem
    have heq : x :: l = l' := unique ⟨rfl, n, hx, hrest⟩ hl'
    rw [← heq, List.length_cons] at hle
    omega

/-- A node is not on the list that it is before. -/
lemma head_notMem {x : ι × α} (hl : Linked h a l) (hx : h x.1 = some ⟨x.2, a⟩) : x.1 ∉ addrs l := by
  have hcons : Linked h (some x.1) (x :: l) := ⟨rfl, a, hx, hl⟩
  exact (List.nodup_cons.mp hcons.nodup).1

/-- The pointer to a list is that to its first node. -/
lemma head_eq (hl : Linked h a l) : a = l.head?.map Prod.fst := by
  cases l with
  | nil => exact hl
  | cons x l => exact hl.1

/-- What happens elsewhere does not matter. -/
lemma congr (hl : Linked h a l) (hh : ∀ i ∈ addrs l, h' i = h i) : Linked h' a l := by
  induction l generalizing a with
  | nil => exact hl
  | cons x l ih =>
    obtain ⟨rfl, n, hx, hrest⟩ := hl
    refine ⟨rfl, n, (hh x.1 List.mem_cons_self).trans hx, ih hrest fun i hi => ?_⟩
    exact hh i (List.mem_cons_of_mem _ hi)

/-- An address without a node is not on a list. -/
lemma not_mem_of_freed (hl : Linked h a l) {i : ι} (hi : h i = none) : i ∉ addrs l := by
  intro hmem
  obtain ⟨c, hc⟩ := hl.allocated hmem
  rw [hi] at hc
  cases hc

/-- A write elsewhere does not matter. -/
lemma update [DecidableEq ι] (hl : Linked h a l) {i : ι} (hi : i ∉ addrs l)
    (c : Option (Cell ι α)) : Linked (Function.update h i c) a l := by
  refine hl.congr fun j hj => Function.update_of_ne ?_ _ _
  rintro rfl
  exact hi hj

end Linked

/-! ### Access -/

/-- A sequence of steps succeeds if its steps do. -/
lemma bind_ok_iff {β γ : Type} {x : Except (Stop ε) β} {f : β → Except (Stop ε) γ} {c : γ} :
    (x >>= f) = .ok c ↔ ∃ b, x = .ok b ∧ f b = .ok c := by
  cases x with
  | error e => simp [bind, Except.bind]
  | ok b => simp [bind, Except.bind]

/-- Read a node. -/
def load (h : Heap ι α) (i : ι) : Except (Stop ε) (Cell ι α) :=
  match h i with
  | some c => .ok c
  | none => .error .freed

/-- A node that is there can be read. -/
lemma load_eq_ok {h : Heap ι α} {i : ι} {c : Cell ι α} (hi : h i = some c) :
    (load h i : Except (Stop ε) _) = .ok c := by
  simp only [load, hi]

/-- A node that is not there cannot. -/
lemma load_eq_freed {h : Heap ι α} {i : ι} (hi : h i = none) :
    (load h i : Except (Stop ε) (Cell ι α)) = .error .freed := by
  simp only [load, hi]

/-- What was read is there. -/
lemma apply_of_load {h : Heap ι α} {i : ι} {c : Cell ι α}
    (hload : (load h i : Except (Stop ε) _) = .ok c) : h i = some c := by
  unfold load at hload
  split at hload
  · rename_i c' hc'
    exact hc'.trans (congrArg some (Except.ok.inj hload))
  · cases hload

/-! ### Visits -/

/-- What the visits make of a list. -/
def visitList (visit : α → σ → Except (Stop ε) (Option α × σ)) :
    List (ι × α) → σ → Except (Stop ε) (List (ι × α) × σ)
  | [], s => .ok ([], s)
  | x :: l, s => do
    let (verdict, s) ← visit x.2 s
    let (l, s) ← visitList visit l s
    return ((verdict.map fun val => (x.1, val)).toList ++ l, s)

/-- The visits of a list are those of its head and of the rest. -/
lemma visitList_cons {visit : α → σ → Except (Stop ε) (Option α × σ)} {s s' : σ} {x : ι × α}
    {l l' : List (ι × α)} :
    visitList visit (x :: l) s = .ok (l', s') ↔ ∃ verdict s₁ rest,
      visit x.2 s = .ok (verdict, s₁) ∧ visitList visit l s₁ = .ok (rest, s') ∧
        l' = (verdict.map fun val => (x.1, val)).toList ++ rest := by
  constructor
  · intro hvisits
    obtain ⟨⟨verdict, s₁⟩, hfirst, hvisits⟩ := bind_ok_iff.mp hvisits
    obtain ⟨⟨rest, s₂⟩, hrest, hvisits⟩ := bind_ok_iff.mp hvisits
    cases hvisits
    exact ⟨verdict, s₁, rest, hfirst, hrest, rfl⟩
  · rintro ⟨verdict, s₁, rest, hfirst, hrest, rfl⟩
    exact bind_ok_iff.mpr ⟨_, hfirst, bind_ok_iff.mpr ⟨_, hrest, rfl⟩⟩

/-- What remains of a list are nodes of the list, in their order. -/
lemma addrs_visitList {visit : α → σ → Except (Stop ε) (Option α × σ)} {s s' : σ}
    {l l' : List (ι × α)} (hvisits : visitList visit l s = .ok (l', s')) :
    (addrs l').Sublist (addrs l) := by
  induction l generalizing s l' with
  | nil =>
    cases hvisits
    exact .refl _
  | cons x l ih =>
    obtain ⟨verdict, s₁, rest, -, hrest, rfl⟩ := visitList_cons.mp hvisits
    cases verdict with
    | none => exact (ih hrest).cons _
    | some val => exact (ih hrest).cons_cons _

/-! ### Changes -/

variable [DecidableEq ι]

/-- Write a node. -/
def store (h : Heap ι α) (i : ι) (c : Cell ι α) : Except (Stop ε) (Heap ι α) :=
  match h i with
  | some _ => .ok (Function.update h i (some c))
  | none => .error .freed

/-- Free a node. -/
def release (h : Heap ι α) (i : ι) : Except (Stop ε) (Heap ι α) :=
  match h i with
  | some _ => .ok (Function.update h i none)
  | none => .error .freed

/-- The heap once a node has been allocated at the address `i`. -/
def allocate (h : Heap ι α) (i : ι) (c : Cell ι α) : Heap ι α := Function.update h i (some c)

/-- A node that is there can be written. -/
lemma store_eq_ok {h : Heap ι α} {i : ι} {c : Cell ι α} (hi : h i = some c) (c' : Cell ι α) :
    (store h i c' : Except (Stop ε) _) = .ok (Function.update h i (some c')) := by
  simp only [store, hi]

/-- A node that is there can be freed. -/
lemma release_eq_ok {h : Heap ι α} {i : ι} {c : Cell ι α} (hi : h i = some c) :
    (release h i : Except (Stop ε) _) = .ok (Function.update h i none) := by
  simp only [release, hi]

/-- The heap with the list `l` laid out in it. -/
def layOut (h : Heap ι α) : List (ι × α) → Heap ι α
  | [] => h
  | x :: l => allocate (layOut h l) x.1 ⟨x.2, l.head?.map Prod.fst⟩

/-- Elsewhere the heap is what it was. -/
lemma layOut_of_not_mem (h : Heap ι α) {l : List (ι × α)} {i : ι} (hi : i ∉ addrs l) :
    layOut h l i = h i := by
  induction l with
  | nil => rfl
  | cons x l ih =>
    obtain ⟨hx, hi⟩ := not_or.mp (mt List.mem_cons.mpr hi)
    exact (Function.update_of_ne hx _ _).trans (ih hi)

/-- A list that is laid out at distinct addresses is linked. -/
lemma linked_layOut (h : Heap ι α) {l : List (ι × α)} (hl : (addrs l).Nodup) :
    Linked (layOut h l) (l.head?.map Prod.fst) l := by
  induction l with
  | nil => rfl
  | cons x l ih =>
    obtain ⟨hx, hl⟩ := List.nodup_cons.mp hl
    exact ⟨rfl, _, Function.update_self .., (ih hl).update hx _⟩

/-! ### The loop that removes nodes -/

/-- The loop from the node `curr` on, whose predecessor is `prev`.  Visiting a node tells whether it
goes (`none`) or stays, and then with which content; what else it does it does to a state of its
own. -/
def removeLoop (visit : α → σ → Except (Stop ε) (Option α × σ)) :
    ℕ → ι → Option ι → Heap ι α → σ → Except (Stop ε) (Heap ι α × σ)
  | 0, _, _, _, _ => .error .running
  | _ + 1, _, none, h, s => .ok (h, s)
  | fuel + 1, prev, some curr, h, s => do
    let node ← load h curr
    let (verdict, s) ← visit node.val s
    match verdict with
    | none =>
      -- prev->next = curr->next; free(curr); curr = prev->next
      let before ← load h prev
      let h ← store h prev { before with next := node.next }
      let h ← release h curr
      let before ← load h prev
      removeLoop visit fuel prev before.next h s
    | some val =>
      -- prev = curr; curr = curr->next
      let h ← store h curr { node with val := val }
      removeLoop visit fuel curr node.next h s

/-- The loop with the dummy node before the head, allocated at the address `dummy` and freed in the
end: the new head of the list. -/
def removeNodes (visit : α → σ → Except (Stop ε) (Option α × σ)) (fuel : ℕ) (dummy : ι) (zero : α)
    (head : Option ι) (h : Heap ι α) (s : σ) : Except (Stop ε) (Option ι × Heap ι α × σ) := do
  let h := allocate h dummy ⟨zero, head⟩
  let (h, s) ← removeLoop visit fuel dummy head h s
  let first ← load h dummy
  let h ← release h dummy
  return (first.next, h, s)

section Remove

variable {visit : α → σ → Except (Stop ε) (Option α × σ)} {h : Heap ι α} {s s' : σ} {fuel : ℕ}
  {prev curr : ι} {node before : Cell ι α}

/-- One round that removes the node. -/
lemma removeLoop_remove (hcurr : h curr = some node) (hprev : h prev = some before)
    (hne : prev ≠ curr) (hvisit : visit node.val s = .ok (none, s')) :
    removeLoop visit (fuel + 1) prev (some curr) h s =
      removeLoop visit fuel prev node.next (Function.update
        (Function.update h prev (some { before with next := node.next })) curr none) s' := by
  have hcurr' : Function.update h prev (some { before with next := node.next }) curr = some node :=
    (Function.update_of_ne hne.symm _ _).trans hcurr
  have hprev' : Function.update (Function.update h prev (some { before with next := node.next }))
      curr none prev = some { before with next := node.next } :=
    (Function.update_of_ne hne _ _).trans (Function.update_self ..)
  simp only [removeLoop, bind, Except.bind, load_eq_ok hcurr, hvisit, load_eq_ok hprev,
    store_eq_ok hprev, release_eq_ok hcurr', load_eq_ok hprev']

/-- The loop stops at a node that is not there. -/
lemma removeLoop_freed (hcurr : h curr = none) :
    removeLoop visit (fuel + 1) prev (some curr) h s = .error .freed := by
  simp only [removeLoop, bind, Except.bind, load_eq_freed hcurr]

/-- One round that keeps the node. -/
lemma removeLoop_keep (hcurr : h curr = some node) {val : α}
    (hvisit : visit node.val s = .ok (some val, s')) :
    removeLoop visit (fuel + 1) prev (some curr) h s =
      removeLoop visit fuel curr node.next
        (Function.update h curr (some { node with val := val })) s' := by
  simp only [removeLoop, bind, Except.bind, load_eq_ok hcurr, hvisit, store_eq_ok hcurr]

/-- **The loop removes what the visits remove**: from the predecessor on the nodes that remain are
linked in their order, those that were removed are freed, and no other node is touched. -/
theorem removeLoop_linked {prev : ι} {curr : Option ι} {p : α} {l l' : List (ι × α)}
    (hl : Linked h curr l) (hprev : h prev = some ⟨p, curr⟩) (hnot : prev ∉ addrs l)
    (hvisits : visitList visit l s = .ok (l', s')) (hfuel : l.length < fuel) :
    ∃ h' first, removeLoop visit fuel prev curr h s = .ok (h', s') ∧
      h' prev = some ⟨p, first⟩ ∧ Linked h' first l' ∧
      (∀ i, i ≠ prev → i ∉ addrs l → h' i = h i) ∧
      ∀ i ∈ addrs l, i ∉ addrs l' → h' i = none := by
  induction l generalizing prev curr p h s l' fuel with
  | nil =>
    obtain rfl : curr = none := hl
    cases hvisits
    obtain ⟨k, rfl⟩ := Nat.exists_eq_succ_of_ne_zero (Nat.ne_of_gt hfuel)
    exact ⟨h, none, rfl, hprev, rfl, fun _ _ _ => rfl, fun i hi => absurd hi List.not_mem_nil⟩
  | cons x l ih =>
    obtain ⟨rfl, n, hx, hrest⟩ := hl
    obtain ⟨verdict, s₁, rest, hfirst, hvisits', rfl⟩ := visitList_cons.mp hvisits
    obtain ⟨k, rfl⟩ := Nat.exists_eq_succ_of_ne_zero (Nat.ne_of_gt (Nat.zero_lt_of_lt hfuel))
    have hk : l.length < k := Nat.lt_of_succ_lt_succ hfuel
    have hne : prev ≠ x.1 := fun heq => hnot (heq ▸ List.mem_cons_self)
    have hnot' : prev ∉ addrs l := fun hmem => hnot (List.mem_cons_of_mem _ hmem)
    have hx' : x.1 ∉ addrs l := hrest.head_notMem hx
    cases verdict with
    | none =>
      -- the node goes, and its predecessor is now before what follows it
      obtain ⟨h', first, hloop, hprev', hl', hframe, hfreed⟩ := ih
        ((hrest.update hnot' _).update hx' none)
        ((Function.update_of_ne hne _ _).trans (Function.update_self ..)) hnot' hvisits' hk
      refine ⟨h', first, ?_, hprev', hl', ?_, ?_⟩
      · rw [removeLoop_remove hx hprev hne hfirst]
        exact hloop
      · intro i hi hmem
        have hix : i ≠ x.1 := fun heq => hmem (heq ▸ List.mem_cons_self)
        rw [hframe i hi fun hmem' => hmem (List.mem_cons_of_mem _ hmem'), Function.update_of_ne hix,
          Function.update_of_ne hi]
      · intro i hi hout
        rcases List.mem_cons.mp hi with rfl | hi
        · rw [hframe _ hne.symm hx', Function.update_self]
        · exact hfreed i hi hout
    | some val =>
      -- the node stays, and is before what follows
      obtain ⟨h', first, hloop, hx'', hl', hframe, hfreed⟩ := ih
        (hrest.update hx' (some ⟨val, n⟩)) (Function.update_self ..) hx' hvisits' hk
      refine ⟨h', some x.1, ?_, ?_, ⟨rfl, first, hx'', hl'⟩, ?_, ?_⟩
      · rw [removeLoop_keep hx hfirst]
        exact hloop
      · rw [hframe prev hne hnot', Function.update_of_ne hne, hprev]
      · intro i hi hmem
        have hix : i ≠ x.1 := fun heq => hmem (heq ▸ List.mem_cons_self)
        rw [hframe i hix fun hmem' => hmem (List.mem_cons_of_mem _ hmem'),
          Function.update_of_ne hix]
      · intro i hi hout
        rcases List.mem_cons.mp hi with rfl | hi
        · exact absurd List.mem_cons_self hout
        · exact hfreed i hi fun hmem => hout (List.mem_cons_of_mem _ hmem)

/-- If the loop comes to an end, the visits of the list do. -/
lemma visitList_of_removeLoop {prev : ι} {curr : Option ι} {p : α} {l : List (ι × α)}
    {h' : Heap ι α} (hl : Linked h curr l) (hprev : h prev = some ⟨p, curr⟩) (hnot : prev ∉ addrs l)
    (hloop : removeLoop visit fuel prev curr h s = .ok (h', s')) :
    ∃ l', visitList visit l s = .ok (l', s') := by
  induction l generalizing prev curr p h s fuel with
  | nil =>
    obtain rfl : curr = none := hl
    cases fuel with
    | zero => cases hloop
    | succ k =>
      cases hloop
      exact ⟨[], rfl⟩
  | cons x l ih =>
    obtain ⟨rfl, n, hx, hrest⟩ := hl
    have hne : prev ≠ x.1 := fun heq => hnot (heq ▸ List.mem_cons_self)
    have hnot' : prev ∉ addrs l := fun hmem => hnot (List.mem_cons_of_mem _ hmem)
    have hx' : x.1 ∉ addrs l := hrest.head_notMem hx
    cases fuel with
    | zero => cases hloop
    | succ k =>
      cases hfirst : visit x.2 s with
      | error e => simp [removeLoop, bind, Except.bind, load_eq_ok hx, hfirst] at hloop
      | ok r =>
        obtain ⟨verdict, s₁⟩ := r
        cases verdict with
        | none =>
          rw [removeLoop_remove hx hprev hne hfirst] at hloop
          obtain ⟨rest, hvisits⟩ := ih ((hrest.update hnot' _).update hx' none)
            ((Function.update_of_ne hne _ _).trans (Function.update_self ..)) hnot' hloop
          exact ⟨_, visitList_cons.mpr ⟨none, s₁, rest, hfirst, hvisits, rfl⟩⟩
        | some val =>
          rw [removeLoop_keep hx hfirst] at hloop
          obtain ⟨rest, hvisits⟩ := ih (hrest.update hx' (some ⟨val, n⟩)) (Function.update_self ..)
            hx'
            hloop
          exact ⟨_, visitList_cons.mpr ⟨some val, s₁, rest, hfirst, hvisits, rfl⟩⟩

/-- With the dummy node in front, what is left is reached from the new head. -/
theorem removeNodes_linked {dummy : ι} {zero : α} {head : Option ι} {l l' : List (ι × α)}
    (hl : Linked h head l) (hdummy : h dummy = none) (hvisits : visitList visit l s = .ok (l', s'))
    (hfuel : l.length < fuel) :
    ∃ head' h', removeNodes visit fuel dummy zero head h s = .ok (head', h', s') ∧
      Linked h' head' l' ∧ (∀ i ∉ addrs l, h' i = h i) ∧
      ∀ i ∈ addrs l, i ∉ addrs l' → h' i = none := by
  have hnot : dummy ∉ addrs l := hl.not_mem_of_freed hdummy
  have hnot' : dummy ∉ addrs l' := fun hmem => hnot ((addrs_visitList hvisits).subset hmem)
  obtain ⟨h', first, hloop, hfirst, hl', hframe, hfreed⟩ := removeLoop_linked
    (hl.update hnot (some ⟨zero, head⟩)) (Function.update_self ..) hnot hvisits hfuel
  refine ⟨first, Function.update h' dummy none, ?_, hl'.update hnot' none, ?_, ?_⟩
  · have hloop' : removeLoop visit fuel dummy head (allocate h dummy ⟨zero, head⟩) s =
        .ok (h', s') := hloop
    simp only [removeNodes, bind, Except.bind, hloop', load_eq_ok hfirst, release_eq_ok hfirst]
    rfl
  · intro i hi
    by_cases hid : i = dummy
    · rw [hid, Function.update_self, hdummy]
    · rw [Function.update_of_ne hid, hframe i hid hi, Function.update_of_ne hid]
  · intro i hi hout
    have hid : i ≠ dummy := fun heq => hnot (heq ▸ hi)
    rw [Function.update_of_ne hid, hfreed i hi hout]

/-- If the loop comes to an end, the visits of the list do. -/
theorem visitList_of_removeNodes {dummy : ι} {zero : α} {head head' : Option ι} {l : List (ι × α)}
    {h' : Heap ι α} (hl : Linked h head l) (hdummy : h dummy = none)
    (hloop : removeNodes visit fuel dummy zero head h s = .ok (head', h', s')) :
    ∃ l', visitList visit l s = .ok (l', s') := by
  have hnot : dummy ∉ addrs l := hl.not_mem_of_freed hdummy
  obtain ⟨⟨h₁, s₁⟩, hloop, hrest⟩ := bind_ok_iff.mp hloop
  obtain ⟨first, -, hrest⟩ := bind_ok_iff.mp hrest
  obtain ⟨h₂, -, hrest⟩ := bind_ok_iff.mp hrest
  cases hrest
  exact visitList_of_removeLoop (hl.update hnot (some ⟨zero, head⟩)) (Function.update_self ..) hnot
    hloop

/-- If the head pointer is left to a node that has been freed, the loop stops there. -/
lemma removeNodes_freed {dummy head : ι} {zero : α} (hne : head ≠ dummy) (hfreed : h head = none)
    (r : Option ι × Heap ι α × σ) : removeNodes visit fuel dummy zero (some head) h s ≠ .ok r := by
  intro hloop
  obtain ⟨r', hloop, -⟩ := bind_ok_iff.mp hloop
  cases fuel with
  | zero => cases hloop
  | succ k =>
    have hfreed' : allocate h dummy ⟨zero, some head⟩ head = none :=
      (Function.update_of_ne hne _ _).trans hfreed
    rw [removeLoop_freed hfreed'] at hloop
    cases hloop

end Remove

/-! ### The loop that looks for a node -/

/-- The loop from the node `curr` on, whose predecessor is `prev`: the first node that passes the
test, null if there is none, and its predecessor. -/
def findLoop (test : α → Bool) : ℕ → ι → Option ι → Heap ι α → Except (Stop ε) (ι × Option ι)
  | 0, _, _, _ => .error .running
  | _ + 1, prev, none, _ => .ok (prev, none)
  | fuel + 1, prev, some curr, h => do
    let node ← load h curr
    if test node.val then return (prev, some curr)
    else findLoop test fuel curr node.next h

/-- Put a new node, at the address `new`, behind the node at `prev`, which is the last one. -/
def append (new : ι) (val : α) (prev : ι) (h : Heap ι α) : Except (Stop ε) (Heap ι α) := do
  let h := allocate h new ⟨val, none⟩
  let before ← load h prev
  store h prev { before with next := some new }

/-- The address of the last node of the list `l` behind `prev`. -/
def lastAddr : ι → List (ι × α) → ι
  | prev, [] => prev
  | _, x :: l => lastAddr x.1 l

section Find

variable {test : α → Bool} {h : Heap ι α} {fuel : ℕ} {prev : ι} {curr : Option ι}
  {l : List (ι × α)}

omit [DecidableEq ι] in
/-- If a node passes the test, one is found. -/
lemma findLoop_found (hl : Linked h curr l) (hfuel : l.length < fuel) (hex : ∃ x ∈ l, test x.2) :
    ∃ before found,
      (findLoop test fuel prev curr h : Except (Stop ε) _) = .ok (before, some found) := by
  induction l generalizing prev curr fuel with
  | nil => simp at hex
  | cons x l ih =>
    obtain ⟨rfl, n, hx, hrest⟩ := hl
    obtain ⟨k, rfl⟩ := Nat.exists_eq_succ_of_ne_zero (Nat.ne_of_gt (Nat.zero_lt_of_lt hfuel))
    simp only [findLoop, bind, Except.bind, load_eq_ok hx]
    by_cases htest : test x.2
    · exact ⟨prev, x.1, if_pos htest⟩
    · have hex' : ∃ y ∈ l, test y.2 := by
        obtain ⟨y, hy, hyt⟩ := hex
        rcases List.mem_cons.mp hy with rfl | hy
        · exact absurd hyt htest
        · exact ⟨y, hy, hyt⟩
      rw [if_neg htest]
      exact ih hrest (Nat.lt_of_succ_lt_succ hfuel) hex'

omit [DecidableEq ι] in
/-- If none does, the loop comes to the last node. -/
lemma findLoop_none (hl : Linked h curr l) (hfuel : l.length < fuel)
    (hnone : ∀ x ∈ l, test x.2 = false) :
    (findLoop test fuel prev curr h : Except (Stop ε) _) = .ok (lastAddr prev l, none) := by
  induction l generalizing prev curr fuel with
  | nil =>
    obtain rfl : curr = none := hl
    obtain ⟨k, rfl⟩ := Nat.exists_eq_succ_of_ne_zero (Nat.ne_of_gt hfuel)
    rfl
  | cons x l ih =>
    obtain ⟨rfl, n, hx, hrest⟩ := hl
    obtain ⟨k, rfl⟩ := Nat.exists_eq_succ_of_ne_zero (Nat.ne_of_gt (Nat.zero_lt_of_lt hfuel))
    have htest : ¬ test x.2 = true := by simp [hnone x List.mem_cons_self]
    simp only [findLoop, bind, Except.bind, load_eq_ok hx, if_neg htest]
    exact ih hrest (Nat.lt_of_succ_lt_succ hfuel) fun y hy => hnone y (List.mem_cons_of_mem _ hy)

/-- **A new node comes to be the last one**, and no other node is touched but its predecessor. -/
theorem append_linked {p val : α} {new : ι} (hl : Linked h curr l) (hprev : h prev = some ⟨p, curr⟩)
    (hnot : prev ∉ addrs l) (hnew : h new = none) :
    ∃ h' first, (append new val (lastAddr prev l) h : Except (Stop ε) _) = .ok h' ∧
      h' prev = some ⟨p, first⟩ ∧ Linked h' first (l ++ [(new, val)]) ∧
      ∀ i, i ≠ prev → i ≠ new → i ∉ addrs l → h' i = h i := by
  induction l generalizing prev curr p with
  | nil =>
    obtain rfl : curr = none := hl
    have hne : prev ≠ new := by
      rintro rfl
      rw [hnew] at hprev
      cases hprev
    have hprev' : allocate h new ⟨val, none⟩ prev = some ⟨p, none⟩ :=
      (Function.update_of_ne hne _ _).trans hprev
    refine ⟨Function.update (allocate h new ⟨val, none⟩) prev (some ⟨p, some new⟩), some new, ?_,
      Function.update_self .., ⟨rfl, none, ?_, rfl⟩, ?_⟩
    · simp only [append, lastAddr, bind, Except.bind, load_eq_ok hprev', store_eq_ok hprev']
    · exact (Function.update_of_ne hne.symm _ _).trans (Function.update_self ..)
    · intro i hi hi' _
      rw [Function.update_of_ne hi, allocate, Function.update_of_ne hi']
  | cons x l ih =>
    obtain ⟨rfl, n, hx, hrest⟩ := hl
    have hx' : x.1 ∉ addrs l := hrest.head_notMem hx
    have hne : prev ≠ x.1 := fun heq => hnot (heq ▸ List.mem_cons_self)
    have hnot' : prev ∉ addrs l := fun hmem => hnot (List.mem_cons_of_mem _ hmem)
    have hnew' : prev ≠ new := by
      rintro rfl
      rw [hnew] at hprev
      cases hprev
    obtain ⟨h', first, happend, hx'', hl', hframe⟩ := ih hrest hx hx'
    refine ⟨h', some x.1, happend, ?_, ⟨rfl, first, hx'', hl'⟩, ?_⟩
    · rw [hframe prev hne hnew' hnot', hprev]
    · intro i hi hi' hmem
      exact hframe i (fun heq => hmem (heq ▸ List.mem_cons_self)) hi'
        fun hmem' => hmem (List.mem_cons_of_mem _ hmem')

end Find

/-! ### The loop without a dummy node -/

/-- The loop from the node `curr` on, whose predecessor is `prev`, if it has one: the first node
that passes the test, null if there is none, and its predecessor. -/
def walk (test : ι → α → Bool) : ℕ → Option ι → Option ι → Heap ι α →
    Except (Stop ε) (Option ι × Option ι)
  | 0, _, _, _ => .error .running
  | _ + 1, prev, none, _ => .ok (prev, none)
  | fuel + 1, prev, some curr, h => do
    let node ← load h curr
    if test curr node.val then return (prev, some curr)
    else walk test fuel (some curr) node.next h

/-- Unlink the node at `curr`, whose predecessor is `prev`, if it has one: the new head of the
list. -/
def unlink (head prev : Option ι) (curr : ι) (h : Heap ι α) :
    Except (Stop ε) (Option ι × Heap ι α) := do
  let node ← load h curr
  match prev with
  | some prev =>
    let before ← load h prev
    let h ← store h prev { before with next := node.next }
    return (head, h)
  | none => return (node.next, h)

/-- Unlink the node that `walk` has found, if it has found one. -/
def unlinkFound (head prev : Option ι) : Option ι → Heap ι α → Except (Stop ε) (Option ι × Heap ι α)
  | some curr, h => unlink head prev curr h
  | none, h => .ok (head, h)

/-- A node that has been freed is not there. -/
lemma apply_of_release {h h' : Heap ι α} {i : ι}
    (hrelease : (release h i : Except (Stop ε) _) = .ok h') : h' i = none := by
  unfold release at hrelease
  split at hrelease
  · obtain rfl := Except.ok.inj hrelease
    exact Function.update_self ..
  · cases hrelease

section Walk

variable {test : ι → α → Bool} {h : Heap ι α} {fuel : ℕ} {a prev curr : Option ι} {i : ι} {x : α}
  {l l₁ l₂ : List (ι × α)}

omit [DecidableEq ι] in
/-- A node of a list is linked to what follows it. -/
lemma Linked.at_node (hl : Linked h a (l₁ ++ (i, x) :: l₂)) :
    ∃ n, h i = some ⟨x, n⟩ ∧ Linked h n l₂ := by
  induction l₁ generalizing a with
  | nil => exact hl.2
  | cons y l₁ ih =>
    obtain ⟨-, n, -, hrest⟩ := hl
    exact ih hrest

omit [DecidableEq ι] in
/-- It is not on the rest of the list. -/
lemma Linked.node_not_mem (hl : Linked h a (l₁ ++ (i, x) :: l₂)) : i ∉ addrs l₁ ∧ i ∉ addrs l₂ := by
  have hnodup := hl.nodup
  rw [addrs, List.map_append, List.map_cons, List.nodup_middle, List.nodup_cons, List.mem_append,
    not_or] at hnodup
  exact hnodup.1

/-- **Another content and another rest.**  If a node is written, the list goes on as its new `next`
pointer says, and what precedes it is left alone. -/
theorem Linked.relink {b : Option ι} (hl : Linked h a (l₁ ++ (i, x) :: l)) (hb : Linked h b l₂)
    (hi : i ∉ addrs l₂) (y : α) :
    Linked (Function.update h i (some ⟨y, b⟩)) a (l₁ ++ (i, y) :: l₂) := by
  induction l₁ generalizing a with
  | nil => exact ⟨hl.1, b, Function.update_self .., hb.update hi _⟩
  | cons z l₁ ih =>
    have hnodup := List.nodup_cons.mp hl.nodup
    obtain ⟨rfl, n, hz, hrest⟩ := hl
    have hne : z.1 ≠ i := by
      rintro rfl
      exact hnodup.1 (by simp)
    exact ⟨rfl, n, (Function.update_of_ne hne _ _).trans hz, ih hrest⟩

omit [DecidableEq ι] in
/-- The last node of a list, or the one before it. -/
lemma getLast?_addrs_cons (y : ι × α) :
    (addrs (y :: l)).getLast?.or prev = (addrs l).getLast?.or (some y.1) := by
  rw [addrs_cons, List.getLast?_cons]
  cases (addrs l).getLast? with
  | none => rfl
  | some j => rfl

omit [DecidableEq ι] in
/-- The loop comes to the first node that passes the test. -/
lemma walk_found (hl : Linked h curr (l₁ ++ (i, x) :: l₂))
    (hbefore : ∀ y ∈ l₁, test y.1 y.2 = false) (htest : test i x = true)
    (hfuel : l₁.length < fuel) :
    (walk test fuel prev curr h : Except (Stop ε) _) =
      .ok ((addrs l₁).getLast?.or prev, some i) := by
  induction l₁ generalizing prev curr fuel with
  | nil =>
    obtain ⟨rfl, n, hx, -⟩ := hl
    obtain ⟨k, rfl⟩ := Nat.exists_eq_succ_of_ne_zero (Nat.ne_of_gt hfuel)
    simp only [walk, bind, Except.bind, load_eq_ok hx]
    exact if_pos htest
  | cons y l₁ ih =>
    obtain ⟨rfl, n, hy, hrest⟩ := hl
    obtain ⟨k, rfl⟩ := Nat.exists_eq_succ_of_ne_zero (Nat.ne_of_gt (Nat.zero_lt_of_lt hfuel))
    have hneg : ¬ test y.1 y.2 = true := by simp [hbefore y List.mem_cons_self]
    simp only [walk, bind, Except.bind, load_eq_ok hy, if_neg hneg, getLast?_addrs_cons]
    exact ih hrest (fun z hz => hbefore z (List.mem_cons_of_mem _ hz))
      (Nat.lt_of_succ_lt_succ hfuel)

omit [DecidableEq ι] in
/-- If no node passes the test, it comes to the end. -/
lemma walk_none (hl : Linked h curr l) (hnone : ∀ y ∈ l, test y.1 y.2 = false)
    (hfuel : l.length < fuel) :
    (walk test fuel prev curr h : Except (Stop ε) _) = .ok ((addrs l).getLast?.or prev, none) := by
  induction l generalizing prev curr fuel with
  | nil =>
    obtain rfl : curr = none := hl
    obtain ⟨k, rfl⟩ := Nat.exists_eq_succ_of_ne_zero (Nat.ne_of_gt hfuel)
    rfl
  | cons y l ih =>
    obtain ⟨rfl, n, hy, hrest⟩ := hl
    obtain ⟨k, rfl⟩ := Nat.exists_eq_succ_of_ne_zero (Nat.ne_of_gt (Nat.zero_lt_of_lt hfuel))
    have hneg : ¬ test y.1 y.2 = true := by simp [hnone y List.mem_cons_self]
    simp only [walk, bind, Except.bind, load_eq_ok hy, if_neg hneg, getLast?_addrs_cons]
    exact ih hrest (fun z hz => hnone z (List.mem_cons_of_mem _ hz)) (Nat.lt_of_succ_lt_succ hfuel)

/-- **A node is taken off the list**, and stays allocated; no other node is touched but its
predecessor. -/
theorem unlink_linked (hl : Linked h a (l₁ ++ (i, x) :: l₂)) :
    ∃ a' h', (unlink a (addrs l₁).getLast? i h : Except (Stop ε) _) = .ok (a', h') ∧
      Linked h' a' (l₁ ++ l₂) ∧ h' i = h i ∧ ∀ j ∉ addrs l₁, h' j = h j := by
  obtain ⟨n, hx, hrest⟩ := hl.at_node
  rcases List.eq_nil_or_concat l₁ with rfl | ⟨l₀, ⟨p, v⟩, rfl⟩
  · refine ⟨n, h, ?_, hrest, rfl, fun _ _ => rfl⟩
    simp only [unlink, bind, Except.bind, load_eq_ok hx]
    rfl
  · have hl' : Linked h a (l₀ ++ (p, v) :: (i, x) :: l₂) := by simpa using hl
    obtain ⟨m, hp, -⟩ := hl'.at_node
    obtain ⟨hpi, hpl⟩ := not_or.mp (mt List.mem_cons.mpr hl'.node_not_mem.2)
    refine ⟨a, Function.update h p (some ⟨v, n⟩), ?_, ?_, ?_, ?_⟩
    · have hlast : (addrs (l₀.concat (p, v))).getLast? = some p := by simp [addrs]
      simp only [unlink, hlast, bind, Except.bind, load_eq_ok hx, load_eq_ok hp, store_eq_ok hp]
      rfl
    · have hlinked := hl'.relink hrest hpl v
      simpa using hlinked
    · exact Function.update_of_ne (Ne.symm hpi) _ _
    · intro j hj
      refine Function.update_of_ne ?_ _ _
      rintro rfl
      exact hj (by simp [addrs])

end Walk

end LinkedHeap
