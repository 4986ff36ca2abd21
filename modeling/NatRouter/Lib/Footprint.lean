import NatRouter.Lib.Interleaving

/-!
# Footprints of programs

A program that is given a buffer reads and writes bytes of it between its calls.  In a `TracedProg`
every such access stands in the program, beside the calls, as the spans of bytes that are touched;
`erase` forgets them, and `untraced` is a program that touches nothing.

`StaysInside` says that all accesses of a program lie below the length of the buffer, in every
execution beside an environment.  It follows from the text of the program, where what a call can
answer may be taken into account (`staysInside_of_bounded`), and it is taken apart along an execution:
`StaysInside.access` at an access, `StaysInside.answer` at a call, `StaysInside.first` and
`StaysInside.second` at a program that follows another one.
-/

namespace Footprint

open Interleaving Relation

/-- A run of bytes of a buffer. -/
structure Span where
  /-- The index of the first byte. -/
  start : ℕ
  /-- The number of bytes. -/
  size : ℕ

/-- Every byte has an index below the length of the buffer. -/
def Span.Inside (len : ℕ) (x : Span) : Prop := ∀ j < x.size, x.start + j < len

/-- What a program does: it touches bytes of the buffer, or makes a call. -/
inductive Traced (C : Type) where
  /-- Bytes are read or written. -/
  | access (spans : List Span)
  /-- A call is made. -/
  | call (c : C)

/-- The answer to a call; an access has none. -/
def Traced.Result {C : Type} (R : C → Type) : Traced C → Type
  | .access _ => Unit
  | .call c => R c

/-- A program with its accesses. -/
abbrev TracedProg (C : Type) (R : C → Type) (ε α : Type) := Prog (Traced C) (Traced.Result R) ε α

/-- Accesses change nothing of the state that is shared. -/
def tracedSem {C : Type} {R : C → Type} {σ : Type} (sem : Sem C R σ) :
    Sem (Traced C) (Traced.Result R) σ
  | .access _, s, _, s' => s' = s
  | .call c, s, r, s' => sem c s r s'

section Programs

variable {C : Type} {R : C → Type} {ε α β σ : Type}

/-- A program that touches some bytes first. -/
def accessing (spans : List Span) (P : TracedProg C R ε α) : TracedProg C R ε α :=
  .call (.access spans) fun _ => P

/-- A program that makes a call first. -/
def calling (c : C) (k : R c → TracedProg C R ε α) : TracedProg C R ε α := .call (.call c) k

/-- A program without its accesses. -/
def erase : TracedProg C R ε α → Prog C R ε α
  | .ret a => .ret a
  | .abort e => .abort e
  | .call (.access _) k => erase (k ())
  | .call (.call c) k => .call c fun r => erase (k r)

/-- A program that touches nothing. -/
def untraced : Prog C R ε α → TracedProg C R ε α
  | .ret a => .ret a
  | .abort e => .abort e
  | .call c k => .call (.call c) fun r => untraced (k r)

/-- A program followed by another one. -/
def andThen (Q : α → TracedProg C R ε β) : TracedProg C R ε α → TracedProg C R ε β
  | .ret a => Q a
  | .abort e => .abort e
  | .call c k => .call c fun r => andThen Q (k r)

/-! ### Erasing -/

@[simp] lemma erase_accessing (spans : List Span) (P : TracedProg C R ε α) :
    erase (accessing spans P) = erase P := rfl

/-- A call is erased to the call. -/
lemma erase_calling {c : C} {k : R c → TracedProg C R ε α} {k' : R c → Prog C R ε α}
    (h : ∀ r, erase (k r) = k' r) : erase (calling c k) = .call c k' :=
  congrArg (Prog.call c) (funext h)

@[simp] lemma erase_untraced (P : Prog C R ε α) : erase (untraced P) = P := by
  induction P with
  | ret a => rfl
  | abort e => rfl
  | call c k ih => exact congrArg (Prog.call c) (funext ih)

/-- Erasing commutes with a computation on the value returned. -/
@[simp] lemma erase_map (g : α → β) (P : TracedProg C R ε α) : erase (P.map g) = (erase P).map g := by
  induction P with
  | ret a => rfl
  | abort e => rfl
  | call c k ih =>
    cases c with
    | access spans => exact ih ()
    | call c => exact congrArg (Prog.call c) (funext ih)

/-- A program that touches bytes after it has got its result is erased to itself. -/
lemma erase_andThen_of_ret {Q : α → TracedProg C R ε α} (hQ : ∀ a, erase (Q a) = .ret a)
    (P : TracedProg C R ε α) : erase (andThen Q P) = erase P := by
  induction P with
  | ret a => exact hQ a
  | abort e => rfl
  | call c k ih =>
    cases c with
    | access spans => exact ih ()
    | call c => exact congrArg (Prog.call c) (funext ih)

/-! ### Accesses inside the buffer -/

/-- The next access of a program, if there is one, is inside the buffer. -/
def NextInside (len : ℕ) (P : TracedProg C R ε α) (_ : σ) : Prop :=
  ∀ spans, P.next = some (.access spans) → ∀ x ∈ spans, x.Inside len

/-- In every execution beside the environment all accesses are inside the buffer. -/
abbrev StaysInside (sem : Sem C R σ) (env : σ → σ → Prop) (len : ℕ) (P : TracedProg C R ε α) (s : σ) :
    Prop := P.Throughout (tracedSem sem) (fun _ => env) (NextInside len) s

/-- All accesses in the text of a program are inside the buffer, and what it returns is of a kind, if
calls answer as `A` allows. -/
def Bounded (A : (c : C) → R c → Prop) (len : ℕ) (T : α → Prop) : TracedProg C R ε α → Prop
  | .ret a => T a
  | .abort _ => True
  | .call (.access spans) k => (∀ x ∈ spans, x.Inside len) ∧ Bounded A len T (k ())
  | .call (.call c) k => ∀ r, A c r → Bounded A len T (k r)

/-! ### Spans -/

/-- A span that ends below the length is inside. -/
lemma Span.inside_of_le {len : ℕ} {x : Span} (h : x.start + x.size ≤ len) : x.Inside len :=
  fun j hj => by omega

/-- A span that is inside ends below the length, unless it is empty. -/
lemma Span.Inside.le {len : ℕ} {x : Span} (h : x.Inside len) (hx : 0 < x.size) :
    x.start + x.size ≤ len := by
  have hlast := h (x.size - 1) (by omega)
  omega

/-! ### The text of a program -/

section Text

variable {A : (c : C) → R c → Prop} {len : ℕ} {T : α → Prop}

/-- Accesses inside the buffer before a program. -/
lemma bounded_accessing {spans : List Span} {P : TracedProg C R ε α} :
    Bounded A len T (accessing spans P) ↔ (∀ x ∈ spans, x.Inside len) ∧ Bounded A len T P := Iff.rfl

/-- A program that touches nothing. -/
lemma bounded_untraced {P : Prog C R ε α} (h : P.Returns T) : Bounded A len T (untraced P) := by
  induction P with
  | ret a => exact h
  | abort e => trivial
  | call c k ih => exact fun r _ => ih r (h r)

/-- What is returned is of a weaker kind as well. -/
lemma Bounded.imp {T' : α → Prop} (hT : ∀ a, T a → T' a) {P : TracedProg C R ε α}
    (h : Bounded A len T P) : Bounded A len T' P := by
  induction P with
  | ret a => exact hT a h
  | abort e => trivial
  | call c k ih =>
    cases c with
    | access spans => exact ⟨h.1, ih () h.2⟩
    | call c => exact fun r hr => ih r (h r hr)

/-- A computation on the value returned touches nothing. -/
lemma Bounded.map {T' : β → Prop} {g : α → β} (hT : ∀ a, T a → T' (g a)) {P : TracedProg C R ε α}
    (h : Bounded A len T P) : Bounded A len T' (P.map g) := by
  induction P with
  | ret a => exact hT a h
  | abort e => trivial
  | call c k ih =>
    cases c with
    | access spans => exact ⟨h.1, ih () h.2⟩
    | call c => exact fun r hr => ih r (h r hr)

/-- A program followed by another one. -/
lemma Bounded.andThen {T' : β → Prop} {Q : α → TracedProg C R ε β}
    (hQ : ∀ a, T a → Bounded A len T' (Q a)) {P : TracedProg C R ε α} (h : Bounded A len T P) :
    Bounded A len T' (andThen Q P) := by
  induction P with
  | ret a => exact hQ a h
  | abort e => trivial
  | call c k ih =>
    cases c with
    | access spans => exact ⟨h.1, ih () h.2⟩
    | call c => exact fun r hr => ih r (h r hr)

/-- A program that has returned makes no access. -/
lemma nextInside_ret (a : α) (s : σ) : NextInside len (.ret a : TracedProg C R ε α) s := by
  rintro spans ⟨⟩

/-- Nor does one that has been aborted. -/
lemma nextInside_abort (e : ε) (s : σ) : NextInside len (.abort e : TracedProg C R ε α) s := by
  rintro spans ⟨⟩

/-- Nor does one that makes a call next. -/
lemma nextInside_call (c : C) (k : R c → TracedProg C R ε α) (s : σ) :
    NextInside len (.call (.call c) k) s := by
  rintro spans ⟨⟩

/-- **The rule for accesses**: if the environment and the calls keep `I`, and the calls answer as `A`
allows, a program whose accesses are inside the buffer for such answers stays inside. -/
theorem staysInside_of_bounded {sem : Sem C R σ} {env : σ → σ → Prop} {I : σ → Prop}
    (hsem : ∀ c s r s', I s → sem c s r s' → A c r ∧ I s') (henv : ∀ s s', I s → env s s' → I s')
    {P : TracedProg C R ε α} (h : Bounded A len T P) {s : σ} (hs : I s) :
    StaysInside sem env len P s := by
  induction P generalizing s with
  | ret a => exact fun s' _ => nextInside_ret a s'
  | abort e => exact fun s' _ => nextInside_abort e s'
  | call c k ih =>
    intro s' he
    have hs' : I s' := stable_of_env henv hs he
    cases c with
    | access spans =>
      refine ⟨fun spans' hnext => ?_, fun r s'' hr => ih () h.2 (hr ▸ hs')⟩
      cases hnext
      exact h.1
    | call c =>
      refine ⟨nextInside_call c k s', fun r s'' hr => ?_⟩
      obtain ⟨hA, hs''⟩ := hsem c s' r s'' hs' hr
      exact ih r (h r hA) hs''

end Text

/-! ### Along an execution -/

section Execution

variable {sem : Sem C R σ} {env : σ → σ → Prop} {len : ℕ} {s s' : σ}

/-- An access. -/
lemma StaysInside.access {spans : List Span} {P : TracedProg C R ε α}
    (h : StaysInside sem env len (accessing spans P) s) :
    (∀ x ∈ spans, x.Inside len) ∧ StaysInside sem env len P s :=
  ⟨(h s .refl).1 spans rfl, (h s .refl).2 () s rfl⟩

/-- A call and its answer. -/
lemma StaysInside.answer {c : C} {k : R c → TracedProg C R ε α}
    (h : StaysInside sem env len (calling c k) s) {r : R c} (hr : sem c s r s') :
    StaysInside sem env len (k r) s' := (h s .refl).2 r s' hr

/-- The first of two programs. -/
lemma StaysInside.first {Q : α → TracedProg C R ε β} {P : TracedProg C R ε α}
    (h : StaysInside sem env len (andThen Q P) s) : StaysInside sem env len P s := by
  induction P generalizing s with
  | ret a => exact fun s' _ => nextInside_ret a s'
  | abort e => exact h
  | call c k ih =>
    intro s' he
    obtain ⟨hnext, hk⟩ := h s' he
    exact ⟨hnext, fun r s'' hr => ih r (hk r s'' hr)⟩

/-- The second of two programs, after a run of the first. -/
lemma StaysInside.second {Q : α → TracedProg C R ε β} {P : TracedProg C R ε α}
    (h : StaysInside sem env len (andThen Q P) s) {a : α} (hrun : (erase P).Runs sem s a s') :
    StaysInside sem env len (Q a) s' := by
  induction P generalizing s with
  | ret b =>
    obtain ⟨rfl, rfl⟩ := Prog.runs_ret_iff.mp hrun
    exact h
  | abort e => exact absurd hrun Prog.not_runs_abort
  | call c k ih =>
    cases c with
    | access spans => exact ih () ((h s .refl).2 () s rfl) hrun
    | call c =>
      obtain ⟨r, t, hr, hrun⟩ := Prog.runs_call_iff.mp hrun
      exact ih r ((h s .refl).2 r t hr) hrun

/-- A program without a computation on the value it returns. -/
lemma StaysInside.of_map {g : α → β} {P : TracedProg C R ε α}
    (h : StaysInside sem env len (P.map g) s) : StaysInside sem env len P s := by
  induction P generalizing s with
  | ret a => exact fun s' _ => nextInside_ret a s'
  | abort e => exact h
  | call c k ih =>
    intro s' he
    obtain ⟨hnext, hk⟩ := h s' he
    exact ⟨hnext, fun r s'' hr => ih r (hk r s'' hr)⟩

/-- A computation on the value between two programs belongs to the second. -/
lemma andThen_map (g : α → β) {γ : Type} (Q : β → TracedProg C R ε γ) (P : TracedProg C R ε α) :
    andThen Q (P.map g) = andThen (fun a => Q (g a)) P := by
  induction P with
  | ret a => rfl
  | abort e => rfl
  | call c k ih => exact congrArg (Prog.call c) (funext ih)

end Execution

end Programs

end Footprint
