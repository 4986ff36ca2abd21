import Mathlib.Logic.Relation
import Mathlib.Data.Nat.Notation
import Mathlib.Tactic.Common

/-!
# Programs of atomic calls, and their interleavings

A thread that touches shared memory only through lock-protected calls is a `Prog`: it makes a call,
continues with the answer, and in the end returns a value or aborts.  Nothing can happen inside a
call; anything the other threads may do can happen between two calls.

* `Prog.run` executes a program alone, with a function `exec` for the calls;
* `Prog.Runs` is the same as a relation, over a semantics `sem` of the calls that may be
  nondeterministic or partial;
* `Step` is one step of a server thread, which takes one job after the other and runs the program of
  each, beside an environment that may change the state at any moment.

The rule for interleavings is `Prog.Always` with `Always.step`: a predicate of a program and a
state, stable under the environment by construction, that every step of the program preserves.
`server_invariant` lifts it to all reachable configurations of the server.  `Steps.simulate` takes a
run from one account of the state to another, such as one that also keeps a record of the calls.

What the environment does may also depend on the call a thread makes next: `RespectfulStep` is a step
of the server beside such an environment, `Prog.Throughout` the rule for a program, and
`respectful_invariant` lifts it to the server.
-/

namespace Interleaving

open Relation

/-- A program whose only effects are the calls `c : C`, each answered by a value of type `R c`.
`abort e` is a program that has come to an undefined operation. -/
inductive Prog (C : Type) (R : C → Type) (ε α : Type) where
  /-- Return a value. -/
  | ret (a : α)
  /-- An undefined operation. -/
  | abort (e : ε)
  /-- Make a call and continue with its answer. -/
  | call (c : C) (k : R c → Prog C R ε α)

/-- What a call may do: from the state before it, to its answer and the state after it. -/
abbrev Sem (C : Type) (R : C → Type) (σ : Type) := (c : C) → σ → R c → σ → Prop

section Sequential

variable {C : Type} {R : C → Type} {ε α σ ω : Type}

/-- Execute a program alone.  `amb n` is what the surroundings supply to the `n`-th call. -/
def Prog.run (exec : ω → (c : C) → σ → Except ε (R c × σ)) :
    Prog C R ε α → (ℕ → ω) → σ → Except ε (α × σ)
  | .ret a, _, s => .ok (a, s)
  | .abort e, _, _ => .error e
  | .call c k, amb, s =>
    match exec (amb 0) c s with
    | .ok (r, s') => (k r).run exec (fun n => amb (n + 1)) s'
    | .error e => .error e

/-- A call that answers is followed by what continues from the answer. -/
lemma Prog.run_call_of_ok {exec : ω → (c : C) → σ → Except ε (R c × σ)} {c : C}
    {k : R c → Prog C R ε α} {amb : ℕ → ω} {s s' : σ} {r : R c}
    (h : exec (amb 0) c s = .ok (r, s')) :
    (Prog.call c k).run exec amb s = (k r).run exec (fun n => amb (n + 1)) s' := by
  rw [Prog.run, h]

/-- A call that fails ends the program. -/
lemma Prog.run_call_of_error {exec : ω → (c : C) → σ → Except ε (R c × σ)} {c : C}
    {k : R c → Prog C R ε α} {amb : ℕ → ω} {s : σ} {e : ε} (h : exec (amb 0) c s = .error e) :
    (Prog.call c k).run exec amb s = .error e := by
  rw [Prog.run, h]

/-- A program that returns the same whatever its call answers. -/
lemma Prog.eq_of_run_call_ret {exec : ω → (c : C) → σ → Except ε (R c × σ)} {c : C} {a b : α}
    {amb : ℕ → ω} {s s' : σ}
    (h : (Prog.call c fun _ => Prog.ret b).run exec amb s = .ok (a, s')) : a = b := by
  unfold Prog.run at h
  split at h
  · cases h
    rfl
  · cases h

/-- `P.Runs sem s a s'`: running alone from `s`, the program `P` returns `a` in state `s'`. -/
inductive Prog.Runs (sem : Sem C R σ) : Prog C R ε α → σ → α → σ → Prop
  /-- A returned value is the result. -/
  | ret (a : α) (s : σ) : Runs sem (.ret a) s a s
  /-- A call is made and the rest of the program is run from its answer. -/
  | call {c : C} {k : R c → Prog C R ε α} {s s' s'' : σ} {r : R c} {a : α}
      (h : sem c s r s') (hk : Runs sem (k r) s' a s'') : Runs sem (.call c k) s a s''

/-- The calls an executable semantics can make, whatever the surroundings supply. -/
def Sem.ofExec (exec : ω → (c : C) → σ → Except ε (R c × σ)) : Sem C R σ :=
  fun c s r s' => ∃ w, exec w c s = .ok (r, s')

/-- The calls it can make in surroundings of a kind. -/
def Sem.ofExecWhere (W : ω → Prop) (exec : ω → (c : C) → σ → Except ε (R c × σ)) : Sem C R σ :=
  fun c s r s' => ∃ w, W w ∧ exec w c s = .ok (r, s')

/-- A semantics restricted to the calls that satisfy a guard on the state they are made in. -/
def Sem.guarded (guard : C → σ → Prop) (sem : Sem C R σ) : Sem C R σ :=
  fun c s r s' => guard c s ∧ sem c s r s'

/-- Every call that a program may come to is of a certain kind. -/
def Prog.Calls (S : C → Prop) : Prog C R ε α → Prop
  | .ret _ => True
  | .abort _ => True
  | .call c k => S c ∧ ∀ r, (k r).Calls S

/-- If all calls are of a kind, those of a program are. -/
lemma Prog.calls_of_forall {S : C → Prop} (P : Prog C R ε α) (hS : ∀ c, S c) : P.Calls S := by
  induction P with
  | ret a => trivial
  | abort e => trivial
  | call c k ih => exact ⟨hS c, ih⟩

/-- Calls of a kind are calls of a weaker kind. -/
lemma Prog.Calls.imp {S S' : C → Prop} (hS : ∀ c, S c → S' c) {P : Prog C R ε α} (h : P.Calls S) :
    P.Calls S' := by
  induction P with
  | ret a => trivial
  | abort e => trivial
  | call c k ih => exact ⟨hS c h.1, fun r => ih r (h.2 r)⟩

/-- A program that executes to a result runs to it. -/
lemma Prog.runs_of_run {exec : ω → (c : C) → σ → Except ε (R c × σ)} {P : Prog C R ε α}
    {amb : ℕ → ω} {s s' : σ} {a : α} (h : P.run exec amb s = .ok (a, s')) :
    P.Runs (Sem.ofExec exec) s a s' := by
  induction P generalizing amb s with
  | ret b =>
    obtain ⟨rfl, rfl⟩ : b = a ∧ s = s' := by simpa [Prog.run] using h
    exact .ret b s
  | abort e => simp [Prog.run] at h
  | call c k ih =>
    unfold Prog.run at h
    split at h
    · rename_i r t hexec
      exact .call ⟨amb 0, hexec⟩ (ih r h)
    · cases h

/-- The same in surroundings of a kind. -/
lemma Prog.runs_of_run_where {W : ω → Prop} {exec : ω → (c : C) → σ → Except ε (R c × σ)}
    {P : Prog C R ε α} {amb : ℕ → ω} (hamb : ∀ n, W (amb n)) {s s' : σ} {a : α}
    (h : P.run exec amb s = .ok (a, s')) : P.Runs (Sem.ofExecWhere W exec) s a s' := by
  induction P generalizing amb s with
  | ret b =>
    cases h
    exact .ret _ _
  | abort e => cases h
  | call c k ih =>
    unfold Prog.run at h
    split at h
    · rename_i r t hexec
      exact .call ⟨amb 0, hamb 0, hexec⟩ (ih r (fun n => hamb (n + 1)) h)
    · cases h

/-- Running is monotone in the semantics. -/
lemma Prog.Runs.mono {sem sem' : Sem C R σ} {P : Prog C R ε α} {s s' : σ} {a : α}
    (hsem : ∀ c s r s', sem c s r s' → sem' c s r s') (h : P.Runs sem s a s') :
    P.Runs sem' s a s' := by
  induction h with
  | ret a s => exact .ret a s
  | call h _ ih => exact .call (hsem _ _ _ _ h) ih

/-- A program whose calls are all of a kind that satisfies the guard runs guarded. -/
lemma Prog.Runs.guarded {guard : C → σ → Prop} {S : C → Prop} (hS : ∀ c s, S c → guard c s)
    {sem : Sem C R σ} {P : Prog C R ε α} {s s' : σ} {a : α} (hP : P.Calls S)
    (h : P.Runs sem s a s') : P.Runs (Sem.guarded guard sem) s a s' := by
  induction h with
  | ret a s => exact .ret a s
  | call h _ ih => exact .call ⟨hS _ _ hP.1, h⟩ (ih (hP.2 _))

/-- A state predicate kept by the calls of a kind is kept by the runs of a program that makes calls of
this kind only. -/
lemma Prog.Runs.preserves {S : C → Prop} {sem : Sem C R σ} {I : σ → Prop}
    (hsem : ∀ c s r s', S c → I s → sem c s r s' → I s') {P : Prog C R ε α} {s s' : σ} {a : α}
    (hP : P.Calls S) (h : P.Runs sem s a s') (hs : I s) : I s' := by
  induction h with
  | ret => exact hs
  | call h _ ih => exact ih (hP.2 _) (hsem _ _ _ _ hP.1 hs h)

/-- The last value of a program that has returned is its result. -/
@[simp] lemma Prog.runs_ret_iff {sem : Sem C R σ} {b a : α} {s s' : σ} :
    (Prog.ret b : Prog C R ε α).Runs sem s a s' ↔ b = a ∧ s = s' := by
  constructor
  · rintro ⟨⟩
    exact ⟨rfl, rfl⟩
  · rintro ⟨rfl, rfl⟩
    exact .ret b s

/-- An aborted program returns nothing. -/
@[simp] lemma Prog.not_runs_abort {sem : Sem C R σ} {e : ε} {a : α} {s s' : σ} :
    ¬ (Prog.abort e : Prog C R ε α).Runs sem s a s' := by
  rintro ⟨⟩

/-- A run of a call is the call followed by a run of what continues from its answer. -/
lemma Prog.runs_call_iff {sem : Sem C R σ} {c : C} {k : R c → Prog C R ε α} {a : α} {s s'' : σ} :
    (Prog.call c k).Runs sem s a s'' ↔ ∃ r s', sem c s r s' ∧ (k r).Runs sem s' a s'' := by
  constructor
  · rintro ⟨⟩
    exact ⟨_, _, ‹_›, ‹_›⟩
  · rintro ⟨r, s', h, hk⟩
    exact .call h hk

end Sequential

section Map

variable {C : Type} {R : C → Type} {ε α β σ ω : Type}

/-- A program, followed by a computation on the value it returns. -/
def Prog.map (g : α → β) : Prog C R ε α → Prog C R ε β
  | .ret a => .ret (g a)
  | .abort e => .abort e
  | .call c k => .call c fun r => (k r).map g

/-- Executing a mapped program. -/
lemma Prog.run_map {exec : ω → (c : C) → σ → Except ε (R c × σ)} (g : α → β) (P : Prog C R ε α)
    (amb : ℕ → ω) (s : σ) :
    (P.map g).run exec amb s = (P.run exec amb s).map fun r => (g r.1, r.2) := by
  induction P generalizing amb s with
  | ret a => rfl
  | abort e => rfl
  | call c k ih =>
    cases h : exec (amb 0) c s with
    | error e => simp only [Prog.map, Prog.run, h, Except.map]
    | ok r => simp only [Prog.map, Prog.run, h, ih]

/-- What a mapped program returns. -/
lemma Prog.run_map_eq_ok {exec : ω → (c : C) → σ → Except ε (R c × σ)} {g : α → β}
    {P : Prog C R ε α} {amb : ℕ → ω} {s s' : σ} {b : β} :
    (P.map g).run exec amb s = .ok (b, s') ↔ ∃ a, P.run exec amb s = .ok (a, s') ∧ g a = b := by
  rw [Prog.run_map]
  cases P.run exec amb s with
  | error e => simp [Except.map]
  | ok r =>
    obtain ⟨a, t⟩ := r
    simp only [Except.map, Except.ok.injEq, Prod.mk.injEq]
    constructor
    · rintro ⟨hb, rfl⟩
      exact ⟨a, ⟨rfl, rfl⟩, hb⟩
    · rintro ⟨a', ⟨rfl, rfl⟩, hb⟩
      exact ⟨hb, rfl⟩

/-- A mapped program makes the calls of the program. -/
lemma Prog.calls_map {S : C → Prop} {g : α → β} {P : Prog C R ε α} (h : P.Calls S) :
    (P.map g).Calls S := by
  induction P with
  | ret a => trivial
  | abort e => trivial
  | call c k ih => exact ⟨h.1, fun r => ih r (h.2 r)⟩

end Map

section Embed

variable {C C' : Type} {R : C → Type} {R' : C' → Type} {ε α β : Type}

/-- A program as part of a larger one: its calls become calls of a richer interface, and what it
returns decides how the larger program goes on. -/
def Prog.embed (f : C → C') (g : (c : C) → R' (f c) → R c) (Q : α → Prog C' R' ε β) :
    Prog C R ε α → Prog C' R' ε β
  | .ret a => Q a
  | .abort e => .abort e
  | .call c k => .call (f c) fun r => (k (g c r)).embed f g Q

/-- Every value that a program may return is of a certain kind. -/
def Prog.Returns (T : α → Prop) : Prog C R ε α → Prop
  | .ret a => T a
  | .abort _ => True
  | .call _ k => ∀ r, (k r).Returns T

/-- If all values are of a kind, those that a program returns are. -/
lemma Prog.returns_of_forall {T : α → Prop} (P : Prog C R ε α) (hT : ∀ a, T a) : P.Returns T := by
  induction P with
  | ret a => exact hT a
  | abort e => trivial
  | call c k ih => exact ih

/-- What a mapped program returns. -/
lemma Prog.Returns.map {T : α → Prop} {T' : β → Prop} {h : α → β} (hT : ∀ a, T a → T' (h a))
    {P : Prog C R ε α} (hP : P.Returns T) : (P.map h).Returns T' := by
  induction P with
  | ret a => exact hT a hP
  | abort e => trivial
  | call c k ih => exact fun r => ih r (hP r)

/-- What a program returns is of a weaker kind as well. -/
lemma Prog.Returns.imp {T T' : α → Prop} (hT : ∀ a, T a → T' a) {P : Prog C R ε α}
    (hP : P.Returns T) : P.Returns T' := by
  induction P with
  | ret a => exact hT a hP
  | abort e => trivial
  | call c k ih => exact fun r => ih r (hP r)

/-- What a program returns when it is run alone. -/
lemma Prog.Returns.of_run {exec : ω → (c : C) → σ → Except ε (R c × σ)} {T : α → Prop}
    {P : Prog C R ε α} (h : P.Returns T) {amb : ℕ → ω} {s s' : σ} {a : α}
    (hrun : P.run exec amb s = .ok (a, s')) : T a := by
  induction P generalizing amb s with
  | ret b =>
    cases hrun
    exact h
  | abort e => cases hrun
  | call c k ih =>
    cases hc : exec (amb 0) c s with
    | error e =>
      rw [Prog.run_call_of_error hc] at hrun
      cases hrun
    | ok r =>
      rw [Prog.run_call_of_ok hc] at hrun
      exact ih r.1 (h r.1) hrun

/-- The calls of an embedded program are those of the program, and those of what follows it. -/
lemma Prog.calls_embed {S : C' → Prop} {T : α → Prop} {f : C → C'} {g : (c : C) → R' (f c) → R c}
    {Q : α → Prog C' R' ε β} {P : Prog C R ε α} (hcalls : P.Calls fun c => S (f c))
    (hreturns : P.Returns T) (hQ : ∀ a, T a → (Q a).Calls S) : (P.embed f g Q).Calls S := by
  induction P with
  | ret a => exact hQ a hreturns
  | abort e => trivial
  | call c k ih => exact ⟨hcalls.1, fun r => ih (g c r) (hcalls.2 _) (hreturns _)⟩

/-- A run of a program as part of a larger one: if the larger interface can follow every call in
related states, it follows the run, and goes on with what the program returns. -/
lemma Prog.Runs.embed {σ τ : Type} {sem : Sem C R σ} {sem' : Sem C' R' τ} {rel : σ → τ → Prop}
    {f : C → C'} {g : (c : C) → R' (f c) → R c}
    (hsem : ∀ c s r s' t, sem c s r s' → rel s t →
      ∃ r' t', sem' (f c) t r' t' ∧ g c r' = r ∧ rel s' t')
    {P : Prog C R ε α} {s s' : σ} {a : α} (h : P.Runs sem s a s') {t : τ} (ht : rel s t) :
    ∃ t', rel s' t' ∧ ∀ (Q : α → Prog C' R' ε β) b t'', (Q a).Runs sem' t' b t'' →
      (P.embed f g Q).Runs sem' t b t'' := by
  induction h generalizing t with
  | ret a s => exact ⟨t, ht, fun Q b t'' hQ => hQ⟩
  | call hc _ ih =>
    obtain ⟨r', t', hc', rfl, ht'⟩ := hsem _ _ _ _ t hc ht
    obtain ⟨t'', ht'', hrest⟩ := ih ht'
    exact ⟨t'', ht'', fun Q b u hQ => .call hc' (hrest Q b u hQ)⟩

/-- Every call of a program, with its answer, stands in a certain relation to what is left of the
program then. -/
def Prog.Follows (S : (c : C) → R c → Prog C R ε α → Prop) : Prog C R ε α → Prop
  | .ret _ => True
  | .abort _ => True
  | .call _ k => ∀ r, S _ r (k r) ∧ (k r).Follows S

/-- The calls of a mapped program and what is left of it. -/
lemma Prog.Follows.map {S : (c : C) → R c → Prog C R ε α → Prop}
    {S' : (c : C) → R c → Prog C R ε β → Prop} {h : α → β}
    (hS : ∀ c r P, S c r P → S' c r (P.map h)) {P : Prog C R ε α} (hP : P.Follows S) :
    (P.map h).Follows S' := by
  induction P with
  | ret a => trivial
  | abort e => trivial
  | call c k ih => exact fun r => ⟨hS c r (k r) (hP r).1, ih r (hP r).2⟩

/-- The calls of a kind that asks nothing of what is left. -/
lemma Prog.Calls.follows {S : C → Prop} {S' : (c : C) → R c → Prog C R ε α → Prop}
    (hS : ∀ c, S c → ∀ r P, S' c r P) {P : Prog C R ε α} (hP : P.Calls S) : P.Follows S' := by
  induction P with
  | ret a => trivial
  | abort e => trivial
  | call c k ih => exact fun r => ⟨hS c hP.1 r (k r), ih r (hP.2 r)⟩

end Embed

section Concurrent

variable {C : Type} {R : C → Type} {ε α σ J : Type}

/-- A server thread: idle, or at some point of the program of a job. -/
inductive Thread (C : Type) (R : C → Type) (ε α J : Type) where
  /-- Waiting for the next job. -/
  | idle
  /-- What is left to run of the program of job `j`. -/
  | busy (j : J) (P : Prog C R ε α)

/-- One step of a server thread beside an environment.  `start j` is the program of job `j`. -/
inductive Step (sem : Sem C R σ) (env : σ → σ → Prop) (start : J → Prog C R ε α) :
    Thread C R ε α J × σ → Thread C R ε α J × σ → Prop
  /-- The thread takes up a job. -/
  | take (j : J) (s : σ) : Step sem env start (.idle, s) (.busy j (start j), s)
  /-- The thread makes its next call. -/
  | call {j : J} {c : C} {k : R c → Prog C R ε α} {s s' : σ} {r : R c} (h : sem c s r s') :
      Step sem env start (.busy j (.call c k), s) (.busy j (k r), s')
  /-- The thread has finished its job. -/
  | finish (j : J) (a : α) (s : σ) : Step sem env start (.busy j (.ret a), s) (.idle, s)
  /-- The environment acts. -/
  | env {t : Thread C R ε α J} {s s' : σ} (h : env s s') : Step sem env start (t, s) (t, s')

/-- The configurations a run of the server leads to. -/
abbrev Steps (sem : Sem C R σ) (env : σ → σ → Prop) (start : J → Prog C R ε α) :=
  ReflTransGen (Step sem env start)

/-- Under any interference of the environment, `I` holds after every call of the program, and `Q`
holds of the value it returns and of the state then and later. -/
def Prog.Always (sem : Sem C R σ) (env : σ → σ → Prop) (I : σ → Prop) (Q : α → σ → Prop) :
    Prog C R ε α → σ → Prop
  | .ret a, s => ∀ s', ReflTransGen env s s' → Q a s'
  | .abort _, _ => True
  | .call c k, s => ∀ s' r s'', ReflTransGen env s s' → sem c s' r s'' →
      I s'' ∧ (k r).Always sem env I Q s''

variable {sem : Sem C R σ} {env : σ → σ → Prop} {start : J → Prog C R ε α} {I : σ → Prop}
  {Q : α → σ → Prop}

/-- The environment cannot break `Always`. -/
lemma Prog.Always.interfere {P : Prog C R ε α} {s s' : σ} (h : P.Always sem env I Q s) (he : env s s') :
    P.Always sem env I Q s' := by
  cases P with
  | ret a => exact fun t ht => h t (.head he ht)
  | abort e => trivial
  | call c k => exact fun t r t' ht hc => h t r t' (.head he ht) hc

/-- A predicate that the environment keeps is kept by any interference. -/
lemma stable_of_env (henv : ∀ s s', I s → env s s' → I s') {s s' : σ} (hs : I s)
    (h : ReflTransGen env s s') : I s' := by
  induction h with
  | refl => exact hs
  | tail _ he ih => exact henv _ _ ih he

/-- A weaker postcondition. -/
lemma Prog.Always.imp {Q' : α → σ → Prop} (hQ : ∀ a s, Q a s → Q' a s) {P : Prog C R ε α} {s : σ}
    (h : P.Always sem env I Q s) : P.Always sem env I Q' s := by
  induction P generalizing s with
  | ret a => exact fun s' he => hQ a s' (h s' he)
  | abort e => trivial
  | call c k ih =>
    intro s' r s'' he hc
    obtain ⟨hI, hk⟩ := h s' r s'' he hc
    exact ⟨hI, ih r hk⟩

/-- A weaker invariant. -/
lemma Prog.Always.weaken {I' : σ → Prop} (hI : ∀ s, I s → I' s) {P : Prog C R ε α} {s : σ}
    (h : P.Always sem env I Q s) : P.Always sem env I' Q s := by
  induction P generalizing s with
  | ret a => exact h
  | abort e => trivial
  | call c k ih =>
    intro s' r s'' he hc
    obtain ⟨hs, hk⟩ := h s' r s'' he hc
    exact ⟨hI s'' hs, ih r hk⟩

/-- A predicate that the environment and the calls of a kind keep is always kept by a program that
makes calls of this kind only. -/
lemma Prog.always_of_calls {S : C → Prop} (hsem : ∀ c s r s', S c → I s → sem c s r s' → I s')
    (henv : ∀ s s', I s → env s s' → I s') {P : Prog C R ε α} (hP : P.Calls S) {s : σ} (hs : I s) :
    P.Always sem env I (fun _ => I) s := by
  induction P generalizing s with
  | ret a => exact fun s' he => stable_of_env henv hs he
  | abort e => trivial
  | call c k ih =>
    intro s' r s'' he hc
    have hs'' : I s'' := hsem c s' r s'' hP.1 (stable_of_env henv hs he) hc
    exact ⟨hs'', ih r (hP.2 r) hs''⟩

/-- A predicate that every call and every environment step keeps is always kept. -/
lemma Prog.always_of_preserved (hsem : ∀ c s r s', I s → sem c s r s' → I s')
    (henv : ∀ s s', I s → env s s' → I s') (P : Prog C R ε α) {s : σ} (hs : I s) :
    P.Always sem env I (fun _ => I) s :=
  Prog.always_of_calls (fun c s r s' _ => hsem c s r s') henv (P.calls_of_forall fun _ => trivial) hs

/-- What is known of a thread: nothing while it is idle, `Always` while it has a job. -/
def Thread.Always (sem : Sem C R σ) (env : σ → σ → Prop) (I : σ → Prop) (Q : J → α → σ → Prop) :
    Thread C R ε α J → σ → Prop
  | .idle, _ => True
  | .busy j P, s => P.Always sem env I (Q j) s

/-- **Invariants of a server.**  If the environment keeps `I`, and the program of every job, started
in a state with `I`, keeps `I` at each call under interference, then `I` holds in every reachable
state, and the postcondition of a job holds whenever its program has returned. -/
theorem server_invariant {Q : J → α → σ → Prop}
    (henv : ∀ s s', I s → env s s' → I s')
    (hstart : ∀ j s, I s → (start j).Always sem env I (Q j) s)
    {c c' : Thread C R ε α J × σ} (hI : I c.2) (ht : c.1.Always sem env I Q c.2)
    (h : Steps sem env start c c') : I c'.2 ∧ c'.1.Always sem env I Q c'.2 := by
  induction h with
  | refl => exact ⟨hI, ht⟩
  | tail _ hstep ih =>
    obtain ⟨hI, ht⟩ := ih
    cases hstep with
    | take j s => exact ⟨hI, hstart j s hI⟩
    | call hc => exact ht _ _ _ .refl hc
    | finish j a s => exact ⟨hI, trivial⟩
    | @env t s s' he =>
      refine ⟨henv _ _ hI he, ?_⟩
      cases t with
      | idle => trivial
      | busy j P => exact Prog.Always.interfere ht he

/-- The invariants of a server that starts idle. -/
theorem server_invariant_of_idle {Q : J → α → σ → Prop}
    (henv : ∀ s s', I s → env s s' → I s')
    (hstart : ∀ j s, I s → (start j).Always sem env I (Q j) s)
    {s : σ} {c' : Thread C R ε α J × σ} (hI : I s) (h : Steps sem env start (.idle, s) c') :
    I c'.2 ∧ c'.1.Always sem env I Q c'.2 :=
  server_invariant (c := (.idle, s)) henv hstart hI trivial h

/-- The postcondition of a job at a configuration where its program has returned. -/
lemma Thread.Always.post {Q : J → α → σ → Prop} {j : J} {a : α} {s : σ}
    (h : (Thread.busy j (Prog.ret a : Prog C R ε α)).Always sem env I Q s) : Q j a s :=
  h s .refl

/-- A run of the server is followed by another server with the same programs, in related states, if
its calls and its environment are. -/
lemma Steps.simulate {τ : Type} {sem' : Sem C R τ} {env' : τ → τ → Prop} {rel : σ → τ → Prop}
    (hsem : ∀ c s r s' t, sem c s r s' → rel s t → ∃ t', sem' c t r t' ∧ rel s' t')
    (henv : ∀ s s' t, env s s' → rel s t → ∃ t', env' t t' ∧ rel s' t')
    {c c' : Thread C R ε α J × σ} (h : Steps sem env start c c') {t : τ} (ht : rel c.2 t) :
    ∃ t', Steps sem' env' start (c.1, t) (c'.1, t') ∧ rel c'.2 t' := by
  induction h with
  | refl => exact ⟨t, .refl, ht⟩
  | tail _ hstep ih =>
    obtain ⟨t', hsteps, ht'⟩ := ih
    cases hstep with
    | take j s => exact ⟨t', hsteps.tail (.take j t'), ht'⟩
    | call hc =>
      obtain ⟨t'', hc', ht''⟩ := hsem _ _ _ _ t' hc ht'
      exact ⟨t'', hsteps.tail (.call hc'), ht''⟩
    | finish j a s => exact ⟨t', hsteps.tail (.finish j a t'), ht'⟩
    | env he =>
      obtain ⟨t'', he', ht''⟩ := henv _ _ t' he ht'
      exact ⟨t'', hsteps.tail (.env he'), ht''⟩

/-- A program run alone is a run of the server in which the environment never acts. -/
lemma Prog.Runs.steps {P : Prog C R ε α} {s s' : σ} {a : α} (h : P.Runs sem s a s') (j : J) :
    Steps sem env start (.busy j P, s) (.busy j (.ret a), s') := by
  induction h with
  | ret => exact .refl
  | call h _ ih => exact .head (.call h) ih

/-- A job run alone takes the idle server to the idle server. -/
lemma Prog.Runs.job {j : J} {s s' : σ} {a : α} (h : (start j).Runs sem s a s') :
    Steps sem env start (.idle, s) (.idle, s') :=
  .head (.take j s) ((h.steps j).tail (.finish j a s'))

end Concurrent

section Respectful

variable {C : Type} {R : C → Type} {ε α σ J : Type}

/-- The call that a program makes next. -/
def Prog.next : Prog C R ε α → Option C
  | .ret _ => none
  | .abort _ => none
  | .call c _ => some c

/-- The call that a server thread makes next. -/
def Thread.next : Thread C R ε α J → Option C
  | .idle => none
  | .busy _ P => P.next

/-- One step of a server thread beside an environment that respects what the thread is about to do:
`env c` is what the environment may do while the call `c` is the next one. -/
inductive RespectfulStep (sem : Sem C R σ) (env : Option C → σ → σ → Prop)
    (start : J → Prog C R ε α) : Thread C R ε α J × σ → Thread C R ε α J × σ → Prop
  /-- The thread takes up a job. -/
  | take (j : J) (s : σ) : RespectfulStep sem env start (.idle, s) (.busy j (start j), s)
  /-- The thread makes its next call. -/
  | call {j : J} {c : C} {k : R c → Prog C R ε α} {s s' : σ} {r : R c} (h : sem c s r s') :
      RespectfulStep sem env start (.busy j (.call c k), s) (.busy j (k r), s')
  /-- The thread has finished its job. -/
  | finish (j : J) (a : α) (s : σ) :
      RespectfulStep sem env start (.busy j (.ret a), s) (.idle, s)
  /-- The environment acts. -/
  | env {t : Thread C R ε α J} {s s' : σ} (h : env t.next s s') :
      RespectfulStep sem env start (t, s) (t, s')

/-- Under any respectful interference, `pre` holds of what is left of the program, and of the state,
at every point of its execution. -/
def Prog.Throughout (sem : Sem C R σ) (env : Option C → σ → σ → Prop)
    (pre : Prog C R ε α → σ → Prop) : Prog C R ε α → σ → Prop
  | .ret a, s => ∀ s', ReflTransGen (env none) s s' → pre (.ret a) s'
  | .abort e, s => ∀ s', ReflTransGen (env none) s s' → pre (.abort e) s'
  | .call c k, s => ∀ s', ReflTransGen (env (some c)) s s' → pre (.call c k) s' ∧
      ∀ r s'', sem c s' r s'' → (k r).Throughout sem env pre s''

variable {sem : Sem C R σ} {env : Option C → σ → σ → Prop} {start : J → Prog C R ε α}
  {pre : Prog C R ε α → σ → Prop} {I : σ → Prop}

/-- A respectful environment cannot break `Throughout`. -/
lemma Prog.Throughout.interfere {P : Prog C R ε α} {s s' : σ} (h : P.Throughout sem env pre s)
    (he : env P.next s s') : P.Throughout sem env pre s' := by
  cases P with
  | ret a => exact fun t ht => h t (.head he ht)
  | abort e => exact fun t ht => h t (.head he ht)
  | call c k => exact fun t ht => h t (.head he ht)

/-- The condition holds at the point the execution is at. -/
lemma Prog.Throughout.here {P : Prog C R ε α} {s : σ} (h : P.Throughout sem env pre s) :
    pre P s := by
  cases P with
  | ret a => exact h s .refl
  | abort e => exact h s .refl
  | call c k => exact (h s .refl).1

/-- What is known of a thread: nothing while it is idle, `Throughout` while it has a job. -/
def Thread.Throughout (sem : Sem C R σ) (env : Option C → σ → σ → Prop)
    (pre : Prog C R ε α → σ → Prop) : Thread C R ε α J → σ → Prop
  | .idle, _ => True
  | .busy _ P, s => P.Throughout sem env pre s

/-- **Invariants of a server beside a respectful environment.**  If calls and environment keep `I`,
and every job started in a state with `I` runs with `pre` throughout, then all reachable
configurations have `I`, and their threads run on with `pre` throughout. -/
theorem respectful_invariant (hsem : ∀ c s r s', I s → sem c s r s' → I s')
    (henv : ∀ c s s', I s → env c s s' → I s')
    (hstart : ∀ j s, I s → (start j).Throughout sem env pre s)
    {s : σ} {c' : Thread C R ε α J × σ} (hI : I s)
    (h : ReflTransGen (RespectfulStep sem env start) (.idle, s) c') :
    I c'.2 ∧ c'.1.Throughout sem env pre c'.2 := by
  induction h with
  | refl => exact ⟨hI, trivial⟩
  | tail _ hstep ih =>
    obtain ⟨hI, ht⟩ := ih
    cases hstep with
    | take j s => exact ⟨hI, hstart j s hI⟩
    | call hc => exact ⟨hsem _ _ _ _ hI hc, (ht _ .refl).2 _ _ hc⟩
    | finish j a s => exact ⟨hI, trivial⟩
    | @env t s s' he =>
      refine ⟨henv _ _ _ hI he, ?_⟩
      cases t with
      | idle => trivial
      | busy j P => exact Prog.Throughout.interfere ht he

end Respectful

end Interleaving
