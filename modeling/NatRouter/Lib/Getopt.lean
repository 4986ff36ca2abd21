import Mathlib.Data.List.Basic
import Mathlib.Tactic.Common

/-!
# Options of a command line

`getopt` as POSIX specifies it, one call at a time, and the loop around it.  A call takes the next
letter of a group such as `-ab`, with what follows it if the letter takes an argument; it finds no
more options at the first argument that is not a group, and behind `--`.

The loop ends, since every call uses up a character (`size_lt_of_getopt`), and what every option
that can be found preserves holds when it has ended (`parse_invariant`).
-/

namespace Getopt

/-- A string. -/
abbrev Str := List Char

/-- What a call finds: the letter of an option, or `?`, and what `optarg` points to. -/
structure Hit where
  /-- The result of the call. -/
  ret : Char
  /-- The argument of the option; it is empty where there is none. -/
  optarg : Str

/-- The arguments that have not been looked at. -/
structure Args where
  /-- What is left of the group that is being looked at. -/
  group : Str
  /-- The arguments behind it. -/
  rest : List Str

/-- Whether a letter of the option string takes an argument, and nothing for other letters. -/
def takesArgument (c : Char) : Str → Option Bool
  | [] => none
  | d :: optstring =>
    if c = d ∧ c ≠ ':' then some (optstring.head? = some ':') else takesArgument c optstring

/-- A letter of a group, with the letters behind it. -/
def letter (optstring : Str) (c : Char) (group : Str) (rest : List Str) : Hit × Args :=
  match takesArgument c optstring with
  | none => (⟨'?', []⟩, ⟨group, rest⟩)
  | some false => (⟨c, []⟩, ⟨group, rest⟩)
  | some true =>
    match group, rest with
    | d :: ds, rest => (⟨c, d :: ds⟩, ⟨[], rest⟩)
    | [], optarg :: rest => (⟨c, optarg⟩, ⟨[], rest⟩)
    | [], [] => (⟨'?', []⟩, ⟨[], []⟩)

/-- A call of `getopt`, or nothing if it returns -1. -/
def getopt (optstring : Str) : Args → Option (Hit × Args)
  | ⟨c :: group, rest⟩ => some (letter optstring c group rest)
  | ⟨[], ('-' :: c :: group) :: rest⟩ =>
    if c = '-' ∧ group = [] then none else some (letter optstring c group rest)
  | ⟨[], _⟩ => none

namespace Args

/-- How much there is to look at. -/
def size (a : Args) : ℕ := a.group.length + a.rest.length + a.rest.flatten.length

/-- All characters. -/
def chars (a : Args) : List Char := a.group ++ a.rest.flatten

end Args

variable {optstring : Str} {a a' : Args} {hit : Hit}

/-! ### One call -/

/-- A letter is an option, or it is answered with `?`. -/
lemma letter_ret (optstring : Str) (c : Char) (group : Str) (rest : List Str) :
    (letter optstring c group rest).1.ret = '?' ∨
      (letter optstring c group rest).1.ret = c ∧ takesArgument c optstring ≠ none := by
  unfold letter
  cases htakes : takesArgument c optstring with
  | none => exact .inl rfl
  | some takes =>
    cases takes with
    | false => exact .inr ⟨rfl, Option.some_ne_none _⟩
    | true =>
      rcases group with _ | ⟨d, ds⟩
      · rcases rest with _ | ⟨optarg, rest⟩
        · exact .inl rfl
        · exact .inr ⟨rfl, Option.some_ne_none _⟩
      · exact .inr ⟨rfl, Option.some_ne_none _⟩

/-- What is left behind a letter was there before. -/
lemma letter_args (optstring : Str) (c : Char) (group : Str) (rest : List Str) :
    (letter optstring c group rest).2.size ≤ (Args.mk group rest).size ∧
      ∀ x ∈ (letter optstring c group rest).2.chars, x ∈ (Args.mk group rest).chars := by
  unfold letter
  cases htakes : takesArgument c optstring with
  | none => exact ⟨Nat.le_refl _, fun x hx => hx⟩
  | some takes =>
    cases takes with
    | false => exact ⟨Nat.le_refl _, fun x hx => hx⟩
    | true =>
      rcases group with _ | ⟨d, ds⟩
      · rcases rest with _ | ⟨optarg, rest⟩
        · exact ⟨Nat.le_refl _, fun x hx => hx⟩
        · refine ⟨by simp [Args.size]; omega, fun x hx => ?_⟩
          exact List.mem_append_right optarg hx
      · exact ⟨by simp [Args.size], fun x hx => List.mem_append_right (d :: ds) hx⟩

/-- A call looks at a letter. -/
lemma exists_letter (h : getopt optstring a = some (hit, a')) : ∃ c group rest,
    letter optstring c group rest = (hit, a') ∧ c ∈ a.chars ∧
      (Args.mk group rest).size < a.size ∧ ∀ x ∈ (Args.mk group rest).chars, x ∈ a.chars := by
  unfold getopt at h
  split at h
  · rename_i c group rest
    refine ⟨c, group, rest, Option.some.inj h, List.mem_cons_self, by simp [Args.size], ?_⟩
    exact fun x hx => List.mem_cons_of_mem c hx
  · rename_i c group rest
    split_ifs at h
    refine ⟨c, group, rest, Option.some.inj h, by simp [Args.chars], by simp [Args.size]; omega, ?_⟩
    exact fun x hx => List.mem_cons_of_mem '-' (List.mem_cons_of_mem c hx)
  · cases h

/-- Every call uses up a character. -/
lemma size_lt_of_getopt (h : getopt optstring a = some (hit, a')) : a'.size < a.size := by
  obtain ⟨c, group, rest, hletter, -, hlt, -⟩ := exists_letter h
  have hle := (letter_args optstring c group rest).1
  rw [hletter] at hle
  exact Nat.lt_of_le_of_lt hle hlt

/-- What a call finds: `?`, or a letter of the option string that is among the arguments. -/
lemma ret_of_getopt (h : getopt optstring a = some (hit, a')) :
    hit.ret = '?' ∨ takesArgument hit.ret optstring ≠ none ∧ hit.ret ∈ a.chars := by
  obtain ⟨c, group, rest, hletter, hc, -, -⟩ := exists_letter h
  have hret := letter_ret optstring c group rest
  rw [hletter] at hret
  rcases hret with hbad | ⟨rfl, hoption⟩
  · exact .inl hbad
  · exact .inr ⟨hoption, hc⟩

/-- No characters come in. -/
lemma chars_of_getopt (h : getopt optstring a = some (hit, a')) : ∀ x ∈ a'.chars, x ∈ a.chars := by
  obtain ⟨c, group, rest, hletter, -, -, hchars⟩ := exists_letter h
  have hsub := (letter_args optstring c group rest).2
  rw [hletter] at hsub
  exact fun x hx => hchars x (hsub x hx)

/-! ### The loop -/

section Loop

variable {σ : Type} {step : σ → Hit → Option σ} {s : σ}

/-- The loop `while ((c = getopt(..)) != -1)`.  It is left for good when a step returns nothing. -/
def parse (optstring : Str) (step : σ → Hit → Option σ) (a : Args) (s : σ) : Option σ :=
  match _hget : getopt optstring a with
  | none => some s
  | some (hit, a') =>
    match step s hit with
    | none => none
    | some s' => parse optstring step a' s'
termination_by a.size
decreasing_by exact size_lt_of_getopt (by assumption)

/-- The loop ends when there are no more options. -/
lemma parse_end (h : getopt optstring a = none) : parse optstring step a s = some s := by
  rw [parse]
  split
  · rfl
  · rename_i hsome
    rw [h] at hsome
    cases hsome

/-- Otherwise it takes the option that is found. -/
lemma parse_step (h : getopt optstring a = some (hit, a')) : parse optstring step a s =
    match step s hit with
    | none => none
    | some s' => parse optstring step a' s' := by
  rw [parse]
  split
  · rename_i hnone
    rw [h] at hnone
    cases hnone
  · rename_i hit' a'' hsome
    obtain ⟨rfl, rfl⟩ := Prod.mk.inj (Option.some.inj (h.symm.trans hsome))
    rfl

/-- **The rule for invariants**: the loop ends regularly, with `I`, if it begins with `I` and the
options that can be found preserve it. -/
theorem parse_invariant {I : σ → Prop} (hs : I s)
    (hstep : ∀ s hit, I s →
      hit.ret = '?' ∨ takesArgument hit.ret optstring ≠ none ∧ hit.ret ∈ a.chars →
      ∃ s', step s hit = some s' ∧ I s') : ∃ s', parse optstring step a s = some s' ∧ I s' := by
  induction hn : a.size using Nat.strongRecOn generalizing a s with
  | ind n ih =>
    cases hget : getopt optstring a with
    | none => exact ⟨s, parse_end hget, hs⟩
    | some found =>
      obtain ⟨hit, a'⟩ := found
      obtain ⟨s', hs', hI⟩ := hstep s hit hs (ret_of_getopt hget)
      rw [parse_step hget, hs']
      refine ih a'.size (hn ▸ size_lt_of_getopt hget) hI ?_ rfl
      exact fun s hit hs hret => hstep s hit hs (hret.imp_right fun h =>
        ⟨h.1, chars_of_getopt hget _ h.2⟩)

end Loop

end Getopt
