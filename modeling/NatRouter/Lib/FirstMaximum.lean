import Mathlib.Order.Lattice
import Mathlib.Tactic.Common

/-!
# The first maximum of a scan

A loop over a list that keeps the best element so far and replaces it when it meets an acceptable
element with a strictly greater key.  The loop starts from a bound: an element whose key does not
exceed it is never taken.  If some acceptable element exceeds the bound the result is the first one
of greatest key, and otherwise it is what the loop started with (`scan_cases`).
-/

namespace FirstMaximum

variable {α κ : Type*} [LinearOrder κ] {ok : α → Prop} {key : α → κ}

/-- `a` is the first of the acceptable elements of `l` with the greatest key: those before it have
smaller keys, and those after it no greater ones. -/
def IsFirstMax (ok : α → Prop) (key : α → κ) (l : List α) (a : α) : Prop :=
  ∃ before after, l = before ++ a :: after ∧ ok a ∧
    (∀ b ∈ before, ok b → key b < key a) ∧ ∀ b ∈ after, ok b → key b ≤ key a

namespace IsFirstMax

variable {l : List α} {a b : α}

lemma mem (h : IsFirstMax ok key l a) : a ∈ l := by
  obtain ⟨before, after, rfl, -⟩ := h
  simp

lemma accepted (h : IsFirstMax ok key l a) : ok a := by
  obtain ⟨before, after, -, hok, -⟩ := h
  exact hok

/-- An element that is not acceptable, or has a smaller key, may stand in front. -/
lemma cons (h : IsFirstMax ok key l a) (hb : ok b → key b < key a) :
    IsFirstMax ok key (b :: l) a := by
  obtain ⟨before, after, rfl, hok, hbefore, hafter⟩ := h
  refine ⟨b :: before, after, rfl, hok, ?_, hafter⟩
  intro c hc hokc
  rcases List.mem_cons.mp hc with rfl | hc
  · exact hb hokc
  · exact hbefore c hc hokc

/-- An acceptable element that nothing later exceeds is the first maximum of the list it heads. -/
lemma head (hok : ok a) (hl : ∀ b ∈ l, ok b → key b ≤ key a) : IsFirstMax ok key (a :: l) a :=
  ⟨[], l, rfl, hok, by simp, hl⟩

end IsFirstMax

variable [DecidablePred ok]

/-- The loop: `best` is the best element so far and `bound` what a better one has to exceed. -/
def scan (ok : α → Prop) [DecidablePred ok] (key : α → κ) : List α → Option α → κ → Option α
  | [], best, _ => best
  | a :: l, best, bound =>
    if ok a ∧ bound < key a then scan ok key l (some a) (key a) else scan ok key l best bound

/-- The loop returns what it started with exactly when nothing exceeds the bound, and else the
first maximum of the rest of the list. -/
lemma scan_cases (l : List α) (best : Option α) (bound : κ) :
    ((∀ a ∈ l, ok a → key a ≤ bound) ∧ scan ok key l best bound = best) ∨
      ∃ a, IsFirstMax ok key l a ∧ bound < key a ∧ scan ok key l best bound = some a := by
  induction l generalizing best bound with
  | nil => exact .inl ⟨by simp, rfl⟩
  | cons b l ih =>
    by_cases hb : ok b ∧ bound < key b
    · obtain ⟨hok, hlt⟩ := hb
      rw [scan, if_pos ⟨hok, hlt⟩]
      rcases ih (some b) (key b) with ⟨hle, hscan⟩ | ⟨a, hmax, hba, hscan⟩
      · exact .inr ⟨b, .head hok hle, hlt, hscan⟩
      · exact .inr ⟨a, hmax.cons fun _ => hba, hlt.trans hba, hscan⟩
    · rw [scan, if_neg hb]
      have hle : ok b → key b ≤ bound := fun hok => not_lt.mp fun hlt => hb ⟨hok, hlt⟩
      rcases ih best bound with ⟨hrest, hscan⟩ | ⟨a, hmax, hlt, hscan⟩
      · refine .inl ⟨?_, hscan⟩
        intro a ha
        rcases List.mem_cons.mp ha with rfl | ha
        · exact hle
        · exact hrest a ha
      · exact .inr ⟨a, hmax.cons fun hok => (hle hok).trans_lt hlt, hlt, hscan⟩

end FirstMaximum
