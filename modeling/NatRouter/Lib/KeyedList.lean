import Mathlib.Data.List.Nodup
import Mathlib.Data.PEquiv
import Mathlib.Logic.Relation

/-!
# Tables of records with distinct keys

A linked list searched from its head for a record with a given key is a finite map as long as the
keys of its records are pairwise distinct: `find?_key_eq_some_iff`.  A list whose records carry two
such keys is a partial bijection between them, `toPEquiv`.

`Binding.Step` is what an allocator may do to such a bijection from keys to ids: bind a key without
an id to an id without a key, or release some bindings.  A key that stays bound keeps its id
(`Binding.Step.stable`, and `Binding.stable_of_steps` over a run).
-/

namespace KeyedList

variable {α κ ι : Type*} [DecidableEq κ] [DecidableEq ι] {key : α → κ} {idx : α → ι} {l : List α}

/-- Changing the record that has a key, where no other record has it. -/
lemma map_ite_key_eq {l₁ l₂ : List α} {a : α} {f : α → α} (h₁ : ∀ x ∈ l₁, key x ≠ key a)
    (h₂ : ∀ x ∈ l₂, key x ≠ key a) :
    ((l₁ ++ a :: l₂).map fun x => if key x = key a then f x else x) = l₁ ++ f a :: l₂ := by
  have hid : ∀ l : List α, (∀ x ∈ l, key x ≠ key a) →
      (l.map fun x => if key x = key a then f x else x) = l := fun l hl =>
    (List.map_congr_left fun x hx => if_neg (hl x hx)).trans (List.map_id' l)
  rw [List.map_append, List.map_cons, hid l₁ h₁, hid l₂ h₂, if_pos rfl]

/-- With pairwise distinct keys, the search for a key finds the record that has it. -/
lemma find?_key_eq_some_iff (h : (l.map key).Nodup) {k : κ} {a : α} :
    (l.find? fun x => key x = k) = some a ↔ a ∈ l ∧ key a = k := by
  constructor
  · intro hfind
    exact ⟨List.mem_of_find?_eq_some hfind, by simpa using List.find?_some hfind⟩
  · rintro ⟨ha, rfl⟩
    cases hfind : l.find? fun x => key x = key a with
    | none => exact absurd (List.find?_eq_none.mp hfind a ha) (by simp)
    | some b =>
      have hb : b ∈ l := List.mem_of_find?_eq_some hfind
      have hkey : key b = key a := by simpa using List.find?_some hfind
      rw [List.inj_on_of_nodup_map h hb ha hkey]

/-- The search for a key fails exactly when no record has it. -/
lemma find?_key_eq_none_iff {k : κ} :
    (l.find? fun x => key x = k) = none ↔ k ∉ l.map key := by
  simp [List.find?_eq_none]

/-- A search that can only find records of one kind may be made among the records of that kind, and
answers alike in two tables whose records of that kind look alike. -/
lemma find?_map_eq_of_filter_map_eq {β : Type*} {l l' : List α} {view : α → β} {p q : α → Bool}
    {p' : β → Bool} (hview : ∀ a, p' (view a) = p a)
    (h : (l.filter q).map view = (l'.filter q).map view)
    (hl : ∀ a ∈ l, p a = true → q a = true) (hl' : ∀ a ∈ l', p a = true → q a = true) :
    (l.find? p).map view = (l'.find? p).map view := by
  have hfilter : ∀ l : List α, (∀ a ∈ l, p a = true → q a = true) →
      (l.find? p).map view = ((l.filter q).map view).find? p' := by
    intro l hl
    have hp : p' ∘ view = p := funext hview
    rw [List.find?_map, hp, List.find?_filter]
    congr 1
    induction l with
    | nil => rfl
    | cons a l ih =>
      have hrest := ih fun b hb => hl b (List.mem_cons_of_mem a hb)
      have ha := hl a List.mem_cons_self
      by_cases hpa : p a = true
      · rw [List.find?_cons_of_pos hpa, List.find?_cons_of_pos (by simp [hpa, ha hpa])]
      · rw [List.find?_cons_of_neg hpa, List.find?_cons_of_neg (by simp [hpa]), hrest]
  rw [hfilter l hl, hfilter l' hl', h]

/-- A table whose records have pairwise distinct keys and pairwise distinct ids, as the partial
bijection that takes the key of each record to its id. -/
def toPEquiv (key : α → κ) (idx : α → ι) (l : List α) (hkey : (l.map key).Nodup)
    (hidx : (l.map idx).Nodup) : κ ≃. ι where
  toFun k := (l.find? fun x => key x = k).map idx
  invFun i := (l.find? fun x => idx x = i).map key
  inv k i := by
    simp only [Option.map_eq_some_iff, find?_key_eq_some_iff hkey, find?_key_eq_some_iff hidx]
    constructor
    · rintro ⟨a, ⟨ha, hi⟩, hk⟩
      exact ⟨a, ⟨ha, hk⟩, hi⟩
    · rintro ⟨a, ⟨ha, hk⟩, hi⟩
      exact ⟨a, ⟨ha, hi⟩, hk⟩

/-- The bindings of a table are those of its records. -/
lemma mem_toPEquiv {hkey : (l.map key).Nodup} {hidx : (l.map idx).Nodup} {k : κ} {i : ι} :
    i ∈ toPEquiv key idx l hkey hidx k ↔ ∃ a ∈ l, key a = k ∧ idx a = i := by
  change (l.find? fun x => key x = k).map idx = some i ↔ _
  simp only [Option.map_eq_some_iff, find?_key_eq_some_iff hkey]
  constructor
  · rintro ⟨a, ⟨ha, hk⟩, hi⟩
    exact ⟨a, ha, hk, hi⟩
  · rintro ⟨a, ha, hk, hi⟩
    exact ⟨a, ⟨ha, hk⟩, hi⟩

end KeyedList

namespace Binding

variable {κ ι : Type*}

/-- One step of an allocator of ids to keys. -/
inductive Step (f g : κ ≃. ι) : Prop
  /-- A key without an id is bound to an id without a key. -/
  | bind (k : κ) (i : ι) (hk : f k = none) (hi : f.symm i = none)
      (hg : ∀ k' i', i' ∈ g k' ↔ i' ∈ f k' ∨ k' = k ∧ i' = i)
  /-- Some bindings, perhaps none, are released. -/
  | release (h : g ≤ f)

/-- A key that is bound before and after a step has the same id. -/
lemma Step.stable {f g : κ ≃. ι} (h : Step f g) {k : κ} {i j : ι} (hi : i ∈ f k) (hj : j ∈ g k) :
    i = j := by
  cases h with
  | bind k₀ i₀ hk₀ hi₀ hg =>
    rcases (hg k j).mp hj with hj' | ⟨rfl, -⟩
    · exact Option.mem_unique hi hj'
    · rw [hk₀] at hi
      cases hi
  | release h => exact Option.mem_unique hi (h k j hj)

/-- Along a run through whose states a key stays bound, it keeps its id. -/
lemma stable_of_steps {f g : κ ≃. ι} {k : κ} {i j : ι}
    (h : Relation.ReflTransGen (fun f g : κ ≃. ι => Step f g ∧ (g k).isSome) f g) (hi : i ∈ f k)
    (hj : j ∈ g k) : i = j := by
  induction h generalizing j with
  | refl => exact Option.mem_unique hi hj
  | @tail f' g' hrun hstep ih =>
    obtain ⟨hstep, -⟩ := hstep
    have hbound : (f' k).isSome := by
      rcases Relation.ReflTransGen.cases_tail hrun with rfl | ⟨_, _, -, h⟩
      · exact Option.isSome_iff_exists.mpr ⟨i, hi⟩
      · exact h
    obtain ⟨j', hj'⟩ := Option.isSome_iff_exists.mp hbound
    rw [ih hj', hstep.stable hj' hj]

end Binding
