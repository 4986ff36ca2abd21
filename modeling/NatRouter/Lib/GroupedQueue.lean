import Mathlib.Data.List.Nodup
import Mathlib.Algebra.Order.Group.Multiset

/-!
# Queues of groups

A linked list of groups, each with a key of its own and a list of items that wait under this key, is
a way to keep one multiset of keyed items, the `content` of the list.  When the keys of the groups
are pairwise distinct, the group with key `k` holds exactly the items of the content with that key,
and to unlink it is to remove these items: `content_eraseP_key`.
-/

namespace GroupedQueue

variable {γ κ β : Type*} {key : γ → κ} {items : γ → List β} {l : List γ}

/-- The items of a list of groups, each with the key it waits under. -/
def content (key : γ → κ) (items : γ → List β) (l : List γ) : Multiset (κ × β) :=
  ↑(l.flatMap fun g => (items g).map fun b => (key g, b))

@[simp] lemma content_cons (g : γ) (l : List γ) :
    content key items (g :: l) =
      ((items g).map fun b => (key g, b) : Multiset (κ × β)) + content key items l := by
  simp [content]

lemma content_append (l l' : List γ) :
    content key items (l ++ l') = content key items l + content key items l' := by
  simp [content]

/-- An item of the content lies in some group. -/
lemma mem_content {w : κ × β} : w ∈ content key items l ↔ ∃ g ∈ l, key g = w.1 ∧ w.2 ∈ items g := by
  obtain ⟨k, b⟩ := w
  simp only [content, Multiset.mem_coe, List.mem_flatMap, List.mem_map, Prod.mk.injEq]
  constructor
  · rintro ⟨g, hg, b', hb', rfl, rfl⟩
    exact ⟨g, hg, rfl, hb'⟩
  · rintro ⟨g, hg, rfl, hb⟩
    exact ⟨g, hg, b, hb, rfl, rfl⟩

/-- A change of the groups that leaves keys and items alone leaves the content alone. -/
lemma content_map {f : γ → γ} (hkey : ∀ g, key (f g) = key g) (hitems : ∀ g, items (f g) = items g)
    (l : List γ) : content key items (l.map f) = content key items l := by
  induction l with
  | nil => rfl
  | cons a l ih => rw [List.map_cons, content_cons, content_cons, ih, hkey, hitems]

/-- Change the first group that satisfies `p`. -/
def modifyFirst (p : γ → Bool) (f : γ → γ) : List γ → List γ
  | [] => []
  | g :: l => if p g then f g :: l else g :: modifyFirst p f l

lemma modifyFirst_cons_of_pos {p : γ → Bool} {f : γ → γ} {g : γ} (h : p g = true) :
    modifyFirst p f (g :: l) = f g :: l := if_pos h

lemma modifyFirst_cons_of_neg {p : γ → Bool} {f : γ → γ} {g : γ} (h : ¬ p g = true) :
    modifyFirst p f (g :: l) = g :: modifyFirst p f l := if_neg h

/-- The groups before the first one that satisfies `p`, and those behind it, are left alone. -/
lemma modifyFirst_append {p : γ → Bool} {f : γ → γ} {g : γ} {l₁ l₂ : List γ}
    (hbefore : ∀ g' ∈ l₁, ¬ p g' = true) (hg : p g = true) :
    modifyFirst p f (l₁ ++ g :: l₂) = l₁ ++ f g :: l₂ := by
  induction l₁ with
  | nil => exact modifyFirst_cons_of_pos hg
  | cons a l₁ ih =>
    obtain ⟨ha, hbefore⟩ := List.forall_mem_cons.mp hbefore
    rw [List.cons_append, modifyFirst_cons_of_neg ha, ih hbefore, List.cons_append]

/-- A group stays on the list unless it satisfies `p`, and if no other group does it is the one that is
changed. -/
lemma mem_modifyFirst {p : γ → Bool} {f : γ → γ} {g : γ} (hg : g ∈ l)
    (honly : p g = true → ∀ g' ∈ l, p g' = true → g' = g) :
    (if p g then f g else g) ∈ modifyFirst p f l := by
  induction l with
  | nil => cases hg
  | cons a l ih =>
    by_cases ha : p a = true
    · rw [modifyFirst_cons_of_pos ha]
      by_cases hpg : p g = true
      · obtain rfl := honly hpg a List.mem_cons_self ha
        rw [if_pos ha]
        exact List.mem_cons_self
      · rw [if_neg hpg]
        rcases List.mem_cons.mp hg with rfl | hg
        · exact absurd ha hpg
        · exact List.mem_cons_of_mem _ hg
    · rw [modifyFirst_cons_of_neg ha]
      rcases List.mem_cons.mp hg with rfl | hg
      · rw [if_neg ha]
        exact List.mem_cons_self
      · exact List.mem_cons_of_mem _
          (ih hg fun hpg g' hg' => honly hpg g' (List.mem_cons_of_mem _ hg'))

/-- What a change leaves alone in a group it leaves alone in the list. -/
lemma map_modifyFirst {δ : Type*} {v : γ → δ} {p : γ → Bool} {f : γ → γ}
    (hf : ∀ g, v (f g) = v g) (l : List γ) : (modifyFirst p f l).map v = l.map v := by
  induction l with
  | nil => rfl
  | cons a l ih =>
    by_cases ha : p a = true
    · rw [modifyFirst_cons_of_pos ha, List.map_cons, List.map_cons, hf]
    · rw [modifyFirst_cons_of_neg ha, List.map_cons, List.map_cons, ih]

/-- What all groups have and a change keeps all groups have afterwards. -/
lemma forall_mem_modifyFirst {P : γ → Prop} {p : γ → Bool} {f : γ → γ} (hl : ∀ g ∈ l, P g)
    (hf : ∀ g, P g → P (f g)) : ∀ g ∈ modifyFirst p f l, P g := by
  induction l with
  | nil => exact hl
  | cons a l ih =>
    obtain ⟨ha, hl⟩ := List.forall_mem_cons.mp hl
    by_cases hp : p a = true
    · rw [modifyFirst_cons_of_pos hp]
      exact List.forall_mem_cons.mpr ⟨hf a ha, hl⟩
    · rw [modifyFirst_cons_of_neg hp]
      exact List.forall_mem_cons.mpr ⟨ha, ih hl⟩

section Key

variable [DecidableEq κ]

/-- The items under a key that no group has are none. -/
lemma filter_content_eq_zero {k : κ} (hk : k ∉ l.map key) :
    (content key items l).filter (fun w => w.1 = k) = 0 := by
  rw [Multiset.filter_eq_nil]
  intro w hw hwk
  obtain ⟨g, hg, hgw, -⟩ := mem_content.mp hw
  exact hk (List.mem_map.mpr ⟨g, hg, hgw.trans hwk⟩)

/-- The items of a group are those of its key. -/
lemma filter_map_self (g : γ) :
    ((items g).map fun b => (key g, b) : Multiset (κ × β)).filter (fun w => w.1 = key g) =
      ((items g).map fun b => (key g, b) : Multiset (κ × β)) := by
  rw [Multiset.filter_eq_self]
  intro w hw
  obtain ⟨b, -, rfl⟩ := List.mem_map.mp (Multiset.mem_coe.mp hw)
  rfl

/-- The items of a group are not those of another key. -/
lemma filter_map_other {g : γ} {k : κ} (h : key g ≠ k) :
    ((items g).map fun b => (key g, b) : Multiset (κ × β)).filter (fun w => w.1 = k) = 0 := by
  rw [Multiset.filter_eq_nil]
  intro w hw
  obtain ⟨b, -, rfl⟩ := List.mem_map.mp (Multiset.mem_coe.mp hw)
  exact h

/-- With pairwise distinct keys, a group holds all the items under its key. -/
lemma filter_content_key (hl : (l.map key).Nodup) {g : γ} (hg : g ∈ l) :
    (content key items l).filter (fun w => w.1 = key g) =
      ((items g).map fun b => (key g, b) : Multiset (κ × β)) := by
  induction l with
  | nil => cases hg
  | cons a l ih =>
    obtain ⟨ha, hl⟩ := List.nodup_cons.mp hl
    rw [content_cons, Multiset.filter_add]
    rcases List.mem_cons.mp hg with rfl | hg
    · rw [filter_map_self, filter_content_eq_zero ha, add_zero]
    · have hne : key a ≠ key g := fun h => ha (h ▸ List.mem_map_of_mem hg)
      rw [filter_map_other hne, ih hl hg, zero_add]

/-- With pairwise distinct keys, to unlink the first group with a key is to keep the groups with other
keys. -/
lemma eraseP_key_eq_filter (hl : (l.map key).Nodup) (k : κ) :
    (l.eraseP fun g => key g = k) = l.filter fun g => key g ≠ k := by
  induction l with
  | nil => rfl
  | cons a l ih =>
    obtain ⟨ha, hl⟩ := List.nodup_cons.mp hl
    by_cases hk : key a = k
    · subst hk
      have hall : ∀ g ∈ l, decide (key g ≠ key a) = true := by
        intro g hg
        have hne : key g ≠ key a := fun h => ha (h ▸ List.mem_map_of_mem hg)
        simpa using hne
      rw [List.eraseP_cons_of_pos (by simp), List.filter_cons_of_neg (by simp),
        List.filter_eq_self.mpr hall]
    · rw [List.eraseP_cons_of_neg (by simpa using hk), List.filter_cons_of_pos (by simpa using hk),
        ih hl]

/-- The items of the groups with other keys. -/
lemma content_filter_key (l : List γ) (k : κ) :
    content key items (l.filter fun g => key g ≠ k) =
      (content key items l).filter fun w => w.1 ≠ k := by
  induction l with
  | nil => rfl
  | cons a l ih =>
    rw [content_cons, Multiset.filter_add]
    by_cases hk : key a = k
    · subst hk
      have hnone : ((items a).map fun b => (key a, b) : Multiset (κ × β)).filter
          (fun w => w.1 ≠ key a) = 0 := by
        rw [Multiset.filter_eq_nil]
        intro w hw
        obtain ⟨b, -, rfl⟩ := List.mem_map.mp (Multiset.mem_coe.mp hw)
        simp
      rw [List.filter_cons_of_neg (by simp), hnone, zero_add, ih]
    · have hself : ((items a).map fun b => (key a, b) : Multiset (κ × β)).filter
          (fun w => w.1 ≠ k) = ((items a).map fun b => (key a, b) : Multiset (κ × β)) := by
        rw [Multiset.filter_eq_self]
        intro w hw
        obtain ⟨b, -, rfl⟩ := List.mem_map.mp (Multiset.mem_coe.mp hw)
        exact hk
      rw [List.filter_cons_of_pos (by simpa using hk), content_cons, ih, hself]

/-- With pairwise distinct keys, to unlink the group of a key is to remove the items under it. -/
lemma content_eraseP_key (hl : (l.map key).Nodup) (k : κ) :
    content key items (l.eraseP fun g => key g = k) =
      (content key items l).filter fun w => w.1 ≠ k := by
  rw [eraseP_key_eq_filter hl, content_filter_key]

/-- An item put into the group of its key joins the content. -/
lemma content_modifyFirst {f : γ → γ} {k : κ} {b : β} (hkey : ∀ g, key (f g) = key g)
    (hitems : ∀ g, items (f g) = b :: items g) (hk : k ∈ l.map key) :
    content key items (modifyFirst (fun g => key g = k) f l) = (k, b) ::ₘ content key items l := by
  induction l with
  | nil => cases hk
  | cons a l ih =>
    by_cases ha : key a = k
    · subst ha
      rw [modifyFirst_cons_of_pos (by simp), content_cons, content_cons, hkey, hitems,
        List.map_cons, ← Multiset.cons_coe, Multiset.cons_add]
    · have hl : k ∈ l.map key := by
        rcases List.mem_cons.mp hk with h | h
        · exact absurd h.symm ha
        · exact h
      rw [modifyFirst_cons_of_neg (by simpa using ha), content_cons, content_cons, ih hl,
        Multiset.add_cons]

end Key

end GroupedQueue
