import NatRouter.Arp.Accounting

/-!
# The ARP cache as a map

The table of the ARP cache stands for a map from IP to Ethernet addresses as long as no IP address
has two valid entries (`UniqueEntries`).  `sr_arpcache_insert` looks neither for an entry that the
address already has nor for one to throw out of a full table, so an insertion does what the map wants
exactly when it finds a free entry and the address has none yet, or the table is full and holds the
same Ethernet address already (`InsertFits`).
-/

namespace NatRouter

open Relation

/-- How many valid entries `ip` has. -/
def SrArpcache.entryCount (cache : SrArpcache) (ip : UInt32) : ℕ :=
  cache.entries.toList.countP (isEntryFor ip)

/-- No address has two valid entries. -/
def SrArpcache.UniqueEntries (cache : SrArpcache) : Prop := ∀ ip, cache.entryCount ip ≤ 1

/-- Some entry is free. -/
def SrArpcache.HasFree (cache : SrArpcache) : Prop := ∃ entry ∈ cache.entries, entry.valid = false

/-- The insertion of `ip ↦ mac` finds the table as it should be: there is a free entry, and `ip` has
none; or there is no free entry, and `ip` is at `mac` already. -/
def InsertFits (cache : SrArpcache) (mac : Mac) (ip : UInt32) : Prop :=
  cache.HasFree ∧ cache.entryCount ip = 0 ∨
    ¬ cache.HasFree ∧ (srArpcacheLookup cache ip).map SrArpentry.mac = some mac

/-- The insertion has the effect it has on a map: the address has one entry still, which is found
when it is looked up. -/
def InsertCorrect (cache : SrArpcache) (now : Time) (mac : Mac) (ip : UInt32) : Prop :=
  (srArpcacheInsert cache now mac ip).2.UniqueEntries ∧
    (srArpcacheLookup (srArpcacheInsert cache now mac ip).2 ip).map SrArpentry.mac = some mac

/-- A history of the table. -/
inductive CacheStep : SrArpcache → SrArpcache → Prop
  /-- An address is inserted, at any time. -/
  | insert (cache : SrArpcache) (now : Time) (mac : Mac) (ip : UInt32) (h : InsertFits cache mac ip) :
      CacheStep cache (srArpcacheInsert cache now mac ip).2
  /-- The entries past their time are invalidated. -/
  | expire (cache : SrArpcache) (curtime : Time) : CacheStep cache (srArpcacheExpire cache curtime)

/-! ### Lookup -/

/-- The only valid entry for an address is found. -/
lemma srArpcacheLookup_of_entryCount {cache : SrArpcache} {ip : UInt32} {entry : SrArpentry}
    (hcount : cache.entryCount ip = 1) (hmem : entry ∈ cache.entries)
    (hentry : isEntryFor ip entry = true) : srArpcacheLookup cache ip = some entry := by
  rw [srArpcacheLookup_eq]
  have hlength : (cache.entries.toList.filter (isEntryFor ip)).length = 1 := by
    rw [← List.countP_eq_length_filter]
    exact hcount
  obtain ⟨a, ha⟩ := List.length_eq_one_iff.mp hlength
  have hin : entry ∈ cache.entries.toList.filter (isEntryFor ip) :=
    List.mem_filter.mpr ⟨Vector.mem_toList_iff.mpr hmem, hentry⟩
  rw [ha] at hin ⊢
  rw [List.mem_singleton.mp hin]
  rfl

/-! ### Insertion and expiry -/

/-- The entry that the search for a free one finds is free. -/
lemma getElem_findFinIdx? {α : Type} {n : ℕ} {p : α → Bool} {xs : Vector α n} {i : Fin n}
    (h : xs.findFinIdx? p = some i) : p xs[i] = true := by
  obtain ⟨xs, rfl⟩ := xs
  have h' : xs.findFinIdx? p = some i := by simpa using h
  exact (Array.findFinIdx?_eq_some_iff.mp h').1

section Operations

variable {cache : SrArpcache}

/-- Into a table with a free entry, an insertion adds one entry for its address. -/
lemma insert_of_hasFree (h : cache.HasFree) (now : Time) (mac : Mac) (ip : UInt32) :
    (∀ ip', (srArpcacheInsert cache now mac ip).2.entryCount ip' =
        cache.entryCount ip' + if ip = ip' then 1 else 0) ∧
      (⟨mac, ip, now, true⟩ : SrArpentry) ∈ (srArpcacheInsert cache now mac ip).2.entries := by
  obtain ⟨free, hmem, hfree⟩ := h
  cases hfind : cache.entries.findFinIdx? fun entry => !entry.valid with
  | none =>
    have hvalid := Vector.findFinIdx?_eq_none_iff.mp hfind free hmem
    simp [hfree] at hvalid
  | some i =>
    have hentries : (srArpcacheInsert cache now mac ip).2.entries =
        cache.entries.set i ⟨mac, ip, now, true⟩ := by
      simp only [srArpcacheInsert, hfind]
    have hi : cache.entries[i.val].valid = false := by simpa using getElem_findFinIdx? hfind
    refine ⟨fun ip' => ?_, hentries ▸ Vector.mem_set _⟩
    unfold SrArpcache.entryCount
    rw [hentries, Vector.toList_set, List.countP_set (by simp)]
    simp [isEntryFor, hi]

/-- A full table is left as it is. -/
lemma insert_of_full (h : ¬ cache.HasFree) (now : Time) (mac : Mac) (ip : UInt32) :
    (srArpcacheInsert cache now mac ip).2.entries = cache.entries := by
  have hfind : (cache.entries.findFinIdx? fun entry => !entry.valid) = none := by
    refine Vector.findFinIdx?_eq_none_iff.mpr fun entry hmem hfree => h ⟨entry, hmem, ?_⟩
    simpa using hfree
  simp only [srArpcacheInsert, hfind]

/-- **One insertion** into a table without duplicates is correct exactly when it fits. -/
lemma insertCorrect_iff (h : cache.UniqueEntries) (now : Time) (mac : Mac) (ip : UInt32) :
    InsertCorrect cache now mac ip ↔ InsertFits cache mac ip := by
  by_cases hfree : cache.HasFree
  · obtain ⟨hcount, hmem⟩ := insert_of_hasFree hfree now mac ip
    constructor
    · intro hcorrect
      have hle := hcorrect.1 ip
      rw [hcount, if_pos rfl] at hle
      exact .inl ⟨hfree, by omega⟩
    · rintro (⟨-, hnone⟩ | ⟨hfull, -⟩)
      · refine ⟨?_, ?_⟩
        · intro ip'
          rw [hcount]
          split
          · rename_i heq
            rw [← heq, hnone]
          · exact h ip'
        · have hone : (srArpcacheInsert cache now mac ip).2.entryCount ip = 1 := by
            rw [hcount, hnone, if_pos rfl]
          rw [srArpcacheLookup_of_entryCount hone hmem (by simp [isEntryFor])]
          rfl
      · exact absurd hfree hfull
  · have hentries := insert_of_full hfree now mac ip
    have hunique : (srArpcacheInsert cache now mac ip).2.UniqueEntries := by
      intro ip'
      unfold SrArpcache.entryCount
      rw [hentries]
      exact h ip'
    unfold InsertCorrect
    rw [srArpcacheLookup_congr hentries]
    exact ⟨fun hcorrect => .inr ⟨hfree, hcorrect.2⟩, fun hfits =>
      ⟨hunique, hfits.elim (fun hfits => absurd hfits.1 hfree) And.right⟩⟩

/-- To invalidate entries makes no duplicates. -/
lemma SrArpcache.UniqueEntries.expire (h : cache.UniqueEntries) (curtime : Time) :
    (srArpcacheExpire cache curtime).UniqueEntries := by
  intro ip
  refine Nat.le_trans ?_ (h ip)
  unfold SrArpcache.entryCount srArpcacheExpire
  rw [Vector.toList_map, List.countP_map]
  apply List.countP_mono_left
  intro entry _ hentry
  simp only [Function.comp_apply] at hentry
  split at hentry
  · simp [isEntryFor] at hentry
  · exact hentry

end Operations

/-- The empty table has no duplicates. -/
lemma uniqueEntries_srArpcacheInit : srArpcacheInit.UniqueEntries := by
  intro ip
  have hcount : srArpcacheInit.entryCount ip = 0 := by
    apply List.countP_eq_zero.mpr
    intro entry hentry
    have hentry' := Vector.toList_replicate ▸ hentry
    rw [List.eq_of_mem_replicate hentry']
    simp [isEntryFor]
  rw [hcount]
  exact Nat.zero_le 1

/-- **The ARP cache as a map.**  In every history of insertions that fit and of expiry sweeps, no
address has two valid entries; and the next insertion keeps it so, and is found when its address is
looked up, if and only if it fits as well. -/
theorem arpcache_newestWins {cache : SrArpcache} (h : ReflTransGen CacheStep srArpcacheInit cache) :
    cache.UniqueEntries ∧
      ∀ now mac ip, InsertCorrect cache now mac ip ↔ InsertFits cache mac ip := by
  have hunique : cache.UniqueEntries := by
    induction h with
    | refl => exact uniqueEntries_srArpcacheInit
    | tail _ hstep ih =>
      cases hstep with
      | insert now mac ip hfits => exact ((insertCorrect_iff ih now mac ip).mpr hfits).1
      | expire curtime => exact ih.expire curtime
  exact ⟨hunique, insertCorrect_iff hunique⟩

/-- The table when an address was inserted and its entry has expired. -/
def expiredCache : SrArpcache :=
  srArpcacheExpire (srArpcacheInsert srArpcacheInit 0 (Vector.replicate 6 1) 7).2 20

/-- The address is inserted once more, and found where it is now. -/
theorem arpcache_newestWins_renewed : ReflTransGen CacheStep srArpcacheInit expiredCache ∧
    expiredCache.UniqueEntries ∧ InsertCorrect expiredCache 20 (Vector.replicate 6 2) 7 := by
  have hfirst : InsertFits srArpcacheInit (Vector.replicate 6 1) 7 :=
    .inl ⟨⟨srArpcacheInit.entries[0], Vector.getElem_mem _, by decide +kernel⟩, by decide +kernel⟩
  have hsteps : ReflTransGen CacheStep srArpcacheInit expiredCache :=
    .tail (.single (.insert srArpcacheInit 0 (Vector.replicate 6 1) 7 hfirst)) (.expire _ 20)
  obtain ⟨hunique, hcorrect⟩ := arpcache_newestWins hsteps
  refine ⟨hsteps, hunique, (hcorrect 20 (Vector.replicate 6 2) 7).mpr (.inl ⟨?_, by decide +kernel⟩)⟩
  exact ⟨expiredCache.entries[0], Vector.getElem_mem _, by decide +kernel⟩

/-- Two insertions for one address leave it with two valid entries. -/
theorem arpcache_duplicates :
    ¬ (srArpcacheInsert (srArpcacheInsert srArpcacheInit 0 (Vector.replicate 6 1) 7).2 1
        (Vector.replicate 6 2) 7).2.UniqueEntries := by
  intro h
  exact absurd (h 7) (by decide +kernel)

end NatRouter
