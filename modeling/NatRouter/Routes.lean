import Mathlib.Tactic.IntervalCases
import NatRouter.Network
import NatRouter.Lib.FirstMaximum

/-!
# Longest-prefix match (`sr_rt.c`)

What a routing lookup is for: `LongestMatch` says which entry of a table a destination goes to when
the entries are ordered by the number of leading ones of their masks.  `sr_rt_lookup` compares the
masks themselves, which comes to the same for contiguous masks, and starts from the mask `0.0.0.0`
as the one to beat.
-/

namespace NatRouter

open FirstMaximum (IsFirstMax)

/-- The destination lies in the network of the entry. -/
def SrRt.Matches (e : SrRt) (ip : UInt32) : Prop := ip &&& e.mask = e.dest &&& e.mask

instance (e : SrRt) (ip : UInt32) : Decidable (e.Matches ip) :=
  inferInstanceAs (Decidable (_ = _))

/-- The mask whose `n` leading bits are ones, as a number. -/
def leadingOnes (n : ℕ) : ℕ := 2 ^ 32 - 2 ^ (32 - n)

/-- A contiguous mask: ones followed by zeros, the number of ones from `0` to `32`. -/
def IsContiguous (mask : UInt32) : Prop := ∃ n ≤ 32, (ntohl mask).toNat = leadingOnes n

/-- The length of a mask, the number of its ones. -/
def maskLength (mask : UInt32) : ℕ :=
  (List.range 32).countP fun i => (ntohl mask).toNat.testBit i

/-- What a longest-prefix match returns: nothing if no entry matches, and else the first of the
matching entries with the longest mask. -/
def LongestMatch (rt : List SrRt) (ip : UInt32) : Option SrRt → Prop
  | none => ∀ e ∈ rt, ¬ e.Matches ip
  | some e => IsFirstMax (fun e : SrRt => e.Matches ip) (fun e => maskLength e.mask) rt e

/-- The longest match is an entry of the table. -/
lemma LongestMatch.mem {rt : List SrRt} {ip : UInt32} {e : SrRt} (h : LongestMatch rt ip (some e)) :
    e ∈ rt := by
  have hmax : IsFirstMax (fun e : SrRt => e.Matches ip) (fun e => maskLength e.mask) rt e := h
  exact hmax.mem

/-- It matches. -/
lemma LongestMatch.accepted {rt : List SrRt} {ip : UInt32} {e : SrRt}
    (h : LongestMatch rt ip (some e)) : e.Matches ip := by
  have hmax : IsFirstMax (fun e : SrRt => e.Matches ip) (fun e => maskLength e.mask) rt e := h
  exact hmax.accepted

/-- Longer masks are greater numbers. -/
lemma leadingOnes_lt_iff {n m : ℕ} (hn : n ≤ 32) (hm : m ≤ 32) :
    leadingOnes n < leadingOnes m ↔ n < m := by
  have hpos : 2 ^ (32 - n) ≤ 2 ^ 32 := Nat.pow_le_pow_right (by decide) (by omega)
  have hlt : 2 ^ (32 - m) < 2 ^ (32 - n) ↔ 32 - m < 32 - n :=
    Nat.pow_lt_pow_iff_right (by decide)
  unfold leadingOnes
  omega

/-- The ones of a contiguous mask are its leading ones. -/
lemma countP_leadingOnes {n : ℕ} (hn : n ≤ 32) :
    ((List.range 32).countP fun i => (leadingOnes n).testBit i) = n := by
  interval_cases n <;> decide

lemma maskLength_of_contiguous {mask : UInt32} (h : IsContiguous mask) :
    maskLength mask ≤ 32 ∧ (ntohl mask).toNat = leadingOnes (maskLength mask) := by
  obtain ⟨n, hn, hmask⟩ := h
  have hlength : maskLength mask = n := by rw [maskLength, hmask, countP_leadingOnes hn]
  rw [hlength]
  exact ⟨hn, hmask⟩

/-- Contiguous masks compare as their lengths do. -/
lemma ntohl_lt_ntohl_iff {mask mask' : UInt32} (h : IsContiguous mask) (h' : IsContiguous mask') :
    (ntohl mask).toNat < (ntohl mask').toNat ↔ maskLength mask < maskLength mask' := by
  obtain ⟨hle, hmask⟩ := maskLength_of_contiguous h
  obtain ⟨hle', hmask'⟩ := maskLength_of_contiguous h'
  rw [hmask, hmask', leadingOnes_lt_iff hle hle']

/-- The mask `0.0.0.0` is the one whose number is zero. -/
lemma ntohl_toNat_eq_zero {mask : UInt32} : (ntohl mask).toNat = 0 ↔ mask = 0 := by
  rw [← UInt32.toNat_zero, UInt32.toNat_inj]
  exact @ntohl_inj mask 0

/-- The walk of `sr_rt_lookup` keeps the first maximum of the masks. -/
lemma srRtLookupLoop_eq_scan (ip : UInt32) (rt : List SrRt) (lpm : Option SrRt) (longest : UInt32) :
    srRtLookupLoop ip rt lpm longest =
      FirstMaximum.scan (fun e : SrRt => e.Matches ip) (fun e => (ntohl e.mask).toNat) rt lpm
        longest.toNat := by
  induction rt generalizing lpm longest with
  | nil => rfl
  | cons e rt ih =>
    have hstep : (ip &&& e.mask = e.dest &&& e.mask ∧ longest < ntohl e.mask) ↔
        e.Matches ip ∧ longest.toNat < (ntohl e.mask).toNat := by
      rw [UInt32.lt_iff_toNat_lt, SrRt.Matches]
    by_cases h : e.Matches ip ∧ longest.toNat < (ntohl e.mask).toNat
    · rw [srRtLookupLoop, if_pos (hstep.mpr h), ih, FirstMaximum.scan, if_pos h]
    · rw [srRtLookupLoop, if_neg (mt hstep.mp h), ih, FirstMaximum.scan, if_neg h]

/-- Among contiguous masks the greatest is the longest. -/
lemma longestMatch_of_isFirstMax {rt : List SrRt} {ip : UInt32} {e : SrRt}
    (hrt : ∀ e ∈ rt, IsContiguous e.mask)
    (h : IsFirstMax (fun e : SrRt => e.Matches ip) (fun e => (ntohl e.mask).toNat) rt e) :
    LongestMatch rt ip (some e) := by
  obtain ⟨before, after, rfl, hok, hbefore, hafter⟩ := h
  refine ⟨before, after, rfl, hok, fun b hb hokb => ?_, fun b hb hokb => ?_⟩
  · have hb' := hrt b (by simp [hb])
    exact (ntohl_lt_ntohl_iff hb' (hrt e (by simp))).mp (hbefore b hb hokb)
  · have hb' := hrt b (by simp [hb])
    refine not_lt.mp fun hlt => ?_
    have := (ntohl_lt_ntohl_iff (hrt e (by simp)) hb').mpr hlt
    exact absurd (hafter b hb hokb) (not_le.mpr this)

/-- What the walk finds: the longest match, if a matching entry has a mask other than `0.0.0.0`,
and else nothing. -/
lemma srRtLookupLoop_cases {rt : List SrRt} {ip : UInt32} (hrt : ∀ e ∈ rt, IsContiguous e.mask) :
    ((∀ e ∈ rt, e.Matches ip → e.mask = 0) ∧ srRtLookupLoop ip rt none 0 = none) ∨
      ∃ e, LongestMatch rt ip (some e) ∧ e.mask ≠ 0 ∧ srRtLookupLoop ip rt none 0 = some e := by
  rw [srRtLookupLoop_eq_scan, UInt32.toNat_zero]
  rcases @FirstMaximum.scan_cases _ _ _ (fun e : SrRt => e.Matches ip)
    (fun e => (ntohl e.mask).toNat) _ rt none 0 with ⟨hle, hscan⟩ | ⟨e, hmax, hpos, hscan⟩
  · exact .inl ⟨fun e he hok => ntohl_toNat_eq_zero.mp (Nat.le_zero.mp (hle e he hok)), hscan⟩
  · exact .inr ⟨e, longestMatch_of_isFirstMax hrt hmax,
      fun hmask => hpos.ne' (ntohl_toNat_eq_zero.mpr hmask), hscan⟩

/-- On a table of contiguous masks the lookup returns the longest match exactly when there is a
table, and either no entry of it matches or one with a mask other than `0.0.0.0` does: an entry for
the whole address space is never found. -/
theorem srRtLookup_longest_match_iff (rt : List SrRt) (ip : UInt32)
    (hrt : ∀ e ∈ rt, IsContiguous e.mask) :
    (∃ r, srRtLookup rt ip = .ok r ∧ LongestMatch rt ip r) ↔
      rt ≠ [] ∧ ((∀ e ∈ rt, ¬ e.Matches ip) ∨ ∃ e ∈ rt, e.Matches ip ∧ e.mask ≠ 0) := by
  unfold srRtLookup
  by_cases hnil : rt = []
  · simp [hnil]
  rw [if_neg (mt List.isEmpty_iff.mp hnil)]
  simp only [Except.ok.injEq, exists_eq_left', ne_eq, hnil, not_false_eq_true, true_and]
  rcases @srRtLookupLoop_cases rt ip hrt with ⟨hall, hloop⟩ | ⟨e, hmax, hmask, hloop⟩
  · rw [hloop]
    constructor
    · exact Or.inl
    · rintro (hnone | ⟨e, he, hok, hmask⟩)
      · exact hnone
      · exact absurd (hall e he hok) hmask
  · rw [hloop]
    exact ⟨fun _ => .inr ⟨e, hmax.mem, hmax.accepted, hmask⟩, fun _ => hmax⟩

/-- The first entry of the routing table in INSTRUCTIONS, `0.0.0.0 10.0.1.1 0.0.0.0 eth3`. -/
def defaultRoute : SrRt := ⟨0, 0x0101000a, 0, [101, 116, 104, 51]⟩

/-- Its second entry, `107.21.41.195 107.21.41.195 255.255.255.255 eth1`. -/
def hostRoute : SrRt := ⟨0xc329156b, 0xc329156b, 0xffffffff, [101, 116, 104, 49]⟩

lemma isContiguous_default : IsContiguous defaultRoute.mask := ⟨0, by decide, by decide⟩

lemma isContiguous_host : IsContiguous hostRoute.mask := ⟨32, by decide, by decide⟩

/-- The host route of the example table is found for its host. -/
theorem srRtLookup_longest_match_example :
    ∃ r, srRtLookup [defaultRoute, hostRoute] hostRoute.dest = .ok r ∧
      LongestMatch [defaultRoute, hostRoute] hostRoute.dest r :=
  (srRtLookup_longest_match_iff [defaultRoute, hostRoute] hostRoute.dest (by
    simp [isContiguous_default, isContiguous_host])).mpr ⟨by decide, .inr ⟨hostRoute, by simp, by decide, by decide⟩⟩

/-- With a default route in its table the router finds no route to a destination that only the
default route matches. -/
theorem default_route_not_found :
    (∀ e ∈ [defaultRoute, hostRoute], IsContiguous e.mask) ∧
      srRtLookup [defaultRoute, hostRoute] 0x08080808 = .ok none ∧
      LongestMatch [defaultRoute, hostRoute] 0x08080808 (some defaultRoute) ∧
      ¬ LongestMatch [defaultRoute, hostRoute] 0x08080808 none := by
  refine ⟨by simp [isContiguous_default, isContiguous_host], rfl, ?_, ?_⟩
  · exact ⟨[], [hostRoute], rfl, rfl, by simp, fun b hb hok => by
      obtain rfl : b = hostRoute := by simpa using hb
      exact absurd hok (by decide)⟩
  · exact fun h => h defaultRoute (by simp) (by decide)

end NatRouter
