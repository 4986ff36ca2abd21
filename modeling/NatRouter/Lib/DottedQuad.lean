import Mathlib.Algebra.GroupWithZero.Nat
import Mathlib.Data.List.Basic
import Mathlib.Tactic.Common

/-!
# Numbers and internet addresses as text

Text is a list of ASCII bytes.  `number?` reads a C integer constant, decimal, octal or hexadecimal,
and `fromDotted` what `inet_aton` accepts: one to four such constants with dots between them, the
last of which fills the bytes that are left.  `decimal` and `toDotted` write a number and an address,
and are read back as what they were written for (`number_decimal`, `fromDotted_toDotted`).
-/

namespace DottedQuad

/-- Text, byte by byte. -/
abbrev Text := List UInt8

/-- The ASCII code of a character. -/
def ascii (c : Char) : UInt8 := UInt8.ofNat c.toNat

/-! ### Numbers -/

/-- The value of a digit. -/
def digit? (c : UInt8) : Option ℕ :=
  if ascii '0' ≤ c ∧ c ≤ ascii '9' then some (c.toNat - (ascii '0').toNat)
  else if ascii 'a' ≤ c ∧ c ≤ ascii 'f' then some (c.toNat - (ascii 'a').toNat + 10)
  else if ascii 'A' ≤ c ∧ c ≤ ascii 'F' then some (c.toNat - (ascii 'A').toNat + 10)
  else none

/-- The value of a row of digits behind digits of value `n`. -/
def ofDigits? (base : ℕ) : Text → ℕ → Option ℕ
  | [], n => some n
  | c :: text, n =>
    match digit? c with
    | none => none
    | some d => if d < base then ofDigits? base text (base * n + d) else none

/-- The value of what stands behind a zero in front: hexadecimal digits behind an `x`, or octal
digits. -/
def afterZero? : Text → Option ℕ
  | [] => some 0
  | c :: text =>
    if c = ascii 'x' ∨ c = ascii 'X' then
      if text = [] then none else ofDigits? 16 text 0
    else ofDigits? 8 (c :: text) 0

/-- The value of a C integer constant without a sign. -/
def number? : Text → Option ℕ
  | [] => none
  | c :: text => if c = ascii '0' then afterZero? text else ofDigits? 10 (c :: text) 0

/-- A number in decimal digits. -/
def decimal (n : ℕ) : Text := (Nat.toDigits 10 n).map ascii

/-- The value of a decimal digit. -/
lemma digit_ascii_digitChar : ∀ d < 10, digit? (ascii d.digitChar) = some d := by
  decide

/-- It is a digit. -/
lemma ascii_digitChar_mem : ∀ d < 10, ascii '0' ≤ ascii d.digitChar ∧ ascii d.digitChar ≤ ascii '9' := by
  decide

/-- Only zero has the digit zero. -/
lemma ascii_digitChar_ne : ∀ d < 10, d ≠ 0 → ascii d.digitChar ≠ ascii '0' := by
  decide

/-- The digits of a number, up to the last one. -/
lemma decimal_of_ten_le {n : ℕ} (h : 10 ≤ n) :
    decimal n = decimal (n / 10) ++ [ascii (n % 10).digitChar] := by
  unfold decimal
  rw [Nat.toDigits_of_base_le (by omega) h, List.map_append]
  rfl

/-- A number of one digit. -/
lemma decimal_of_lt_ten {n : ℕ} (h : n < 10) : decimal n = [ascii n.digitChar] := by
  unfold decimal
  rw [Nat.toDigits_of_lt_base h]
  rfl

/-- Digits are read from left to right. -/
lemma ofDigits_append (base : ℕ) (text text' : Text) (n : ℕ) :
    ofDigits? base (text ++ text') n = (ofDigits? base text n).bind (ofDigits? base text') := by
  induction text generalizing n with
  | nil => rfl
  | cons c text ih =>
    rw [List.cons_append, ofDigits?, ofDigits?]
    split
    · rfl
    · split_ifs
      · exact ih _
      · rfl

/-- The digits of a number have its value. -/
lemma ofDigits_decimal (n : ℕ) : ofDigits? 10 (decimal n) 0 = some n := by
  induction n using Nat.strongRecOn with
  | _ n ih =>
    rcases Nat.lt_or_ge n 10 with hlt | hge
    · rw [decimal_of_lt_ten hlt, ofDigits?, digit_ascii_digitChar n hlt]
      simp [ofDigits?, hlt]
    · have hlast : n % 10 < 10 := Nat.mod_lt n (by omega)
      rw [decimal_of_ten_le hge, ofDigits_append, ih (n / 10) (by omega), Option.bind_some, ofDigits?,
        digit_ascii_digitChar _ hlast]
      simp only [hlast, if_true, ofDigits?, Option.some.injEq]
      omega

/-- A number that is not zero does not start with the digit zero. -/
lemma exists_decimal_cons {n : ℕ} (h : n ≠ 0) : ∃ c text, decimal n = c :: text ∧ c ≠ ascii '0' := by
  induction n using Nat.strongRecOn with
  | _ n ih =>
    rcases Nat.lt_or_ge n 10 with hlt | hge
    · exact ⟨_, [], decimal_of_lt_ten hlt, ascii_digitChar_ne n hlt h⟩
    · obtain ⟨c, text, hdigits, hc⟩ := ih (n / 10) (by omega) (by omega)
      exact ⟨c, text ++ _, by rw [decimal_of_ten_le hge, hdigits, List.cons_append], hc⟩

/-- **A decimal number is read back.** -/
theorem number_decimal (n : ℕ) : number? (decimal n) = some n := by
  by_cases hn : n = 0
  · rw [hn]
    rfl
  · obtain ⟨c, text, hdigits, hc⟩ := exists_decimal_cons hn
    rw [← ofDigits_decimal n, hdigits, number?, if_neg hc]

/-- It consists of digits. -/
lemma mem_decimal {n : ℕ} {c : UInt8} (h : c ∈ decimal n) : ascii '0' ≤ c ∧ c ≤ ascii '9' := by
  induction n using Nat.strongRecOn with
  | _ n ih =>
    rcases Nat.lt_or_ge n 10 with hlt | hge
    · rw [decimal_of_lt_ten hlt, List.mem_singleton] at h
      exact h ▸ ascii_digitChar_mem n hlt
    · rw [decimal_of_ten_le hge, List.mem_append, List.mem_singleton] at h
      rcases h with h | rfl
      · exact ih (n / 10) (by omega) h
      · exact ascii_digitChar_mem (n % 10) (Nat.mod_lt n (by omega))

/-- It has at most as many digits as the bound has zeros. -/
lemma length_decimal_le {n k : ℕ} (h : n < 10 ^ (k + 1)) : (decimal n).length ≤ k + 1 := by
  induction k generalizing n with
  | zero =>
    rw [decimal_of_lt_ten h]
    exact Nat.le_refl 1
  | succ k ih =>
    rcases Nat.lt_or_ge n 10 with hlt | hge
    · rw [decimal_of_lt_ten hlt]
      exact Nat.le_add_left 1 (k + 1)
    · rw [decimal_of_ten_le hge, List.length_append, List.length_singleton]
      exact Nat.succ_le_succ (ih (Nat.div_lt_of_lt_mul (by rwa [pow_succ'] at h)))

/-! ### Addresses -/

/-- The dot between the parts of an address. -/
def dot : UInt8 := ascii '.'

/-- The address that numbers stand for: all but the last are bytes, and the last fills what is left
of the 32 bits. -/
def ofParts : List ℕ → Option ℕ
  | [d] => if d < 2 ^ 32 then some d else none
  | [a, d] => if a < 256 ∧ d < 2 ^ 24 then some (a * 2 ^ 24 + d) else none
  | [a, b, d] =>
    if a < 256 ∧ b < 256 ∧ d < 2 ^ 16 then some (a * 2 ^ 24 + b * 2 ^ 16 + d) else none
  | [a, b, c, d] =>
    if a < 256 ∧ b < 256 ∧ c < 256 ∧ d < 2 ^ 8 then
      some (a * 2 ^ 24 + b * 2 ^ 16 + c * 2 ^ 8 + d)
    else none
  | _ => none

/-- The address of a text. -/
def fromDotted (text : Text) : Option ℕ := ((text.splitOn dot).mapM number?).bind ofParts

/-- The bytes of an address. -/
def octets (v : ℕ) : List ℕ := [v / 2 ^ 24, v / 2 ^ 16 % 256, v / 2 ^ 8 % 256, v % 256]

/-- An address in four decimal numbers. -/
def toDotted (v : ℕ) : Text := [dot].intercalate ((octets v).map decimal)

/-- There is no dot in a number. -/
lemma dot_notMem_decimal (n : ℕ) : dot ∉ decimal n :=
  fun h => absurd (mem_decimal h).1 (by decide)

/-- **An address is read back.** -/
theorem fromDotted_toDotted {v : ℕ} (hv : v < 2 ^ 32) : fromDotted (toDotted v) = some v := by
  have hparts : (toDotted v).splitOn dot = (octets v).map decimal := by
    refine List.splitOn_intercalate dot (fun text htext => ?_) (by simp [octets])
    obtain ⟨n, -, rfl⟩ := List.mem_map.mp htext
    exact dot_notMem_decimal n
  have hnumbers : ((octets v).map decimal).mapM number? = some (octets v) := by
    simp [octets, number_decimal]
  rw [fromDotted, hparts, hnumbers, Option.bind_some]
  simp only [octets, ofParts]
  rw [if_pos (by omega), Option.some.injEq]
  omega

/-- The four numbers and the dots between them. -/
lemma toDotted_eq (v : ℕ) : toDotted v = decimal (v / 2 ^ 24) ++ dot :: (decimal (v / 2 ^ 16 % 256) ++
    dot :: (decimal (v / 2 ^ 8 % 256) ++ dot :: decimal (v % 256))) := by
  simp [toDotted, octets, List.intercalate]

/-- The characters of an address are digits and dots. -/
lemma mem_toDotted {v : ℕ} {c : UInt8} (h : c ∈ toDotted v) :
    c = dot ∨ ascii '0' ≤ c ∧ c ≤ ascii '9' := by
  simp only [toDotted_eq, List.mem_append, List.mem_cons] at h
  rcases h with h | rfl | h | rfl | h | rfl | h
  all_goals first | exact .inl rfl | exact .inr (mem_decimal h)

/-- An address has at most 15 characters. -/
lemma length_toDotted_le {v : ℕ} (hv : v < 2 ^ 32) : (toDotted v).length ≤ 15 := by
  have hbyte : ∀ n < 256, (decimal n).length ≤ 3 :=
    fun n hn => length_decimal_le (k := 2) (by omega)
  have h₁ := hbyte (v / 2 ^ 24) (by omega)
  have h₂ := hbyte (v / 2 ^ 16 % 256) (Nat.mod_lt _ (by omega))
  have h₃ := hbyte (v / 2 ^ 8 % 256) (Nat.mod_lt _ (by omega))
  have h₄ := hbyte (v % 256) (Nat.mod_lt _ (by omega))
  simp only [toDotted_eq, List.length_append, List.length_cons]
  omega

end DottedQuad
