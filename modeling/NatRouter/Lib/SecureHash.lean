import NatRouter.Lib.BlockHash
import NatRouter.Lib.StructPack

/-!
# The Secure Hash Standard

The message digest of FIPS PUB 180-1, SHA-1, for messages of whole bytes: a message is padded to a
multiple of 512 bits with its length at the end, and the blocks are compressed one after the other.

No padded message is the end of another one (`eq_of_pad_suffix`), so two messages with the same digest
yield a collision of the compression function (`exists_collision`).
-/

namespace SecureHash

open BlockHash StructPack

/-- Five words: the buffers `A` to `E`, or the digest `H0` to `H4`. -/
structure Words where
  /-- The first word. -/
  a : UInt32
  /-- The second word. -/
  b : UInt32
  /-- The third word. -/
  c : UInt32
  /-- The fourth word. -/
  d : UInt32
  /-- The fifth word. -/
  e : UInt32
  deriving DecidableEq

/-- The circular left shift `S^n`. -/
def rotl (n : ℕ) (w : UInt32) : UInt32 := ⟨w.toBitVec.rotateLeft n⟩

/-- The functions `f(t; B, C, D)`. -/
def f (t : ℕ) (b c d : UInt32) : UInt32 :=
  if t < 20 then (b &&& c) ||| (~~~b &&& d)
  else if t < 40 then b ^^^ c ^^^ d
  else if t < 60 then (b &&& c) ||| (b &&& d) ||| (c &&& d)
  else b ^^^ c ^^^ d

/-- The constants `K(t)`. -/
def k (t : ℕ) : UInt32 :=
  if t < 20 then 0x5a827999
  else if t < 40 then 0x6ed9eba1
  else if t < 60 then 0x8f1bbcdc
  else 0xca62c1d6

/-- The words `W(t)` that a block is extended to. -/
def w (block : List UInt8) (t : ℕ) : UInt32 :=
  if _h : t < 16 then ofBe32 (block.drop (4 * t))
  else rotl 1 (w block (t - 3) ^^^ w block (t - 8) ^^^ w block (t - 14) ^^^ w block (t - 16))

/-- Step `t` of the compression of a block. -/
def step (block : List UInt8) (x : Words) (t : ℕ) : Words where
  a := rotl 5 x.a + f t x.b x.c x.d + x.e + w block t + k t
  b := x.a
  c := rotl 30 x.b
  d := x.c
  e := x.d

/-- The compression of a block into the digest so far. -/
def compress (h : Words) (block : List UInt8) : Words :=
  let x := (List.range 80).foldl (step block) h
  ⟨h.a + x.a, h.b + x.b, h.c + x.c, h.d + x.d, h.e + x.e⟩

/-- The digest of no block. -/
def init : Words := ⟨0x67452301, 0xefcdab89, 0x98badcfe, 0x10325476, 0xc3d2e1f0⟩

/-- The length of a message of `n` bytes, in bits, in 64 bits. -/
def bitLength (n : ℕ) : List UInt8 :=
  be32 (UInt32.ofNat (8 * n / 2 ^ 32)) ++ be32 (UInt32.ofNat (8 * n))

/-- How many zero bytes there are between the `1` and the length. -/
def zeros (n : ℕ) : ℕ := (119 - n % 64) % 64

/-- A message padded: with a `1`, zeros, and its length. -/
def pad (msg : List UInt8) : List UInt8 :=
  msg ++ 0x80 :: (List.replicate (zeros msg.length) 0 ++ bitLength msg.length)

/-- The message digest. -/
def digest (msg : List UInt8) : Words := (blocks 64 (pad msg)).foldl compress init

/-! ### Padding -/

variable {msg msg' : List UInt8}

@[simp] lemma length_bitLength (n : ℕ) : (bitLength n).length = 8 := rfl

/-- The length of a padded message. -/
lemma length_pad (msg : List UInt8) : (pad msg).length = msg.length + zeros msg.length + 9 := by
  simp only [pad, List.length_append, List.length_cons, List.length_replicate, length_bitLength]
  omega

/-- It is a multiple of 64. -/
lemma dvd_length_pad (msg : List UInt8) : 64 ∣ (pad msg).length := by
  rw [length_pad, zeros]
  omega

/-- A padded message ends with its length. -/
lemma drop_pad (msg : List UInt8) :
    (pad msg).drop ((pad msg).length - 8) = bitLength msg.length := by
  have hfront : (pad msg).length - 8 =
      (msg ++ 0x80 :: List.replicate (zeros msg.length) 0).length := by
    rw [length_pad]
    simp only [List.length_append, List.length_cons, List.length_replicate]
    omega
  rw [hfront, pad, ← List.cons_append, ← List.append_assoc]
  exact List.drop_left

/-- A length of less than 2^64 bits is known from its 64 bits. -/
lemma bitLength_inj {n n' : ℕ} (hn : n < 2 ^ 61) (hn' : n' < 2 ^ 61)
    (h : bitLength n = bitLength n') : n = n' := by
  obtain ⟨hhigh, hlow⟩ := List.append_inj h rfl
  have hhigh' := congrArg (fun l => (ofBe32 (l ++ [])).toNat) hhigh
  have hlow' := congrArg (fun l => (ofBe32 (l ++ [])).toNat) hlow
  simp only [ofBe32_be32_append, UInt32.toNat_ofNat'] at hhigh' hlow'
  omega

/-- **No padded message is the end of another one.** -/
theorem eq_of_pad_suffix (hmsg : msg.length < 2 ^ 61) (hmsg' : msg'.length < 2 ^ 61)
    (h : pad msg <:+ pad msg') : msg = msg' := by
  obtain ⟨front, hfront⟩ := h
  have hcount := congrArg List.length hfront
  rw [List.length_append] at hcount
  have h8 : 8 ≤ (pad msg).length := by
    rw [length_pad]
    omega
  -- the last eight bytes say how long the message is
  have hlength : msg.length = msg'.length := by
    refine bitLength_inj hmsg hmsg' ?_
    rw [← drop_pad msg, ← drop_pad msg', ← hfront, List.length_append, Nat.add_sub_assoc h8,
      List.drop_append, List.drop_of_length_le (Nat.le_add_right _ _), Nat.add_sub_cancel_left,
      List.nil_append]
  have hnil : front.length = 0 := by
    rw [length_pad, length_pad, hlength] at hcount
    omega
  rw [List.length_eq_zero_iff.mp hnil, List.nil_append] at hfront
  exact (List.append_inj hfront hlength).1

/-- A padded message is put together from its blocks. -/
lemma pad_eq_flatten (msg : List UInt8) :
    (blocks 64 (pad msg)).flatten = pad msg ∧ ∀ b ∈ blocks 64 (pad msg), b.length = 64 := by
  obtain ⟨bs, hflatten, hbs⟩ := exists_flatten_eq (dvd_length_pad msg)
  have heq : blocks 64 (pad msg) = bs := by rw [← hflatten, blocks_flatten (by omega) hbs]
  rw [heq]
  exact ⟨hflatten, hbs⟩

/-! ### Collisions -/

/-- **Two messages with the same digest** yield a collision of the compression function among the
blocks of the padded messages. -/
theorem exists_collision (hmsg : msg.length < 2 ^ 61) (hmsg' : msg'.length < 2 ^ 61)
    (hne : msg ≠ msg') (h : digest msg = digest msg') :
    Nonempty (Collision compress init init (blocks 64 (pad msg)) (blocks 64 (pad msg'))) := by
  have hsuffix : ∀ {m m'}, blocks 64 (pad m) <:+ blocks 64 (pad m') → pad m <:+ pad m' := by
    rintro m m' ⟨front, hfront⟩
    refine ⟨front.flatten, ?_⟩
    rw [← (pad_eq_flatten m').1, ← hfront, List.flatten_append, (pad_eq_flatten m).1]
  rcases exists_collision_or_suffix h with hcollision | hend | hend
  · exact hcollision
  · exact absurd (eq_of_pad_suffix hmsg hmsg' (hsuffix hend)) hne
  · exact absurd (eq_of_pad_suffix hmsg' hmsg (hsuffix hend)).symm hne

end SecureHash
