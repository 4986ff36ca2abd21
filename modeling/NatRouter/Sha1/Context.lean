import NatRouter.Lib.SecureHash

/-!
# The context of a message digest (`sha1.c`)

The `SHA1Context` and the functions on it.  A message comes in pieces, by any number of calls of
`SHA1Input`, and `SHA1Result` pads what has come in and leaves the digest in the context.  A block is
processed as the standard says (`sha1ProcessMessageBlock_eq`).
-/

namespace NatRouter

open ByteMemory StructPack BlockHash

/-- `SHA1Context`. -/
structure Sha1Context where
  /-- `Message_Digest`. -/
  messageDigest : SecureHash.Words
  /-- `Length_Low`: the length so far in bits. -/
  lengthLow : UInt32
  /-- `Length_High`. -/
  lengthHigh : UInt32
  /-- `Message_Block`, of 64 bytes. -/
  messageBlock : ByteMem
  /-- `Message_Block_Index`. -/
  messageBlockIndex : ℕ
  /-- `Computed`. -/
  computed : Bool
  /-- `Corrupted`. -/
  corrupted : Bool

/-- `SHA1Reset`.  The buffer keeps what it holds. -/
def sha1Reset (context : Sha1Context) : Sha1Context :=
  { context with
    lengthLow := 0
    lengthHigh := 0
    messageBlockIndex := 0
    messageDigest := ⟨0x67452301, 0xefcdab89, 0x98badcfe, 0x10325476, 0xc3d2e1f0⟩
    computed := false
    corrupted := false }

/-! ### A block -/

/-- `SHA1CircularShift`. -/
def sha1CircularShift (bits word : UInt32) : UInt32 :=
  ((word <<< bits) &&& 0xffffffff) ||| (word >>> (32 - bits))

/-- The loop over the first 16 words of `W`, after `n` passes. -/
def sha1InitWords (block : ByteMem) (w : Vector UInt32 80) : (n : ℕ) → n ≤ 16 → Vector UInt32 80
  | 0, _ => w
  | t + 1, h =>
    let w := sha1InitWords block w t (by omega)
    let word := (block (t * 4)).toUInt32 <<< 24
    let word := word ||| (block (t * 4 + 1)).toUInt32 <<< 16
    let word := word ||| (block (t * 4 + 2)).toUInt32 <<< 8
    let word := word ||| (block (t * 4 + 3)).toUInt32
    w.set t word

/-- The loop over the words from 16 on, after `n` passes. -/
def sha1ExtendWords (w : Vector UInt32 80) : (n : ℕ) → n ≤ 64 → Vector UInt32 80
  | 0, _ => w
  | n + 1, h =>
    let w := sha1ExtendWords w n (by omega)
    w.set (16 + n) (sha1CircularShift 1
      (w[16 + n - 3] ^^^ w[16 + n - 8] ^^^ w[16 + n - 14] ^^^ w[16 + n - 16]))

/-- The four loops over 20 words each, of which this is one, after `n` passes: they differ in the
word they start from, in the function of `B`, `C` and `D`, and in the constant. -/
def sha1Rounds (f : UInt32 → UInt32 → UInt32 → UInt32) (k : UInt32) (w : Vector UInt32 80)
    (start : ℕ) (x : SecureHash.Words) : (n : ℕ) → start + n ≤ 80 → SecureHash.Words
  | 0, _ => x
  | n + 1, h =>
    let x := sha1Rounds f k w start x n (by omega)
    let temp := sha1CircularShift 5 x.a + f x.b x.c x.d + x.e + w[start + n] + k
    { a := temp &&& 0xffffffff, b := x.a, c := sha1CircularShift 30 x.b, d := x.c, e := x.d }

/-- `SHA1ProcessMessageBlock`; `stack` is what `W` holds before it is filled. -/
def sha1ProcessMessageBlock (stack : Vector UInt32 80) (context : Sha1Context) : Sha1Context :=
  let w := sha1InitWords context.messageBlock stack 16 (by omega)
  let w := sha1ExtendWords w 64 (by omega)
  let digest := context.messageDigest
  let x := sha1Rounds (fun b c d => (b &&& c) ||| (~~~b &&& d)) 0x5a827999 w 0 digest 20 (by omega)
  let x := sha1Rounds (fun b c d => b ^^^ c ^^^ d) 0x6ed9eba1 w 20 x 20 (by omega)
  let x := sha1Rounds (fun b c d => (b &&& c) ||| (b &&& d) ||| (c &&& d)) 0x8f1bbcdc w 40 x 20
    (by omega)
  let x := sha1Rounds (fun b c d => b ^^^ c ^^^ d) 0xca62c1d6 w 60 x 20 (by omega)
  { context with
    messageDigest :=
      ⟨(digest.a + x.a) &&& 0xffffffff, (digest.b + x.b) &&& 0xffffffff,
        (digest.c + x.c) &&& 0xffffffff, (digest.d + x.d) &&& 0xffffffff,
        (digest.e + x.e) &&& 0xffffffff⟩
    messageBlockIndex := 0 }

/-! ### Input and result -/

/-- `Message_Block[Message_Block_Index++] = v`, and nothing if that is behind the buffer. -/
def Sha1Context.put (context : Sha1Context) (v : UInt8) : Option Sha1Context :=
  if context.messageBlockIndex < 64 then
    some { context with
      messageBlock := store8 context.messageBlock context.messageBlockIndex v
      messageBlockIndex := context.messageBlockIndex + 1 }
  else none

/-- Some bytes stored, one behind the other. -/
def Sha1Context.putAll (context : Sha1Context) : List UInt8 → Option Sha1Context
  | [] => some context
  | v :: l => (context.put v).bind fun context => context.putAll l

/-- A loop that stores zeros while the index is below `n`. -/
def Sha1Context.zeroUpTo (context : Sha1Context) (n : ℕ) : Option Sha1Context :=
  context.putAll (List.replicate (n - context.messageBlockIndex) 0)

/-- The length of the message counted on by a byte. -/
def Sha1Context.countByte (context : Sha1Context) : Sha1Context :=
  let context := { context with lengthLow := context.lengthLow + 8 }
  if context.lengthLow = 0 then
    let context := { context with lengthHigh := context.lengthHigh + 1 }
    if context.lengthHigh = 0 then { context with corrupted := true } else context
  else context

/-- The body of the loop of `SHA1Input`.  All of `W` is set before it is read
(`sha1ProcessMessageBlock_eq`), so the stack may as well hold zeros. -/
def sha1InputByte (context : Sha1Context) (v : UInt8) : Option Sha1Context := do
  let context ← context.put v
  let context := context.countByte
  return if context.messageBlockIndex = 64 then sha1ProcessMessageBlock (.replicate 80 0) context
    else context

/-- The loop of `SHA1Input`. -/
def sha1InputLoop (context : Sha1Context) : List UInt8 → Option Sha1Context
  | [] => some context
  | v :: message =>
    if context.corrupted then some context
    else (sha1InputByte context v).bind fun context => sha1InputLoop context message

/-- `SHA1Input`. -/
def sha1Input (context : Sha1Context) (message : List UInt8) : Option Sha1Context :=
  if message.length = 0 then some context
  else if context.computed ∨ context.corrupted then some { context with corrupted := true }
  else sha1InputLoop context message

/-- The length of the message in the last 8 bytes of the buffer. -/
def Sha1Context.storeLength (context : Sha1Context) : Sha1Context :=
  let block := store8 context.messageBlock 56 (context.lengthHigh >>> 24).toUInt8
  let block := store8 block 57 (context.lengthHigh >>> 16).toUInt8
  let block := store8 block 58 (context.lengthHigh >>> 8).toUInt8
  let block := store8 block 59 context.lengthHigh.toUInt8
  let block := store8 block 60 (context.lengthLow >>> 24).toUInt8
  let block := store8 block 61 (context.lengthLow >>> 16).toUInt8
  let block := store8 block 62 (context.lengthLow >>> 8).toUInt8
  let block := store8 block 63 context.lengthLow.toUInt8
  { context with messageBlock := block }

/-- `SHA1PadMessage`. -/
def sha1PadMessage (context : Sha1Context) : Option Sha1Context := do
  if 55 < context.messageBlockIndex then
    let context ← context.put 0x80
    let context ← context.zeroUpTo 64
    let context := sha1ProcessMessageBlock (.replicate 80 0) context
    let context ← context.zeroUpTo 56
    return sha1ProcessMessageBlock (.replicate 80 0) context.storeLength
  else
    let context ← context.put 0x80
    let context ← context.zeroUpTo 56
    return sha1ProcessMessageBlock (.replicate 80 0) context.storeLength

/-- `SHA1Result`, with what it returns. -/
def sha1Result (context : Sha1Context) : Option (Sha1Context × Bool) :=
  if context.corrupted then some (context, false)
  else if !context.computed then do
    let context ← sha1PadMessage context
    return ({ context with computed := true }, true)
  else some (context, true)

/-! ### A block -/

/-- A byte shifted inside a word. -/
lemma toNat_shifted (v : UInt8) {s : ℕ} (hs : s ≤ 24) :
    (v.toUInt32 <<< UInt32.ofNat s).toNat = v.toNat <<< s := by
  have hv : v.toNat < 2 ^ 8 := v.toNat_lt
  have hbits : (UInt32.ofNat s).toNat = s :=
    UInt32.toNat_ofNat_of_lt' (Nat.lt_of_le_of_lt hs (by decide))
  have hpow : 2 ^ 8 * 2 ^ s ≤ 2 ^ 32 := by
    rw [← Nat.pow_add]
    exact Nat.pow_le_pow_right (by omega) (by omega)
  have hlt : v.toNat <<< s < 2 ^ 32 := by
    rw [Nat.shiftLeft_eq]
    exact Nat.lt_of_lt_of_le (Nat.mul_lt_mul_of_pos_right hv (Nat.two_pow_pos s)) hpow
  rw [UInt32.toNat_shiftLeft, hbits, Nat.mod_eq_of_lt (show s < 32 by omega), UInt8.toNat_toUInt32,
    Nat.mod_eq_of_lt hlt]

/-- Four bytes put together with shifts are a word read from them. -/
lemma shifted_eq_ofBe32 (l : List UInt8) : ((l.getD 0 0).toUInt32 <<< 24 |||
    (l.getD 1 0).toUInt32 <<< 16 ||| (l.getD 2 0).toUInt32 <<< 8 ||| (l.getD 3 0).toUInt32) =
      ofBe32 l := by
  have hright : (ofBe32 l).toNat = ((l.getD 0 0).toNat <<< 8 ||| (l.getD 1 0).toNat) <<< 16 |||
      ((l.getD 2 0).toNat <<< 8 ||| (l.getD 3 0).toNat) := by
    rw [ofBe32]
    simp only [UInt32.toNat, BitVec.toNat_append]
    rfl
  have h24 := toNat_shifted (l.getD 0 0) (Nat.le_refl 24)
  have h16 := toNat_shifted (l.getD 1 0) (show 16 ≤ 24 by omega)
  have h8 := toNat_shifted (l.getD 2 0) (show 8 ≤ 24 by omega)
  apply UInt32.toNat_inj.mp
  rw [hright, UInt32.toNat_or, UInt32.toNat_or, UInt32.toNat_or, UInt8.toNat_toUInt32]
  refine Eq.trans (congrArg (· ||| (l.getD 3 0).toNat)
    (congrArg₂ (· ||| ·) (congrArg₂ (· ||| ·) h24 h16) h8)) ?_
  rw [Nat.shiftLeft_or_distrib, ← Nat.shiftLeft_add, Nat.or_assoc]

/-- The circular shift is the one of the standard. -/
lemma sha1CircularShift_eq {n : ℕ} (hpos : 0 < n) (hn : n < 32) (word : UInt32) :
    sha1CircularShift (UInt32.ofNat n) word = SecureHash.rotl n word := by
  have hbits : (UInt32.ofNat n).toNat = n :=
    UInt32.toNat_ofNat_of_lt' (Nat.lt_trans hn (by decide))
  have hrest : (32 - UInt32.ofNat n).toNat = 32 - n := by
    have hle : UInt32.ofNat n ≤ 32 := by
      rw [UInt32.le_iff_toNat_le, hbits]
      exact Nat.le_of_lt hn
    rw [UInt32.toNat_sub_of_le _ _ hle, hbits]
    rfl
  have hright : (SecureHash.rotl n word).toNat =
      word.toNat <<< n % 2 ^ 32 ||| word.toNat >>> (32 - n) := by
    have h := @BitVec.toNat_rotateLeft 32 word.toBitVec n
    rwa [Nat.mod_eq_of_lt hn] at h
  have hmask : word.toNat <<< n % 2 ^ 32 &&& (0xffffffff : UInt32).toNat = word.toNat <<< n % 2 ^ 32 :=
    (Nat.and_two_pow_sub_one_eq_mod _ 32).trans (Nat.mod_mod _ _)
  apply UInt32.toNat_inj.mp
  rw [hright, sha1CircularShift, UInt32.toNat_or, UInt32.toNat_and, UInt32.toNat_shiftLeft,
    UInt32.toNat_shiftRight, hbits, hrest, Nat.mod_eq_of_lt hn,
    Nat.mod_eq_of_lt (show 32 - n < 32 by omega), hmask]

section Block

variable {block : ByteMem} {stack : Vector UInt32 80}

/-- The first loop sets the words that the block holds. -/
lemma getElem_sha1InitWords {n t : ℕ} (h : n ≤ 16) (ht : t < n) :
    (sha1InitWords block stack n h)[t] = SecureHash.w (bytes block 64) t := by
  induction n with
  | zero => omega
  | succ n ih =>
    by_cases heq : t = n
    · subst heq
      have hbyte : ∀ j < 4, ((bytes block 64).drop (4 * t)).getD j 0 = block (t * 4 + j) := by
        intro j hj
        rw [List.getD_eq_getElem?_getD, List.getElem?_drop, getElem?_bytes, if_pos (by omega),
          Nat.mul_comm t 4]
        rfl
      have hword := shifted_eq_ofBe32 ((bytes block 64).drop (4 * t))
      rw [hbyte 0 (by omega), hbyte 1 (by omega), hbyte 2 (by omega), hbyte 3 (by omega)] at hword
      rw [SecureHash.w, dif_pos (show t < 16 by omega), ← hword]
      simp only [sha1InitWords, Vector.getElem_set_self, Nat.add_zero]
    · simp only [sha1InitWords]
      rw [Vector.getElem_set_ne _ _ (fun h => heq h.symm)]
      exact ih (by omega) (by omega)

/-- The second loop sets the others, and keeps those. -/
lemma getElem_sha1ExtendWords {w : Vector UInt32 80} {l : List UInt8}
    (hw : ∀ (t : ℕ) (ht : t < 16), w[t] = SecureHash.w l t) {n t : ℕ} (h : n ≤ 64)
    (ht : t < 16 + n) : (sha1ExtendWords w n h)[t] = SecureHash.w l t := by
  induction n generalizing t with
  | zero => exact hw t ht
  | succ n ih =>
    have hn : n ≤ 64 := by omega
    simp only [sha1ExtendWords]
    by_cases heq : t = 16 + n
    · subst heq
      rw [Vector.getElem_set_self, SecureHash.w, dif_neg (show ¬ 16 + n < 16 by omega),
        ← sha1CircularShift_eq (by omega) (by omega), ih hn (by omega), ih hn (by omega),
        ih hn (by omega), ih hn (by omega)]
      rfl
    · rw [Vector.getElem_set_ne _ _ (fun h => heq h.symm)]
      exact ih hn (by omega)

/-- **One of the four loops** makes the steps of the standard, if its function and its constant are
those of the standard. -/
lemma sha1Rounds_eq {f : UInt32 → UInt32 → UInt32 → UInt32} {k : UInt32} {w : Vector UInt32 80}
    {l : List UInt8} (hw : ∀ (t : ℕ) (ht : t < 80), w[t] = SecureHash.w l t) {start n : ℕ}
    (h : start + n ≤ 80) (hf : ∀ t b c d, start ≤ t → t < start + n → SecureHash.f t b c d = f b c d)
    (hk : ∀ t, start ≤ t → t < start + n → SecureHash.k t = k) (x : SecureHash.Words) :
    sha1Rounds f k w start x n h = (List.range' start n).foldl (SecureHash.step l) x := by
  induction n with
  | zero => rfl
  | succ n ih =>
    have hmask : ∀ v : UInt32, v &&& 0xffffffff = v := fun v => UInt32.and_neg_one
    have hlt : start + n < 80 := by omega
    rw [List.range'_concat, List.foldl_concat, Nat.one_mul,
      ← ih (by omega) (fun t b c d hlo hhi => hf t b c d hlo (by omega)) fun t hlo hhi => hk t hlo (by omega)]
    simp only [sha1Rounds, SecureHash.step, hw _ hlt, hmask, hf (start + n) _ _ _ (by omega) (by omega),
      hk (start + n) (by omega) (by omega)]
    rw [← sha1CircularShift_eq (by omega) (by omega), ← sha1CircularShift_eq (by omega) (by omega)]
    rfl

/-- All words of `W` are those of the standard, whatever it held before. -/
lemma getElem_sha1Words {n m : ℕ} (hn : n = 16) (hm : m = 64) (h : n ≤ 16) (h' : m ≤ 64) (t : ℕ)
    (ht : t < 80) :
    (sha1ExtendWords (sha1InitWords block stack n h) m h')[t] =
      SecureHash.w (bytes block 64) t := by
  refine getElem_sha1ExtendWords (fun t ht => getElem_sha1InitWords h ?_) h' ?_
  · omega
  · omega

/-- The 80 steps are four times 20. -/
lemma range_eighty : List.range 80 =
    List.range' 0 20 ++ (List.range' 20 20 ++ (List.range' 40 20 ++ List.range' 60 20)) := by
  rw [List.range_eq_range', List.range'_append, List.range'_append, List.range'_append]

/-- **A block is processed** as the standard says, whatever `W` held before. -/
theorem sha1ProcessMessageBlock_eq (stack : Vector UInt32 80) (context : Sha1Context) :
    sha1ProcessMessageBlock stack context =
      { context with
        messageDigest :=
          SecureHash.compress context.messageDigest (bytes context.messageBlock 64)
        messageBlockIndex := 0 } := by
  have hmask : ∀ v : UInt32, v &&& 0xffffffff = v := fun v => UInt32.and_neg_one
  have hw := @getElem_sha1Words context.messageBlock stack 16 64 rfl rfl (Nat.le_refl _) (Nat.le_refl _)
  unfold sha1ProcessMessageBlock SecureHash.compress
  dsimp only
  rw [range_eighty, List.foldl_append, List.foldl_append, List.foldl_append,
    sha1Rounds_eq hw, sha1Rounds_eq hw, sha1Rounds_eq hw, sha1Rounds_eq hw]
  · simp only [hmask]
  -- the functions and the constants of the four loops
  all_goals
    intros
    simp only [SecureHash.f, SecureHash.k]
    split_ifs <;> first | rfl | omega

end Block

end NatRouter
