import NatRouter.Sha1.Context

/-!
# Computing a message digest

What the functions of `sha1.c` are for is `Sha1Object`: it reads a message, then it has the digest of
this message and takes in nothing more, and a misuse corrupts it until the next reset.  `sha1_refines`
says that the code is such an object under every sequence of calls, with `SecureHash.digest` for the
digest, and that it never stores behind the 64 bytes of its buffer.  So two messages for which it
computes the same digest are a collision of `SHA1ProcessMessageBlock` (`sha1_collision`).
-/

namespace NatRouter

open ByteMemory StructPack BlockHash

/-! ### The buffer -/

section Buffer

variable {context : Sha1Context}

/-- Bytes that fit into the buffer are stored behind those that are there. -/
lemma Sha1Context.putAll_eq {l : List UInt8} (h : context.messageBlockIndex + l.length ≤ 64) :
    ∃ block, context.putAll l = some { context with
        messageBlock := block, messageBlockIndex := context.messageBlockIndex + l.length } ∧
      bytes block (context.messageBlockIndex + l.length) =
        bytes context.messageBlock context.messageBlockIndex ++ l := by
  induction l generalizing context with
  | nil => exact ⟨context.messageBlock, rfl, (List.append_nil _).symm⟩
  | cons v l ih =>
    rw [List.length_cons] at h
    have hput : context.put v = some { context with
        messageBlock := store8 context.messageBlock context.messageBlockIndex v
        messageBlockIndex := context.messageBlockIndex + 1 } := if_pos (by omega)
    obtain ⟨block, hall, hbytes⟩ := @ih { context with
        messageBlock := store8 context.messageBlock context.messageBlockIndex v
        messageBlockIndex := context.messageBlockIndex + 1 } (by dsimp only; omega)
    have hcount : context.messageBlockIndex + 1 + l.length =
        context.messageBlockIndex + (v :: l).length := by
      rw [List.length_cons]
      omega
    rw [hcount, bytes_store8_succ, List.append_assoc] at hbytes
    refine ⟨block, ?_, hbytes⟩
    rw [Sha1Context.putAll, hput, Option.bind_some, hall, hcount]

/-- The length is stored behind 56 bytes. -/
lemma Sha1Context.bytes_storeLength (context : Sha1Context) :
    bytes context.storeLength.messageBlock 64 =
      bytes context.messageBlock 56 ++ (be32 context.lengthHigh ++ be32 context.lengthLow) := by
  have hbyte : ∀ (v : UInt32) (s : ℕ), s < 32 →
      (v >>> UInt32.ofNat s).toUInt8 = ⟨v.toBitVec.extractLsb' s 8⟩ := by
    intro v s hs
    apply UInt8.toNat_inj.mp
    rw [UInt32.toNat_toUInt8, UInt32.toNat_shiftRight, UInt32.toNat_ofNat_of_lt' (Nat.lt_trans hs (by decide)),
      Nat.mod_eq_of_lt hs]
    exact (BitVec.extractLsb'_toNat s 8 v.toBitVec).symm
  unfold Sha1Context.storeLength
  dsimp only
  rw [bytes_store8_succ _ 63, bytes_store8_succ _ 62, bytes_store8_succ _ 61, bytes_store8_succ _ 60,
    bytes_store8_succ _ 59, bytes_store8_succ _ 58, bytes_store8_succ _ 57, bytes_store8_succ _ 56]
  have h0 : ∀ v : UInt32, v.toUInt8 = ⟨v.toBitVec.extractLsb' 0 8⟩ := fun v => by
    rw [← hbyte v 0 (by omega)]
    rfl
  have h8 := fun v => hbyte v 8 (by omega)
  have h16 := fun v => hbyte v 16 (by omega)
  have h24 := fun v => hbyte v 24 (by omega)
  simp only [List.append_assoc, List.append_cancel_left_eq, be32, List.cons_append, List.nil_append, ← h24, ← h16, ← h8,
    ← h0]
  rfl

end Buffer

/-! ### Taking in a message -/

/-- `msg` has been taken in since the last reset. -/
structure Sha1Context.Reading (context : Sha1Context) (msg : List UInt8) : Prop where
  /-- Its full blocks are compressed, and the others wait in the buffer. -/
  absorbed : Absorbed SecureHash.compress 64 SecureHash.init msg context.messageDigest
    (bytes context.messageBlock context.messageBlockIndex)
  /-- Its length has been counted. -/
  length : context.lengthHigh.toNat * 2 ^ 32 + context.lengthLow.toNat = 8 * msg.length
  /-- The digest is not computed. -/
  notComputed : context.computed = false
  /-- Nothing has gone wrong. -/
  notCorrupted : context.corrupted = false

section Reading

variable {context : Sha1Context} {msg : List UInt8}

/-- After a reset nothing has been taken in. -/
lemma reading_sha1Reset (context : Sha1Context) : (sha1Reset context).Reading [] where
  absorbed := Absorbed.nil (by omega)
  length := by simp [sha1Reset]
  notComputed := rfl
  notCorrupted := rfl

namespace Sha1Context.Reading

/-- There is room in the buffer. -/
lemma index_lt (h : context.Reading msg) : context.messageBlockIndex < 64 := by
  obtain ⟨_, -, -, hlt, -⟩ := h.absorbed
  rwa [length_bytes] at hlt

/-- What waits is what is over when the message is cut into blocks. -/
lemma index_eq (h : context.Reading msg) : context.messageBlockIndex = msg.length % 64 := by
  rw [← h.absorbed.length_rest, length_bytes]

/-- Its length can be counted. -/
lemma length_lt (h : context.Reading msg) : msg.length < 2 ^ 61 := by
  have hhigh := context.lengthHigh.toNat_lt
  have hlow := context.lengthLow.toNat_lt
  have hlength := h.length
  omega

end Sha1Context.Reading

/-- A byte is counted, unless its bits make the length 2^64. -/
lemma Sha1Context.countByte_eq {n : ℕ}
    (h : context.lengthHigh.toNat * 2 ^ 32 + context.lengthLow.toNat = 8 * n) :
    (n + 1 < 2 ^ 61 ∧ ∃ high low : UInt32, high.toNat * 2 ^ 32 + low.toNat = 8 * (n + 1) ∧
      context.countByte = { context with lengthLow := low, lengthHigh := high }) ∨
    (2 ^ 61 ≤ n + 1 ∧ ∃ high low : UInt32, context.countByte =
      { context with lengthLow := low, lengthHigh := high, corrupted := true }) := by
  have hhigh := context.lengthHigh.toNat_lt
  have hlow := context.lengthLow.toNat_lt
  have hlow' : (context.lengthLow + 8).toNat = (context.lengthLow.toNat + 8) % 2 ^ 32 :=
    UInt32.toNat_add _ _
  have hhigh' : (context.lengthHigh + 1).toNat = (context.lengthHigh.toNat + 1) % 2 ^ 32 :=
    UInt32.toNat_add _ _
  have hzero : ∀ v : UInt32, v = 0 ↔ v.toNat = 0 := fun v => UInt32.toNat_inj.symm
  unfold Sha1Context.countByte
  dsimp only
  split_ifs with hl hh
  · rw [hzero, hlow'] at hl
    rw [hzero, hhigh'] at hh
    exact .inr ⟨by omega, context.lengthHigh + 1, context.lengthLow + 8, rfl⟩
  · rw [hzero, hhigh'] at hh
    have hl' := (hzero _).mp hl
    rw [hlow'] at hl'
    have hcarry : context.lengthLow.toNat + 8 = 2 ^ 32 := by omega
    have hnext : (context.lengthHigh.toNat + 1) % 2 ^ 32 = context.lengthHigh.toNat + 1 :=
      Nat.mod_eq_of_lt (by omega)
    refine .inl ⟨by omega, context.lengthHigh + 1, context.lengthLow + 8, ?_, rfl⟩
    rw [hhigh', hlow', hl', hnext, Nat.add_mul, Nat.mul_add, ← h, Nat.add_assoc _ _ (8 * 1),
      Nat.mul_one, hcarry, Nat.one_mul, Nat.add_zero]
  · rw [hzero, hlow'] at hl
    refine .inl ⟨by omega, context.lengthHigh, context.lengthLow + 8, ?_, rfl⟩
    rw [hlow']
    omega

/-- **A byte is taken in**, unless it makes the message too long. -/
lemma Sha1Context.Reading.inputByte (h : context.Reading msg) (v : UInt8) :
    ∃ context', sha1InputByte context v = some context' ∧
      ((msg.length + 1 < 2 ^ 61 ∧ context'.Reading (msg ++ [v])) ∨
        (2 ^ 61 ≤ msg.length + 1 ∧ context'.corrupted = true)) := by
  have hput : context.put v = some { context with
      messageBlock := store8 context.messageBlock context.messageBlockIndex v
      messageBlockIndex := context.messageBlockIndex + 1 } := if_pos h.index_lt
  have hbytes := bytes_store8_succ context.messageBlock context.messageBlockIndex v
  have hrest : (bytes context.messageBlock context.messageBlockIndex ++ [v]).length =
      context.messageBlockIndex + 1 := by
    rw [List.length_append, length_bytes, List.length_singleton]
  rw [sha1InputByte, hput, Option.bind_eq_bind, Option.bind_some]
  refine ⟨_, rfl, ?_⟩
  rcases @Sha1Context.countByte_eq { context with
      messageBlock := store8 context.messageBlock context.messageBlockIndex v
      messageBlockIndex := context.messageBlockIndex + 1 } msg.length h.length with
    ⟨hlt, high, low, hlength, heq⟩ | ⟨hle, high, low, heq⟩
  · refine .inl ⟨hlt, ?_⟩
    rw [heq]
    split_ifs with hfull
    · -- the buffer is full
      dsimp only at hfull
      rw [sha1ProcessMessageBlock_eq]
      refine ⟨?_, by simpa using hlength, h.notComputed, h.notCorrupted⟩
      have habsorbed := h.absorbed.compressed (hrest.trans hfull)
      rw [← hbytes, hfull] at habsorbed
      exact habsorbed
    · dsimp only at hfull
      refine ⟨?_, by simpa using hlength, h.notComputed, h.notCorrupted⟩
      have habsorbed := h.absorbed.wait
        (show (bytes context.messageBlock context.messageBlockIndex ++ [v]).length < 64 by
          have := h.index_lt
          omega)
      rw [← hbytes] at habsorbed
      exact habsorbed
  · refine .inr ⟨hle, ?_⟩
    rw [heq]
    split_ifs
    · rw [sha1ProcessMessageBlock_eq]
    · rfl

/-- **A piece is taken in**, unless it makes the message too long. -/
lemma Sha1Context.Reading.inputLoop (h : context.Reading msg) (message : List UInt8) :
    ∃ context', sha1InputLoop context message = some context' ∧
      (((msg ++ message).length < 2 ^ 61 ∧ context'.Reading (msg ++ message)) ∨
        (2 ^ 61 ≤ (msg ++ message).length ∧ context'.corrupted = true)) := by
  induction message generalizing context msg with
  | nil =>
    rw [List.append_nil]
    exact ⟨context, rfl, .inl ⟨h.length_lt, h⟩⟩
  | cons v message ih =>
    obtain ⟨context', hbyte, hread | ⟨hle, hcorrupted⟩⟩ := h.inputByte v
    · rw [sha1InputLoop, h.notCorrupted, if_neg Bool.false_ne_true, hbyte, Option.bind_some,
        List.append_cons]
      exact ih hread.2
    · refine ⟨context', ?_, .inr ⟨?_, hcorrupted⟩⟩
      · rw [sha1InputLoop, h.notCorrupted, if_neg Bool.false_ne_true, hbyte, Option.bind_some]
        cases message with
        | nil => rfl
        | cons v' message => rw [sha1InputLoop, if_pos hcorrupted]
      · rw [List.length_append, List.length_cons]
        omega

/-- The end of `SHA1PadMessage`: zeros up to 56 bytes, the length, and the last block. -/
lemma Sha1Context.zeroUpTo_storeLength
    (h : Absorbed SecureHash.compress 64 SecureHash.init msg context.messageDigest
      (bytes context.messageBlock context.messageBlockIndex))
    (hindex : context.messageBlockIndex ≤ 56) :
    ∃ context', ((context.zeroUpTo 56).bind fun context =>
        some (sha1ProcessMessageBlock (.replicate 80 0) context.storeLength)) = some context' ∧
      context'.messageDigest = (blocks 64 (msg ++
        (List.replicate (56 - context.messageBlockIndex) 0 ++
          (be32 context.lengthHigh ++ be32 context.lengthLow)))).foldl SecureHash.compress
            SecureHash.init ∧ context'.corrupted = context.corrupted := by
  have hcount : context.messageBlockIndex +
      (List.replicate (56 - context.messageBlockIndex) (0 : UInt8)).length = 56 := by
    rw [List.length_replicate]
    omega
  obtain ⟨block, hzeros, hbytes⟩ := @Sha1Context.putAll_eq context
    (List.replicate (56 - context.messageBlockIndex) 0) (by omega)
  rw [hcount] at hzeros hbytes
  rw [Sha1Context.zeroUpTo, hzeros, Option.bind_some, sha1ProcessMessageBlock_eq]
  refine ⟨_, rfl, ?_, rfl⟩
  dsimp only
  rw [Sha1Context.bytes_storeLength, hbytes, List.append_assoc]
  refine (h.compressed ?_).eq_foldl
  simp only [List.length_append, length_bytes, List.length_replicate, length_be32]
  omega

/-- The length that has been counted is that of the standard. -/
lemma Sha1Context.Reading.bitLength_eq (h : context.Reading msg) :
    be32 context.lengthHigh ++ be32 context.lengthLow = SecureHash.bitLength msg.length := by
  have hhigh := context.lengthHigh.toNat_lt
  have hlow := context.lengthLow.toNat_lt
  have hcount := h.length
  have h1 : UInt32.ofNat (8 * msg.length / 2 ^ 32) = context.lengthHigh := by
    apply UInt32.toNat_inj.mp
    rw [UInt32.toNat_ofNat']
    omega
  have h2 : UInt32.ofNat (8 * msg.length) = context.lengthLow := by
    apply UInt32.toNat_inj.mp
    rw [UInt32.toNat_ofNat']
    omega
  rw [SecureHash.bitLength, h1, h2]

/-- A `1` and zeros fill the buffer. -/
lemma Sha1Context.zeroUpTo_full
    (h : Absorbed SecureHash.compress 64 SecureHash.init msg context.messageDigest
      (bytes context.messageBlock context.messageBlockIndex)) :
    ∃ block, Sha1Context.zeroUpTo { context with
          messageBlock := store8 context.messageBlock context.messageBlockIndex 0x80
          messageBlockIndex := context.messageBlockIndex + 1 } 64 =
        some { context with messageBlock := block, messageBlockIndex := 64 } ∧
      Absorbed SecureHash.compress 64 SecureHash.init
        (msg ++ 0x80 :: List.replicate (63 - context.messageBlockIndex) 0)
        (SecureHash.compress context.messageDigest (bytes block 64)) [] := by
  obtain ⟨_, -, -, hlt, -⟩ := id h
  rw [length_bytes] at hlt
  have hrest : 64 - (context.messageBlockIndex + 1) = 63 - context.messageBlockIndex := by omega
  have hcount : context.messageBlockIndex + 1 +
      (List.replicate (63 - context.messageBlockIndex) (0 : UInt8)).length = 64 := by
    rw [List.length_replicate]
    omega
  obtain ⟨block, hzeros, hbytes⟩ := @Sha1Context.putAll_eq { context with
    messageBlock := store8 context.messageBlock context.messageBlockIndex 0x80
    messageBlockIndex := context.messageBlockIndex + 1 }
    (List.replicate (63 - context.messageBlockIndex) 0) (Nat.le_of_eq hcount)
  dsimp only at hzeros hbytes
  rw [hcount] at hzeros hbytes
  rw [bytes_store8_succ, List.append_assoc] at hbytes
  refine ⟨block, ?_, ?_⟩
  · rw [Sha1Context.zeroUpTo, hrest, hzeros]
  · rw [hbytes]
    refine h.compressed ?_
    rw [← List.singleton_append, ← hbytes, length_bytes]

/-- **The message is padded**, and its digest is computed. -/
lemma Sha1Context.Reading.padMessage (h : context.Reading msg) :
    ∃ context', sha1PadMessage context = some context' ∧
      context'.messageDigest = SecureHash.digest msg ∧ context'.corrupted = false := by
  have hlt := h.index_lt
  have hmod := h.index_eq
  have hput : context.put 0x80 = some { context with
      messageBlock := store8 context.messageBlock context.messageBlockIndex 0x80
      messageBlockIndex := context.messageBlockIndex + 1 } := if_pos hlt
  unfold sha1PadMessage
  split_ifs with hfull
  · -- the length goes into a block of its own
    obtain ⟨block, hzeros, habsorbed⟩ := Sha1Context.zeroUpTo_full h.absorbed
    obtain ⟨context', hfinish, hdigest, hcorrupted⟩ := @Sha1Context.zeroUpTo_storeLength
      { context with
        messageBlock := block
        messageDigest := SecureHash.compress context.messageDigest (bytes block 64)
        messageBlockIndex := 0 } _ habsorbed (Nat.zero_le _)
    have hzero : SecureHash.zeros msg.length = 63 - context.messageBlockIndex + 56 := by
      rw [SecureHash.zeros]
      omega
    have hpad : msg ++ 0x80 :: List.replicate (63 - context.messageBlockIndex) 0 ++
        (List.replicate (56 - 0) 0 ++ (be32 context.lengthHigh ++ be32 context.lengthLow)) =
          SecureHash.pad msg := by
      rw [h.bitLength_eq, SecureHash.pad, hzero, List.replicate_add]
      simp
    refine ⟨context', ?_, ?_, hcorrupted.trans h.notCorrupted⟩
    · rw [hput, Option.bind_eq_bind, Option.bind_some, hzeros, Option.bind_some,
        sha1ProcessMessageBlock_eq]
      exact hfinish
    · rw [hdigest, SecureHash.digest, ← hpad]
  · have habsorbed := @Absorbed.wait _ _ _ _ _ _ _ _ h.absorbed [0x80] (by
      rw [List.length_append, length_bytes, List.length_singleton]
      omega)
    rw [← bytes_store8_succ] at habsorbed
    obtain ⟨context', hfinish, hdigest, hcorrupted⟩ := @Sha1Context.zeroUpTo_storeLength
      { context with
        messageBlock := store8 context.messageBlock context.messageBlockIndex 0x80
        messageBlockIndex := context.messageBlockIndex + 1 } _ habsorbed (by dsimp only; omega)
    have hzero : SecureHash.zeros msg.length = 56 - (context.messageBlockIndex + 1) := by
      rw [SecureHash.zeros]
      omega
    have hpad : msg ++ [0x80] ++ (List.replicate (56 - (context.messageBlockIndex + 1)) 0 ++
        (be32 context.lengthHigh ++ be32 context.lengthLow)) = SecureHash.pad msg := by
      rw [h.bitLength_eq, SecureHash.pad, hzero, List.append_assoc, List.singleton_append]
    refine ⟨context', ?_, ?_, hcorrupted.trans h.notCorrupted⟩
    · rw [hput, Option.bind_eq_bind, Option.bind_some]
      exact hfinish
    · rw [hdigest, SecureHash.digest, ← hpad]

end Reading

/-! ### What the object is for -/

/-- A computation of a message digest. -/
inductive Sha1Object where
  /-- A message is read. -/
  | reading (msg : List UInt8)
  /-- The digest of a message has been asked for. -/
  | finished (msg : List UInt8)
  /-- The computation has been misused. -/
  | corrupted

/-- A call of one of the functions. -/
inductive Sha1Call where
  /-- `SHA1Reset`. -/
  | reset
  /-- `SHA1Input`. -/
  | input (message : List UInt8)
  /-- `SHA1Result`. -/
  | result

/-- What a call does, and what is answered to it: the digest, or that there is none, when it is asked
for. -/
def Sha1Object.step : Sha1Object → Sha1Call → Sha1Object × Option (Option SecureHash.Words)
  | _, .reset => (.reading [], none)
  | o, .input [] => (o, none)
  | .reading msg, .input message =>
    (if (msg ++ message).length < 2 ^ 61 then .reading (msg ++ message) else .corrupted, none)
  | .finished _, .input _ => (.corrupted, none)
  | .corrupted, .input _ => (.corrupted, none)
  | .reading msg, .result => (.finished msg, some (some (SecureHash.digest msg)))
  | .finished msg, .result => (.finished msg, some (some (SecureHash.digest msg)))
  | .corrupted, .result => (.corrupted, some none)

/-- The answers to some calls. -/
def Sha1Object.answers : Sha1Object → List Sha1Call → List (Option SecureHash.Words)
  | _, [] => []
  | o, c :: calls => (o.step c).2.toList ++ (o.step c).1.answers calls

/-- A call of the code, and what is answered to it: after `SHA1Result` the digest in the context, if 1
is returned. -/
def sha1Call (context : Sha1Context) :
    Sha1Call → Option (Sha1Context × Option (Option SecureHash.Words))
  | .reset => some (sha1Reset context, none)
  | .input message => (sha1Input context message).map fun context => (context, none)
  | .result => (sha1Result context).map fun r =>
    (r.1, some (if r.2 then some r.1.messageDigest else none))

/-- The answers of the code to some calls, if nothing is stored behind the buffer. -/
def sha1Answers (context : Sha1Context) : List Sha1Call → Option (List (Option SecureHash.Words))
  | [] => some []
  | c :: calls => (sha1Call context c).bind fun r =>
    (sha1Answers r.1 calls).map fun answers => r.2.toList ++ answers

/-- A context is in a state of the object. -/
def Sha1Object.Holds : Sha1Object → Sha1Context → Prop
  | .reading msg, context => context.Reading msg
  | .finished msg, context => context.messageDigest = SecureHash.digest msg ∧
      context.computed = true ∧ context.corrupted = false
  | .corrupted, context => context.corrupted = true

/-- After a reset an empty message is read. -/
lemma Sha1Object.holds_sha1Reset (context : Sha1Context) :
    (Sha1Object.reading []).Holds (sha1Reset context) :=
  reading_sha1Reset context

/-- **A piece that is not empty** is taken in as the object takes it in. -/
lemma Sha1Object.Holds.input {o : Sha1Object} {context : Sha1Context} (h : o.Holds context)
    (v : UInt8) (message : List UInt8) :
    ∃ context', sha1Input context (v :: message) = some context' ∧
      (o.step (.input (v :: message))).1.Holds context' := by
  have hsome : ¬ (v :: message).length = 0 := Nat.succ_ne_zero _
  unfold sha1Input
  rw [if_neg hsome]
  cases o with
  | reading msg =>
    have hopen : ¬ (context.computed = true ∨ context.corrupted = true) := by
      rw [h.notComputed, h.notCorrupted]
      simp
    have hstep : (Sha1Object.reading msg).step (.input (v :: message)) =
        (if (msg ++ v :: message).length < 2 ^ 61 then .reading (msg ++ v :: message)
          else .corrupted, none) := rfl
    rw [if_neg hopen, hstep]
    obtain ⟨context', hinput, ⟨hlt, hread⟩ | ⟨hle, hcorrupted⟩⟩ := h.inputLoop (v :: message)
    · rw [if_pos hlt]
      exact ⟨context', hinput, hread⟩
    · rw [if_neg (Nat.not_lt.mpr hle)]
      exact ⟨context', hinput, hcorrupted⟩
  | finished msg =>
    rw [if_pos (.inl h.2.1)]
    exact ⟨_, rfl, rfl⟩
  | corrupted =>
    rw [if_pos (.inr h)]
    exact ⟨_, rfl, rfl⟩

/-- **The digest is asked for**, and the answer is that of the object. -/
lemma Sha1Object.Holds.result {o : Sha1Object} {context : Sha1Context} (h : o.Holds context) :
    ∃ context', sha1Call context .result = some (context', (o.step .result).2) ∧
      (o.step .result).1.Holds context' := by
  unfold sha1Call sha1Result
  cases o with
  | reading msg =>
    obtain ⟨context', hpad, hdigest, hcorrupted⟩ := h.padMessage
    refine ⟨{ context' with computed := true }, ?_, hdigest, rfl, hcorrupted⟩
    rw [h.notCorrupted, h.notComputed, hpad]
    simp [Sha1Object.step, hdigest]
  | finished msg =>
    obtain ⟨hdigest, hcomputed, hcorrupted⟩ := h
    refine ⟨context, ?_, hdigest, hcomputed, hcorrupted⟩
    rw [hcorrupted, hcomputed]
    simp [Sha1Object.step, hdigest]
  | corrupted =>
    have hcorrupted : context.corrupted = true := h
    rw [if_pos hcorrupted]
    exact ⟨context, rfl, h⟩

/-- **A call** does what the object does. -/
lemma Sha1Object.Holds.step {o : Sha1Object} {context : Sha1Context} (h : o.Holds context)
    (c : Sha1Call) :
    ∃ context', sha1Call context c = some (context', (o.step c).2) ∧
      (o.step c).1.Holds context' := by
  match c with
  | .reset =>
    have hstep : o.step .reset = (.reading [], none) := by cases o <;> rfl
    rw [hstep]
    exact ⟨sha1Reset context, rfl, reading_sha1Reset context⟩
  | .input [] =>
    have hstep : o.step (.input []) = (o, none) := by cases o <;> rfl
    rw [hstep]
    exact ⟨context, rfl, h⟩
  | .input (v :: message) =>
    have hstep : (o.step (.input (v :: message))).2 = none := by cases o <;> rfl
    obtain ⟨context', hinput, hholds⟩ := h.input v message
    rw [hstep, sha1Call, hinput]
    exact ⟨context', rfl, hholds⟩
  | .result => exact h.result

/-- The code answers from any state as the object does. -/
lemma Sha1Object.Holds.answers {o : Sha1Object} {context : Sha1Context} (h : o.Holds context)
    (calls : List Sha1Call) : sha1Answers context calls = some (o.answers calls) := by
  induction calls generalizing o context with
  | nil => rfl
  | cons c calls ih =>
    obtain ⟨context', hcall, hholds⟩ := h.step c
    rw [sha1Answers, hcall, Option.bind_some, ih hholds]
    rfl

/-- **The code computes message digests**: whatever calls are made after a reset, it answers as the
object does, with the digest of all that has come in since the last reset, and stores nothing behind
its buffer. -/
theorem sha1_refines (context : Sha1Context) (calls : List Sha1Call) :
    sha1Answers (sha1Reset context) calls = some ((Sha1Object.reading []).answers calls) :=
  (Sha1Object.holds_sha1Reset context).answers calls

/-! ### Messages in pieces -/

/-- The calls for a message that comes in pieces. -/
def sha1Pieces (pieces : List (List UInt8)) : List Sha1Call :=
  pieces.map Sha1Call.input ++ [.result]

/-- A message that has become too long has no digest. -/
lemma Sha1Object.answers_pieces_corrupted (pieces : List (List UInt8)) :
    Sha1Object.corrupted.answers (sha1Pieces pieces) = [none] := by
  induction pieces with
  | nil => rfl
  | cons piece pieces ih =>
    have hstep : Sha1Object.corrupted.step (.input piece) = (.corrupted, none) := by
      cases piece <;> rfl
    rw [sha1Pieces, List.map_cons, List.cons_append, Sha1Object.answers, hstep]
    exact ih

/-- The answer for a message that comes in pieces. -/
lemma Sha1Object.answers_pieces {msg : List UInt8} (hmsg : msg.length < 2 ^ 61)
    (pieces : List (List UInt8)) :
    (Sha1Object.reading msg).answers (sha1Pieces pieces) =
      [if (msg ++ pieces.flatten).length < 2 ^ 61 then
        some (SecureHash.digest (msg ++ pieces.flatten)) else none] := by
  induction pieces generalizing msg with
  | nil =>
    rw [List.flatten_nil, List.append_nil, if_pos hmsg]
    rfl
  | cons piece pieces ih =>
    rw [sha1Pieces, List.map_cons, List.cons_append, Sha1Object.answers, List.flatten_cons,
      ← List.append_assoc, ← sha1Pieces]
    by_cases hlt : (msg ++ piece).length < 2 ^ 61
    · have hstep : (Sha1Object.reading msg).step (.input piece) = (.reading (msg ++ piece), none) := by
        cases piece with
        | nil => rw [List.append_nil]; rfl
        | cons v piece => exact congrArg (·, none) (if_pos hlt)
      rw [hstep]
      exact ih hlt
    · have hstep : (Sha1Object.reading msg).step (.input piece) = (.corrupted, none) := by
        cases piece with
        | nil =>
          rw [List.append_nil] at hlt
          exact absurd hmsg hlt
        | cons v piece => exact congrArg (·, none) (if_neg hlt)
      have hlong : ¬ (msg ++ piece ++ pieces.flatten).length < 2 ^ 61 := by
        rw [List.length_append]
        omega
      rw [hstep, if_neg hlong]
      exact Sha1Object.answers_pieces_corrupted pieces

/-- **A message that comes in pieces**: its digest is the answer if it is shorter than 2^64 bits. -/
theorem sha1Answers_pieces (context : Sha1Context) (pieces : List (List UInt8)) :
    sha1Answers (sha1Reset context) (sha1Pieces pieces) =
      some [if pieces.flatten.length < 2 ^ 61 then some (SecureHash.digest pieces.flatten)
        else none] := by
  have hempty : ([] : List UInt8).length < 2 ^ 61 := Nat.two_pow_pos 61
  rw [(Sha1Object.holds_sha1Reset context).answers, Sha1Object.answers_pieces hempty]
  rfl

/-- The state of the code when a block of 64 bytes is full, after the blocks `front`. -/
def Sha1Context.FullAfter (context : Sha1Context) (front : List (List UInt8)) (block : List UInt8) :
    Prop :=
  context.messageDigest = front.foldl SecureHash.compress SecureHash.init ∧
    bytes context.messageBlock 64 = block

/-- There is such a state. -/
lemma exists_fullAfter (context : Sha1Context) (front : List (List UInt8)) {block : List UInt8}
    (hblock : block.length = 64) : ∃ c : Sha1Context, c.FullAfter front block := by
  refine ⟨{ context with
    messageDigest := front.foldl SecureHash.compress SecureHash.init
    messageBlock := ofBytes block }, rfl, ?_⟩
  have hbytes := holds_iff_bytes.mp (holds_ofBytes block)
  rwa [hblock] at hbytes

/-- What `SHA1ProcessMessageBlock` leaves in it. -/
lemma Sha1Context.FullAfter.messageDigest {context : Sha1Context} {front : List (List UInt8)}
    {block : List UInt8} (h : context.FullAfter front block) (stack : Vector UInt32 80) :
    (sha1ProcessMessageBlock stack context).messageDigest =
      SecureHash.compress (front.foldl SecureHash.compress SecureHash.init) block := by
  rw [sha1ProcessMessageBlock_eq, h.1, h.2]

/-- **Equal digests**: when the code has the same answer for two messages, in whatever pieces they
come, they are the same message, or they are both too long, or `SHA1ProcessMessageBlock` leaves the
same digest in two different states, in each of which it is about to process a block of one of the
padded messages after the blocks in front of it. -/
theorem sha1_collision (context context' : Sha1Context) (pieces pieces' : List (List UInt8)) :
    sha1Answers (sha1Reset context) (sha1Pieces pieces) ≠
        sha1Answers (sha1Reset context') (sha1Pieces pieces') ∨
      pieces.flatten = pieces'.flatten ∨
      (2 ^ 61 ≤ pieces.flatten.length ∧ 2 ^ 61 ≤ pieces'.flatten.length) ∨
      ∃ (front front' rest : List (List UInt8)) (block block' : List UInt8) (c c' : Sha1Context),
        blocks 64 (SecureHash.pad pieces.flatten) = front ++ block :: rest ∧
        blocks 64 (SecureHash.pad pieces'.flatten) = front' ++ block' :: rest ∧
        c.FullAfter front block ∧ c'.FullAfter front' block' ∧
        (c.messageDigest, block) ≠ (c'.messageDigest, block') ∧
        ∀ stack stack', (sha1ProcessMessageBlock stack c).messageDigest =
          (sha1ProcessMessageBlock stack' c').messageDigest := by
  rw [sha1Answers_pieces, sha1Answers_pieces]
  by_cases heq : (if pieces.flatten.length < 2 ^ 61 then
      some (SecureHash.digest pieces.flatten) else none) =
    if pieces'.flatten.length < 2 ^ 61 then some (SecureHash.digest pieces'.flatten) else none
  · by_cases hmsg : pieces.flatten = pieces'.flatten
    · exact .inr (.inl hmsg)
    · split_ifs at heq with h h' h'
      · -- both have a digest, and it is the same one
        obtain ⟨x⟩ := SecureHash.exists_collision h h' hmsg (Option.some.inj heq)
        have hlen := (SecureHash.pad_eq_flatten pieces.flatten).2 x.b x.mem_left
        have hlen' := (SecureHash.pad_eq_flatten pieces'.flatten).2 x.b' x.mem_right
        obtain ⟨c, hc⟩ := exists_fullAfter context x.front hlen
        obtain ⟨c', hc'⟩ := exists_fullAfter context' x.front' hlen'
        refine .inr (.inr (.inr ⟨x.front, x.front', x.rest, x.b, x.b', c, c', x.left, x.right, hc, hc',
          ?_, fun stack stack' => ?_⟩))
        · rw [hc.1, hc'.1]
          exact x.ne
        · rw [hc.messageDigest, hc'.messageDigest]
          exact x.eq
      · exact .inr (.inr (.inl ⟨Nat.not_lt.mp h, Nat.not_lt.mp h'⟩))
  · exact .inl fun h => heq (List.singleton_inj.mp (Option.some.inj h))

end NatRouter
