import NatRouter.Lib.TextFile
import NatRouter.Sha1.Digest
import NatRouter.Vns.Framing
import NatRouter.Vns.MessageLengths

/-!
# The opening of a session

How the router authenticates itself and asks for its topology: it answers a salt with the name of
its user and the message digest of the salt and of a key in a file, and then sends `VNS_OPEN`.  The
server unpacks from these two messages what they are to say (`authReply_agree`, `openMessage_agree`).

The key is read with `fgets` into a buffer on the stack, and all 64 bytes of the buffer go into the
digest; they are those of the file if its first line has that many.  The name of the user is cut to
32 bytes and may then have no end, and so it runs on into the name of the host.
-/

namespace NatRouter

open ByteMemory StructPack TextFile

/-! ### `sr_vns_comm.c` -/

/-- `VNS_AUTH_REPLY`. -/
def vnsAuthReply : UInt32 := 256

/-- `VNSOPEN`. -/
def vnsOpen : UInt32 := 1

/-- `AUTH_KEY_LEN`. -/
def authKeyLen : ℕ := 64

/-- `SHA1_LEN`. -/
def sha1Len : ℕ := 20

/-- `sizeof(c_auth_reply)`. -/
def sizeofAuthReply : ℕ := 12

/-- `sizeof(c_open)`. -/
def sizeofOpen : ℕ := 108

/-- What `main` has put into `struct sr_instance` for the opening of a session without a template. -/
structure SrNames where
  /-- The name of the user. -/
  user : List UInt8
  /-- The name of the host. -/
  host : List UInt8
  /-- `topo_id`. -/
  topoId : UInt16
  /-- The user is a string. -/
  user_notMem : 0 ∉ user
  /-- So is the host. -/
  host_notMem : 0 ∉ host

/-- The string at `sr->user`: 32 bytes as `strncpy` leaves them, then the 32 of `host`, and then the
zero byte of the empty `template`. -/
def SrNames.userString (names : SrNames) : List UInt8 :=
  (padded 32 names.user ++ (padded 32 names.host ++ [0])).takeWhile (· ≠ 0)

/-- What the surroundings supply to `sr_handle_auth_request`. -/
structure AuthSurroundings where
  /-- The file `auth_key`, if it can be opened. -/
  keyFile : Option (List UInt8)
  /-- The old content of `auth_key`. -/
  authKey : ByteMem
  /-- The old content of `sha1`. -/
  sha1 : Sha1Context
  /-- The old content of the block for the reply. -/
  reply : ByteMem

/-- The 64 bytes of `auth_key` when a line has been read into it. -/
def authKeyBytes (authKey : ByteMem) (line : List UInt8) : List UInt8 :=
  bytes (storeBlock authKey 0 (ofBytes (line ++ [0])) (line.length + 1)) authKeyLen

/-- `Message_Digest`, each word in network byte order. -/
def digestBlock (digest : SecureHash.Words) : ByteMem :=
  let block : ByteMem := fun _ => 0
  let block := store32 block 0 (htonl digest.a)
  let block := store32 block 4 (htonl digest.b)
  let block := store32 block 8 (htonl digest.c)
  let block := store32 block 12 (htonl digest.d)
  store32 block 16 (htonl digest.e)

/-- The reply that is sent. -/
def authReply (junk : ByteMem) (names : SrNames) (digest : SecureHash.Words) : List UInt8 :=
  let lenUsername := names.userString.length
  let len := sizeofAuthReply + lenUsername + sha1Len
  let ar := store32 junk 0 (htonl (UInt32.ofNat len))
  let ar := store32 ar 4 (htonl vnsAuthReply)
  let ar := store32 ar 8 (htonl (UInt32.ofNat lenUsername))
  let ar := storeBlock ar 12 (ofBytes (names.userString ++ [0])) (lenUsername + 1)
  let ar := storeBlock ar (12 + lenUsername) (digestBlock digest) sha1Len
  bytes ar len

/-- `sr_handle_auth_request`: the reply, unless 0 is returned; nothing stands for a store behind the
message block of the digest. -/
def srHandleAuthRequest (names : SrNames) (ctx : AuthSurroundings) (req : ByteMem) :
    Option (Option (List UInt8)) :=
  match ctx.keyFile with
  | none => some none
  | some file =>
    match fgets (authKeyLen + 1) file with
    | none => some none
    | some (line, _) => do
      let saltLen := ntohl (load32 req 0) - UInt32.ofNat sizeofBase
      let sha1 ← sha1Input (sha1Reset ctx.sha1) (bytes (fun j => req (8 + j)) saltLen.toNat)
      let sha1 ← sha1Input sha1 (authKeyBytes ctx.authKey line)
      let (sha1, ret) ← sha1Result sha1
      return if ret then some (authReply ctx.reply names sha1.messageDigest) else none

/-- `sr_handle_auth_status`: whether it returns something other than 0. -/
def srHandleAuthStatus (status : ByteMem) : Bool := status 8 ≠ 0

/-- The message with which `sr_connect_to_server` opens the session. -/
def openMessage (names : SrNames) : List UInt8 :=
  let command : ByteMem := fun _ => 0
  let command := store32 command 0 (htonl (UInt32.ofNat sizeofOpen))
  let command := store32 command 4 (htonl vnsOpen)
  let command := store16 command 8 (htons names.topoId)
  let command := storeBlock command 12 (ofBytes (padded idsize names.host)) idsize
  let command := storeBlock command 44 (ofBytes (padded idsize names.user)) idsize
  bytes command sizeofOpen

/-! ### Names -/

/-- A name that is too long is cut. -/
lemma padded_take (n : ℕ) (s : List UInt8) : padded n (s.take n) = padded n s := by
  rw [padded, padded, List.take_take, Nat.min_self, List.length_take]
  congr 2
  omega

/-- The name of the user runs on into that of the host if it is too long. -/
lemma SrNames.userString_eq (names : SrNames) : names.userString =
    if names.user.length < 32 then names.user else names.user.take 32 ++ names.host.take 32 := by
  have hall : ∀ {s : List UInt8}, 0 ∉ s → ∀ x ∈ s.take 32, decide (x ≠ 0) = true :=
    fun hs x hx => decide_eq_true fun h0 => hs (List.mem_of_mem_take (h0 ▸ hx))
  unfold SrNames.userString
  split_ifs with hlt
  · exact takeWhile_padded names.user_notMem hlt _
  · have huser : padded 32 names.user = names.user.take 32 := by
      rw [padded, Nat.sub_eq_zero_of_le (Nat.not_lt.mp hlt), List.replicate_zero, List.append_nil]
    have hhost : ∃ k, padded 32 names.host ++ [0] =
        names.host.take 32 ++ List.replicate (k + 1) 0 := by
      refine ⟨32 - names.host.length, ?_⟩
      rw [padded, List.append_assoc, List.replicate_succ']
    obtain ⟨k, hk⟩ := hhost
    rw [huser, List.takeWhile_append_of_pos (hall names.user_notMem), hk,
      List.takeWhile_append_of_pos (hall names.host_notMem), List.replicate_succ]
    simp

/-- It is short in any case. -/
lemma SrNames.length_userString (names : SrNames) : names.userString.length ≤ 64 := by
  rw [names.userString_eq]
  split_ifs with hlt
  · omega
  · rw [List.length_append, List.length_take, List.length_take]
    omega

/-- A file whose first line has 64 bytes or more gives the key, whatever was on the stack. -/
lemma authKeyBytes_of_full {file : List UInt8} (hlength : authKeyLen ≤ file.length)
    (hline : newline ∉ file.take authKeyLen) (authKey : ByteMem) :
    fgets (authKeyLen + 1) file = some (file.take authKeyLen, file.drop authKeyLen) ∧
      authKeyBytes authKey (file.take authKeyLen) = file.take authKeyLen := by
  have htake : (file.take authKeyLen).length = authKeyLen := by
    rw [List.length_take, Nat.min_eq_left hlength]
  constructor
  · have hline' := takeLine_of_notMem hline
    cases file with
    | nil => exact absurd hlength (by decide)
    | cons c file => exact congrArg some hline'
  · have hholds : Holds (storeBlock authKey 0 (ofBytes (file.take authKeyLen ++ [0]))
        ((file.take authKeyLen).length + 1)) 0 (file.take authKeyLen ++ [0]) :=
      holds_storeBlock _ 0 (holds_ofBytes _) (by rw [List.length_append]; rfl)
    have hbytes := holds_iff_bytes.mp (holds_append.mp hholds).1
    rw [htake] at hbytes
    rw [authKeyBytes, htake]
    exact hbytes

/-! ### The two messages -/

/-- The bytes of a digest, as they are sent. -/
def digestBytes (digest : SecureHash.Words) : List UInt8 :=
  be32 digest.a ++ (be32 digest.b ++ (be32 digest.c ++ (be32 digest.d ++ be32 digest.e)))

/-- The words of the digest are stored in their order. -/
lemma digestBlock_holds (digest : SecureHash.Words) :
    Holds (digestBlock digest) 0 (digestBytes digest) := by
  unfold digestBlock digestBytes
  refine holds_append.mpr ⟨?_, holds_append.mpr ⟨?_, holds_append.mpr ⟨?_, holds_append.mpr ⟨?_, ?_⟩⟩⟩⟩
  · exact ((((holds_store32 _ 0 digest.a).store32 (.inl le_rfl)).store32 (.inl (by simp))).store32
      (.inl (by simp))).store32 (.inl (by simp))
  · exact (((holds_store32 _ 4 digest.b).store32 (.inl le_rfl)).store32 (.inl (by simp))).store32
      (.inl (by simp))
  · exact ((holds_store32 _ 8 digest.c).store32 (.inl le_rfl)).store32 (.inl (by simp))
  · exact (holds_store32 _ 12 digest.d).store32 (.inl le_rfl)
  · exact holds_store32 _ 16 digest.e

/-- The reply: the prefix, the length of the name, the name and the digest. -/
lemma authReply_eq (junk : ByteMem) (names : SrNames) (digest : SecureHash.Words) :
    authReply junk names digest = vnsFrame VnsAuthReply.type
      (be32 (UInt32.ofNat names.userString.length) ++
        (names.userString ++ digestBytes digest)) := by
  have hdigest : (digestBytes digest).length = sha1Len := rfl
  set user := names.userString with huser
  set len := sizeofAuthReply + user.length + sha1Len with hlen
  have htotal : 8 + (be32 (UInt32.ofNat user.length) ++ (user ++ digestBytes digest)).length =
      len := by
    simp only [List.length_append, length_be32, hdigest, hlen, sizeofAuthReply]
    omega
  have hframe : (vnsFrame VnsAuthReply.type
      (be32 (UInt32.ofNat user.length) ++ (user ++ digestBytes digest))).length = len := by
    rw [length_vnsFrame, htotal]
  unfold authReply
  dsimp only
  rw [← huser, ← hlen]
  refine (congrArg (bytes _) hframe.symm).trans (holds_iff_bytes.mp ?_)
  unfold vnsFrame
  rw [htotal]
  refine holds_append.mpr ⟨?_, holds_append.mpr ⟨?_, holds_append.mpr ⟨?_, holds_append.mpr ⟨?_, ?_⟩⟩⟩⟩
  · exact ((((holds_store32 junk 0 _).store32 (.inl le_rfl)).store32 (.inl (by simp))).storeBlock
      (.inl (by simp))).storeBlock (.inl (by simp; omega))
  · exact (((holds_store32 _ 4 vnsAuthReply).store32 (.inl le_rfl)).storeBlock
      (.inl (by simp))).storeBlock (.inl (by simp; omega))
  · exact ((holds_store32 _ 8 _).storeBlock (.inl le_rfl)).storeBlock (.inl (by simp))
  · have hname : Holds (storeBlock (store32 (store32 (store32 junk 0 (htonl (UInt32.ofNat len))) 4
        (htonl vnsAuthReply)) 8 (htonl (UInt32.ofNat user.length))) 12 (ofBytes (user ++ [0]))
        (user.length + 1)) 12 (user ++ [0]) :=
      holds_storeBlock _ 12 (holds_ofBytes _) (by rw [List.length_append]; rfl)
    exact (holds_append.mp hname).1.storeBlock (.inl le_rfl)
  · exact holds_storeBlock _ _ (digestBlock_holds digest) (Nat.le_of_eq hdigest)

/-- A name and a digest are unpacked from the length of the name, the name and the digest. -/
lemma VnsAuthReply.unpack_eq {user ssp : List UInt8} (h : user.length < 2 ^ 32) :
    VnsAuthReply.unpack (be32 (UInt32.ofNat user.length) ++ (user ++ ssp)) = some ⟨user, ssp⟩ := by
  have hpack : StructPack.pack [.u32] [.int user.length] =
      some (be32 (UInt32.ofNat user.length)) := by
    simp only [StructPack.pack, Code.pack, if_pos h, List.append_nil]
  unfold VnsAuthReply.unpack
  rw [List.take_left' (length_be32 _), List.drop_left' (length_be32 _), unpack_of_pack hpack]
  simp only [List.zipWith_cons_cons, List.zipWith_nil_left, Code.stored, List.take_left,
    List.drop_left]

/-- The body of the message that opens the session. -/
def openBody (names : SrNames) : List UInt8 :=
  be16 names.topoId ++ (padded 2 [] ++ (padded 32 names.host ++ (padded 32 names.user ++ padded 32 [])))

/-- The message that opens the session: the prefix, the topology, two names and no password. -/
lemma openMessage_eq (names : SrNames) :
    openMessage names = vnsFrame VnsOpen.type (openBody names) := by
  have hzero : ∀ i n, Holds (fun _ => 0) i (padded n []) := by
    intro i n j hj
    simp [padded]
  have hframe : (vnsFrame VnsOpen.type (openBody names)).length = sizeofOpen := by
    rw [length_vnsFrame]
    simp only [openBody, List.length_append, length_padded]
    rfl
  have htotal : 8 + (openBody names).length = sizeofOpen := by
    rw [← hframe, length_vnsFrame]
  unfold openMessage
  dsimp only
  refine (congrArg (bytes _) hframe.symm).trans (holds_iff_bytes.mp ?_)
  unfold vnsFrame
  rw [htotal]
  refine holds_append.mpr ⟨?_, holds_append.mpr ⟨?_, holds_append.mpr ⟨?_, holds_append.mpr ⟨?_,
    holds_append.mpr ⟨?_, holds_append.mpr ⟨?_, ?_⟩⟩⟩⟩⟩⟩
  all_goals try simp only [length_be32, length_be16, length_padded, Nat.zero_add, Nat.reduceAdd]
  · exact ((((holds_store32 _ 0 _).store32 (.inl le_rfl)).store16 (.inl (by simp))).storeBlock
      (.inl (by simp))).storeBlock (.inl (by simp))
  · exact (((holds_store32 _ 4 vnsOpen).store16 (.inl le_rfl)).storeBlock
      (.inl (by simp))).storeBlock (.inl (by simp))
  · exact ((holds_store16 _ 8 names.topoId).storeBlock (.inl (by simp))).storeBlock (.inl (by simp))
  -- the bytes that keep the zeros of `memset`
  · exact (((((hzero 10 2).store32 (.inr (by simp))).store32 (.inr (by simp))).store16
      (.inr le_rfl)).storeBlock (.inl (by simp))).storeBlock (.inl (by simp))
  · exact (holds_storeBlock _ 12 (holds_ofBytes _) (Nat.le_of_eq (length_padded _ _))).storeBlock
      (.inl (by simp [idsize]))
  · exact holds_storeBlock _ 44 (holds_ofBytes _) (Nat.le_of_eq (length_padded _ _))
  · exact (((((hzero 76 32).store32 (.inr (by simp))).store32 (.inr (by simp))).store16
      (.inr (by simp))).storeBlock (.inr (by simp [idsize]))).storeBlock (.inr (by simp [idsize]))

/-- The digest that is sent is that of the salt and the key. -/
lemma srHandleAuthRequest_eq (names : SrNames) {ctx : AuthSurroundings} {file line left : List UInt8}
    (hfile : ctx.keyFile = some file) (hline : fgets (authKeyLen + 1) file = some (line, left))
    {req : ByteMem} {salt : List UInt8} (hsalt : 8 + salt.length ≤ 10000)
    (hreq : InBuffer req salt) : srHandleAuthRequest names ctx req = some (some (authReply ctx.reply
      names (SecureHash.digest (salt ++ authKeyBytes ctx.authKey line)))) := by
  have hsaltLen : (ntohl (load32 req 0) - UInt32.ofNat sizeofBase).toNat = salt.length := by
    have hbase : UInt32.ofNat sizeofBase ≤ UInt32.ofNat (8 + salt.length) := by
      rw [UInt32.le_iff_toNat_le, UInt32.toNat_ofNat_of_lt' (lt_of_le_of_lt hsalt (by decide))]
      exact Nat.le_add_right 8 _
    rw [ntohl_load32_of_holds hreq.length, UInt32.toNat_sub_of_le _ _ hbase,
      UInt32.toNat_ofNat_of_lt' (lt_of_le_of_lt hsalt (by decide))]
    exact Nat.add_sub_cancel_left 8 _
  have hsaltBytes : bytes (fun j => req (8 + j)) salt.length = salt :=
    holds_iff_bytes.mp (Holds.shift (k := 0) hreq.body)
  set key := authKeyBytes ctx.authKey line with hkey
  have hlength : (salt ++ key).length < 2 ^ 61 := by
    rw [List.length_append, hkey, authKeyBytes, length_bytes]
    exact lt_of_le_of_lt (Nat.add_le_add_right (Nat.le_trans (Nat.le_add_left _ 8) hsalt) _)
      (by decide)
  have hshort : ([] ++ salt).length < 2 ^ 61 :=
    lt_of_le_of_lt (by rw [List.nil_append, List.length_append]; exact Nat.le_add_right _ _) hlength
  -- the three calls on the context
  obtain ⟨c₁, hcall₁, hholds₁⟩ := (Sha1Object.holds_sha1Reset ctx.sha1).step (.input salt)
  have hread₁ : ((Sha1Object.reading []).step (.input salt)).1 = .reading salt := by
    cases salt with
    | nil => rfl
    | cons v salt => exact if_pos hshort
  rw [hread₁] at hholds₁
  obtain ⟨c₂, hcall₂, hholds₂⟩ := hholds₁.step (.input key)
  have hread₂ : ((Sha1Object.reading salt).step (.input key)).1 = .reading (salt ++ key) := by
    cases hcases : key with
    | nil => rw [List.append_nil]; rfl
    | cons v rest =>
      rw [hcases] at hlength
      exact if_pos hlength
  rw [hread₂] at hholds₂
  obtain ⟨c₃, hcall₃, hdigest, -, -⟩ := hholds₂.result
  obtain ⟨c₁', hinput₁, h₁⟩ := Option.map_eq_some_iff.mp hcall₁
  obtain ⟨c₂', hinput₂, h₂⟩ := Option.map_eq_some_iff.mp hcall₂
  obtain ⟨r, hresult, h₃⟩ := Option.map_eq_some_iff.mp hcall₃
  obtain rfl := (Prod.mk.inj h₁).1
  obtain rfl := (Prod.mk.inj h₂).1
  obtain ⟨hc₃, hret⟩ := Prod.mk.inj h₃
  have hret : r.2 = true := by
    by_contra hfalse
    rw [if_neg hfalse] at hret
    exact absurd (Option.some.inj hret) (by simp)
  unfold srHandleAuthRequest
  simp only [hfile, hline, hsaltLen, hsaltBytes, ← hkey, hinput₁, hinput₂, hresult, hret, if_true,
    Option.bind_eq_bind, Option.bind_some, Option.pure_def]
  rw [hc₃, hdigest]

/-- **Both ends agree on the authentication.**  To a request the router replies with a message of
which the server unpacks the name of the user and the digest of the salt and the key. -/
theorem authReply_agree (lt : LtProtocol) (cfg : NetConfig) (behind : ByteMem) (names : SrNames)
    {ctx : AuthSurroundings} {file line left salt msg : List UInt8} (hfile : ctx.keyFile = some file)
    (hline : fgets (authKeyLen + 1) file = some (line, left)) (hsalt : 8 + salt.length ≤ 10000)
    (hmsg : lt.frame VnsAuthRequest.type (VnsAuthRequest.pack ⟨salt⟩) = some msg)
    (rest : List UInt8) : ∃ buf reply header body,
      srReadFromServerExpect cfg 128 behind (msg ++ rest) = some (.authRequest buf, rest) ∧
      srHandleAuthRequest names ctx buf = some (some reply) ∧
      pack [.u32, .u32] [.int (8 + body.length), .int VnsAuthReply.type] = some header ∧
      reply = header ++ body ∧
      VnsAuthReply.unpack body = some
        ⟨if names.user.length < 32 then names.user else names.user.take 32 ++ names.host.take 32,
          digestBytes (SecureHash.digest (salt ++ authKeyBytes ctx.authKey line))⟩ ∧
      (authKeyLen ≤ file.length → newline ∉ file.take authKeyLen →
        authKeyBytes ctx.authKey line = file.take authKeyLen) := by
  obtain ⟨-, rfl⟩ := lt.frame_eq_vnsFrame hmsg
  obtain ⟨buf, hbuf, hread⟩ :=
    @srReadFromServerExpect_message VnsAuthRequest.type salt cfg 128 behind hsalt rest
  set digest := SecureHash.digest (salt ++ authKeyBytes ctx.authKey line) with hdigest
  set body := be32 (UInt32.ofNat names.userString.length) ++
    (names.userString ++ digestBytes digest) with hbody
  have huser := names.length_userString
  have hfits : 8 + body.length < 2 ^ 32 := by
    have hdigestLen : (digestBytes digest).length = 20 := rfl
    simp only [hbody, List.length_append, length_be32, hdigestLen]
    omega
  refine ⟨buf, authReply ctx.reply names digest,
    be32 (UInt32.ofNat (8 + body.length)) ++ be32 (UInt32.ofNat VnsAuthReply.type), body, hread,
    srHandleAuthRequest_eq names hfile hline hsalt hbuf, ?_, ?_, ?_, fun hlength hfull => ?_⟩
  · simp only [pack, Code.pack, if_pos hfits]
    rfl
  · rw [authReply_eq, vnsFrame, List.append_assoc]
  · rw [← names.userString_eq]
    exact VnsAuthReply.unpack_eq (lt_of_le_of_lt huser (by decide))
  · obtain ⟨hfgets, hkey⟩ := authKeyBytes_of_full hlength hfull ctx.authKey
    obtain rfl := (Prod.mk.inj (Option.some.inj (hline.symm.trans hfgets))).1
    exact hkey

/-- `authReply_agree` for a salt of 20 bytes and a key of 64. -/
theorem authReply_agree_user :
    let names : SrNames := ⟨[117, 115, 101, 114], [104, 111, 115, 116], 0, by decide, by decide⟩
    let salt : List UInt8 := List.replicate 20 7
    let file : List UInt8 := List.replicate 64 97 ++ [newline]
    let ctx : AuthSurroundings :=
      ⟨some file, fun _ => 1, ⟨SecureHash.init, 0, 0, fun _ => 1, 0, false, false⟩, fun _ => 1⟩
    ∃ msg buf reply header body, prefixFraming.frame VnsAuthRequest.type salt = some msg ∧
      srReadFromServerExpect oneRoute 128 (fun _ => 0) (msg ++ [1, 2]) =
        some (.authRequest buf, [1, 2]) ∧
      srHandleAuthRequest names ctx buf = some (some reply) ∧
      pack [.u32, .u32] [.int (8 + body.length), .int VnsAuthReply.type] = some header ∧
      reply = header ++ body ∧
      VnsAuthReply.unpack body = some ⟨[117, 115, 101, 114],
        digestBytes (SecureHash.digest (salt ++ authKeyBytes ctx.authKey (List.replicate 64 97)))⟩ ∧
      (authKeyLen ≤ file.length → newline ∉ file.take authKeyLen →
        authKeyBytes ctx.authKey (List.replicate 64 97) = file.take authKeyLen) := by
  intro names salt file ctx
  obtain ⟨buf, reply, header, body, h⟩ :=
    @authReply_agree prefixFraming oneRoute (fun _ => 0) names ctx file (List.replicate 64 97)
      [newline] salt _ rfl rfl (by decide) rfl [1, 2]
  exact ⟨_, buf, reply, header, body, rfl, h⟩

/-- The body of the opening as it is packed. -/
lemma pack_openBody (names : SrNames) :
    StructPack.pack VnsOpen.format [.str (be16 names.topoId), .str [], .str names.host,
      .str names.user, .str []] = some (openBody names) := by
  simp only [StructPack.pack, VnsOpen.format, Code.pack, List.append_nil]
  rfl

lemma length_openBody (names : SrNames) : (openBody names).length = 100 := by
  rw [length_of_pack (pack_openBody names)]
  rfl

/-- What the server unpacks of the opening. -/
lemma VnsOpen.unpack_openBody (names : SrNames) : VnsOpen.unpack (openBody names) =
    some ⟨names.topoId.toNat, names.host.take 32, names.user.take 32, []⟩ := by
  have hstrip : ∀ {s : List UInt8}, 0 ∉ s → stripNullChars (padded 32 s) = s.take 32 := by
    intro s hs
    rw [stripNullChars, ← padded_take]
    exact filter_padded (fun h => hs (List.mem_of_mem_take h)) (List.length_take_le 32 s)
  unfold VnsOpen.unpack
  rw [unpack_of_pack (pack_openBody names)]
  simp only [VnsOpen.format, List.zipWith_cons_cons, List.zipWith_nil_left, Code.stored,
    hstrip names.user_notMem, hstrip names.host_notMem, hstrip List.not_mem_nil, List.take_nil]
  rw [padded_of_le (Nat.le_of_eq (length_be16 _)), length_be16, Nat.sub_self, List.replicate_zero,
    List.append_nil, ofBe16_be16]

/-- **Both ends agree on the opening**: the server unpacks the topology and the two names, cut to 32
bytes, and no password. -/
theorem openMessage_agree (names : SrNames) : ∃ header body,
    pack [.u32, .u32] [.int (8 + body.length), .int VnsOpen.type] = some header ∧
      openMessage names = header ++ body ∧
      VnsOpen.unpack body = some
        ⟨names.topoId.toNat, names.host.take 32, names.user.take 32, []⟩ := by
  refine ⟨be32 (UInt32.ofNat (8 + (openBody names).length)) ++ be32 (UInt32.ofNat VnsOpen.type),
    openBody names, ?_, ?_, VnsOpen.unpack_openBody names⟩
  · rw [length_openBody]
    rfl
  · rw [openMessage_eq, vnsFrame, List.append_assoc]

end NatRouter
