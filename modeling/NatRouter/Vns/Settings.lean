import NatRouter.RouteFile
import NatRouter.Vns.Agreement

/-!
# The addresses of the interfaces (`get_ip_setting`, `pack_ip`)

The server reads the addresses of the interfaces of the switch from a file of names and addresses, and
packs each for the router.  It reads an address with `int`, number by number, and the router reads those
in its routing table with `inet_aton`.  For addresses of four plain decimal numbers this is the same
(`inetAton_of_packIp`), so an interface of the router has the address that stands in the file
(`settings_agree`).  A number with a zero in front is octal for the router only.
-/

namespace NatRouter

open ByteMemory DottedQuad StructPack TextFile

/-! ### `pack_ip` -/

/-- The value of decimal digits. -/
def pyDigits (text : Text) : Option ℕ := if text = [] then none else ofDigits? 10 text 0

/-- `int`, for a text without blanks. -/
def pyInt : Text → Option ℤ
  | [] => none
  | c :: text =>
    if c = ascii '-' then (pyDigits text).map fun n : ℕ => -(n : ℤ)
    else if c = ascii '+' then (pyDigits text).map fun n : ℕ => (n : ℤ)
    else (pyDigits (c :: text)).map fun n : ℕ => (n : ℤ)

/-- `chr`. -/
def pyChr (n : ℤ) : Option UInt8 := if 0 ≤ n ∧ n < 256 then some (UInt8.ofNat n.toNat) else none

/-- `pack_ip`, if it raises no exception. -/
def packIp (ipaddr : Text) : Option (List UInt8) :=
  (ipaddr.splitOn dot).mapM fun byte => (pyInt byte).bind pyChr

/-- A number without a sign and without a zero in front. -/
def IsPlain : Text → Prop
  | [] => False
  | c :: text => c = ascii '0' ∧ text = [] ∨ ascii '1' ≤ c ∧ c ≤ ascii '9'

instance : DecidablePred IsPlain
  | [] => inferInstanceAs (Decidable False)
  | _ :: _ => inferInstanceAs (Decidable (_ ∨ _))

/-- An address of such numbers. -/
def IsPlainAddress (ipaddr : Text) : Prop := ∀ part ∈ ipaddr.splitOn dot, IsPlain part

instance (ipaddr : Text) : Decidable (IsPlainAddress ipaddr) :=
  inferInstanceAs (Decidable (∀ part ∈ ipaddr.splitOn dot, IsPlain part))

/-! ### `get_ip_setting` -/

/-- How `get_ip_setting` ends before its end. -/
inductive SettingStop where
  /-- A line that is not two words: `ValueError`. -/
  | valueError
  /-- `sys.exit`. -/
  | exit (code : ℕ)
  /-- A name that is not in the file: `KeyError`. -/
  | keyError (name : Text)

/-- `"<ELASTIC_IP>"`. -/
def elasticIp : Text :=
  ['<', 'E', 'L', 'A', 'S', 'T', 'I', 'C', '_', 'I', 'P', '>'].map ascii

/-- The hosts whose addresses go into `RTABLE`. -/
def rtableHosts : List Text :=
  [['c', 'l', 'i', 'e', 'n', 't', '1'], ['c', 'l', 'i', 'e', 'n', 't', '2'],
    ['c', 'l', 'i', 'e', 'n', 't', '3'], ['s', 'e', 'r', 'v', 'e', 'r', '1'],
    ['s', 'e', 'r', 'v', 'e', 'r', '2']].map fun name => name.map ascii

/-- The interfaces in `ROUTER_IP`. -/
def routerInterfaces : List Text :=
  ['1', '2', '3', '4', '5'].map fun digit => ['e', 't', 'h', digit].map ascii

/-- The name of an interface in the file. -/
def settingName (intf : Text) : Text := ['s', 'w', '0', '-'].map ascii ++ intf

/-- The loop of `get_ip_setting`, with `IP_SETTING`.  It ends with the first empty line. -/
def settingLoop : List Text → (Text → Option Text) → Except SettingStop (Text → Option Text)
  | [], ipSetting => .ok ipSetting
  | line :: rest, ipSetting =>
    match words line with
    | [] => .ok ipSetting
    | [name, ip] =>
      if ip = elasticIp then .error (.exit 2)
      else settingLoop rest (Function.update ipSetting name (some ip))
    | _ => .error .valueError

/-- `IP_SETTING[name]`. -/
def setting (ipSetting : Text → Option Text) (name : Text) : Except SettingStop Text :=
  match ipSetting name with
  | some ip => .ok ip
  | none => .error (.keyError name)

/-- `ROUTER_IP`, interface by interface. -/
def routerIps (ipSetting : Text → Option Text) : List Text → Except SettingStop (List (Text × Text))
  | [] => .ok []
  | intf :: rest => do
    let ip ← setting ipSetting (settingName intf)
    return (intf, ip) :: (← routerIps ipSetting rest)

/-- `get_ip_setting`: the result and `ROUTER_IP`.  No file is one that is not there. -/
def getIpSetting (file : Option Text) : Except SettingStop (ℤ × List (Text × Text)) :=
  match file with
  | none => .ok (-1, [])
  | some file => do
    let ipSetting ← settingLoop (lines file.length file) fun _ => none
    let _ ← rtableHosts.mapM (setting ipSetting)
    return (0, ← routerIps ipSetting routerInterfaces)

/-- The interface that `_handle_RouterInfo` makes, with a mask of all ones, if it raises no
exception. -/
def routerInfoInterface (intf mac ip : Text) : Option VnsInterface := do
  let ip ← packIp ip
  let mask ← packIp (['2', '5', '5', '.', '2', '5', '5', '.', '2', '5', '5', '.', '2', '5', '5'].map ascii)
  (VnsInterface.init intf mac ip mask).toOption

/-! ### Both readings of an address -/

/-- A plain number is read in the same way. -/
lemma number_of_pyInt {part : Text} (hplain : IsPlain part) {b : UInt8}
    (h : (pyInt part).bind pyChr = some b) : number? part = some b.toNat := by
  cases part with
  | nil => exact hplain.elim
  | cons c text =>
    rcases hplain with ⟨rfl, rfl⟩ | ⟨hlow, -⟩
    · have hzero : (pyInt [ascii '0']).bind pyChr = some 0 := by decide
      obtain rfl : 0 = b := Option.some.inj (hzero.symm.trans h)
      rfl
    · have hminus : c ≠ ascii '-' := fun hc => absurd (hc ▸ hlow) (by decide)
      have hplus : c ≠ ascii '+' := fun hc => absurd (hc ▸ hlow) (by decide)
      have hzero : c ≠ ascii '0' := fun hc => absurd (hc ▸ hlow) (by decide)
      rw [pyInt, if_neg hminus, if_neg hplus, pyDigits, if_neg (List.cons_ne_nil c text)] at h
      rw [number?, if_neg hzero]
      obtain ⟨n, hn, hchr⟩ := Option.bind_eq_some_iff.mp h
      obtain ⟨k, hk, rfl⟩ := Option.map_eq_some_iff.mp hn
      rw [hk, Option.some.injEq]
      unfold pyChr at hchr
      split_ifs at hchr with hrange
      rw [← Option.some.inj hchr, Int.toNat_natCast, UInt8.toNat_ofNat']
      omega

/-- So are plain numbers. -/
lemma numbers_of_pyInt {parts : List Text} (hplain : ∀ part ∈ parts, IsPlain part) {bs : List UInt8}
    (h : (parts.mapM fun part => (pyInt part).bind pyChr) = some bs) :
    parts.mapM number? = some (bs.map UInt8.toNat) := by
  induction parts generalizing bs with
  | nil =>
    obtain rfl : [] = bs := Option.some.inj h
    rfl
  | cons part parts ih =>
    rw [List.mapM_cons] at h ⊢
    obtain ⟨b, hb, hrest⟩ := Option.bind_eq_some_iff.mp h
    obtain ⟨bs', hbs', hcons⟩ := Option.bind_eq_some_iff.mp hrest
    obtain rfl : b :: bs' = bs := Option.some.inj hcons
    rw [number_of_pyInt (hplain part List.mem_cons_self) hb,
      ih (fun p hp => hplain p (List.mem_cons_of_mem part hp)) hbs']
    rfl

/-- A byte of a word. -/
lemma extractLsb'_ofNat {v k : ℕ} (hv : v < 2 ^ 32) {b : UInt8} (h : v / 2 ^ k % 2 ^ 8 = b.toNat) :
    (⟨(UInt32.ofNat v).toBitVec.extractLsb' k 8⟩ : UInt8) = b := by
  apply UInt8.toNat_inj.mp
  change ((UInt32.ofNat v).toBitVec.extractLsb' k 8).toNat = b.toNat
  rw [BitVec.extractLsb'_toNat, UInt32.toNat_toBitVec, UInt32.toNat_ofNat_of_lt' hv,
    Nat.shiftRight_eq_div_pow, h]

/-- The address that four bytes stand for. -/
lemma ofParts_bytes (a b c d : UInt8) : ∃ v, ofParts [a.toNat, b.toNat, c.toNat, d.toNat] = some v ∧
    be32 (UInt32.ofNat v) = [a, b, c, d] := by
  have ha := a.toNat_lt
  have hb := b.toNat_lt
  have hc := c.toNat_lt
  have hd := d.toNat_lt
  refine ⟨_, if_pos ⟨ha, hb, hc, hd⟩, ?_⟩
  have hv : a.toNat * 2 ^ 24 + b.toNat * 2 ^ 16 + c.toNat * 2 ^ 8 + d.toNat < 2 ^ 32 := by omega
  rw [be32, extractLsb'_ofNat hv (b := a) (by omega), extractLsb'_ofNat hv (b := b) (by omega),
    extractLsb'_ofNat hv (b := c) (by omega), extractLsb'_ofNat hv (b := d) (by omega)]

/-- In memory. -/
lemma ipBytes_htonl (v : UInt32) : ipBytes (htonl v) = be32 v := by
  have hholds : Holds (store32 (fun _ => 0) 0 (byteSwap32 v)) 0 (be32 v) := holds_store32 _ _ _
  rw [← holds_iff_bytes.mp hholds]
  rfl

/-- No two addresses are the same in memory. -/
lemma eq_of_ipBytes_eq {addr addr' : UInt32} (h : ipBytes addr = ipBytes addr') : addr = addr' := by
  have hswap : ∀ v, ipBytes v = be32 (ntohl v) := by
    intro v
    rw [← ipBytes_htonl]
    exact congrArg ipBytes (byteSwap32_byteSwap32 v).symm
  have hbe : be32 (ntohl addr) = be32 (ntohl addr') := by rw [← hswap, ← hswap, h]
  have heq : ntohl addr = ntohl addr' := by rw [← ofBe32_be32 (ntohl addr), hbe, ofBe32_be32]
  rw [← byteSwap32_byteSwap32 addr, ← byteSwap32_byteSwap32 addr']
  exact congrArg byteSwap32 heq

/-- **Both ends read the same address**, if it is written with four plain numbers. -/
theorem inetAton_of_packIp {ipaddr : Text} (hplain : IsPlainAddress ipaddr) {bs : List UInt8}
    (hpack : packIp ipaddr = some bs) (hlength : bs.length = 4) :
    ∃ addr, inetAton ipaddr = some addr ∧ ipBytes addr = bs := by
  obtain ⟨a, b, c, d, rfl⟩ := List.length_eq_four.mp hlength
  obtain ⟨v, hparts, hbytes⟩ := ofParts_bytes a b c d
  refine ⟨htonl (UInt32.ofNat v), ?_, by rw [ipBytes_htonl, hbytes]⟩
  rw [inetAton, fromDotted, numbers_of_pyInt hplain hpack, Option.bind_some]
  exact congrArg _ hparts

/-- `"010.0.1.1"` is 10.0.1.1 for the server and 8.0.1.1 for the router. -/
example : let ipaddr := ['0', '1', '0', '.', '0', '.', '1', '.', '1'].map ascii
    packIp ipaddr = some [10, 0, 1, 1] ∧ inetAton ipaddr = some (htonl 0x08000101) := by
  decide

/-! ### What stands in the file -/

/-- What is in `IP_SETTING` stands in a line. -/
lemma exists_line_of_settingLoop {file : List Text} {ipSetting ipSetting' : Text → Option Text}
    (h : settingLoop file ipSetting = .ok ipSetting') {name ip : Text}
    (hip : ipSetting' name = some ip) :
    ipSetting name = some ip ∨ ∃ line ∈ file, words line = [name, ip] := by
  induction file generalizing ipSetting with
  | nil =>
    obtain rfl : ipSetting = ipSetting' := Except.ok.inj h
    exact .inl hip
  | cons line rest ih =>
    unfold settingLoop at h
    split at h
    · obtain rfl : ipSetting = ipSetting' := Except.ok.inj h
      exact .inl hip
    · rename_i name' ip' hwords
      split_ifs at h
      rcases ih h with hset | ⟨line', hmem, hline⟩
      · by_cases hname : name = name'
        · rw [hname, Function.update_self, Option.some.injEq] at hset
          exact .inr ⟨line, List.mem_cons_self, by rw [hwords, hname, hset]⟩
        · rw [Function.update_of_ne hname] at hset
          exact .inl hset
      · exact .inr ⟨line', List.mem_cons_of_mem line hmem, hline⟩
    · cases h

/-- What is in `ROUTER_IP` was in `IP_SETTING`. -/
lemma setting_of_mem_routerIps {ipSetting : Text → Option Text} {intfs : List Text}
    {routerIp : List (Text × Text)} (h : routerIps ipSetting intfs = .ok routerIp) {intf ip : Text}
    (hmem : (intf, ip) ∈ routerIp) : ipSetting (settingName intf) = some ip := by
  induction intfs generalizing routerIp with
  | nil =>
    obtain rfl : [] = routerIp := Except.ok.inj h
    cases hmem
  | cons intf' rest ih =>
    obtain ⟨ip', hip', hrest⟩ := exceptBind_eq_ok.mp h
    obtain ⟨routerIp', hrouterIp', hcons⟩ := exceptBind_eq_ok.mp hrest
    obtain rfl : (intf', ip') :: routerIp' = routerIp := Except.ok.inj hcons
    rcases List.mem_cons.mp hmem with heq | hlater
    · obtain ⟨rfl, rfl⟩ := Prod.mk.inj heq
      unfold setting at hip'
      split at hip'
      · rename_i hsome
        rw [hsome, Except.ok.inj hip']
      · cases hip'
    · exact ih hrouterIp' hlater

/-- The interface that is made has the address that was packed. -/
lemma packIp_of_routerInfo {intf mac ip : Text} {v : VnsInterface}
    (h : routerInfoInterface intf mac ip = some v) :
    v.name = intf ∧ packIp ip = some v.ip := by
  obtain ⟨bs, hbs, hrest⟩ := Option.bind_eq_some_iff.mp h
  obtain ⟨mask, -, hinit⟩ := Option.bind_eq_some_iff.mp hrest
  unfold VnsInterface.init at hinit
  split_ifs at hinit
  · cases hinit
  · cases hinit
  · cases hinit
  · obtain rfl := Option.some.inj hinit
    exact ⟨rfl, hbs⟩

/-- **The address in the file is the one of the interface**: if `get_ip_setting` comes to its end, and
the router gets the interface that is made of a name and an address in `ROUTER_IP`, then a line of the
file has this address, and if it is a plain one `inet_aton` reads it as the one the interface of the
router has. -/
theorem settings_agree {file : Text} {routerIp : List (Text × Text)}
    (h : getIpSetting (some file) = .ok (0, routerIp)) {intf mac ip : Text}
    (hmem : (intf, ip) ∈ routerIp) {v : VnsInterface}
    (hv : routerInfoInterface intf mac ip = some v) {i : SrIf} (hsame : SameInterface v i) :
    (∃ line ∈ lines file.length file, words line = [settingName intf, ip]) ∧
      i.name = intf ∧ (IsPlainAddress ip → inetAton ip = some i.ip) := by
  obtain ⟨ipSetting, hloop, hrest⟩ := exceptBind_eq_ok.mp h
  obtain ⟨-, -, hrest'⟩ := exceptBind_eq_ok.mp hrest
  obtain ⟨routerIp', hrouterIp, hret⟩ := exceptBind_eq_ok.mp hrest'
  obtain rfl : routerIp' = routerIp := (Prod.mk.inj (Except.ok.inj hret)).2
  obtain ⟨hname, hpack⟩ := packIp_of_routerInfo hv
  refine ⟨?_, hsame.name.trans hname, fun hplain => ?_⟩
  · rcases exists_line_of_settingLoop hloop (setting_of_mem_routerIps hrouterIp hmem) with hnone | hline
    · cases hnone
    · exact hline
  · obtain ⟨addr, haton, hbytes⟩ := inetAton_of_packIp hplain hpack v.length_ip
    rw [haton, eq_of_ipBytes_eq (hbytes.trans hsame.ip.symm)]

/-! ### The addresses of the repository -/

/-- A line of `IP_CONFIG`. -/
def settingLine (name : Text) (addr : ℕ) : Text := name ++ ascii ' ' :: toDotted addr

/-- The lines of `IP_CONFIG`, in the order in which the names are asked for. -/
def ipConfigLines : List Text :=
  List.zipWith settingLine (rtableHosts ++ routerInterfaces.map settingName)
    [0x0a000164, 0x0a000165, 0xac400317, 0xac400315, 0xac400316,
      0x0a000101, 0xac400301, 0xac400302, 0x0a000102, 0xac400303]

/-- A file of these lines. -/
def ipConfig : Text := ipConfigLines.flatMap (· ++ [newline])

/-- The addresses of the interfaces in it. -/
def ipConfigIps : List (Text × Text) :=
  List.zip routerInterfaces ([0x0a000101, 0xac400301, 0xac400302, 0x0a000102, 0xac400303].map toDotted)

/-- They are read. -/
lemma getIpSetting_ipConfig : getIpSetting (some ipConfig) = .ok (0, ipConfigIps) := by
  have hlines : lines ipConfig.length ipConfig = ipConfigLines.map (· ++ [newline]) :=
    lines_flatMap (by decide +kernel)
  rw [getIpSetting, hlines]
  rfl

/-- `eth1` of the router, with the Ethernet address 2:2:2:2:2:2. -/
def configEth1 : SrIf := ⟨['e', 't', 'h', '1'].map ascii, Vector.replicate 6 2, htonl 0x0a000101⟩

/-- It has the address 10.0.1.1 of the file. -/
theorem settings_agree_ipConfig :
    (∃ line ∈ lines ipConfig.length ipConfig,
        words line = [settingName configEth1.name, toDotted 0x0a000101]) ∧
      configEth1.name = ['e', 't', 'h', '1'].map ascii ∧
      inetAton (toDotted 0x0a000101) = some configEth1.ip := by
  have hv : routerInfoInterface configEth1.name [2, 2, 2, 2, 2, 2] (toDotted 0x0a000101) =
      some ⟨configEth1.name, [2, 2, 2, 2, 2, 2], [10, 0, 1, 1], [255, 255, 255, 255], rfl, rfl, rfl⟩ :=
    rfl
  obtain ⟨hline, hname, hplain⟩ :=
    settings_agree getIpSetting_ipConfig (by decide +kernel) hv ⟨rfl, rfl, rfl⟩
  exact ⟨hline, hname, hplain (by decide +kernel)⟩

end NatRouter
