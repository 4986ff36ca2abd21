import NatRouter.Nat.Heap
import NatRouter.Nat.Execution

/-!
# One mapping for each internal endpoint

A handler looks a mapping up and inserts one in two critical sections.  Between them the table can
only shrink, since there is one packet thread and the sweep removes mappings only: so an internal
endpoint that was not in the table when it was looked up is not there when its mapping is inserted,
and the keys of the table stay pairwise distinct (`KeysUnique`) under every interleaving.

The external id that a translated packet carries is that of the mapping of its endpoint, for as long
as the endpoint is in the table (`Carries`).
-/

namespace NatRouter

open ByteMemory PackedBits Interleaving Relation KeyedList

/-- No two mappings of the table have the same internal endpoint. -/
def KeysUnique (s : SrNat) : Prop := (s.mappings.map SrNatMapping.key).Nodup

/-- The mapping of the endpoint `k`, if there is one, has the external id `e`. -/
def Carries (s : SrNat) (k : UInt32 × UInt16) (e : UInt16) : Prop :=
  ∀ m ∈ s.mappings, m.key = k → m.auxExt = e

/-! ### Interference of the sweep -/

/-- Sweeps only shorten the table. -/
lemma bare_sublist_of_env {s s' : SrNat} (h : ReflTransGen natEnv s s') :
    List.Sublist (s'.mappings.map SrNatMapping.bare) (s.mappings.map SrNatMapping.bare) := by
  induction h with
  | refl => exact .refl _
  | tail _ he ih =>
    obtain ⟨rt, t, reported, he⟩ := he
    rw [(natTimeout_cases he).1]
    exact (map_filterMap_sweepMapping_sublist _ t _ _ fun _ => rfl).trans ih

/-- Sweeps leave no key in the table that was not there. -/
lemma keys_sublist_of_env {s s' : SrNat} (h : ReflTransGen natEnv s s') :
    List.Sublist (s'.mappings.map SrNatMapping.key) (s.mappings.map SrNatMapping.key) := by
  have hkey : ∀ l : List SrNatMapping,
      l.map SrNatMapping.key = (l.map SrNatMapping.bare).map SrNatMapping.key := by
    intro l
    rw [List.map_map]
    rfl
  rw [hkey, hkey s.mappings]
  exact (bare_sublist_of_env h).map _

/-- A mapping that is left by sweeps was there before, up to connections. -/
lemma exists_bare_of_env {s s' : SrNat} (h : ReflTransGen natEnv s s') {m' : SrNatMapping}
    (hm' : m' ∈ s'.mappings) : ∃ m ∈ s.mappings, m.bare = m'.bare :=
  List.mem_map.mp ((bare_sublist_of_env h).subset (List.mem_map_of_mem hm'))

/-- Sweeps keep the keys distinct. -/
lemma KeysUnique.env {s s' : SrNat} (hs : KeysUnique s) (h : ReflTransGen natEnv s s') :
    KeysUnique s' :=
  List.Nodup.sublist (keys_sublist_of_env h) hs

/-- Sweeps do not change the id of an endpoint. -/
lemma Carries.env {s s' : SrNat} {k : UInt32 × UInt16} {e : UInt16} (hs : Carries s k e)
    (h : ReflTransGen natEnv s s') : Carries s' k e := by
  intro m' hm' hk
  obtain ⟨m, hm, hbare⟩ := exists_bare_of_env h hm'
  rw [← m'.bare_auxExt, ← hbare, m.bare_auxExt]
  exact hs m hm (by rw [← m.bare_key, hbare, m'.bare_key, hk])

/-! ### The calls -/

/-- The table of a swept or otherwise unchanged state. -/
lemma KeysUnique.of_sameTable {s s' : SrNat} (hs : KeysUnique s) (ht : SameTable s s') :
    KeysUnique s' := by
  unfold KeysUnique
  rw [ht.map_eq SrNatMapping.key fun _ => rfl]
  exact hs

/-- The id of an endpoint does not depend on the connections. -/
lemma Carries.of_sameTable {s s' : SrNat} {k : UInt32 × UInt16} {e : UInt16} (hs : Carries s k e)
    (ht : SameTable s s') : Carries s' k e := by
  intro m' hm' hk
  obtain ⟨m, hm, hbare⟩ := ht.exists_mem hm'
  rw [← m'.bare_auxExt, ← hbare, m.bare_auxExt]
  exact hs m hm (by rw [← m.bare_key, hbare, m'.bare_key, hk])

/-- The internal lookup searches for a key. -/
lemma srNatLookupInternal_eq (s : SrNat) (ipInt : UInt32) (auxInt : UInt16)
    (type : SrNatMappingType) : srNatLookupInternal s ipInt auxInt type =
      (s.mappings.find? fun m => m.key = (ipInt, auxInt)).map SrNatMapping.copy := by
  simp only [srNatLookupInternal, SrNatMapping.key, Prod.mk.injEq]

/-- An endpoint that is not found is not in the table. -/
lemma not_mem_keys_of_lookup {s : SrNat} {ipInt : UInt32} {auxInt : UInt16}
    {type : SrNatMappingType} (h : srNatLookupInternal s ipInt auxInt type = none) :
    (ipInt, auxInt) ∉ s.mappings.map SrNatMapping.key := by
  rw [srNatLookupInternal_eq, Option.map_eq_none_iff] at h
  exact find?_key_eq_none_iff.mp h

/-- The mapping that a successful lookup has copied. -/
lemma exists_of_lookupInternal {s : SrNat} {ipInt : UInt32} {auxInt : UInt16}
    {type : SrNatMappingType} {copy : SrNatMappingCopy}
    (h : srNatLookupInternal s ipInt auxInt type = some copy) :
    ∃ m ∈ s.mappings, m.key = (ipInt, auxInt) ∧ copy = m.copy := by
  rw [srNatLookupInternal_eq, Option.map_eq_some_iff] at h
  obtain ⟨m, hfind, rfl⟩ := h
  exact ⟨m, List.mem_of_find?_eq_some hfind, by simpa using List.find?_some hfind, rfl⟩

/-- The id that a lookup answers is the id of the endpoint. -/
lemma carries_of_lookupInternal {s : SrNat} (hs : KeysUnique s) {ipInt : UInt32} {auxInt : UInt16}
    {type : SrNatMappingType} {copy : SrNatMappingCopy}
    (h : srNatLookupInternal s ipInt auxInt type = some copy) :
    Carries s (ipInt, auxInt) copy.auxExt := by
  obtain ⟨m, hm, hkey, rfl⟩ := exists_of_lookupInternal h
  intro m' hm' hkey'
  rw [List.inj_on_of_nodup_map hs hm' hm (hkey'.trans hkey.symm)]
  rfl

/-- The insertion of an endpoint that is not in the table. -/
lemma keysUnique_insertMapping {s : SrNat} (hs : KeysUnique s) (now : Time) {ipInt : UInt32}
    {auxInt : UInt16} (type : SrNatMappingType)
    (hkey : (ipInt, auxInt) ∉ s.mappings.map SrNatMapping.key) :
    KeysUnique (srNatInsertMapping s now ipInt auxInt type).2 :=
  List.nodup_cons.mpr ⟨hkey, hs⟩

/-- The id of a new mapping is the id of its endpoint. -/
lemma carries_insertMapping {s : SrNat} (now : Time) {ipInt : UInt32} {auxInt : UInt16}
    (type : SrNatMappingType) (hkey : (ipInt, auxInt) ∉ s.mappings.map SrNatMapping.key) :
    Carries (srNatInsertMapping s now ipInt auxInt type).2 (ipInt, auxInt)
      (srNatInsertMapping s now ipInt auxInt type).1.auxExt := by
  rintro m (_ | ⟨_, hm⟩) hk
  · rfl
  · exact absurd (hk ▸ List.mem_map_of_mem hm) hkey

/-! ### The handlers -/

/-- The internal endpoint of an outgoing packet. -/
def NatJob.key : NatJob → UInt32 × UInt16
  | .icmp _ p => icmpKey p
  | .tcp _ p _ _ => tcpKey p

/-- A packet from inside to outside, with a complete IP header. -/
structure NatJob.Outbound (j : NatJob) : Prop where
  /-- The source is private. -/
  src : srcPrivate j.packet
  /-- The destination is not. -/
  dst : ¬ dstPrivate j.packet
  /-- The IP header has at least 20 bytes. -/
  header : 5 ≤ SrIpHdr.ipHl j.packet

/-- The external id that the packet `q`, which the handler has made of the packet of a job, carries:
its identifier or its source port. -/
def NatJob.carriedId (j : NatJob) (q : ByteMem) : UInt16 :=
  match j with
  | .icmp _ p => ntohs (SrIcmpHdr.identifier q (ipHeaderLen p))
  | .tcp _ p _ _ => ntohs (SrTcpHdr.srcPort q (ipHeaderLen p))

/-- What holds when a job has been done: an outgoing packet that was translated carries the id of
its endpoint. -/
def Translated (j : NatJob) (a : ℤ × ByteMem) (s : SrNat) : Prop :=
  KeysUnique s ∧ (j.Outbound → a.1 = 1 → Carries s j.key (j.carriedId a.2))

/-- Calls that insert nothing keep the keys. -/
lemma KeysUnique.call {c : NatCall} {s s' : SrNat} {r : c.Result} (hc : c.KeepsTable)
    (hs : KeysUnique s) (h : natSem c s r s') : KeysUnique s' := by
  obtain ⟨amb, h⟩ := h
  rcases natExec_cases h with ht | ⟨ipInt, auxInt, type, rfl, -⟩
  · exact hs.of_sameTable ht
  · exact hc.elim

/-- The translation of an outgoing TCP segment, once the id of its endpoint is known. -/
lemma natTcpTranslateSource_always {cfg : NetConfig} {p : ByteMem} {len : UInt32} {isToNat : Bool}
    {mapping : SrNatMappingCopy} {s : SrNat} (hs : KeysUnique s)
    (hcarries : Carries s (tcpKey p) mapping.auxExt) :
    (natTcpTranslateSource cfg p len (ipHeaderLen p) mapping).Always natSem natEnv KeysUnique
      (Translated (.tcp cfg p len isToNat)) s := by
  rcases natTcpTranslateSource_cases cfg p len (ipHeaderLen p) mapping with
    ⟨e, heq, -⟩ | ⟨lpm, i, heq, -, -⟩
  · rw [heq]
    trivial
  · rw [heq]
    intro s' he
    refine ⟨hs.env he, ?_⟩
    intro hout _
    have ho : 20 ≤ ipHeaderLen p := by
      have := hout.header
      simp only [NatJob.packet] at this
      unfold ipHeaderLen
      omega
    have hport := congrArg TcpFields.srcPort
      (tcpFields_tcpSourced p len ho i.ip (htons mapping.auxExt))
    have hid : (NatJob.tcp cfg p len isToNat).carriedId (tcpSourced p len (ipHeaderLen p) i.ip
        (htons mapping.auxExt)) = mapping.auxExt := (congrArg ntohs hport).trans (ntohs_htons _)
    rw [hid]
    exact hcarries.env he

/-- The translation of an outgoing ICMP message, once the id of its endpoint is known. -/
lemma natIcmpTranslateSource_always {cfg : NetConfig} {p : ByteMem} {lpm : SrRt}
    {mapping : SrNatMappingCopy} {s : SrNat} (hs : KeysUnique s)
    (hcarries : Carries s (icmpKey p) mapping.auxExt) :
    (natIcmpTranslateSource cfg p (ipHeaderLen p) lpm mapping).Always natSem natEnv KeysUnique
      (Translated (.icmp cfg p)) s := by
  cases hi : srGetInterface cfg.ifList lpm.interface with
  | none =>
    rw [natIcmpTranslateSource_eq_abort p _ hi]
    trivial
  | some i =>
    rw [natIcmpTranslateSource_eq p (ipHeaderLen p) hi mapping]
    intro s' he
    refine ⟨hs.env he, ?_⟩
    intro hout _
    have ho : 20 ≤ ipHeaderLen p := by
      have := hout.header
      simp only [NatJob.packet] at this
      unfold ipHeaderLen
      omega
    have hfield := congrArg IcmpFields.identifier
      (icmpFields_icmpSourced p ho i.ip (htons mapping.auxExt))
    have hid : (NatJob.icmp cfg p).carriedId (icmpSourced p (ipHeaderLen p) i.ip
        (htons mapping.auxExt)) = mapping.auxExt := (congrArg ntohs hfield).trans (ntohs_htons _)
    rw [hid]
    exact hcarries.env he

/-- A job that ends without a translation. -/
lemma translated_of_ne_one {j : NatJob} {a : ℤ × ByteMem} (ha : a.1 ≠ 1) {s : SrNat}
    (hs : KeysUnique s) :
    (Prog.ret a : NatProg (ℤ × ByteMem)).Always natSem natEnv KeysUnique (Translated j) s :=
  fun _ he => ⟨hs.env he, fun _ h => absurd h ha⟩

/-- The handling of an outgoing TCP segment: between the lookup that fails and the insertion, the
endpoint stays out of the table. -/
lemma natTcpOutbound_always {cfg : NetConfig} {p : ByteMem} {len : UInt32} {isToNat : Bool}
    {s : SrNat} (hs : KeysUnique s) :
    (natTcpOutbound cfg p len (ipHeaderLen p)).Always natSem natEnv KeysUnique
      (Translated (.tcp cfg p len isToNat)) s := by
  intro s₁ r s₂ he hcall
  obtain ⟨hr, rfl⟩ := natSem_lookupInternal hcall
  have hs₁ : KeysUnique s₂ := hs.env he
  refine ⟨hs₁, ?_⟩
  cases r with
  | none =>
    have habsent := not_mem_keys_of_lookup hr.symm
    intro s₃ r s₄ he₃ hcall
    obtain ⟨now, hins⟩ := natSem_insertMapping hcall
    have hkey : tcpKey p ∉ s₃.mappings.map SrNatMapping.key := fun hmem =>
      habsent ((keys_sublist_of_env he₃).subset hmem)
    have hs₄ : KeysUnique s₄ := by
      have := keysUnique_insertMapping (hs₁.env he₃) now .natMappingTcp hkey
      rwa [hins] at this
    have hcarries : Carries s₄ (tcpKey p) r.auxExt := by
      have := carries_insertMapping now .natMappingTcp hkey
      rwa [hins] at this
    refine ⟨hs₄, ?_⟩
    intro s₅ conn s₆ he₅ hcall
    obtain ⟨now', hconn⟩ := natSem_insertConnection hcall
    have htable := srNatInsertConnection_sameTable hconn
    have hs₆ : KeysUnique s₆ := (hs₄.env he₅).of_sameTable htable
    refine ⟨hs₆, ?_⟩
    cases conn with
    | none => trivial
    | some c => exact natTcpTranslateSource_always hs₆ ((hcarries.env he₅).of_sameTable htable)
  | some mapping =>
    have hcarries : Carries s₂ (tcpKey p) mapping.auxExt := carries_of_lookupInternal hs₁ hr.symm
    intro s₃ conn s₄ he₃ hcall
    obtain ⟨amb, hconn⟩ := natSem_updateConnection hcall
    have htable := srNatUpdateConnection_sameTable hconn
    have hs₄ : KeysUnique s₄ := (hs₁.env he₃).of_sameTable htable
    refine ⟨hs₄, ?_⟩
    cases conn with
    | none => exact translated_of_ne_one (by simp) hs₄
    | some c => exact natTcpTranslateSource_always hs₄ ((hcarries.env he₃).of_sameTable htable)

/-- The handling of an outgoing ICMP message. -/
lemma natIcmpOutbound_always {cfg : NetConfig} {p : ByteMem} {s : SrNat} (hs : KeysUnique s) :
    (natIcmpOutbound cfg p (ipHeaderLen p)).Always natSem natEnv KeysUnique
      (Translated (.icmp cfg p)) s := by
  unfold natIcmpOutbound
  simp only
  split
  · trivial
  · exact translated_of_ne_one (by simp) hs
  intro s₁ r s₂ he hcall
  obtain ⟨hr, rfl⟩ := natSem_lookupInternal hcall
  have hs₁ : KeysUnique s₂ := hs.env he
  refine ⟨hs₁, ?_⟩
  cases r with
  | none =>
    have habsent := not_mem_keys_of_lookup hr.symm
    intro s₃ r s₄ he₃ hcall
    obtain ⟨now, hins⟩ := natSem_insertMapping hcall
    have hkey : icmpKey p ∉ s₃.mappings.map SrNatMapping.key := fun hmem =>
      habsent ((keys_sublist_of_env he₃).subset hmem)
    have hs₄ : KeysUnique s₄ := by
      have := keysUnique_insertMapping (hs₁.env he₃) now .natMappingIcmp hkey
      rwa [hins] at this
    have hcarries : Carries s₄ (icmpKey p) r.auxExt := by
      have := carries_insertMapping now .natMappingIcmp hkey
      rwa [hins] at this
    exact ⟨hs₄, natIcmpTranslateSource_always hs₄ hcarries⟩
  | some mapping =>
    exact natIcmpTranslateSource_always hs₁ (carries_of_lookupInternal hs₁ hr.symm)

/-- Every job keeps the keys distinct under interference, and translates with the id of its
endpoint. -/
lemma natStart_always (j : NatJob) {s : SrNat} (hs : KeysUnique s) :
    (natStart j).Always natSem natEnv KeysUnique (Translated j) s := by
  have hinbound : ∀ {P : NatProg (ℤ × ByteMem)}, P.Calls NatCall.KeepsTable → ¬ j.Outbound →
      P.Always natSem natEnv KeysUnique (Translated j) s := by
    intro P hP hout
    refine Prog.Always.imp (fun _ _ hs => ⟨hs, fun h => absurd h hout⟩) ?_
    exact Prog.always_of_calls (fun _ _ _ _ hc hs h => hs.call hc h)
      (fun _ _ hs he => hs.env (.single he)) hP hs
  have hstarts := natStart_starts j
  generalize natStart j = P at hstarts ⊢
  cases hstarts with
  | ret hpass => exact hinbound trivial fun hout => hout.dst (hpass hout.src)
  | icmpOutbound hsrc hdst => exact natIcmpOutbound_always hs
  | icmpInbound hsrc => exact hinbound (natIcmpInbound_calls _ _) fun hout => hsrc hout.src
  | tcpOutbound hsrc hdst => exact natTcpOutbound_always hs
  | tcpInbound hsrc => exact hinbound (natTcpInbound_calls _ _ _) fun hout => hsrc hout.src

/-- The empty table. -/
lemma KeysUnique.initial {s : SrNat} (h : IsInitial s) : KeysUnique s := by
  obtain ⟨icmpTo, estabTo, transTo, unsol, rfl⟩ := h
  exact List.nodup_nil

/-- All along a run the keys are distinct, and a packet that has been translated carries the id of
its endpoint. -/
lemma keysUnique_of_steps {s : SrNat} (hs : IsInitial s) {c : NatConf}
    (h : NatSteps (.idle, s) c) :
    KeysUnique c.2 ∧ c.1.Always natSem natEnv KeysUnique Translated c.2 :=
  server_invariant_of_idle (fun _ _ hs he => hs.env (.single he))
    (fun j _ hs => natStart_always j hs) (KeysUnique.initial hs) h

/-- **Mappings are per internal endpoint.**  Under every interleaving of the handlers with sweeps no
two mappings have the same internal endpoint, and two outgoing packets of one endpoint, translated
while the same mapping is in the table, carry the same external id. -/
theorem endpoint_independent {s₀ : SrNat} (hs₀ : IsInitial s₀) {c₁ c₂ : NatConf}
    (h₁ : NatSteps (.idle, s₀) c₁) (h₂ : NatSteps c₁ c₂) :
    (c₁.2.mappings.map SrNatMapping.key).Nodup ∧
      ∀ j₁ a₁ j₂ a₂, c₁.1 = .busy j₁ (.ret a₁) → c₂.1 = .busy j₂ (.ret a₂) →
        j₁.Outbound → j₂.Outbound → a₁.1 = 1 → a₂.1 = 1 → j₁.key = j₂.key →
        ∀ m₁ ∈ c₁.2.mappings, ∀ m₂ ∈ c₂.2.mappings, m₁.key = j₁.key → m₂.node = m₁.node →
          j₁.carriedId a₁.2 = j₂.carriedId a₂.2 := by
  obtain ⟨hkeys₁, hthread₁⟩ := keysUnique_of_steps hs₀ h₁
  obtain ⟨-, hthread₂⟩ := keysUnique_of_steps hs₀ (h₁.trans h₂)
  refine ⟨hkeys₁, ?_⟩
  intro j₁ a₁ j₂ a₂ hj₁ hj₂ hout₁ hout₂ ha₁ ha₂ hkey m₁ hm₁ m₂ hm₂ hk₁ hnode
  have hbare : m₁.bare = m₂.bare :=
    (keptBare_of_steps h₂).eq_of_node_eq (heapOk_of_steps (HeapOk.initial hs₀) h₁) hm₁ hm₂ hnode
  have hk₂ : m₂.key = j₂.key := by
    rw [← m₂.bare_key, ← hbare, m₁.bare_key, hk₁, hkey]
  rw [hj₁] at hthread₁
  rw [hj₂] at hthread₂
  have hid₁ : m₁.auxExt = j₁.carriedId a₁.2 := hthread₁.post.2 hout₁ ha₁ m₁ hm₁ hk₁
  have hid₂ : m₂.auxExt = j₂.carriedId a₂.2 := hthread₂.post.2 hout₂ ha₂ m₂ hm₂ hk₂
  rw [← hid₁, ← hid₂, ← m₁.bare_auxExt, hbare, m₂.bare_auxExt]

/-- The first of two requests of one endpoint. -/
def firstRequest : NatJob := .icmp oneRoute (icmpMessage 8 0x0a000001 0x08080808 7)

/-- The second, to another host. -/
def secondRequest : NatJob := .icmp oneRoute (icmpMessage 8 0x0a000001 0x08080404 7)

/-- Two requests of one endpoint to different hosts carry the same external id. -/
theorem endpoint_independent_two : ∃ c₁ c₂ q₁ q₂, NatSteps (.idle, startState) c₁ ∧
    NatSteps c₁ c₂ ∧ c₁.1 = .busy firstRequest (.ret (1, q₁)) ∧
    c₂.1 = .busy secondRequest (.ret (1, q₂)) ∧
    firstRequest.carriedId q₁ = secondRequest.carriedId q₂ := by
  have hsrc₁ : srcPrivate (icmpMessage 8 0x0a000001 0x08080808 7) := by simp; decide
  have hdst₁ : ¬ dstPrivate (icmpMessage 8 0x0a000001 0x08080808 7) := by simp; decide
  have hsrc₂ : srcPrivate (icmpMessage 8 0x0a000001 0x08080404 7) := by simp; decide
  have hdst₂ : ¬ dstPrivate (icmpMessage 8 0x0a000001 0x08080404 7) := by simp; decide
  have hout₁ : firstRequest.Outbound := ⟨hsrc₁, hdst₁, (icmpMessagePacket ..).headerLen⟩
  have hout₂ : secondRequest.Outbound := ⟨hsrc₂, hdst₂, (icmpMessagePacket ..).headerLen⟩
  let m : SrNatMapping := newMapping startState 0 0x0a000001 7 .natMappingIcmp
  let s₁ : SrNat := (srNatInsertMapping startState 0 0x0a000001 7 .natMappingIcmp).2
  let amb : ℕ → Ambient := fun _ => ⟨0, fun _ => 0⟩
  -- the first request makes a mapping, the second finds it
  have hrun₁ := @natIcmpOutbound_run_new oneRoute (icmpMessage 8 0x0a000001 0x08080808 7)
    20 amb startState outerRoute outerInterface (by simpa using hasRoute_oneRoute) (by simp; rfl)
  have hrun₂ := @natIcmpOutbound_run_known oneRoute
    (icmpMessage 8 0x0a000001 0x08080404 7) 20 amb s₁ outerRoute outerInterface m.copy
    (by simpa using hasRoute_oneRoute') (by simp; rfl)
  set q₁ := icmpSourced (icmpMessage 8 0x0a000001 0x08080808 7) 20 outerInterface.ip _
  set q₂ := icmpSourced (icmpMessage 8 0x0a000001 0x08080404 7) 20 outerInterface.ip _
  have hruns₁ : (natStart firstRequest).Runs natSem startState (1, q₁) s₁ := by
    rw [firstRequest, natStart, natHandleIcmp_outbound hsrc₁ hdst₁]
    simpa using Prog.runs_of_run hrun₁
  have hruns₂ : (natStart secondRequest).Runs natSem s₁ (1, q₂) s₁ := by
    rw [secondRequest, natStart, natHandleIcmp_outbound hsrc₂ hdst₂]
    simpa using Prog.runs_of_run hrun₂
  have hsteps₁ : NatSteps (.idle, startState) (.busy firstRequest (.ret (1, q₁)), s₁) :=
    .head (.take firstRequest startState) (hruns₁.steps firstRequest)
  have hsteps₂ : NatSteps (.busy firstRequest (.ret (1, q₁)), s₁)
      (.busy secondRequest (.ret (1, q₂)), s₁) :=
    .head (.finish firstRequest (1, q₁) s₁)
      (.head (.take secondRequest s₁) (hruns₂.steps secondRequest))
  refine ⟨_, _, q₁, q₂, hsteps₁, hsteps₂, rfl, rfl, ?_⟩
  exact (endpoint_independent isInitial_startState hsteps₁ hsteps₂).2 firstRequest (1, q₁)
    secondRequest (1, q₂) rfl rfl hout₁ hout₂ rfl rfl
    (by simp [NatJob.key, firstRequest, secondRequest, icmpKey])
    m (List.mem_cons_self ..) m (List.mem_cons_self ..)
    (by simp [NatJob.key, firstRequest, icmpKey, m, newMapping, SrNatMapping.key]) rfl

/-! ### Headers that are too short

No function looks at `ip_hl`.  With a value below 5 the header that follows lies in the IP header, and
what is written into the one overwrites the other.
-/

/-- An interface on the outside with the address 176.0.0.1. -/
def farInterface : SrIf := ⟨[0x65, 0x74, 0x68, 0x33], Vector.replicate 6 3, htonl 0xb0000001⟩

/-- A route to 8.8.4.0/24. -/
def farRoute : SrRt := ⟨htonl 0x08080400, htonl 0xb0000002, htonl 0xffffff00, farInterface.name⟩

/-- A router with two ways to the outside. -/
def twoExits : NetConfig := ⟨[outerInterface, farInterface], [outerRoute, farRoute]⟩

/-- An ICMP packet from 10.0.0.1 to 8.8.8.8, or to 8.8.4.4, with an `ip_hl` of 2 and a right header
checksum.  Its identifier lies in the source address. -/
def shortPing (far : Bool) : ByteMem :=
  ofBytes ([0x42, 0, 0, 28, 0, 0, 0, 0, 64, ipProtocolIcmp, 0xbd, 0xe3, 10, 0, 0, 1, 8, 8] ++
    (if far then [4, 4] else [8, 8]) ++ [8, 0, 0, 0, 0, 7, 0, 0])

/-- A packet from inside to outside with a right header checksum. -/
def RightOutgoing (p : ByteMem) : Prop :=
  srcPrivate p ∧ ¬ dstPrivate p ∧ cksum (SrIpHdr.setIpSum p 0) (ipHeaderLen p) = SrIpHdr.ipSum p

instance (p : ByteMem) : Decidable (RightOutgoing p) := inferInstanceAs (Decidable (_ ∧ _ ∧ _))

/-- The packets are right. -/
lemma rightOutgoing_shortPing : ∀ far, RightOutgoing (shortPing far) := by
  decide +kernel

/-- They come from one endpoint. -/
lemma icmpKey_shortPing : ∀ far, icmpKey (shortPing far) = (0x0a000001, 0x0a00) := by
  decide +kernel

/-- The first of them is routed by the one way, the second by the other. -/
lemma hasRoute_shortPing (far : Bool) : HasRoute twoExits (SrIpHdr.ipDst (shortPing far))
    (if far then farRoute else outerRoute) (if far then farInterface else outerInterface) := by
  have hdst : ∀ far, SrIpHdr.ipDst (shortPing far) =
      htonl (if far then 0x08080404 else 0x08080808) := by decide +kernel
  rw [hdst]
  cases far
  · exact ⟨rfl, rfl⟩
  · exact ⟨rfl, rfl⟩

/-- The state after the first of them. -/
def shortState : SrNat := (srNatInsertMapping startState 0 0x0a000001 0x0a00 .natMappingIcmp).2

/-- What the handler looks up for them. -/
lemma key_shortPing (far : Bool) : ipHeaderLen (shortPing far) = 8 ∧
    ntohl (SrIpHdr.ipSrc (shortPing far)) = 0x0a000001 ∧
    ntohs (SrIcmpHdr.identifier (shortPing far) 8) = 0x0a00 := by
  have hlen : ∀ far, ipHeaderLen (shortPing far) = 8 := by decide +kernel
  have hkey := icmpKey_shortPing far
  rw [icmpKey, hlen, Prod.mk.injEq] at hkey
  exact ⟨hlen far, hkey⟩

/-- The first packet makes a mapping with the id 1024. -/
lemma runs_shortPing_first : (natStart (.icmp twoExits (shortPing false))).Runs natSem startState
    (1, icmpSourced (shortPing false) 8 outerInterface.ip (htons 1024)) shortState := by
  obtain ⟨hsrc, hdst, -⟩ := rightOutgoing_shortPing false
  obtain ⟨hlen, hip, hid⟩ := key_shortPing false
  have hnext : toUint16 (findNextId startState.bitmap).1 = 1024 := by decide +kernel
  have hrun := @natIcmpOutbound_run_new twoExits (shortPing false) 8 quiet startState _ _
    (hasRoute_shortPing false) (by rw [hip, hid]; rfl)
  rw [hip, hid, hnext] at hrun
  rw [natStart, natHandleIcmp_outbound hsrc hdst, hlen]
  exact Prog.runs_of_run hrun

/-- The second finds it. -/
lemma runs_shortPing_second : (natStart (.icmp twoExits (shortPing true))).Runs natSem shortState
    (1, icmpSourced (shortPing true) 8 farInterface.ip (htons 1024)) shortState := by
  obtain ⟨hsrc, hdst, -⟩ := rightOutgoing_shortPing true
  obtain ⟨hlen, hip, hid⟩ := key_shortPing true
  have hnext : (newMapping startState 0 0x0a000001 0x0a00 .natMappingIcmp).copy.auxExt = 1024 := by
    decide +kernel
  have hrun := @natIcmpOutbound_run_known twoExits (shortPing true) 8 quiet shortState _ _
    (newMapping startState 0 0x0a000001 0x0a00 .natMappingIcmp).copy (hasRoute_shortPing true)
    (by rw [hip, hid]; rfl)
  rw [hnext] at hrun
  rw [natStart, natHandleIcmp_outbound hsrc hdst, hlen]
  exact Prog.runs_of_run hrun

/-- **With a short header the id depends on the destination.**  Two packets of one endpoint are
translated while its mapping stays in the table; in place of their identifier they carry a part of the
address they go out with. -/
theorem endpoint_dependent_shortPing : ∃ c₁ c₂ q₁ q₂, NatSteps (.idle, startState) c₁ ∧
    NatSteps c₁ c₂ ∧ c₁.1 = .busy (.icmp twoExits (shortPing false)) (.ret (1, q₁)) ∧
    c₂.1 = .busy (.icmp twoExits (shortPing true)) (.ret (1, q₂)) ∧
    RightOutgoing (shortPing false) ∧ RightOutgoing (shortPing true) ∧
    (∃ m ∈ c₁.2.mappings, m ∈ c₂.2.mappings ∧ m.key = icmpKey (shortPing false) ∧
      m.key = icmpKey (shortPing true) ∧ m.auxExt = 1024) ∧
    (NatJob.icmp twoExits (shortPing false)).carriedId q₁ = 44096 ∧
    (NatJob.icmp twoExits (shortPing true)).carriedId q₂ = 45056 := by
  set first := NatJob.icmp twoExits (shortPing false)
  set second := NatJob.icmp twoExits (shortPing true)
  set q₁ := icmpSourced (shortPing false) 8 outerInterface.ip (htons 1024) with hq₁
  set q₂ := icmpSourced (shortPing true) 8 farInterface.ip (htons 1024) with hq₂
  have hsteps₁ : NatSteps (.idle, startState) (.busy first (.ret (1, q₁)), shortState) :=
    .head (.take first startState) (runs_shortPing_first.steps first)
  have hsteps₂ : NatSteps (.busy first (.ret (1, q₁)), shortState)
      (.busy second (.ret (1, q₂)), shortState) :=
    .head (.finish first (1, q₁) shortState)
      (.head (.take second shortState) (runs_shortPing_second.steps second))
  refine ⟨_, _, q₁, q₂, hsteps₁, hsteps₂, rfl, rfl, rightOutgoing_shortPing false,
    rightOutgoing_shortPing true, ?_, ?_, ?_⟩
  · refine ⟨newMapping startState 0 0x0a000001 0x0a00 .natMappingIcmp, List.mem_cons_self ..,
      List.mem_cons_self .., ?_, ?_, by decide +kernel⟩
    · exact (icmpKey_shortPing false).symm
    · exact (icmpKey_shortPing true).symm
  · rw [hq₁]
    decide +kernel
  · rw [hq₂]
    decide +kernel

end NatRouter
