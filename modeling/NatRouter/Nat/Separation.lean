import NatRouter.Nat.Allocation
import NatRouter.Nat.Flows

/-!
# ICMP and TCP in one table

The lookups take the type of the mapping asked for and do not use it.  So an ICMP mapping whose
identifier equals the port of a TCP segment of the same host is found for that segment, and the other
way round: what the handler makes of a packet then depends on mappings of the other protocol.

It does not where no mapping of the other protocol has the key that the handler looks up: two states
that agree on the mappings of one protocol, up to the addresses of the nodes, then handle the packets
of that protocol alike (`tcp_verdict`, `icmp_verdict`).  There is one exception: the destination of a
segment whose source port lies in it is looked up with the external port inside, and the port of a new
mapping depends on the ids in use by both protocols (`OpensAlike`).
-/

namespace NatRouter

open ByteMemory PackedBits Interleaving Relation KeyedList

/-! ### States that agree on one protocol -/

/-- A connection without its address. -/
def SrNatConnection.plain (c : SrNatConnection) : SrNatConnection := { c with node := 0 }

/-- A mapping without the addresses of its nodes. -/
def SrNatMapping.plain (m : SrNatMapping) : SrNatMapping :=
  { m with node := 0, conns := m.conns.map SrNatConnection.plain }

/-- The mappings of a type, without addresses. -/
def SrNat.plainOf (s : SrNat) (type : SrNatMappingType) : List SrNatMapping :=
  (s.mappings.filter fun m => m.type = type).map SrNatMapping.plain

/-- The endpoint that the handler of an outgoing TCP packet looks up, or the port that the handler of
an incoming one does, is that of the mapping `m`. -/
def TcpClash (p : ByteMem) (m : SrNatMapping) : Prop :=
  if srcPrivate p then m.key = tcpKey p
  else m.auxExt = ntohs (SrTcpHdr.dstPort p (ipHeaderLen p))

/-- The endpoint that the handler of an outgoing ICMP packet looks up, or the identifier that the
handler of an incoming one does, is that of the mapping `m`. -/
def IcmpClash (p : ByteMem) (m : SrNatMapping) : Prop :=
  if srcPrivate p then m.key = icmpKey p
  else m.auxExt = ntohs (SrIcmpHdr.identifier p (ipHeaderLen p))

/-- Two results of a handler that show the same verdict. -/
inductive SameVerdict {β : Type} (look : ByteMem → β) :
    Except Fault ((ℤ × ByteMem) × SrNat) → Except Fault ((ℤ × ByteMem) × SrNat) → Prop
  /-- The same return code, with packets that look alike. -/
  | ret {code : ℤ} {q q' : ByteMem} {s t : SrNat} (h : look q = look q') :
      SameVerdict look (.ok ((code, q), s)) (.ok ((code, q'), t))
  /-- The same undefined operation. -/
  | fault (e : Fault) : SameVerdict look (.error e) (.error e)

/-- What two TCP packets with complete IP headers are compared by: the fields, but for the source port.
A new mapping gets the next free id, which depends on the ids in use by both protocols. -/
def tcpLook (o : ℕ) (q : ByteMem) : Option TcpFields :=
  if o < 20 then none else some { tcpFields q o with srcPort := 0 }

/-- What two ICMP packets with complete IP headers are compared by: the fields, but for the
identifier. -/
def icmpLook (o : ℕ) (q : ByteMem) : Option IcmpFields :=
  if o < 20 then none else some { icmpFields q o with identifier := 0 }

/-- How the search for the interface to a destination ends. -/
def routeOutcome (cfg : NetConfig) (dst : UInt32) : Except Fault Unit :=
  match srRtLookup cfg.routingTable dst with
  | .error e => .error e
  | .ok none => .error .nullDeref
  | .ok (some lpm) =>
    if (srGetInterface cfg.ifList lpm.interface).isSome then .ok () else .error .nullDeref

/-- A segment whose source port lies in its destination, and which opens a mapping, finds its way in
the state `s` as it does in `t`, with the first free id of either in the place of the port. -/
def OpensAlike (cfg : NetConfig) (p : ByteMem) (s t : SrNat) : Prop :=
  SrIpHdr.ipHl p = 4 → srcPrivate p → ¬ dstPrivate p →
    srNatLookupInternal s (tcpKey p).1 (tcpKey p).2 .natMappingTcp = none →
    routeOutcome cfg (routedDst p (ipHeaderLen p) (htons (toUint16 (findNextId s.bitmap).1))) =
      routeOutcome cfg (routedDst p (ipHeaderLen p) (htons (toUint16 (findNextId t.bitmap).1)))

/-- The same result with the same packet. -/
lemma sameVerdict_of_run {β : Type} (look : ByteMem → β) {P : NatProg (ℤ × ByteMem)}
    (hP : (∃ e, P = .abort e) ∨ ∃ a, P = .ret a) (amb amb' : ℕ → Ambient) (s t : SrNat) :
    SameVerdict look (P.run natExec amb s) (P.run natExec amb' t) := by
  rcases hP with ⟨e, rfl⟩ | ⟨a, rfl⟩
  · exact .fault _
  · exact .ret rfl

/-- A search by something that does not depend on addresses, in two states that agree. -/
lemma find?_plain_eq {s t : SrNat} {type : SrNatMappingType} (h : s.plainOf type = t.plainOf type)
    {P : SrNatMapping → Bool} (hP : ∀ m, P m.plain = P m)
    (hs : ∀ m ∈ s.mappings, m.type ≠ type → P m = false)
    (ht : ∀ m ∈ t.mappings, m.type ≠ type → P m = false) :
    s.mappings.find? P = none ∧ t.mappings.find? P = none ∨
      ∃ m ∈ s.mappings, ∃ m' ∈ t.mappings, s.mappings.find? P = some m ∧
        t.mappings.find? P = some m' ∧ m.plain = m'.plain := by
  have hkind : ∀ l : List SrNatMapping, (∀ m ∈ l, m.type ≠ type → P m = false) →
      ∀ m ∈ l, P m = true → decide (m.type = type) = true := by
    intro l hl m hm hPm
    by_contra htype
    exact absurd hPm (by simp [hl m hm (by simpa using htype)])
  have hfind := find?_map_eq_of_filter_map_eq hP h (hkind _ hs) (hkind _ ht)
  cases hfs : s.mappings.find? P with
  | none =>
    rw [hfs, Option.map_none, eq_comm, Option.map_eq_none_iff] at hfind
    exact .inl ⟨rfl, hfind⟩
  | some m =>
    rw [hfs, Option.map_some, eq_comm, Option.map_eq_some_iff] at hfind
    obtain ⟨m', hft, hplain⟩ := hfind
    exact .inr ⟨m, List.mem_of_find?_eq_some hfs, m', List.mem_of_find?_eq_some hft, rfl, hft,
      hplain.symm⟩

/-- The copies of mappings that look alike lead to the same endpoint. -/
lemma copy_eq_of_plain_eq {m m' : SrNatMapping} (h : m.plain = m'.plain) :
    m.copy.ipInt = m'.copy.ipInt ∧ m.copy.auxInt = m'.copy.auxInt ∧
      m.copy.auxExt = m'.copy.auxExt := by
  refine ⟨?_, ?_, ?_⟩
  · change m.plain.ipInt = m'.plain.ipInt
    rw [h]
  · change m.plain.auxInt = m'.plain.auxInt
    rw [h]
  · change m.plain.auxExt = m'.plain.auxExt
    rw [h]

/-- The peer test does not depend on addresses. -/
lemma find?_isPeer_plain {m m' : SrNatMapping} (h : m.plain = m'.plain) (direction : Direction)
    (p : ByteMem) : (m.conns.find? (isPeer direction p)).isSome =
      (m'.conns.find? (isPeer direction p)).isSome := by
  have hconns : m.conns.map SrNatConnection.plain = m'.conns.map SrNatConnection.plain :=
    congrArg SrNatMapping.conns h
  have hfind : ∀ m : SrNatMapping, (m.conns.find? (isPeer direction p)).isSome =
      ((m.conns.map SrNatConnection.plain).find? (isPeer direction p)).isSome := by
    intro m
    rw [List.find?_map, Option.isSome_map]
    rfl
  rw [hfind, hconns, ← hfind]

/-- An insertion into the unsolicited list fails exactly when the list dangles. -/
lemma srNatInsertUnsolicitedPacket_cases (unsol : UnsolList) :
    (∀ amb p len, srNatInsertUnsolicitedPacket amb unsol p len = .error .freedUnsol) ∨
      ∀ amb p len, ∃ unsol', srNatInsertUnsolicitedPacket amb unsol p len = .ok unsol' := by
  cases unsol with
  | dangling => exact .inl fun _ _ _ => rfl
  | linked pkts =>
    refine .inr fun amb p len => ?_
    unfold srNatInsertUnsolicitedPacket
    simp only
    split <;> exact ⟨_, rfl⟩

/-- An update through the copies of mappings that look alike ends alike. -/
lemma srNatUpdateConnection_alike {s t : SrNat} (hs : HeapOk s) (ht : HeapOk t)
    (hunsol : s.unsolPkt = t.unsolPkt) {m m' : SrNatMapping} (hm : m ∈ s.mappings)
    (hm' : m' ∈ t.mappings) (hplain : m.plain = m'.plain) (amb amb' : Ambient) (p : ByteMem)
    (len : UInt32) (direction : Direction) :
    (∃ c s' c' t', srNatUpdateConnection s amb m.copy p len direction = .ok (some c, s') ∧
        srNatUpdateConnection t amb' m'.copy p len direction = .ok (some c', t')) ∨
      (∃ s' t', srNatUpdateConnection s amb m.copy p len direction = .ok (none, s') ∧
        srNatUpdateConnection t amb' m'.copy p len direction = .ok (none, t')) ∨
      ∃ e, srNatUpdateConnection s amb m.copy p len direction = .error e ∧
        srNatUpdateConnection t amb' m'.copy p len direction = .error e := by
  rw [srNatUpdateConnection_copy hs hm, srNatUpdateConnection_copy ht hm']
  have hsome := find?_isPeer_plain hplain direction p
  cases hc : m.conns.find? (isPeer direction p) with
  | some c =>
    rw [hc] at hsome
    obtain ⟨c', hc'⟩ := Option.isSome_iff_exists.mp hsome.symm
    rw [hc']
    exact .inl ⟨_, _, _, _, rfl, rfl⟩
  | none =>
    rw [hc] at hsome
    rw [Option.isSome_eq_false_iff.mp hsome.symm |> Option.isNone_iff_eq_none.mp, hunsol]
    rcases srNatInsertUnsolicitedPacket_cases t.unsolPkt with herror | hok
    · simp only [herror]
      exact .inr (.inr ⟨_, rfl, rfl⟩)
    · obtain ⟨unsol, hunsol'⟩ := hok amb p len
      obtain ⟨unsol', hunsol''⟩ := hok amb' p len
      simp only [hunsol', hunsol'']
      exact .inr (.inl ⟨_, _, rfl, rfl⟩)

/-! ### TCP -/

section Tcp

variable {cfg : NetConfig} {s t : SrNat}

/-- The checksum update makes no call. -/
lemma natTcpUpdateChecksum_verdict {β : Type} (look : ByteMem → β) (p : ByteMem) (len : UInt32)
    (o : ℕ) (amb amb' : ℕ → Ambient) (s t : SrNat) :
    SameVerdict look ((natTcpUpdateChecksum p len o).run natExec amb s)
      ((natTcpUpdateChecksum p len o).run natExec amb' t) := by
  refine sameVerdict_of_run look ?_ amb amb' s t
  unfold natTcpUpdateChecksum
  simp only
  split
  · exact .inl ⟨_, rfl⟩
  · exact .inr ⟨_, rfl⟩

/-- The translation of an outgoing segment fails as the search for the interface does, or for the
length of the segment. -/
lemma natTcpTranslateSource_outcome (cfg : NetConfig) (p : ByteMem) (len : UInt32) (o : ℕ)
    (mapping : SrNatMappingCopy) :
    match routeOutcome cfg (routedDst p o (htons mapping.auxExt)) with
    | .error e => natTcpTranslateSource cfg p len o mapping = .abort e
    | .ok _ => ∃ lpm i, HasRoute cfg (routedDst p o (htons mapping.auxExt)) lpm i ∧
        natTcpTranslateSource cfg p len o mapping = if tcpSegmentLen len o < 0 then .abort .overrun
          else .ret (1, tcpSourced p len o i.ip (htons mapping.auxExt)) := by
  unfold routeOutcome
  cases hlookup : srRtLookup cfg.routingTable (routedDst p o (htons mapping.auxExt)) with
  | error e =>
    unfold routedDst at hlookup
    simp only [natTcpTranslateSource, hlookup]
  | ok lpm? =>
    cases lpm? with
    | none =>
      unfold routedDst at hlookup
      simp only [natTcpTranslateSource, hlookup]
    | some lpm =>
      cases hi : srGetInterface cfg.ifList lpm.interface with
      | none =>
        unfold routedDst at hlookup
        simp only [natTcpTranslateSource, hlookup, hi, Option.isSome_none, Bool.false_eq_true,
          if_false]
      | some i =>
        simp only [hi, Option.isSome_some, if_true]
        refine ⟨lpm, i, ⟨hlookup, hi⟩, ?_⟩
        split_ifs with hlen
        · unfold routedDst at hlookup
          simp only [natTcpTranslateSource, hlookup, hi, natTcpUpdateChecksum_eq_abort _ hlen]
        · exact natTcpTranslateSource_eq (Int.not_lt.mp hlen) ⟨hlookup, hi⟩

/-- Translations of an outgoing segment with external ports that are routed alike look alike. -/
lemma natTcpTranslateSource_verdict (cfg : NetConfig) (p : ByteMem) (len : UInt32) {o : ℕ}
    {mapping mapping' : SrNatMappingCopy} {e e' : UInt16} (he : mapping.auxExt = e)
    (he' : mapping'.auxExt = e') (halike : routeOutcome cfg (routedDst p o (htons e)) =
      routeOutcome cfg (routedDst p o (htons e')))
    (amb amb' : ℕ → Ambient) (s t : SrNat) :
    SameVerdict (tcpLook o)
      ((natTcpTranslateSource cfg p len o mapping).run natExec amb s)
      ((natTcpTranslateSource cfg p len o mapping').run natExec amb' t) := by
  have houtcome := natTcpTranslateSource_outcome cfg p len o mapping
  have houtcome' := natTcpTranslateSource_outcome cfg p len o mapping'
  rw [he] at houtcome
  rw [he', ← halike] at houtcome'
  cases hcase : routeOutcome cfg (routedDst p o (htons e)) with
  | error e =>
    simp only [hcase] at houtcome houtcome'
    rw [houtcome, houtcome']
    exact .fault e
  | ok u =>
    simp only [hcase] at houtcome houtcome'
    obtain ⟨lpm, i, hroute, heq⟩ := houtcome
    obtain ⟨lpm', i', hroute', heq'⟩ := houtcome'
    rw [heq, heq']
    split_ifs with hlen
    · exact .fault _
    · refine .ret ?_
      unfold tcpLook
      split_ifs with ho
      · rfl
      · -- behind a complete header both ports are routed to the same interface
        have ho' := Nat.not_lt.mp ho
        rw [routedDst_eq p ho'] at hroute hroute'
        obtain rfl := Option.some.inj (Except.ok.inj (hroute.lookup.symm.trans hroute'.lookup))
        obtain rfl := Option.some.inj (hroute.interface.symm.trans hroute'.interface)
        rw [tcpFields_tcpSourced p len ho', tcpFields_tcpSourced p len ho']

/-- A segment from inside without a mapping: its connection is opened in a new one, unless the
unsolicited list dangles. -/
lemma natTcpOutbound_verdict_new (hs : HeapOk s) (ht : HeapOk t)
    (hunsol : s.unsolPkt = t.unsolPkt) (p : ByteMem) (len : UInt32)
    (hls : srNatLookupInternal s (ntohl (SrIpHdr.ipSrc p))
      (ntohs (SrTcpHdr.srcPort p (ipHeaderLen p))) .natMappingTcp = none)
    (hlt : srNatLookupInternal t (ntohl (SrIpHdr.ipSrc p))
      (ntohs (SrTcpHdr.srcPort p (ipHeaderLen p))) .natMappingTcp = none)
    (halike : routeOutcome cfg
        (routedDst p (ipHeaderLen p) (htons (toUint16 (findNextId s.bitmap).1))) =
      routeOutcome cfg (routedDst p (ipHeaderLen p) (htons (toUint16 (findNextId t.bitmap).1))))
    (amb amb' : ℕ → Ambient) :
    SameVerdict (tcpLook (ipHeaderLen p))
      ((natTcpOutbound cfg p len (ipHeaderLen p)).run natExec amb s)
      ((natTcpOutbound cfg p len (ipHeaderLen p)).run natExec amb' t) := by
  have hins : ∀ (u : SrNat) (amb : ℕ → Ambient), HeapOk u → _ := fun u amb hu =>
    srNatInsertConnection_head (srNatInsertMapping_heapOk hu (amb 1).now
      (ntohl (SrIpHdr.ipSrc p)) (ntohs (SrTcpHdr.srcPort p (ipHeaderLen p)))
      .natMappingTcp) rfl (amb 2).now p .synSent
  have hinss := hins s amb hs
  have hinst := hins t amb' ht
  have hunsols : (srNatInsertMapping s (amb 1).now (ntohl (SrIpHdr.ipSrc p))
      (ntohs (SrTcpHdr.srcPort p (ipHeaderLen p))) .natMappingTcp).2.unsolPkt =
      t.unsolPkt := hunsol
  have hunsolt : (srNatInsertMapping t (amb' 1).now (ntohl (SrIpHdr.ipSrc p))
      (ntohs (SrTcpHdr.srcPort p (ipHeaderLen p))) .natMappingTcp).2.unsolPkt =
      t.unsolPkt := rfl
  rw [hunsols] at hinss
  rw [hunsolt] at hinst
  cases hremove : srNatRemoveUnsolicitedPacket t.unsolPkt p with
  | error e =>
    simp only [hremove] at hinss hinst
    rw [natTcpOutbound_run_none_error hls hinss, natTcpOutbound_run_none_error hlt hinst]
    exact .fault _
  | ok unsol =>
    simp only [hremove] at hinss hinst
    rw [natTcpOutbound_run_none hls hinss, natTcpOutbound_run_none hlt hinst]
    have hid : ∀ (u : SrNat) (amb : ℕ → Ambient), (newMapping u (amb 1).now
        (ntohl (SrIpHdr.ipSrc p)) (ntohs (SrTcpHdr.srcPort p (ipHeaderLen p)))
        .natMappingTcp).copy.auxExt = toUint16 (findNextId u.bitmap).1 := fun _ _ => rfl
    exact natTcpTranslateSource_verdict cfg p len (hid s amb) (hid t amb') halike _ _ _ _

/-- An outgoing segment. -/
lemma natTcpOutbound_verdict (hs : HeapOk s) (ht : HeapOk t) (hunsol : s.unsolPkt = t.unsolPkt)
    (hagree : s.plainOf .natMappingTcp = t.plainOf .natMappingTcp) (p : ByteMem) (len : UInt32)
    (hs' : ∀ m ∈ s.mappings, m.type ≠ .natMappingTcp → m.key ≠ tcpKey p)
    (ht' : ∀ m ∈ t.mappings, m.type ≠ .natMappingTcp → m.key ≠ tcpKey p)
    (halike : OpensAlike cfg p s t) (hsrc : srcPrivate p) (hdst : ¬ dstPrivate p)
    (amb amb' : ℕ → Ambient) :
    SameVerdict (tcpLook (ipHeaderLen p))
      ((natTcpOutbound cfg p len (ipHeaderLen p)).run natExec amb s)
      ((natTcpOutbound cfg p len (ipHeaderLen p)).run natExec amb' t) := by
  have hlookup : ∀ u : SrNat, srNatLookupInternal u (ntohl (SrIpHdr.ipSrc p))
      (ntohs (SrTcpHdr.srcPort p (ipHeaderLen p))) .natMappingTcp =
      (u.mappings.find? fun m => m.key = tcpKey p).map SrNatMapping.copy := fun u =>
    srNatLookupInternal_eq u _ _ _
  rcases find?_plain_eq (P := fun m => m.key = tcpKey p) hagree (fun _ => rfl)
      (fun m hm htype => by simpa using hs' m hm htype)
      (fun m hm htype => by simpa using ht' m hm htype) with
    ⟨hfs, hft⟩ | ⟨m, hm, m', hm', hfs, hft, hplain⟩
  · have hls := hlookup s
    have hlt := hlookup t
    rw [hfs, Option.map_none] at hls
    rw [hft, Option.map_none] at hlt
    refine natTcpOutbound_verdict_new hs ht hunsol p len hls hlt ?_ amb amb'
    by_cases hfour : SrIpHdr.ipHl p = 4
    · exact halike hfour hsrc hdst hls
    · rw [routedDst_of_ne_four hfour, routedDst_of_ne_four hfour]
  · have hls := hlookup s
    have hlt := hlookup t
    rw [hfs, Option.map_some] at hls
    rw [hft, Option.map_some] at hlt
    rcases srNatUpdateConnection_alike hs ht hunsol hm hm' hplain (amb 1) (amb' 1) p len
        .internalToExternal with
      ⟨c, s', c', t', hus, hut⟩ | ⟨s', t', hus, hut⟩ | ⟨e, hus, hut⟩
    · rw [natTcpOutbound_run_some hls hus, natTcpOutbound_run_some hlt hut]
      exact natTcpTranslateSource_verdict cfg p len (copy_eq_of_plain_eq hplain).2.2 rfl rfl _ _ _ _
    · rw [natTcpOutbound_run_unsolicited hls hus, natTcpOutbound_run_unsolicited hlt hut]
      exact .ret rfl
    · rw [natTcpOutbound_run_error hls hus, natTcpOutbound_run_error hlt hut]
      exact .fault _

/-- An incoming segment. -/
lemma natTcpInbound_verdict (hs : HeapOk s) (ht : HeapOk t) (hunsol : s.unsolPkt = t.unsolPkt)
    (hagree : s.plainOf .natMappingTcp = t.plainOf .natMappingTcp) (p : ByteMem) (len : UInt32)
    (o : ℕ)
    (hs' : ∀ m ∈ s.mappings, m.type ≠ .natMappingTcp → m.auxExt ≠ ntohs (SrTcpHdr.dstPort p o))
    (ht' : ∀ m ∈ t.mappings, m.type ≠ .natMappingTcp → m.auxExt ≠ ntohs (SrTcpHdr.dstPort p o))
    (amb amb' : ℕ → Ambient) :
    SameVerdict (tcpLook o) ((natTcpInbound p len o).run natExec amb s)
      ((natTcpInbound p len o).run natExec amb' t) := by
  unfold natTcpInbound
  rcases find?_plain_eq (P := fun m => m.auxExt = ntohs (SrTcpHdr.dstPort p o)) hagree
      (fun _ => rfl) (fun m hm htype => by simpa using hs' m hm htype)
      (fun m hm htype => by simpa using ht' m hm htype) with
    ⟨hfs, hft⟩ | ⟨m, hm, m', hm', hfs, hft, hplain⟩
  · simp only
    split
    · simp only [Prog.run, natExec, srNatLookupExternal, hfs, hft, Option.map_none, hunsol]
      rcases srNatInsertUnsolicitedPacket_cases t.unsolPkt with herror | hok
      · simp only [herror]
        exact .fault _
      · obtain ⟨unsol, hunsol⟩ := hok (amb (0 + 1)) p len
        obtain ⟨unsol', hunsol'⟩ := hok (amb' (0 + 1)) p len
        simp only [hunsol, hunsol']
        exact .ret rfl
    · simp only [Prog.run, natExec, srNatLookupExternal, hfs, hft, Option.map_none]
      exact natTcpUpdateChecksum_verdict _ p len o _ _ _ _
  · obtain ⟨hipInt, hauxInt, -⟩ := copy_eq_of_plain_eq hplain
    have hupdate := srNatUpdateConnection_alike hs ht hunsol hm hm' hplain (amb (0 + 1))
      (amb' (0 + 1)) p len .externalToInternal
    simp only
    split
    · simp only [Prog.run, natExec, srNatLookupExternal, hfs, hft, Option.map_some]
      rcases hupdate with ⟨c, s', c', t', hus, hut⟩ | ⟨s', t', hus, hut⟩ | ⟨e, hus, hut⟩
      · simp only [hus, hut]
        exact .ret rfl
      · simp only [hus, hut]
        exact .ret rfl
      · simp only [hus, hut]
        exact .fault _
    · simp only [Prog.run, natExec, srNatLookupExternal, hfs, hft, Option.map_some]
      rcases hupdate with ⟨c, s', c', t', hus, hut⟩ | ⟨s', t', hus, hut⟩ | ⟨e, hus, hut⟩
      · simp only [hus, hut, hauxInt, hipInt]
        exact natTcpUpdateChecksum_verdict _ _ len o _ _ _ _
      · simp only [hus, hut]
        exact .ret rfl
      · simp only [hus, hut]
        exact .fault _

/-- **TCP.**  In two states that agree on TCP mappings and the unsolicited list, a TCP packet whose
key is that of no ICMP mapping is handled alike. -/
theorem tcp_verdict (hs : HeapOk s) (ht : HeapOk t) (hunsol : s.unsolPkt = t.unsolPkt)
    (hagree : s.plainOf .natMappingTcp = t.plainOf .natMappingTcp) (p : ByteMem) (len : UInt32)
    (isToNat : Bool) (halike : OpensAlike cfg p s t)
    (hs' : ∀ m ∈ s.mappings, m.type ≠ .natMappingTcp → ¬ TcpClash p m)
    (ht' : ∀ m ∈ t.mappings, m.type ≠ .natMappingTcp → ¬ TcpClash p m)
    (amb amb' : ℕ → Ambient) :
    SameVerdict (tcpLook (ipHeaderLen p))
      ((natHandleTcp cfg p len isToNat).run natExec amb s)
      ((natHandleTcp cfg p len isToNat).run natExec amb' t) := by
  unfold TcpClash at hs' ht'
  by_cases hsrc : srcPrivate p
  · simp only [if_pos hsrc] at hs' ht'
    by_cases hdst : dstPrivate p
    · rw [natHandleTcp_inside hsrc hdst]
      exact .ret rfl
    · rw [natHandleTcp_outbound hsrc hdst]
      exact natTcpOutbound_verdict hs ht hunsol hagree p len hs' ht' halike hsrc hdst amb amb'
  · simp only [if_neg hsrc] at hs' ht'
    cases isToNat with
    | false =>
      rw [natHandleTcp_transit hsrc]
      exact .ret rfl
    | true =>
      rw [natHandleTcp_inbound hsrc]
      exact natTcpInbound_verdict hs ht hunsol hagree p len _ hs' ht' amb amb'

end Tcp

/-! ### ICMP -/

section Icmp

variable {cfg : NetConfig} {s t : SrNat}

/-- Translations of an outgoing message with different external identifiers look alike. -/
lemma natIcmpTranslateSource_verdict (cfg : NetConfig) (p : ByteMem) (o : ℕ) (lpm : SrRt)
    (mapping mapping' : SrNatMappingCopy) (amb amb' : ℕ → Ambient) (s t : SrNat) :
    SameVerdict (icmpLook o)
      ((natIcmpTranslateSource cfg p o lpm mapping).run natExec amb s)
      ((natIcmpTranslateSource cfg p o lpm mapping').run natExec amb' t) := by
  cases hi : srGetInterface cfg.ifList lpm.interface with
  | none =>
    rw [natIcmpTranslateSource_eq_abort _ _ hi, natIcmpTranslateSource_eq_abort _ _ hi]
    exact .fault _
  | some i =>
    rw [natIcmpTranslateSource_eq p o hi mapping, natIcmpTranslateSource_eq p o hi mapping']
    refine .ret ?_
    unfold icmpLook
    split_ifs with ho
    · rfl
    · have ho' := Nat.not_lt.mp ho
      rw [icmpFields_icmpSourced p ho', icmpFields_icmpSourced p ho']

/-- An outgoing message. -/
lemma natIcmpOutbound_verdict (hagree : s.plainOf .natMappingIcmp = t.plainOf .natMappingIcmp)
    (p : ByteMem) (hs : ∀ m ∈ s.mappings, m.type ≠ .natMappingIcmp → m.key ≠ icmpKey p)
    (ht : ∀ m ∈ t.mappings, m.type ≠ .natMappingIcmp → m.key ≠ icmpKey p)
    (amb amb' : ℕ → Ambient) :
    SameVerdict (icmpLook (ipHeaderLen p))
      ((natIcmpOutbound cfg p (ipHeaderLen p)).run natExec amb s)
      ((natIcmpOutbound cfg p (ipHeaderLen p)).run natExec amb' t) := by
  have hlookup : ∀ u : SrNat, srNatLookupInternal u (ntohl (SrIpHdr.ipSrc p))
      (ntohs (SrIcmpHdr.identifier p (ipHeaderLen p))) .natMappingIcmp =
      (u.mappings.find? fun m => m.key = icmpKey p).map SrNatMapping.copy := fun u =>
    srNatLookupInternal_eq u _ _ _
  unfold natIcmpOutbound
  simp only
  split
  · exact .fault _
  · exact .ret rfl
  · rename_i lpm _
    rcases find?_plain_eq (P := fun m => m.key = icmpKey p) hagree (fun _ => rfl)
        (fun m hm htype => by simpa using hs m hm htype)
        (fun m hm htype => by simpa using ht m hm htype) with
      ⟨hfs, hft⟩ | ⟨m, hm, m', hm', hfs, hft, -⟩
    · simp only [Prog.run, natExec, hlookup, hfs, hft, Option.map_none]
      exact natIcmpTranslateSource_verdict cfg p _ lpm _ _ _ _ _ _
    · simp only [Prog.run, natExec, hlookup, hfs, hft, Option.map_some]
      exact natIcmpTranslateSource_verdict cfg p _ lpm _ _ _ _ _ _

/-- An incoming message. -/
lemma natIcmpInbound_verdict (hagree : s.plainOf .natMappingIcmp = t.plainOf .natMappingIcmp)
    (p : ByteMem) (o : ℕ)
    (hs : ∀ m ∈ s.mappings, m.type ≠ .natMappingIcmp → m.auxExt ≠ ntohs (SrIcmpHdr.identifier p o))
    (ht : ∀ m ∈ t.mappings, m.type ≠ .natMappingIcmp → m.auxExt ≠ ntohs (SrIcmpHdr.identifier p o))
    (amb amb' : ℕ → Ambient) :
    SameVerdict (icmpLook o) ((natIcmpInbound p o).run natExec amb s)
      ((natIcmpInbound p o).run natExec amb' t) := by
  unfold natIcmpInbound
  rcases find?_plain_eq (P := fun m => m.auxExt = ntohs (SrIcmpHdr.identifier p o)) hagree
      (fun _ => rfl) (fun m hm htype => by simpa using hs m hm htype)
      (fun m hm htype => by simpa using ht m hm htype) with
    ⟨hfs, hft⟩ | ⟨m, hm, m', hm', hfs, hft, hplain⟩
  · simp only [Prog.run, natExec, srNatLookupExternal, hfs, hft, Option.map_none]
    exact .ret rfl
  · obtain ⟨hipInt, hauxInt, -⟩ := copy_eq_of_plain_eq hplain
    simp only [Prog.run, natExec, srNatLookupExternal, hfs, hft, Option.map_some, hauxInt, hipInt]
    exact sameVerdict_of_run _ (.inr ⟨_, rfl⟩) _ _ _ _

/-- **ICMP.**  In two states that agree on ICMP mappings, an ICMP packet whose key is that of no TCP
mapping is handled alike. -/
theorem icmp_verdict (hagree : s.plainOf .natMappingIcmp = t.plainOf .natMappingIcmp)
    (p : ByteMem) (hs : ∀ m ∈ s.mappings, m.type ≠ .natMappingIcmp → ¬ IcmpClash p m)
    (ht : ∀ m ∈ t.mappings, m.type ≠ .natMappingIcmp → ¬ IcmpClash p m)
    (amb amb' : ℕ → Ambient) :
    SameVerdict (icmpLook (ipHeaderLen p)) ((natHandleIcmp cfg p).run natExec amb s)
      ((natHandleIcmp cfg p).run natExec amb' t) := by
  unfold IcmpClash at hs ht
  by_cases hsrc : srcPrivate p
  · simp only [if_pos hsrc] at hs ht
    by_cases hdst : dstPrivate p
    · rw [natHandleIcmp_inside hsrc hdst]
      exact .ret rfl
    · rw [natHandleIcmp_outbound hsrc hdst]
      exact natIcmpOutbound_verdict hagree p hs ht amb amb'
  · simp only [if_neg hsrc] at hs ht
    rw [natHandleIcmp_inbound hsrc]
    exact natIcmpInbound_verdict hagree p _ hs ht amb amb'

end Icmp

/-! ### Lookups -/

/-- The internal lookup answers with the type asked for exactly where no mapping of the endpoint has
the other type. -/
lemma lookupInternal_typed_iff {s : SrNat} (hs : KeysUnique s) (ipInt : UInt32) (auxInt : UInt16)
    (type : SrNatMappingType) :
    (∀ copy, srNatLookupInternal s ipInt auxInt type = some copy → copy.type = type) ↔
      ∀ m ∈ s.mappings, m.key = (ipInt, auxInt) → m.type = type := by
  constructor
  · intro htyped m hm hkey
    refine htyped m.copy ?_
    rw [srNatLookupInternal_eq, (find?_key_eq_some_iff hs).mpr ⟨hm, hkey⟩, Option.map_some]
  · intro htype copy hlookup
    obtain ⟨m, hm, hkey, rfl⟩ := exists_of_lookupInternal hlookup
    exact htype m hm hkey

/-- The external lookup answers with the type asked for where no mapping with the id has the other
type, and nowhere else as long as ids are distinct. -/
lemma lookupExternal_typed (s : SrNat) (auxExt : UInt16) (type : SrNatMappingType) :
    ((∀ m ∈ s.mappings, m.auxExt = auxExt → m.type = type) →
      ∀ copy, srNatLookupExternal s auxExt type = some copy → copy.type = type) ∧
    ((s.mappings.map SrNatMapping.auxExt).Nodup →
      (∀ copy, srNatLookupExternal s auxExt type = some copy → copy.type = type) →
      ∀ m ∈ s.mappings, m.auxExt = auxExt → m.type = type) := by
  constructor
  · intro htype copy hlookup
    obtain ⟨m, hfind, rfl⟩ := Option.map_eq_some_iff.mp hlookup
    exact htype m (List.mem_of_find?_eq_some hfind) (by simpa using List.find?_some hfind)
  · intro hnodup htyped m hm hid
    refine htyped m.copy ?_
    unfold srNatLookupExternal
    rw [(find?_key_eq_some_iff hnodup).mpr ⟨hm, hid⟩, Option.map_some]

/-- **When ICMP and TCP mappings do not interfere.**  In every reachable state the lookups answer with
the type asked for where no mapping of the other type has the key; and in two reachable states that
agree on one protocol, a packet of that protocol is handled alike if the key its handler looks up is
that of no mapping of the other protocol. -/
theorem protocols_separate {s₀ t₀ : SrNat} (hs₀ : IsInitial s₀) (ht₀ : IsInitial t₀) {c d : NatConf}
    (hc : NatSteps (.idle, s₀) c) (hd : NatSteps (.idle, t₀) d) :
    (∀ ipInt auxInt type,
      (∀ copy, srNatLookupInternal c.2 ipInt auxInt type = some copy → copy.type = type) ↔
        ∀ m ∈ c.2.mappings, m.key = (ipInt, auxInt) → m.type = type) ∧
    (∀ auxExt type,
      ((∀ m ∈ c.2.mappings, m.auxExt = auxExt → m.type = type) →
        ∀ copy, srNatLookupExternal c.2 auxExt type = some copy → copy.type = type) ∧
      ((c.2.mappings.map SrNatMapping.auxExt).Nodup →
        (∀ copy, srNatLookupExternal c.2 auxExt type = some copy → copy.type = type) →
        ∀ m ∈ c.2.mappings, m.auxExt = auxExt → m.type = type)) ∧
    (∀ cfg (p : ByteMem) len isToNat amb amb', c.2.unsolPkt = d.2.unsolPkt →
      c.2.plainOf .natMappingTcp = d.2.plainOf .natMappingTcp →
      (∀ m ∈ c.2.mappings, m.type ≠ .natMappingTcp → ¬ TcpClash p m) →
      (∀ m ∈ d.2.mappings, m.type ≠ .natMappingTcp → ¬ TcpClash p m) → OpensAlike cfg p c.2 d.2 →
      SameVerdict (tcpLook (ipHeaderLen p)) ((natHandleTcp cfg p len isToNat).run natExec amb c.2)
        ((natHandleTcp cfg p len isToNat).run natExec amb' d.2)) ∧
    ∀ cfg (p : ByteMem) amb amb', c.2.plainOf .natMappingIcmp = d.2.plainOf .natMappingIcmp →
      (∀ m ∈ c.2.mappings, m.type ≠ .natMappingIcmp → ¬ IcmpClash p m) →
      (∀ m ∈ d.2.mappings, m.type ≠ .natMappingIcmp → ¬ IcmpClash p m) →
      SameVerdict (icmpLook (ipHeaderLen p)) ((natHandleIcmp cfg p).run natExec amb c.2)
        ((natHandleIcmp cfg p).run natExec amb' d.2) := by
  have hheap : HeapOk c.2 := heapOk_of_steps (HeapOk.initial hs₀) hc
  have hheap' : HeapOk d.2 := heapOk_of_steps (HeapOk.initial ht₀) hd
  refine ⟨lookupInternal_typed_iff (keysUnique_of_steps hs₀ hc).1, lookupExternal_typed c.2,
    fun cfg p len isToNat amb amb' hunsol hagree hs ht halike => ?_,
    fun cfg p amb amb' hagree hs ht => icmp_verdict hagree p hs ht amb amb'⟩
  exact tcp_verdict hheap hheap' hunsol hagree p len isToNat halike hs ht amb amb'

/-- The state after a request of 10.0.0.1 with the identifier 5000. -/
def requestState : SrNat :=
  (srNatInsertMapping startState 0 0x0a000001 (UInt16.ofNat 5000) .natMappingIcmp).2

/-- `requestState` is reached from `startState`. -/
lemma steps_requestState : NatSteps (.idle, startState) (.idle, requestState) := by
  have hempty : ∀ m ∈ startState.mappings, m.auxInt.toNat < 5000 :=
    fun m hm => absurd hm List.not_mem_nil
  obtain ⟨a, hrun⟩ := nthRequest_runs (show 5000 < 65536 by omega) hempty
  have hjob : (natStart (.icmp oneRoute (nthRequest 5000))).Runs natSem startState a requestState :=
    hrun
  exact hjob.job

/-- A SYN of another port of 10.0.0.1. -/
def otherPortSyn : TcpPacket := tcpSegmentPacket 0x02 0x0a000001 0x08080808 6000 80

/-- It is handled alike before and after the request. -/
theorem protocols_separate_otherPort : SameVerdict (tcpLook (ipHeaderLen otherPortSyn.buf))
    ((natHandleTcp oneRoute otherPortSyn.buf otherPortSyn.len false).run natExec quiet startState)
    ((natHandleTcp oneRoute otherPortSyn.buf otherPortSyn.len false).run natExec quiet
      requestState) := by
  have hclash : ¬ TcpClash otherPortSyn.buf
      (newMapping startState 0 0x0a000001 (UInt16.ofNat 5000) .natMappingIcmp) := by
    have hsrc : srcPrivate otherPortSyn.buf := by
      simp only [otherPortSyn, tcpSegmentPacket, srcPrivate_tcpSegment]
      decide
    rw [TcpClash, if_pos hsrc]
    simp [SrNatMapping.key, newMapping, tcpKey, otherPortSyn, tcpSegmentPacket]
  have hstart : NatSteps (.idle, startState) (.idle, startState) := .refl
  have hunsol : startState.unsolPkt = requestState.unsolPkt := rfl
  have hagree : startState.plainOf .natMappingTcp = requestState.plainOf .natMappingTcp := rfl
  have halike : OpensAlike oneRoute otherPortSyn.buf startState requestState := by
    intro hfour
    have := otherPortSyn.headerLen
    omega
  have hempty : ∀ m ∈ startState.mappings, m.type ≠ .natMappingTcp → ¬ TcpClash otherPortSyn.buf m :=
    fun m hm => absurd hm List.not_mem_nil
  have hother : ∀ m ∈ requestState.mappings, m.type ≠ .natMappingTcp →
      ¬ TcpClash otherPortSyn.buf m := by
    intro m hm _
    have hsingle : m = newMapping startState 0 0x0a000001 (UInt16.ofNat 5000) .natMappingIcmp :=
      List.mem_singleton.mp hm
    rw [hsingle]
    exact hclash
  exact (protocols_separate isInitial_startState isInitial_startState hstart
    steps_requestState).2.2.1 oneRoute otherPortSyn.buf otherPortSyn.len false quiet quiet hunsol
    hagree hempty hother halike

/-- **ICMP decides about TCP.**  A SYN of 10.0.0.1:5000 is translated in the empty state.  After an
echo request of that host with the identifier 5000, which changes no TCP mapping, the lookup for TCP
answers with the ICMP mapping and the SYN is turned away. -/
theorem protocols_interfere : NatSteps (.idle, startState) (.idle, requestState) ∧
    startState.unsolPkt = requestState.unsolPkt ∧
    startState.plainOf .natMappingTcp = requestState.plainOf .natMappingTcp ∧
    (∃ copy, srNatLookupInternal requestState 0x0a000001 5000 .natMappingTcp = some copy ∧
      copy.type = .natMappingIcmp) ∧
    (∃ q, (natHandleTcp oneRoute outboundSyn.buf outboundSyn.len false).run natExec quiet
      startState = .ok ((1, q), synState)) ∧
    (∃ s, (natHandleTcp oneRoute outboundSyn.buf outboundSyn.len false).run natExec quiet
      requestState = .ok ((0, outboundSyn.buf), s)) := by
  have hlookup : srNatLookupInternal requestState (ntohl (SrIpHdr.ipSrc outboundSyn.buf))
      (ntohs (SrTcpHdr.srcPort outboundSyn.buf (ipHeaderLen outboundSyn.buf))) .natMappingTcp =
      some (newMapping startState 0 0x0a000001 (UInt16.ofNat 5000) .natMappingIcmp).copy := by
    simp only [outboundSyn, tcpSegmentPacket, ipHeaderLen_tcpSegment, ipSrc_tcpSegment,
      srcPort_tcpSegment, ntohl_htonl, ntohs_htons]
    rfl
  obtain ⟨s, hupdate⟩ : ∃ s, srNatUpdateConnection requestState (quiet 1)
      (newMapping startState 0 0x0a000001 (UInt16.ofNat 5000) .natMappingIcmp).copy
      outboundSyn.buf outboundSyn.len .internalToExternal = .ok (none, s) := ⟨_, rfl⟩
  refine ⟨steps_requestState, rfl, rfl, ⟨_, rfl, rfl⟩, run_outboundSyn, s, ?_⟩
  rw [natHandleTcp_outbound srcPrivate_outboundSyn not_dstPrivate_outboundSyn]
  exact natTcpOutbound_run_unsolicited hlookup hupdate

end NatRouter
