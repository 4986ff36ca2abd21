import NatRouter.Nat.Execution

/-!
# The unsolicited list

What the calls of the handlers and the sweep do to `nat->unsol_pkt`: a call appends the packet it is
given (`NatCall.buffers`), or takes packets off (`sr_nat_insert_connection`), or leaves the list
alone; a sweep takes off what it reports (`isReported`).
-/

namespace NatRouter

open ByteMemory Interleaving Relation

/-- The packet that a call appends to the unsolicited list, unless it is there already. -/
def NatCall.buffers : (c : NatCall) → c.Result → Option (ByteMem × UInt32)
  | .updateConnection _ p len _, none => some (p, len)
  | .insertUnsolicitedPacket p len, _ => some (p, len)
  | _, _ => none

/-- The segment whose copies a call takes off the unsolicited list. -/
def NatCall.removes : (c : NatCall) → c.Result → Option ByteMem
  | .insertConnection _ p _, some _ => some p
  | _, _ => none

/-- A call that puts its packet on the list takes nothing off. -/
lemma NatCall.removes_of_buffers {c : NatCall} {r : c.Result} (h : (c.buffers r).isSome) :
    c.removes r = none := by
  cases c with
  | insertConnection ext p state => cases h
  | lookupExternal auxExt type => rfl
  | lookupInternal ipInt auxInt type => rfl
  | insertMapping ipInt auxInt type => rfl
  | updateConnection mapping p len direction => rfl
  | insertUnsolicitedPacket p len => rfl

/-- What a call with a given answer may do to the unsolicited list. -/
inductive UnsolEffect (c : NatCall) (r : c.Result) : UnsolList → UnsolList → Prop
  /-- It leaves the list alone. -/
  | kept {unsol : UnsolList} (hremoves : c.removes r = none) : UnsolEffect c r unsol unsol
  /-- It appends its packet. -/
  | appended {pkts : List SrNatUnsolPkt} {p junk : ByteMem} {len : UInt32} {now : Time}
      (hbuffers : c.buffers r = some (p, len)) :
      UnsolEffect c r (.linked pkts) (.linked (pkts ++ [⟨copied p len.toNat junk, now⟩]))
  /-- It takes the first packet off, and with it the list breaks. -/
  | broken {pkts : List SrNatUnsolPkt} {p : ByteMem} {q : SrNatUnsolPkt}
      (hremoves : c.removes r = some p) (hq : q ∈ pkts) (hsame : sameSegment p q.ipPacket = true) :
      UnsolEffect c r (.linked pkts) .dangling
  /-- It takes the copies of its segment off. -/
  | filtered {pkts : List SrNatUnsolPkt} {p : ByteMem} (hremoves : c.removes r = some p) :
      UnsolEffect c r (.linked pkts) (.linked (pkts.filter fun q => !sameSegment p q.ipPacket))

/-- The sweep reports a packet past its time to whose source there is a route. -/
def isReported (routingTable : List SrRt) (curtime : Time) (curr : SrNatUnsolPkt) : Bool :=
  match srRtLookup routingTable (SrIpHdr.ipSrc curr.ipPacket) with
  | .ok (some _) => defaultTcpSynTo < curtime - curr.lastUpdated
  | _ => false

/-! ### Which calls are made -/

/-- How a SYN from outside is handled. -/
lemma natTcpInbound_syn {p : ByteMem} (len : UInt32) (hsyn : isTcpSyn p) : ∃ k,
    natTcpInbound p len (ipHeaderLen p) =
        .call (.lookupExternal (ntohs (SrTcpHdr.dstPort p (ipHeaderLen p))) .natMappingTcp) k ∧
      k none = .call (.insertUnsolicitedPacket p len) (fun _ => .ret (-1, p)) ∧
      ∀ mapping, k (some mapping) =
        .call (.updateConnection mapping p len .externalToInternal) fun _ => .ret (-1, p) := by
  have hsyn' : SrTcpHdr.syn p (ipHeaderLen p) = true ∧ ¬ SrTcpHdr.ack p (ipHeaderLen p) = true :=
    ⟨hsyn.1, Bool.eq_false_iff.mp hsyn.2⟩
  simp only [natTcpInbound, if_pos hsyn']
  exact ⟨_, rfl, rfl, fun _ => rfl⟩

/-- How any other segment from outside is handled. -/
lemma natTcpInbound_notSyn {p : ByteMem} (len : UInt32) (hsyn : ¬ isTcpSyn p) : ∃ k,
    natTcpInbound p len (ipHeaderLen p) =
        .call (.lookupExternal (ntohs (SrTcpHdr.dstPort p (ipHeaderLen p))) .natMappingTcp) k ∧
      k none = natTcpUpdateChecksum p len (ipHeaderLen p) ∧
      ∀ mapping, ∃ k', k (some mapping) =
          .call (.updateConnection mapping p len .externalToInternal) k' ∧
        k' none = .ret (0, p) ∧ ∀ conn, k' (some conn) = natTcpUpdateChecksum
          (SrIpHdr.setIpDst (SrTcpHdr.setDstPort p (ipHeaderLen p) (htons mapping.auxInt))
            (htonl mapping.ipInt)) len (ipHeaderLen p) := by
  have hsyn' : ¬ (SrTcpHdr.syn p (ipHeaderLen p) = true ∧
      ¬ SrTcpHdr.ack p (ipHeaderLen p) = true) := by
    rwa [Bool.not_eq_true]
  simp only [natTcpInbound, if_neg hsyn']
  exact ⟨_, rfl, rfl, fun _ => ⟨_, rfl, rfl, fun _ => rfl⟩⟩

/-- A call that handles the segment `p` of length `len`: one from inside opens a connection or uses
one, one from outside uses one, and a SYN from outside may be put on the list. -/
def NatCall.About (p : ByteMem) (len : UInt32) : NatCall → Prop
  | .insertConnection _ p' _ => p' = p ∧ srcPrivate p
  | .updateConnection _ p' len' direction =>
    p' = p ∧ len' = len ∧ (direction = .externalToInternal → ¬ srcPrivate p)
  | .insertUnsolicitedPacket p' len' => p' = p ∧ len' = len ∧ ¬ srcPrivate p ∧ isTcpSyn p
  | _ => True

/-- The calls that should put their packet on the list: the packet is a SYN from outside. -/
def NatCall.ForSyn : NatCall → Prop
  | .updateConnection _ p _ direction => direction = .externalToInternal ∧ isTcpSyn p
  | _ => True

/-- The calls that concern mappings only. -/
def NatCall.OnMappings : NatCall → Prop
  | .insertConnection .. => False
  | .updateConnection .. => False
  | .insertUnsolicitedPacket .. => False
  | _ => True

/-- They handle no segment. -/
lemma NatCall.OnMappings.about {c : NatCall} (h : c.OnMappings) (p : ByteMem) (len : UInt32) :
    c.About p len := by
  cases c with
  | lookupExternal auxExt type => trivial
  | lookupInternal ipInt auxInt type => trivial
  | insertMapping ipInt auxInt type => trivial
  | insertConnection ext p state => exact absurd h id
  | updateConnection mapping p len direction => exact absurd h id
  | insertUnsolicitedPacket p len => exact absurd h id

/-- They put nothing on the list and take nothing off. -/
lemma NatCall.OnMappings.kept {c : NatCall} (h : c.OnMappings) (r : c.Result) :
    c.buffers r = none ∧ c.removes r = none := by
  cases c with
  | lookupExternal auxExt type => exact ⟨rfl, rfl⟩
  | lookupInternal ipInt auxInt type => exact ⟨rfl, rfl⟩
  | insertMapping ipInt auxInt type => exact ⟨rfl, rfl⟩
  | insertConnection ext p state => exact absurd h id
  | updateConnection mapping p len direction => exact absurd h id
  | insertUnsolicitedPacket p len => exact absurd h id

/-- The rules by which a property of programs is inherited by `nat_handle_tcp`. -/
structure TcpRules (cfg : NetConfig) (p : ByteMem) (len : UInt32) (isToNat : Bool)
    (M : NatProg (ℤ × ByteMem) → Prop) : Prop where
  /-- The packet is left as it is. -/
  ret : ∀ code, M (.ret (code, p))
  /-- The handler fails. -/
  abort : ∀ e, M (.abort e)
  /-- A call handles the segment, and once a SYN from outside has been put on the list the handler
  returns -1. -/
  call : ∀ c k, c.About p len →
    (∀ r, (c.buffers r).isSome → c.ForSyn → isToNat = true ∧ k r = .ret (-1, p)) →
    (∀ r, M (k r)) → M (.call c k)
  /-- The source of an outgoing segment is rewritten. -/
  source : srcPrivate p → ¬ dstPrivate p → ∀ mapping,
    M (natTcpTranslateSource cfg p len (ipHeaderLen p) mapping)
  /-- The checksums are filled in; the source is that of the segment. -/
  checksum : ∀ q, (20 ≤ ipHeaderLen p → SrIpHdr.ipSrc q = SrIpHdr.ipSrc p) →
    M (natTcpUpdateChecksum q len (ipHeaderLen p))

section TcpRules

variable {cfg : NetConfig} {p : ByteMem} {len : UInt32} {isToNat : Bool}
  {M : NatProg (ℤ × ByteMem) → Prop}

/-- A call that concerns mappings only. -/
lemma TcpRules.onMappings (h : TcpRules cfg p len isToNat M) {c : NatCall}
    {k : c.Result → NatProg (ℤ × ByteMem)} (hc : c.OnMappings) (hk : ∀ r, M (k r)) :
    M (.call c k) := by
  refine h.call c k (hc.about p len) ?_ hk
  intro r hsome
  rw [(hc.kept r).1] at hsome
  cases hsome

/-- An outgoing segment. -/
lemma TcpRules.outbound (h : TcpRules cfg p len isToNat M) (hsrc : srcPrivate p)
    (hdst : ¬ dstPrivate p) : M (natTcpOutbound cfg p len (ipHeaderLen p)) := by
  unfold natTcpOutbound
  refine h.onMappings trivial ?_
  intro r
  cases r with
  | none =>
    refine h.onMappings trivial ?_
    intro mapping
    refine h.call _ _ ⟨rfl, hsrc⟩ (fun _ hsome => nomatch hsome) ?_
    intro conn
    cases conn with
    | none => exact h.abort _
    | some conn => exact h.source hsrc hdst mapping
  | some mapping =>
    refine h.call _ _ ⟨rfl, rfl, fun hdir => nomatch hdir⟩ (fun _ _ hsyn => nomatch hsyn.1) ?_
    intro conn
    cases conn with
    | none => exact h.ret 0
    | some conn => exact h.source hsrc hdst mapping

/-- A SYN from outside. -/
lemma TcpRules.inboundSyn (h : TcpRules cfg p len true M) (hsrc : ¬ srcPrivate p)
    (hsyn : isTcpSyn p) : M (natTcpInbound p len (ipHeaderLen p)) := by
  obtain ⟨k, hk, hnone, hsome⟩ := natTcpInbound_syn len hsyn
  rw [hk]
  refine h.onMappings trivial ?_
  intro r
  cases r with
  | none =>
    rw [hnone]
    exact h.call _ _ ⟨rfl, rfl, hsrc, hsyn⟩ (fun _ _ _ => ⟨rfl, rfl⟩) fun _ => h.ret (-1)
  | some mapping =>
    rw [hsome]
    exact h.call _ _ ⟨rfl, rfl, fun _ => hsrc⟩ (fun _ _ _ => ⟨rfl, rfl⟩) fun _ => h.ret (-1)

/-- Any other segment from outside. -/
lemma TcpRules.inboundNotSyn (h : TcpRules cfg p len isToNat M) (hsrc : ¬ srcPrivate p)
    (hsyn : ¬ isTcpSyn p) : M (natTcpInbound p len (ipHeaderLen p)) := by
  obtain ⟨k, hk, hnone, hsome⟩ := natTcpInbound_notSyn len hsyn
  rw [hk]
  refine h.onMappings trivial ?_
  intro r
  cases r with
  | none =>
    rw [hnone]
    exact h.checksum p fun _ => rfl
  | some mapping =>
    obtain ⟨k', hk', hnone', hsome'⟩ := hsome mapping
    rw [hk']
    refine h.call _ _ ⟨rfl, rfl, fun _ => hsrc⟩ (fun _ _ hforSyn => absurd hforSyn.2 hsyn) ?_
    intro conn
    cases conn with
    | none =>
      rw [hnone']
      exact h.ret 0
    | some conn =>
      rw [hsome']
      apply h.checksum
      intro ho
      have hfields := tcpFields_setIpDst
        (SrTcpHdr.setDstPort p (ipHeaderLen p) (htons mapping.auxInt)) ho (htonl mapping.ipInt)
      rw [tcpFields_setDstPort _ ho] at hfields
      exact congrArg TcpFields.ipSrc hfields

/-- **Properties of `nat_handle_tcp`**: what follows the rules holds of the handler. -/
lemma TcpRules.natHandleTcp (h : TcpRules cfg p len isToNat M) :
    M (NatRouter.natHandleTcp cfg p len isToNat) := by
  by_cases hsrc : srcPrivate p
  · by_cases hdst : dstPrivate p
    · rw [natHandleTcp_inside hsrc hdst]
      exact h.ret 1
    · rw [natHandleTcp_outbound hsrc hdst]
      exact h.outbound hsrc hdst
  · cases isToNat with
    | false =>
      rw [natHandleTcp_transit hsrc]
      exact h.ret _
    | true =>
      rw [natHandleTcp_inbound hsrc]
      by_cases hsyn : isTcpSyn p
      · exact h.inboundSyn hsrc hsyn
      · exact h.inboundNotSyn hsrc hsyn

end TcpRules

/-- The calls of `nat_handle_tcp` handle its segment. -/
lemma natHandleTcp_about (cfg : NetConfig) (p : ByteMem) (len : UInt32) (isToNat : Bool) :
    (natHandleTcp cfg p len isToNat).Calls (NatCall.About p len) := by
  apply TcpRules.natHandleTcp
  constructor
  · exact fun _ => trivial
  · exact fun _ => trivial
  · exact fun c k habout _ hk => ⟨habout, hk⟩
  · exact fun _ _ mapping => natTcpTranslateSource_calls cfg p len _ mapping
  · exact fun q _ => natTcpUpdateChecksum_calls q len _

/-- The rules by which a property of programs is inherited by `nat_handle_icmp`. -/
structure IcmpRules (cfg : NetConfig) (p : ByteMem) (M : NatProg (ℤ × ByteMem) → Prop) : Prop where
  /-- The packet is left as it is. -/
  ret : M (.ret (0, p))
  /-- The handler fails. -/
  abort : ∀ e, M (.abort e)
  /-- A call concerns mappings only. -/
  call : ∀ c k, c.OnMappings → (∀ r, M (k r)) → M (.call c k)
  /-- The source of an outgoing packet is rewritten; there is a route to its destination. -/
  source : srcPrivate p → ¬ dstPrivate p → ∀ lpm,
    srRtLookup cfg.routingTable (SrIpHdr.ipDst p) = .ok (some lpm) →
    ∀ mapping, M (natIcmpTranslateSource cfg p (ipHeaderLen p) lpm mapping)
  /-- The packet has been rewritten, and its source kept. -/
  translated : ∀ q, (20 ≤ ipHeaderLen p → SrIpHdr.ipSrc q = SrIpHdr.ipSrc p) → M (.ret (1, q))

/-- **Properties of `nat_handle_icmp`**: what follows the rules holds of the handler. -/
lemma IcmpRules.natHandleIcmp {cfg : NetConfig} {p : ByteMem} {M : NatProg (ℤ × ByteMem) → Prop}
    (h : IcmpRules cfg p M) : M (NatRouter.natHandleIcmp cfg p) := by
  by_cases hsrc : srcPrivate p
  · by_cases hdst : dstPrivate p
    · rw [natHandleIcmp_inside hsrc hdst]
      exact h.ret
    · rw [natHandleIcmp_outbound hsrc hdst]
      unfold natIcmpOutbound
      simp only
      split
      · exact h.abort _
      · exact h.ret
      · rename_i lpm hlookup
        have hsource := h.source hsrc hdst lpm hlookup
        refine h.call _ _ trivial ?_
        intro r
        cases r with
        | none => exact h.call _ _ trivial hsource
        | some mapping => exact hsource mapping
  · rw [natHandleIcmp_inbound hsrc]
    refine h.call _ _ trivial ?_
    intro r
    cases r with
    | none => exact h.ret
    | some mapping =>
      change M (natIcmpUpdateChecksum _ _)
      rw [natIcmpUpdateChecksum_eq]
      exact h.translated _ fun ho => congrArg IcmpFields.ipSrc (icmpFields_icmpDestined p ho _ _)

/-- The calls of `nat_handle_icmp` concern mappings only. -/
lemma natHandleIcmp_onMappings (cfg : NetConfig) (p : ByteMem) :
    (natHandleIcmp cfg p).Calls NatCall.OnMappings := by
  apply IcmpRules.natHandleIcmp
  constructor
  · trivial
  · exact fun _ => trivial
  · exact fun _ _ hc hk => ⟨hc, hk⟩
  · exact fun _ _ lpm _ mapping => natIcmpTranslateSource_calls cfg p _ lpm mapping
  · exact fun _ _ => trivial

/-- What a call that handles a segment puts on the list is the segment. -/
lemma NatCall.About.of_buffers {c : NatCall} {p q : ByteMem} {len len' : UInt32}
    (h : c.About p len) {r : c.Result} (hbuffers : c.buffers r = some (q, len')) :
    q = p ∧ len' = len := by
  cases c with
  | updateConnection mapping p' n direction =>
    cases r with
    | none =>
      obtain ⟨rfl, rfl⟩ : p' = q ∧ n = len' := by simpa [NatCall.buffers] using hbuffers
      exact ⟨h.1, h.2.1⟩
    | some conn => simp [NatCall.buffers] at hbuffers
  | insertUnsolicitedPacket p' n =>
    obtain ⟨rfl, rfl⟩ : p' = q ∧ n = len' := by simpa [NatCall.buffers] using hbuffers
    exact ⟨h.1, h.2.1⟩
  | lookupExternal auxExt type => simp [NatCall.buffers] at hbuffers
  | lookupInternal ipInt auxInt type => simp [NatCall.buffers] at hbuffers
  | insertMapping ipInt auxInt type => simp [NatCall.buffers] at hbuffers
  | insertConnection ext p' state => simp [NatCall.buffers] at hbuffers

/-- What it takes off are copies of the segment, which comes from inside. -/
lemma NatCall.About.of_removes {c : NatCall} {p q : ByteMem} {len : UInt32} (h : c.About p len)
    {r : c.Result} (hremoves : c.removes r = some q) : q = p ∧ srcPrivate p := by
  cases c with
  | insertConnection ext p' state =>
    cases r with
    | none => simp [NatCall.removes] at hremoves
    | some conn =>
      obtain rfl : p' = q := by simpa [NatCall.removes] using hremoves
      exact h
  | updateConnection mapping p' n direction => simp [NatCall.removes] at hremoves
  | insertUnsolicitedPacket p' n => simp [NatCall.removes] at hremoves
  | lookupExternal auxExt type => simp [NatCall.removes] at hremoves
  | lookupInternal ipInt auxInt type => simp [NatCall.removes] at hremoves
  | insertMapping ipInt auxInt type => simp [NatCall.removes] at hremoves

section Effects

variable {s s' : SrNat} {p : ByteMem} {len : UInt32} {amb : Ambient}

/-- A segment from inside is not taken for one from outside. -/
lemma sameSegment_eq_false (hsrc : srcPrivate p) {q : ByteMem} (hq : ¬ srcPrivate q) :
    sameSegment p q = false := by
  refine Bool.eq_false_iff.mpr fun hsame => hq ?_
  have hip : SrIpHdr.ipSrc p = SrIpHdr.ipSrc q := (of_decide_eq_true hsame).1
  unfold srcPrivate at hsrc ⊢
  rwa [← hip]

/-- `sr_nat_insert_unsolicited_packet` appends its packet or leaves the list alone. -/
lemma srNatInsertUnsolicitedPacket_eq {unsol unsol' : UnsolList}
    (h : srNatInsertUnsolicitedPacket amb unsol p len = .ok unsol') :
    ∃ pkts, unsol = .linked pkts ∧
      (unsol' = .linked pkts ∨ unsol' = .linked (pkts ++ [⟨copied p len.toNat amb.junk, amb.now⟩])) := by
  unfold srNatInsertUnsolicitedPacket at h
  split at h
  · cases h
  · rename_i pkts
    refine ⟨pkts, rfl, ?_⟩
    split_ifs at h
    · exact .inl (Except.ok.inj h).symm
    · exact .inr (Except.ok.inj h).symm

/-- `sr_nat_remove_unsolicited_packet` takes the copies of the segment off the list, which breaks if
the first packet is one of them. -/
lemma srNatRemoveUnsolicitedPacket_eq {unsol unsol' : UnsolList}
    (h : srNatRemoveUnsolicitedPacket unsol p = .ok unsol') :
    ∃ pkts, unsol = .linked pkts ∧
      ((unsol' = .dangling ∧ ∃ q ∈ pkts, sameSegment p q.ipPacket = true) ∨
        unsol' = .linked (pkts.filter fun q => !sameSegment p q.ipPacket)) := by
  unfold srNatRemoveUnsolicitedPacket at h
  split at h
  · cases h
  · exact ⟨[], rfl, .inr (Except.ok.inj h).symm⟩
  · rename_i curr rest
    refine ⟨curr :: rest, rfl, ?_⟩
    split_ifs at h with hsame
    · exact .inl ⟨(Except.ok.inj h).symm, curr, List.mem_cons_self, hsame⟩
    · right
      rw [← Except.ok.inj h, List.filter_cons_of_pos (by simpa using hsame)]

/-- A call that puts its packet on the list. -/
lemma UnsolEffect.of_insert {c : NatCall} {r : c.Result} {unsol unsol' : UnsolList}
    (hbuffers : c.buffers r = some (p, len))
    (h : srNatInsertUnsolicitedPacket amb unsol p len = .ok unsol') : UnsolEffect c r unsol unsol' := by
  obtain ⟨pkts, rfl, rfl | rfl⟩ := srNatInsertUnsolicitedPacket_eq h
  · exact .kept (NatCall.removes_of_buffers (Option.isSome_of_eq_some hbuffers))
  · exact .appended hbuffers

/-- A call that takes the copies of its segment off the list. -/
lemma UnsolEffect.of_remove {c : NatCall} {r : c.Result} {unsol unsol' : UnsolList}
    (hremoves : c.removes r = some p) (h : srNatRemoveUnsolicitedPacket unsol p = .ok unsol') :
    UnsolEffect c r unsol unsol' := by
  obtain ⟨pkts, rfl, ⟨rfl, q, hq, hsame⟩ | rfl⟩ := srNatRemoveUnsolicitedPacket_eq h
  · exact .broken hremoves hq hsame
  · exact .filtered hremoves

/-- **What a call does to the unsolicited list.** -/
lemma natExec_unsol {c : NatCall} {r : c.Result} (h : natExec amb c s = .ok (r, s')) :
    UnsolEffect c r s.unsolPkt s'.unsolPkt := by
  cases c with
  | lookupExternal auxExt type =>
    cases h
    exact .kept rfl
  | lookupInternal ipInt auxInt type =>
    cases h
    exact .kept rfl
  | insertMapping ipInt auxInt type =>
    cases h
    exact .kept rfl
  | insertConnection ext p state =>
    change srNatInsertConnection s amb.now ext p state = .ok (r, s') at h
    unfold srNatInsertConnection at h
    split at h
    · cases h
      exact .kept rfl
    · split at h
      · cases h
      · rename_i unsol hremove
        cases h
        exact .of_remove rfl hremove
  | updateConnection mapping p len direction =>
    change srNatUpdateConnection s amb mapping p len direction = .ok (r, s') at h
    unfold srNatUpdateConnection at h
    simp only at h
    split at h
    · cases h
    · split at h
      · cases h
        exact .kept rfl
      · split at h
        · cases h
        · rename_i unsol hinsert
          cases h
          exact .of_insert rfl hinsert
  | insertUnsolicitedPacket p len =>
    cases hinsert : srNatInsertUnsolicitedPacket amb s.unsolPkt p len with
    | error e => simp [natExec, hinsert] at h
    | ok unsol =>
      simp only [natExec, hinsert] at h
      cases h
      exact .of_insert rfl hinsert

/-- Whether a packet is reported, told by the route to its source. -/
lemma isReported_of_lookup {rt : List SrRt} {t : Time} {curr : SrNatUnsolPkt} {lpm : Option SrRt}
    (h : srRtLookup rt (SrIpHdr.ipSrc curr.ipPacket) = .ok lpm) :
    isReported rt t curr = (lpm.isSome && decide (defaultTcpSynTo < t - curr.lastUpdated)) := by
  unfold isReported
  rw [h]
  cases lpm with
  | none => rfl
  | some route => exact (Bool.true_and _).symm

/-- The walk of the sweep over the list. -/
lemma sweepUnsol_eq {rt : List SrRt} {t : Time} {pkts kept : List SrNatUnsolPkt}
    {reported : List (SrNatUnsolPkt × SrRt)} (h : sweepUnsol rt t pkts = .ok (reported, kept)) :
    reported.map Prod.fst = pkts.filter (isReported rt t) ∧
      kept = pkts.filter fun q => !isReported rt t q := by
  induction pkts generalizing reported kept with
  | nil =>
    cases h
    exact ⟨rfl, rfl⟩
  | cons curr rest ih =>
    unfold sweepUnsol at h
    split at h
    · cases h
    · rename_i lpm hlookup
      split at h
      · cases h
      · rename_i reported' kept' hrest
        obtain ⟨hreported, hkept⟩ := ih hrest
        have hcurr := @isReported_of_lookup rt t curr lpm hlookup
        have hstays : isReported rt t curr = false → reported = reported' → kept = curr :: kept' →
            reported.map Prod.fst = (curr :: rest).filter (isReported rt t) ∧
              kept = (curr :: rest).filter fun q => !isReported rt t q := by
          rintro hfalse rfl rfl
          rw [List.filter_cons_of_neg (by simp [hfalse]), List.filter_cons_of_pos (by simp [hfalse])]
          exact ⟨hreported, congrArg (curr :: ·) hkept⟩
        split at h
        · split_ifs at h with hold
          · cases h
            have htrue : isReported rt t curr = true := hcurr.trans (decide_eq_true hold)
            rw [List.filter_cons_of_pos htrue, List.filter_cons_of_neg (by simp [htrue])]
            exact ⟨congrArg (curr :: ·) hreported, hkept⟩
          · cases h
            exact hstays (hcurr.trans (decide_eq_false hold)) rfl rfl
        · cases h
          exact hstays hcurr rfl rfl

/-- **What a sweep does to the unsolicited list.** -/
lemma natTimeout_unsol {rt : List SrRt} {t : Time} {reported : List (SrNatUnsolPkt × SrRt)}
    (h : natTimeout rt t s = .ok (reported, s')) :
    ∃ pkts, s.unsolPkt = .linked pkts ∧ reported.map Prod.fst = pkts.filter (isReported rt t) ∧
      s'.unsolPkt = .linked (pkts.filter fun q => !isReported rt t q) := by
  unfold natTimeout at h
  split at h
  · cases h
  · rename_i pkts hlinked
    split at h
    · cases h
    · rename_i reported' kept hsweep
      cases h
      obtain ⟨hreported, rfl⟩ := sweepUnsol_eq hsweep
      exact ⟨pkts, hlinked, hreported, rfl⟩

end Effects

end NatRouter
