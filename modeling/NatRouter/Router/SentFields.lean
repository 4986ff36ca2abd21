import NatRouter.Nat.Overlaps
import NatRouter.Router.IpPacket

/-!
# The fields of a forwarded packet

With which hops, addresses and numbers a packet is sent on, told by the packet as it was received, the
address and the number that the NAT puts into it, and `ip_hl`.  Behind a complete header the NAT changes
one endpoint, and `sr_forward_ippacket` the hops.  With an `ip_hl` below 5 the header that the packet
carries starts inside the IP header, and what is written last decides about the bytes that two fields
share: the number of the NAT first, then its address, then the checksum of the message or the segment,
and in the end the hops.
-/

namespace NatRouter

open ByteMemory

/-- What the destination of a forwarded ICMP packet sees of its header. -/
@[ext] structure IcmpSent where
  /-- `ip_ttl`. -/
  ipTtl : UInt8
  /-- `ip_src`. -/
  ipSrc : UInt32
  /-- `ip_dst`. -/
  ipDst : UInt32
  /-- `identifier`. -/
  identifier : UInt16

/-- What the destination of a forwarded TCP packet sees of its header. -/
@[ext] structure TcpSent where
  /-- `ip_ttl`. -/
  ipTtl : UInt8
  /-- `ip_src`. -/
  ipSrc : UInt32
  /-- `ip_dst`. -/
  ipDst : UInt32
  /-- `src_port`. -/
  srcPort : UInt16
  /-- `dst_port`. -/
  dstPort : UInt16

/-- The fields of a packet `q` with an ICMP header at offset `o`. -/
def icmpSent (q : ByteMem) (o : ℕ) : IcmpSent where
  ipTtl := SrIpHdr.ipTtl q
  ipSrc := SrIpHdr.ipSrc q
  ipDst := SrIpHdr.ipDst q
  identifier := SrIcmpHdr.identifier q o

/-- The fields of a packet `q` with a TCP header at offset `o`. -/
def tcpSent (q : ByteMem) (o : ℕ) : TcpSent where
  ipTtl := SrIpHdr.ipTtl q
  ipSrc := SrIpHdr.ipSrc q
  ipDst := SrIpHdr.ipDst q
  srcPort := SrTcpHdr.srcPort q o
  dstPort := SrTcpHdr.dstPort q o

/-- A 16-bit field whose first byte counts the hops, after one of them. -/
def lessHop (v : UInt16) : UInt16 := setFirstByte v (firstByte v - 1)

/-- One hop further.  With an `ip_hl` of 1 the hops are the first byte of the identifier. -/
def IcmpSent.hop (f : IcmpSent) (hl : ℕ) : IcmpSent :=
  { f with
    ipTtl := f.ipTtl - 1
    identifier := if hl = 1 then lessHop f.identifier else f.identifier }

/-- One hop further.  With an `ip_hl` of 2 the hops are the first byte of the source port. -/
def TcpSent.hop (f : TcpSent) (hl : ℕ) : TcpSent :=
  { f with
    ipTtl := f.ipTtl - 1
    srcPort := if hl = 2 then lessHop f.srcPort else f.srcPort }

/-! ### What the NAT makes of the fields -/

/-- The fields of an ICMP packet with the source `ip` and the identifier `id`. -/
def icmpWithSource (p : ByteMem) (ip : UInt32) (id : UInt16) : IcmpSent :=
  let hl := SrIpHdr.ipHl p
  let o := ipHeaderLen p
  let sum := icmpChecksum (SrIpHdr.setIpSrc (SrIcmpHdr.setIdentifier p o id) ip) o
  { ipTtl := if hl = 1 then firstByte id else SrIpHdr.ipTtl p
    ipSrc := if hl = 3 then ofHalves (firstHalf ip) sum else ip
    ipDst := if hl = 3 then ofHalves id (secondHalf (SrIpHdr.ipDst p))
      else if hl = 4 then ofHalves (firstHalf (SrIpHdr.ipDst p)) sum else SrIpHdr.ipDst p
    identifier := if hl = 2 then firstHalf ip else id }

/-- The fields of an ICMP packet with the destination `ip` and the identifier `id`. -/
def icmpWithDestination (p : ByteMem) (ip : UInt32) (id : UInt16) : IcmpSent :=
  let hl := SrIpHdr.ipHl p
  let o := ipHeaderLen p
  let sum := icmpChecksum (SrIpHdr.setIpDst (SrIcmpHdr.setIdentifier p o id) ip) o
  { ipTtl := if hl = 1 then firstByte id else SrIpHdr.ipTtl p
    ipSrc := if hl = 2 then ofHalves id (secondHalf (SrIpHdr.ipSrc p))
      else if hl = 3 then ofHalves (firstHalf (SrIpHdr.ipSrc p)) sum else SrIpHdr.ipSrc p
    ipDst := if hl = 4 then ofHalves (firstHalf ip) sum else ip
    identifier := if hl = 3 then firstHalf ip else id }

/-- The fields of a TCP packet with new checksums only. -/
def tcpWithSums (p : ByteMem) (len : UInt32) : TcpSent :=
  let o := ipHeaderLen p
  { tcpSent p o with
    ipDst := if SrIpHdr.ipHl p = 0 then ofHalves (tcpChecksum p len o) (secondHalf (SrIpHdr.ipDst p))
      else SrIpHdr.ipDst p }

/-- The fields of a TCP packet with the source `ip` and the source port `port`. -/
def tcpWithSource (p : ByteMem) (len : UInt32) (ip : UInt32) (port : UInt16) : TcpSent :=
  let hl := SrIpHdr.ipHl p
  let o := ipHeaderLen p
  let sum := tcpChecksum (SrIpHdr.setIpSrc (SrTcpHdr.setSrcPort p o port) ip) len o
  { ipTtl := if hl = 2 then firstByte port else SrIpHdr.ipTtl p
    ipSrc := ip
    ipDst := if hl = 0 then ofHalves sum (secondHalf (SrIpHdr.ipDst p))
      else if hl = 4 then ofHalves port (secondHalf (SrIpHdr.ipDst p)) else SrIpHdr.ipDst p
    srcPort := if hl = 3 then firstHalf ip else port
    dstPort := if hl = 3 then secondHalf ip else SrTcpHdr.dstPort p o }

/-- The fields of a TCP packet with the destination `ip` and the destination port `port`.  With an
`ip_hl` of 2 the port is the place of `ip_sum`, which is filled in again. -/
def tcpWithDestination (p : ByteMem) (len : UInt32) (ip : UInt32) (port : UInt16) : TcpSent :=
  let hl := SrIpHdr.ipHl p
  let o := ipHeaderLen p
  let sum := tcpChecksum (SrIpHdr.setIpDst (SrTcpHdr.setDstPort p o port) ip) len o
  { ipTtl := SrIpHdr.ipTtl p
    ipSrc := if hl = 3 then ofHalves (firstHalf (SrIpHdr.ipSrc p)) port else SrIpHdr.ipSrc p
    ipDst := if hl = 0 then ofHalves sum (secondHalf ip) else ip
    srcPort := if hl = 4 then firstHalf ip else SrTcpHdr.srcPort p o
    dstPort := if hl = 2 then SrTcpHdr.dstPort p o else if hl = 4 then secondHalf ip else port }

/-! ### One hop -/

section Hop

variable {q : ByteMem} {o i : ℕ}

/-- Of the 16-bit fields at even offsets a hop changes the one with the hops, and `ip_sum`. -/
lemma load16_decrementTtl (q : ByteMem) (hi : i % 2 = 0) (hsum : i ≠ 10) :
    load16 (decrementTtl q) i = if i = 8 then lessHop (load16 q 8) else load16 q i := by
  have httl : SrIpHdr.ipTtl (SrIpHdr.setIpSum q 0) = firstByte (load16 q 8) := by
    rw [firstByte_load16]
    unfold SrIpHdr.ipTtl SrIpHdr.setIpSum
    exact store16_apply_of_disjoint (.inl (by decide))
  unfold decrementTtl
  simp only [httl]
  simp (disch := omega) only [SrIpHdr.setIpSum, SrIpHdr.setIpTtl, load16_store16_of_even,
    load16_store8_of_even, if_neg hsum]
  split_ifs with h
  · rw [h]
    rfl
  · rfl

/-- The hops after a hop. -/
lemma ipTtl_decrementTtl (q : ByteMem) : SrIpHdr.ipTtl (decrementTtl q) = SrIpHdr.ipTtl q - 1 := by
  have hfield := load16_decrementTtl q (show 8 % 2 = 0 by decide) (by decide)
  rw [if_pos rfl] at hfield
  have hbyte := congrArg firstByte hfield
  rwa [lessHop, firstByte_setFirstByte, firstByte_load16, firstByte_load16] at hbyte

/-- A hop of an ICMP packet. -/
lemma icmpSent_decrementTtl (q : ByteMem) (hl : ℕ) :
    icmpSent (decrementTtl q) (hl * 4) = (icmpSent q (hl * 4)).hop hl := by
  have hid : SrIcmpHdr.identifier (decrementTtl q) (hl * 4) =
      if hl = 1 then lessHop (SrIcmpHdr.identifier q (hl * 4))
      else SrIcmpHdr.identifier q (hl * 4) := by
    unfold SrIcmpHdr.identifier
    rw [load16_decrementTtl q (by omega) (by omega)]
    by_cases hone : hl = 1
    · rw [hone]
      rfl
    · rw [if_neg (by omega), if_neg hone]
  simp only [icmpSent, ipTtl_decrementTtl, ipSrc_decrementTtl, ipDst_decrementTtl, hid, IcmpSent.hop]

/-- A hop of a TCP packet, whose destination port may be `ip_sum`. -/
lemma tcpSent_decrementTtl (q : ByteMem) (hl : ℕ) :
    tcpSent (decrementTtl q) (hl * 4) =
      { (tcpSent q (hl * 4)).hop hl with
        dstPort := if hl = 2 then SrIpHdr.ipSum (decrementTtl q) else SrTcpHdr.dstPort q (hl * 4) } := by
  have hsrc : SrTcpHdr.srcPort (decrementTtl q) (hl * 4) =
      if hl = 2 then lessHop (SrTcpHdr.srcPort q (hl * 4)) else SrTcpHdr.srcPort q (hl * 4) := by
    unfold SrTcpHdr.srcPort
    rw [load16_decrementTtl q (by omega) (by omega)]
    by_cases htwo : hl = 2
    · rw [htwo]
      rfl
    · rw [if_neg (by omega), if_neg htwo]
  have hdst : SrTcpHdr.dstPort (decrementTtl q) (hl * 4) =
      if hl = 2 then SrIpHdr.ipSum (decrementTtl q) else SrTcpHdr.dstPort q (hl * 4) := by
    by_cases htwo : hl = 2
    · rw [if_pos htwo, htwo]
      rfl
    · unfold SrTcpHdr.dstPort
      rw [if_neg htwo, load16_decrementTtl q (by omega) (by omega), if_neg (by omega)]
  simp only [tcpSent, ipTtl_decrementTtl, ipSrc_decrementTtl, ipDst_decrementTtl, hsrc, hdst,
    TcpSent.hop]

/-- With an `ip_hl` of 2 only the first 8 bytes are summed for `ip_sum`: while these stay, an accepted
packet gets the checksum that it had. -/
lemma ipSum_decrementTtl {p : ByteMem} {len : UInt32} (hok : Accepted p len)
    (hhl : SrIpHdr.ipHl p = 2) (hq : ∀ j < 8, q j = p j) :
    SrIpHdr.ipSum (decrementTtl q) = SrIpHdr.ipSum p := by
  have hlen : ipHeaderLen p = 8 := by
    unfold ipHeaderLen
    omega
  have hsum := hok.2.2
  rw [hlen] at hsum
  rw [← hsum]
  have hbyte : ∀ j < 8, SrIpHdr.setIpTtl (SrIpHdr.setIpSum q 0)
      (SrIpHdr.ipTtl (SrIpHdr.setIpSum q 0) - 1) j = SrIpHdr.setIpSum p 0 j := by
    intro j hj
    unfold SrIpHdr.setIpTtl SrIpHdr.setIpSum
    rw [store8_apply_of_ne (by omega), store16_apply_of_disjoint (by omega),
      store16_apply_of_disjoint (by omega), hq j hj]
  have hlen' : ipHeaderLen (SrIpHdr.setIpTtl (SrIpHdr.setIpSum q 0)
      (SrIpHdr.ipTtl (SrIpHdr.setIpSum q 0) - 1)) = 8 := by
    have hfirst := hbyte 0 (by omega)
    unfold SrIpHdr.setIpSum at hfirst ⊢
    rw [store16_apply_of_disjoint (.inl (show 0 < 10 by decide))] at hfirst
    rw [ipHeaderLen_congr hfirst, hlen]
  unfold decrementTtl
  simp only [SrIpHdr.ipSum]
  rw [SrIpHdr.setIpSum, load16_store16_self, hlen']
  exact cksum_congr hbyte

/-- A hop of an accepted TCP packet, whose `ip_sum` comes out as it was if it is also the destination
port. -/
lemma tcpSent_hop {p : ByteMem} {len : UInt32} (hok : Accepted p len) {f : TcpSent}
    (hq : SrIpHdr.ipHl p = 2 → ∀ j < 8, q j = p j)
    (hfields : { tcpSent q (ipHeaderLen p) with dstPort := f.dstPort } = f)
    (hport : if SrIpHdr.ipHl p = 2 then f.dstPort = SrTcpHdr.dstPort p (ipHeaderLen p)
      else SrTcpHdr.dstPort q (ipHeaderLen p) = f.dstPort) :
    tcpSent (decrementTtl q) (ipHeaderLen p) = f.hop (SrIpHdr.ipHl p) := by
  have hhop := tcpSent_decrementTtl q (SrIpHdr.ipHl p)
  have hkept : (if SrIpHdr.ipHl p = 2 then SrIpHdr.ipSum (decrementTtl q)
      else SrTcpHdr.dstPort q (SrIpHdr.ipHl p * 4)) = f.dstPort := by
    split_ifs at hport ⊢ with htwo
    · rw [ipSum_decrementTtl hok htwo (hq htwo), hport]
      unfold ipHeaderLen
      rw [htwo]
      rfl
    · exact hport
  rw [hkept] at hhop
  exact hhop.trans (congrArg (fun f => TcpSent.hop f (SrIpHdr.ipHl p)) hfields)

end Hop

/-! ### The packets of the NAT -/

section Kinds

variable {p : ByteMem} {len : UInt32}

/-- The fields of a message, by its 16-bit fields. -/
lemma icmpSent_eq (q : ByteMem) (o : ℕ) : icmpSent q o =
    ⟨firstByte (load16 q 8), ofHalves (load16 q 12) (load16 q 14),
      ofHalves (load16 q 16) (load16 q 18), load16 q (o + 4)⟩ := by
  rw [firstByte_load16]
  rfl

/-- The fields of a message whose source has been translated. -/
lemma icmpSent_icmpSourced (p : ByteMem) (ip : UInt32) (id : UInt16) :
    icmpSent (icmpSourced p (ipHeaderLen p) ip id) (ipHeaderLen p) = icmpWithSource p ip id := by
  have ho := ipHeaderLen_even p
  have hread := fun i hi hsum => @load16_icmpSourced p (ipHeaderLen p) i hi ho hsum ip id
  have hhl : ipHeaderLen p = SrIpHdr.ipHl p * 4 := rfl
  rw [icmpSent_eq, hread 8 (by decide) (by decide), hread 12 (by decide) (by decide),
    hread 14 (by decide) (by decide), hread 16 (by decide) (by decide),
    hread 18 (by decide) (by decide), hread _ (by omega) (by omega)]
  simp only [icmpWithSource]
  generalize icmpChecksum _ _ = sum
  generalize ipHeaderLen p = o at hhl ⊢
  generalize SrIpHdr.ipHl p = hl at hhl ⊢
  ext1
  · simp only
    split_ifs <;> first | omega | rfl | exact firstByte_load16 p 8
  · simp only
    split_ifs <;> first | omega | simp
  · simp only
    split_ifs <;> first | omega | simp [SrIpHdr.ipDst, load32_eq_ofHalves]
  · simp only
    split_ifs <;> first | omega | rfl

/-- The fields of a message whose destination has been translated. -/
lemma icmpSent_icmpDestined (p : ByteMem) (ip : UInt32) (id : UInt16) :
    icmpSent (icmpDestined p (ipHeaderLen p) ip id) (ipHeaderLen p) =
      icmpWithDestination p ip id := by
  have ho := ipHeaderLen_even p
  have hread := fun i hi hsum => @load16_icmpDestined p (ipHeaderLen p) i hi ho hsum ip id
  have hhl : ipHeaderLen p = SrIpHdr.ipHl p * 4 := rfl
  rw [icmpSent_eq, hread 8 (by decide) (by decide), hread 12 (by decide) (by decide),
    hread 14 (by decide) (by decide), hread 16 (by decide) (by decide),
    hread 18 (by decide) (by decide), hread _ (by omega) (by omega)]
  simp only [icmpWithDestination]
  generalize icmpChecksum _ _ = sum
  generalize ipHeaderLen p = o at hhl ⊢
  generalize SrIpHdr.ipHl p = hl at hhl ⊢
  ext1
  · simp only
    split_ifs <;> first | omega | rfl | exact firstByte_load16 p 8
  · simp only
    split_ifs <;> first | omega | simp [SrIpHdr.ipSrc, load32_eq_ofHalves]
  · simp only
    split_ifs <;> first | omega | simp
  · simp only
    split_ifs <;> first | omega | rfl

/-- The checksums of a segment are not among its first 8 bytes. -/
lemma tcpFilled_apply_of_lt (q : ByteMem) {o j : ℕ} (ho : 8 ≤ o) (hj : j < 8) :
    tcpFilled q len o j = q j := by
  simp (disch := omega) only [tcpFilled, SrIpHdr.setIpSum, SrTcpHdr.setChecksum,
    store16_apply_of_disjoint]

/-- Neither are its ports, if it starts behind them. -/
lemma tcpSourced_apply_of_lt (p : ByteMem) {o j : ℕ} (ho : 8 ≤ o) (hj : j < 8) (ip : UInt32)
    (port : UInt16) : tcpSourced p len o ip port j = p j := by
  rw [tcpSourced, tcpFilled_apply_of_lt _ ho hj, SrIpHdr.setIpSrc, SrTcpHdr.setSrcPort,
    store32_apply_of_disjoint (by omega), store16_apply_of_disjoint (by omega)]

/-- Neither are its ports, if it starts behind them. -/
lemma tcpDestined_apply_of_lt (p : ByteMem) {o j : ℕ} (ho : 8 ≤ o) (hj : j < 8) (ip : UInt32)
    (port : UInt16) : tcpDestined p len o ip port j = p j := by
  rw [tcpDestined, tcpFilled_apply_of_lt _ ho hj, SrIpHdr.setIpDst, SrTcpHdr.setDstPort,
    store32_apply_of_disjoint (by omega), store16_apply_of_disjoint (by omega)]

/-- The fields of a segment, by its 16-bit fields. -/
lemma tcpSent_eq (q : ByteMem) (o : ℕ) : tcpSent q o =
    ⟨firstByte (load16 q 8), ofHalves (load16 q 12) (load16 q 14),
      ofHalves (load16 q 16) (load16 q 18), load16 q o, load16 q (o + 2)⟩ := by
  rw [firstByte_load16]
  rfl

/-- What is sent of an accepted segment that is passed on as it is. -/
lemma tcpSent_kept (hok : Accepted p len) :
    tcpSent (decrementTtl p) (ipHeaderLen p) = (tcpSent p (ipHeaderLen p)).hop (SrIpHdr.ipHl p) :=
  tcpSent_hop hok (fun _ _ _ => rfl) rfl (by split_ifs <;> rfl)

/-- What is sent of an accepted segment whose checksums have been filled in. -/
lemma tcpSent_tcpFilled (hok : Accepted p len) :
    tcpSent (decrementTtl (tcpFilled p len (ipHeaderLen p))) (ipHeaderLen p) =
      (tcpWithSums p len).hop (SrIpHdr.ipHl p) := by
  have ho := ipHeaderLen_even p
  have hread := fun i hi hsum => @load16_tcpFilled p len (ipHeaderLen p) i hi ho hsum
  have hhl : ipHeaderLen p = SrIpHdr.ipHl p * 4 := rfl
  apply tcpSent_hop hok
  · exact fun htwo j hj => tcpFilled_apply_of_lt p (by omega) hj
  · rw [tcpSent_eq, hread 8 (by decide) (by decide), hread 12 (by decide) (by decide),
      hread 14 (by decide) (by decide), hread 16 (by decide) (by decide),
      hread 18 (by decide) (by decide), hread _ ho (by omega)]
    simp only [tcpWithSums]
    generalize tcpChecksum _ _ _ = sum
    generalize ipHeaderLen p = o at hhl ⊢
    generalize SrIpHdr.ipHl p = hl at hhl ⊢
    ext1
    · simp only
      split_ifs <;> first | omega | exact firstByte_load16 p 8
    · simp only
      split_ifs <;> first | omega | rfl
    · simp only
      split_ifs <;> first | omega | simp [SrIpHdr.ipDst, load32_eq_ofHalves]
    · simp only
      split_ifs <;> first | omega | rfl
    · rfl
  · split_ifs with htwo
    · rfl
    · exact (hread (ipHeaderLen p + 2) (by omega) (by omega)).trans (if_neg (by omega))

/-- What is sent of an accepted segment whose source has been translated. -/
lemma tcpSent_tcpSourced (hok : Accepted p len) (ip : UInt32) (port : UInt16) :
    tcpSent (decrementTtl (tcpSourced p len (ipHeaderLen p) ip port)) (ipHeaderLen p) =
      (tcpWithSource p len ip port).hop (SrIpHdr.ipHl p) := by
  have ho := ipHeaderLen_even p
  have hread := fun i hi hsum => @load16_tcpSourced p len (ipHeaderLen p) i hi ho hsum ip port
  have hhl : ipHeaderLen p = SrIpHdr.ipHl p * 4 := rfl
  apply tcpSent_hop hok
  · exact fun htwo j hj => tcpSourced_apply_of_lt p (by omega) hj ip port
  · rw [tcpSent_eq, hread 8 (by decide) (by decide), hread 12 (by decide) (by decide),
      hread 14 (by decide) (by decide), hread 16 (by decide) (by decide),
      hread 18 (by decide) (by decide), hread _ ho (by omega)]
    simp only [tcpWithSource]
    generalize tcpChecksum _ _ _ = sum
    generalize ipHeaderLen p = o at hhl ⊢
    generalize SrIpHdr.ipHl p = hl at hhl ⊢
    ext1
    · simp only
      split_ifs <;> first | omega | rfl | exact firstByte_load16 p 8
    · simp only
      split_ifs <;> first | omega | exact ofHalves_halves ip
    · simp only
      split_ifs <;> first | omega | simp [SrIpHdr.ipDst, load32_eq_ofHalves]
    · simp only
      split_ifs <;> first | omega | rfl
    · rfl
  · simp only [tcpWithSource]
    by_cases htwo : SrIpHdr.ipHl p = 2
    · rw [if_pos htwo, if_neg (by omega)]
    · unfold SrTcpHdr.dstPort
      rw [if_neg htwo, hread (ipHeaderLen p + 2) (by omega) (by omega)]
      split_ifs <;> first | omega | rfl

/-- What is sent of an accepted segment whose destination has been translated. -/
lemma tcpSent_tcpDestined (hok : Accepted p len) (ip : UInt32) (port : UInt16) :
    tcpSent (decrementTtl (tcpDestined p len (ipHeaderLen p) ip port)) (ipHeaderLen p) =
      (tcpWithDestination p len ip port).hop (SrIpHdr.ipHl p) := by
  have ho := ipHeaderLen_even p
  have hread := fun i hi hsum => @load16_tcpDestined p len (ipHeaderLen p) i hi ho hsum ip port
  have hhl : ipHeaderLen p = SrIpHdr.ipHl p * 4 := rfl
  apply tcpSent_hop hok
  · exact fun htwo j hj => tcpDestined_apply_of_lt p (by omega) hj ip port
  · rw [tcpSent_eq, hread 8 (by decide) (by decide), hread 12 (by decide) (by decide),
      hread 14 (by decide) (by decide), hread 16 (by decide) (by decide),
      hread 18 (by decide) (by decide), hread _ ho (by omega)]
    simp only [tcpWithDestination]
    generalize tcpChecksum _ _ _ = sum
    generalize ipHeaderLen p = o at hhl ⊢
    generalize SrIpHdr.ipHl p = hl at hhl ⊢
    ext1
    · simp only
      split_ifs <;> first | omega | exact firstByte_load16 p 8
    · simp only
      split_ifs <;> first | omega | simp [SrIpHdr.ipSrc, load32_eq_ofHalves]
    · simp only
      split_ifs <;> first | omega | simp
    · simp only
      split_ifs <;> first | omega | rfl
    · rfl
  · simp only [tcpWithDestination]
    by_cases htwo : SrIpHdr.ipHl p = 2
    · rw [if_pos htwo, if_pos htwo]
    · unfold SrTcpHdr.dstPort
      rw [if_neg htwo, if_neg htwo, hread (ipHeaderLen p + 2) (by omega) (by omega)]
      split_ifs <;> first | omega | rfl

end Kinds

/-! ### Complete headers -/

section Complete

variable {p : ByteMem} {len : UInt32} {hl : ℕ}

/-- Behind a complete header one hop changes the hops only. -/
lemma IcmpSent.hop_of_le (f : IcmpSent) (hhl : 5 ≤ hl) :
    f.hop hl = { f with ipTtl := f.ipTtl - 1 } := by
  rw [IcmpSent.hop, if_neg (by omega)]

/-- Behind a complete header one hop changes the hops only. -/
lemma TcpSent.hop_of_le (f : TcpSent) (hhl : 5 ≤ hl) :
    f.hop hl = { f with ipTtl := f.ipTtl - 1 } := by
  rw [TcpSent.hop, if_neg (by omega)]

/-- Behind a complete header the source of a message is translated and nothing else. -/
lemma icmpWithSource_of_le (hhl : 5 ≤ SrIpHdr.ipHl p) (ip : UInt32) (id : UInt16) :
    icmpWithSource p ip id = { icmpSent p (ipHeaderLen p) with ipSrc := ip, identifier := id } := by
  simp (disch := omega) only [icmpWithSource, if_neg]
  rfl

/-- Behind a complete header the destination of a message is translated and nothing else. -/
lemma icmpWithDestination_of_le (hhl : 5 ≤ SrIpHdr.ipHl p) (ip : UInt32) (id : UInt16) :
    icmpWithDestination p ip id =
      { icmpSent p (ipHeaderLen p) with ipDst := ip, identifier := id } := by
  simp (disch := omega) only [icmpWithDestination, if_neg]
  rfl

/-- Behind a complete header the source of a segment is translated and nothing else. -/
lemma tcpWithSource_of_le (hhl : 5 ≤ SrIpHdr.ipHl p) (ip : UInt32) (port : UInt16) :
    tcpWithSource p len ip port =
      { tcpSent p (ipHeaderLen p) with ipSrc := ip, srcPort := port } := by
  simp (disch := omega) only [tcpWithSource, if_neg]
  rfl

/-- Behind a complete header the destination of a segment is translated and nothing else. -/
lemma tcpWithDestination_of_le (hhl : 5 ≤ SrIpHdr.ipHl p) (ip : UInt32) (port : UInt16) :
    tcpWithDestination p len ip port =
      { tcpSent p (ipHeaderLen p) with ipDst := ip, dstPort := port } := by
  simp (disch := omega) only [tcpWithDestination, if_neg]
  rfl

end Complete

end NatRouter
