import NatRouter.Protocol

/-!
# The fields of a packet that the NAT reads and writes

`icmpFields` and `tcpFields` collect the header fields of a packet that decide where it goes.  The
writes of the router change one of these fields each, or none: the lemmas below compute the fields of
a rewritten packet, so that no later proof looks at the bytes of a header.
-/

namespace NatRouter

open ByteMemory

/-- The fields of an ICMP packet. -/
@[ext] structure IcmpFields where
  /-- `ip_hl`. -/
  ipHl : ℕ
  /-- `ip_ttl`. -/
  ipTtl : UInt8
  /-- `ip_p`. -/
  ipP : UInt8
  /-- `ip_src`. -/
  ipSrc : UInt32
  /-- `ip_dst`. -/
  ipDst : UInt32
  /-- `icmp_type`. -/
  icmpType : UInt8
  /-- `identifier`. -/
  identifier : UInt16

/-- The fields of a TCP packet. -/
@[ext] structure TcpFields where
  /-- `ip_hl`. -/
  ipHl : ℕ
  /-- `ip_ttl`. -/
  ipTtl : UInt8
  /-- `ip_p`. -/
  ipP : UInt8
  /-- `ip_src`. -/
  ipSrc : UInt32
  /-- `ip_dst`. -/
  ipDst : UInt32
  /-- `src_port`. -/
  srcPort : UInt16
  /-- `dst_port`. -/
  dstPort : UInt16

/-- The fields of the packet `p` with an ICMP header at offset `o`. -/
def icmpFields (p : ByteMem) (o : ℕ) : IcmpFields where
  ipHl := SrIpHdr.ipHl p
  ipTtl := SrIpHdr.ipTtl p
  ipP := SrIpHdr.ipP p
  ipSrc := SrIpHdr.ipSrc p
  ipDst := SrIpHdr.ipDst p
  icmpType := SrIcmpHdr.icmpType p o
  identifier := SrIcmpHdr.identifier p o

/-- The fields of the packet `p` with a TCP header at offset `o`. -/
def tcpFields (p : ByteMem) (o : ℕ) : TcpFields where
  ipHl := SrIpHdr.ipHl p
  ipTtl := SrIpHdr.ipTtl p
  ipP := SrIpHdr.ipP p
  ipSrc := SrIpHdr.ipSrc p
  ipDst := SrIpHdr.ipDst p
  srcPort := SrTcpHdr.srcPort p o
  dstPort := SrTcpHdr.dstPort p o

section Icmp

variable (p : ByteMem) {o : ℕ}

/-- `ip_sum` is none of the fields. -/
lemma icmpFields_setIpSum (ho : 20 ≤ o) (v : UInt16) :
    icmpFields (SrIpHdr.setIpSum p v) o = icmpFields p o := by
  simp (disch := omega) [icmpFields, SrIpHdr.setIpSum, SrIpHdr.ipHl, SrIpHdr.ipTtl, SrIpHdr.ipP,
    SrIpHdr.ipSrc, SrIpHdr.ipDst, SrIcmpHdr.icmpType, SrIcmpHdr.identifier,
    store16_apply_of_disjoint, load16_store16_of_disjoint, load32_store16_of_disjoint]

/-- `icmp_sum` is none of the fields. -/
lemma icmpFields_setIcmpSum (ho : 20 ≤ o) (v : UInt16) :
    icmpFields (SrIcmpHdr.setIcmpSum p o v) o = icmpFields p o := by
  simp (disch := omega) [icmpFields, SrIcmpHdr.setIcmpSum, SrIpHdr.ipHl, SrIpHdr.ipTtl, SrIpHdr.ipP,
    SrIpHdr.ipSrc, SrIpHdr.ipDst, SrIcmpHdr.icmpType, SrIcmpHdr.identifier,
    store16_apply_of_disjoint, load16_store16_of_disjoint, load32_store16_of_disjoint]

/-- Writing the time to live. -/
lemma icmpFields_setIpTtl (ho : 20 ≤ o) (v : UInt8) :
    icmpFields (SrIpHdr.setIpTtl p v) o = { icmpFields p o with ipTtl := v } := by
  simp (disch := omega) [icmpFields, SrIpHdr.setIpTtl, SrIpHdr.ipHl, SrIpHdr.ipTtl, SrIpHdr.ipP,
    SrIpHdr.ipSrc, SrIpHdr.ipDst, SrIcmpHdr.icmpType, SrIcmpHdr.identifier,
    store8_apply_of_ne, load16_store8_of_disjoint, load32_store8_of_disjoint]

/-- Writing the source address. -/
lemma icmpFields_setIpSrc (ho : 20 ≤ o) (v : UInt32) :
    icmpFields (SrIpHdr.setIpSrc p v) o = { icmpFields p o with ipSrc := v } := by
  simp (disch := omega) [icmpFields, SrIpHdr.setIpSrc, SrIpHdr.ipHl, SrIpHdr.ipTtl, SrIpHdr.ipP,
    SrIpHdr.ipSrc, SrIpHdr.ipDst, SrIcmpHdr.icmpType, SrIcmpHdr.identifier,
    store32_apply_of_disjoint, load16_store32_of_disjoint, load32_store32_of_disjoint]

/-- Writing the destination address. -/
lemma icmpFields_setIpDst (ho : 20 ≤ o) (v : UInt32) :
    icmpFields (SrIpHdr.setIpDst p v) o = { icmpFields p o with ipDst := v } := by
  simp (disch := omega) [icmpFields, SrIpHdr.setIpDst, SrIpHdr.ipHl, SrIpHdr.ipTtl, SrIpHdr.ipP,
    SrIpHdr.ipSrc, SrIpHdr.ipDst, SrIcmpHdr.icmpType, SrIcmpHdr.identifier,
    store32_apply_of_disjoint, load16_store32_of_disjoint, load32_store32_of_disjoint]

/-- Writing the identifier. -/
lemma icmpFields_setIdentifier (ho : 20 ≤ o) (v : UInt16) :
    icmpFields (SrIcmpHdr.setIdentifier p o v) o = { icmpFields p o with identifier := v } := by
  simp (disch := omega) [icmpFields, SrIcmpHdr.setIdentifier, SrIpHdr.ipHl, SrIpHdr.ipTtl,
    SrIpHdr.ipP, SrIpHdr.ipSrc, SrIpHdr.ipDst, SrIcmpHdr.icmpType, SrIcmpHdr.identifier,
    store16_apply_of_disjoint, load32_store16_of_disjoint]

end Icmp

section Tcp

variable (p : ByteMem) {o : ℕ}

/-- `ip_sum` is none of the fields. -/
lemma tcpFields_setIpSum (ho : 20 ≤ o) (v : UInt16) :
    tcpFields (SrIpHdr.setIpSum p v) o = tcpFields p o := by
  simp (disch := omega) [tcpFields, SrIpHdr.setIpSum, SrIpHdr.ipHl, SrIpHdr.ipTtl, SrIpHdr.ipP,
    SrIpHdr.ipSrc, SrIpHdr.ipDst, SrTcpHdr.srcPort, SrTcpHdr.dstPort, store16_apply_of_disjoint,
    load16_store16_of_disjoint, load32_store16_of_disjoint]

/-- The TCP checksum is none of the fields. -/
lemma tcpFields_setChecksum (ho : 20 ≤ o) (v : UInt16) :
    tcpFields (SrTcpHdr.setChecksum p o v) o = tcpFields p o := by
  simp (disch := omega) [tcpFields, SrTcpHdr.setChecksum, SrIpHdr.ipHl, SrIpHdr.ipTtl, SrIpHdr.ipP,
    SrIpHdr.ipSrc, SrIpHdr.ipDst, SrTcpHdr.srcPort, SrTcpHdr.dstPort, store16_apply_of_disjoint,
    load16_store16_of_disjoint, load32_store16_of_disjoint]

/-- Writing the time to live. -/
lemma tcpFields_setIpTtl (ho : 20 ≤ o) (v : UInt8) :
    tcpFields (SrIpHdr.setIpTtl p v) o = { tcpFields p o with ipTtl := v } := by
  simp (disch := omega) [tcpFields, SrIpHdr.setIpTtl, SrIpHdr.ipHl, SrIpHdr.ipTtl, SrIpHdr.ipP,
    SrIpHdr.ipSrc, SrIpHdr.ipDst, SrTcpHdr.srcPort, SrTcpHdr.dstPort, store8_apply_of_ne,
    load16_store8_of_disjoint, load32_store8_of_disjoint]

/-- Writing the source address. -/
lemma tcpFields_setIpSrc (ho : 20 ≤ o) (v : UInt32) :
    tcpFields (SrIpHdr.setIpSrc p v) o = { tcpFields p o with ipSrc := v } := by
  simp (disch := omega) [tcpFields, SrIpHdr.setIpSrc, SrIpHdr.ipHl, SrIpHdr.ipTtl, SrIpHdr.ipP,
    SrIpHdr.ipSrc, SrIpHdr.ipDst, SrTcpHdr.srcPort, SrTcpHdr.dstPort, store32_apply_of_disjoint,
    load16_store32_of_disjoint, load32_store32_of_disjoint]

/-- Writing the destination address. -/
lemma tcpFields_setIpDst (ho : 20 ≤ o) (v : UInt32) :
    tcpFields (SrIpHdr.setIpDst p v) o = { tcpFields p o with ipDst := v } := by
  simp (disch := omega) [tcpFields, SrIpHdr.setIpDst, SrIpHdr.ipHl, SrIpHdr.ipTtl, SrIpHdr.ipP,
    SrIpHdr.ipSrc, SrIpHdr.ipDst, SrTcpHdr.srcPort, SrTcpHdr.dstPort, store32_apply_of_disjoint,
    load16_store32_of_disjoint, load32_store32_of_disjoint]

/-- Writing the source port. -/
lemma tcpFields_setSrcPort (ho : 20 ≤ o) (v : UInt16) :
    tcpFields (SrTcpHdr.setSrcPort p o v) o = { tcpFields p o with srcPort := v } := by
  simp (disch := omega) [tcpFields, SrTcpHdr.setSrcPort, SrIpHdr.ipHl, SrIpHdr.ipTtl, SrIpHdr.ipP,
    SrIpHdr.ipSrc, SrIpHdr.ipDst, SrTcpHdr.srcPort, SrTcpHdr.dstPort, store16_apply_of_disjoint,
    load16_store16_of_disjoint, load32_store16_of_disjoint]

/-- Writing the destination port. -/
lemma tcpFields_setDstPort (ho : 20 ≤ o) (v : UInt16) :
    tcpFields (SrTcpHdr.setDstPort p o v) o = { tcpFields p o with dstPort := v } := by
  simp (disch := omega) [tcpFields, SrTcpHdr.setDstPort, SrIpHdr.ipHl, SrIpHdr.ipTtl, SrIpHdr.ipP,
    SrIpHdr.ipSrc, SrIpHdr.ipDst, SrTcpHdr.srcPort, SrTcpHdr.dstPort, store16_apply_of_disjoint,
    load16_store16_of_disjoint, load32_store16_of_disjoint]

end Tcp

/-! ### Copies -/

/-- A copy of the IP header has its source. -/
lemma ipSrc_copied {p junk : ByteMem} {len : ℕ} (h : 20 ≤ len) :
    SrIpHdr.ipSrc (copied p len junk) = SrIpHdr.ipSrc p := load32_copied (by omega)

/-- A copy of both headers has the fields of the packet. -/
lemma tcpFields_copied {p junk : ByteMem} {o len : ℕ} (hip : 20 ≤ len) (htcp : o + 4 ≤ len) :
    tcpFields (copied p len junk) o = tcpFields p o := by
  have hbyte : ∀ i < 20, copied p len junk i = p i := fun i hi => if_pos (Nat.lt_of_lt_of_le hi hip)
  simp (disch := omega) only [tcpFields, SrIpHdr.ipHl, SrIpHdr.ipTtl, SrIpHdr.ipP, SrIpHdr.ipSrc,
    SrIpHdr.ipDst, SrTcpHdr.srcPort, SrTcpHdr.dstPort, load16_copied, load32_copied, hbyte]

end NatRouter
