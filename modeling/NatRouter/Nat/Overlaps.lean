import NatRouter.Nat.Rewriting

/-!
# Headers that overlap

With an `ip_hl` below 5 the header that a packet carries starts inside the IP header, and the fields
of the two share bytes.  All of them start at even offsets, so a rewritten packet is told by its
16-bit fields, of which every write of the handlers reaches one or two: the lemmas below say, for each
of the packets they return, which field holds what.  Only `ip_sum`, at offset 10, is left out, since it
is filled in last and again by whoever sends the packet.
-/

namespace NatRouter

open ByteMemory

variable {p : ByteMem} {len : UInt32} {o i : ℕ}

/-- The checksum of an ICMP message is one field. -/
lemma load16_icmpFilled (hi : i % 2 = 0) (ho : o % 2 = 0) (hsum : i ≠ 10) :
    load16 (icmpFilled p o) i = if i = o + 2 then icmpChecksum p o else load16 p i := by
  simp (disch := omega) only [icmpFilled, SrIpHdr.setIpSum, SrIcmpHdr.setIcmpSum,
    load16_store16_of_even, if_neg hsum]
  split_ifs <;> rfl

/-- A message with another source: where the source, the identifier and the checksum overlap, the
checksum comes last and the identifier first. -/
lemma load16_icmpSourced (hi : i % 2 = 0) (ho : o % 2 = 0) (hsum : i ≠ 10) (ip : UInt32)
    (identifier : UInt16) : load16 (icmpSourced p o ip identifier) i =
      if i = o + 2 then icmpChecksum (SrIpHdr.setIpSrc (SrIcmpHdr.setIdentifier p o identifier) ip) o
      else if i = 12 then firstHalf ip else if i = 14 then secondHalf ip
      else if i = o + 4 then identifier else load16 p i := by
  rw [icmpSourced, load16_icmpFilled hi ho hsum]
  simp (disch := omega) only [SrIpHdr.setIpSrc, SrIcmpHdr.setIdentifier, load16_store32_of_even,
    load16_store16_of_even, Nat.reduceAdd]

/-- A message with another destination. -/
lemma load16_icmpDestined (hi : i % 2 = 0) (ho : o % 2 = 0) (hsum : i ≠ 10) (ip : UInt32)
    (identifier : UInt16) : load16 (icmpDestined p o ip identifier) i =
      if i = o + 2 then icmpChecksum (SrIpHdr.setIpDst (SrIcmpHdr.setIdentifier p o identifier) ip) o
      else if i = 16 then firstHalf ip else if i = 18 then secondHalf ip
      else if i = o + 4 then identifier else load16 p i := by
  rw [icmpDestined, load16_icmpFilled hi ho hsum]
  simp (disch := omega) only [SrIpHdr.setIpDst, SrIcmpHdr.setIdentifier, load16_store32_of_even,
    load16_store16_of_even, Nat.reduceAdd]

/-- The checksum of a TCP segment is one field. -/
lemma load16_tcpFilled (hi : i % 2 = 0) (ho : o % 2 = 0) (hsum : i ≠ 10) :
    load16 (tcpFilled p len o) i = if i = o + 16 then tcpChecksum p len o else load16 p i := by
  simp (disch := omega) only [tcpFilled, SrIpHdr.setIpSum, SrTcpHdr.setChecksum,
    load16_store16_of_even, if_neg hsum]
  split_ifs <;> rfl

/-- A segment with another source. -/
lemma load16_tcpSourced (hi : i % 2 = 0) (ho : o % 2 = 0) (hsum : i ≠ 10) (ip : UInt32)
    (port : UInt16) : load16 (tcpSourced p len o ip port) i =
      if i = o + 16 then tcpChecksum (SrIpHdr.setIpSrc (SrTcpHdr.setSrcPort p o port) ip) len o
      else if i = 12 then firstHalf ip else if i = 14 then secondHalf ip
      else if i = o then port else load16 p i := by
  rw [tcpSourced, load16_tcpFilled hi ho hsum]
  simp (disch := omega) only [SrIpHdr.setIpSrc, SrTcpHdr.setSrcPort, load16_store32_of_even,
    load16_store16_of_even, Nat.reduceAdd]

/-- A segment with another destination. -/
lemma load16_tcpDestined (hi : i % 2 = 0) (ho : o % 2 = 0) (hsum : i ≠ 10) (ip : UInt32)
    (port : UInt16) : load16 (tcpDestined p len o ip port) i =
      if i = o + 16 then tcpChecksum (SrIpHdr.setIpDst (SrTcpHdr.setDstPort p o port) ip) len o
      else if i = 16 then firstHalf ip else if i = 18 then secondHalf ip
      else if i = o + 2 then port else load16 p i := by
  rw [tcpDestined, load16_tcpFilled hi ho hsum]
  simp (disch := omega) only [SrIpHdr.setIpDst, SrTcpHdr.setDstPort, load16_store32_of_even,
    load16_store16_of_even, Nat.reduceAdd]

/-- A header starts at an even offset. -/
lemma ipHeaderLen_even (p : ByteMem) : ipHeaderLen p % 2 = 0 := by
  unfold ipHeaderLen
  omega

end NatRouter
