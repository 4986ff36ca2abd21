import NatRouter.Nat.Execution
import NatRouter.Router.Instance

/-!
# What the sending functions do

The outcomes of `sr_send_arp`, `sr_send_icmp` and `sr_forward_ippacket`, when they return: which
entries they add to the log and what they put on the ARP queue.
-/

namespace NatRouter

open ByteMemory

/-- A sequence of steps succeeds if its steps do. -/
lemma bind_eq_ok {α β : Type} {x : Except Fault α} {f : α → Except Fault β} {b : β} :
    (x >>= f) = .ok b ↔ ∃ a, x = .ok a ∧ f a = .ok b := by
  cases x with
  | error e => simp [bind, Except.bind]
  | ok a => simp [bind, Except.bind]

/-- A pointer that was read through is not null. -/
lemma deref_eq_ok {α : Type} {x : Option α} {a : α} : deref x = .ok a ↔ x = some a := by
  cases x <;> simp [deref]

/-- The functions that send leave the NAT and the configuration alone. -/
structure Sends (sr sr' : SrInstance) : Prop where
  /-- The NAT is the same. -/
  nat : sr'.nat = sr.nat
  /-- So are the interfaces and routes. -/
  cfg : sr'.cfg = sr.cfg

section Effects

variable {ctx : Surroundings} {sr sr' : SrInstance} {packet : ByteMem} {len : UInt32}
  {interface : IfName}

/-- `sr_send_arp` sends one frame. -/
lemma srSendArp_cases {arpType : UInt16} {mac : Mac} {ip : UInt32}
    (h : srSendArp sr interface arpType mac ip = .ok sr') :
    ∃ frame, sr' = srSendPacket sr none frame (frameLen sizeofArpPacket) interface := by
  obtain ⟨i, -, h⟩ := bind_eq_ok.mp h
  exact ⟨_, (Except.ok.inj h).symm⟩

/-- **What `sr_send_icmp` does**: it sends the message, or queues it under its destination. -/
lemma srSendIcmp_cases {type code : UInt8}
    (h : srSendIcmp ctx sr packet interface type code = .ok sr') :
    ∃ loadLen ipPacket,
      icmpIppacket (srGetInterface sr.cfg.ifList interface) packet type code =
        .ok (loadLen, ipPacket) ∧
      ((∃ entry frame, srArpcacheLookup sr.cache (SrIpHdr.ipSrc packet) = some entry ∧
          sr' = srSendPacket (sr.record [.icmp packet interface type code]) none frame
            (frameLen loadLen) interface) ∨
        srArpcacheLookup sr.cache (SrIpHdr.ipSrc packet) = none ∧
          sr' = (sr.record [.icmp packet interface type code]).queuereq ctx.heap
            (SrIpHdr.ipSrc packet) ipPacket loadLen interface interface) := by
  obtain ⟨⟨loadLen, ipPacket⟩, hmessage, h⟩ := bind_eq_ok.mp h
  refine ⟨loadLen, ipPacket, hmessage, ?_⟩
  simp only [SrInstance.record] at h
  split at h
  · rename_i entry hlookup
    obtain ⟨i, -, h⟩ := bind_eq_ok.mp h
    exact .inl ⟨entry, _, hlookup, (Except.ok.inj h).symm⟩
  · rename_i hlookup
    exact .inr ⟨hlookup, (Except.ok.inj h).symm⟩

/-- A message that can be made can be sent. -/
lemma srSendIcmp_of_message {type code : UInt8} {i : SrIf} {message : UInt32 × ByteMem}
    (hi : srGetInterface sr.cfg.ifList interface = some i)
    (hmessage : icmpIppacket (some i) packet type code = .ok message) :
    ∃ sr', srSendIcmp ctx sr packet interface type code = .ok sr' := by
  have hi' : srGetInterface (sr.record [.icmp packet interface type code]).cfg.ifList interface =
      some i := hi
  unfold srSendIcmp
  simp only [hi', hmessage, bind, Except.bind]
  split
  · exact ⟨_, rfl⟩
  · exact ⟨_, rfl⟩

/-- An ICMP error can be sent out of every interface. -/
lemma srSendIcmp_of_interface {type code : UInt8} (htype : type ≠ icmpTypeEchoreply) {i : SrIf}
    (hi : srGetInterface sr.cfg.ifList interface = some i) :
    ∃ sr', srSendIcmp ctx sr packet interface type code = .ok sr' := by
  obtain ⟨message, hmessage⟩ : ∃ message, icmpIppacket (some i) packet type code = .ok message := by
    simp [icmpIppacket, srCreateIcmppacket, icmpContent, icmpSourceIp, htype, bind, Except.bind,
      pure, Except.pure]
  exact srSendIcmp_of_message hi hmessage

/-- The source of an ICMP error is the address of an interface. -/
lemma interface_of_icmpIppacket {interfaceInfo : Option SrIf} {type code : UInt8}
    {message : UInt32 × ByteMem} (htype : type ≠ icmpTypeEchoreply)
    (h : icmpIppacket interfaceInfo packet type code = .ok message) : ∃ i, interfaceInfo = some i := by
  obtain ⟨icmpPacket, -, h⟩ := bind_eq_ok.mp h
  obtain ⟨sourceIp, hsource, -⟩ := bind_eq_ok.mp h
  simp only [icmpSourceIp, if_neg htype] at hsource
  split at hsource
  · exact ⟨_, rfl⟩
  · cases hsource

/-- The length of an ICMP error. -/
lemma icmpIppacket_len {interfaceInfo : Option SrIf} {type code : UInt8} {loadLen : UInt32}
    {ipPacket : ByteMem} (htype : type ≠ icmpTypeEchoreply)
    (h : icmpIppacket interfaceInfo packet type code = .ok (loadLen, ipPacket)) : loadLen = 56 := by
  obtain ⟨icmpPacket, hcontent, h⟩ := bind_eq_ok.mp h
  obtain ⟨sourceIp, -, h⟩ := bind_eq_ok.mp h
  simp only [srCreateIcmppacket, icmpContent, if_pos htype] at hcontent
  cases hcontent
  cases h
  rfl

/-! ### Forwarding -/

/-- A packet whose next hop is known is sent. -/
lemma srForwardIppacket_hit {lpm : SrRt} {entry : SrArpentry} {i : SrIf}
    (hroute : srRtLookup sr.cfg.routingTable (SrIpHdr.ipDst packet) = .ok (some lpm))
    (hhit : srArpcacheLookup sr.cache lpm.gw = some entry)
    (hi : srGetInterface sr.cfg.ifList lpm.interface = some i) :
    srForwardIppacket ctx sr packet len interface =
      .ok (srSendPacket (sr.record [.forward (decrementTtl packet) len lpm]) none
        (srCreateEtherframe len (decrementTtl packet) entry.mac i.addr ethertypeIp) (frameLen len)
        lpm.interface) := by
  unfold srForwardIppacket
  rw [hroute]
  simp only [bind, Except.bind, hhit, hi, deref]
  rfl

/-- A packet whose next hop is not known has to wait for its address. -/
lemma srForwardIppacket_miss {lpm : SrRt}
    (hroute : srRtLookup sr.cfg.routingTable (SrIpHdr.ipDst packet) = .ok (some lpm))
    (hmiss : srArpcacheLookup sr.cache lpm.gw = none) :
    srForwardIppacket ctx sr packet len interface =
      .ok ((sr.record [.forward (decrementTtl packet) len lpm]).queuereq ctx.heap lpm.gw
        (decrementTtl packet) len lpm.interface interface) := by
  unfold srForwardIppacket
  rw [hroute]
  simp only [bind, Except.bind, hmiss]
  rfl

/-- **What `sr_forward_ippacket` does**: it makes a message, if there is no route; else it sends the
packet with one hop less to live, or queues it under its next hop. -/
lemma srForwardIppacket_cases (h : srForwardIppacket ctx sr packet len interface = .ok sr') :
    (srRtLookup sr.cfg.routingTable (SrIpHdr.ipDst packet) = .ok none ∧
        srSendIcmp ctx sr packet interface icmpTypeDstunreachable 0 = .ok sr') ∨
      ∃ lpm, srRtLookup sr.cfg.routingTable (SrIpHdr.ipDst packet) = .ok (some lpm) ∧
        ((∃ i frame, srGetInterface sr.cfg.ifList lpm.interface = some i ∧
            sr' = srSendPacket (sr.record [.forward (decrementTtl packet) len lpm]) none frame
              (frameLen len) lpm.interface) ∨
          srArpcacheLookup sr.cache lpm.gw = none ∧
            sr' = (sr.record [.forward (decrementTtl packet) len lpm]).queuereq ctx.heap lpm.gw
              (decrementTtl packet) len lpm.interface interface) := by
  obtain ⟨r, hroute, hrest⟩ := bind_eq_ok.mp h
  cases r with
  | none => exact .inl ⟨hroute, hrest⟩
  | some lpm =>
    refine .inr ⟨lpm, hroute, ?_⟩
    cases hlookup : srArpcacheLookup sr.cache lpm.gw with
    | none => exact .inr ⟨rfl, Except.ok.inj (h.symm.trans (srForwardIppacket_miss hroute hlookup))⟩
    | some entry =>
      simp only [hlookup] at hrest
      obtain ⟨i, hi, hrest⟩ := bind_eq_ok.mp hrest
      exact .inl ⟨i, _, deref_eq_ok.mp hi, (Except.ok.inj hrest).symm⟩

/-! ### What is left alone -/

/-- One after the other. -/
lemma Sends.trans {sr'' : SrInstance} (h : Sends sr sr') (h' : Sends sr' sr'') : Sends sr sr'' :=
  ⟨h'.nat.trans h.nat, h'.cfg.trans h.cfg⟩

/-- `sr_send_icmp` sends. -/
lemma sends_srSendIcmp {type code : UInt8}
    (h : srSendIcmp ctx sr packet interface type code = .ok sr') : Sends sr sr' := by
  obtain ⟨loadLen, ipPacket, -, ⟨entry, frame, -, rfl⟩ | ⟨-, rfl⟩⟩ := srSendIcmp_cases h
  · exact ⟨rfl, rfl⟩
  · exact ⟨rfl, rfl⟩

/-- `sr_forward_ippacket` sends. -/
lemma sends_srForwardIppacket (h : srForwardIppacket ctx sr packet len interface = .ok sr') :
    Sends sr sr' := by
  obtain ⟨-, hsend⟩ | ⟨lpm, -, ⟨i, frame, -, rfl⟩ | ⟨-, rfl⟩⟩ := srForwardIppacket_cases h
  · exact sends_srSendIcmp hsend
  · exact ⟨rfl, rfl⟩
  · exact ⟨rfl, rfl⟩

end Effects

/-- Surroundings in which new memory holds zeros and the clock stands still. -/
def quietSurroundings : Surroundings := ⟨fun _ _ => 0, quiet⟩

end NatRouter
