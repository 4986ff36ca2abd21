import NatRouter.Arp.Accounting
import NatRouter.Lib.LockOrder
import NatRouter.Router.Buffered

/-!
# The two locks (`nat->lock`, `cache->lock`)

The locks that the code takes and gives back, function by function.  Both are recursive.  A call of the
NAT holds `nat->lock`, and `sr_nat_insert_connection` and `sr_nat_update_connection` take it once more
inside; a call of the cache holds `cache->lock`.  A pass of `sr_nat_timeout` sends its messages with
`nat->lock` held, so it takes `cache->lock` inside; a pass of `sr_arpcache_timeout` holds `cache->lock`
and takes it once more.

No function takes `nat->lock` while it holds `cache->lock` alone.  Whatever the three threads do, in
whatever order, all can go on to their ends (`router_unlocked`).
-/

namespace NatRouter

open ByteMemory Interleaving LockOrder Relation

/-- The locks. -/
inductive RouterLock where
  /-- `nat->lock`. -/
  | nat
  /-- `cache->lock`. -/
  | cache
deriving DecidableEq

/-- The order in which they are taken. -/
def RouterLock.rank : RouterLock → ℕ
  | .nat => 0
  | .cache => 1

/-- The locks that are taken and given back, one after the other. -/
abbrev LockTrace := List (LockAction RouterLock)

/-! ### The functions -/

/-- A call of the NAT that returns `r`.  `sr_nat_insert_connection` calls
`sr_nat_remove_unsolicited_packet` when it has found a mapping, and `sr_nat_update_connection` calls
`sr_nat_insert_unsolicited_packet` when it has found no connection. -/
def NatCall.locks (c : NatCall) (r : c.Result) : LockTrace :=
  match c, r with
  | .insertConnection .., (r : Option SrNatConnection) =>
    critical .nat (if r.isSome then critical .nat [] else [])
  | .updateConnection .., (r : Option SrNatConnection) =>
    critical .nat (if r.isNone then critical .nat [] else [])
  | _, _ => critical .nat []

/-- What a program of NAT calls may take when it returns `a`, whatever the calls answer. -/
inductive ProgLocks {α : Type} (a : α) : NatProg α → LockTrace → Prop
  /-- It has returned. -/
  | ret : ProgLocks a (.ret a) []
  /-- A call, and what comes after it. -/
  | call {c : NatCall} {k : c.Result → NatProg α} (r : c.Result) {t : LockTrace}
      (hrest : ProgLocks a (k r) t) : ProgLocks a (.call c k) (c.locks r ++ t)

/-- A call of `sr_arpcache_lookup`, `sr_arpcache_queuereq`, `sr_arpcache_insert` or
`sr_arpreq_destroy`. -/
def cacheLocks : LockTrace := critical .cache []

/-- `sr_send_icmp`: the packet is put on the queue if the address is not in the cache. -/
def srSendIcmpLocks (sr : SrInstance) (packet : ByteMem) : LockTrace :=
  cacheLocks ++ if (srArpcacheLookup sr.cache (SrIpHdr.ipSrc packet)).isSome then [] else cacheLocks

/-- `sr_forward_ippacket`. -/
def srForwardIppacketLocks (sr : SrInstance) (packet : ByteMem) : LockTrace :=
  match srRtLookup sr.cfg.routingTable (SrIpHdr.ipDst packet) with
  | .ok (some lpm) =>
    cacheLocks ++ if (srArpcacheLookup sr.cache lpm.gw).isSome then [] else cacheLocks
  | .ok none => srSendIcmpLocks sr packet
  | .error _ => []

/-- What `sr_handle_ippacket` does once it has decided. -/
def performLocks (sr : SrInstance) : IpAction → LockTrace
  | .drop => []
  | .sendIcmp packet _ _ => srSendIcmpLocks sr packet
  | .forward packet => srForwardIppacketLocks sr packet

/-- `sr_handle_arp`: a request that is answered is destroyed. -/
def srHandleArpLocks (sr : SrInstance) (now : Time) (packet : ByteMem) : LockTrace :=
  if isEthernetIp packet then
    let arpType := ntohs (SrArpPacket.arOp packet)
    let answered := (srArpcacheInsert sr.cache now (SrArpPacket.arSha packet)
      (SrArpPacket.arSip packet)).1
    if arpType = arpOpRequest then cacheLocks
    else if arpType = arpOpReply then cacheLocks ++ if answered.isSome then cacheLocks else []
    else []
  else []

/-- Messages about some packets, one after the other; `sr n` is the state in which the message with
number `n` is made. -/
def messageLocks (sr : ℕ → SrInstance) (packets : List ByteMem) : LockTrace :=
  packets.zipIdx.flatMap fun (packet, n) => srSendIcmpLocks (sr n) packet

/-- A pass of `sr_nat_timeout` that reports packets. -/
def natTimeoutLocks (sr : ℕ → SrInstance) (reported : List SrNatUnsolPkt) : LockTrace :=
  critical .nat (messageLocks sr (reported.map SrNatUnsolPkt.ipPacket))

/-- `sr_handle_arpreq_queue`: a request that is given up is destroyed after the messages. -/
def srHandleArpreqQueueLocks (sr : ℕ → SrInstance) (now : Time) (req : SrArpreq) : LockTrace :=
  if srArpreqTo < now - req.sent then
    if srArpreqMax ≤ req.timesSent then messageLocks sr (req.packets.map SrPacket.buf) ++ cacheLocks
    else []
  else []

/-- A pass of `sr_arpcache_timeout` over requests, each with the states in which the messages about it
are made and the time. -/
def srArpcacheTimeoutLocks (visits : List ((ℕ → SrInstance) × Time × SrArpreq)) : LockTrace :=
  critical .cache (visits.flatMap fun (sr, now, req) => srHandleArpreqQueueLocks sr now req)

/-! ### The threads -/

/-- The threads. -/
inductive RouterThread where
  /-- The one that handles packets. -/
  | packets
  /-- The one of `sr_nat_timeout`. -/
  | natTimeout
  /-- The one of `sr_arpcache_timeout`. -/
  | arpTimeout
deriving DecidableEq

instance : Fintype RouterThread where
  elems := {.packets, .natTimeout, .arpTimeout}
  complete i := by cases i <;> decide

/-- What a thread may do in one go: handle one packet, or make one pass. -/
inductive ThreadWork (cfg : NetConfig) (natEnabled : Bool) : RouterThread → LockTrace → Prop
  /-- An IP packet. -/
  | ip {packet : ByteMem} {len : UInt32} {action : IpAction} {t : LockTrace} (sr : SrInstance)
      (hprog : ProgLocks action (ipAction cfg natEnabled packet len) t) :
      ThreadWork cfg natEnabled .packets (t ++ performLocks sr action)
  /-- An ARP packet. -/
  | arp (sr : SrInstance) (now : Time) (packet : ByteMem) :
      ThreadWork cfg natEnabled .packets (srHandleArpLocks sr now packet)
  /-- A pass over the NAT. -/
  | natTimeout (sr : ℕ → SrInstance) (reported : List SrNatUnsolPkt) :
      ThreadWork cfg natEnabled .natTimeout (natTimeoutLocks sr reported)
  /-- A pass over the cache. -/
  | arpTimeout (visits : List ((ℕ → SrInstance) × Time × SrArpreq)) :
      ThreadWork cfg natEnabled .arpTimeout (srArpcacheTimeoutLocks visits)

/-- A program that runs to its end has taken some locks. -/
lemma exists_progLocks {α : Type} {sem : Sem NatCall NatCall.Result SrNat} {P : NatProg α} {a : α}
    {nat nat' : SrNat} (h : P.Runs sem nat a nat') : ∃ t, ProgLocks a P t := by
  induction h with
  | ret => exact ⟨[], .ret⟩
  | call _ _ ih =>
    obtain ⟨t, ht⟩ := ih
    exact ⟨_, .call _ ht⟩

/-- **The handling of an IP packet is work of its thread**: it takes the locks of the NAT calls that it
makes, and then those of what was decided. -/
theorem threadWork_of_handled {ctx : Surroundings} {sr sr' : SrInstance} {packet : ByteMem}
    {len : UInt32} {interface : IfName}
    (h : srHandleIppacket ctx sr packet len interface = .ok sr') : ∃ nat action t,
      perform ctx { sr with nat := nat } len interface action = .ok sr' ∧
      ProgLocks action (ipAction sr.cfg sr.natEnabled packet len) t ∧
      ThreadWork sr.cfg sr.natEnabled .packets (t ++ performLocks { sr with nat := nat } action) := by
  unfold srHandleIppacket at h
  split at h
  · cases h
  · rename_i action nat hrun
    obtain ⟨t, ht⟩ := exists_progLocks (Prog.runs_of_run hrun)
    exact ⟨nat, action, t, h, ht, .ip _ ht⟩

/-- The states in which the messages of a pass over the NAT are made. -/
lemma exists_messageStates {ctx : Surroundings} {reported : List (SrNatUnsolPkt × SrRt)}
    {sr sr' : SrInstance} (h : sendReported ctx reported sr = .ok sr') : ∃ states : ℕ → SrInstance,
      states 0 = sr ∧ states reported.length = sr' ∧
      ∀ n curr lpm, reported[n]? = some (curr, lpm) →
        srSendIcmp ctx (states n) curr.ipPacket lpm.interface icmpTypeDstunreachable 3 =
          .ok (states (n + 1)) := by
  induction reported generalizing sr with
  | nil =>
    obtain rfl : sr = sr' := Except.ok.inj h
    exact ⟨fun _ => sr, rfl, rfl, fun n curr lpm hn => by cases hn⟩
  | cons message rest ih =>
    obtain ⟨sr₁, hsend, hrest⟩ := bind_eq_ok.mp h
    obtain ⟨states, hfirst, hlast, hnext⟩ := ih hrest
    refine ⟨fun n => n.casesOn sr states, rfl, hlast, fun n curr lpm hn => ?_⟩
    cases n with
    | zero =>
      obtain rfl : message = (curr, lpm) := Option.some.inj hn
      exact hsend.trans (congrArg Except.ok hfirst.symm)
    | succ n => exact hnext n curr lpm hn

/-- **A pass over the NAT is work of its thread**: it takes the locks of the messages that it sends,
each in the state in which it is sent. -/
theorem threadWork_of_natPass {cfg : NetConfig} {natEnabled : Bool} {ctx : Surroundings}
    {reported : List (SrNatUnsolPkt × SrRt)} {sr sr' : SrInstance}
    (h : sendReported ctx reported sr = .ok sr') : ∃ states : ℕ → SrInstance,
      states 0 = sr ∧ states reported.length = sr' ∧
      (∀ n curr lpm, reported[n]? = some (curr, lpm) →
        srSendIcmp ctx (states n) curr.ipPacket lpm.interface icmpTypeDstunreachable 3 =
          .ok (states (n + 1))) ∧
      ThreadWork cfg natEnabled .natTimeout (natTimeoutLocks states (reported.map Prod.fst)) := by
  obtain ⟨states, hfirst, hlast, hnext⟩ := exists_messageStates h
  exact ⟨states, hfirst, hlast, hnext, .natTimeout _ _⟩

/-- The threads before they take a lock. -/
def unlocked (todo : RouterThread → LockTrace) : RouterThread → LockThread RouterLock :=
  fun i => ⟨todo i, fun _ => 0⟩

/-! ### The order -/

/-- The locks are of different ranks. -/
lemma RouterLock.rank_injective : Function.Injective RouterLock.rank := by
  intro l l' h
  cases l <;> cases l' <;> first | rfl | cases h

/-- A call of the NAT takes its lock, and no other one. -/
lemma sections_natCall (c : NatCall) (r : c.Result) : Sections RouterLock.rank 0 (c.locks r) := by
  have honce : Sections RouterLock.rank 0 (critical RouterLock.nat []) :=
    .single (Nat.zero_le _) (.nil _)
  have hnested : ∀ b : Bool, Sections RouterLock.rank 0
      (critical RouterLock.nat (if b then critical RouterLock.nat [] else [])) := by
    intro b
    apply Sections.single (Nat.zero_le _)
    split
    · exact honce
    · exact .nil _
  cases c with
  | insertConnection => exact hnested _
  | updateConnection => exact hnested _
  | _ => exact honce

/-- So does a program of such calls. -/
lemma ProgLocks.sections {α : Type} {a : α} {P : NatProg α} {t : LockTrace} (h : ProgLocks a P t) :
    Sections RouterLock.rank 0 t := by
  induction h with
  | ret => exact .nil 0
  | call r _ ih => exact (sections_natCall _ r).append ih

/-- A call of the cache takes its lock. -/
lemma sections_cacheLocks : Sections RouterLock.rank 1 cacheLocks :=
  .single (Nat.le_refl 1) (.nil _)

/-- A call of the cache, and another one or none. -/
lemma sections_cacheLocks_append (b : Bool) :
    Sections RouterLock.rank 1 (cacheLocks ++ if b then [] else cacheLocks) := by
  apply sections_cacheLocks.append
  split
  · exact .nil 1
  · exact sections_cacheLocks

/-- `sr_send_icmp`. -/
lemma sections_srSendIcmp (sr : SrInstance) (packet : ByteMem) :
    Sections RouterLock.rank 1 (srSendIcmpLocks sr packet) :=
  sections_cacheLocks_append _

/-- What was decided. -/
lemma sections_perform (sr : SrInstance) (action : IpAction) :
    Sections RouterLock.rank 1 (performLocks sr action) := by
  cases action with
  | drop => exact .nil 1
  | sendIcmp packet => exact sections_srSendIcmp sr packet
  | forward packet =>
    rw [performLocks, srForwardIppacketLocks]
    split
    · exact sections_cacheLocks_append _
    · exact sections_srSendIcmp sr packet
    · exact .nil 1

/-- `sr_handle_arp`. -/
lemma sections_srHandleArp (sr : SrInstance) (now : Time) (packet : ByteMem) :
    Sections RouterLock.rank 1 (srHandleArpLocks sr now packet) := by
  dsimp only [srHandleArpLocks]
  split_ifs
  · exact sections_cacheLocks
  · exact sections_cacheLocks.append sections_cacheLocks
  · exact sections_cacheLocks.append (.nil 1)
  · exact .nil 1
  · exact .nil 1

/-- Messages. -/
lemma sections_messages (sr : ℕ → SrInstance) (packets : List ByteMem) :
    Sections RouterLock.rank 1 (messageLocks sr packets) :=
  Sections.flatMap fun _ _ => sections_srSendIcmp _ _

/-- `sr_handle_arpreq_queue`. -/
lemma sections_srHandleArpreqQueue (sr : ℕ → SrInstance) (now : Time) (req : SrArpreq) :
    Sections RouterLock.rank 1 (srHandleArpreqQueueLocks sr now req) := by
  unfold srHandleArpreqQueueLocks
  split_ifs
  · exact (sections_messages sr _).append sections_cacheLocks
  · exact .nil 1
  · exact .nil 1

/-- All that the threads do consists of critical sections in the order of the locks. -/
lemma ThreadWork.sections {cfg : NetConfig} {natEnabled : Bool} {i : RouterThread} {t : LockTrace}
    (h : ThreadWork cfg natEnabled i t) : Sections RouterLock.rank 0 t := by
  cases h with
  | ip sr hprog => exact hprog.sections.append ((sections_perform sr _).mono (Nat.zero_le 1))
  | arp sr now packet => exact (sections_srHandleArp sr now packet).mono (Nat.zero_le 1)
  | natTimeout sr reported =>
    apply Sections.single (Nat.zero_le _)
    exact (sections_messages sr _).mono (Nat.zero_le 1)
  | arpTimeout visits =>
    apply Sections.single (Nat.zero_le _)
    exact Sections.flatMap fun _ _ => sections_srHandleArpreqQueue _ _ _

/-- **The locks bring nothing to a halt**: however many packets are handled and passes are made, from
every state that the three threads come to they can go on until all is done and no lock is held. -/
theorem router_unlocked {cfg : NetConfig} {natEnabled : Bool} {todo : RouterThread → LockTrace}
    (hwork : ∀ i, Repeated (ThreadWork cfg natEnabled i) (todo i))
    {c : RouterThread → LockThread RouterLock} (hrun : ReflTransGen LockStep (unlocked todo) c) :
    ∃ c', ReflTransGen LockStep c c' ∧ ∀ i, (c' i).todo = [] ∧ ∀ l, (c' i).held l = 0 := by
  have hordered : ∀ i, Ordered RouterLock.rank (todo i) fun _ => 0 := fun i =>
    (Sections.repeated ThreadWork.sections (hwork i)).ordered RouterLock.rank_injective
  exact ((LockInv.initial hordered).steps hrun).ends

/-! ### Both passes at once -/

/-- What the threads do: an ARP request is handled, a pass of `sr_nat_timeout` reports a packet, and a
pass of `sr_arpcache_timeout` finds nothing on the queue. -/
def sweepingTodo : RouterThread → LockTrace
  | .packets => srHandleArpLocks freshRouter.1 0 arpRequestFromGateway ++ []
  | .natTimeout => natTimeoutLocks (fun _ => freshRouter.1) [callingPkt] ++ []
  | .arpTimeout => srArpcacheTimeoutLocks [] ++ []

/-- Both passes hold their locks, and the message of the first has to wait for the second. -/
def bothSweeping : RouterThread → LockThread RouterLock :=
  Function.update
    (Function.update (unlocked sweepingTodo) .natTimeout
      ⟨(sweepingTodo .natTimeout).tail, Function.update (fun _ => 0) .nat 1⟩)
    .arpTimeout ⟨(sweepingTodo .arpTimeout).tail, Function.update (fun _ => 0) .cache 1⟩

/-- Two steps lead there. -/
lemma steps_bothSweeping : ReflTransGen LockStep (unlocked sweepingTodo) bothSweeping := by
  have hnat : LockStep (unlocked sweepingTodo) _ :=
    .acquire (i := RouterThread.natTimeout) (l := RouterLock.nat) rfl fun _ _ => rfl
  refine .tail (.single hnat)
    (.acquire (i := RouterThread.arpTimeout) (l := RouterLock.cache) rfl fun j hj => ?_)
  cases j with
  | arpTimeout => exact absurd rfl hj
  | _ => rfl

/-- They go on to their ends. -/
theorem router_unlocked_bothSweeping : ∃ c', ReflTransGen LockStep bothSweeping c' ∧
    ∀ i, (c' i).todo = [] ∧ ∀ l, (c' i).held l = 0 := by
  have hwork : ∀ i, Repeated (ThreadWork twoSided true i) (sweepingTodo i)
    | .packets => .next (.arp _ _ _) .nil
    | .natTimeout => .next (.natTimeout _ _) .nil
    | .arpTimeout => .next (.arpTimeout _) .nil
  exact router_unlocked hwork steps_bothSweeping

end NatRouter
