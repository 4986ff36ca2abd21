import NatRouter.Arp.Broadcasts

/-!
# Requests that are given up

A request is asked for at most `SR_ARPREQ_MAX` times and then given up: the packets that wait on it
are reported to their senders, and it leaves the queue.  The messages go through the same queue.
One whose destination is not in the ARP cache waits on a request, and if the same sweep comes to
give up this request too, the message goes with it: that is so for the very request it is about, and
for those behind it on the queue.  In a sweep in which no message meets such a request (`SweepSafe`)
every message is sent, or waits when the sweep has ended (`SweepInv.sweep`).
-/

namespace NatRouter

open ByteMemory GroupedQueue Relation

instance (now : Time) (req : SrArpreq) : Decidable (GivesUp now req) :=
  inferInstanceAs (Decidable (_ ∧ _))

/-- The sweep loses no message: a packet on a request that is given up came in on an interface of
the router, and its sender is in the ARP cache, or neither this request nor one behind it that is
given up is for the address of the sender.  The other requests can be sent once more, if it is
time. -/
structure SweepSafe (clock : NodeId → Time × Time) (sr : SrInstance) : Prop where
  /-- The messages. -/
  messages : ∀ (before : List SrArpreq) (req : SrArpreq) (behind : List SrArpreq),
    sr.cache.requests = before ++ req :: behind → GivesUp (clock req.node).1 req →
    ∀ pkt ∈ req.packets, (∃ i, srGetInterface sr.cfg.ifList pkt.sender = some i) ∧
      (srArpcacheLookup sr.cache (SrIpHdr.ipSrc pkt.buf) = none →
        ∀ req' ∈ req :: behind, GivesUp (clock req'.node).1 req' → req'.ip ≠ SrIpHdr.ipSrc pkt.buf)
  /-- The other requests. -/
  others : ∀ req ∈ sr.cache.requests, ¬ GivesUp (clock req.node).1 req →
    Stays sr.cfg (clock req.node).1 req

/-- What the sweep does about one request. -/
inductive VisitEvents (sr : SrInstance) (now : Time) (req : SrArpreq) : List RouterEvent → Prop
  /-- It is not time yet. -/
  | rests (h : ¬ srArpreqTo < now - req.sent) : VisitEvents sr now req []
  /-- The address is asked for once more. -/
  | asks {iface : IfName} {i : SrIf} (hmax : req.timesSent < srArpreqMax)
      (hi : srGetInterface sr.cfg.ifList iface = some i) :
      VisitEvents sr now req [askEvent i iface req.ip]
  /-- For each packet on it one message is made, which is sent or put on the queue. -/
  | givesUp {outcomes : List RouterEvent} (h : GivesUp now req)
      (heach : List.Forall₂ (MessageOutcome sr) req.packets outcomes) :
      VisitEvents sr now req (reports req.packets outcomes ++ [.readFreed req.node])

/-- **The sweep from `sr` to `sr'` gives up completely**: it does what is to be done about each
request, the messages it has queued wait on requests that are on the queue in the end, and the
requests it has given up are not. -/
structure SweepComplete (clock : NodeId → Time × Time) (sr sr' : SrInstance) : Prop where
  /-- The requests, one after the other. -/
  visits : ∃ parts, List.Forall₂ (fun req => VisitEvents sr (clock req.node).1 req)
    sr.cache.requests parts ∧ sr'.log = sr.log ++ parts.flatten ∧
      queuedBy parts.flatten ≤ sr'.cache.waiting
  /-- Those that are given up. -/
  gone : ∀ req ∈ sr.cache.requests, GivesUp (clock req.node).1 req →
    req.node ∉ sr'.cache.requests.map SrArpreq.node

/-! ### One visit -/

section Visit

variable {ctx : Surroundings} {s s' mid : SrInstance} {now later : Time} {req : SrArpreq}

/-- A request is found by its node. -/
lemma SrArpcache.WellFormed.find?_node {cache : SrArpcache} (h : cache.WellFormed)
    (hreq : req ∈ cache.requests) :
    cache.requests.find? (fun r => r.node = req.node) = some req := by
  cases hfind : cache.requests.find? (fun r => r.node = req.node) with
  | none => exact absurd (decide_eq_true rfl) (List.find?_eq_none.mp hfind req hreq)
  | some r =>
    have hnode : r.node = req.node := by simpa using List.find?_some hfind
    rw [h.eq_of_node (List.mem_of_find?_eq_some hfind) hreq hnode]

/-- The requests that are left when one has been destroyed. -/
lemma SrArpcache.WellFormed.mem_destroy {cache : SrArpcache} (h : cache.WellFormed)
    {node : NodeId} :
    req ∈ (srArpreqDestroy cache node).requests ↔ req ∈ cache.requests ∧ req.node ≠ node := by
  have hfilter :
      (srArpreqDestroy cache node).requests = cache.requests.filter fun r => r.node ≠ node :=
    eraseP_key_eq_filter h.nodes node
  rw [hfilter, List.mem_filter, decide_eq_true_iff]

/-- A request whose time has not come is left alone. -/
lemma visitRequest_rests (hwf : s.cache.WellFormed) (hreq : req ∈ s.cache.requests)
    (hrests : ¬ srArpreqTo < now - req.sent) : visitRequest ctx now later req.node s = .ok s := by
  have hany : (s.cache.requests.any fun r => r.node = req.node) = true :=
    List.any_eq_true.mpr ⟨req, hreq, decide_eq_true rfl⟩
  simp only [visitRequest, srHandleArpreqQueue, hwf.find?_node hreq, if_neg hrests, bind,
    Except.bind, pure, Except.pure, hany, if_true]

/-- A request is sent once more. -/
lemma visitRequest_asks (hwf : s.cache.WellFormed) (hreq : req ∈ s.cache.requests)
    (hdue : srArpreqTo < now - req.sent) (hmax : req.timesSent < srArpreqMax) {head : SrPacket}
    {i : SrIf} (hhead : req.packets.head? = some head)
    (hi : srGetInterface s.cfg.ifList head.iface = some i) :
    visitRequest ctx now later req.node s =
      .ok { s.record [askEvent i head.iface req.ip] with
        cache := s.cache.touch req.node later } := by
  have hany : ((s.cache.touch req.node later).requests.any fun r => r.node = req.node) = true := by
    refine List.any_eq_true.mpr ⟨_, List.mem_map_of_mem hreq, ?_⟩
    rw [if_pos rfl]
    exact decide_eq_true rfl
  simp only [visitRequest, srHandleArpreqQueue, hwf.find?_node hreq, if_pos hdue,
    if_neg (Nat.not_le.mpr hmax), hhead, deref, srSendArp, hi, bind, Except.bind, pure, Except.pure,
    srSendPacket, SrInstance.record, hany, if_true]
  rfl

/-- A request is given up, and then read. -/
lemma visitRequest_givesUp (hwf : s.cache.WellFormed) (hreq : req ∈ s.cache.requests)
    (hgives : GivesUp now req) (hsend : sendUnreachable ctx req.packets s = .ok mid)
    (hmid : mid.cache.WellFormed) : visitRequest ctx now later req.node s =
      .ok ({ mid with cache := srArpreqDestroy mid.cache req.node }.record
        [.readFreed req.node]) := by
  have hany :
      ¬ ((srArpreqDestroy mid.cache req.node).requests.any fun r => r.node = req.node) = true := by
    intro hany
    obtain ⟨r, hr, hnode⟩ := List.any_eq_true.mp hany
    exact (hmid.mem_destroy.mp hr).2 (of_decide_eq_true hnode)
  simp only [visitRequest, srHandleArpreqQueue, hwf.find?_node hreq, if_pos hgives.1,
    if_pos hgives.2, hsend, bind, Except.bind, pure, Except.pure, if_neg hany]

end Visit

/-! ### The sweep -/

/-- The requests of a list that are not given up. -/
def keptRequests (clock : NodeId → Time × Time) (requests : List SrArpreq) : List SrArpreq :=
  requests.filter fun req => ¬ GivesUp (clock req.node).1 req

/-- What waits on some requests. -/
def waitingOn (requests : List SrArpreq) : Multiset (UInt32 × SrPacket) :=
  content SrArpreq.ip SrArpreq.packets requests

/-- Within a sweep of `sr`, when the requests `done` have been visited and `todo` are still to be,
and the events were those given. -/
structure SweepInv (clock : NodeId → Time × Time) (sr : SrInstance) (done todo : List SrArpreq)
    (events : List RouterEvent) (s : SrInstance) : Prop where
  /-- The interfaces and routes are the same. -/
  cfg : s.cfg = sr.cfg
  /-- So are the resolved addresses. -/
  entries : s.cache.entries = sr.cache.entries
  /-- The queue is well formed. -/
  wellFormed : s.cache.WellFormed
  /-- Allocations go on. -/
  nextNode : sr.cache.nextNode ≤ s.cache.nextNode
  /-- The entries of the log. -/
  log : s.log = sr.log ++ events
  /-- The packets that wait are those on the requests that were not given up, and the messages. -/
  waiting : s.cache.waiting = waitingOn (keptRequests clock done) + waitingOn todo + queuedBy events
  /-- A request that is to be visited is as it was, and a message waits on it only if it will not be
  given up. -/
  rest : ∀ req ∈ todo, ∃ front, { req with packets := front ++ req.packets } ∈ s.cache.requests ∧
    ∀ pkt ∈ front, ¬ GivesUp (clock req.node).1 req ∧
      ∃ i, srGetInterface sr.cfg.ifList pkt.iface = some i
  /-- No message waits for an address that will be given up. -/
  away : ∀ w ∈ queuedBy events, ∀ req ∈ todo, GivesUp (clock req.node).1 req → req.ip ≠ w.1
  /-- The requests that were given up are gone. -/
  gone : ∀ req ∈ done, GivesUp (clock req.node).1 req →
    req.node ∉ s.cache.requests.map SrArpreq.node

section Sweep

variable {ctx : Surroundings} {clock : NodeId → Time × Time} {sr s : SrInstance}
  {done todo : List SrArpreq} {events : List RouterEvent} {req : SrArpreq}

/-- The requests that are kept, with one more. -/
lemma keptRequests_append_of_not (h : ¬ GivesUp (clock req.node).1 req) :
    keptRequests clock (done ++ [req]) = keptRequests clock done ++ [req] := by
  simp [keptRequests, h]

/-- A request that is given up is not kept. -/
lemma keptRequests_append_of_givesUp (h : GivesUp (clock req.node).1 req) :
    keptRequests clock (done ++ [req]) = keptRequests clock done := by
  simp [keptRequests, h]

/-- A request passes from those to be visited to those that were. -/
lemma waitingOn_snoc : waitingOn (done ++ [req]) + waitingOn todo =
    waitingOn done + waitingOn (req :: todo) := by
  rw [← @List.singleton_append _ req todo]
  simp only [waitingOn, content_append, add_assoc]

/-- A request has an address and a node that no other request on the queue has. -/
lemma SrArpcache.WellFormed.not_mem_of_split {cache : SrArpcache} (h : cache.WellFormed)
    (hsplit : cache.requests = done ++ req :: todo) :
    (req.ip ∉ done.map SrArpreq.ip ∧ req.ip ∉ todo.map SrArpreq.ip) ∧
      req.node ∉ todo.map SrArpreq.node := by
  have hips := h.ips
  have hnodes := h.nodes
  rw [hsplit, List.map_append, List.map_cons, List.nodup_middle, List.nodup_cons, List.mem_append,
    not_or] at hips hnodes
  exact ⟨hips.1, hnodes.1.2⟩

/-- A request that is not given up leaves it at those that are gone. -/
lemma SweepInv.gone_snoc (hinv : SweepInv clock sr done (req :: todo) events s)
    (hnot : ¬ GivesUp (clock req.node).1 req) : ∀ req' ∈ done ++ [req],
      GivesUp (clock req'.node).1 req' → req'.node ∉ s.cache.requests.map SrArpreq.node := by
  intro req' hreq' hgives
  rcases List.mem_append.mp hreq' with hreq' | hreq'
  · exact hinv.gone req' hreq' hgives
  · obtain rfl := List.mem_singleton.mp hreq'
    exact absurd hgives hnot

/-- A request that rests. -/
lemma SweepInv.rests (hinv : SweepInv clock sr done (req :: todo) events s)
    (hrests : ¬ srArpreqTo < (clock req.node).1 - req.sent) :
    visitRequest ctx (clock req.node).1 (clock req.node).2 req.node s = .ok s ∧
      SweepInv clock sr (done ++ [req]) todo events s := by
  have hnot : ¬ GivesUp (clock req.node).1 req := fun hgives => hrests hgives.1
  obtain ⟨⟨front, hmem, -⟩, htodo⟩ := List.forall_mem_cons.mp hinv.rest
  have hvisit := @visitRequest_rests ctx s _ (clock req.node).2 _ hinv.wellFormed hmem hrests
  refine ⟨hvisit, hinv.cfg, hinv.entries, hinv.wellFormed,
    hinv.nextNode, hinv.log, ?_, htodo, ?_, hinv.gone_snoc hnot⟩
  · rw [hinv.waiting, keptRequests_append_of_not hnot, waitingOn_snoc]
  · exact fun w hw req' hreq' => hinv.away w hw req' (List.mem_cons_of_mem _ hreq')

/-- A request that is sent once more. -/
lemma SweepInv.asks (hinv : SweepInv clock sr done (req :: todo) events s)
    (hnodup : req.node ∉ todo.map SrArpreq.node) (hdue : srArpreqTo < (clock req.node).1 - req.sent)
    (hstays : Stays sr.cfg (clock req.node).1 req) : ∃ s' new,
      visitRequest ctx (clock req.node).1 (clock req.node).2 req.node s = .ok s' ∧
      VisitEvents sr (clock req.node).1 req new ∧
      SweepInv clock sr (done ++ [req]) todo (events ++ new) s' := by
  obtain ⟨hmax, pkt, i, hpkt, hi⟩ := hstays hdue
  have hnot : ¬ GivesUp (clock req.node).1 req := fun hgives => Nat.not_le.mpr hmax hgives.2
  obtain ⟨⟨front, hmem, hfront⟩, htodo⟩ := List.forall_mem_cons.mp hinv.rest
  -- the first packet may be a message, which goes out of an interface too
  obtain ⟨head, j, hhead, hj⟩ : ∃ head j, (front ++ req.packets).head? = some head ∧
      srGetInterface sr.cfg.ifList head.iface = some j := by
    cases front with
    | nil => exact ⟨pkt, i, hpkt, hi⟩
    | cons message front =>
      obtain ⟨-, j, hj⟩ := hfront message List.mem_cons_self
      exact ⟨message, j, rfl, hj⟩
  have hvisit := @visitRequest_asks ctx s _ (clock req.node).2 _ hinv.wellFormed hmem hdue hmax head
    j hhead
    (hinv.cfg ▸ hj)
  have hnodes : (s.cache.touch req.node (clock req.node).2).requests.map SrArpreq.node =
      s.cache.requests.map SrArpreq.node := by
    refine (List.map_map ..).trans (List.map_congr_left fun r _ => ?_)
    simp only [Function.comp_apply]
    split <;> rfl
  refine ⟨_, _, hvisit, .asks hmax hj, hinv.cfg, hinv.entries,
    hinv.wellFormed.touch req.node (clock req.node).2, hinv.nextNode, ?_, ?_, ?_, ?_, ?_⟩
  · simp only [SrInstance.record, hinv.log, List.append_assoc]
  · have hqueued : queuedBy (events ++ [askEvent j head.iface req.ip]) = queuedBy events :=
      (queuedBy_append ..).trans (add_zero _)
    refine (waiting_touch s.cache req.node (clock req.node).2).trans ?_
    rw [hinv.waiting, hqueued, keptRequests_append_of_not hnot, waitingOn_snoc]
  · intro req' hreq'
    obtain ⟨front', hmem', hfront'⟩ := htodo req' hreq'
    refine ⟨front', List.mem_map.mpr ⟨_, hmem', if_neg ?_⟩, hfront'⟩
    exact fun hnode => hnodup (List.mem_map.mpr ⟨req', hreq', hnode⟩)
  · intro w hw req' hreq'
    have hw' : w ∈ queuedBy events := by simpa [queuedBy, askEvent] using hw
    exact hinv.away w hw' req' (List.mem_cons_of_mem _ hreq')
  · rw [hnodes]
    exact hinv.gone_snoc hnot

/-- What the messages about some packets put on the queue waits for the senders of the packets. -/
lemma mem_queuedBy_reports {packets : List SrPacket} {outcomes : List RouterEvent}
    (heach : List.Forall₂ (MessageOutcome s) packets outcomes) {w : UInt32 × SrPacket}
    (hw : w ∈ queuedBy (reports packets outcomes)) :
    ∃ pkt ∈ packets, SrIpHdr.ipSrc pkt.buf = w.1 ∧ srArpcacheLookup s.cache w.1 = none := by
  induction heach with
  | nil => exact absurd hw (Multiset.notMem_zero w)
  | @cons pkt o packets outcomes ho _ ih =>
    have hsplit : queuedBy (reports (pkt :: packets) (o :: outcomes)) =
        queuedBy [o] + queuedBy (reports packets outcomes) := by
      rw [← queuedBy_append]
      rfl
    rw [hsplit] at hw
    rcases Multiset.mem_add.mp hw with hw | hw
    · cases ho with
      | sent => exact absurd hw (Multiset.notMem_zero w)
      | queued hi hmessage hlookup hcopy =>
        obtain rfl := Multiset.mem_singleton.mp hw
        exact ⟨pkt, List.mem_cons_self, rfl, hlookup⟩
    · obtain ⟨p, hp, hsrc⟩ := ih hw
      exact ⟨p, List.mem_cons_of_mem _ hp, hsrc⟩

/-- Requests with other addresses keep what waits on them. -/
lemma filter_waitingOn {requests : List SrArpreq} {ip : UInt32}
    (h : ip ∉ requests.map SrArpreq.ip) :
    (waitingOn requests).filter (fun w => w.1 ≠ ip) = waitingOn requests := by
  refine Multiset.filter_eq_self.mpr fun w hw => ?_
  obtain ⟨r, hr, hip, -⟩ := mem_content.mp hw
  rintro rfl
  exact h (List.mem_map.mpr ⟨r, hr, hip⟩)

/-- When a request leaves the queue, what waits on it goes, and nothing else. -/
lemma filter_waitingOn_split (hdone : req.ip ∉ done.map SrArpreq.ip)
    (htodo : req.ip ∉ todo.map SrArpreq.ip) :
    (waitingOn (keptRequests clock done) + waitingOn (req :: todo)).filter (fun w => w.1 ≠ req.ip) =
      waitingOn (keptRequests clock done) + waitingOn todo := by
  have hkept : req.ip ∉ (keptRequests clock done).map SrArpreq.ip := fun hin =>
    hdone ((List.filter_sublist.map SrArpreq.ip).subset hin)
  have hcons : ((req :: todo).filter fun r => r.ip ≠ req.ip) = todo.filter fun r => r.ip ≠ req.ip :=
    List.filter_cons_of_neg (by simp)
  have hself : (waitingOn (req :: todo)).filter (fun w => w.1 ≠ req.ip) = waitingOn todo := by
    rw [waitingOn, ← content_filter_key, hcons, content_filter_key]
    exact filter_waitingOn htodo
  rw [Multiset.filter_add, filter_waitingOn hkept, hself]

/-- The requests that were given up are gone when the messages about one more have been made and it
has been destroyed. -/
lemma SweepInv.gone_destroy {mid : SrInstance} {P : UInt32 → SrPacket → Prop}
    (hinv : SweepInv clock sr done (req :: todo) events s) (hwf : sr.cache.WellFormed)
    (hsplit : sr.cache.requests = done ++ req :: todo) (hgrown : Grown P s.cache mid.cache) :
    ∀ req' ∈ done ++ [req], GivesUp (clock req'.node).1 req' →
      req'.node ∉ (srArpreqDestroy mid.cache req.node).requests.map SrArpreq.node := by
  intro req' hreq' hgives hin
  obtain ⟨r, hr, hnode⟩ := List.mem_map.mp hin
  obtain ⟨hr, hne⟩ := hgrown.wellFormed.mem_destroy.mp hr
  rcases List.mem_append.mp hreq' with hreq' | hreq'
  · have hlt : r.node < s.cache.nextNode := by
      rw [hnode]
      refine Nat.lt_of_lt_of_le (hwf.lt req' ?_) hinv.nextNode
      exact hsplit ▸ List.mem_append_left _ hreq'
    obtain ⟨old, hold, hnode', -⟩ := hgrown.old r hr hlt
    exact hinv.gone req' hreq' hgives (List.mem_map.mpr ⟨old, hold, hnode'.symm.trans hnode⟩)
  · obtain rfl := List.mem_singleton.mp hreq'
    exact hne hnode

/-- A request that is given up: no message about its packets is lost with it or with one of those
behind it. -/
lemma SweepInv.givesUp (hinv : SweepInv clock sr done (req :: todo) events s)
    (hwf : sr.cache.WellFormed) (hsplit : sr.cache.requests = done ++ req :: todo)
    (hsafe : SweepSafe clock sr) (hgives : GivesUp (clock req.node).1 req) : ∃ s' new,
      visitRequest ctx (clock req.node).1 (clock req.node).2 req.node s = .ok s' ∧
      VisitEvents sr (clock req.node).1 req new ∧
      SweepInv clock sr (done ++ [req]) todo (events ++ new) s' := by
  have hmessages := hsafe.messages done req todo hsplit hgives
  obtain ⟨⟨front, hmem, hfront⟩, htodo⟩ := List.forall_mem_cons.mp hinv.rest
  obtain rfl : front = [] :=
    List.eq_nil_iff_forall_not_mem.mpr fun pkt hpkt => (hfront pkt hpkt).1 hgives
  obtain ⟨mid, hsend⟩ := @exists_sendUnreachable ctx req.packets s fun pkt hpkt =>
    hinv.cfg.symm ▸ (hmessages pkt hpkt).1
  obtain ⟨outcomes, hreported⟩ := sendUnreachable_reported hinv.wellFormed hsend
  have hmid := hreported.grown.wellFormed
  have hvisit := @visitRequest_givesUp ctx s mid _ (clock req.node).2 _ hinv.wellFormed hmem hgives
    hsend hmid
  obtain ⟨⟨hdone, hbehind⟩, hnodes⟩ := hwf.not_mem_of_split hsplit
  -- no message goes to a request that is given up
  have hother : ∀ req' ∈ req :: todo, GivesUp (clock req'.node).1 req' → ∀ ip pkt,
      pkt ∈ req.packets → SrIpHdr.ipSrc pkt.buf = ip → srArpcacheLookup s.cache ip = none →
      req'.ip ≠ ip := by
    rintro req' hreq' hgives' ip pkt hpkt rfl hlookup
    exact (hmessages pkt hpkt).2 ((srArpcacheLookup_congr hinv.entries _).symm.trans hlookup) req'
      hreq' hgives'
  have haway : ∀ w ∈ queuedBy events + queuedBy (reports req.packets outcomes),
      ∀ req' ∈ req :: todo, GivesUp (clock req'.node).1 req' → req'.ip ≠ w.1 := by
    intro w hw req' hreq' hgives'
    rcases Multiset.mem_add.mp hw with hw | hw
    · exact hinv.away w hw req' hreq' hgives'
    · obtain ⟨pkt, hpkt, hsrc, hlookup⟩ := mem_queuedBy_reports hreported.each hw
      exact hother req' hreq' hgives' w.1 pkt hpkt hsrc hlookup
  have hqueued : queuedBy (events ++ (reports req.packets outcomes ++ [.readFreed req.node])) =
      queuedBy events + queuedBy (reports req.packets outcomes) := by
    rw [queuedBy_append, queuedBy_append]
    exact congrArg _ (add_zero _)
  refine ⟨_, _, hvisit, .givesUp hgives (hreported.each.imp fun _ _ ho => ?_),
    hreported.cfg.trans hinv.cfg, hreported.grown.entries.trans hinv.entries, hmid.destroy req.node,
    Nat.le_trans hinv.nextNode hreported.grown.nextNode, ?_, ?_, ?_, ?_,
    hinv.gone_destroy hwf hsplit hreported.grown⟩
  · exact ho.congr hinv.cfg.symm hinv.entries.symm
  · simp only [SrInstance.record, hreported.log, hinv.log, List.append_assoc]
  · obtain ⟨front', hmem', -⟩ := hreported.grown.requests _ hmem
    have hmessages' : (queuedBy events + queuedBy (reports req.packets outcomes)).filter
        (fun w => w.1 ≠ req.ip) = queuedBy events + queuedBy (reports req.packets outcomes) :=
      Multiset.filter_eq_self.mpr fun w hw => (haway w hw req List.mem_cons_self hgives).symm
    refine (hmid.waiting_destroy hmem').trans ?_
    rw [hreported.waiting, hinv.waiting, add_assoc _ (queuedBy events), Multiset.filter_add,
      filter_waitingOn_split hdone hbehind, hmessages', hqueued,
      keptRequests_append_of_givesUp hgives]
  · intro req' hreq'
    obtain ⟨front₁, hmem₁, hfront₁⟩ := htodo req' hreq'
    obtain ⟨front₂, hmem₂, hfront₂⟩ := hreported.grown.requests _ hmem₁
    refine ⟨front₂ ++ front₁, hmid.mem_destroy.mpr ⟨by rw [List.append_assoc]; exact hmem₂, ?_⟩, ?_⟩
    · exact fun hnode => hnodes (List.mem_map.mpr ⟨req', hreq', hnode⟩)
    · intro pkt hpkt
      rcases List.mem_append.mp hpkt with hpkt | hpkt
      · obtain ⟨⟨p, hp, hsrc, hlookup⟩, i, hi⟩ := hfront₂ pkt hpkt
        refine ⟨fun hgives' => ?_, i, hinv.cfg ▸ hi⟩
        exact hother req' (List.mem_cons_of_mem _ hreq') hgives' _ p hp hsrc hlookup rfl
      · exact hfront₁ pkt hpkt
  · intro w hw req' hreq'
    exact haway w (hqueued ▸ hw) req' (List.mem_cons_of_mem _ hreq')

/-- **One visit** in a sweep that is safe. -/
lemma SweepInv.visit (hinv : SweepInv clock sr done (req :: todo) events s)
    (hwf : sr.cache.WellFormed) (hsplit : sr.cache.requests = done ++ req :: todo)
    (hsafe : SweepSafe clock sr) : ∃ s' new,
      visitRequest ctx (clock req.node).1 (clock req.node).2 req.node s = .ok s' ∧
      VisitEvents sr (clock req.node).1 req new ∧
      SweepInv clock sr (done ++ [req]) todo (events ++ new) s' := by
  by_cases hgives : GivesUp (clock req.node).1 req
  · exact hinv.givesUp hwf hsplit hsafe hgives
  · by_cases hdue : srArpreqTo < (clock req.node).1 - req.sent
    · have hmem : req ∈ sr.cache.requests := hsplit ▸ List.mem_append_right _ List.mem_cons_self
      exact hinv.asks (hwf.not_mem_of_split hsplit).2 hdue (hsafe.others req hmem hgives)
    · obtain ⟨hvisit, hinv'⟩ := hinv.rests hdue
      exact ⟨s, [], hvisit, .rests hdue, (List.append_nil events).symm ▸ hinv'⟩

/-- **The whole sweep**: it comes to its end, and what it has done is what it does about each
request. -/
theorem SweepInv.sweep (hinv : SweepInv clock sr done todo events s) (hwf : sr.cache.WellFormed)
    (hsplit : sr.cache.requests = done ++ todo) (hsafe : SweepSafe clock sr) : ∃ s' parts,
      sweepNodes ctx clock (todo.map SrArpreq.node) s = .ok s' ∧
      List.Forall₂ (fun req => VisitEvents sr (clock req.node).1 req) todo parts ∧
      SweepInv clock sr (done ++ todo) [] (events ++ parts.flatten) s' := by
  induction todo generalizing done events s with
  | nil =>
    refine ⟨s, [], rfl, .nil, ?_⟩
    rw [List.flatten_nil, List.append_nil, List.append_nil]
    exact hinv
  | cons req todo ih =>
    obtain ⟨s₁, new, hvisit, hnew, hinv₁⟩ := @SweepInv.visit ctx _ _ _ _ _ _ _ hinv hwf hsplit hsafe
    have hsplit₁ : sr.cache.requests = (done ++ [req]) ++ todo := by
      rw [hsplit, List.append_assoc, List.singleton_append]
    obtain ⟨s', parts, hsweep, hparts, hinv'⟩ := ih hinv₁ hsplit₁
    refine ⟨s', new :: parts, bind_eq_ok.mpr ⟨s₁, hvisit, hsweep⟩, .cons hnew hparts, ?_⟩
    rw [List.append_assoc, List.singleton_append, List.append_assoc, ← List.flatten_cons] at hinv'
    exact hinv'

/-- **A safe sweep gives up completely.** -/
theorem srArpcacheSweepreqs_complete (hwf : sr.cache.WellFormed) (hsafe : SweepSafe clock sr) :
    ∃ sr', srArpcacheSweepreqs ctx clock sr = .ok sr' ∧ SweepComplete clock sr sr' := by
  have hinit : SweepInv clock sr [] sr.cache.requests [] sr := by
    refine ⟨rfl, rfl, hwf, Nat.le_refl _, (List.append_nil _).symm, ?_, ?_, ?_, ?_⟩
    · simp [SrArpcache.waiting, waitingOn, keptRequests, content]
    · exact fun req hreq => ⟨[], hreq, fun pkt hpkt => absurd hpkt List.not_mem_nil⟩
    · exact fun w hw => absurd hw (Multiset.notMem_zero w)
    · exact fun req hreq => absurd hreq List.not_mem_nil
  obtain ⟨sr', parts, hsweep, hparts, hinv⟩ := @SweepInv.sweep ctx _ _ _ _ _ _ hinit hwf rfl hsafe
  refine ⟨sr', hsweep, ⟨parts, hparts, hinv.log, ?_⟩, hinv.gone⟩
  rw [hinv.waiting]
  exact Multiset.le_add_left _ _

end Sweep

end NatRouter
