import Liteway.Daemon.Duel

/-!
# A simultaneous open settles on one session

As long as nothing moves either end once the lower node has settled, and it settles on
the session that the higher one has, both hold the same session.
-/

namespace Liteway.Daemon

open Liteway.Library Liteway.Core

namespace Duel

variable {lib : Primitives} {duel : Duel lib}

/-! ## Whole runs -/

theorem consistent_step (hlib : lib.Correct) (hopens : duel.Opens) (s : DuelState)
    (delivery : Delivery) (h : duel.Consistent s)
    (hguard : s.Sent delivery ∧ duel.InTime s delivery) :
    duel.Consistent (duel.step s delivery) := by
  obtain ⟨hsent, htime⟩ := hguard
  cases delivery with
  | toLower env src packet =>
      obtain rfl | ⟨response, hanswer, rfl⟩ := h.answers packet hsent
      · exact consistent_higher_request hlib hopens h htime
      · exact consistent_lower_reply hlib hopens h hanswer htime
  | toHigher env src packet =>
      obtain rfl | hreply := h.replies packet hsent
      · exact consistent_lower_request hlib hopens h htime
      · exact consistent_higher_reply hlib hopens h hreply

/-- Two nodes that dial each other settle on one session, whatever the network
does to their messages, as long as every delivery is in time. -/
theorem simultaneous_open_agrees (hlib : lib.Correct) (hopens : duel.Opens)
    {deliveries : List Delivery}
    (hrun : Guarded duel.step (fun s delivery => s.Sent delivery ∧ duel.InTime s delivery)
      duel.start deliveries)
    (hanswered : duel.Answered deliveries (runAll duel.step duel.start deliveries)) :
    duel.Agreed (runAll duel.step duel.start deliveries) := by
  have hconsistent := guarded_invariant (consistent_step hlib hopens) (consistent_start hopens) hrun
  obtain hundecided | ⟨response, hdecided⟩ := hconsistent.decision
  · exact absurd hundecided.dialling (by simp [hanswered.lower])
  obtain hdialling | ⟨entry, hentry, hhalf⟩ := hdecided.lower
  · exact absurd hdialling (by simp [hanswered.lower])
  obtain ⟨entry', hentry', hhalf', -⟩ := hdecided.higher
  exact ⟨_, _, _, entry, entry', hentry, hentry', hhalf, hhalf'⟩

end Duel

/-! ## Four deliveries -/

namespace Duel

variable {lib : Primitives} {duel : Duel lib}

/-- The draws and the clock of each node while all messages get through. -/
structure Conditions where
  lower : Env
  higher : Env
  src : SocketAddr

def lowerReply (duel : Duel lib) (c : Conditions) : ByteString :=
  (duel.lower.answerBy duel.higher.node c.higher).msg

def higherReply (duel : Duel lib) (c : Conditions) : ByteString :=
  (duel.higher.answerBy duel.lower.node c.lower).msg

/-- Certificates and clocks are good, and the answers leave. -/
structure Fair (duel : Duel lib) (c : Conditions) : Prop where
  lower : Dial.Vouched duel.lower.node duel.higher.node c.higher.unixTime
  higher : Dial.Vouched duel.higher.node duel.lower.node c.lower.unixTime
  lowerClock : timestampValid duel.lower.env.unixTime c.higher.unixTime
  higherClock : timestampValid duel.higher.env.unixTime c.lower.unixTime
  sameClock : c.lower.unixTime = c.higher.unixTime
  lowerLeaves : leaves duel.higher.node c.higher (duel.lowerReply c) = true
  higherLeaves : leaves duel.lower.node c.lower (duel.higherReply c) = true

theorem timestampValid_self (now : UInt64) : timestampValid now now := by
  have hbound := now.toNat_lt
  constructor
  · omega
  · omega

/-- The lower node's handshake is over before the other request arrives. -/
def late (duel : Duel lib) (c : Conditions) : List Delivery :=
  [.toHigher c.higher c.src duel.lower.initiate.msg, .toLower c.lower c.src (duel.lowerReply c),
    .toLower c.lower c.src duel.higher.initiate.msg, .toHigher c.higher c.src (duel.higherReply c)]

/-- Both requests arrive before either is answered. -/
def crossing (duel : Duel lib) (c : Conditions) : List Delivery :=
  [.toHigher c.higher c.src duel.lower.initiate.msg,
    .toLower c.lower c.src duel.higher.initiate.msg, .toLower c.lower c.src (duel.lowerReply c),
    .toHigher c.higher c.src (duel.higherReply c)]

section Fair

variable {c : Conditions}

theorem step_toLower {s : DuelState} {env : Env} (src : SocketAddr) {packet : ByteString}
    {sent : List ByteString} (hsent : sentAnswer duel.lower.node env s.lower packet = sent) :
    duel.step s (.toLower env src packet) =
      { s with
        lower := (handlePacket duel.lower.node env s.lower src packet).1
        toHigher := s.toHigher ++ sent } := by
  rw [← hsent]
  rfl

theorem step_toHigher {s : DuelState} {env : Env} (src : SocketAddr) {packet : ByteString}
    {sent : List ByteString} {chosen : Option ByteString}
    (hsent : sentAnswer duel.higher.node env s.higher packet = sent)
    (hchosen : (if packet = duel.lower.initiate.msg then
      (takenAnswer duel.higher.node env s.higher src packet).or s.chosen else s.chosen) = chosen) :
    duel.step s (.toHigher env src packet) =
      { s with
        higher := (handlePacket duel.higher.node env s.higher src packet).1
        toLower := s.toLower ++ sent
        chosen := chosen } := by
  rw [← hsent, ← hchosen]
  rfl

theorem answer_ne_request (hlib : lib.Correct) (dial dial' : Dial lib) (env : Env) :
    (dial'.answerBy dial.node env).msg ≠ dial.initiate.msg := by
  intro heq
  have hreply : networkHeader lib (dial'.answerBy dial.node env).msg dial.node.networkKey =
      some _ := networkHeader_respond hlib _ _ _ _ _ _ _ _
  have hrequest : networkHeader lib dial.initiate.msg dial.node.networkKey = some _ :=
    networkHeader_createHandshake1 hlib _ _ _ _ _ _
  rw [heq, hrequest] at hreply
  exact absurd (congrArg NetworkHeader.kind (Option.some.inj hreply))
    (show ¬ kindHandshake1 = kindHandshake2 by decide)

theorem step_lower_request (hlib : lib.Correct) (hopens : duel.Opens) (hfair : duel.Fair c)
    {s : DuelState} (hnew : s.higher.handshakeCache.entries.lookup
      (lib.blake3Hash duel.lower.initiate.msg) = none)
    (habsent : s.higher.peers.lookup duel.lowerId = none) :
    ∃ higher entry, duel.step s (.toHigher c.higher c.src duel.lower.initiate.msg) =
        { s with
          higher := higher
          toLower := s.toLower ++ [duel.lowerReply c]
          chosen := some (duel.lowerReply c) } ∧
      higher.pending = s.higher.pending ∧ higher.peers.lookup duel.lowerId = some entry ∧
      entry.txSessionId = duel.lower.sessionId ∧ entry.handshakeInitiatorId = duel.lowerId := by
  obtain ⟨hstate, hsent⟩ := Dial.handlePacket_request hlib c.src hfair.lower hfair.lowerClock
    (UInt32.ne_of_lt hopens.ids) hnew hfair.lowerLeaves
  have haccept : acceptsSession duel.higher.node (responseSession lib s.higher c.src
      (duel.lower.answerBy duel.higher.node c.higher)) s.higher.peers = true :=
    acceptsSession_of_absent habsent
  have hentry := lookup_installResponse c.higher (lib.blake3Hash duel.lower.initiate.msg) haccept
  rw [← hstate] at hentry
  have hcache : s.higher.handshakeCache.get (lib.blake3Hash duel.lower.initiate.msg) c.higher.now =
      none := by
    unfold HandshakeCache.get
    rw [hnew]
    rfl
  have hchosen : takenAnswer duel.higher.node c.higher s.higher c.src duel.lower.initiate.msg =
      some (duel.lowerReply c) := by
    rw [takenAnswer_of_processed c.src hcache
      (Dial.processHandshake1_of_vouched hlib hfair.lower hfair.lowerClock)
      (UInt32.ne_of_lt hopens.ids)]
    exact if_pos haccept
  refine ⟨_, _, step_toHigher c.src hsent ?_, ?_, hentry, rfl, rfl⟩
  · rw [if_pos rfl, hchosen]
    rfl
  rw [hstate]
  exact installResponse_pending c.higher s.higher c.src _ _

theorem step_higher_request (hlib : lib.Correct) (hopens : duel.Opens) (hfair : duel.Fair c)
    {s : DuelState} (hnew : s.lower.handshakeCache.entries.lookup
      (lib.blake3Hash duel.higher.initiate.msg) = none) :
    ∃ lower, duel.step s (.toLower c.lower c.src duel.higher.initiate.msg) =
        { s with lower := lower, toHigher := s.toHigher ++ [duel.higherReply c] } ∧
      lower.pending = s.lower.pending ∧
      (dialling s.lower duel.higherId = false →
        ∃ entry, lower.peers.lookup duel.higherId = some entry ∧
          entry.rxSessionId = (c.lower.rand []).responder.rxSessionId.value) := by
  obtain ⟨hstate, hsent⟩ := Dial.handlePacket_request hlib c.src hfair.higher hfair.higherClock
    (UInt32.ne_of_lt hopens.ids).symm hnew hfair.higherLeaves
  refine ⟨_, step_toLower c.src hsent, ?_, fun hover => ?_⟩
  · rw [hstate]
    exact installResponse_pending c.lower s.lower c.src _ _
  · have haccept : acceptsSession duel.lower.node (responseSession lib s.lower c.src
        (duel.higher.answerBy duel.lower.node c.lower)) s.lower.peers = true :=
      acceptsSession_of_not_simultaneous hover
    have hentry := lookup_installResponse c.lower (lib.blake3Hash duel.higher.initiate.msg) haccept
    rw [← hstate] at hentry
    exact ⟨_, hentry, rfl⟩

theorem step_lower_reply (hlib : lib.Correct) (hfair : duel.Fair c) {s : DuelState}
    (hpending : s.lower.pending.lookup duel.lower.sessionId =
      some (duel.lower.pending duel.higherId)) :
    ∃ lower, duel.step s (.toLower c.lower c.src (duel.lowerReply c)) = { s with lower := lower } ∧
      lower.pending = s.lower.pending.erase duel.lower.sessionId ∧
      lower.handshakeCache = s.lower.handshakeCache := by
  have hclock : timestampValid c.higher.unixTime c.lower.unixTime :=
    hfair.sameClock ▸ timestampValid_self _
  obtain ⟨result, -, hstate, hsent⟩ := Dial.handlePacket_answer hlib c.src hfair.lower.network
    hfair.higher hclock hpending
  have hstep := step_toLower c.src hsent
  rw [List.append_nil] at hstep
  refine ⟨_, hstep, ?_, ?_⟩
  · rw [hstate]
    exact addPeer_pending _ _ _
  · rw [hstate]
    exact addPeer_handshakeCache _ _ _

theorem step_higher_reply (hlib : lib.Correct) (hopens : duel.Opens) (hfair : duel.Fair c)
    {s : DuelState} (hpending : s.higher.pending.lookup duel.higher.sessionId =
      some (duel.higher.pending duel.lowerId)) :
    ∃ higher, duel.step s (.toHigher c.higher c.src (duel.higherReply c)) =
        { s with higher := higher } ∧
      higher.pending = s.higher.pending.erase duel.higher.sessionId ∧
      ∀ entry, s.higher.peers.lookup duel.lowerId = some entry →
        entry.handshakeInitiatorId = duel.lowerId →
        higher.peers.lookup duel.lowerId = some entry := by
  have hclock : timestampValid c.lower.unixTime c.higher.unixTime :=
    hfair.sameClock ▸ timestampValid_self _
  obtain ⟨result, -, hstate, hsent⟩ := Dial.handlePacket_answer hlib c.src hfair.higher.network
    hfair.lower hclock hpending
  have hstep := step_toHigher c.src hsent 
    (if_neg (answer_ne_request hlib duel.lower duel.higher c.lower))
  rw [List.append_nil] at hstep
  refine ⟨_, hstep, ?_, fun entry hentry hinitiator => ?_⟩
  · rw [hstate]
    exact addPeer_pending _ _ _
  · have hheader : networkHeader lib (duel.higherReply c) duel.higher.node.networkKey =
        some { kind := kindHandshake2, fragIndex := 0, fragTotal := 0, dstPeerId := 0,
               sessionId := duel.higher.sessionId } := by
      rw [hfair.higher.network]
      exact networkHeader_respond hlib _ _ _ _ _ _ _ _
    exact higher_keeps hopens (replyOutcome c.higher s.higher c.src hheader rfl) hentry hinitiator

theorem start_new (hopens : duel.Opens) :
    duel.start.higher.handshakeCache.entries.lookup (lib.blake3Hash duel.lower.initiate.msg) =
        none ∧
      duel.start.lower.handshakeCache.entries.lookup (lib.blake3Hash duel.higher.initiate.msg) =
        none ∧
      duel.start.higher.peers.lookup duel.lowerId = none := by
  simp only [start, hopens.lower.state_eq, hopens.higher.state_eq]
  exact ⟨hopens.lowerNew, hopens.higherNew, hopens.higher.absent⟩

theorem answered_of_four {deliveries : List Delivery}
    (hfour : ∀ delivery ∈ duel.late c, delivery ∈ deliveries) {lower higher : NodeState}
    {chosen : Option ByteString}
    (hlower : dialling lower duel.higherId = false)
    (hhigher : dialling higher duel.lowerId = false) :
    duel.Answered deliveries ⟨lower, higher, [duel.higher.initiate.msg, duel.lowerReply c],
      [duel.lower.initiate.msg, duel.higherReply c], chosen⟩ := by
  refine ⟨fun packet hpacket => ⟨c.lower, c.src, hfour _ ?_⟩,
    fun packet hpacket => ⟨c.higher, c.src, hfour _ ?_⟩, hlower, hhigher⟩
  · obtain rfl | rfl : packet = _ ∨ packet = _ := by simpa using hpacket
    · simp [late]
    · simp [late]
  · obtain rfl | rfl : packet = _ ∨ packet = _ := by simpa using hpacket
    · simp [late]
    · simp [late]

theorem late_splits (hlib : lib.Correct) (hopens : duel.Opens) (hfair : duel.Fair c)
    (hids : (c.lower.rand []).responder.rxSessionId.value ≠ duel.lower.sessionId) :
    Guarded duel.step DuelState.Sent duel.start (duel.late c) ∧
      duel.Answered (duel.late c) (runAll duel.step duel.start (duel.late c)) ∧
      ¬ duel.Agreed (runAll duel.step duel.start (duel.late c)) := by
  obtain ⟨hnewLower, hnewHigher, habsent⟩ := start_new hopens
  -- the higher node takes the lower one's session and the lower node confirms it
  obtain ⟨higher, entry, hfirst, hpending, hentry, htx, hinitiator⟩ :=
    step_lower_request hlib hopens hfair hnewLower habsent
  obtain ⟨lower, hsecond, herased, hcache⟩ := step_lower_reply hlib hfair
    (s := ⟨duel.start.lower, higher, [duel.higher.initiate.msg, duel.lowerReply c],
      [duel.lower.initiate.msg], some (duel.lowerReply c)⟩) hopens.lower.lookup_pending
  have hoverLower := (Dial.Tracks.of_starts hopens.lower).dialling_of_erase herased
  -- the lower node has forgotten that it dialled and takes the other session
  obtain ⟨lower', hthird, hsame, hinstalled⟩ := step_higher_request hlib hopens hfair
    (s := ⟨lower, higher, [duel.higher.initiate.msg, duel.lowerReply c],
      [duel.lower.initiate.msg], some (duel.lowerReply c)⟩)
      (hcache ▸ hnewHigher)
  obtain ⟨entry', hentry', hrx⟩ := hinstalled hoverLower
  -- the higher node keeps the one it has
  obtain ⟨higher', hfourth, herased', hkept⟩ := step_higher_reply hlib hopens hfair
    (s := ⟨lower', higher, [duel.higher.initiate.msg, duel.lowerReply c],
      [duel.lower.initiate.msg, duel.higherReply c], some (duel.lowerReply c)⟩)
      (hpending ▸ hopens.higher.lookup_pending)
  have hoverHigher := (Dial.Tracks.of_starts hopens.higher).dialling_of_erase
    (hpending ▸ herased')
  obtain ⟨hguarded, hrun⟩ : Guarded duel.step DuelState.Sent duel.start (duel.late c) ∧
      runAll duel.step duel.start (duel.late c) = ⟨lower', higher',
        [duel.higher.initiate.msg, duel.lowerReply c],
        [duel.lower.initiate.msg, duel.higherReply c], some (duel.lowerReply c)⟩ :=
    guarded_cons_of_step hfirst List.mem_cons_self
      (guarded_cons_of_step hsecond (List.mem_cons_of_mem _ List.mem_cons_self)
        (guarded_cons_of_step hthird List.mem_cons_self
          (guarded_cons_of_step hfourth (List.mem_cons_of_mem _ List.mem_cons_self)
            ⟨trivial, rfl⟩)))
  rw [hrun]
  refine ⟨hguarded, answered_of_four (fun _ => id) ?_ hoverHigher, ?_⟩
  · exact (Dial.Tracks.of_starts hopens.lower).dialling_of_erase (hsame.trans herased)
  · rintro ⟨key, left, right, found, found', hfound, hfound', hhalf, hhalf'⟩
    cases Option.some.inj (hentry'.symm.trans hfound)
    cases Option.some.inj ((hkept entry hentry hinitiator).symm.trans hfound')
    exact hids (by rw [← hrx, hhalf.rxSessionId, ← hhalf'.txSessionId, htx])

theorem crossing_in_time (hlib : lib.Correct) (hopens : duel.Opens) (hfair : duel.Fair c) :
    Guarded duel.step (fun s delivery => s.Sent delivery ∧ duel.InTime s delivery) duel.start
        (duel.crossing c) ∧
      duel.Answered (duel.crossing c) (runAll duel.step duel.start (duel.crossing c)) := by
  obtain ⟨hnewLower, hnewHigher, habsent⟩ := start_new hopens
  obtain ⟨higher, entry, hfirst, hpending, -⟩ :=
    step_lower_request hlib hopens hfair hnewLower habsent
  obtain ⟨lower, hsecond, hsame, -⟩ := step_higher_request hlib hopens hfair
    (s := ⟨duel.start.lower, higher, [duel.higher.initiate.msg, duel.lowerReply c],
      [duel.lower.initiate.msg], some (duel.lowerReply c)⟩) hnewHigher
  obtain ⟨lower', hthird, herased, -⟩ := step_lower_reply hlib hfair
    (s := ⟨lower, higher, [duel.higher.initiate.msg, duel.lowerReply c],
      [duel.lower.initiate.msg, duel.higherReply c], some (duel.lowerReply c)⟩)
      (hsame ▸ hopens.lower.lookup_pending)
  obtain ⟨higher', hfourth, herased', -⟩ := step_higher_reply hlib hopens hfair
    (s := ⟨lower', higher, [duel.higher.initiate.msg, duel.lowerReply c],
      [duel.lower.initiate.msg, duel.higherReply c], some (duel.lowerReply c)⟩)
      (hpending ▸ hopens.higher.lookup_pending)
  have hdialling : dialling duel.start.lower duel.higherId = true :=
    (Dial.Tracks.of_starts hopens.lower).dialling_iff.mpr hopens.lower.lookup_pending
  obtain ⟨hguarded, hrun⟩ : Guarded duel.step
      (fun s delivery => s.Sent delivery ∧ duel.InTime s delivery) duel.start (duel.crossing c) ∧
      runAll duel.step duel.start (duel.crossing c) = ⟨lower', higher',
        [duel.higher.initiate.msg, duel.lowerReply c],
        [duel.lower.initiate.msg, duel.higherReply c], some (duel.lowerReply c)⟩ :=
    guarded_cons_of_step hfirst ⟨List.mem_cons_self, fun _ => Or.inr (Or.inr hdialling)⟩
      (guarded_cons_of_step hsecond ⟨List.mem_cons_self,
          fun _ => Or.inr hdialling, fun hother => absurd rfl hother⟩
        (guarded_cons_of_step hthird ⟨List.mem_cons_of_mem _ List.mem_cons_self,
            fun heq => absurd heq (answer_ne_request hlib duel.higher duel.lower c.higher),
            fun _ _ _ => rfl⟩
          (guarded_cons_of_step hfourth ⟨List.mem_cons_of_mem _ List.mem_cons_self,
              fun heq => absurd heq (answer_ne_request hlib duel.lower duel.higher c.lower)⟩
            ⟨trivial, rfl⟩)))
  rw [hrun]
  refine ⟨hguarded, answered_of_four ?_ ?_ ?_⟩
  · intro delivery hdelivery
    simp only [late, crossing, List.mem_cons] at hdelivery ⊢
    tauto
  · exact (Dial.Tracks.of_starts hopens.lower).dialling_of_erase (hsame ▸ herased)
  · exact (Dial.Tracks.of_starts hopens.higher).dialling_of_erase (hpending ▸ herased')

end Fair

end Duel

/-! ## Alice and bob dial each other -/

namespace Sample

noncomputable def duel : Duel (transparent pair) where
  lower := caller "alice" 1 ⟨1, Core.Sample.one_ne⟩ "bob"
  higher := caller "bob" 2 ⟨2, Core.Sample.two_ne⟩ "alice"

def conditions : Duel.Conditions where
  lower := env 1 3 ⟨3, Core.Sample.three_ne⟩
  higher := env 1 4 ⟨4, Core.Sample.four_ne⟩
  src := Core.Sample.source

theorem duel_opens : duel.Opens where
  network := rfl
  ids := by
    change nodeIdFromCert _ (Core.Sample.cert "alice" 1) < nodeIdFromCert _ (Core.Sample.cert "bob" 2)
    unfold pair
    rw [nodeIdFromCert_cert, nodeIdFromCert_cert]
    decide
  lower := starts_caller alice_known (by decide) _ _ _
  higher := starts_caller bob_known (by decide) _ _ _
  lowerNew := rfl
  higherNew := rfl

theorem duel_fair : duel.Fair conditions where
  lower := vouched_node alice_known (by decide) "bob" 2
  higher := vouched_node bob_known (by decide) "alice" 1
  lowerClock := show timestampValid 1000 1001 by decide
  higherClock := show timestampValid 1000 1001 by decide
  sameClock := rfl
  lowerLeaves := leaves_answerBy bob_known (by decide) _ _ _ _
  higherLeaves := leaves_answerBy alice_known (by decide) _ _ _ _

end Sample

/-- Alice and bob dial each other, and their requests cross. -/
theorem crossing_requests_agree :
    ∃ (lib : Primitives) (duel : Duel lib) (deliveries : List Delivery),
      Guarded duel.step (fun s delivery => s.Sent delivery ∧ duel.InTime s delivery) duel.start
          deliveries ∧
        duel.Answered deliveries (runAll duel.step duel.start deliveries) ∧
        duel.Agreed (runAll duel.step duel.start deliveries) := by
  have hlib := transparent_correct Sample.pair
  obtain ⟨hguarded, hanswered⟩ :=
    Duel.crossing_in_time hlib Sample.duel_opens Sample.duel_fair
  exact ⟨_, _, _, hguarded, hanswered,
    Duel.simultaneous_open_agrees hlib Sample.duel_opens hguarded hanswered⟩

/-- Bob's request reaches alice after her own handshake is over: she ends up with
the session of his handshake, and he with that of hers. -/
theorem late_request_splits_sessions :
    ∃ (lib : Primitives) (duel : Duel lib) (deliveries : List Delivery),
      lib.Correct ∧ duel.Opens ∧
        Guarded duel.step DuelState.Sent duel.start deliveries ∧
        duel.Answered deliveries (runAll duel.step duel.start deliveries) ∧
        ¬ duel.Agreed (runAll duel.step duel.start deliveries) := by
  have hlib := transparent_correct Sample.pair
  have hids : (Sample.conditions.lower.rand []).responder.rxSessionId.value ≠
      Sample.duel.lower.sessionId := show (3 : UInt32) ≠ 1 by decide
  exact ⟨_, _, _, hlib, Sample.duel_opens,
    Duel.late_splits hlib Sample.duel_opens Sample.duel_fair hids⟩

end Liteway.Daemon
