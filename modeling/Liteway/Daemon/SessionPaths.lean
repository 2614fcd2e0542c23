import Liteway.Daemon.AckMatching

/-!
# The path of a session

A session goes directly to its peer or through a relay.  A direct one stays
direct until it is replaced.  One through a relay is probed as long as the
endpoint that is taken for the direct one is not that of the relay.
-/

namespace Liteway.Daemon

open Liteway.Library Liteway.Core

namespace PeerState

variable {peer : PeerState} {timings : Timings} {now : Instant} {token : UInt64}

/-- Nothing is said about the path. -/
structure SamePath (before after : PeerState) : Prop where
  addr : after.addr = before.addr
  directAddr : after.directAddr = before.directAddr
  relayed : after.relayed = before.relayed

theorem samePath_tick (peer : PeerState) (now : Instant) (timings : Timings) (token : UInt64) :
    SamePath peer (peer.tick now timings token).2 := by
  unfold tick
  repeat' split
  all_goals exact ⟨rfl, rfl, rfl⟩

theorem samePath_takePathProbe (peer : PeerState) (now : Instant) (timings : Timings)
    (token : UInt64) : SamePath peer (peer.takePathProbe now timings token).2 := by
  obtain ⟨haddr, hdirect, hrelayed⟩ := takePathProbe_path peer now timings token
  exact ⟨haddr, hdirect, hrelayed⟩

theorem samePath_ackKeepalive (peer : PeerState) (token : UInt64) (now : Instant) :
    SamePath peer (peer.ackKeepalive token now).2 := by
  unfold ackKeepalive
  repeat' split
  all_goals exact ⟨rfl, rfl, rfl⟩

theorem probeToken_tick (peer : PeerState) (now : Instant) (timings : Timings) (token : UInt64) :
    (peer.tick now timings token).2.probeToken = peer.probeToken := by
  unfold tick
  repeat' split
  all_goals rfl

theorem probeToken_ackKeepalive (peer : PeerState) (token : UInt64) (now : Instant) :
    (peer.ackKeepalive token now).2.probeToken = peer.probeToken ∨
      (peer.ackKeepalive token now).2.probeToken = none := by
  unfold ackKeepalive
  repeat' split
  all_goals first
    | exact Or.inl rfl
    | exact Or.inr rfl

theorem addr_receive_direct {src : SocketAddr} (window : ReplayWindow) (now : Instant)
    (haddr : peer.addr ≠ src) : (peer.receive window src now false false).addr = src := by
  unfold receive markSeen
  simp [haddr]

theorem takePathProbe_of_direct (h : peer.relayed = false) (now : Instant) (timings : Timings)
    (token : UInt64) : peer.takePathProbe now timings token = (.none, peer) := by
  unfold takePathProbe
  rw [h]
  rfl

end PeerState

/-! ## Direct sessions -/

/-- Where a packet comes from that comes through no relay. -/
def SessionCall.directSource : SessionCall → Option SocketAddr
  | .seen _ src viaRelay _ => if viaRelay then none else some src
  | .ack _ src viaRelay _ => if viaRelay then none else some src
  | _ => none

/-- What calls make of a direct session. -/
structure RemainsDirect (peer after : PeerState) : Prop where
  relayed : after.relayed = false
  probeToken : after.probeToken = peer.probeToken ∨ after.probeToken = none

namespace RemainsDirect

theorem refl {peer : PeerState} (h : peer.relayed = false) : RemainsDirect peer peer :=
  ⟨h, Or.inl rfl⟩

theorem trans {first second third : PeerState} (h : RemainsDirect first second)
    (h' : RemainsDirect second third) : RemainsDirect first third := by
  refine ⟨h'.relayed, ?_⟩
  obtain hsame | hnone := h'.probeToken
  · rw [hsame]
    exact h.probeToken
  · exact Or.inr hnone

end RemainsDirect

section DirectCalls

variable {peer : PeerState} {timings : Timings}

theorem direct_markSeen (h : peer.relayed = false) (src : SocketAddr) (now : Instant)
    (viaRelay isKeepalive : Bool) :
    RemainsDirect peer (peer.markSeen src now viaRelay isKeepalive).2 ∧
      ((peer.markSeen src now viaRelay isKeepalive).2.addr = peer.addr ∨
        viaRelay = false ∧ (peer.markSeen src now viaRelay isKeepalive).2.addr = src) := by
  unfold PeerState.markSeen
  simp only [h, Bool.not_false, ↓reduceIte, Bool.false_and, Bool.false_eq_true]
  split
  · exact ⟨⟨rfl, Or.inl rfl⟩, Or.inl rfl⟩
  split
  · exact ⟨⟨rfl, Or.inl rfl⟩, Or.inl rfl⟩
  · rename_i hviaRelay
    exact ⟨⟨rfl, Or.inr rfl⟩, Or.inr ⟨Bool.eq_false_iff.mpr hviaRelay, rfl⟩⟩

theorem direct_afterCall (h : peer.relayed = false) (call : SessionCall) :
    RemainsDirect peer (peer.afterCall timings call) ∧
      ((peer.afterCall timings call).addr = peer.addr ∨
        call.directSource = some (peer.afterCall timings call).addr) := by
  cases call with
  | tick now token =>
      have hpath := PeerState.samePath_tick peer now timings token
      exact ⟨⟨hpath.relayed.trans h, Or.inl (PeerState.probeToken_tick peer now timings token)⟩,
        Or.inl hpath.addr⟩
  | probe now token =>
      have hprobe : peer.afterCall timings (.probe now token) = peer :=
        congrArg Prod.snd (PeerState.takePathProbe_of_direct h now timings token)
      rw [hprobe]
      exact ⟨RemainsDirect.refl h, Or.inl rfl⟩
  | seen now src viaRelay isKeepalive =>
      obtain ⟨hdirect, hsame | ⟨hviaRelay, hsrc⟩⟩ := direct_markSeen h src now viaRelay isKeepalive
      · exact ⟨hdirect, Or.inl hsame⟩
      · refine ⟨hdirect, Or.inr ?_⟩
        rw [hviaRelay] at hsrc ⊢
        exact (congrArg some hsrc).symm
  | ack now src viaRelay token =>
      obtain ⟨hdirect, hmoved⟩ := direct_markSeen h src now viaRelay false
      have hpath := PeerState.samePath_ackKeepalive (peer.markSeen src now viaRelay false).2 token now
      have hacked : RemainsDirect (peer.markSeen src now viaRelay false).2
          ((peer.markSeen src now viaRelay false).2.ackKeepalive token now).2 :=
        ⟨hpath.relayed.trans hdirect.relayed, PeerState.probeToken_ackKeepalive _ token now⟩
      refine ⟨hdirect.trans hacked, ?_⟩
      obtain hsame | ⟨hviaRelay, hsrc⟩ := hmoved
      · exact Or.inl (hpath.addr.trans hsame)
      · right
        rw [hviaRelay] at hsrc hpath ⊢
        exact (congrArg some (hpath.addr.trans hsrc)).symm
  | learned now addr =>
      unfold PeerState.afterCall learnDirectAddr
      dsimp only
      split
      · exact ⟨RemainsDirect.refl h, Or.inl rfl⟩
      · exact ⟨⟨h, Or.inl rfl⟩, Or.inl rfl⟩

/-- However many calls are made, a direct session stays direct, and it moves only
with a packet that comes through no relay. -/
theorem direct_afterCalls (h : peer.relayed = false) (calls : List SessionCall) :
    RemainsDirect peer (runAll (PeerState.afterCall timings) peer calls) ∧
      ((runAll (PeerState.afterCall timings) peer calls).addr = peer.addr ∨
        ∃ call ∈ calls, call.directSource =
          some (runAll (PeerState.afterCall timings) peer calls).addr) := by
  induction calls generalizing peer with
  | nil => exact ⟨RemainsDirect.refl h, Or.inl rfl⟩
  | cons call calls ih =>
      rw [runAll_cons]
      obtain ⟨hfirst, hmoved⟩ := @direct_afterCall peer timings h call
      obtain ⟨hrest, hmoved'⟩ := ih hfirst.relayed
      refine ⟨hfirst.trans hrest, ?_⟩
      obtain hstays | ⟨later, hlater, hsource⟩ := hmoved'
      · rw [hstays]
        obtain hsame | hsource := hmoved
        · exact Or.inl hsame
        · exact Or.inr ⟨call, List.mem_cons_self, hsource⟩
      · exact Or.inr ⟨later, List.mem_cons_of_mem _ hlater, hsource⟩

end DirectCalls

section DirectSessions

variable {lib : Primitives} {node : Node lib} {st : NodeState} {id : UInt32} {event : Event}
  {peer after : PeerState}

/-- The event does not replace the session with the peer. -/
def LeavesInPlace (node : Node lib) (id : UInt32) (st : NodeState) (event : Event) : Prop :=
  ∀ session, installedBy node st event = some session → session.id ≠ id

/-- The session stays where it is, or it goes where one of its packets came from, and
no other peer is a relay there. -/
def MovesDirectly (node : Node lib) (id : UInt32) (st : NodeState) (event : Event)
    (before after : PeerState) : Prop :=
  after.addr = before.addr ∨ ∃ env src data body, event = .datagram env src data ∧
    Brings node env st src data id before body ∧ after.addr = src ∧
    ∀ other relay, other ≠ id → st.peers.lookup other = some relay → relay.isRelay = true →
      relay.addr ≠ src

theorem directSource_packetCall (env : Env) (src : SocketAddr) (viaRelay : Bool)
    (body : PacketBody) :
    (packetCall env src viaRelay body).directSource = if viaRelay then none else some src := by
  cases body <;> rfl

theorem directSource_toldCalls {env : Env} {body : PacketBody} {call : SessionCall}
    (h : call ∈ toldCalls node env body id) : call.directSource = none := by
  unfold toldCalls at h
  split at h
  · cases h
  · split at h
    · rw [List.mem_singleton.mp h]
      rfl
    · cases h

theorem brings_of_directSource {calls : List SessionCall} {call : SessionCall} {src : SocketAddr}
    (hmakes : Makes node st id event calls) (hcall : call ∈ calls)
    (hsource : call.directSource = some src) :
    ∃ env data peer body, event = .datagram env src data ∧
      Brings node env st src data id peer body ∧ srcIsRelay st id peer src = false := by
  cases hmakes with
  | nothing => cases hcall
  | @packet env from_ data sender peer body hbrings =>
      obtain hpacket | htold := List.mem_append.mp hcall
      · split at hpacket
        · rename_i hid
          subst hid
          rw [List.mem_singleton.mp hpacket, directSource_packetCall] at hsource
          split at hsource
          · cases hsource
          · rename_i hviaRelay
            cases hsource
            exact ⟨env, data, peer, body, rfl, hbrings, Bool.eq_false_iff.mpr hviaRelay⟩
        · cases hpacket
      · rw [directSource_toldCalls htold] at hsource
        cases hsource
  | noted hrepeats =>
      rw [List.mem_singleton.mp hcall] at hsource
      cases hsource
  | maintained =>
      obtain htick | hprobe := List.mem_append.mp hcall
      · split at htick
        · rw [List.mem_singleton.mp htick] at hsource
          cases hsource
        · cases htick
      · rw [List.mem_singleton.mp hprobe] at hsource
        cases hsource

theorem addr_ne_of_srcIsRelay {src : SocketAddr} (h : srcIsRelay st id peer src = false)
    (hmoved : peer.addr ≠ src) {other : UInt32} {relay : PeerState} (hother : other ≠ id)
    (hrelay : st.peers.lookup other = some relay) (hflag : relay.isRelay = true) :
    relay.addr ≠ src := by
  intro hsame
  rw [Bool.eq_false_iff] at h
  apply h
  unfold srcIsRelay
  rw [Bool.and_eq_true]
  refine ⟨decide_eq_true hmoved, AssocMap.any_eq_true_iff.mpr ⟨other, relay, hrelay, ?_⟩⟩
  simp [hother, hflag, hsame]

theorem direct_step (hkeeps : LeavesInPlace node id st event)
    (hdirect : ∀ before, st.peers.lookup id = some before → before.relayed = false)
    (hafter : (step node st event).1.peers.lookup id = some after) :
    ∃ before, st.peers.lookup id = some before ∧ RemainsDirect before after ∧
      MovesDirectly node id st event before after := by
  obtain ⟨before, window, calls, hbefore, hmakes, hsame⟩ := comesFrom_step hkeeps hafter
  obtain ⟨hremains, hmoved⟩ := @direct_afterCalls { before with rxReplay := window } node.timings
    (hdirect before hbefore) calls
  generalize runAll (PeerState.afterCall node.timings) { before with rxReplay := window } calls =
    called at hsame hremains hmoved
  rw [hsame]
  refine ⟨before, hbefore, ⟨hremains.relayed, hremains.probeToken⟩, ?_⟩
  by_cases hstays : called.addr = before.addr
  · exact Or.inl hstays
  obtain hsame' | ⟨call, hcall, hsource⟩ := hmoved
  · exact absurd hsame' hstays
  obtain ⟨env, data, peer, body, hevent, hbrings, hviaRelay⟩ :=
    brings_of_directSource hmakes hcall hsource
  cases hbefore.symm.trans hbrings.live
  refine Or.inr ⟨env, called.addr, data, body, hevent, hbrings, rfl, ?_⟩
  intro other relay hother hrelay hflag
  exact addr_ne_of_srcIsRelay hviaRelay (Ne.symm hstays) hother hrelay hflag

/-- A direct session that is not replaced stays direct through every run, is never
probed, and moves only to where one of its packets came from that came through no
relay. -/
theorem direct_session_stays_direct (hpeer : st.peers.lookup id = some peer)
    (hdirect : peer.relayed = false) {events : List Event}
    (hkeeps : Guarded (fun st event => (step node st event).1) (LeavesInPlace node id) st events) :
    ∀ before, before <+: events → ∀ reached,
      reached = runAll (fun st event => (step node st event).1) st before → ∀ found,
      reached.peers.lookup id = some found →
        found.relayed = false ∧
        (∀ now token, found.takePathProbe now node.timings token = (.none, found)) ∧
        (found.probeToken = peer.probeToken ∨ found.probeToken = none) ∧
        ∀ event, before ++ [event] <+: events → ∀ after,
          (step node reached event).1.peers.lookup id = some after →
          MovesDirectly node id reached event found after := by
  have hinv : ∀ before, before <+: events → ∀ found,
      (runAll (fun st event => (step node st event).1) st before).peers.lookup id = some found →
      RemainsDirect peer found := by
    intro before hbefore
    refine @guarded_invariant _ _ _ _
      (fun st => ∀ found, st.peers.lookup id = some found → RemainsDirect peer found) ?_ _ _ ?_
      (guarded_before hbefore hkeeps)
    · intro st event hst hguard after hafter
      obtain ⟨found, hfound, hremains, -⟩ :=
        direct_step hguard (fun found hfound => (hst found hfound).relayed) hafter
      exact (hst found hfound).trans hremains
    · intro found hfound
      cases hpeer.symm.trans hfound
      exact RemainsDirect.refl hdirect
  rintro before hbefore reached rfl found hfound
  have hremains := hinv before hbefore found hfound
  refine ⟨hremains.relayed, fun now token => PeerState.takePathProbe_of_direct hremains.relayed now
    node.timings token, hremains.probeToken, ?_⟩
  intro event hnext after hafter
  have hguard := (guarded_append.mp (guarded_before hnext hkeeps)).2.1
  obtain ⟨found', hfound', -, hmoves⟩ :=
    direct_step hguard (fun found hfound => (hinv before hbefore found hfound).relayed) hafter
  cases hfound.symm.trans hfound'
  exact hmoves

end DirectSessions

theorem rxSessions_joined {lib : Primitives} {node : Node lib} {env : Env} {st : NodeState}
    {src : SocketAddr} {request : Request lib}
    (h : st.peers.lookup (nodeIdFromCert lib request.identity.cert) = none) :
    (joined node env st src request).rxSessions =
      st.rxSessions.insert (responseSession lib st src (request.answer node env)).rxSessionId
        (nodeIdFromCert lib request.identity.cert) := by
  change (addPeerSessions ((st.peers.lookup (nodeIdFromCert lib request.identity.cert)).map
    PeerState.rxSessionId) (responseSession lib st src (request.answer node env)) _).rxSessions = _
  rw [h]
  rfl

namespace Sample

def jetty : SocketAddr := .v4 0x0A000006#32 4242

theorem source_ne_jetty : Core.Sample.source ≠ jetty := by decide

theorem ferry_session : ferry.rxSessions.lookup 2 = some bobId := by
  have hid : (responseSession street (.initial []) Core.Sample.source (ferrying.answer harbour
      (env 0 2 ⟨2, Core.Sample.two_ne⟩))).rxSessionId = 2 := rfl
  rw [← hid]
  unfold ferry joined
  exact lookup_rxSessions_withSession harbour _ _ _

theorem aboard_session : aboard.rxSessions.lookup 2 = some bobId := by
  have hnone : ferry.peers.lookup aliceId = none := by
    rw [lookup_ferry, if_neg bobId_ne_aliceId.symm]
  have hid : (responseSession street ferry Core.Sample.source ((joining "alice" 1 1).answer harbour
      (env 0 1 ⟨4, Core.Sample.four_ne⟩))).rxSessionId = 4 := rfl
  have hsessions := @rxSessions_joined _ harbour (env 0 1 ⟨4, Core.Sample.four_ne⟩) ferry
    Core.Sample.source (joining "alice" 1 1) hnone
  rw [hid] at hsessions
  have hother : (2 : UInt32) ≠ 4 := by decide
  unfold aboard
  rw [hsessions, AList.lookup_insert_ne hother]
  exact ferry_session

noncomputable def roaming : Event :=
  .datagram (env 0 2 ⟨2, Core.Sample.two_ne⟩) jetty (serializePacket (encryptPacket street
    (Core.Sample.sealingOf 6) Core.Sample.padding harbour.ourId 2 harbour.networkKey ferryman.rxKey
    (.data 1 [])))

theorem short_roaming : (PacketBody.data 1 []).Short street := by
  intro payload hpayload
  rw [List.mem_singleton.mp hpayload]
  decide

theorem step_roaming : (step harbour aboard roaming).1 =
    afterAccept (env 0 2 ⟨2, Core.Sample.two_ne⟩) aboard jetty bobId ferryman (.data 1 []) :=
  congrArg Prod.fst (handleDatagram_encryptPacket street_correct _ jetty _ _ short_roaming trivial
    aboard_session ferried_aboard.relay rfl)

theorem leavesInPlace_roaming : LeavesInPlace harbour bobId aboard roaming := by
  intro session hinstalled
  obtain ⟨hoffer, -⟩ := offeredBy_of_installedBy harbour hinstalled
  have hnone := (@takesPacket_encryptPacket _ harbour _ _ _ street_correct
    (env 0 2 ⟨2, Core.Sample.two_ne⟩) jetty (Core.Sample.sealingOf 6) Core.Sample.padding _
    aboard_session ferried_aboard.relay _ short_roaming trivial rfl).2
  cases hoffer.symm.trans hnone

end Sample

/-- Bob moves away from where he joined and stays direct. -/
theorem ferryman_stays_direct :
    Sample.aboard.peers.lookup Sample.bobId = some Sample.ferryman ∧
      Sample.ferryman.relayed = false ∧
      Guarded (fun st event => (step Sample.harbour st event).1)
        (LeavesInPlace Sample.harbour Sample.bobId) Sample.aboard [Sample.roaming] ∧
      ∀ found, (runAll (fun st event => (step Sample.harbour st event).1) Sample.aboard
          [Sample.roaming]).peers.lookup Sample.bobId = some found →
        found.relayed = false ∧
          (found.probeToken = Sample.ferryman.probeToken ∨ found.probeToken = none) := by
  have hkeeps : Guarded (fun st event => (step Sample.harbour st event).1)
      (LeavesInPlace Sample.harbour Sample.bobId) Sample.aboard [Sample.roaming] :=
    ⟨Sample.leavesInPlace_roaming, trivial⟩
  refine ⟨Sample.ferried_aboard.relay, rfl, hkeeps, fun found hfound => ?_⟩
  obtain ⟨hdirect, -, hprobe, -⟩ := direct_session_stays_direct Sample.ferried_aboard.relay rfl
    hkeeps [Sample.roaming] (List.prefix_refl _) _ rfl found hfound
  exact ⟨hdirect, hprobe⟩

/-! ## Sessions through a relay -/

/-- A session through a relay whose direct endpoint is taken to be where the relay is. -/
def PeerState.Stuck (peer : PeerState) : Prop :=
  peer.relayed = true ∧ peer.directAddr = some peer.addr

namespace PeerState

variable {peer peer' : PeerState}

theorem SamePath.stuck_iff (h : SamePath peer peer') : peer'.Stuck ↔ peer.Stuck := by
  unfold Stuck
  rw [h.relayed, h.directAddr, h.addr]

theorem stuck_iff_of_sameButSeq (h : SameButSeq peer peer') : peer'.Stuck ↔ peer.Stuck := by
  rw [h]
  exact Iff.rfl

theorem stuck_learnDirectAddr_iff (addr : SocketAddr) :
    (learnDirectAddr addr peer).Stuck ↔ peer.relayed = true ∧ peer.addr = addr := by
  have hdirect : (learnDirectAddr addr peer).directAddr = some addr := by
    unfold learnDirectAddr
    split
    · assumption
    · rfl
  have hend := SameEnd.learnDirectAddr addr peer
  unfold Stuck
  rw [hdirect, hend.relayed, hend.addr, Option.some_inj, eq_comm (a := addr)]

end PeerState

section Calls

variable {lib : Primitives} {node : Node lib} {env : Env} {src : SocketAddr} {body : PacketBody}
  {peer : PeerState} {timings : Timings}

variable (node env body) in
def endpointAfter (id : UInt32) (peer : PeerState) : Option SocketAddr :=
  match told node env body with
  | none => peer.directAddr
  | some (foundId, addr) => if id = foundId then some addr else peer.directAddr

theorem endpointAfter_congr {peer' : PeerState} (h : peer'.directAddr = peer.directAddr)
    (id : UInt32) : endpointAfter node env body id peer' = endpointAfter node env body id peer := by
  unfold endpointAfter
  rw [h]

theorem stuck_toldCalls_iff (id : UInt32) :
    (runAll (PeerState.afterCall timings) peer (toldCalls node env body id)).Stuck ↔
      peer.relayed = true ∧ endpointAfter node env body id peer = some peer.addr := by
  unfold toldCalls endpointAfter
  cases told node env body with
  | none => exact Iff.rfl
  | some found =>
      obtain ⟨foundId, addr⟩ := found
      by_cases hid : id = foundId
      · simp only [if_pos hid]
        rw [Option.some_inj, eq_comm (a := addr)]
        exact PeerState.stuck_learnDirectAddr_iff addr
      · simp only [if_neg hid]
        exact Iff.rfl

theorem told_of_keepalive (h : PacketBody.isKeepalive body = true) : told node env body = none := by
  cases body with
  | keepalive seq token => rfl
  | _ => contradiction

theorem path_markSeen (peer : PeerState) (src : SocketAddr) (now : Instant)
    (viaRelay isKeepalive : Bool) :
    let seen := (peer.markSeen src now viaRelay isKeepalive).2
    (peer.relayed = true ∧ (src = peer.addr ∨ viaRelay = true) ∧ seen.relayed = true ∧
        seen.addr = src ∧ seen.directAddr = peer.directAddr) ∨
      (¬ (src = peer.addr ∨ viaRelay = true) ∧ isKeepalive = true ∧ seen.addr = peer.addr ∧
        seen.directAddr = some src) ∨
      (¬ (peer.relayed = true ∧ (src = peer.addr ∨ viaRelay = true)) ∧ seen.relayed = false) := by
  intro seen
  cases hrelayed : peer.relayed with
  | false =>
      obtain ⟨hdirect, -⟩ := direct_markSeen hrelayed src now viaRelay isKeepalive
      exact Or.inr (Or.inr ⟨fun h => Bool.false_ne_true h.1, hdirect.relayed⟩)
  | true =>
      by_cases hsame : peer.addr = src
      · left
        have hseen : seen = { peer with lastSeen := now } := by
          change (peer.markSeen src now viaRelay isKeepalive).2 = _
          unfold PeerState.markSeen
          simp only
          rw [if_pos hsame]
        rw [hseen]
        exact ⟨rfl, Or.inl hsame.symm, hrelayed, hsame, rfl⟩
      cases viaRelay with
      | true =>
          left
          have hseen : seen = { peer with lastSeen := now, addr := src } := by
            change (peer.markSeen src now true isKeepalive).2 = _
            unfold PeerState.markSeen
            simp only [hrelayed]
            rw [if_neg hsame]
            rfl
          rw [hseen]
          exact ⟨rfl, Or.inr rfl, hrelayed, rfl, rfl⟩
      | false =>
          have hnot : ¬ (src = peer.addr ∨ false = true) := by
            rintro (h | h)
            · exact hsame h.symm
            · exact Bool.false_ne_true h
          right
          cases isKeepalive with
          | true =>
              left
              refine ⟨hnot, rfl, ?_⟩
              change (peer.markSeen src now false true).2.addr = _ ∧
                (peer.markSeen src now false true).2.directAddr = _
              unfold PeerState.markSeen
              simp only [hrelayed, Bool.and_self, Bool.false_eq_true, ↓reduceIte]
              rw [if_neg hsame]
              split
              · exact ⟨rfl, rfl⟩
              · rename_i hknown
                exact ⟨rfl, not_not.mp hknown⟩
          | false =>
              right
              refine ⟨fun h => hnot h.2, ?_⟩
              change (peer.markSeen src now false false).2.relayed = false
              unfold PeerState.markSeen
              simp only [Bool.and_false, Bool.false_eq_true, ↓reduceIte]
              rw [if_neg hsame]

theorem samePath_of_packetCall (viaRelay : Bool) :
    PeerState.SamePath (peer.markSeen src env.now viaRelay (PacketBody.isKeepalive body)).2
      (peer.afterCall timings (packetCall env src viaRelay body)) := by
  cases body with
  | keepaliveAck seq token => exact PeerState.samePath_ackKeepalive _ token env.now
  | _ => exact ⟨rfl, rfl, rfl⟩

/-- The packet of a session leaves it stuck exactly if it leaves the session with the
relay it came through as its direct endpoint. -/
theorem stuck_packetCalls_iff (window : ReplayWindow) (viaRelay : Bool)
    (id : UInt32) :
    (runAll (PeerState.afterCall timings) { peer with rxReplay := window }
        (packetCalls node env src viaRelay id body id)).Stuck ↔
      peer.relayed = true ∧ (src = peer.addr ∨ viaRelay = true) ∧
        endpointAfter node env body id peer = some src := by
  have hcalls : packetCalls node env src viaRelay id body id =
      packetCall env src viaRelay body :: toldCalls node env body id := by
    unfold packetCalls
    rw [if_pos rfl]
    rfl
  have hpath := @samePath_of_packetCall env src body { peer with rxReplay := window } timings viaRelay
  have hseen := path_markSeen { peer with rxReplay := window } src env.now viaRelay
    (PacketBody.isKeepalive body)
  rw [hcalls, runAll_cons]
  generalize PeerState.afterCall timings { peer with rxReplay := window }
    (packetCall env src viaRelay body) = taken at hpath
  simp only [← hpath.relayed, ← hpath.addr, ← hpath.directAddr] at hseen
  rw [stuck_toldCalls_iff]
  obtain ⟨hrelayed, hvia, hstays, haddr, hdirect⟩ | ⟨hvia, hkeepalive, haddr, hdirect⟩ |
    ⟨hleft, hleaves⟩ := hseen
  · rw [endpointAfter_congr hdirect, haddr]
    exact ⟨fun h => ⟨hrelayed, hvia, h.2⟩, fun h => ⟨hstays, h.2.2⟩⟩
  · -- a keepalive from elsewhere tells where the peer is, which is not where the relay is
    refine iff_of_false (fun h => hvia ?_) (fun h => hvia h.2.1)
    have hend := h.2
    unfold endpointAfter at hend
    rw [told_of_keepalive hkeepalive, hdirect, haddr] at hend
    exact Or.inl (Option.some.inj hend)
  · refine iff_of_false (fun h => ?_) (fun h => hleft ⟨h.1, h.2.1⟩)
    rw [hleaves] at h
    exact Bool.false_ne_true h.1

end Calls

section Stuck

variable {lib : Primitives} (node : Node lib)

/-- No session through a relay has the relay as its direct endpoint, and each of them
is probed when the time has come. -/
def NoneStuck (st : NodeState) : Prop :=
  ∀ id peer, st.peers.lookup id = some peer → peer.relayed = true →
    peer.directAddr ≠ some peer.addr ∧
      ∀ now token, (∀ next, peer.nextProbe = some next → next ≤ now) →
        (peer.takePathProbe now node.timings token).1 ≠ .none

/-- The event makes the relay of a session its direct endpoint: a packet of the session
that comes through the relay, or a response about it that somebody else sends, or a
repeated request. -/
inductive Strands (st : NodeState) : Event → Prop where
  | packet {env : Env} {src : SocketAddr} {data : ByteString} {sender : UInt32} {peer : PeerState}
      {body : PacketBody} (h : Brings node env st src data sender peer body)
      (hbody : ∀ seq, body ≠ .disconnect seq) (hrelayed : peer.relayed = true)
      (hpath : src = peer.addr ∨ srcIsRelay st sender peer src = true)
      (hend : endpointAfter node env body sender peer = some src) :
      Strands st (.datagram env src data)
  | told {env : Env} {src addr : SocketAddr} {data : ByteString} {sender foundId : UInt32}
      {peer found : PeerState} {body : PacketBody}
      (h : Brings node env st src data sender peer body)
      (htold : told node env body = some (foundId, addr)) (hother : foundId ≠ sender)
      (hfound : st.peers.lookup foundId = some found) (hrelayed : found.relayed = true)
      (haddr : found.addr = addr) : Strands st (.datagram env src data)
  | noted {env : Env} {src : SocketAddr} {data : ByteString} {id : UInt32} {found : PeerState}
      (h : Repeats node env st src data id) (hfound : st.peers.lookup id = some found)
      (hrelayed : found.relayed = true) (haddr : found.addr = src) :
      Strands st (.datagram env src data)

variable {node} {st : NodeState} {id : UInt32} {event : Event} {after : PeerState}

theorem noneStuck_iff :
    NoneStuck node st ↔ ∀ id peer, st.peers.lookup id = some peer → ¬ peer.Stuck := by
  constructor
  · intro h id peer hpeer hstuck
    exact (h id peer hpeer hstuck.1).1 hstuck.2
  · intro h id peer hpeer hrelayed
    have hdirect : peer.directAddr ≠ some peer.addr := fun hdirect =>
      h id peer hpeer ⟨hrelayed, hdirect⟩
    exact ⟨hdirect, fun now token hdue => PeerState.takePathProbe_ne_none hrelayed hdirect hdue token⟩

theorem not_stuck_newPeer (now : Instant) (session : NewSession) (previous : Option PeerState) :
    ¬ (newPeer node now session previous).Stuck := by
  rintro ⟨hrelayed, hdirect⟩
  have hother : (session.relayed && decide ((newPeer node now session previous).directAddr ≠
      some session.addr)) = true := hrelayed
  rw [Bool.and_eq_true, decide_eq_true_eq] at hother
  exact hother.2 hdirect

theorem lookup_of_installed {session : NewSession}
    (h : installedBy node st event = some session) :
    ∃ now, (step node st event).1.peers.lookup session.id =
      some (newPeer node now session (st.peers.lookup session.id)) := by
  obtain ⟨hoffer, haccept⟩ := offeredBy_of_installedBy node h
  have hchange : Change node st event (step node st event).1 := change_step st event
  generalize (step node st event).1 = st' at hchange ⊢
  cases hchange with
  | @answered env src data packet response hfresh hoffered =>
      cases Option.some.inj (hoffer.symm.trans hoffered)
      refine ⟨env.now, ?_⟩
      unfold installResponse
      exact (lookup_addPeer env.now _ _ _).trans (if_pos ⟨rfl, haccept⟩)
  | @concluded env src data sessionId offered hfresh hoffered =>
      cases Option.some.inj (hoffer.symm.trans hoffered)
      refine ⟨env.now, ?_⟩
      exact (lookup_addPeer env.now _ _ _).trans (if_pos ⟨rfl, haccept⟩)
  | accepted hfresh hoffered hpacket hheader haccepts => cases hoffer.symm.trans hoffered
  | retains hfresh hoffered hgone hretains => cases hoffer.symm.trans hoffered
  | maintained hgone hretains => cases hoffer

theorem samePath_tickCalls {env : Env} (peer : PeerState) :
    PeerState.SamePath peer (runAll (PeerState.afterCall node.timings) peer (tickCalls node env)) := by
  unfold tickCalls
  split
  · have htick := PeerState.samePath_tick peer env.now node.timings (env.rand [0]).token
    have hprobe := PeerState.samePath_takePathProbe
      (peer.tick env.now node.timings (env.rand [0]).token).2 env.now node.timings
      (env.rand [1]).token
    exact ⟨hprobe.addr.trans htick.addr, hprobe.directAddr.trans htick.directAddr,
      hprobe.relayed.trans htick.relayed⟩
  · exact PeerState.samePath_takePathProbe peer env.now node.timings (env.rand [1]).token

theorem not_disconnect_of_lookup {env : Env} {src : SocketAddr} {data : ByteString}
    {peer : PeerState} {body : PacketBody} (h : Brings node env st src data id peer body)
    (hafter : (step node st (.datagram env src data)).1.peers.lookup id = some after) :
    ∀ seq, body ≠ .disconnect seq := by
  rintro seq rfl
  rw [step_of_brings h] at hafter
  have hgone := @lookup_removePeer _ node (afterAccept env (afterFeed node env st src data) src id
    peer (.disconnect seq)) id id
  rw [if_pos rfl] at hgone
  cases hgone.symm.trans hafter

theorem strands_of_stuck (hnone : ∀ id peer, st.peers.lookup id = some peer → ¬ peer.Stuck)
    (hafter : (step node st event).1.peers.lookup id = some after) (hstuck : after.Stuck) :
    Strands node st event := by
  by_cases hkeeps : LeavesInPlace node id st event
  · obtain ⟨before, window, calls, hbefore, hmakes, hsame⟩ := comesFrom_step hkeeps hafter
    rw [PeerState.stuck_iff_of_sameButSeq hsame] at hstuck
    have hnot : ¬ ({ before with rxReplay := window } : PeerState).Stuck := hnone id before hbefore
    cases hmakes with
    | nothing => exact absurd hstuck hnot
    | @packet env src data sender peer body hbrings =>
        by_cases hid : id = sender
        · subst hid
          cases hbefore.symm.trans hbrings.live
          obtain ⟨hrelayed, hpath, hend⟩ := (stuck_packetCalls_iff window _ id).mp hstuck
          exact .packet hbrings (not_disconnect_of_lookup hbrings hafter) hrelayed hpath hend
        · have hcalls : packetCalls node env src (srcIsRelay st sender peer src) sender body id =
              toldCalls node env body id := by
            unfold packetCalls
            rw [if_neg hid]
            rfl
          rw [hcalls, stuck_toldCalls_iff] at hstuck
          obtain ⟨hrelayed, hend⟩ := hstuck
          unfold endpointAfter at hend
          cases htold : told node env body with
          | none =>
              rw [htold] at hend
              exact absurd ⟨hrelayed, hend⟩ hnot
          | some found =>
              obtain ⟨foundId, addr⟩ := found
              simp only [htold] at hend
              split at hend
              · rename_i hfound
                subst hfound
                exact .told hbrings htold hid hbefore hrelayed (Option.some.inj hend).symm
              · exact absurd ⟨hrelayed, hend⟩ hnot
    | noted hrepeats =>
        obtain ⟨hrelayed, haddr⟩ := (PeerState.stuck_learnDirectAddr_iff _).mp hstuck
        exact .noted hrepeats hbefore hrelayed haddr
    | maintained =>
        rw [(samePath_tickCalls _).stuck_iff] at hstuck
        exact absurd hstuck hnot
  · unfold LeavesInPlace at hkeeps
    push Not at hkeeps
    obtain ⟨session, hinstalled, rfl⟩ := hkeeps
    obtain ⟨now, hlookup⟩ := lookup_of_installed hinstalled
    cases hafter.symm.trans hlookup
    exact absurd hstuck (not_stuck_newPeer now session _)

theorem stuck_of_strands (h : Strands node st event) :
    ∃ id after, (step node st event).1.peers.lookup id = some after ∧ after.Stuck := by
  cases h with
  | @packet env src data sender peer body hbrings hbody hrelayed hpath hend =>
      have hstep := step_of_brings hbrings
      obtain ⟨packet, header, -, -, -, haccepts⟩ := hbrings
      obtain ⟨after, hafter, hsame⟩ :=
        (touched_accepted haccepts hbody env src data).exists_after haccepts.live
      rw [← hstep] at hafter
      refine ⟨sender, after, hafter, (PeerState.stuck_iff_of_sameButSeq hsame).mpr ?_⟩
      unfold withWindow
      rw [if_pos rfl]
      exact (stuck_packetCalls_iff _ _ sender).mpr ⟨hrelayed, hpath, hend⟩
  | @told env src addr data sender foundId peer found body hbrings htold hother hfound hrelayed
      haddr =>
      have hbody : ∀ seq, body ≠ .disconnect seq := by
        rintro seq rfl
        cases htold
      have hstep := step_of_brings hbrings
      obtain ⟨packet, header, -, -, -, haccepts⟩ := hbrings
      obtain ⟨after, hafter, hsame⟩ :=
        (touched_accepted haccepts hbody env src data).exists_after hfound
      rw [← hstep] at hafter
      refine ⟨foundId, after, hafter, (PeerState.stuck_iff_of_sameButSeq hsame).mpr ?_⟩
      unfold withWindow packetCalls
      rw [if_neg hother, if_neg hother, List.nil_append, stuck_toldCalls_iff]
      refine ⟨hrelayed, ?_⟩
      unfold endpointAfter
      simp only [htold, ↓reduceIte]
      exact congrArg some haddr.symm
  | @noted env src data peerId found hrepeats hfound hrelayed haddr =>
      have hfed : (afterFeed node env st src data).peers.lookup peerId = some found := hfound
      refine ⟨peerId, learnDirectAddr src found, ?_,
        (PeerState.stuck_learnDirectAddr_iff src).mpr ⟨hrelayed, haddr⟩⟩
      rw [step_of_repeats hrepeats, lookup_recordEndpoint, hfed, Option.map_some, if_pos rfl]

theorem noneStuck_step_iff (hnone : NoneStuck node st) :
    ¬ Strands node st event ↔ NoneStuck node (step node st event).1 := by
  rw [noneStuck_iff] at hnone ⊢
  constructor
  · intro hsafe id after hafter hstuck
    exact hsafe (strands_of_stuck hnone hafter hstuck)
  · intro hafter hstrands
    obtain ⟨id, after, hlookup, hstuck⟩ := stuck_of_strands hstrands
    exact hafter id after hlookup hstuck

variable (node) in
/-- In every state of a run every session through a relay can be probed, exactly if
no event of the run makes the relay of a session its direct endpoint. -/
theorem none_stuck_iff_none_stranded (lighthouses : List LighthouseSlot) (events : List Event) :
    (∀ before, before <+: events → NoneStuck node (run node lighthouses before).state) ↔
      Guarded (Record.step node) (fun record event => ¬ Strands node record.state event)
        ⟨NodeState.initial lighthouses, []⟩ events := by
  symm
  apply @guarded_iff_prefixes _ _ _ _ fun record : Record => NoneStuck node record.state
  · intro record event hnone
    exact noneStuck_step_iff hnone
  · intro id peer hpeer
    cases hpeer

end Stuck

namespace Sample

/-- Bob has moved, and alice's request comes a second time, through where bob was. -/
noncomputable def straying : List Event :=
  boarding ++ [roaming] ++
    [.datagram (env 0 1 ⟨4, Core.Sample.four_ne⟩) Core.Sample.source
      (joining "alice" 1 1).initiate.msg]

noncomputable def roamed : PeerState :=
  ferryman.receive (ferryman.rxReplay.accept 1).2 jetty (env 0 2 ⟨2, Core.Sample.two_ne⟩).now
    (srcIsRelay aboard bobId ferryman jetty) false

theorem roamed_addr : roamed.addr = jetty := by
  have hviaRelay : srcIsRelay aboard bobId ferryman jetty = false :=
    ferried_aboard.srcIsRelay_eq source_ne_jetty rfl bobId ferryman
  have hfar : ¬ ferryman.addr = jetty := source_ne_jetty
  unfold roamed
  rw [hviaRelay]
  exact PeerState.addr_receive_direct _ _ hfar

theorem lookup_roaming (id : UInt32) :
    (step harbour aboard roaming).1.peers.lookup id =
      if id = bobId then some roamed else aboard.peers.lookup id := by
  rw [step_roaming]
  unfold afterAccept roamed
  exact AssocMap.lookup_insert_eq bobId id _ aboard.peers

theorem session_roaming : (step harbour aboard roaming).1.rxSessions.lookup 4 = some aliceId := by
  rw [step_roaming]
  unfold afterAccept
  exact session_aboard

theorem ferried_roaming : Ferried roamed passenger (step harbour aboard roaming).1 where
  relay := (lookup_roaming bobId).trans (if_pos (Eq.refl bobId))
  live := ((lookup_roaming aliceId).trans (if_neg bobId_ne_aliceId.symm)).trans ferried_aboard.live
  only := by
    intro id peer hpeer
    rw [lookup_roaming] at hpeer
    split at hpeer
    · exact Or.inl ‹_›
    · exact ferried_aboard.only id peer hpeer
  session := session_roaming

theorem state_straying :
    (run harbour [] straying).state =
      recordEndpoint (step harbour aboard roaming).1 aliceId Core.Sample.source := by
  obtain ⟨entry, hcached, hid⟩ := cached_aboard
  have hcached' : (step harbour aboard roaming).1.handshakeCache.get (street.blake3Hash
      (joining "alice" 1 1).initiate.msg) (env 0 1 ⟨4, Core.Sample.four_ne⟩).now = some entry := by
    rw [step_roaming]
    exact hcached
  have hrelay : addrIsRelay (step harbour aboard roaming).1 Core.Sample.source = false := by
    apply ferried_roaming.addrIsRelay_eq
    · rw [roamed_addr]
      exact source_ne_jetty.symm
    · rfl
  unfold straying
  rw [state_run_snoc, state_run_snoc, joined_boarding.state,
    step_repeated street_correct welcome_alice hcached', hid, noteDirectEndpoint_eq, hrelay,
    if_neg Bool.false_ne_true]

end Sample

/-- Alice's session through bob is not probed any more once bob has moved and her
request has come again through where he was. -/
theorem passenger_gets_stuck :
    ¬ NoneStuck Sample.harbour (run Sample.harbour [] Sample.straying).state := by
  have hlive : (run Sample.harbour [] Sample.straying).state.peers.lookup Sample.aliceId =
      some (learnDirectAddr Core.Sample.source Sample.passenger) := by
    rw [Sample.state_straying]
    exact Sample.ferried_roaming.recordEndpoint.live
  have hstuck : (learnDirectAddr Core.Sample.source Sample.passenger).Stuck :=
    (PeerState.stuck_learnDirectAddr_iff _).mpr ⟨Sample.passenger_path.1, rfl⟩
  intro hnone
  exact noneStuck_iff.mp hnone _ _ hlive hstuck

end Liteway.Daemon
