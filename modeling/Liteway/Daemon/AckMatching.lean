import Liteway.Daemon.EventCalls
import Liteway.Daemon.LighthouseAnswers
import Liteway.Daemon.SessionMoves

/-!
# Which acks count

An ack is a packet of its session before it is matched with what is outstanding.
As a packet it may move the session to another path, and with that the probe it
answers is forgotten.
-/

namespace Liteway.Daemon

open Liteway.Library Liteway.Core

namespace PeerState

variable {peer : PeerState} {token : UInt64} {now : Instant}

/-- A keepalive or a probe with this token is waiting for an answer. -/
def Awaits (peer : PeerState) (token : UInt64) : Prop :=
  (∃ pending, peer.keepalive = some pending ∧ pending.token = token) ∨ peer.probeToken = some token

theorem ackKeepalive_ne_unknown_iff :
    (peer.ackKeepalive token now).1 ≠ .unknown ↔ peer.Awaits token := by
  unfold Awaits
  rw [Ne, ackKeepalive_eq_unknown_iff, not_and_or, not_forall]
  simp only [ne_eq, not_not, Classical.not_imp]

theorem ackKeepalive_lastAck (h : (peer.ackKeepalive token now).1 ≠ .unknown) :
    (peer.ackKeepalive token now).2.lastAck = now := by
  unfold ackKeepalive at h ⊢
  split
  · rfl
  split
  · rfl
  · rename_i hkeepalive hprobe
    rw [if_neg hkeepalive, if_neg hprobe] at h
    exact absurd rfl h

theorem keepalive_receive (window : ReplayWindow) (src : SocketAddr) (viaRelay isKeepalive : Bool) :
    (peer.receive window src now viaRelay isKeepalive).keepalive = peer.keepalive :=
  markSeen_keepalive _ _ _ _ _

theorem probeToken_receive (window : ReplayWindow) (src : SocketAddr) (viaRelay : Bool) :
    (peer.receive window src now viaRelay false).probeToken =
      if src = peer.addr ∨ viaRelay = true then peer.probeToken else none := by
  unfold receive markSeen
  simp only [Bool.and_false, Bool.false_eq_true, ↓reduceIte]
  by_cases hsame : peer.addr = src
  · rw [if_pos hsame, if_pos (Or.inl hsame.symm)]
  rw [if_neg hsame]
  cases viaRelay with
  | true =>
      rw [if_pos rfl, if_pos (Or.inr rfl)]
      split <;> rfl
  | false =>
      rw [if_neg Bool.false_ne_true, if_neg Bool.false_ne_true, if_neg]
      simp [Ne.symm hsame]

end PeerState

section Acks

variable {lib : Primitives} {node : Node lib} {env : Env} {st : NodeState} {src : SocketAddr}
  {packet : ByteString} {peerId : UInt32} {peer : PeerState} {header : NetworkHeader}
  {body : PacketBody} {seq token : UInt64}

def AckCounts (node : Node lib) (env : Env) (st : NodeState) (src : SocketAddr)
    (packet : ByteString) (header : NetworkHeader) (peerId : UInt32) (peer : PeerState)
    (seq token : UInt64) : Prop :=
  ((peer.receive (peer.rxReplay.accept seq).2 src env.now (srcIsRelay st peerId peer src)
      false).ackKeepalive token env.now).1 ≠ .unknown ∧
    ∃ after, (handleSessionPacket node env st src packet header).1.peers.lookup peerId = some after ∧
      after.lastAck = env.now

/-- An ack for what is outstanding counts exactly if it answers the keepalive or
leaves the session on its path. -/
theorem ackCounts_iff (h : Accepts node st packet peerId peer header (.keepaliveAck seq token))
    (hawaits : peer.Awaits token) :
    AckCounts node env st src packet header peerId peer seq token ↔
      (∃ pending, peer.keepalive = some pending ∧ pending.token = token) ∨ src = peer.addr ∨
        srcIsRelay st peerId peer src = true := by
  have hstate : (handleSessionPacket node env st src packet header).1.peers.lookup peerId =
      some ((peer.receive (peer.rxReplay.accept seq).2 src env.now (srcIsRelay st peerId peer src)
        false).ackKeepalive token env.now).2 := by
    have hlookup : (afterAccept env st src peerId peer (.keepaliveAck seq token)).peers.lookup
        peerId = some (peer.receive (peer.rxReplay.accept seq).2 src env.now
          (srcIsRelay st peerId peer src) false) := AList.lookup_insert _
    rw [handleSessionPacket_of_accepts h]
    simp only [handleBody, handleKeepaliveAck, hlookup]
    exact AList.lookup_insert _
  unfold AckCounts
  rw [hstate, PeerState.ackKeepalive_ne_unknown_iff]
  unfold PeerState.Awaits
  rw [PeerState.keepalive_receive, PeerState.probeToken_receive]
  constructor
  · rintro ⟨hpending | hprobe, -⟩
    · exact Or.inl hpending
    · split at hprobe
      · rename_i hpath
        exact Or.inr hpath
      · contradiction
  · intro hmatch
    have hcounts : (∃ pending, peer.keepalive = some pending ∧ pending.token = token) ∨
        (if src = peer.addr ∨ srcIsRelay st peerId peer src = true then peer.probeToken else none) =
          some token := by
      obtain hpending | hpath := hmatch
      · exact Or.inl hpending
      · rw [if_pos hpath]
        exact hawaits
    refine ⟨hcounts, _, rfl, PeerState.ackKeepalive_lastAck ?_⟩
    rw [PeerState.ackKeepalive_ne_unknown_iff]
    unfold PeerState.Awaits
    rw [PeerState.keepalive_receive, PeerState.probeToken_receive]
    exact hcounts

end Acks

/-! ## A session through a relay -/

theorem step_repeated {lib : Primitives} (hlib : lib.Correct) {node : Node lib} {env : Env}
    {st : NodeState} {request : Request lib} (hwelcome : request.Welcome node env.unixTime)
    {entry : CachedHandshake}
    (hcached : st.handshakeCache.get (lib.blake3Hash request.initiate.msg) env.now = some entry)
    (src : SocketAddr) :
    (step node st (.datagram env src request.initiate.msg)).1 =
      noteDirectEndpoint st entry.peerId src := by
  have hheader := hwelcome.networkHeader hlib
  have hkind : kindHandshake1 ≠ kindHandshakeFrag := by decide
  change (handleDatagram node env st src request.initiate.msg).1 = _
  rw [handleDatagram_of_header env st src hheader hkind (Or.inl rfl)]
  unfold handlePacket
  simp only [hheader, ↓reduceIte]
  unfold handleHandshake1
  simp only [hcached]

theorem awaits_probePeer {lib : Primitives} {node : Node lib} {env : Env} {peerId : UInt32}
    {peer : PeerState} {direct : SocketAddr} (hrelayed : peer.relayed = true)
    (hdirect : peer.directAddr = some direct) (haddr : peer.addr ≠ direct)
    (hprobe : peer.nextProbe = none) :
    (probePeer node env peerId peer).1.probeToken = some (env.rand [1]).token := by
  have hother : ¬ some direct = some peer.addr := fun h => haddr (Option.some.inj h).symm
  unfold probePeer PeerState.takePathProbe
  simp only [hrelayed, hdirect, hprobe, Bool.not_true, Bool.false_eq_true, ↓reduceIte, hother,
    Option.any_none]
  rfl

namespace Sample

/-- Bob joins and offers to relay. -/
noncomputable def ferrying : Request street := { joining "bob" 2 2 with relayFlag := true }

noncomputable def aliceId : UInt32 := nodeIdFromCert street (residentCert "alice" 1 1)

noncomputable def bobId : UInt32 := nodeIdFromCert street (residentCert "bob" 2 2)

/-- Where alice is herself. -/
def quay : SocketAddr := .v4 0x0A000005#32 4242

theorem welcome_alice : (joining "alice" 1 1).Welcome harbour 1000 :=
  welcome_joining List.mem_cons_self (by decide) (by decide)

theorem welcome_ferrying : ferrying.Welcome harbour 1000 := by
  have hbob : (joining "bob" 2 2).Welcome harbour 1000 :=
    welcome_joining (List.mem_cons_of_mem _ List.mem_cons_self) (by decide) (by decide)
  exact ⟨hbob.network, hbob.short, hbob.clock, hbob.certified, hbob.foreign⟩

theorem canJoin_ferrying :
    CanJoin harbour (env 0 2 ⟨2, Core.Sample.two_ne⟩) (.initial []) ferrying :=
  ⟨welcome_ferrying, rfl, rfl⟩

noncomputable def ferry : NodeState :=
  joined harbour (env 0 2 ⟨2, Core.Sample.two_ne⟩) (.initial []) Core.Sample.source ferrying

theorem canJoin_passenger :
    CanJoin harbour (env 0 1 ⟨4, Core.Sample.four_ne⟩) ferry (joining "alice" 1 1) :=
  canJoin_ferrying.next ⟨welcome_alice, rfl, rfl⟩
    (digest_initiate_ne rfl (maskNonce_sealingOf_ne (by decide)))

noncomputable def aboard : NodeState :=
  joined harbour (env 0 1 ⟨4, Core.Sample.four_ne⟩) ferry Core.Sample.source (joining "alice" 1 1)

noncomputable def boarding : List Event :=
  [.datagram (env 0 2 ⟨2, Core.Sample.two_ne⟩) Core.Sample.source ferrying.initiate.msg,
    .datagram (env 0 1 ⟨4, Core.Sample.four_ne⟩) Core.Sample.source
      (joining "alice" 1 1).initiate.msg]

theorem joined_boarding : Joined harbour [] boarding aboard
    [residentCert "bob" 2 2, residentCert "alice" 1 1] := by
  have hstart : Joined harbour [] [] (.initial []) [] := ⟨rfl, rfl⟩
  exact (hstart.snoc street_correct canJoin_ferrying Core.Sample.source).snoc street_correct
    canJoin_passenger Core.Sample.source

noncomputable def ferryman : PeerState :=
  newPeer harbour (env 0 2 ⟨2, Core.Sample.two_ne⟩).now (responseSession street (.initial []) Core.Sample.source
    (ferrying.answer harbour (env 0 2 ⟨2, Core.Sample.two_ne⟩))) none

noncomputable def passenger : PeerState :=
  newPeer harbour (env 0 1 ⟨4, Core.Sample.four_ne⟩).now (responseSession street ferry Core.Sample.source
    ((joining "alice" 1 1).answer harbour (env 0 1 ⟨4, Core.Sample.four_ne⟩))) none

theorem bobId_ne_aliceId : bobId ≠ aliceId := bob_ne_alice

/-- The two peers of the lighthouse, and the session of alice. -/
structure Ferried (relay session : PeerState) (st : NodeState) : Prop where
  relay : st.peers.lookup bobId = some relay
  live : st.peers.lookup aliceId = some session
  only : ∀ id peer, st.peers.lookup id = some peer → id = bobId ∨ id = aliceId
  session : st.rxSessions.lookup 4 = some aliceId

theorem lookup_ferry (id : UInt32) :
    ferry.peers.lookup id = if id = bobId then some ferryman else none := by
  by_cases hbob : id = bobId
  · rw [if_pos hbob, hbob]
    exact @lookup_joined_self _ harbour (env 0 2 ⟨2, Core.Sample.two_ne⟩) (.initial [])
      Core.Sample.source ferrying
  · rw [if_neg hbob]
    exact @lookup_joined_ne _ harbour (env 0 2 ⟨2, Core.Sample.two_ne⟩) (.initial [])
      Core.Sample.source ferrying id hbob

theorem lookup_aboard (id : UInt32) :
    aboard.peers.lookup id = if id = aliceId then some passenger else ferry.peers.lookup id := by
  by_cases halice : id = aliceId
  · have hself := @lookup_joined_self _ harbour (env 0 1 ⟨4, Core.Sample.four_ne⟩) ferry
      Core.Sample.source (joining "alice" 1 1)
    have hnone : ferry.peers.lookup aliceId = none := by
      rw [lookup_ferry, if_neg bobId_ne_aliceId.symm]
    rw [if_pos halice, halice]
    change aboard.peers.lookup aliceId = some (newPeer _ _ _ (ferry.peers.lookup aliceId)) at hself
    rw [hnone] at hself
    exact hself
  · rw [if_neg halice]
    exact @lookup_joined_ne _ harbour (env 0 1 ⟨4, Core.Sample.four_ne⟩) ferry Core.Sample.source
      (joining "alice" 1 1) id halice

theorem session_aboard : aboard.rxSessions.lookup 4 = some aliceId := by
  have hid : (responseSession street ferry Core.Sample.source ((joining "alice" 1 1).answer harbour
      (env 0 1 ⟨4, Core.Sample.four_ne⟩))).rxSessionId = 4 := rfl
  rw [← hid]
  unfold aboard joined
  exact lookup_rxSessions_withSession harbour _ _ _

theorem ferried_aboard : Ferried ferryman passenger aboard where
  relay := by
    rw [lookup_aboard, if_neg bobId_ne_aliceId, lookup_ferry, if_pos rfl]
  live := (lookup_aboard aliceId).trans (if_pos (Eq.refl aliceId))
  only := by
    intro id peer hpeer
    rw [lookup_aboard, lookup_ferry] at hpeer
    split at hpeer
    · exact Or.inr ‹_›
    split at hpeer
    · exact Or.inl ‹_›
    · cases hpeer
  session := session_aboard

section Ferried

variable {relay session : PeerState} {st : NodeState} {addr : SocketAddr}

theorem Ferried.addrIsRelay_eq (h : Ferried relay session st) (hrelay : relay.addr ≠ addr)
    (hsession : session.isRelay = false) : addrIsRelay st addr = false := by
  rw [Bool.eq_false_iff]
  intro htrue
  obtain ⟨id, peer, hpeer, hflags⟩ := AssocMap.any_eq_true_iff.mp htrue
  rw [Bool.and_eq_true, decide_eq_true_eq] at hflags
  obtain rfl | rfl := h.only id peer hpeer
  · cases hpeer.symm.trans h.relay
    exact hrelay hflags.2
  · cases hpeer.symm.trans h.live
    rw [hsession] at hflags
    exact Bool.false_ne_true hflags.1

theorem Ferried.srcIsRelay_eq (h : Ferried relay session st) (hrelay : relay.addr ≠ addr)
    (hsession : session.isRelay = false) (id : UInt32) (peer : PeerState) :
    srcIsRelay st id peer addr = false := by
  have hnone := h.addrIsRelay_eq hrelay hsession
  rw [Bool.eq_false_iff] at hnone ⊢
  intro htrue
  apply hnone
  unfold srcIsRelay at htrue
  rw [Bool.and_eq_true] at htrue
  obtain ⟨other, found, hfound, hflags⟩ := AssocMap.any_eq_true_iff.mp htrue.2
  simp only [Bool.and_eq_true] at hflags
  exact AssocMap.any_eq_true_iff.mpr ⟨other, found, hfound,
    (Bool.and_eq_true _ _).mpr ⟨hflags.1.2, hflags.2⟩⟩

theorem Ferried.recordEndpoint (h : Ferried relay session st) :
    Ferried relay (learnDirectAddr addr session) (recordEndpoint st aliceId addr) where
  relay := by
    rw [lookup_recordEndpoint, h.relay, Option.map_some, if_neg bobId_ne_aliceId]
  live := by
    rw [lookup_recordEndpoint, h.live, Option.map_some, if_pos rfl]
  only := by
    intro id peer hpeer
    rw [lookup_recordEndpoint] at hpeer
    obtain ⟨before, hbefore, -⟩ := Option.map_eq_some_iff.mp hpeer
    exact h.only id before hbefore
  session := by
    unfold Daemon.recordEndpoint
    rw [h.live]
    exact h.session

/-- A session that was heard of when the tick comes. -/
structure Fresh (now : Instant) (peer : PeerState) : Prop where
  keepalive : peer.keepalive = none
  lastSeen : peer.lastSeen = now
  lastAck : peer.lastAck = now

theorem Fresh.maintainPeer {env : Env} {peer : PeerState} (h : Fresh env.now peer) (id : UInt32) :
    maintainPeer harbour env id peer =
      ((probePeer harbour env id peer).1, (probePeer harbour env id peer).2, none) :=
  maintainPeer_of_fresh h.keepalive h.lastSeen h.lastAck (by decide) (by decide)

theorem Ferried.maintenance {env : Env} (h : Ferried relay session st) (hrelay : Fresh env.now relay)
    (hpath : relay.relayed = false) (hsession : Fresh env.now session)
    (hrelayed : session.relayed = true) (hdirect : session.directAddr = some addr)
    (haddr : session.addr ≠ addr) (hprobe : session.nextProbe = none) :
    Ferried (probePeer harbour ((env.part 1).forPeer bobId) bobId relay).1
      (probePeer harbour ((env.part 1).forPeer aliceId) aliceId session).1
      (step harbour st (.maintenance env)).1 := by
  have hquiet : ∀ id peer, st.peers.lookup id = some peer →
      maintainPeer harbour ((env.part 1).forPeer id) id peer =
        ((probePeer harbour ((env.part 1).forPeer id) id peer).1,
          (probePeer harbour ((env.part 1).forPeer id) id peer).2, none) ∧
      ∀ action ∈ (probePeer harbour ((env.part 1).forPeer id) id peer).2,
        action.mail.isSome = true := by
    intro id peer hpeer
    obtain rfl | rfl := h.only id peer hpeer
    · cases hpeer.symm.trans h.relay
      refine ⟨@Fresh.maintainPeer ((env.part 1).forPeer bobId) _ hrelay bobId, ?_⟩
      rw [probePeer_of_direct hpath]
      exact List.forall_mem_nil _
    · cases hpeer.symm.trans h.live
      refine ⟨@Fresh.maintainPeer ((env.part 1).forPeer aliceId) _ hsession aliceId, ?_⟩
      rw [probePeer_of_relayed hrelayed hdirect haddr hprobe]
      simp [Action.mail]
  have hdrops : maintainPeersDrops harbour (env.part 1) st = [] := by
    apply List.filterMap_eq_nil_iff.mpr
    intro entry hentry
    rw [(hquiet entry.1 entry.2 (AssocMap.lookup_eq_some_iff.mpr hentry)).1]
    rfl
  have hsends : ∀ action ∈ maintainPeersActions harbour (env.part 1) st,
      action.mail.isSome = true := by
    intro action haction
    obtain ⟨entry, hentry, hsent⟩ := List.mem_flatMap.mp haction
    obtain ⟨hpeer, hmail⟩ := hquiet entry.1 entry.2 (AssocMap.lookup_eq_some_iff.mpr hentry)
    rw [hpeer] at hsent
    exact hmail action hsent
  obtain ⟨hpeers, hsessions⟩ := step_maintenance hdrops hsends
  have hlookup : ∀ id peer, st.peers.lookup id = some peer →
      (step harbour st (.maintenance env)).1.peers.lookup id =
        some (probePeer harbour ((env.part 1).forPeer id) id peer).1 := by
    intro id peer hpeer
    rw [hpeers]
    unfold maintainPeersLocked
    rw [AssocMap.lookup_mapValues, hpeer, Option.map_some, (hquiet id peer hpeer).1]
  refine ⟨hlookup bobId relay h.relay, hlookup aliceId session h.live, fun id peer hpeer => ?_, ?_⟩
  · rw [hpeers] at hpeer
    unfold maintainPeersLocked at hpeer
    rw [AssocMap.lookup_mapValues] at hpeer
    obtain ⟨before, hbefore, -⟩ := Option.map_eq_some_iff.mp hpeer
    exact h.only id before hbefore
  · rw [hsessions]
    exact h.session

end Ferried

theorem isRelay_source : addrIsRelay ferry Core.Sample.source = true :=
  AssocMap.any_eq_true_iff.mpr ⟨bobId, ferryman, (lookup_ferry bobId).trans (if_pos (Eq.refl bobId)),
    (Bool.and_eq_true _ _).mpr ⟨rfl, decide_eq_true rfl⟩⟩

theorem passenger_path : passenger.relayed = true ∧ passenger.directAddr = none := by
  have hdirect : passenger.directAddr = none := by
    change (if addrIsRelay ferry Core.Sample.source = true then none
      else some Core.Sample.source).or none = none
    rw [if_pos isRelay_source]
    rfl
  refine ⟨?_, hdirect⟩
  change (addrIsRelay ferry Core.Sample.source &&
    decide (passenger.directAddr ≠ some Core.Sample.source)) = true
  rw [isRelay_source, hdirect]
  rfl

theorem fresh_ferryman : Fresh (env 0 2 ⟨2, Core.Sample.two_ne⟩).now ferryman := ⟨rfl, rfl, rfl⟩

theorem cached_aboard : ∃ entry, aboard.handshakeCache.get (street.blake3Hash
    (joining "alice" 1 1).initiate.msg) (env 0 1 ⟨4, Core.Sample.four_ne⟩).now = some entry ∧
      entry.peerId = aliceId := by
  have hyoung : Instant.durationSince (env 0 1 ⟨4, Core.Sample.four_ne⟩).now
      (env 0 1 ⟨4, Core.Sample.four_ne⟩).now < handshakeCacheTtl := by
    unfold Instant.durationSince
    rw [Nat.sub_self]
    decide
  refine ⟨{ response := ((joining "alice" 1 1).answer harbour (env 0 1 ⟨4, Core.Sample.four_ne⟩)).msg
            peerId := aliceId
            createdAt := (env 0 1 ⟨4, Core.Sample.four_ne⟩).now }, ?_, Eq.refl aliceId⟩
  unfold aboard joined
  rw [withSession_handshakeCache, HandshakeCache.get_insert_self]
  exact if_pos hyoung

/-- Alice's request comes a second time, now from herself. -/
noncomputable def disembarking : Event :=
  .datagram (env 0 1 ⟨4, Core.Sample.four_ne⟩) quay (joining "alice" 1 1).initiate.msg

theorem source_ne_quay : Core.Sample.source ≠ quay := by decide

theorem step_disembarking :
    (step harbour aboard disembarking).1 = recordEndpoint aboard aliceId quay := by
  obtain ⟨entry, hcached, hid⟩ := cached_aboard
  have hrelay : addrIsRelay aboard quay = false :=
    ferried_aboard.addrIsRelay_eq source_ne_quay rfl
  unfold disembarking
  rw [step_repeated street_correct welcome_alice hcached, hid, noteDirectEndpoint_eq, hrelay,
    if_neg Bool.false_ne_true]

def watch : Env := env 0 3 ⟨3, Core.Sample.three_ne⟩

noncomputable def probed : PeerState :=
  (probePeer harbour ((watch.part 1).forPeer aliceId) aliceId (learnDirectAddr quay passenger)).1

noncomputable def probing : List Event := boarding ++ [disembarking] ++ [.maintenance watch]

theorem learned_passenger :
    learnDirectAddr quay passenger = { passenger with directAddr := some quay, nextProbe := none } := by
  unfold learnDirectAddr
  rw [if_neg]
  rw [passenger_path.2]
  exact nofun

theorem ferried_probing :
    Ferried (probePeer harbour ((watch.part 1).forPeer bobId) bobId ferryman).1 probed
      (run harbour [] probing).state := by
  unfold probing
  rw [state_run_snoc, state_run_snoc, joined_boarding.state, step_disembarking]
  have hstep := @Ferried.maintenance _ _ _ quay watch
    (@Ferried.recordEndpoint _ _ _ quay ferried_aboard) fresh_ferryman rfl
  rw [learned_passenger] at hstep
  unfold probed
  rw [learned_passenger]
  exact hstep ⟨rfl, rfl, rfl⟩ passenger_path.1 rfl source_ne_quay rfl

theorem probed_awaits : probed.Awaits 0 := by
  unfold probed
  rw [learned_passenger]
  exact Or.inr (awaits_probePeer passenger_path.1 rfl source_ne_quay rfl)

theorem probed_keepalive : probed.keepalive = none := by
  have hsame : SameButSeq _ probed := sameButSeq_probePeer
  have htimers := PeerState.sameTimers_takePathProbe (learnDirectAddr quay passenger)
    ((watch.part 1).forPeer aliceId).now harbour.timings
    (((watch.part 1).forPeer aliceId).rand [1]).token
  rw [hsame]
  exact htimers.keepalive.trans (PeerState.sameTimers_learnDirectAddr quay passenger).keepalive

theorem probed_end : SameEnd passenger probed :=
  (SameEnd.learnDirectAddr quay passenger).trans (sameEnd_probePeer harbour _ aliceId _)

noncomputable def probeAnswer : ByteString :=
  serializePacket (encryptPacket street (Core.Sample.sealingOf 5) Core.Sample.padding harbour.ourId 4
    harbour.networkKey probed.rxKey (.keepaliveAck 1 0))

noncomputable def probeAnswerHeader : NetworkHeader :=
  { kind := (PacketBody.keepaliveAck 1 0).kind, fragIndex := 0, fragTotal := 0,
    dstPeerId := harbour.ourId, sessionId := 4 }

theorem accepts_probeAnswer : Accepts harbour (run harbour [] probing).state probeAnswer aliceId
    probed probeAnswerHeader (.keepaliveAck 1 0) where
  session := ferried_probing.session
  live := ferried_probing.live
  decrypted := decryptPacket_encryptPacket street_correct _ _ _ _ _ _ (by
    intro payload hpayload
    contradiction) trivial
  fresh := by
    rw [probed_end.rxReplay]
    rfl

end Sample

/-- The answer to a probe that comes on the path that was probed does not count. -/
theorem probe_answer_not_counted :
    Accepts Sample.harbour (run Sample.harbour [] Sample.probing).state Sample.probeAnswer
        Sample.aliceId Sample.probed Sample.probeAnswerHeader (.keepaliveAck 1 0) ∧
      Sample.probed.Awaits 0 ∧
      ¬ AckCounts Sample.harbour Sample.watch (run Sample.harbour [] Sample.probing).state
        Sample.quay Sample.probeAnswer Sample.probeAnswerHeader Sample.aliceId Sample.probed 1 0 := by
  refine ⟨Sample.accepts_probeAnswer, Sample.probed_awaits, fun hcounts => ?_⟩
  have haddr : Sample.probed.addr = Core.Sample.source := Sample.probed_end.addr
  have hvia : srcIsRelay (run Sample.harbour [] Sample.probing).state Sample.aliceId Sample.probed
      Sample.quay = false := by
    apply Sample.ferried_probing.srcIsRelay_eq
    · rw [(sameEnd_probePeer Sample.harbour _ Sample.bobId Sample.ferryman).addr]
      exact Sample.source_ne_quay
    · exact Sample.probed_end.isRelay
  have hawaits := PeerState.ackKeepalive_ne_unknown_iff.mp hcounts.1
  obtain ⟨pending, hpending, -⟩ | hprobe := hawaits
  · rw [PeerState.keepalive_receive, Sample.probed_keepalive] at hpending
    cases hpending
  · rw [PeerState.probeToken_receive, hvia, haddr, if_neg] at hprobe
    · cases hprobe
    · rintro (hsame | hrelay)
      · exact Sample.source_ne_quay hsame.symm
      · exact Bool.false_ne_true hrelay

/-- The same answer counts when it comes through the relay. -/
theorem probe_answer_counted_through_relay :
    Accepts Sample.harbour (run Sample.harbour [] Sample.probing).state Sample.probeAnswer
        Sample.aliceId Sample.probed Sample.probeAnswerHeader (.keepaliveAck 1 0) ∧
      Sample.probed.Awaits 0 ∧
      AckCounts Sample.harbour Sample.watch (run Sample.harbour [] Sample.probing).state
        Core.Sample.source Sample.probeAnswer Sample.probeAnswerHeader Sample.aliceId Sample.probed
        1 0 :=
  ⟨Sample.accepts_probeAnswer, Sample.probed_awaits,
    (ackCounts_iff Sample.accepts_probeAnswer Sample.probed_awaits).mpr
      (Or.inr (Or.inl Sample.probed_end.addr.symm))⟩

end Liteway.Daemon
