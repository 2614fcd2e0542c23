import Liteway.Daemon.Changes
import Liteway.Daemon.HandshakeReuse

/-!
# Cached answers and the sessions behind them

The answer to a request stays in the cache for a minute.  The session it stands
for may be gone by then: nothing that removes a peer looks at the cache.  A
journal numbers the events of a run, so that it can be said which handshake came
later.
-/

namespace Liteway.Daemon

open Liteway.Library Liteway.Core

def Event.now : Event → Instant
  | .datagram env _ _ => env.now
  | .cleanup now => now
  | .maintenance env => env.now
  | .punch env _ => env.now
  | .tunPacket env _ _ => env.now
  | .shutdown env => env.now

theorem HandshakeCache.get_eq_some_iff {cache : HandshakeCache} {key : Bytes 32} {now : Instant}
    {entry : CachedHandshake} :
    cache.get key now = some entry ↔
      cache.entries.lookup key = some entry ∧ alive now entry = true := by
  unfold get
  rw [Option.filter_eq_some_iff]

theorem HandshakeCache.alive_of_le {entry : CachedHandshake} {now later : Instant}
    (hle : now ≤ later) (h : alive later entry = true) : alive now entry = true := by
  have hage : now - entry.createdAt ≤ later - entry.createdAt := Nat.sub_le_sub_right hle _
  exact decide_eq_true (Nat.lt_of_le_of_lt hage (of_decide_eq_true h))

theorem HandshakeCache.lookup_of_insert {cache : HandshakeCache} {key other : Bytes 32}
    {response : ByteString} {peerId : UInt32} {now : Instant} {entry : CachedHandshake}
    (hne : other ≠ key)
    (h : (cache.insert key response peerId now).entries.lookup other = some entry) :
    cache.entries.lookup other = some entry := by
  unfold HandshakeCache.insert at h
  rw [AssocMap.lookup_insert_eq, if_neg hne] at h
  exact lookup_makeRoom h

section Journals

variable {lib : Primitives} (node : Node lib)

/-- A node with the history of its handshakes: the last reading of the clock, the
number of events, the event that installed the session with a peer, and the event
and the response behind a cached answer. -/
structure Journal where
  state : NodeState
  clock : Instant
  count : Nat
  installedAt : UInt32 → Nat
  answers : Bytes 32 → Option (Nat × HandshakeResponse)

namespace Journal

def start (lighthouses : List LighthouseSlot) : Journal where
  state := .initial lighthouses
  clock := 0
  count := 0
  installedAt := fun _ => 0
  answers := fun _ => none

def step (journal : Journal) (event : Event) : Journal where
  state := (Daemon.step node journal.state event).1
  clock := event.now
  count := journal.count + 1
  installedAt :=
    match installedBy node journal.state event with
    | none => journal.installedAt
    | some session => Function.update journal.installedAt session.id journal.count
  answers :=
    match freshAnswer node journal.state event with
    | none => journal.answers
    | some (packet, response) =>
        Function.update journal.answers (lib.blake3Hash packet) (some (journal.count, response))

end Journal

structure EstablishedBy (response : HandshakeResponse) (peer : PeerState) : Prop where
  cert : peer.cert = response.peerCert
  txKey : peer.txKey = deriveTrafficKey lib response.sessionKey node.ourId
    (nodeIdFromCert lib response.peerCert)
  rxKey : peer.rxKey = deriveTrafficKey lib response.sessionKey
    (nodeIdFromCert lib response.peerCert) node.ourId
  txSessionId : peer.txSessionId = response.peerRxSessionId
  rxSessionId : peer.rxSessionId = response.myRxSessionId

/-- The node holds the session that the cached answer establishes, or one from a
later handshake with the same peer. -/
def Backed (journal : Journal) (digest : Bytes 32) (entry : CachedHandshake) : Prop :=
  ∃ index response peer, journal.answers digest = some (index, response) ∧
    entry.response = response.msg ∧ entry.peerId = nodeIdFromCert lib response.peerCert ∧
    journal.state.peers.lookup entry.peerId = some peer ∧
    (EstablishedBy node response peer ∨ index < journal.installedAt entry.peerId)

/-- The clock does not go back, no peer is dropped while an answer to it is kept,
and no session that a request is answered with is refused. -/
structure KeepsAnswers (journal : Journal) (event : Event) : Prop where
  clock : journal.clock ≤ event.now
  drops : ∀ id, DropsAt node journal.state event id → ∀ digest entry,
    journal.state.handshakeCache.get digest event.now = some entry → entry.peerId ≠ id
  installs : ∀ session, (freshAnswer node journal.state event).isSome = true →
    offeredBy node journal.state event = some session →
    acceptsSession node session journal.state.peers = true

/-- Whatever the cache still gives out is backed. -/
structure AnswersBacked (journal : Journal) : Prop where
  backed : ∀ digest entry now, journal.clock ≤ now →
    journal.state.handshakeCache.get digest now = some entry → Backed node journal digest entry
  numbered : ∀ digest index response, journal.answers digest = some (index, response) →
    index < journal.count

variable {node} {journal : Journal} {event : Event} {st' : NodeState}

theorem EstablishedBy.of_link {response : HandshakeResponse} {before after : PeerState}
    (h : EstablishedBy node response before) (hlink : SameLink before after) :
    EstablishedBy node response after :=
  ⟨hlink.cert.trans h.cert, hlink.txKey.trans h.txKey, hlink.rxKey.trans h.rxKey,
    hlink.txSessionId.trans h.txSessionId, hlink.rxSessionId.trans h.rxSessionId⟩

theorem Backed.keep {digest : Bytes 32} {entry : CachedHandshake}
    (h : Backed node journal digest entry) {after : Journal}
    (hanswers : after.answers digest = journal.answers digest)
    (hinstalled : after.installedAt entry.peerId = journal.installedAt entry.peerId)
    (hkept : ∀ before, journal.state.peers.lookup entry.peerId = some before →
      ∃ peer, after.state.peers.lookup entry.peerId = some peer ∧ SameLink before peer) :
    Backed node after digest entry := by
  obtain ⟨index, response, peer, hanswer, hresponse, hid, hpeer, hsession⟩ := h
  obtain ⟨peer', hpeer', hlink⟩ := hkept peer hpeer
  refine ⟨index, response, peer', hanswers.trans hanswer, hresponse, hid, hpeer', ?_⟩
  rw [hinstalled]
  exact hsession.imp_left fun hestablished => hestablished.of_link hlink

theorem Backed.replace {digest : Bytes 32} {entry : CachedHandshake}
    (h : Backed node journal digest entry) {after : Journal} {peer : PeerState}
    (hanswers : after.answers digest = journal.answers digest)
    (hnumbered : ∀ index response, journal.answers digest = some (index, response) →
      index < after.installedAt entry.peerId)
    (hpeer : after.state.peers.lookup entry.peerId = some peer) :
    Backed node after digest entry := by
  obtain ⟨index, response, -, hanswer, hresponse, hid, -, -⟩ := h
  exact ⟨index, response, peer, hanswers.trans hanswer, hresponse, hid, hpeer,
    Or.inr (hnumbered index response hanswer)⟩

private theorem answers_step_of_none (hfresh : freshAnswer node journal.state event = none) :
    (journal.step node event).answers = journal.answers := by
  simp only [Journal.step, hfresh]

private theorem answers_step_of_some {answered : ByteString × HandshakeResponse}
    (hfresh : freshAnswer node journal.state event = some answered) :
    (journal.step node event).answers = Function.update journal.answers (lib.blake3Hash answered.1)
      (some (journal.count, answered.2)) := by
  simp only [Journal.step, hfresh]

private theorem installedAt_step_of_none (hoffer : offeredBy node journal.state event = none) :
    (journal.step node event).installedAt = journal.installedAt := by
  simp only [Journal.step, installedBy, hoffer, Option.filter_none]

private theorem backed_of_retains (h : AnswersBacked node journal)
    (hguard : KeepsAnswers node journal event) {gone : List UInt32}
    (hfresh : freshAnswer node journal.state event = none)
    (hoffer : offeredBy node journal.state event = none)
    (hgone : ∀ id ∈ gone, DropsAt node journal.state event id)
    (hretains : ∀ id before, id ∉ gone → journal.state.peers.lookup id = some before →
      ∃ after, (journal.step node event).state.peers.lookup id = some after ∧ SameLink before after)
    (hcache : ∀ digest entry, (journal.step node event).state.handshakeCache.entries.lookup digest =
      some entry → journal.state.handshakeCache.entries.lookup digest = some entry)
    {digest : Bytes 32} {entry : CachedHandshake} {now : Instant} (hnow : event.now ≤ now)
    (hentry : (journal.step node event).state.handshakeCache.get digest now = some entry) :
    Backed node (journal.step node event) digest entry := by
  obtain ⟨hlookup, halive⟩ := HandshakeCache.get_eq_some_iff.mp hentry
  have hold : journal.state.handshakeCache.get digest event.now = some entry :=
    HandshakeCache.get_eq_some_iff.mpr ⟨hcache digest entry hlookup,
      HandshakeCache.alive_of_le hnow halive⟩
  apply (h.backed digest entry event.now hguard.clock hold).keep
  · rw [answers_step_of_none hfresh]
  · rw [installedAt_step_of_none hoffer]
  · intro before hbefore
    refine hretains entry.peerId before (fun hmem => ?_) hbefore
    exact hguard.drops entry.peerId (hgone entry.peerId hmem) digest entry hold rfl

/-- `add_peer` keeps the session behind an answer or puts a later one in its
place. -/
private theorem backed_of_offer (h : AnswersBacked node journal) {session : NewSession}
    (hoffer : offeredBy node journal.state event = some session) {peer : PeerState}
    (hpeers : ∀ id, (journal.step node event).state.peers.lookup id =
      if id = session.id ∧ acceptsSession node session journal.state.peers = true then some peer
      else journal.state.peers.lookup id)
    {digest : Bytes 32} {entry : CachedHandshake} (hold : Backed node journal digest entry)
    (hanswers : (journal.step node event).answers digest = journal.answers digest) :
    Backed node (journal.step node event) digest entry := by
  have hentry := hpeers entry.peerId
  by_cases hjoins : entry.peerId = session.id ∧
      acceptsSession node session journal.state.peers = true
  · rw [if_pos hjoins] at hentry
    apply hold.replace hanswers _ hentry
    intro index response hanswer
    simp only [Journal.step, installedBy, hoffer, Option.filter_some, hjoins.2, ↓reduceIte,
      hjoins.1, Function.update_self]
    exact h.numbered digest index response hanswer
  · rw [if_neg hjoins] at hentry
    apply hold.keep hanswers
    · simp only [Journal.step, installedBy, hoffer, Option.filter_some]
      cases haccept : acceptsSession node session journal.state.peers with
      | false => simp
      | true =>
          simp only [↓reduceIte]
          exact Function.update_of_ne (fun hid => hjoins ⟨hid, haccept⟩) _ _
    · intro before hbefore
      rw [hentry]
      exact ⟨before, hbefore, (SameSession.refl before).link⟩

theorem answersBacked_step (h : AnswersBacked node journal)
    (hguard : KeepsAnswers node journal event) :
    AnswersBacked node (journal.step node event) where
  numbered := by
    intro digest index response hanswer
    have hcount : (journal.step node event).count = journal.count + 1 := rfl
    rw [hcount]
    cases hfresh : freshAnswer node journal.state event with
    | none =>
        rw [answers_step_of_none hfresh] at hanswer
        exact Nat.lt_succ_of_lt (h.numbered digest index response hanswer)
    | some answered =>
        rw [answers_step_of_some hfresh] at hanswer
        by_cases hdigest : digest = lib.blake3Hash answered.1
        · rw [hdigest, Function.update_self] at hanswer
          cases hanswer
          exact Nat.lt_succ_self _
        · rw [Function.update_of_ne hdigest] at hanswer
          exact Nat.lt_succ_of_lt (h.numbered digest index response hanswer)
  backed := by
    intro digest entry now hnow hentry
    have hchange : Change node journal.state event (journal.step node event).state :=
      change_step journal.state event
    generalize hstate : (journal.step node event).state = st' at hchange hentry
    cases hchange with
    | @answered env src data packet response hfresh hoffer =>
        have haccept : acceptsSession node (responseSession lib journal.state src response)
            journal.state.peers = true :=
          hguard.installs _ (by rw [hfresh]; rfl) hoffer
        have hfed : acceptsSession node
            (responseSession lib (afterFeed node env journal.state src data) src response)
            (afterFeed node env journal.state src data).peers = true := haccept
        rw [installResponse_of_accepts hfed] at hstate hentry
        have hpeers : ∀ id, (journal.step node (.datagram env src data)).state.peers.lookup id =
            if id = (responseSession lib journal.state src response).id ∧
              acceptsSession node (responseSession lib journal.state src response)
                journal.state.peers = true then
              some (newPeer node env.now (responseSession lib journal.state src response)
                (journal.state.peers.lookup (responseSession lib journal.state src response).id))
            else journal.state.peers.lookup id := by
          intro id
          rw [hstate, withSession_peers, AssocMap.lookup_insert_eq]
          simp only [haccept, and_true]
          rfl
        rw [withSession_handshakeCache] at hentry
        by_cases hdigest : digest = lib.blake3Hash packet
        · subst hdigest
          rw [HandshakeCache.get_insert_self] at hentry
          split at hentry
          · cases hentry
            refine ⟨journal.count, response, _, ?_, rfl, rfl,
              (hpeers _).trans (if_pos ⟨rfl, haccept⟩), Or.inl ⟨rfl, rfl, rfl, rfl, rfl⟩⟩
            rw [answers_step_of_some hfresh, Function.update_self]
          · contradiction
        · have hlookup := HandshakeCache.lookup_of_insert hdigest
            (HandshakeCache.get_eq_some_iff.mp hentry).1
          have hold := h.backed digest entry env.now hguard.clock
            (HandshakeCache.get_eq_some_iff.mpr ⟨hlookup, HandshakeCache.alive_of_le hnow
              (HandshakeCache.get_eq_some_iff.mp hentry).2⟩)
          refine backed_of_offer h hoffer hpeers hold ?_
          rw [answers_step_of_some hfresh, Function.update_of_ne hdigest]
    | @concluded env src data sessionId session hfresh hoffer =>
        rw [addPeer_handshakeCache] at hentry
        obtain ⟨hlookup, halive⟩ := HandshakeCache.get_eq_some_iff.mp hentry
        have hold := h.backed digest entry env.now hguard.clock
          (HandshakeCache.get_eq_some_iff.mpr ⟨hlookup, HandshakeCache.alive_of_le hnow halive⟩)
        have hpeers : ∀ id, (journal.step node (.datagram env src data)).state.peers.lookup id =
            if id = session.id ∧ acceptsSession node session journal.state.peers = true then
              some (newPeer node env.now session (journal.state.peers.lookup session.id))
            else journal.state.peers.lookup id := by
          intro id
          rw [hstate]
          exact lookup_addPeer env.now _ session id
        refine backed_of_offer h hoffer hpeers hold ?_
        rw [answers_step_of_none hfresh]
    | accepted hfresh hoffer hpacket hheader haccepts =>
        obtain ⟨gone, hgone, hretains⟩ := haccepts.retains hpacket hheader
        rw [← hstate] at hretains hentry
        exact backed_of_retains h hguard hfresh hoffer hgone hretains.kept
          (fun digest entry hlookup => by rw [← hretains.cache]; exact hlookup) hnow hentry
    | retains hfresh hoffer hgone hretains =>
        have hlinks := hretains.links
        rw [← hstate] at hlinks hentry
        exact backed_of_retains h hguard hfresh hoffer hgone hlinks.kept
          (fun digest entry hlookup => by rw [← hlinks.cache]; exact hlookup) hnow hentry
    | @maintained env gone st' discovery hgone hretains =>
        rw [← hstate] at hentry
        refine backed_of_retains h hguard rfl rfl hgone ?_ ?_ hnow hentry
        · rw [hstate]
          exact hretains.links.kept
        · rw [hstate]
          intro digest entry hlookup
          rw [← hretains.cache]
          exact HandshakeCache.lookup_cleanup hlookup

theorem handleDatagram_of_cached {env : Env} {st : NodeState} {src : SocketAddr}
    {data packet : ByteString} {header : NetworkHeader} {entry : CachedHandshake}
    (hpacket : wholePacket node env st src data = some packet)
    (hheader : networkHeader lib packet node.networkKey = some header)
    (hkind : header.kind = kindHandshake1)
    (hcached : st.handshakeCache.get (lib.blake3Hash packet) env.now = some entry) :
    (handleDatagram node env st src data).2 = (sendMessageWithId node env entry.response src
      entry.peerId (responseMsgId (lib.blake3Hash packet))).2 := by
  have hfed : (afterFeed node env st src data).handshakeCache = st.handshakeCache := rfl
  rw [handleDatagram_of_wholePacket hpacket]
  unfold handlePacket
  simp only [hheader, hkind, ↓reduceIte]
  unfold handleHandshake1
  simp only [hfed, hcached]

variable (node) in
/-- In every run that drops no peer and refuses no session while an answer for it
is kept, a request that is answered from the cache is answered with the session
that is held, or with one that a later handshake has replaced. -/
theorem cached_answers_backed (lighthouses : List LighthouseSlot) (events : List Event)
    (hguard : Guarded (Journal.step node) (KeepsAnswers node) (Journal.start lighthouses) events)
    {env : Env} {src : SocketAddr} {data packet : ByteString} {header : NetworkHeader}
    {entry : CachedHandshake} {journal : Journal}
    (hjournal : journal = runAll (Journal.step node) (Journal.start lighthouses) events)
    (hclock : journal.clock ≤ env.now)
    (hpacket : wholePacket node env journal.state src data = some packet)
    (hheader : networkHeader lib packet node.networkKey = some header)
    (hkind : header.kind = kindHandshake1)
    (hcached : journal.state.handshakeCache.get (lib.blake3Hash packet) env.now = some entry) :
    (step node journal.state (.datagram env src data)).2 = (sendMessageWithId node env
        entry.response src entry.peerId (responseMsgId (lib.blake3Hash packet))).2 ∧
      Backed node journal (lib.blake3Hash packet) entry := by
  have hstart : AnswersBacked node (Journal.start lighthouses) := by
    refine ⟨fun digest entry now _ hentry => ?_, fun digest index response hanswer => ?_⟩
    · contradiction
    · contradiction
  have hrun : AnswersBacked node journal := by
    rw [hjournal]
    exact guarded_invariant (fun journal event h hkeeps => answersBacked_step h hkeeps) hstart hguard
  exact ⟨handleDatagram_of_cached hpacket hheader hkind hcached,
    hrun.backed _ entry env.now hclock hcached⟩

/-! ## A disconnect between two copies of a request -/

theorem state_after_disconnect (hlib : lib.Correct) (env : Env) {st : NodeState} (src : SocketAddr)
    (coins : SealCoins) (padding : Padding) {seq : UInt64} {sessionId peerId : UInt32}
    {peer : PeerState} (hsession : st.rxSessions.lookup sessionId = some peerId)
    (hlive : st.peers.lookup peerId = some peer) (hfresh : (peer.rxReplay.accept seq).1 = true) :
    (handleDatagram node env st src (serializePacket (encryptDisconnectPacket lib coins padding seq
        node.ourId sessionId node.networkKey peer.rxKey))).1.peers.lookup peerId = none ∧
      (handleDatagram node env st src (serializePacket (encryptDisconnectPacket lib coins padding
        seq node.ourId sessionId node.networkKey peer.rxKey))).1.handshakeCache =
        st.handshakeCache := by
  have hshort : (PacketBody.disconnect seq).Short lib := by
    intro payload hpayload
    contradiction
  have hfound : (afterAccept env st src peerId peer (.disconnect seq)).peers.lookup peerId =
      some _ := AList.lookup_insert _
  unfold encryptDisconnectPacket
  rw [handleDatagram_encryptPacket hlib env src coins padding hshort trivial hsession hlive hfresh]
  simp only [handleBody, removePeer, removePeerPeers, hfound]
  exact ⟨AList.lookup_erase _ _, rfl⟩

variable (node) in
def Request.farewell (request : Request lib) (env : Env) (coins : SealCoins) (padding : Padding)
    (seq : UInt64) : ByteString :=
  serializePacket (encryptDisconnectPacket lib coins padding seq node.ourId
    (env.rand []).responder.rxSessionId.value node.networkKey
    (deriveTrafficKey lib (request.answer node env).sessionKey
      (nodeIdFromCert lib request.identity.cert) node.ourId))

theorem state_after_farewell (hlib : lib.Correct) {request : Request lib} {env : Env}
    (h : request.Welcome node env.unixTime) (lighthouses : List LighthouseSlot)
    (src : SocketAddr) (env' : Env) (src' : SocketAddr) (coins : SealCoins) (padding : Padding)
    (seq : UInt64) {journal : Journal}
    (hjournal : journal = runAll (Journal.step node) (Journal.start lighthouses)
      [.datagram env src request.initiate.msg,
        .datagram env' src' (request.farewell node env coins padding seq)]) :
    journal.state.peers.lookup (nodeIdFromCert lib request.identity.cert) = none ∧
      ∀ now, now.durationSince env.now < handshakeCacheTtl →
        journal.state.handshakeCache.get (lib.blake3Hash request.initiate.msg) now =
          some { response := (request.answer node env).msg
                 peerId := nodeIdFromCert lib request.identity.cert
                 createdAt := env.now } := by
  have hopened := opening_state hlib h lighthouses src
  have hcached := get_after_opening hlib h lighthouses src
  have hrun : (run node lighthouses [.datagram env src request.initiate.msg]).state =
      (handleDatagram node env (.initial lighthouses) src request.initiate.msg).1 := rfl
  rw [hrun] at hcached
  have hstate : journal.state = (handleDatagram node env'
      (handleDatagram node env (.initial lighthouses) src request.initiate.msg).1 src'
      (request.farewell node env coins padding seq)).1 := by
    rw [hjournal]
    rfl
  generalize (handleDatagram node env (.initial lighthouses) src request.initiate.msg).1 = opened
    at hopened hcached hstate
  have hsession : opened.rxSessions.lookup (env.rand []).responder.rxSessionId.value =
      some (nodeIdFromCert lib request.identity.cert) := by
    rw [hopened]
    exact lookup_rxSessions_withSession node env.now
      (responseSession lib (.initial lighthouses) src (request.answer node env)) _
  have hlive : opened.peers.lookup (nodeIdFromCert lib request.identity.cert) =
      some (newPeer node env.now
        (responseSession lib (.initial lighthouses) src (request.answer node env)) none) := by
    rw [hopened]
    exact AList.lookup_insert _
  obtain ⟨hgone, hcache⟩ := state_after_disconnect hlib env' src' coins padding hsession hlive
    (show (ReplayWindow.accept _ seq).1 = true from rfl)
  refine ⟨?_, fun now hrecent => ?_⟩
  · rw [hstate]
    exact hgone
  · have hkept : journal.state.handshakeCache = opened.handshakeCache := by
      rw [hstate]
      exact hcache
    rw [hkept, hcached, if_pos hrecent]

theorem answered_after_farewell (hlib : lib.Correct) {request : Request lib} {env : Env}
    (h : request.Welcome node env.unixTime) (lighthouses : List LighthouseSlot)
    (src : SocketAddr) (env' : Env) (src' : SocketAddr) (coins : SealCoins) (padding : Padding)
    (seq : UInt64) {journal : Journal}
    (hjournal : journal = runAll (Journal.step node) (Journal.start lighthouses)
      [.datagram env src request.initiate.msg,
        .datagram env' src' (request.farewell node env coins padding seq)])
    {later : Env} (hrecent : later.now.durationSince env.now < handshakeCacheTtl)
    (source : SocketAddr) :
    ∃ entry : CachedHandshake, entry.response = (request.answer node env).msg ∧
      (step node journal.state (.datagram later source request.initiate.msg)).2 =
        (sendMessageWithId node later entry.response source entry.peerId
          (responseMsgId (lib.blake3Hash request.initiate.msg))).2 ∧
      journal.state.peers.lookup entry.peerId = none ∧
      ¬ Backed node journal (lib.blake3Hash request.initiate.msg) entry := by
  obtain ⟨hgone, hkept⟩ :=
    state_after_farewell hlib h lighthouses src env' src' coins padding seq hjournal
  refine ⟨_, rfl, handleDatagram_of_cached (Request.wholePacket_initiate hlib h _ _ _)
    (h.networkHeader hlib) rfl (hkept later.now hrecent), hgone, ?_⟩
  rintro ⟨_, _, peer, -, -, -, hpeer, -⟩
  rw [hgone] at hpeer
  contradiction

theorem cached_after_request (hlib : lib.Correct) {request : Request lib} {env : Env}
    (h : request.Welcome node env.unixTime) (lighthouses : List LighthouseSlot) (src : SocketAddr)
    {now : Instant} (hrecent : now.durationSince env.now < handshakeCacheTtl) :
    (runAll (Journal.step node) (Journal.start lighthouses)
        [.datagram env src request.initiate.msg]).state.handshakeCache.get
        (lib.blake3Hash request.initiate.msg) now =
      some { response := (request.answer node env).msg
             peerId := nodeIdFromCert lib request.identity.cert
             createdAt := env.now } :=
  (get_after_opening hlib h lighthouses src now).trans (if_pos hrecent)

theorem keepsAnswers_start (lighthouses : List LighthouseSlot) (event : Event) :
    KeepsAnswers node (Journal.start lighthouses) event where
  clock := Nat.zero_le _
  drops := by
    intro id _ digest entry hcached
    contradiction
  installs := by
    intro session _ _
    exact acceptsSession_of_absent rfl

end Journals

/-- A second after alice's request, a copy of it is answered with the session that
bob holds. -/
theorem copy_answered_for_live_session :
    ∃ entry, Backed Sample.bob
      (runAll (Journal.step Sample.bob) (Journal.start [])
        [.datagram (Sample.env 0 2 ⟨2, by decide⟩) Core.Sample.source Sample.alice.initiate.msg])
      ((transparent Sample.pair).blake3Hash Sample.alice.initiate.msg) entry := by
  have hlib := transparent_correct Sample.pair
  have hwelcome := Sample.alice_welcome
    (show timestampValid 1000 (Sample.env 0 2 ⟨2, by decide⟩).unixTime by decide) (by decide)
    (by decide)
  have hrecent : (Sample.env 1 4 ⟨4, by decide⟩).now.durationSince
      (Sample.env 0 2 ⟨2, by decide⟩).now < handshakeCacheTtl := by decide
  have hcached := cached_after_request hlib hwelcome [] Core.Sample.source hrecent
  have hheader := hwelcome.networkHeader hlib
  have hpacket := Request.wholePacket_initiate hlib hwelcome (Sample.env 1 4 ⟨4, by decide⟩)
    (runAll (Journal.step Sample.bob) (Journal.start []) [.datagram (Sample.env 0 2 ⟨2, by decide⟩)
      Core.Sample.source Sample.alice.initiate.msg]).state Core.Sample.source
  have hclock : (Sample.env 0 2 ⟨2, by decide⟩).now ≤ (Sample.env 1 4 ⟨4, by decide⟩).now := by
    decide
  exact ⟨_, (cached_answers_backed Sample.bob []
    [.datagram (Sample.env 0 2 ⟨2, by decide⟩) Core.Sample.source Sample.alice.initiate.msg]
    ⟨keepsAnswers_start [] _, trivial⟩ rfl hclock hpacket hheader rfl hcached).2⟩

/-- Alice's request, her disconnect a second later, and a copy of the request after
another second: bob hands out the answer for the session that he has dropped. -/
theorem copy_answered_after_disconnect :
    ∃ (journal : Journal) (entry : CachedHandshake),
      journal = runAll (Journal.step Sample.bob) (Journal.start [])
        [.datagram (Sample.env 0 2 ⟨2, by decide⟩) Core.Sample.source Sample.alice.initiate.msg,
          .datagram (Sample.env 1 3 ⟨3, by decide⟩) Core.Sample.source
            (Sample.alice.farewell Sample.bob (Sample.env 0 2 ⟨2, by decide⟩)
              (Core.Sample.sealingOf 4) Core.Sample.padding 1)] ∧
      entry.response = (Sample.alice.answer Sample.bob (Sample.env 0 2 ⟨2, by decide⟩)).msg ∧
      (step Sample.bob journal.state (.datagram (Sample.env 2 4 ⟨4, by decide⟩) Core.Sample.source
          Sample.alice.initiate.msg)).2 =
        (sendMessageWithId Sample.bob (Sample.env 2 4 ⟨4, by decide⟩) entry.response
          Core.Sample.source entry.peerId (responseMsgId
            ((transparent Sample.pair).blake3Hash Sample.alice.initiate.msg))).2 ∧
      journal.state.peers.lookup entry.peerId = none ∧
      ¬ Backed Sample.bob journal
        ((transparent Sample.pair).blake3Hash Sample.alice.initiate.msg) entry := by
  have hlib := transparent_correct Sample.pair
  have hwelcome := Sample.alice_welcome
    (show timestampValid 1000 (Sample.env 0 2 ⟨2, by decide⟩).unixTime by decide) (by decide)
    (by decide)
  have hrecent : (Sample.env 2 4 ⟨4, by decide⟩).now.durationSince
      (Sample.env 0 2 ⟨2, by decide⟩).now < handshakeCacheTtl := by decide
  obtain ⟨entry, hentry⟩ := answered_after_farewell hlib hwelcome [] Core.Sample.source
    (Sample.env 1 3 ⟨3, by decide⟩) Core.Sample.source (Core.Sample.sealingOf 4) Core.Sample.padding
    1 rfl hrecent Core.Sample.source
  exact ⟨_, entry, rfl, hentry⟩

end Liteway.Daemon
