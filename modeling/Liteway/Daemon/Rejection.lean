import Liteway.Daemon.Dial

/-!
# Rejected packets

A packet that is not for this node's sessions and handshakes leaves through one
of a dozen exits.  At none of them has anything but the assembler been written,
so that a handshake in flight does not notice how many such packets arrive before
its reply.
-/

namespace Liteway.Daemon

open Liteway.Library Liteway.Core

/-- Two states that differ in the assembler at most. -/
structure SameBooks (st st' : NodeState) : Prop where
  peers : st'.peers = st.peers
  pending : st'.pending = st.pending
  routes : st'.routes = st.routes
  rxSessions : st'.rxSessions = st.rxSessions
  lighthouses : st'.lighthouses = st.lighthouses
  handshakeCache : st'.handshakeCache = st.handshakeCache
  discoveryPending : st'.discoveryPending = st.discoveryPending

namespace SameBooks

theorem refl (st : NodeState) : SameBooks st st := ⟨rfl, rfl, rfl, rfl, rfl, rfl, rfl⟩

theorem trans {st middle st' : NodeState} (h : SameBooks st middle) (h' : SameBooks middle st') :
    SameBooks st st' :=
  ⟨h'.peers.trans h.peers, h'.pending.trans h.pending, h'.routes.trans h.routes,
    h'.rxSessions.trans h.rxSessions, h'.lighthouses.trans h.lighthouses,
    h'.handshakeCache.trans h.handshakeCache, h'.discoveryPending.trans h.discoveryPending⟩

theorem eq {st st' : NodeState} (h : SameBooks st st') : st' = { st with assembler := st'.assembler } := by
  obtain ⟨hpeers, hpending, hroutes, hsessions, hslots, hcache, hdiscovery⟩ := h
  cases st'
  cases hpeers
  cases hpending
  cases hroutes
  cases hsessions
  cases hslots
  cases hcache
  cases hdiscovery
  rfl

end SameBooks

section Rejection

variable {lib : Primitives} (node : Node lib)

/-! ## The exits -/

/-- A packet of a session of this node. -/
structure SessionHeader (packet : ByteString) (header : NetworkHeader) : Prop where
  decodes : networkHeader lib packet node.networkKey = some header
  notRequest : header.kind ≠ kindHandshake1
  notReply : header.kind ≠ kindHandshake2
  addressed : header.dstPeerId = 0 ∨ header.dstPeerId = node.ourId

/-- The exits of the handlers at which a packet is rejected. -/
inductive Rejects (env : Env) (st : NodeState) (packet : ByteString) : Prop where
  | undecodable (hheader : networkHeader lib packet node.networkKey = none)
  | requestFails {header : NetworkHeader} {reason : HandshakeError}
      (hheader : networkHeader lib packet node.networkKey = some header)
      (hkind : header.kind = kindHandshake1)
      (hcache : st.handshakeCache.get (lib.blake3Hash packet) env.now = none)
      (hprocess : processHandshake1 lib (env.rand []).responder env.unixTime packet node.cert
        node.signingKey node.networkKey node.caVk node.amRelay = .error reason)
  | ownIdentity {header : NetworkHeader} {response : HandshakeResponse}
      (hheader : networkHeader lib packet node.networkKey = some header)
      (hkind : header.kind = kindHandshake1)
      (hcache : st.handshakeCache.get (lib.blake3Hash packet) env.now = none)
      (hprocess : processHandshake1 lib (env.rand []).responder env.unixTime packet node.cert
        node.signingKey node.networkKey node.caVk node.amRelay = .ok response)
      (hself : nodeIdFromCert lib response.peerCert = node.ourId)
  | notPending {header : NetworkHeader}
      (hheader : networkHeader lib packet node.networkKey = some header)
      (hkind : header.kind = kindHandshake2)
      (hpending : st.pending.lookup header.sessionId = none)
  | replyFails {header : NetworkHeader} {handshake : PendingHandshake} {reason : HandshakeError}
      (hheader : networkHeader lib packet node.networkKey = some header)
      (hkind : header.kind = kindHandshake2)
      (hpending : st.pending.lookup header.sessionId = some handshake)
      (hprocess : processHandshake2 lib env.unixTime packet handshake.initiate node.networkKey
        node.caVk = .error reason)
  | otherPeer {header : NetworkHeader} {handshake : PendingHandshake} {result : HandshakeResult}
      {expected : UInt32} (hheader : networkHeader lib packet node.networkKey = some header)
      (hkind : header.kind = kindHandshake2)
      (hpending : st.pending.lookup header.sessionId = some handshake)
      (hprocess : processHandshake2 lib env.unixTime packet handshake.initiate node.networkKey
        node.caVk = .ok result)
      (hexpected : handshake.peerId = some expected)
      (hother : expected ≠ nodeIdFromCert lib result.peerCert)
  | unknownSession {header : NetworkHeader} (hheader : SessionHeader node packet header)
      (hsession : st.rxSessions.lookup header.sessionId = none)
  | missingPeer {header : NetworkHeader} {peerId : UInt32}
      (hheader : SessionHeader node packet header)
      (hsession : st.rxSessions.lookup header.sessionId = some peerId)
      (hpeer : st.peers.lookup peerId = none)
  | undecryptable {header : NetworkHeader} {peerId : UInt32} {peer : PeerState}
      (hheader : SessionHeader node packet header)
      (hsession : st.rxSessions.lookup header.sessionId = some peerId)
      (hpeer : st.peers.lookup peerId = some peer)
      (hdecrypt : decryptPacket lib packet node.networkKey peer.rxKey = none)
  | otherHeader {header decoded : NetworkHeader} {peerId : UInt32} {peer : PeerState}
      {body : PacketBody} (hheader : SessionHeader node packet header)
      (hsession : st.rxSessions.lookup header.sessionId = some peerId)
      (hpeer : st.peers.lookup peerId = some peer)
      (hdecrypt : decryptPacket lib packet node.networkKey peer.rxKey = some (decoded, body))
      (hdecoded : decoded ≠ header)
  | replayed {header : NetworkHeader} {peerId : UInt32} {peer : PeerState} {body : PacketBody}
      (hheader : SessionHeader node packet header)
      (hsession : st.rxSessions.lookup header.sessionId = some peerId)
      (hpeer : st.peers.lookup peerId = some peer)
      (hdecrypt : decryptPacket lib packet node.networkKey peer.rxKey = some (header, body))
      (hrefused : (peer.rxReplay.accept (packetSeq body)).1 = false)

/-- The event brings a packet, whole or reassembled, that is rejected. -/
def Rejected (st : NodeState) : Event → Prop
  | .datagram env src data =>
      ∃ packet, wholePacket node env st src data = some packet ∧
        Rejects node env (afterFeed node env st src data) packet
  | _ => False

variable {node} {env : Env} {st : NodeState} {packet : ByteString}

theorem SessionHeader.handlePacket_eq {header : NetworkHeader} (h : SessionHeader node packet header)
    (env : Env) (st : NodeState) (src : SocketAddr) :
    handlePacket node env st src packet = handleSessionPacket node env st src packet header := by
  have hlocal : ¬ (header.dstPeerId ≠ 0 ∧ header.dstPeerId ≠ node.ourId) := by
    rintro ⟨hzero, hother⟩
    exact h.addressed.elim hzero hother
  unfold handlePacket
  simp only [h.decodes]
  rw [if_neg h.notRequest, if_neg h.notReply, if_neg hlocal]

theorem handlePacket_of_rejects (h : Rejects node env st packet) (src : SocketAddr) :
    handlePacket node env st src packet = (st, []) := by
  have hreply : kindHandshake2 ≠ kindHandshake1 := by decide
  cases h with
  | undecodable hheader =>
      unfold handlePacket
      simp only [hheader]
  | requestFails hheader hkind hcache hprocess =>
      unfold handlePacket handleHandshake1
      simp only [hheader, hkind, ↓reduceIte, hcache, hprocess]
  | ownIdentity hheader hkind hcache hprocess hself =>
      unfold handlePacket handleHandshake1
      simp only [hheader, hkind, ↓reduceIte, hcache, hprocess, hself]
  | notPending hheader hkind hpending =>
      unfold handlePacket handleHandshake2
      simp only [hheader, hkind, hreply, ↓reduceIte, hpending]
  | replyFails hheader hkind hpending hprocess =>
      unfold handlePacket handleHandshake2
      simp only [hheader, hkind, hreply, ↓reduceIte, hpending, hprocess]
  | otherPeer hheader hkind hpending hprocess hexpected hother =>
      unfold handlePacket handleHandshake2
      simp only [hheader, hkind, hreply, ↓reduceIte, hpending, hprocess]
      rw [if_pos (by simpa [hexpected] using hother)]
  | unknownSession hheader hsession =>
      rw [hheader.handlePacket_eq]
      unfold handleSessionPacket
      simp only [hsession]
  | missingPeer hheader hsession hpeer =>
      rw [hheader.handlePacket_eq]
      unfold handleSessionPacket
      simp only [hsession, hpeer]
  | undecryptable hheader hsession hpeer hdecrypt =>
      rw [hheader.handlePacket_eq]
      unfold handleSessionPacket
      simp only [hsession, hpeer, hdecrypt]
  | otherHeader hheader hsession hpeer hdecrypt hdecoded =>
      rw [hheader.handlePacket_eq]
      unfold handleSessionPacket
      simp only [hsession, hpeer, hdecrypt]
      rw [if_pos hdecoded]
  | replayed hheader hsession hpeer hdecrypt hrefused =>
      -- the window is written back, and it is the one that was there
      rw [hheader.handlePacket_eq]
      unfold handleSessionPacket
      simp only [hsession, hpeer, hdecrypt, hrefused, ne_eq, not_true_eq_false, ↓reduceIte,
        Bool.not_false]
      rw [ReplayWindow.accept_of_refused hrefused, AssocMap.replace_of_lookup hpeer]

private theorem request_rejects_or_answered {header : NetworkHeader}
    (hheader : networkHeader lib packet node.networkKey = some header)
    (hkind : header.kind = kindHandshake1) :
    Rejects node env st packet ∨ (answerTo node env st packet).isSome = true := by
  unfold answerTo
  simp only [hheader, hkind, ↓reduceIte]
  cases hcache : st.handshakeCache.get (lib.blake3Hash packet) env.now with
  | some entry => exact Or.inr rfl
  | none =>
      simp only
      cases hprocess : processHandshake1 lib (env.rand []).responder env.unixTime packet node.cert
          node.signingKey node.networkKey node.caVk node.amRelay with
      | error reason => exact Or.inl (.requestFails hheader hkind hcache hprocess)
      | ok response =>
          by_cases hself : nodeIdFromCert lib response.peerCert = node.ourId
          · exact Or.inl (.ownIdentity hheader hkind hcache hprocess hself)
          · simp [hself]

private theorem reply_rejects_or_concludes {header : NetworkHeader}
    (hheader : networkHeader lib packet node.networkKey = some header)
    (hkind : header.kind = kindHandshake2) :
    Rejects node env st packet ∨
      ∃ handshake result, Concludes node env st packet header handshake result := by
  cases hpending : st.pending.lookup header.sessionId with
  | none => exact Or.inl (.notPending hheader hkind hpending)
  | some handshake =>
      cases hprocess : processHandshake2 lib env.unixTime packet handshake.initiate node.networkKey
          node.caVk with
      | error reason => exact Or.inl (.replyFails hheader hkind hpending hprocess)
      | ok result =>
          by_cases hexpected : ∀ expected, handshake.peerId = some expected →
              expected = nodeIdFromCert lib result.peerCert
          · exact Or.inr ⟨handshake, result, hheader, hkind, hpending, hprocess, hexpected⟩
          · push Not at hexpected
            obtain ⟨expected, hpeer, hother⟩ := hexpected
            exact Or.inl (.otherPeer hheader hkind hpending hprocess hpeer hother)

private theorem session_rejects_or_accepts {header : NetworkHeader}
    (hheader : SessionHeader node packet header) :
    Rejects node env st packet ∨
      ∃ peerId peer body, Accepts node st packet peerId peer header body := by
  cases hsession : st.rxSessions.lookup header.sessionId with
  | none => exact Or.inl (.unknownSession hheader hsession)
  | some peerId =>
      cases hpeer : st.peers.lookup peerId with
      | none => exact Or.inl (.missingPeer hheader hsession hpeer)
      | some peer =>
          cases hdecrypt : decryptPacket lib packet node.networkKey peer.rxKey with
          | none => exact Or.inl (.undecryptable hheader hsession hpeer hdecrypt)
          | some opened =>
              obtain ⟨decoded, body⟩ := opened
              by_cases hdecoded : decoded = header
              · subst hdecoded
                cases hfresh : (peer.rxReplay.accept (packetSeq body)).1 with
                | false => exact Or.inl (.replayed hheader hsession hpeer hdecrypt hfresh)
                | true => exact Or.inr ⟨peerId, peer, body, hsession, hpeer, hdecrypt, hfresh⟩
              · exact Or.inl (.otherHeader hheader hsession hpeer hdecrypt hdecoded)

/-- The exits are all there are: any other packet is answered, ends a handshake, is
a fresh packet of a live session, or is passed on. -/
theorem rejects_or_taken (node : Node lib) (env : Env) (st : NodeState) (packet : ByteString) :
    Rejects node env st packet ∨ (answerTo node env st packet).isSome = true ∨
      (∃ header handshake result, Concludes node env st packet header handshake result) ∨
      (∃ header peerId peer body, SessionHeader node packet header ∧
        Accepts node st packet peerId peer header body) ∨
      ∃ header, networkHeader lib packet node.networkKey = some header ∧
        header.dstPeerId ≠ 0 ∧ header.dstPeerId ≠ node.ourId := by
  cases hheader : networkHeader lib packet node.networkKey with
  | none => exact Or.inl (.undecodable hheader)
  | some header =>
      by_cases hrequest : header.kind = kindHandshake1
      · exact (request_rejects_or_answered hheader hrequest).imp_right Or.inl
      by_cases hreply : header.kind = kindHandshake2
      · obtain hrejects | hconcludes := reply_rejects_or_concludes hheader hreply
        · exact Or.inl hrejects
        · exact Or.inr (Or.inr (Or.inl ⟨header, hconcludes⟩))
      by_cases hlocal : header.dstPeerId = 0 ∨ header.dstPeerId = node.ourId
      · have hsession : SessionHeader node packet header := ⟨hheader, hrequest, hreply, hlocal⟩
        obtain hrejects | ⟨peerId, peer, body, haccepts⟩ := session_rejects_or_accepts hsession
        · exact Or.inl hrejects
        · exact Or.inr (Or.inr (Or.inr (Or.inl ⟨header, peerId, peer, body, hsession, haccepts⟩)))
      · rw [not_or] at hlocal
        exact Or.inr (Or.inr (Or.inr (Or.inr ⟨header, rfl, hlocal⟩)))

/-! ## Runs of rejected datagrams -/

theorem sameBooks_of_rejected {event : Event} (h : Rejected node st event) :
    SameBooks st (step node st event).1 ∧ (step node st event).2 = [] := by
  cases event with
  | datagram env src data =>
      obtain ⟨packet, hpacket, hrejects⟩ := h
      have hstep : step node st (.datagram env src data) = (afterFeed node env st src data, []) :=
        (handleDatagram_of_wholePacket hpacket).trans (handlePacket_of_rejects hrejects src)
      rw [hstep]
      exact ⟨⟨rfl, rfl, rfl, rfl, rfl, rfl, rfl⟩, rfl⟩
  | _ => exact h.elim

theorem sameBooks_addPeer {st' : NodeState} (h : SameBooks st st') (now : Instant)
    (session : NewSession) :
    SameBooks (addPeer node now st session).2.1 (addPeer node now st' session).2.1 ∧
      (addPeer node now st' session).2.2 = (addPeer node now st session).2.2 := by
  rw [h.eq]
  cases haccept : acceptsSession node session st.peers with
  | false =>
      have haccept' : acceptsSession node session
          { st with assembler := st'.assembler }.peers = false := haccept
      rw [addPeer_of_not_accepts haccept, addPeer_of_not_accepts haccept']
      exact ⟨⟨rfl, rfl, rfl, rfl, rfl, rfl, rfl⟩, rfl⟩
  | true =>
      have haccept' : acceptsSession node session
          { st with assembler := st'.assembler }.peers = true := haccept
      rw [addPeer_of_accepts haccept, addPeer_of_accepts haccept']
      exact ⟨⟨rfl, rfl, rfl, rfl, rfl, rfl, rfl⟩, rfl⟩

theorem sameBooks_of_concludes {st' : NodeState} (hbooks : SameBooks st st')
    {header : NetworkHeader} {handshake : PendingHandshake} {result : HandshakeResult}
    (h : Concludes node env st packet header handshake result) (src : SocketAddr) :
    SameBooks (addPeer node env.now { st with pending := st.pending.erase header.sessionId }
        (resultSession node st src handshake result)).2.1
        (handlePacket node env st' src packet).1 ∧
      (handlePacket node env st' src packet).2 =
        (addPeer node env.now { st with pending := st.pending.erase header.sessionId }
          (resultSession node st src handshake result)).2.2 := by
  have hsession : resultSession node st' src handshake result =
      resultSession node st src handshake result := by
    rw [hbooks.eq]
    rfl
  have herased : SameBooks { st with pending := st.pending.erase header.sessionId }
      { st' with pending := st'.pending.erase header.sessionId } := by
    rw [hbooks.eq]
    exact ⟨rfl, rfl, rfl, rfl, rfl, rfl, rfl⟩
  rw [handlePacket_of_concludes (h.congr hbooks.pending), hsession]
  exact sameBooks_addPeer herased env.now _

variable (node) in
/-- However many datagrams are rejected, nothing but the assembler changes and
nothing is sent; and a handshake_2 that would have ended a pending handshake before
them still does, with the session that it would have led to. -/
theorem rejected_datagrams_change_nothing (st : NodeState) (datagrams : List Event)
    (hrejected : Guarded (Record.step node) (fun record event => Rejected node record.state event)
      ⟨st, []⟩ datagrams) :
    let after := runAll (Record.step node) ⟨st, []⟩ datagrams
    SameBooks st after.state ∧ after.trace = [] ∧
      ∀ env src data packet header handshake result,
        Concludes node env st packet header handshake result →
        wholePacket node env after.state src data = some packet →
        SameBooks (addPeer node env.now { st with pending := st.pending.erase header.sessionId }
            (resultSession node st src handshake result)).2.1
            (step node after.state (.datagram env src data)).1 ∧
          (step node after.state (.datagram env src data)).2 =
            (addPeer node env.now { st with pending := st.pending.erase header.sessionId }
              (resultSession node st src handshake result)).2.2 := by
  intro after
  have hrun : SameBooks st after.state ∧ after.trace = [] := by
    refine @guarded_invariant _ _ _ _ (fun record => SameBooks st record.state ∧ record.trace = [])
      (fun record event hinv hevent => ?_) _ _ ⟨SameBooks.refl st, rfl⟩ hrejected
    obtain ⟨hbooks, hsilent⟩ := sameBooks_of_rejected hevent
    refine ⟨hinv.1.trans hbooks, ?_⟩
    change record.trace ++ (step node record.state event).2 = []
    rw [hinv.2, hsilent]
    rfl
  refine ⟨hrun.1, hrun.2, fun env src data packet header handshake result h hpacket => ?_⟩
  have hfed : SameBooks st (afterFeed node env after.state src data) :=
    hrun.1.trans ⟨rfl, rfl, rfl, rfl, rfl, rfl, rfl⟩
  have hstep : step node after.state (.datagram env src data) =
      handlePacket node env (afterFeed node env after.state src data) src packet :=
    handleDatagram_of_wholePacket hpacket
  rw [hstep]
  exact sameBooks_of_concludes hfed h src

theorem rejected_of_undecodable {data : ByteString}
    (hheader : networkHeader lib data node.networkKey = none) (env : Env) (st : NodeState)
    (src : SocketAddr) : Rejected node st (.datagram env src data) := by
  have hfeed : st.assembler.feed lib env.now src data node.networkKey =
      (.notFragment, st.assembler) := by
    unfold FragmentAssembler.feed
    rw [openFragment_of_undecodable hheader]
  refine ⟨data, ?_, .undecodable hheader⟩
  unfold wholePacket relayTarget
  simp only [hheader, hfeed]

end Rejection

/-- Alice dials bob, and his answer opens the session although a datagram that
nobody can read arrives before it. -/
theorem answer_concludes_after_noise :
    ∃ (lib : Primitives) (dial : Dial lib) (bob : Node lib) (env env' : Env) (src : SocketAddr)
      (noise : ByteString) (result : HandshakeResult),
      dial.Starts bob.ourId ∧ nodeIdFromCert lib result.peerCert = bob.ourId ∧
        SameBooks
          (addPeer dial.node env'.now
            { (dial.start bob.ourId).2.1 with
              pending := (dial.start bob.ourId).2.1.pending.erase dial.sessionId }
            (resultSession dial.node (dial.start bob.ourId).2.1 src (dial.pending bob.ourId)
              result)).2.1
          (step dial.node (runAll (Record.step dial.node) ⟨(dial.start bob.ourId).2.1, []⟩
            [.datagram env src noise]).state
            (.datagram env' src (dial.answerBy bob env).msg)).1 := by
  have hlib := transparent_correct Sample.pair
  obtain ⟨dial, bob, env, hstarts, hnetwork, hvouched, hclock⟩ : ∃ (dial : Dial (transparent Sample.pair))
      (bob : Node (transparent Sample.pair)) (env : Env), dial.Starts bob.ourId ∧
      dial.node.networkKey = bob.networkKey ∧ Dial.Vouched bob dial.node env.unixTime ∧
      timestampValid env.unixTime env.unixTime :=
    ⟨Sample.caller "alice" 1 ⟨1, by decide⟩ "bob", Sample.node Sample.pair "bob" 2,
      Sample.env 1 3 ⟨3, by decide⟩, Sample.starts_caller Sample.alice_known (by decide) _ _ _, rfl,
      Sample.vouched_node Sample.bob_known (by decide) "alice" 1,
      show timestampValid 1001 1001 by decide⟩
  obtain ⟨result, hcert, hconcludes⟩ :=
    Dial.concludes_answer hlib hnetwork hvouched hclock hstarts.lookup_pending rfl rfl
  have hid : nodeIdFromCert (transparent Sample.pair) result.peerCert = bob.ourId :=
    congrArg (nodeIdFromCert (transparent Sample.pair)) hcert
  have hnoise : networkHeader (transparent Sample.pair) [0] dial.node.networkKey = none := rfl
  obtain ⟨-, -, hlater⟩ := rejected_datagrams_change_nothing dial.node (dial.start bob.ourId).2.1
    [.datagram env Core.Sample.source [0]]
    ⟨rejected_of_undecodable hnoise env _ Core.Sample.source, trivial⟩
  have hframe : kindHandshake2 ≠ kindHandshakeFrag := by decide
  exact ⟨_, dial, bob, env, env, Core.Sample.source, [0], result, hstarts, hid,
    (hlater env Core.Sample.source _ _ _ _ result hconcludes
      (wholePacket_of_header env _ _ hconcludes.decodes hframe (Or.inl rfl)).1).1⟩

end Liteway.Daemon
