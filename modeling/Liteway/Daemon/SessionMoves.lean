import Liteway.Daemon.Changes

/-!
# What moves a session

A session leaves the relay with a packet that comes from elsewhere and is no
keepalive.  What brings such packets about is a probe of the direct path.
-/

namespace Liteway.Daemon

open Liteway.Library Liteway.Core

/-! ## What moves a session -/

section Moves

variable {peer : PeerState} {window : ReplayWindow} {src : SocketAddr} {now : Instant}
  {viaRelay isKeepalive : Bool}

theorem PeerState.relayed_receive (hbefore : peer.relayed = true)
    (hafter : (peer.receive window src now viaRelay isKeepalive).relayed = false) :
    peer.addr ≠ src ∧ viaRelay = false ∧ isKeepalive = false := by
  unfold PeerState.receive PeerState.markSeen at hafter
  simp only [hbefore, Bool.not_true, Bool.false_eq_true, ↓reduceIte, Bool.true_and] at hafter
  split at hafter
  · exact absurd hafter (by simp)
  rename_i haddr
  split at hafter
  · exact absurd hafter (by simp)
  rename_i hviaRelay
  split at hafter
  · rename_i hkeepalive
    split at hafter <;> exact absurd hafter (by simp)
  · rename_i hkeepalive
    exact ⟨haddr, by simpa using hviaRelay, by simpa using hkeepalive⟩

end Moves

section Ends

variable {lib : Primitives} (node : Node lib)

/-- The packet of a session that a datagram brings and that is accepted. -/
def takenFrom (env : Env) (st : NodeState) (src : SocketAddr) (data : ByteString) :
    Option (UInt32 × PacketBody) := do
  let packet ← wholePacket node env st src data
  let header ← networkHeader lib packet node.networkKey
  let peerId ← st.rxSessions.lookup header.sessionId
  let peer ← st.peers.lookup peerId
  let (decoded, body) ← decryptPacket lib packet node.networkKey peer.rxKey
  if decoded = header ∧ (peer.rxReplay.accept (packetSeq body)).1 then some (peerId, body) else none

def takesPacket (st : NodeState) (peerId : UInt32) : Event → Bool
  | .datagram env src data => (takenFrom node env st src data).any fun taken => taken.1 = peerId
  | _ => false

variable {node} {env : Env} {st : NodeState} {src : SocketAddr} {data packet : ByteString}
  {header : NetworkHeader} {body : PacketBody} {peerId : UInt32} {peer : PeerState}

theorem takenFrom_of_accepts (hpacket : wholePacket node env st src data = some packet)
    (hheader : networkHeader lib packet node.networkKey = some header)
    (h : Accepts node st packet peerId peer header body) :
    takenFrom node env st src data = some (peerId, body) := by
  simp [takenFrom, hpacket, hheader, h.session, h.live, h.decrypted, h.fresh]

/-- A keepalive for a peer, sealed under a key. -/
def IsKeepalive (node : Node lib) (peerId : UInt32) (key : SessionKey) (wire : ByteString) : Prop :=
  ∃ coins padding sessionId seq token, wire = serializePacket (encryptPacket lib coins padding
    peerId sessionId node.networkKey key (.keepalive seq token))

theorem isKeepalive_sealKeepalive (node : Node lib) (draw : Draw) (peerId : UInt32) (token : UInt64)
    (peer : PeerState) : IsKeepalive node peerId peer.txKey (sealKeepalive node draw peerId token peer).1 :=
  ⟨_, _, _, _, _, rfl⟩

theorem isKeepalive_of_probePeer {addr : SocketAddr} {wire : ByteString}
    (h : .send addr wire ∈ (probePeer node env peerId peer).2) :
    IsKeepalive node peerId peer.txKey wire := by
  have hsame := SameSession.takePathProbe peer env.now node.timings (env.rand [1]).token
  unfold probePeer at h
  split at h
  · rename_i hprobe
    rw [hprobe] at hsame
    cases List.mem_singleton.mp h
    rw [← hsame.txKey]
    exact isKeepalive_sealKeepalive node (env.rand [1]) peerId _ _
  · rw [Option.mem_toList, Option.map_eq_some_iff] at h
    obtain ⟨ip, -, hlookup⟩ := h
    contradiction
  · contradiction

theorem isKeepalive_of_maintainPeer {addr : SocketAddr} {wire : ByteString}
    (h : .send addr wire ∈ (maintainPeer node env peerId peer).2.1) :
    IsKeepalive node peerId peer.txKey wire := by
  have hsame := SameSession.tick peer env.now node.timings (env.rand [0]).token
  unfold maintainPeer at h
  split at h
  · split at h
    · contradiction
    · rename_i htick
      rw [htick] at hsame
      rw [← hsame.txKey]
      obtain hfirst | hprobe := List.mem_cons.mp h
      · cases hfirst
        exact isKeepalive_sealKeepalive node (env.rand [0]) peerId _ _
      · have hlater := isKeepalive_of_probePeer hprobe
        exact hlater
    · rename_i htick
      rw [htick] at hsame
      rw [← hsame.txKey]
      exact isKeepalive_of_probePeer h
  split at h
  · contradiction
  · exact isKeepalive_of_probePeer h

theorem isKeepalive_of_accepts (hlib : lib.Correct) {sender : Node lib}
    (hnetwork : node.networkKey = sender.networkKey) {wire : ByteString}
    (hwire : IsKeepalive sender node.ourId peer.rxKey wire)
    (hpacket : wholePacket node env st src wire = some packet)
    (h : Accepts node st packet peerId peer header body) : PacketBody.isKeepalive body = true := by
  obtain ⟨coins, padding, sessionId, seq, token, rfl⟩ := hwire
  rw [← hnetwork] at hpacket
  have hshort : (PacketBody.keepalive seq token).Short lib := by
    intro payload hpayload
    contradiction
  have hheader := networkHeader_encryptPacket hlib coins padding node.ourId sessionId
    node.networkKey peer.rxKey (.keepalive seq token)
  have hdecrypt := decryptPacket_encryptPacket hlib coins padding node.ourId sessionId
    node.networkKey peer.rxKey hshort trivial
  have hwhole := (wholePacket_of_header env st src hheader
    (PacketBody.keepalive seq token).kind_ne.2.2 (Or.inr rfl)).1
  cases Option.some.inj (hpacket.symm.trans hwhole)
  have hbody := Option.some.inj (h.decrypted.symm.trans hdecrypt)
  cases congrArg Prod.snd hbody
  rfl

theorem end_handleBody {accepted : UInt32} {after : PeerState}
    (hafter : (handleBody node env st src accepted body).1.peers.lookup peerId = some after) :
    ∃ before, st.peers.lookup peerId = some before ∧ SameEnd before after := by
  by_cases hbody : ∃ seq, body = .disconnect seq
  · obtain ⟨seq, rfl⟩ := hbody
    obtain ⟨gone, -, hremoved⟩ := retains_removePeer node st accepted
    exact (hremoved.ends.only peerId after hafter).2
  · rw [not_exists] at hbody
    exact ((retains_handleBody node env st src accepted hbody).only peerId after hafter).2

/-- What an event does to the session with a peer, when no handshake replaces it: it
stays on its path, or it takes in one of its packets. -/
theorem end_step {event : Event}
    (hoffer : ∀ session, offeredBy node st event = some session → session.id ≠ peerId)
    {after : PeerState} (hafter : (step node st event).1.peers.lookup peerId = some after) :
    ∃ before, st.peers.lookup peerId = some before ∧
      (SameEnd before after ∨ ∃ env src data packet header body,
        event = .datagram env src data ∧ wholePacket node env st src data = some packet ∧
        networkHeader lib packet node.networkKey = some header ∧
        Accepts node st packet peerId before header body ∧
        SameEnd (before.receive (before.rxReplay.accept (packetSeq body)).2 src env.now
          (srcIsRelay st peerId before src) (PacketBody.isKeepalive body)) after) := by
  have hchange : Change node st event (step node st event).1 := change_step st event
  generalize hstate : (step node st event).1 = st' at hchange hafter
  -- a session that another peer offers leaves this one alone
  have hother : ∀ (now : Instant) (base : NodeState) (session : NewSession),
      offeredBy node st event = some session → base.peers = st.peers →
      (addPeer node now base session).2.1.peers.lookup peerId = some after →
      st.peers.lookup peerId = some after := by
    intro now base session hoffered hbase hadded
    rw [lookup_addPeer, if_neg (fun h => hoffer session hoffered h.1.symm), hbase] at hadded
    exact hadded
  cases hchange with
  | @answered env src data packet response hfresh hoffered =>
      have hbefore := hother env.now { afterFeed node env st src data with
        handshakeCache := st.handshakeCache.insert (lib.blake3Hash packet) response.msg
          (nodeIdFromCert lib response.peerCert) env.now } _ hoffered rfl hafter
      exact ⟨after, hbefore, Or.inl (SameEnd.refl after)⟩
  | concluded hfresh hoffered =>
      have hbefore := hother _ _ _ hoffered (by rfl) hafter
      exact ⟨after, hbefore, Or.inl (SameEnd.refl after)⟩
  | @accepted env src data packet accepted peer header body hfresh hoffered hpacket hheader
      haccepts =>
      obtain ⟨between, hbetween, hend⟩ := end_handleBody hafter
      have hpeers : (afterAccept env (afterFeed node env st src data) src accepted peer
          body).peers = st.peers.insert accepted _ := rfl
      rw [hpeers, AssocMap.lookup_insert_eq] at hbetween
      split at hbetween
      · rename_i hid
        subst hid
        cases hbetween
        exact ⟨peer, haccepts.live, Or.inr ⟨env, src, data, packet, header, body, rfl, hpacket,
          hheader, haccepts, hend⟩⟩
      · exact ⟨between, hbetween, Or.inl hend⟩
  | retains hfresh hoffered hgone hretains =>
      obtain ⟨-, before, hbefore, hend⟩ := hretains.only peerId after hafter
      exact ⟨before, hbefore, Or.inl hend⟩
  | maintained hgone hretains =>
      obtain ⟨-, before, hbefore, hend⟩ := hretains.only peerId after hafter
      exact ⟨before, hbefore, Or.inl hend⟩

end Ends

/-! ## A probe that gets through -/

/-- A datagram on its way. -/
structure Mail where
  addr : SocketAddr
  wire : ByteString

def Action.mail : Action → Option Mail
  | .send addr wire => some ⟨addr, wire⟩
  | .lookup _ => none

def Effect.mailTo (addr : SocketAddr) : Effect → Option Mail
  | .send dst wire => if dst = addr then some ⟨dst, wire⟩ else none
  | _ => none

section Probe

variable {lib : Primitives} {node : Node lib} {env : Env} {st : NodeState} {src : SocketAddr}
  {peerId : UInt32} {peer : PeerState}

theorem step_maintenance (hdrops : maintainPeersDrops node (env.part 1) st = [])
    (hsends : ∀ action ∈ maintainPeersActions node (env.part 1) st, action.mail.isSome = true) :
    (step node st (.maintenance env)).1.peers =
        (maintainPeersLocked node (env.part 1) st).peers ∧
      (step node st (.maintenance env)).1.rxSessions = st.rxSessions := by
  obtain ⟨pending, hretry⟩ := retransmitHandshakes_state node (env.part 0) st
  have hdrops' : maintainPeersDrops node (env.part 1) { st with pending := pending } = [] := hdrops
  have hstate : (maintainPeers node (env.part 1) { st with pending := pending }).1 =
      maintainPeersLocked node (env.part 1) { st with pending := pending } := by
    unfold maintainPeers
    simp only [hdrops', forEach]
    apply forEach_state
    intro action haction i st'
    cases action with
    | send addr wire => rfl
    | lookup ip => exact absurd (hsends _ haction) (by simp [Action.mail])
  simp only [step, maintenanceTick, hretry, hstate]
  exact ⟨rfl, rfl⟩

theorem takesPacket_encryptPacket (hlib : lib.Correct) (env : Env) (src : SocketAddr)
    (coins : SealCoins) (padding : Padding) {sessionId : UInt32}
    (hsession : st.rxSessions.lookup sessionId = some peerId)
    (hlive : st.peers.lookup peerId = some peer) {body : PacketBody} (hshort : body.Short lib)
    (htexts : body.TextsReadBack lib) (hfresh : (peer.rxReplay.accept (packetSeq body)).1 = true) :
    takesPacket node st peerId (.datagram env src (serializePacket (encryptPacket lib coins padding
        node.ourId sessionId node.networkKey peer.rxKey body))) = true ∧
      offeredBy node st (.datagram env src (serializePacket (encryptPacket lib coins padding
        node.ourId sessionId node.networkKey peer.rxKey body))) = none := by
  have hheader := networkHeader_encryptPacket hlib coins padding node.ourId sessionId
    node.networkKey peer.rxKey body
  have hdecrypt := decryptPacket_encryptPacket hlib coins padding node.ourId sessionId
    node.networkKey peer.rxKey hshort htexts
  obtain ⟨hfirst, hsecond, hfrag⟩ := body.kind_ne
  have hwhole := (wholePacket_of_header env st src hheader hfrag (Or.inr rfl)).1
  constructor
  · simp [takesPacket, takenFrom_of_accepts hwhole hheader ⟨hsession, hlive, hdecrypt, hfresh⟩]
  · simp [offeredBy, hwhole, offered, hheader, hfirst, hsecond]

theorem step_keepalive (hlib : lib.Correct) (coins : SealCoins) (padding : Padding)
    {sessionId : UInt32} (hsession : st.rxSessions.lookup sessionId = some peerId)
    (hlive : st.peers.lookup peerId = some peer) {seq : UInt64} (token : UInt64)
    (hfresh : (peer.rxReplay.accept seq).1 = true) :
    ∃ st' ackSeq, (∀ id ≠ peerId, st'.peers.lookup id = st.peers.lookup id) ∧
      step node st (.datagram env src (serializePacket (encryptPacket lib coins padding node.ourId
          sessionId node.networkKey peer.rxKey (.keepalive seq token)))) =
        (st', [.accepted peerId seq, .send src (serializePacket (encryptPacket lib
          (env.rand []).sealing (env.rand []).padding peerId peer.txSessionId node.networkKey
          peer.txKey (.keepaliveAck ackSeq token)))]) := by
  have hshort : (PacketBody.keepalive seq token).Short lib := by
    intro payload hpayload
    contradiction
  have haccepted := @handleDatagram_encryptPacket _ node hlib env st src coins padding sessionId
    peerId peer _ hshort trivial hsession hlive hfresh
  have hsame := SameLink.receive peer (peer.rxReplay.accept seq).2 src env.now
    (srcIsRelay st peerId peer src) true
  generalize hafter : peer.receive (peer.rxReplay.accept seq).2 src env.now
    (srcIsRelay st peerId peer src) true = after at hsame
  have hfound : (st.peers.insert peerId after).lookup peerId = some after := AList.lookup_insert _
  refine ⟨{ st with peers := (st.peers.insert peerId after).insert peerId after.nextSeq.2 },
    after.nextSeq.1, fun id hid => ?_, haccepted.trans ?_⟩
  · change ((AList.insert _ _ _).insert _ _).lookup _ = _
    rw [AList.lookup_insert_ne hid, AList.lookup_insert_ne hid]
  · simp only [handleBody, answerKeepalive, peerTx, afterAccept, PacketBody.isKeepalive, packetSeq,
      hafter]
    rw [hfound, ← hsame.txSessionId, ← hsame.txKey]
    rfl

theorem maintainPeer_of_fresh (hkeepalive : peer.keepalive = none) (hseen : peer.lastSeen = env.now)
    (hacked : peer.lastAck = env.now) (hexpiry : 0 < node.timings.peerExpiry)
    (hinterval : 0 < node.timings.keepaliveInterval) :
    maintainPeer node env peerId peer =
      ((probePeer node env peerId peer).1, (probePeer node env peerId peer).2, none) := by
  have hage : ∀ limit : Duration, 0 < limit → ¬ Instant.durationSince env.now env.now ≥ limit := by
    intro limit hlimit
    unfold Instant.durationSince
    rw [Nat.sub_self]
    exact Nat.not_le.mpr hlimit
  have htick : peer.tick env.now node.timings (env.rand [0]).token = (.idle, peer) := by
    unfold PeerState.tick
    simp only [hkeepalive, hseen, hacked]
    rw [if_neg (hage _ hexpiry), if_neg (hage _ hinterval)]
  unfold maintainPeer
  simp only [htick, hseen]
  rw [if_neg (hage _ hexpiry)]
  split <;> rfl

theorem probePeer_of_relayed (hrelayed : peer.relayed = true) {direct : SocketAddr}
    (hdirect : peer.directAddr = some direct) (haddr : peer.addr ≠ direct)
    (hprobe : peer.nextProbe = none) :
    (probePeer node env peerId peer).2 = [.send direct (serializePacket
      (encryptPacket lib (env.rand [1]).sealing (env.rand [1]).padding peerId peer.txSessionId
        node.networkKey peer.txKey (.keepalive (peer.txSeq + 1) (env.rand [1]).token)))] := by
  have hother : ¬ some direct = some peer.addr := fun h => haddr (Option.some.inj h).symm
  unfold probePeer PeerState.takePathProbe
  simp only [hrelayed, hdirect, hprobe, Bool.not_true, Bool.false_eq_true, ↓reduceIte, hother,
    Option.any_none]
  rfl

theorem probePeer_of_direct (hrelayed : peer.relayed = false) :
    (probePeer node env peerId peer).2 = [] := by
  unfold probePeer PeerState.takePathProbe
  simp only [hrelayed, Bool.not_false, ↓reduceIte]

theorem PeerState.relayed_receive_direct (window : ReplayWindow) (now : Instant)
    (haddr : peer.addr ≠ src) : (peer.receive window src now false false).relayed = false := by
  unfold PeerState.receive PeerState.markSeen
  simp [haddr]

end Probe

end Liteway.Daemon
