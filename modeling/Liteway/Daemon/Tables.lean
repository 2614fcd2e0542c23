import Liteway.Daemon.CachedAnswers
import Liteway.Daemon.HandshakeMessages
import Liteway.Daemon.Retries
import Liteway.Library.Throttle
import Mathlib.Logic.Relation

/-!
# The tables beside the sessions

Handshakes under way, the lookups asked for lately and partial messages have
tables of their own.  Few calls write to them: this says which, and what they write.
-/

namespace Liteway.Daemon

open Liteway.Library Liteway.Core

/-! ## Calls that ask for lookups -/

/-- The table of lookups is a throttle. -/
def lookupStep : AssocMap IpAddr Instant → ThrottleMove IpAddr → AssocMap IpAddr Instant :=
  Throttle.step discoveryRetry discoveryEntryTtl

/-- A call that asks for lookups and leaves handshakes and partial messages as they
are. -/
structure Asks (moves : List (ThrottleMove IpAddr)) (st st' : NodeState) : Prop where
  pending : st'.pending = st.pending
  assembler : st'.assembler = st.assembler
  discoveryPending : st'.discoveryPending = runAll lookupStep st.discoveryPending moves

/-- A call that does not even ask. -/
abbrev SameTables (st st' : NodeState) : Prop := Asks [] st st'

namespace Asks

variable {moves moves' : List (ThrottleMove IpAddr)} {st middle st' : NodeState}

theorem refl (st : NodeState) : SameTables st st := ⟨rfl, rfl, rfl⟩

theorem trans (h : Asks moves st middle) (h' : Asks moves' middle st') :
    Asks (moves ++ moves') st st' where
  pending := h'.pending.trans h.pending
  assembler := h'.assembler.trans h.assembler
  discoveryPending := by
    rw [h'.discoveryPending, h.discoveryPending, runAll_append]

end Asks

theorem asks_forEach {α : Type} {step : Nat → α → NodeState → NodeState × List Effect}
    {moves : α → List (ThrottleMove IpAddr)}
    (hstep : ∀ i x st, Asks (moves x) st (step i x st).1) (i : Nat) (xs : List α) (st : NodeState) :
    Asks (xs.flatMap moves) st (forEach step i xs st).1 := by
  induction xs generalizing i st with
  | nil => exact Asks.refl st
  | cons x xs ih => exact (hstep i x st).trans (ih (i + 1) _)

theorem sameTables_forEach {α : Type} {step : Nat → α → NodeState → NodeState × List Effect}
    (hstep : ∀ i x st, SameTables st (step i x st).1) (i : Nat) (xs : List α) (st : NodeState) :
    SameTables st (forEach step i xs st).1 := by
  have h := @asks_forEach α step (fun _ => []) hstep i xs st
  rwa [List.flatMap_eq_nil_iff.mpr fun _ _ => rfl] at h

section Calls

variable {lib : Primitives} (node : Node lib)

theorem sameTables_peerTx {st st' : NodeState} {peerId : UInt32} {tx : PeerTx}
    (h : peerTx st peerId = some (tx, st')) : SameTables st st' := by
  unfold peerTx at h
  split at h
  · contradiction
  · cases Option.some.inj h
    exact ⟨rfl, rfl, rfl⟩

theorem sameTables_noteDirectEndpoint (st : NodeState) (peerId : UInt32) (addr : SocketAddr) :
    SameTables st (noteDirectEndpoint st peerId addr) := by
  unfold noteDirectEndpoint
  split
  · exact Asks.refl st
  split
  · exact Asks.refl st
  · exact ⟨rfl, rfl, rfl⟩

theorem sameTables_addPeer (now : Instant) (st : NodeState) (session : NewSession) :
    SameTables st (addPeer node now st session).2.1 := by
  cases haccept : acceptsSession node session st.peers with
  | false =>
      rw [addPeer_of_not_accepts haccept]
      exact Asks.refl st
  | true =>
      rw [addPeer_of_accepts haccept]
      exact ⟨rfl, rfl, rfl⟩

theorem sameTables_removePeer (st : NodeState) (peerId : UInt32) :
    SameTables st (removePeer node st peerId).1 := by
  unfold removePeer removePeerPeers
  cases st.peers.lookup peerId with
  | none => exact Asks.refl st
  | some peer => exact ⟨rfl, rfl, rfl⟩

theorem sameTables_introduce (env : Env) (st : NodeState) (peerId : UInt32) (targetIp : IpAddr)
    (foundId : UInt32) (found : PeerState) :
    SameTables st (introduce node env st peerId targetIp foundId found).1 := by
  unfold introduce
  split
  · exact Asks.refl st
  · rename_i htx
    exact sameTables_peerTx htx

theorem sameTables_handleLighthouseQuery (env : Env) (st : NodeState) (requesterId : UInt32)
    (targetIp : IpAddr) :
    SameTables st (handleLighthouseQuery node env st requesterId targetIp).1 := by
  unfold handleLighthouseQuery
  split
  · exact Asks.refl st
  split
  · exact Asks.refl st
  simp only
  split
  · rename_i foundId found _
    have hanswer := sameTables_introduce node (env.part 0) st requesterId targetIp foundId found
    split
    · exact hanswer
    split
    · exact hanswer
    · exact hanswer.trans (sameTables_introduce node (env.part 1) _ _ _ _ _)
  · split
    · exact Asks.refl st
    · rename_i htx
      exact sameTables_peerTx htx

theorem sameTables_answerKeepalive (env : Env) (st : NodeState) (peerId : UInt32) (token : UInt64)
    (replyTo : SocketAddr) : SameTables st (answerKeepalive node env st peerId token replyTo).1 := by
  unfold answerKeepalive
  split
  · exact Asks.refl st
  · rename_i htx
    exact sameTables_peerTx htx

theorem sameTables_handleKeepaliveAck (env : Env) (st : NodeState) (peerId : UInt32)
    (token : UInt64) : SameTables st (handleKeepaliveAck env st peerId token) := by
  unfold handleKeepaliveAck
  split
  · exact Asks.refl st
  · exact ⟨rfl, rfl, rfl⟩

theorem sameTables_sendLighthouseQuery (env : Env) (dstIp : IpAddr) (peerId : UInt32)
    (st : NodeState) : SameTables st (sendLighthouseQuery node env dstIp peerId st).1 := by
  unfold sendLighthouseQuery
  split
  · exact Asks.refl st
  · rename_i htx
    exact sameTables_peerTx htx

theorem asks_requestDiscovery (env : Env) (st : NodeState) (dstIp : IpAddr) :
    Asks [.ask dstIp env.now] st (requestDiscovery node env st dstIp).1 := by
  have hdue : (!(st.discoveryPending.lookup dstIp).any fun last =>
      decide (env.now.durationSince last < discoveryRetry)) =
      Throttle.due discoveryRetry st.discoveryPending dstIp env.now := rfl
  unfold requestDiscovery
  cases hheld : (st.discoveryPending.lookup dstIp).any fun last =>
      decide (env.now.durationSince last < discoveryRetry) with
  | true =>
      rw [hheld] at hdue
      refine ⟨rfl, rfl, ?_⟩
      simp only [↓reduceIte, runAll_cons, runAll_nil, lookupStep, Throttle.step, ← hdue,
        Bool.not_true, Bool.false_eq_true]
  | false =>
      rw [hheld] at hdue
      have hnoted : Asks [.ask dstIp env.now] st
          { st with discoveryPending := st.discoveryPending.insert dstIp env.now } := by
        refine ⟨rfl, rfl, ?_⟩
        simp only [runAll_cons, runAll_nil, lookupStep, Throttle.step, ← hdue, Bool.not_false,
          ↓reduceIte]
      exact hnoted.trans (sameTables_forEach (fun i peerId st =>
        sameTables_sendLighthouseQuery node (env.part i) dstIp peerId st) _ _ _)

def Action.asked (now : Instant) : Action → List (ThrottleMove IpAddr)
  | .send .. => []
  | .lookup ip => [.ask ip now]

theorem asks_maintainPeers (env : Env) (st : NodeState) :
    Asks ((maintainPeersActions node env st).flatMap (Action.asked env.now)) st
      (maintainPeers node env st).1 := by
  have hlocked : SameTables st (maintainPeersLocked node env st) := ⟨rfl, rfl, rfl⟩
  have hdropped := hlocked.trans (sameTables_forEach (fun _ peerId st =>
    sameTables_removePeer node st peerId) 0 (maintainPeersDrops node env st) _)
  refine hdropped.trans (asks_forEach (fun i action st => ?_) 0
    (maintainPeersActions node env st) _)
  cases action with
  | send addr wire => exact Asks.refl st
  | lookup ip => exact asks_requestDiscovery node (env.part i) st ip

theorem sameTables_refreshLighthouseAddress (env : Env) (resolve : String → Option SocketAddr)
    (lighthouse : LighthouseSlot) (st : NodeState) :
    SameTables st (refreshLighthouseAddress env resolve lighthouse st).2 := by
  unfold refreshLighthouseAddress
  split
  · exact Asks.refl st
  · exact ⟨rfl, rfl, rfl⟩

end Calls

/-! ## Calls that move the handshakes under way -/

section Handshakes

variable {lib : Primitives} (node : Node lib)

def dialled (env : Env) (addr : SocketAddr) (peerId : Option UInt32) (peerName : String) :
    PendingHandshake :=
  .new (createHandshake1 lib (env.rand []).initiator env.unixTime node.cert node.signingKey
    node.networkKey node.amRelay) addr peerId peerName env.now

def repeated (now : Instant) (relays : List (UInt32 × SocketAddr))
    (pending : AssocMap UInt32 PendingHandshake) : AssocMap UInt32 PendingHandshake :=
  AssocMap.mapValues (fun _ handshake => afterTick now node.timings relays handshake)
    (AssocMap.retain (fun _ handshake => !handshake.expired now node.timings) pending)

/-- What can happen to the handshakes under way at some time. -/
inductive PendingMove (now : Instant) :
    AssocMap UInt32 PendingHandshake → AssocMap UInt32 PendingHandshake → Prop
  | started {pending : AssocMap UInt32 PendingHandshake} (env : Env) (henv : env.now = now)
      (addr : SocketAddr) (peerId : Option UInt32) (peerName : String)
      (hnew : AssocMap.any (fun _ pending => duplicates addr peerId pending) pending = false) :
      PendingMove now pending (pending.insert (dialled node env addr peerId peerName).initiate.myRxSessionId
        (dialled node env addr peerId peerName))
  | concluded (pending : AssocMap UInt32 PendingHandshake) (sessionId : UInt32) :
      PendingMove now pending (pending.erase sessionId)
  | ticked (pending : AssocMap UInt32 PendingHandshake) (relays : List (UInt32 × SocketAddr)) :
      PendingMove now pending (repeated node now relays pending)

abbrev PendingMoves (now : Instant) :
    AssocMap UInt32 PendingHandshake → AssocMap UInt32 PendingHandshake → Prop :=
  Relation.ReflTransGen (PendingMove node now)

/-- A call that starts and ends handshakes and leaves the other two tables as they
are. -/
structure Handles (now : Instant) (st st' : NodeState) : Prop where
  pending : PendingMoves node now st.pending st'.pending
  assembler : st'.assembler = st.assembler
  discoveryPending : st'.discoveryPending = st.discoveryPending

namespace Handles

variable {node} {now : Instant} {st middle st' : NodeState}

theorem ofSame (h : SameTables st st') : Handles node now st st' where
  pending := h.pending ▸ .refl
  assembler := h.assembler
  discoveryPending := h.discoveryPending

theorem refl (st : NodeState) : Handles node now st st := ofSame (Asks.refl st)

theorem trans (h : Handles node now st middle) (h' : Handles node now middle st') : Handles node now st st' where
  pending := h.pending.trans h'.pending
  assembler := h'.assembler.trans h.assembler
  discoveryPending := h'.discoveryPending.trans h.discoveryPending

end Handles

theorem handles_forEach {now : Instant} {α : Type} {step : Nat → α → NodeState → NodeState × List Effect}
    (hstep : ∀ i x st, Handles node now st (step i x st).1) (i : Nat) (xs : List α) (st : NodeState) :
    Handles node now st (forEach step i xs st).1 := by
  induction xs generalizing i st with
  | nil => exact Handles.refl st
  | cons x xs ih => exact (hstep i x st).trans (ih (i + 1) _)

theorem handles_startHandshake (env : Env) (st : NodeState) (addr : SocketAddr)
    (peerId : Option UInt32) (peerName : String) :
    Handles node env.now st (startHandshake node env st addr peerId peerName).2.1 := by
  unfold startHandshake
  split
  · exact Handles.refl st
  rename_i hnew
  simp only
  split
  · exact Handles.refl st
  · exact ⟨.single (.started env rfl addr peerId peerName (by simpa using hnew)), rfl, rfl⟩

theorem handles_handleHandshake1 (env : Env) (st : NodeState) (src : SocketAddr)
    (packet : ByteString) : Handles node env.now st (handleHandshake1 node env st src packet).1 := by
  unfold handleHandshake1
  simp only
  split
  · exact .ofSame (sameTables_noteDirectEndpoint st _ src)
  split
  · exact Handles.refl st
  split
  · exact Handles.refl st
  · rename_i response _ _
    have hcached : SameTables st { st with
        handshakeCache := st.handshakeCache.insert (lib.blake3Hash packet) response.msg
          (nodeIdFromCert lib response.peerCert) env.now } := ⟨rfl, rfl, rfl⟩
    exact .ofSame (hcached.trans (sameTables_addPeer node env.now _ _))

theorem handles_handleHandshake2 (env : Env) (st : NodeState) (src : SocketAddr)
    (packet : ByteString) (sessionId : UInt32) :
    Handles node env.now st (handleHandshake2 node env st src packet sessionId).1 := by
  unfold handleHandshake2
  split
  · exact Handles.refl st
  split
  · exact Handles.refl st
  split
  · exact Handles.refl st
  · have hended : Handles node env.now st { st with pending := st.pending.erase sessionId } :=
      ⟨.single (.concluded st.pending sessionId), rfl, rfl⟩
    exact hended.trans (.ofSame (sameTables_addPeer node env.now _ _))

theorem handles_handleBody (env : Env) (st : NodeState) (src : SocketAddr) (peerId : UInt32)
    (body : PacketBody) : Handles node env.now st (handleBody node env st src peerId body).1 := by
  cases body with
  | data seq ipPacket => exact Handles.refl st
  | relayForward seq nextPeerId innerPacket =>
      simp only [handleBody]
      split <;> exact Handles.refl st
  | disconnect seq => exact .ofSame (sameTables_removePeer node st peerId)
  | lighthouseQuery seq targetIp =>
      exact .ofSame (sameTables_handleLighthouseQuery node env st peerId targetIp)
  | lighthouseResponse seq targetIp foundId peerAddr peerCert peerIsRelay =>
      simp only [handleBody, handleLighthouseResponse]
      iterate 4
        split
        · exact Handles.refl st
      split
      · exact ⟨.refl, rfl, rfl⟩
      · exact handles_startHandshake node env st peerAddr _ _
  | lighthouseNotFound seq targetIp => exact Handles.refl st
  | keepalive seq token => exact .ofSame (sameTables_answerKeepalive node env st peerId token src)
  | keepaliveAck seq token => exact .ofSame (sameTables_handleKeepaliveAck env st peerId token)

theorem handles_handlePacket (env : Env) (st : NodeState) (src : SocketAddr) (packet : ByteString) :
    Handles node env.now st (handlePacket node env st src packet).1 := by
  unfold handlePacket
  split
  · exact Handles.refl st
  rename_i header _
  split
  · exact handles_handleHandshake1 node env st src packet
  split
  · exact handles_handleHandshake2 node env st src packet header.sessionId
  split
  · exact Handles.refl st
  obtain h | ⟨peerId, peer, body, -, h⟩ := handleSessionPacket_cases node env st src packet header
  · rw [h]
    exact Handles.refl st
  · rw [h]
    have haccepted : SameTables st (afterAccept env st src peerId peer body) := ⟨rfl, rfl, rfl⟩
    exact (Handles.ofSame haccepted).trans (handles_handleBody node env _ src peerId body)

theorem handles_connectLighthouses (env : Env) (resolve : String → Option SocketAddr)
    (st : NodeState) : Handles node env.now st (connectLighthouses node env resolve st).1 := by
  refine handles_forEach node (fun i lighthouse st => ?_) 0 _ st
  exact (Handles.ofSame (sameTables_refreshLighthouseAddress (env.part i) resolve lighthouse st)).trans
    (handles_startHandshake node (env.part i) _ _ none lighthouse.name)

theorem retransmitHandshakes_tables (env : Env) (st : NodeState) :
    (retransmitHandshakes node env st).1 =
      { st with pending := repeated node env.now (connectedRelays st) st.pending } := by
  rw [retransmitHandshakes_eq, forEach_state (fun _ _ _ _ => rfl)]
  have hpending : AssocMap.mapValues
      (fun _ handshake => withAttempt env.now node.timings handshake) (routedHandshakes node env st) =
      repeated node env.now (connectedRelays st) st.pending := by
    unfold routedHandshakes repeated AssocMap.mapValues
    simp only [List.map_map, Function.comp_def, afterTick]
  rw [hpending]

theorem maintenanceTick_tables (env : Env) (st : NodeState) :
    (maintenanceTick node env st).1.pending =
        repeated node env.now (connectedRelays st) st.pending ∧
      (maintenanceTick node env st).1.assembler = st.assembler ∧
      (maintenanceTick node env st).1.discoveryPending = runAll lookupStep st.discoveryPending
        ((maintainPeersActions node (env.part 1) st).flatMap (Action.asked env.now) ++
          [.forget env.now]) := by
  have hretried := retransmitHandshakes_tables node (env.part 0) st
  unfold maintenanceTick
  generalize retransmitHandshakes node (env.part 0) st = retried at hretried ⊢
  obtain ⟨middle, retries⟩ := retried
  subst hretried
  have hpeers := asks_maintainPeers node (env.part 1) { st with
    pending := repeated node env.now (connectedRelays st) st.pending }
  refine ⟨hpeers.pending, hpeers.assembler, ?_⟩
  rw [runAll_append]
  exact congrArg (fun table => lookupStep table (.forget env.now)) hpeers.discoveryPending

end Handshakes

/-! ## Events -/

section Events

variable {lib : Primitives} (node : Node lib)

def fed : Event → List FragmentCall
  | .datagram env src data =>
      if (relayTarget node data).isSome then [] else [.feed env.now src data node.networkKey]
  | .cleanup now => [.cleanup now]
  | _ => []

def unrouted (st : NodeState) (overlayNetworks : List IpNetwork) (ipPacket : ByteString) :
    Option IpAddr :=
  match parseDestIp ipPacket with
  | none => none
  | some dstIp =>
      if dstIp.isMulticast || dstIp.isLinkLocal then none
      else if isOverlayBroadcast dstIp overlayNetworks then none
      else if (st.routes.lookup dstIp).isSome then none
      else some dstIp

def asked (st : NodeState) : Event → List (ThrottleMove IpAddr)
  | .maintenance env =>
      (maintainPeersActions node (env.part 1) st).flatMap (Action.asked env.now) ++
        [.forget env.now]
  | .tunPacket env overlayNetworks ipPacket =>
      (unrouted st overlayNetworks ipPacket).toList.map (ThrottleMove.ask · env.now)
  | _ => []

theorem sendToOverlay_of_unrouted {st : NodeState} {overlayNetworks : List IpNetwork}
    {ipPacket : ByteString} {dstIp : IpAddr} (h : unrouted st overlayNetworks ipPacket = some dstIp)
    (env : Env) :
    sendToOverlay node env st overlayNetworks ipPacket = requestDiscovery node env st dstIp := by
  unfold unrouted at h
  unfold sendToOverlay
  split at h
  · contradiction
  split at h
  · contradiction
  split at h
  · contradiction
  split at h
  · contradiction
  rename_i hdst hunicast hbroadcast hroute
  cases Option.some.inj h
  have hnone : st.routes.lookup dstIp = none := by simpa using hroute
  simp only [hdst, hunicast, hbroadcast, hnone, Bool.false_eq_true, ↓reduceIte]

theorem sameTables_sendToOverlay {st : NodeState} {overlayNetworks : List IpNetwork}
    {ipPacket : ByteString} (h : unrouted st overlayNetworks ipPacket = none) (env : Env) :
    SameTables st (sendToOverlay node env st overlayNetworks ipPacket).1 := by
  unfold unrouted at h
  unfold sendToOverlay
  split
  · exact Asks.refl st
  rename_i dstIp hdst
  simp only [hdst] at h
  split
  · exact Asks.refl st
  rename_i hunicast
  rw [if_neg hunicast] at h
  split
  · exact Asks.refl st
  rename_i hbroadcast
  rw [if_neg hbroadcast] at h
  split
  · rename_i hroute
    simp [hroute] at h
  split
  · exact Asks.refl st
  · rename_i htx
    exact sameTables_peerTx htx

theorem asks_sendToOverlay (env : Env) (st : NodeState) (overlayNetworks : List IpNetwork)
    (ipPacket : ByteString) :
    Asks (asked node st (.tunPacket env overlayNetworks ipPacket)) st
      (sendToOverlay node env st overlayNetworks ipPacket).1 := by
  change Asks ((unrouted st overlayNetworks ipPacket).toList.map (ThrottleMove.ask · env.now)) st _
  cases hdst : unrouted st overlayNetworks ipPacket with
  | none => exact sameTables_sendToOverlay node hdst env
  | some dstIp =>
      rw [sendToOverlay_of_unrouted node hdst]
      exact asks_requestDiscovery node env st dstIp

theorem handles_handleDatagram (env : Env) (st : NodeState) (src : SocketAddr) (data : ByteString) :
    Handles node env.now { st with assembler := st.assembler.calls lib (fed node (.datagram env src data)) }
      (handleDatagram node env st src data).1 := by
  have hfed : fed node (.datagram env src data) = if (relayTarget node data).isSome then []
      else [.feed env.now src data node.networkKey] := rfl
  unfold handleDatagram
  rw [hfed]
  cases relayTarget node data with
  | some dstPeerId =>
      simp only [Option.isSome_some, ↓reduceIte]
      exact Handles.refl st
  | none =>
      simp only [Option.isSome_none, Bool.false_eq_true, ↓reduceIte]
      cases hfeed : st.assembler.feed lib env.now src data node.networkKey with
      | mk result assembler =>
          have hcalls : st.assembler.calls lib [.feed env.now src data node.networkKey] =
              assembler := congrArg Prod.snd hfeed
          rw [hcalls]
          cases result with
          | buffered => exact Handles.refl _
          | complete message => exact handles_handlePacket node env _ src message
          | notFragment => exact handles_handlePacket node env _ src data

theorem assembler_step (st : NodeState) (event : Event) :
    (step node st event).1.assembler = st.assembler.calls lib (fed node event) := by
  cases event with
  | datagram env src data => exact (handles_handleDatagram node env st src data).assembler
  | cleanup now => rfl
  | maintenance env => exact (maintenanceTick_tables node env st).2.1
  | punch env resolve => exact (handles_connectLighthouses node env resolve st).assembler
  | tunPacket env overlayNetworks ipPacket =>
      exact (asks_sendToOverlay node env st overlayNetworks ipPacket).assembler
  | shutdown env => rfl

theorem discoveryPending_step (st : NodeState) (event : Event) :
    (step node st event).1.discoveryPending =
      runAll lookupStep st.discoveryPending (asked node st event) := by
  cases event with
  | datagram env src data => exact (handles_handleDatagram node env st src data).discoveryPending
  | cleanup now => rfl
  | maintenance env => exact (maintenanceTick_tables node env st).2.2
  | punch env resolve => exact (handles_connectLighthouses node env resolve st).discoveryPending
  | tunPacket env overlayNetworks ipPacket =>
      exact (asks_sendToOverlay node env st overlayNetworks ipPacket).discoveryPending
  | shutdown env => rfl

theorem pending_step (st : NodeState) (event : Event) :
    PendingMoves node event.now st.pending (step node st event).1.pending := by
  cases event with
  | datagram env src data => exact (handles_handleDatagram node env st src data).pending
  | cleanup now => exact .refl
  | maintenance env =>
      have htick := (maintenanceTick_tables node env st).1
      change PendingMoves node env.now st.pending (maintenanceTick node env st).1.pending
      rw [htick]
      exact .single (.ticked _ _)
  | punch env resolve => exact (handles_connectLighthouses node env resolve st).pending
  | tunPacket env overlayNetworks ipPacket =>
      have hsame := (asks_sendToOverlay node env st overlayNetworks ipPacket).pending
      change PendingMoves node env.now st.pending (sendToOverlay node env st overlayNetworks ipPacket).1.pending
      rw [hsame]
  | shutdown env => exact .refl

end Events

end Liteway.Daemon
