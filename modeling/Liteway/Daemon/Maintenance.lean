import Liteway.Daemon.Receive

/-!
# Maintenance, discovery and the send path

What the node does on its own: connecting to lighthouses, repeating handshakes,
keeping sessions alive and dropping dead ones, and sending what the TUN device
hands over.
-/

namespace Liteway.Daemon

open Liteway.Library Liteway.Core

def discoveryRetry : Duration := Duration.fromSecs 10
def discoveryEntryTtl : Duration := Duration.fromSecs 120
def lighthouseReresolve : Duration := Duration.fromSecs 60

/-- Run a step for each element of a list, collecting the effects.  The step
knows its position. -/
def forEach {α : Type} (step : Nat → α → NodeState → NodeState × List Effect) :
    Nat → List α → NodeState → NodeState × List Effect
  | _, [], st => (st, [])
  | i, x :: xs, st =>
      let (st, effects) := step i x st
      let (st, rest) := forEach step (i + 1) xs st
      (st, effects ++ rest)

theorem forEach_state {α : Type} {step : Nat → α → NodeState → NodeState × List Effect}
    {xs : List α} (hstep : ∀ x ∈ xs, ∀ i st, (step i x st).1 = st) (i : Nat) (st : NodeState) :
    (forEach step i xs st).1 = st := by
  induction xs generalizing i st with
  | nil => rfl
  | cons x xs ih =>
      have hrest := ih (fun y hy => hstep y (List.mem_cons_of_mem x hy)) (i + 1) (step i x st).1
      exact hrest.trans (hstep x List.mem_cons_self i st)

section Maintenance

variable {lib : Primitives} (node : Node lib)

/-! ## Discovery -/

def sendLighthouseQuery (env : Env) (dstIp : IpAddr) (peerId : UInt32) (st : NodeState) :
    NodeState × List Effect :=
  match peerTx st peerId with
  | none => (st, [])
  | some (tx, st) =>
      let pkt := encryptLighthouseQueryPacket lib (env.rand []).sealing (env.rand []).padding tx.seq
        peerId tx.sessionId dstIp node.networkKey tx.key
      (st, (sendMessage node (env.part 0) (serializePacket pkt) tx.addr peerId).2)

def requestDiscovery (env : Env) (st : NodeState) (dstIp : IpAddr) : NodeState × List Effect :=
  if (st.discoveryPending.lookup dstIp).any fun last =>
      env.now.durationSince last < discoveryRetry then (st, [])
  else
    let st := { st with discoveryPending := st.discoveryPending.insert dstIp env.now }
    let targets := st.lighthouses.filterMap LighthouseSlot.peerId
    forEach (fun i peerId st => sendLighthouseQuery node (env.part i) dstIp peerId st) 0 targets st

/-- `resolve` is the answer of the name service. -/
def refreshLighthouseAddress (env : Env) (resolve : String → Option SocketAddr)
    (lighthouse : LighthouseSlot) (st : NodeState) : SocketAddr × NodeState :=
  if env.now.durationSince lighthouse.resolvedAt < lighthouseReresolve then (lighthouse.address, st)
  else
    let resolved := (resolve lighthouse.configured).getD lighthouse.address
    let refresh (slot : LighthouseSlot) : LighthouseSlot :=
      if slot.name ≠ lighthouse.name ∨ slot.configured ≠ lighthouse.configured then slot
      else if slot.address ≠ resolved then
        { slot with address := resolved, peerId := none, resolvedAt := env.now }
      else { slot with resolvedAt := env.now }
    (resolved, { st with lighthouses := st.lighthouses.map refresh })

def connectLighthouse (env : Env) (resolve : String → Option SocketAddr) (lighthouse : LighthouseSlot)
    (st : NodeState) : NodeState × List Effect :=
  let (address, st) := refreshLighthouseAddress env resolve lighthouse st
  (startHandshake node env st address none lighthouse.name).2

def connectLighthouses (env : Env) (resolve : String → Option SocketAddr) (st : NodeState) :
    NodeState × List Effect :=
  let disconnected := st.lighthouses.filter fun slot =>
    !slot.peerId.any fun peerId => (st.peers.lookup peerId).isSome
  forEach (fun i lighthouse st => connectLighthouse node (env.part i) resolve lighthouse st) 0
    disconnected st

/-! ## Handshake retransmission -/

def withRelayFallback (now : Instant) (timings : Timings) (relays : List (UInt32 × SocketAddr))
    (handshake : PendingHandshake) : PendingHandshake :=
  if handshake.relayFallbackDue now timings then
    match relays.find? fun relay => some relay.1 ≠ handshake.peerId with
    | some relay => { handshake with relayAddr := some relay.2 }
    | none => handshake
  else handshake

def withAttempt (now : Instant) (timings : Timings) (handshake : PendingHandshake) :
    PendingHandshake :=
  if handshake.retransmitDue now timings then handshake.recordAttempt now else handshake

def retransmitHandshakes (env : Env) (st : NodeState) : NodeState × List Effect :=
  let relays := (st.peers.entries.filter fun entry => entry.2.isRelay).map fun entry =>
    (entry.1, entry.2.addr)
  let alive := AssocMap.retain (fun _ handshake => !handshake.expired env.now node.timings) st.pending
  let routed := AssocMap.mapValues
    (fun _ handshake => withRelayFallback env.now node.timings relays handshake) alive
  let due := routed.entries.filter fun entry => entry.2.retransmitDue env.now node.timings
  let copies := due.flatMap fun entry => entry.2.targets.map fun target => (entry.2, target)
  let st := { st with
    pending := AssocMap.mapValues
      (fun _ handshake => withAttempt env.now node.timings handshake) routed }
  forEach (fun i copy st =>
    (st, (sendMessageWithId node (env.part i) copy.1.initiate.msg copy.2 (copy.1.peerId.getD 0)
      copy.1.initiate.myRxSessionId).2)) 0 copies st

/-! ## Keeping sessions alive -/

inductive Action where
  | send (addr : SocketAddr) (wire : ByteString)
  | lookup (ip : IpAddr)

def sealKeepalive (draw : Draw) (peerId : UInt32) (token : UInt64) (peer : PeerState) :
    ByteString × PeerState :=
  let (seq, peer) := peer.nextSeq
  (serializePacket (encryptKeepalivePacket lib draw.sealing draw.padding seq peerId
    peer.txSessionId token node.networkKey peer.txKey), peer)

def probePeer (env : Env) (peerId : UInt32) (peer : PeerState) : PeerState × List Action :=
  match peer.takePathProbe env.now node.timings (env.rand [1]).token with
  | (.punch direct token, peer) =>
      let (wire, peer) := sealKeepalive node (env.rand [1]) peerId token peer
      (peer, [.send direct wire])
  | (.lookup, peer) => (peer, ((primaryCertIp lib peer.cert).map Action.lookup).toList)
  | (.none, peer) => (peer, [])

/-- What a tick makes of one peer: its new state, what is to be sent, and whether
it is to be dropped. -/
def maintainPeer (env : Env) (peerId : UInt32) (peer : PeerState) :
    PeerState × List Action × Option DropReason :=
  if node.keepaliveEnabled then
    match peer.tick env.now node.timings (env.rand [0]).token with
    | (.drop reason, peer) => (peer, [], some reason)
    | (.keepalive token, peer) =>
        let addr := peer.addr
        let (wire, peer) := sealKeepalive node (env.rand [0]) peerId token peer
        let (peer, actions) := probePeer node env peerId peer
        (peer, .send addr wire :: actions, none)
    | (.idle, peer) =>
        let (peer, actions) := probePeer node env peerId peer
        (peer, actions, none)
  else if env.now.durationSince peer.lastSeen ≥ node.timings.peerExpiry then
    (peer, [], some .expired)
  else
    let (peer, actions) := probePeer node env peerId peer
    (peer, actions, none)

/-- The draws of a tick, by peer. -/
def Env.forPeer (env : Env) (peerId : UInt32) : Env := env.part peerId.toNat

/-- The section of `maintain_peers` under the peers lock. -/
def maintainPeersLocked (env : Env) (st : NodeState) : NodeState :=
  { st with
    peers := AssocMap.mapValues
      (fun peerId peer => (maintainPeer node (env.forPeer peerId) peerId peer).1) st.peers }

def maintainPeersDrops (env : Env) (st : NodeState) : List UInt32 :=
  st.peers.entries.filterMap fun entry =>
    (maintainPeer node (env.forPeer entry.1) entry.1 entry.2).2.2.map fun _ => entry.1

def maintainPeersActions (env : Env) (st : NodeState) : List Action :=
  st.peers.entries.flatMap fun entry =>
    (maintainPeer node (env.forPeer entry.1) entry.1 entry.2).2.1

def runAction (env : Env) (action : Action) (st : NodeState) : NodeState × List Effect :=
  match action with
  | .send addr wire => (st, sendWire wire addr)
  | .lookup ip => requestDiscovery node env st ip

def maintainPeers (env : Env) (st : NodeState) : NodeState × List Effect :=
  let drops := maintainPeersDrops node env st
  let actions := maintainPeersActions node env st
  let st := maintainPeersLocked node env st
  let (st, dropEffects) := forEach (fun _ peerId st => removePeer node st peerId) 0 drops st
  let (st, actionEffects) := forEach (fun i action st => runAction node (env.part i) action st) 0
    actions st
  (st, dropEffects ++ actionEffects)

def maintenanceTick (env : Env) (st : NodeState) : NodeState × List Effect :=
  let (st, retries) := retransmitHandshakes node (env.part 0) st
  let (st, effects) := maintainPeers node (env.part 1) st
  ({ st with
    discoveryPending := AssocMap.retain
      (fun _ last => env.now.durationSince last < discoveryEntryTtl) st.discoveryPending
    handshakeCache := st.handshakeCache.cleanup env.now }, retries ++ effects)

/-! ## The send path -/

def sendToOverlay (env : Env) (st : NodeState) (overlayNetworks : List IpNetwork)
    (ipPacket : ByteString) : NodeState × List Effect :=
  match parseDestIp ipPacket with
  | none => (st, [])
  | some dstIp =>
      if dstIp.isMulticast || dstIp.isLinkLocal then (st, [])
      else if isOverlayBroadcast dstIp overlayNetworks then (st, [])
      else
        match st.routes.lookup dstIp with
        | none => requestDiscovery node env st dstIp
        | some peerId =>
            match peerTx st peerId with
            | none => (st, [])
            | some (tx, st) =>
                let pkt := encryptDataPacket lib (env.rand []).sealing (env.rand []).padding tx.seq
                  peerId tx.sessionId ipPacket node.networkKey tx.key
                (st, sendWire (serializePacket pkt) tx.addr)

def notifyShutdown (env : Env) (st : NodeState) : NodeState × List Effect :=
  let effects := st.peers.entries.flatMap fun entry =>
    let draw := (env.forPeer entry.1).rand []
    let (seq, peer) := entry.2.nextSeq
    sendWire (serializePacket (encryptDisconnectPacket lib draw.sealing draw.padding seq entry.1
      peer.txSessionId node.networkKey peer.txKey)) peer.addr
  ({ st with peers := AssocMap.mapValues (fun _ peer => peer.nextSeq.2) st.peers }, effects)

end Maintenance

end Liteway.Daemon
