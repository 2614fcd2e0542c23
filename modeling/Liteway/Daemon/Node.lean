import Liteway.Core.Frag
import Liteway.Daemon.Peer
import Liteway.Daemon.Routes

/-!
# A node and its sessions

The configuration a node starts with, the state behind its locks, and the
operations that install and remove a session.  Each lock-protected section is a
function of its own, since locks are taken one at a time.  Clock readings,
random draws and the health of the socket are inputs of every call.
-/

namespace Liteway.Daemon

open Liteway.Library Liteway.Core

/-! ## Inputs and effects of a call -/

/-- Everything that can be drawn at one place in a call. -/
structure Draw where
  sealing : SealCoins
  padding : Padding
  word : UInt32
  token : UInt64
  initiator : InitiatorCoins
  responder : ResponderCoins

/-- The random draws of a call, by their place in it. -/
abbrev Entropy := List Nat → Draw

/-- The draws of the `k`-th part of a call. -/
def Entropy.part (rand : Entropy) (k : Nat) : Entropy := fun path => rand (k :: path)

/-- One reading of both clocks, whether the socket takes datagrams, and the
random draws. -/
structure Env where
  now : Instant
  unixTime : UInt64
  socketOk : Bool
  rand : Entropy

def Env.part (env : Env) (k : Nat) : Env := { env with rand := env.rand.part k }

/-- What a call does to the world.  The last two leave no trace outside; they
mark a session being installed and a packet being accepted. -/
inductive Effect where
  | send (addr : SocketAddr) (wire : ByteString)
  | tunWrite (ipPacket : ByteString)
  | addRoute (route : IpNetwork) (iface : String)
  | delRoute (route : IpNetwork) (iface : String)
  | installed (peerId : UInt32) (addr : SocketAddr) (relayed : Bool)
  | accepted (peerId : UInt32) (seq : UInt64)
deriving DecidableEq

/-! ## Configuration and state -/

structure Node (lib : Primitives) where
  cert : Cert
  signingKey : HybridSigningKey
  caVk : HybridVerifyKey
  networkKey : NetworkKey
  maxDatagram : Nat
  minDatagram_le : minDatagram ≤ maxDatagram
  maxDatagram_le : maxDatagram ≤ defaultMaxDatagram
  amLighthouse : Bool
  amRelay : Bool
  keepaliveEnabled : Bool
  timings : Timings
  ifaceName : Option String

namespace Node

variable {lib : Primitives}

def ourId (node : Node lib) : UInt32 := nodeIdFromCert lib node.cert

def localNetworks (node : Node lib) : List IpNetwork := authorizedPeerRoutes lib node.cert

end Node

/-- The state behind the locks, and the assembler of the receive thread. -/
structure NodeState where
  peers : AssocMap UInt32 PeerState
  pending : AssocMap UInt32 PendingHandshake
  routes : RouteTable
  rxSessions : AssocMap UInt32 UInt32
  lighthouses : List LighthouseSlot
  handshakeCache : HandshakeCache
  discoveryPending : AssocMap IpAddr Instant
  assembler : FragmentAssembler

/-- A node that has just started, with its lighthouses resolved. -/
def NodeState.initial (lighthouses : List LighthouseSlot) : NodeState where
  peers := ∅
  pending := ∅
  routes := .new
  rxSessions := ∅
  lighthouses := lighthouses.map fun slot => { slot with peerId := none }
  handshakeCache := .new
  discoveryPending := ∅
  assembler := .new

/-! ## Transport -/

section Transport

variable {lib : Primitives} (node : Node lib)

def sendWire (wire : ByteString) (addr : SocketAddr) : List Effect := [.send addr wire]

/-- Whether all datagrams left, and those that did.  A socket that fails is taken
to send nothing. -/
def sendMessageWithId (env : Env) (msg : ByteString) (addr : SocketAddr) (dstPeerId msgId : UInt32) :
    Bool × List Effect :=
  match sendFragmentedWithId lib (fun i => (env.rand [i]).sealing) msg node.networkKey
      node.maxDatagram dstPeerId msgId with
  | .error _ => (false, [])
  | .ok datagrams => if env.socketOk then (true, datagrams.map (.send addr)) else (false, [])

def sendMessage (env : Env) (msg : ByteString) (addr : SocketAddr) (dstPeerId : UInt32) :
    Bool × List Effect :=
  sendMessageWithId node env msg addr dstPeerId (env.rand []).word

structure PeerTx where
  addr : SocketAddr
  seq : UInt64
  sessionId : UInt32
  key : SessionKey

def peerTx (st : NodeState) (peerId : UInt32) : Option (PeerTx × NodeState) :=
  match st.peers.lookup peerId with
  | none => none
  | some peer =>
      let (seq, peer') := peer.nextSeq
      some ({ addr := peer.addr, seq := seq, sessionId := peer.txSessionId, key := peer.txKey },
        { st with peers := st.peers.insert peerId peer' })

end Transport

/-! ## Starting a handshake -/

section Handshakes

variable {lib : Primitives} (node : Node lib)

/-- The pending handshake a new one would repeat. -/
def duplicates (addr : SocketAddr) (peerId : Option UInt32) (pending : PendingHandshake) : Bool :=
  match pending.peerId, peerId with
  | some existing, some wanted => existing = wanted
  | _, _ => pending.directAddr = addr

def startHandshake (env : Env) (st : NodeState) (addr : SocketAddr) (peerId : Option UInt32)
    (peerName : String) : Bool × NodeState × List Effect :=
  if AssocMap.any (fun _ pending => duplicates addr peerId pending) st.pending then (false, st, [])
  else
    let init := createHandshake1 lib (env.rand []).initiator env.unixTime node.cert node.signingKey
      node.networkKey node.amRelay
    let sessionId := init.myRxSessionId
    let (sent, effects) := sendMessageWithId node (env.part 0) init.msg addr (peerId.getD 0) sessionId
    if !sent then (false, st, effects)
    else
      let pending := PendingHandshake.new init addr peerId peerName env.now
      (true, { st with pending := st.pending.insert sessionId pending }, effects)

/-! ## Installing a session -/

/-- The arguments of `add_peer`. -/
structure NewSession where
  id : UInt32
  sessionKey : SessionKey
  cert : Cert
  addr : SocketAddr
  directAddr : Option SocketAddr
  relayed : Bool
  isRelay : Bool
  txSessionId : UInt32
  rxSessionId : UInt32
  initiatorId : UInt32
  simultaneous : Bool

inductive AddPeerOutcome where
  | added
  | keptExisting
deriving DecidableEq

/-- Whether the session may take the place of the one there is. -/
def acceptsSession (session : NewSession) (peers : AssocMap UInt32 PeerState) : Bool :=
  acceptHandshakeSession node.ourId session.id
    ((peers.lookup session.id).map PeerState.handshakeInitiatorId) session.initiatorId
    session.simultaneous

/-- The entry that `add_peer` puts into the peer map. -/
def newPeer (now : Instant) (session : NewSession) (previous : Option PeerState) : PeerState :=
  let directAddr := session.directAddr.or (previous.bind PeerState.directAddr)
  { name := session.cert.body.info.name
    cert := session.cert
    txKey := deriveTrafficKey lib session.sessionKey node.ourId session.id
    rxKey := deriveTrafficKey lib session.sessionKey session.id node.ourId
    addr := session.addr
    directAddr := directAddr
    isRelay := session.isRelay
    txSessionId := session.txSessionId
    rxSessionId := session.rxSessionId
    txSeq := 0
    rxReplay := ReplayWindow.new
    lastSeen := now
    lastAck := now
    routes := authorizedPeerRoutes lib session.cert
    handshakeInitiatorId := session.initiatorId
    keepalive := none
    relayed := session.relayed && directAddr ≠ some session.addr
    nextProbe := none
    probeInterval := node.timings.directProbeInterval
    probeToken := none }

/-- The section under the peers lock: the new state and the session id of the
entry that was replaced, or nothing when the session there is kept. -/
def addPeerPeers (now : Instant) (session : NewSession) (st : NodeState) :
    Option (NodeState × Option UInt32) :=
  if acceptsSession node session st.peers then
    let previous := st.peers.lookup session.id
    some ({ st with peers := st.peers.insert session.id (newPeer node now session previous) },
      previous.map PeerState.rxSessionId)
  else none

/-- The section under the rx_sessions lock. -/
def addPeerSessions (oldRxSessionId : Option UInt32) (session : NewSession) (st : NodeState) :
    NodeState :=
  let sessions :=
    match oldRxSessionId with
    | none => st.rxSessions
    | some old => st.rxSessions.erase old
  { st with rxSessions := sessions.insert session.rxSessionId session.id }

/-- The section under the routes lock. -/
def addPeerRoutes (lib : Primitives) (session : NewSession) (st : NodeState) : NodeState :=
  { st with
    routes := st.routes.insertAll (authorizedPeerRoutes lib session.cert) session.id }

def bindLighthouse (addr : SocketAddr) (name : String) (peerId : UInt32) (st : NodeState) :
    NodeState :=
  { st with
    lighthouses := st.lighthouses.map fun slot =>
      if slot.address = addr ∨ slot.name = name then { slot with peerId := some peerId } else slot }

def addPeer (now : Instant) (st : NodeState) (session : NewSession) :
    AddPeerOutcome × NodeState × List Effect :=
  match addPeerPeers node now session st with
  | none => (.keptExisting, st, [])
  | some (st, oldRxSessionId) =>
      let st := addPeerSessions oldRxSessionId session st
      let st := addPeerRoutes lib session st
      let routeEffects :=
        match node.ifaceName with
        | none => []
        | some iface => (authorizedPeerRoutes lib session.cert).map (Effect.addRoute · iface)
      let st := bindLighthouse session.addr session.cert.body.info.name session.id st
      (.added, st, .installed session.id session.addr session.relayed :: routeEffects)

/-- The state once `add_peer` has accepted a session. -/
def withSession (now : Instant) (session : NewSession) (st : NodeState) : NodeState :=
  let previous := st.peers.lookup session.id
  let st := { st with peers := st.peers.insert session.id (newPeer node now session previous) }
  let st := addPeerSessions (previous.map PeerState.rxSessionId) session st
  let st := addPeerRoutes lib session st
  bindLighthouse session.addr session.cert.body.info.name session.id st

@[simp] theorem withSession_peers (now : Instant) (session : NewSession) (st : NodeState) :
    (withSession node now session st).peers =
      st.peers.insert session.id (newPeer node now session (st.peers.lookup session.id)) := rfl

@[simp] theorem withSession_pending (now : Instant) (session : NewSession) (st : NodeState) :
    (withSession node now session st).pending = st.pending := rfl

@[simp] theorem withSession_handshakeCache (now : Instant) (session : NewSession) (st : NodeState) :
    (withSession node now session st).handshakeCache = st.handshakeCache := rfl

theorem lookup_rxSessions_withSession (now : Instant) (session : NewSession) (st : NodeState) :
    (withSession node now session st).rxSessions.lookup session.rxSessionId = some session.id :=
  AList.lookup_insert _

theorem addPeer_of_accepts {node : Node lib} {now : Instant} {st : NodeState}
    {session : NewSession} (haccept : acceptsSession node session st.peers = true) :
    addPeer node now st session =
      (.added, withSession node now session st,
        .installed session.id session.addr session.relayed ::
          match node.ifaceName with
          | none => []
          | some iface => (authorizedPeerRoutes lib session.cert).map (Effect.addRoute · iface)) := by
  unfold addPeer addPeerPeers
  simp only [haccept, ↓reduceIte]
  rfl

theorem addPeer_of_not_accepts {node : Node lib} {now : Instant} {st : NodeState}
    {session : NewSession} (haccept : acceptsSession node session st.peers = false) :
    addPeer node now st session = (.keptExisting, st, []) := by
  unfold addPeer addPeerPeers
  simp only [haccept, Bool.false_eq_true, ↓reduceIte]

/-! ## Removing a session -/

/-- The section under the peers lock. -/
def removePeerPeers (peerId : UInt32) (st : NodeState) : Option (PeerState × NodeState) :=
  match st.peers.lookup peerId with
  | none => none
  | some peer => some (peer, { st with peers := st.peers.erase peerId })

/-- The section under the rx_sessions lock. -/
def removePeerSessions (rxSessionId : UInt32) (st : NodeState) : NodeState :=
  { st with rxSessions := st.rxSessions.erase rxSessionId }

/-- The section under the routes lock. -/
def removePeerRoutes (peerId : UInt32) (st : NodeState) : NodeState :=
  { st with routes := st.routes.removePeer peerId }

/-- The section under the lighthouses lock. -/
def unbindLighthouse (peerId : UInt32) (st : NodeState) : NodeState :=
  { st with
    lighthouses := st.lighthouses.map fun slot =>
      if slot.peerId = some peerId then { slot with peerId := none } else slot }

def removePeer (st : NodeState) (peerId : UInt32) : NodeState × List Effect :=
  match removePeerPeers peerId st with
  | none => (st, [])
  | some (peer, st) =>
      let st := removePeerSessions peer.rxSessionId st
      let st := removePeerRoutes peerId st
      let st := unbindLighthouse peerId st
      let routeEffects :=
        match node.ifaceName with
        | none => []
        | some iface => peer.routes.map (Effect.delRoute · iface)
      (st, routeEffects)

end Handshakes

/-! ## Endpoints -/

def addrIsRelay (st : NodeState) (addr : SocketAddr) : Bool :=
  AssocMap.any (fun _ peer => peer.isRelay && peer.addr = addr) st.peers

/-- The shared body of `note_direct_endpoint` and of the known-peer branch of
`handle_lighthouse_response`. -/
def learnDirectAddr (addr : SocketAddr) (peer : PeerState) : PeerState :=
  if peer.directAddr = some addr then peer
  else { peer with directAddr := some addr, nextProbe := none }

def noteDirectEndpoint (st : NodeState) (peerId : UInt32) (addr : SocketAddr) : NodeState :=
  if addrIsRelay st addr then st
  else
    match st.peers.lookup peerId with
    | none => st
    | some peer => { st with peers := st.peers.insert peerId (learnDirectAddr addr peer) }

end Liteway.Daemon
