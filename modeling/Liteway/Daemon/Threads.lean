import Liteway.Daemon.HandshakeMessages

/-!
# Two threads and one set of maps

`add_peer` runs on the receive thread, the drops of `maintain_peers` on the
maintenance thread, and neither holds more than one lock at a time.  The
sections they consist of interleave.
-/

namespace Liteway.Daemon

open Liteway.Library Liteway.Core

/-! ## Sections -/

/-- Where the receive thread is in `add_peer`: the next section to run. -/
inductive Receiver where
  | idle
  | sessions (session : NewSession) (oldRxSessionId : Option UInt32)
  | routes (session : NewSession)
  | lighthouses (session : NewSession)

/-- A decision to drop a peer, and the session it was about.  The code keeps the
id only. -/
structure Drop where
  peerId : UInt32
  decidedOn : Option UInt32
deriving DecidableEq

/-- Where the maintenance thread is: the next section of `remove_peer`, and the
drops that come after it. -/
inductive Maintainer where
  | drops (outstanding : List Drop)
  | sessions (peerId rxSessionId : UInt32) (outstanding : List Drop)
  | routes (peerId : UInt32) (outstanding : List Drop)
  | lighthouses (peerId : UInt32) (outstanding : List Drop)

def Maintainer.outstanding : Maintainer → List Drop
  | .drops rest => rest
  | .sessions _ _ rest => rest
  | .routes _ rest => rest
  | .lighthouses _ rest => rest

/-- Both threads over the shared maps, with the session ids offered so far and
the session that each drop removed. -/
structure Threads where
  state : NodeState
  receiver : Receiver
  maintainer : Maintainer
  offered : List UInt32
  removals : List (Drop × UInt32)

/-- One critical section. -/
inductive Turn where
  | addPeer (now : Instant) (session : NewSession)
  | receiver
  | maintainPeers (env : Env)
  | maintainer

namespace Threads

def start (lighthouses : List LighthouseSlot) : Threads where
  state := .initial lighthouses
  receiver := .idle
  maintainer := .drops []
  offered := []
  removals := []

def Idle (t : Threads) : Prop := t.receiver = .idle ∧ t.maintainer = .drops []

section Step

variable {lib : Primitives} (node : Node lib)

def decideDrops (env : Env) (st : NodeState) : List Drop :=
  (maintainPeersDrops node env st).map fun peerId =>
    { peerId := peerId, decidedOn := (st.peers.lookup peerId).map PeerState.rxSessionId }

def beginAdd (t : Threads) (now : Instant) (session : NewSession) : Threads :=
  let offered := session.rxSessionId :: t.offered
  match addPeerPeers node now session t.state with
  | none => { t with offered := offered }
  | some (st, oldRxSessionId) =>
      { t with state := st, receiver := .sessions session oldRxSessionId, offered := offered }

def continueAdd (lib : Primitives) (t : Threads) : Threads :=
  match t.receiver with
  | .idle => t
  | .sessions session oldRxSessionId =>
      { t with state := addPeerSessions oldRxSessionId session t.state, receiver := .routes session }
  | .routes session =>
      { t with state := addPeerRoutes lib session t.state, receiver := .lighthouses session }
  | .lighthouses session =>
      { t with
        state := bindLighthouse session.addr session.cert.body.info.name session.id t.state
        receiver := .idle }

def continueDrops (t : Threads) : Threads :=
  match t.maintainer with
  | .drops [] => t
  | .drops (drop :: rest) =>
      match removePeerPeers drop.peerId t.state with
      | none => { t with maintainer := .drops rest }
      | some (peer, st) =>
          { t with
            state := st
            maintainer := .sessions drop.peerId peer.rxSessionId rest
            removals := (drop, peer.rxSessionId) :: t.removals }
  | .sessions peerId rxSessionId rest =>
      { t with state := removePeerSessions rxSessionId t.state, maintainer := .routes peerId rest }
  | .routes peerId rest =>
      { t with state := removePeerRoutes peerId t.state, maintainer := .lighthouses peerId rest }
  | .lighthouses peerId rest =>
      { t with state := unbindLighthouse peerId t.state, maintainer := .drops rest }

/-- A thread starts a call only when it has finished the last one. -/
def step (t : Threads) : Turn → Threads
  | .addPeer now session =>
      match t.receiver with
      | .idle => beginAdd node t now session
      | _ => t
  | .receiver => continueAdd lib t
  | .maintainPeers env =>
      match t.maintainer with
      | .drops [] =>
          { t with
            state := maintainPeersLocked node env t.state
            maintainer := .drops (decideDrops node env t.state) }
      | _ => t
  | .maintainer => continueDrops t

end Step

/-! ## Conditions -/

/-- Session ids are pairwise distinct. -/
def Fresh (t : Threads) : Turn → Prop
  | .addPeer _ session => session.rxSessionId ∉ t.offered
  | _ => True

/-- The session of the peer was removed after it was added, and the removal has
not reached the map of sessions. -/
def SessionAwaited (t : Threads) (session : NewSession) : Prop :=
  ∃ rest, t.maintainer = .sessions session.id session.rxSessionId rest

/-- The peer was removed, and the removal has not reached the routes. -/
def RoutesAwaited (t : Threads) (peerId : UInt32) : Prop :=
  (∃ rxSessionId rest, t.maintainer = .sessions peerId rxSessionId rest) ∨
    ∃ rest, t.maintainer = .routes peerId rest

/-- No session is installed over a drop that was decided but not carried out, and
`add_peer` writes nothing for a peer that was taken away under it, unless the
removal is still going to clear it up. -/
def Orderly {lib : Primitives} (node : Node lib) (t : Threads) : Turn → Prop
  | .addPeer _ session =>
      acceptsSession node session t.state.peers = true →
        ∀ drop ∈ t.maintainer.outstanding, drop.peerId ≠ session.id
  | .receiver =>
      match t.receiver with
      | .sessions session _ =>
          (t.state.peers.lookup session.id).isSome = true ∨ t.SessionAwaited session
      | .routes session =>
          (t.state.peers.lookup session.id).isSome = true ∨ t.RoutesAwaited session.id
      | _ => True
  | _ => True

/-- Every entry points to a peer that is there, and every peer can be found. -/
structure Coherent (st : NodeState) : Prop where
  session_present : ∀ rxSessionId peerId, st.rxSessions.lookup rxSessionId = some peerId →
    (st.peers.lookup peerId).isSome = true
  route_present : ∀ peerId, st.routes.Mentions peerId → (st.peers.lookup peerId).isSome = true
  found : ∀ peerId peer, st.peers.lookup peerId = some peer →
    st.rxSessions.lookup peer.rxSessionId = some peerId

/-- Every drop removed the session it was decided on, and none that was installed
later. -/
def FaithfulDrops (t : Threads) : Prop :=
  ∀ removal ∈ t.removals, removal.1.decidedOn = some removal.2

/-! ## What holds between sections -/

/-- An entry of the session map that a section to come will erase. -/
def ErasurePending (t : Threads) (rxSessionId peerId : UInt32) : Prop :=
  (∃ session, t.receiver = .sessions session (some rxSessionId) ∧ session.id = peerId) ∨
    ∃ rest, t.maintainer = .sessions peerId rxSessionId rest

/-- A peer whose entry in the session map is the next thing to be written. -/
def InsertionPending (t : Threads) (peerId rxSessionId : UInt32) : Prop :=
  ∃ session old, t.receiver = .sessions session old ∧ session.id = peerId ∧
    session.rxSessionId = rxSessionId

def heldWith (st : NodeState) (peerId : UInt32) : Option UInt32 :=
  (st.peers.lookup peerId).map PeerState.rxSessionId

theorem isSome_heldWith (st : NodeState) (peerId : UInt32) :
    (heldWith st peerId).isSome = (st.peers.lookup peerId).isSome := Option.isSome_map

structure Invariant (t : Threads) : Prop where
  entries : ∀ rxSessionId peerId, t.state.rxSessions.lookup rxSessionId = some peerId →
    heldWith t.state peerId = some rxSessionId ∨ t.ErasurePending rxSessionId peerId
  found : ∀ peerId rxSessionId, heldWith t.state peerId = some rxSessionId →
    t.state.rxSessions.lookup rxSessionId = some peerId ∨ t.InsertionPending peerId rxSessionId
  mentioned : ∀ peerId, t.state.routes.Mentions peerId →
    (heldWith t.state peerId).isSome = true ∨ t.RoutesAwaited peerId
  distinct : ∀ peerId peerId' rxSessionId, heldWith t.state peerId = some rxSessionId →
    heldWith t.state peerId' = some rxSessionId → peerId = peerId'
  offered : ∀ peerId rxSessionId, heldWith t.state peerId = some rxSessionId →
    rxSessionId ∈ t.offered
  /-- The id of a session being added belongs to its peer alone, the one it replaces
  to none. -/
  adding : ∀ session old, t.receiver = .sessions session old →
    ∀ peerId rxSessionId, heldWith t.state peerId = some rxSessionId →
      (rxSessionId = session.rxSessionId ↔ peerId = session.id) ∧ old ≠ some rxSessionId
  /-- The id of a session being removed belongs to none. -/
  removing : ∀ peerId rxSessionId rest, t.maintainer = .sessions peerId rxSessionId rest →
    rxSessionId ∈ t.offered ∧ ∀ other, heldWith t.state other ≠ some rxSessionId
  decided : ∀ drop ∈ t.maintainer.outstanding, ∀ rxSessionId,
    heldWith t.state drop.peerId = some rxSessionId → drop.decidedOn = some rxSessionId
  faithful : t.FaithfulDrops

theorem invariant_start (lighthouses : List LighthouseSlot) : (start lighthouses).Invariant := by
  constructor <;> simp [start, NodeState.initial, heldWith, RouteTable.Mentions, RouteTable.new,
    Maintainer.outstanding, FaithfulDrops]

end Threads

end Liteway.Daemon
