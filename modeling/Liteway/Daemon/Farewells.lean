import Liteway.Daemon.Introductions

/-!
# Shutting down

A node that stops sends each peer one datagram.  Relays pass it on as it is, and a
peer at the other end of the session forgets the node.
-/

namespace Liteway.Daemon

open Liteway.Library Liteway.Core

variable {lib : Primitives}

/-! ## Relays on the way -/

/-- A relay, where it listens, and how it finds a datagram. -/
structure Hop (lib : Primitives) where
  relay : Node lib
  addr : SocketAddr
  state : NodeState
  env : Env
  src : SocketAddr

/-- From one address to another, each relay knows where the receiver's packets go. -/
inductive RelayChain (receiver : Node lib) : SocketAddr → List (Hop lib) → SocketAddr → Prop where
  | direct (addr : SocketAddr) : RelayChain receiver addr [] addr
  | via {hop : Hop lib} {hops : List (Hop lib)} {entry : PeerState} {last : SocketAddr}
      (network : receiver.networkKey = hop.relay.networkKey) (relays : hop.relay.amRelay = true)
      (foreign : receiver.ourId ≠ hop.relay.ourId) (named : receiver.ourId ≠ 0)
      (known : hop.state.peers.lookup receiver.ourId = some entry)
      (rest : RelayChain receiver entry.addr hops last) :
      RelayChain receiver hop.addr (hop :: hops) last

/-- Each relay sends the datagram on and does nothing else. -/
inductive Carried (wire : ByteString) : SocketAddr → List (Hop lib) → SocketAddr → Prop where
  | arrived (addr : SocketAddr) : Carried wire addr [] addr
  | passed {hop : Hop lib} {hops : List (Hop lib)} {next last : SocketAddr}
      (sent : step hop.relay hop.state (.datagram hop.env hop.src wire) =
        (hop.state, [.send next wire]))
      (rest : Carried wire next hops last) : Carried wire hop.addr (hop :: hops) last

theorem relayTarget_eq_some {node : Node lib} {data : ByteString} {header : NetworkHeader}
    (hheader : networkHeader lib data node.networkKey = some header) (hzero : header.dstPeerId ≠ 0)
    (hother : header.dstPeerId ≠ node.ourId) : relayTarget node data = some header.dstPeerId := by
  unfold relayTarget
  rw [hheader]
  exact if_pos ⟨hzero, hother⟩

theorem relayDatagram_of_known {node : Node lib} {st : NodeState} {id : UInt32} {entry : PeerState}
    (hrelay : node.amRelay = true) (hknown : st.peers.lookup id = some entry) (data : ByteString) :
    relayDatagram node st data id = [.send entry.addr data] := by
  unfold relayDatagram
  rw [hrelay, hknown]
  rfl

/-- Whatever names the receiver is carried to it. -/
theorem carried_of_chain {receiver : Node lib} {wire : ByteString} {header : NetworkHeader}
    (hheader : networkHeader lib wire receiver.networkKey = some header)
    (hdst : header.dstPeerId = receiver.ourId) {first last : SocketAddr} {hops : List (Hop lib)}
    (h : RelayChain receiver first hops last) : Carried wire first hops last := by
  induction h with
  | direct addr => exact .arrived addr
  | @via hop hops entry last hnetwork hrelay hforeign hnamed hknown hrest ih =>
      have hread : networkHeader lib wire hop.relay.networkKey = some header := hnetwork ▸ hheader
      rw [← hdst] at hforeign hnamed hknown
      refine .passed ?_ ih
      change handleDatagram hop.relay hop.env hop.state hop.src wire = _
      unfold handleDatagram
      rw [relayTarget_eq_some hread hnamed hforeign]
      dsimp only
      rw [relayDatagram_of_known hrelay hknown]

/-! ## Farewells -/

def farewell (node : Node lib) (env : Env) (id : UInt32) (entry : PeerState) : ByteString :=
  let draw := (env.forPeer id).rand []
  serializePacket (encryptDisconnectPacket lib draw.sealing draw.padding (entry.txSeq + 1) id
    entry.txSessionId node.networkKey entry.txKey)

theorem notifyShutdown_effects (node : Node lib) (env : Env) (st : NodeState) :
    (notifyShutdown node env st).2 =
      st.peers.entries.map fun entry => .send entry.2.addr (farewell node env entry.1 entry.2) :=
  (List.map_eq_flatMap ..).symm

/-- Nothing about the peer is left, and nothing else is lost. -/
structure Forgets (id : UInt32) (gone : PeerState) (before after : NodeState) : Prop where
  peer : after.peers.lookup id = none
  session : after.rxSessions.lookup gone.rxSessionId = none
  routes : ¬ after.routes.Mentions id
  lighthouses : ∀ slot ∈ after.lighthouses, slot.peerId ≠ some id
  otherPeers : ∀ other, other ≠ id → after.peers.lookup other = before.peers.lookup other
  otherSessions : ∀ session, session ≠ gone.rxSessionId →
    after.rxSessions.lookup session = before.rxSessions.lookup session
  pending : after.pending = before.pending

theorem forgets_withoutPeer (id : UInt32) (peer : PeerState) (st : NodeState) :
    Forgets id peer st (withoutPeer id peer st) where
  peer := AList.lookup_erase _ _
  session := AList.lookup_erase _ _
  routes := fun hmentions => (RouteTable.mentions_removePeer hmentions).2 rfl
  lighthouses := by
    intro slot hslot
    obtain ⟨before, -, rfl⟩ := List.mem_map.mp hslot
    split
    · exact nofun
    · next hother => exact hother
  otherPeers := fun other hne => AList.lookup_erase_ne hne
  otherSessions := fun session hne => AList.lookup_erase_ne hne
  pending := rfl

theorem networkHeader_farewell (hlib : lib.Correct) (node : Node lib) (env : Env) (id : UInt32)
    (entry : PeerState) :
    networkHeader lib (farewell node env id entry) node.networkKey =
      some { kind := PacketBody.kind (.disconnect (entry.txSeq + 1)), fragIndex := 0, fragTotal := 0,
             dstPeerId := id, sessionId := entry.txSessionId } :=
  networkHeader_encryptPacket hlib _ _ _ _ _ _ _

/-- Wherever the farewell comes from, the peer removes the node. -/
theorem Awaits.step_farewell (hlib : lib.Correct) {node peer : Node lib} {left right : PeerState}
    {st : NodeState} (h : Awaits node peer left right st) (hroom : left.txSeq.toNat + 1 < 2 ^ 64)
    (env env' : Env) (src : SocketAddr) :
    let told := afterAccept env' st src node.ourId right (.disconnect (left.txSeq + 1))
    step peer st (.datagram env' src (farewell node env peer.ourId left)) =
      ((removePeer peer told node.ourId).1,
        .accepted node.ourId (left.txSeq + 1) :: (removePeer peer told node.ourId).2) := by
  have hshort : (PacketBody.disconnect (left.txSeq + 1)).Short lib := by
    intro payload hpayload
    contradiction
  have hheader := networkHeader_farewell hlib node env peer.ourId left
  rw [h.network] at hheader
  intro told
  change handleDatagram peer env' st src (farewell node env peer.ourId left) = _
  rw [handleDatagram_of_header env' st src hheader
    (PacketBody.disconnect (left.txSeq + 1)).kind_ne.2.2 (Or.inr rfl)]
  exact h.handlePacket_sealFor hlib env' src ((env.forPeer peer.ourId).rand []) hshort trivial
    (lt_next hroom)

theorem Forgets.ofAccepted {id : UInt32} {peer : PeerState} {env : Env} {st after : NodeState}
    {src : SocketAddr} {body : PacketBody} {gone : PeerState}
    (hgone : gone.rxSessionId = peer.rxSessionId)
    (h : Forgets id gone (afterAccept env st src id peer body) after) : Forgets id peer st after where
  peer := h.peer
  session := hgone ▸ h.session
  routes := h.routes
  lighthouses := h.lighthouses
  otherPeers := fun other hne => (h.otherPeers other hne).trans (AList.lookup_insert_ne hne)
  otherSessions := fun session hne => h.otherSessions session (hgone ▸ hne)
  pending := h.pending

namespace Sample

noncomputable def quayHop : Hop spoken where
  relay := { dweller "quay" 3 with amRelay := true }
  addr := Core.Sample.source
  state := { NodeState.initial [] with
    peers := (∅ : AssocMap UInt32 PeerState).insert (dweller "alice" 1).ourId
      { entryFor (dweller "alice" 1) 12 11 with addr := .v4 0x0A000001#32 4243 } }
  env := env 0 3 ⟨7, by decide⟩
  src := Core.Sample.source

theorem relayChain_quay :
    RelayChain (dweller "alice" 1) Core.Sample.source [quayHop] (.v4 0x0A000001#32 4243) := by
  have hnamed : (dweller "alice" 1).ourId ≠ 0 := by
    have hid : (dweller "alice" 1).ourId = decodeU32BE (Vector.replicate 4 1) :=
      nodeIdFromCert_resident _ _ _
    rw [hid]
    decide
  exact @RelayChain.via _ _ quayHop _ _ _ rfl rfl (dweller_ids_ne _ _ (by decide)) hnamed
    (AList.lookup_insert _) (.direct _)

end Sample

/-- A node that stops sends exactly one datagram to each peer, which reaches the peer
through whatever relays lie between, and a peer at the other end of the session then
knows no session of the node, no route to it and no lighthouse that it is, takes its
routes from the interface and loses nothing else. -/
theorem shutdown_is_noticed (hlib : lib.Correct) (node : Node lib) (env : Env) (st : NodeState) :
    (step node st (.shutdown env)).2.length = st.peers.entries.length ∧
    ∀ {peer : Node lib} {left : PeerState}, st.peers.lookup peer.ourId = some left →
      ∃ wire, .send left.addr wire ∈ (step node st (.shutdown env)).2 ∧
        (node.networkKey = peer.networkKey → ∀ hops last, RelayChain peer left.addr hops last →
          Carried wire left.addr hops last) ∧
        ∀ env' src right st', left.txSeq.toNat + 1 < 2 ^ 64 → Awaits node peer left right st' →
          Forgets node.ourId right st' (step peer st' (.datagram env' src wire)).1 ∧
          ∀ iface, peer.ifaceName = some iface → ∀ route ∈ right.routes,
            .delRoute route iface ∈ (step peer st' (.datagram env' src wire)).2 := by
  change (notifyShutdown node env st).2.length = _ ∧ ∀ {peer : Node lib} {left : PeerState}, _ →
    ∃ wire, _ ∈ (notifyShutdown node env st).2 ∧ _
  rw [notifyShutdown_effects]
  refine ⟨List.length_map _, fun {peer left} hleft => ?_⟩
  refine ⟨farewell node env peer.ourId left, ?_, ?_, ?_⟩
  · exact List.mem_map.mpr ⟨⟨peer.ourId, left⟩, AList.mem_lookup_iff.mp hleft, rfl⟩
  · intro hnetwork hops last hchain
    have hheader := networkHeader_farewell hlib node env peer.ourId left
    rw [hnetwork] at hheader
    exact carried_of_chain hheader rfl hchain
  · intro env' src right st' hroom hawaits
    have hlink := SameLink.receive right
      (right.rxReplay.accept (packetSeq (.disconnect (left.txSeq + 1)))).2 src env'.now
      (srcIsRelay st' node.ourId right src) (PacketBody.isKeepalive (.disconnect (left.txSeq + 1)))
    rw [hawaits.step_farewell hlib hroom env env' src, removePeer_of_live peer (AList.lookup_insert _)]
    refine ⟨(forgets_withoutPeer _ _ _).ofAccepted hlink.rxSessionId, ?_⟩
    intro iface hiface route hroute
    rw [hiface]
    exact List.mem_cons_of_mem _ (List.mem_map.mpr ⟨route, hlink.routes ▸ hroute, rfl⟩)

/-- The lighthouse stops, and alice hears of it through a relay. -/
theorem alice_forgets_harbour :
    ∃ (lib : Primitives) (harbour alice : Node lib) (env : Env) (st st' : NodeState)
      (left right : PeerState) (wire : ByteString) (hops : List (Hop lib)) (last : SocketAddr),
      .send left.addr wire ∈ (step harbour st (.shutdown env)).2 ∧ hops.length = 1 ∧
        Carried wire left.addr hops last ∧
        Forgets harbour.ourId right st' (step alice st' (.datagram env last wire)).1 := by
  obtain ⟨-, htold⟩ := shutdown_is_noticed Sample.spoken_correct (Sample.dweller "harbour" 4)
    (Sample.env 0 1 ⟨5, by decide⟩) Sample.atHarbour
  obtain ⟨wire, hsent, hcarried, hnoticed⟩ := htold Sample.knows_dwellers.hasAsker
  exact ⟨_, _, _, _, _, _, _, _, wire, [Sample.quayHop], _, hsent, rfl,
    hcarried rfl _ _ Sample.relayChain_quay,
    (hnoticed _ _ _ _ (by decide) (Sample.awaits_harbour "alice" 1 12 11)).1⟩

end Liteway.Daemon
