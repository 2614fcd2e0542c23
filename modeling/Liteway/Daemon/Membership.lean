import Liteway.Daemon.Delivery
import Liteway.Library.Runs
import Mathlib.Data.Finset.Basic

/-!
# Peers coming and going, and the routes to them

Calls of `add_peer` and `remove_peer`, one after another.  The route table and the
routes of the operating system are two records of what the certificates of the
live peers authorize; neither keeps a count.
-/

namespace Liteway.Daemon

open Liteway.Library Liteway.Core

variable {lib : Primitives}

/-! ## The machine -/

/-- A node, and the routes that the operating system keeps for its tunnel
interface. -/
structure Host where
  state : NodeState
  osRoutes : Finset IpNetwork

inductive MemberCall where
  | addPeer (now : Instant) (session : NewSession)
  | removePeer (peerId : UInt32)

/-- A session is installed for the node that an accepted certificate names. -/
def MemberCall.Genuine (node : Node lib) (unixTime : UInt64) : MemberCall → Prop
  | .addPeer _ session =>
      session.cert.verify lib node.caVk unixTime = true ∧
        session.id = nodeIdFromCert lib session.cert
  | .removePeer _ => True

/-- Adding a route twice changes nothing, and removing it once removes it. -/
def applyRouteEffect (iface : Option String) (routes : Finset IpNetwork) :
    Effect → Finset IpNetwork
  | .addRoute route name => if iface = some name then insert route routes else routes
  | .delRoute route name => if iface = some name then routes.erase route else routes
  | _ => routes

namespace Host

def start (node : Node lib) (lighthouses : List LighthouseSlot) : Host where
  state := .initial lighthouses
  osRoutes := if node.ifaceName.isSome then (overlayNetworks lib node.cert).toFinset else ∅

def step (node : Node lib) (host : Host) : MemberCall → Host
  | .addPeer now session =>
      let (_, st, effects) := Daemon.addPeer node now host.state session
      { state := st, osRoutes := effects.foldl (applyRouteEffect node.ifaceName) host.osRoutes }
  | .removePeer peerId =>
      let (st, effects) := Daemon.removePeer node host.state peerId
      { state := st, osRoutes := effects.foldl (applyRouteEffect node.ifaceName) host.osRoutes }

end Host

/-! ## What a call does -/

section Steps

variable (node : Node lib) (host : Host)

theorem step_addPeer_of_not_accepts {now : Instant} {session : NewSession}
    (haccept : acceptsSession node session host.state.peers = false) :
    host.step node (.addPeer now session) = host := by
  simp only [Host.step, addPeer_of_not_accepts haccept, List.foldl_nil]

theorem step_addPeer_state {now : Instant} {session : NewSession}
    (haccept : acceptsSession node session host.state.peers = true) :
    (host.step node (.addPeer now session)).state = withSession node now session host.state := by
  simp only [Host.step, addPeer_of_accepts haccept]

theorem step_removePeer_of_absent {peerId : UInt32}
    (habsent : host.state.peers.lookup peerId = none) :
    host.step node (.removePeer peerId) = host := by
  simp only [Host.step, Daemon.removePeer, removePeerPeers, habsent, List.foldl_nil]

def withoutPeer (peerId : UInt32) (peer : PeerState) (st : NodeState) : NodeState :=
  unbindLighthouse peerId (removePeerRoutes peerId (removePeerSessions peer.rxSessionId
    { st with peers := st.peers.erase peerId }))

@[simp] theorem peers_withoutPeer (peerId : UInt32) (peer : PeerState) (st : NodeState) :
    (withoutPeer peerId peer st).peers = st.peers.erase peerId := rfl

theorem removePeer_of_live {st : NodeState} {peerId : UInt32} {peer : PeerState}
    (hlive : st.peers.lookup peerId = some peer) :
    removePeer node st peerId =
      (withoutPeer peerId peer st,
        match node.ifaceName with
        | none => []
        | some iface => peer.routes.map (Effect.delRoute · iface)) := by
  unfold removePeer removePeerPeers
  rw [hlive]
  rfl

theorem step_removePeer_state {peerId : UInt32} {peer : PeerState}
    (hlive : host.state.peers.lookup peerId = some peer) :
    (host.step node (.removePeer peerId)).state = withoutPeer peerId peer host.state := by
  simp only [Host.step, removePeer_of_live node hlive]

/-- A call leaves the state alone, installs a session or drops a live peer. -/
theorem step_preserves {P : NodeState → Prop} (call : MemberCall) (h : P host.state)
    (hadd : ∀ now session, P (withSession node now session host.state))
    (hremove : ∀ peerId peer, P (withoutPeer peerId peer host.state)) :
    P (host.step node call).state := by
  cases call with
  | addPeer now session =>
      cases haccept : acceptsSession node session host.state.peers with
      | false =>
          rw [step_addPeer_of_not_accepts node host haccept]
          exact h
      | true =>
          rw [step_addPeer_state node host haccept]
          exact hadd now session
  | removePeer peerId =>
      cases hlive : host.state.peers.lookup peerId with
      | none =>
          rw [step_removePeer_of_absent node host hlive]
          exact h
      | some peer =>
          rw [step_removePeer_state node host hlive]
          exact hremove peerId peer

private theorem foldl_addRoute (iface : String) (routes : List IpNetwork)
    (start : Finset IpNetwork) :
    (routes.map (Effect.addRoute · iface)).foldl (applyRouteEffect (some iface)) start =
      start ∪ routes.toFinset := by
  induction routes generalizing start with
  | nil => simp
  | cons route routes ih =>
      simp only [List.map_cons, List.foldl_cons, ih, applyRouteEffect, ↓reduceIte,
        List.toFinset_cons, Finset.insert_union, Finset.union_insert]

private theorem foldl_delRoute (iface : String) (routes : List IpNetwork)
    (start : Finset IpNetwork) :
    (routes.map (Effect.delRoute · iface)).foldl (applyRouteEffect (some iface)) start =
      start \ routes.toFinset := by
  induction routes generalizing start with
  | nil => simp
  | cons route routes ih =>
      simp only [List.map_cons, List.foldl_cons, ih, applyRouteEffect, ↓reduceIte,
        List.toFinset_cons]
      ext other
      simp only [Finset.mem_sdiff, Finset.mem_erase, List.mem_toFinset, Finset.mem_insert]
      tauto

variable {node}

theorem step_addPeer_osRoutes {iface : String} (hiface : node.ifaceName = some iface)
    {now : Instant} {session : NewSession}
    (haccept : acceptsSession node session host.state.peers = true) :
    (host.step node (.addPeer now session)).osRoutes =
      host.osRoutes ∪ (authorizedPeerRoutes lib session.cert).toFinset := by
  simp only [Host.step, addPeer_of_accepts haccept, hiface, List.foldl_cons]
  exact foldl_addRoute iface _ _

theorem step_removePeer_osRoutes {iface : String} (hiface : node.ifaceName = some iface)
    {peerId : UInt32} {peer : PeerState} (hlive : host.state.peers.lookup peerId = some peer) :
    (host.step node (.removePeer peerId)).osRoutes = host.osRoutes \ peer.routes.toFinset := by
  simp only [Host.step, removePeer_of_live node hlive, hiface]
  exact foldl_delRoute iface _ _

end Steps

/-! ## The claims of the live peers -/

/-- What the current certificates of the live peers authorize. -/
def claims (lib : Primitives) (st : NodeState) : Claims UInt32 IpNetwork := fun id =>
  {route | ∃ peer, st.peers.lookup id = some peer ∧ route ∈ authorizedPeerRoutes lib peer.cert}

theorem claims_initial (lighthouses : List LighthouseSlot) :
    claims lib (.initial lighthouses) = fun _ => ∅ := by
  funext id
  apply Set.eq_empty_of_forall_notMem
  rintro route ⟨peer, hpeer, -⟩
  contradiction

theorem claims_withSession (node : Node lib) (now : Instant) (session : NewSession)
    (st : NodeState) :
    claims lib (withSession node now session st) =
      Function.update (claims lib st) session.id
        {route | route ∈ authorizedPeerRoutes lib session.cert} := by
  funext id
  ext route
  by_cases hid : id = session.id
  · subst id
    simp only [claims, withSession_peers, AList.lookup_insert, Option.some.injEq,
      exists_eq_left', Function.update_self, Set.mem_ofPred_eq]
    rfl
  · simp only [claims, withSession_peers, AList.lookup_insert_ne hid, Set.mem_ofPred_eq,
      Function.update_of_ne hid]

theorem claims_withoutPeer (peerId : UInt32) (peer : PeerState) (st : NodeState) :
    claims lib (withoutPeer peerId peer st) = Function.update (claims lib st) peerId ∅ := by
  funext id
  ext route
  by_cases hid : id = peerId
  · subst id
    simp [claims]
  · simp only [claims, peers_withoutPeer, AList.lookup_erase_ne hid, Set.mem_ofPred_eq,
      Function.update_of_ne hid]

theorem routes_withSession (node : Node lib) (now : Instant) (session : NewSession)
    (st : NodeState) :
    (withSession node now session st).routes.routes =
      OwnerTable.assignAll st.routes.routes (authorizedPeerRoutes lib session.cert) session.id :=
  RouteTable.routes_insertAll _ _ _

theorem routes_withoutPeer (peerId : UInt32) (peer : PeerState) (st : NodeState) :
    (withoutPeer peerId peer st).routes.routes = OwnerTable.release st.routes.routes peerId := rfl

/-! ## Two sessions, and one of the peers leaves -/

section TwoSessions

variable (node : Node lib) (lighthouses : List LighthouseSlot) {first second : NewSession}

private theorem accepts_of_not_simultaneous {session : NewSession} (h : session.simultaneous = false)
    (peers : AssocMap UInt32 PeerState) : acceptsSession node session peers = true := by
  simp [acceptsSession, acceptHandshakeSession, h]

private theorem runAll_two_sessions (hfirst : first.simultaneous = false)
    (hsecond : second.simultaneous = false) :
    (runAll (Host.step node) (Host.start node lighthouses)
      [.addPeer 0 first, .addPeer 0 second]).state =
      withSession node 0 second (withSession node 0 first (.initial lighthouses)) := by
  simp only [runAll_cons, runAll_nil]
  rw [step_addPeer_state _ _ (accepts_of_not_simultaneous node hsecond _),
    step_addPeer_state _ _ (accepts_of_not_simultaneous node hfirst _)]
  rfl

private theorem lookup_two_sessions (hfirst : first.simultaneous = false)
    (hsecond : second.simultaneous = false) :
    (runAll (Host.step node) (Host.start node lighthouses)
      [.addPeer 0 first, .addPeer 0 second]).state.peers.lookup second.id =
      some (newPeer node 0 second
        ((withSession node 0 first (.initial lighthouses)).peers.lookup second.id)) := by
  rw [runAll_two_sessions node lighthouses hfirst hsecond, withSession_peers]
  exact AList.lookup_insert _

private theorem runAll_then (call : MemberCall) :
    runAll (Host.step node) (Host.start node lighthouses)
      [.addPeer 0 first, .addPeer 0 second, call] =
      (runAll (Host.step node) (Host.start node lighthouses)
        [.addPeer 0 first, .addPeer 0 second]).step node call := rfl

private theorem lookup_after_leaving (hfirst : first.simultaneous = false)
    (hsecond : second.simultaneous = false) (hid : first.id ≠ second.id) :
    (runAll (Host.step node) (Host.start node lighthouses)
      [.addPeer 0 first, .addPeer 0 second, .removePeer second.id]).state.peers.lookup first.id =
      some (newPeer node 0 first none) := by
  rw [runAll_then, step_removePeer_state _ _ (lookup_two_sessions node lighthouses hfirst hsecond),
    peers_withoutPeer, AList.lookup_erase_ne hid,
    runAll_two_sessions node lighthouses hfirst hsecond, withSession_peers,
    AList.lookup_insert_ne hid, withSession_peers, AList.lookup_insert]
  rfl

end TwoSessions

/-! ## Sample members -/

namespace Sample

def lan : IpNetwork := ⟨.v4 0x0A090000#32, 16, by decide⟩

def memberNetwork (octets : BitVec 32) : IpNetwork :=
  ⟨.v4 octets, 24, show 24 ≤ 32 by decide⟩

def memberIp (n : UInt8) : String :=
  if n = 1 then "10.0.0.1/24" else if n = 2 then "10.0.0.2/24" else "10.0.0.3/24"

noncomputable def routed : Primitives :=
  { transparent [] with
    ipNetworkParse := fun text =>
      List.lookup text [("10.0.0.1/24", memberNetwork 0x0A000001#32),
        ("10.0.0.2/24", memberNetwork 0x0A000002#32), ("10.0.0.3/24", memberNetwork 0x0A000003#32),
        ("10.9.0.0/16", lan)] }

theorem routed_correct : routed.Correct := (transparent_correct []).withTexts _ _ _ _ _

def memberBody (name : String) (n : UInt8) (subnets : List String) : CertBody :=
  { Core.Sample.certBody name n with
    info := { (Core.Sample.certBody name n).info with groups := ["route:*"] }
    addresses := some { ip := memberIp n, subnets := subnets } }

noncomputable def memberCert (name : String) (n : UInt8) (subnets : List String) : Cert where
  body := memberBody name n subnets
  signature := hybridSign routed Core.Sample.caKey (routed.certBodyToVec (memberBody name n subnets))

noncomputable def memberSession (name : String) (n : UInt8) (subnets : List String) : NewSession where
  id := nodeIdFromCert routed (memberCert name n subnets)
  sessionKey := Vector.replicate _ n
  cert := memberCert name n subnets
  addr := Core.Sample.source
  directAddr := none
  relayed := false
  isRelay := false
  txSessionId := 1
  rxSessionId := n.toUInt32
  initiatorId := nodeIdFromCert routed (memberCert name n subnets)
  simultaneous := false

noncomputable def memberNode : Node routed where
  cert := memberCert "alice" 1 []
  signingKey := Core.Sample.signingKey 1
  caVk := Core.Sample.caKey.public routed
  networkKey := Core.Sample.networkKey
  maxDatagram := defaultMaxDatagram
  minDatagram_le := minDatagram_le_default
  maxDatagram_le := Nat.le_refl _
  amLighthouse := false
  amRelay := false
  keepaliveEnabled := true
  timings := Timings.fromSecs 5 15 1 10 3
  ifaceName := some "lw0"

theorem nodeIdFromCert_memberCert (name : String) (n : UInt8) (subnets : List String) :
    nodeIdFromCert routed (memberCert name n subnets) = decodeU32BE (Vector.replicate 4 n) :=
  nodeIdFromCert_cert [] name n

theorem verify_memberCert (name : String) (n : UInt8) (subnets : List String) :
    (memberCert name n subnets).verify routed (Core.Sample.caKey.public routed) 1000 = true := by
  rw [Cert.verify_eq_true_iff]
  exact ⟨rfl, show ¬ (1000 : UInt64).toInt64 < 0 by decide,
    show ¬ (1000 : UInt64).toInt64 > 1000000 by decide,
    hybridVerify_hybridSign routed_correct Core.Sample.caKey _⟩

theorem genuine_memberSession (name : String) (n : UInt8) (subnets : List String) :
    (MemberCall.addPeer 0 (memberSession name n subnets)).Genuine memberNode 1000 :=
  ⟨verify_memberCert name n subnets, rfl⟩

theorem mem_authorizedPeerRoutes_memberCert {name : String} {n : UInt8} {subnets : List String}
    {route : IpNetwork} :
    route ∈ authorizedPeerRoutes routed (memberCert name n subnets) ↔
      hostRoute routed (memberIp n) = some route ∨
        ∃ subnet ∈ subnets, routed.ipNetworkParse subnet = some route ∧
          isDefaultRoute route = false := by
  have hgranted : ∀ route, routeGrantedByCert routed (memberCert name n subnets) route = true :=
    fun route => rfl
  have haddrs : (memberCert name n subnets).body.addresses =
      some { ip := memberIp n, subnets := subnets } := rfl
  rw [mem_authorizedPeerRoutes_iff]
  simp only [haddrs, hgranted, Option.some.injEq, exists_eq_left', and_true]

theorem parse_lan : routed.ipNetworkParse "10.9.0.0/16" = some lan := rfl

theorem lan_mem (name : String) (n : UInt8) :
    lan ∈ authorizedPeerRoutes routed (memberCert name n ["10.9.0.0/16"]) :=
  mem_authorizedPeerRoutes_memberCert.mpr
    (Or.inr ⟨"10.9.0.0/16", List.mem_cons_self, parse_lan, by decide⟩)

theorem hostRoute_bob :
    hostRoute routed (memberIp 2) = some ⟨.v4 0x0A000002#32, 32, Nat.le_refl 32⟩ := rfl

theorem hostRoute_carol :
    hostRoute routed (memberIp 3) = some ⟨.v4 0x0A000003#32, 32, Nat.le_refl 32⟩ := rfl

theorem eq_host_of_mem {name : String} {n : UInt8} {route : IpNetwork}
    (hmem : route ∈ authorizedPeerRoutes routed (memberCert name n [])) :
    hostRoute routed (memberIp n) = some route := by
  obtain hhost | ⟨subnet, hsubnet, -⟩ := mem_authorizedPeerRoutes_memberCert.mp hmem
  · exact hhost
  · exact absurd hsubnet List.not_mem_nil

theorem lan_not_mem : lan ∉ authorizedPeerRoutes routed (memberCert "bob" 2 []) := by
  intro hmem
  exact absurd (Option.some.inj ((eq_host_of_mem hmem).symm.trans hostRoute_bob)) (by decide)

theorem bob_ne_carol :
    (memberSession "bob" 2 ["10.9.0.0/16"]).id ≠ (memberSession "carol" 3 ["10.9.0.0/16"]).id := by
  unfold memberSession
  rw [nodeIdFromCert_memberCert, nodeIdFromCert_memberCert]
  decide

theorem genuine_two_members :
    ∀ call ∈ [MemberCall.addPeer 0 (memberSession "bob" 2 ["10.9.0.0/16"]),
      .addPeer 0 (memberSession "carol" 3 ["10.9.0.0/16"]),
      .removePeer (memberSession "carol" 3 ["10.9.0.0/16"]).id], call.Genuine memberNode 1000 := by
  simp only [List.mem_cons, List.not_mem_nil, or_false, forall_eq_or_imp, forall_eq]
  exact ⟨genuine_memberSession _ _ _, genuine_memberSession _ _ _, trivial⟩

end Sample

/-! ## Entries lead to authorized live peers -/

/-- Every entry of the route table leads to a live peer whose current certificate
authorizes it, and so does every lookup. -/
structure RoutesSound (lib : Primitives) (st : NodeState) : Prop where
  authorized : ∀ network id, (network, id) ∈ st.routes.routes →
    ∃ peer, st.peers.lookup id = some peer ∧ network ∈ authorizedPeerRoutes lib peer.cert
  directed : ∀ ip id, st.routes.lookup ip = some id →
    ∃ peer, st.peers.lookup id = some peer ∧
      ∃ network ∈ authorizedPeerRoutes lib peer.cert, network.contains ip = true

theorem routesSound_iff {st : NodeState} :
    RoutesSound lib st ↔ OwnerTable.Sound st.routes.routes (claims lib st) := by
  constructor
  · intro h
    exact h.authorized
  · intro h
    refine ⟨h, fun ip id hlookup => ?_⟩
    obtain ⟨network, hmem, hcontains⟩ := RouteTable.mem_of_lookup hlookup
    obtain ⟨peer, hpeer, hnetwork⟩ := h network id hmem
    exact ⟨peer, hpeer, network, hnetwork, hcontains⟩

/-- A certificate that takes the place of another one authorizes every route that
the table gives to the peer. -/
def KeepsAuthority (node : Node lib) (host : Host) : MemberCall → Prop
  | .addPeer _ session =>
      acceptsSession node session host.state.peers = true →
        ∀ network, (network, session.id) ∈ host.state.routes.routes →
          network ∈ authorizedPeerRoutes lib session.cert
  | .removePeer _ => True

theorem routesSound_step_iff (node : Node lib) (host : Host) (call : MemberCall)
    (h : RoutesSound lib host.state) :
    KeepsAuthority node host call ↔ RoutesSound lib (host.step node call).state := by
  have hsound := routesSound_iff.mp h
  cases call with
  | addPeer now session =>
      cases haccept : acceptsSession node session host.state.peers with
      | false =>
          rw [step_addPeer_of_not_accepts node host haccept]
          simp [KeepsAuthority, haccept, h]
      | true =>
          rw [step_addPeer_state node host haccept, routesSound_iff, routes_withSession,
            claims_withSession, OwnerTable.sound_assignAll_iff hsound]
          simp only [KeepsAuthority, haccept, true_imp_iff]
  | removePeer peerId =>
      refine iff_of_true trivial ?_
      cases hlive : host.state.peers.lookup peerId with
      | none =>
          rw [step_removePeer_of_absent node host hlive]
          exact h
      | some peer =>
          rw [step_removePeer_state node host hlive, routesSound_iff, routes_withoutPeer,
            claims_withoutPeer]
          exact OwnerTable.sound_release hsound peerId ∅

/-- The table is sound all along exactly in the runs in which no accepted
certificate gives up a route that the table still has for its peer. -/
theorem routes_sound_iff_keepsAuthority (node : Node lib) (lighthouses : List LighthouseSlot)
    (calls : List MemberCall) :
    (∀ before, before <+: calls →
      RoutesSound lib (runAll (Host.step node) (Host.start node lighthouses) before).state) ↔
      Guarded (Host.step node) (KeepsAuthority node) (Host.start node lighthouses) calls := by
  have hstart : RoutesSound lib (Host.start node lighthouses).state :=
    routesSound_iff.mpr fun network id hmem => absurd hmem List.not_mem_nil
  exact (guarded_iff_prefixes (routesSound_step_iff node) hstart).symm

theorem not_routesSound_of_narrowed (node : Node lib) (lighthouses : List LighthouseSlot)
    {first second : NewSession} (hfirst : first.simultaneous = false)
    (hsecond : second.simultaneous = false) (hid : second.id = first.id) {network : IpNetwork}
    (hold : network ∈ authorizedPeerRoutes lib first.cert)
    (hnew : network ∉ authorizedPeerRoutes lib second.cert) :
    ¬ RoutesSound lib (runAll (Host.step node) (Host.start node lighthouses)
      [.addPeer 0 first, .addPeer 0 second]).state := by
  rw [runAll_two_sessions node lighthouses hfirst hsecond, routesSound_iff]
  intro hsound
  have hclaim := hsound network second.id (by
    rw [routes_withSession, OwnerTable.mem_assignAll, routes_withSession, OwnerTable.mem_assignAll]
    exact Or.inr ⟨hnew, Or.inl ⟨hold, hid⟩⟩)
  rw [claims_withSession, Function.update_self] at hclaim
  exact hnew hclaim

/-- Bob comes back with a certificate that has his subnet no more. -/
theorem renewed_certificate_keeps_old_route :
    (∀ call ∈ [MemberCall.addPeer 0 (Sample.memberSession "bob" 2 ["10.9.0.0/16"]),
        .addPeer 0 (Sample.memberSession "bob" 2 [])], call.Genuine Sample.memberNode 1000) ∧
      ¬ RoutesSound Sample.routed (runAll (Host.step Sample.memberNode)
        (Host.start Sample.memberNode [])
        [.addPeer 0 (Sample.memberSession "bob" 2 ["10.9.0.0/16"]),
          .addPeer 0 (Sample.memberSession "bob" 2 [])]).state := by
  refine ⟨?_, not_routesSound_of_narrowed _ _ rfl rfl rfl (Sample.lan_mem "bob" 2)
    Sample.lan_not_mem⟩
  simp only [List.mem_cons, List.not_mem_nil, or_false, forall_eq_or_imp, forall_eq]
  exact ⟨Sample.genuine_memberSession _ _ _, Sample.genuine_memberSession _ _ _⟩

/-! ## Authorized addresses are routed -/

def addresses (network : IpNetwork) : Set IpAddr := {ip | network.contains ip = true}

/-- Every address that a live peer is authorized for is routed to a live peer. -/
def RoutesComplete (lib : Primitives) (st : NodeState) : Prop :=
  ∀ id peer network ip, st.peers.lookup id = some peer →
    network ∈ authorizedPeerRoutes lib peer.cert → network.contains ip = true →
    ∃ found, st.routes.lookup ip = some found ∧ (st.peers.lookup found).isSome = true

/-- Entries lead to live peers, authorized or not. -/
def RoutesLive (st : NodeState) : Prop :=
  ∀ id, st.routes.Mentions id → (st.peers.lookup id).isSome = true

theorem routesLive_step (node : Node lib) (host : Host) (call : MemberCall)
    (h : RoutesLive host.state) : RoutesLive (host.step node call).state := by
  apply step_preserves node host call h
  · intro now session id hmentions
    rw [withSession_peers, AssocMap.lookup_insert_eq]
    split
    · rfl
    · rename_i hid
      exact h id ((RouteTable.mentions_insertAll hmentions).resolve_right hid)
  · intro peerId peer id hmentions
    obtain ⟨hmentions, hid⟩ := RouteTable.mentions_removePeer hmentions
    rw [peers_withoutPeer, AList.lookup_erase_ne hid]
    exact h id hmentions

theorem routesComplete_iff {st : NodeState} (hlive : RoutesLive st) :
    RoutesComplete lib st ↔
      OwnerTable.Complete st.routes.routes (claims lib st) addresses := by
  constructor
  · rintro h id network ip ⟨peer, hpeer, hnetwork⟩ hcontains
    obtain ⟨found, hlookup, -⟩ := h id peer network ip hpeer hnetwork hcontains
    obtain ⟨network', hmem, hcontains'⟩ := RouteTable.mem_of_lookup hlookup
    exact ⟨network', found, hmem, hcontains'⟩
  · intro h id peer network ip hpeer hnetwork hcontains
    obtain ⟨network', owner, hmem, hcontains'⟩ := h id network ip ⟨peer, hpeer, hnetwork⟩ hcontains
    obtain ⟨found, hlookup⟩ := RouteTable.lookup_isSome_of_mem hmem hcontains'
    obtain ⟨network'', hmem', -⟩ := RouteTable.mem_of_lookup hlookup
    exact ⟨found, hlookup, hlive found ⟨_, hmem', rfl⟩⟩

/-- No address that another live peer is authorized for is routed by entries of the
leaving peer alone. -/
def LeavesNoGap (lib : Primitives) (host : Host) : MemberCall → Prop
  | .addPeer .. => True
  | .removePeer peerId =>
      ∀ id network ip, id ≠ peerId → network ∈ claims lib host.state id → ip ∈ addresses network →
        ¬ OwnerTable.CoversOnlyBy host.state.routes.routes addresses peerId ip

theorem routesComplete_step_iff (node : Node lib) (host : Host) (call : MemberCall)
    (hlive : RoutesLive host.state) (h : RoutesComplete lib host.state) :
    LeavesNoGap lib host call ↔ RoutesComplete lib (host.step node call).state := by
  have hcomplete := (routesComplete_iff hlive).mp h
  rw [routesComplete_iff (routesLive_step node host call hlive)]
  cases call with
  | addPeer now session =>
      refine iff_of_true trivial ?_
      cases haccept : acceptsSession node session host.state.peers with
      | false =>
          rw [step_addPeer_of_not_accepts node host haccept]
          exact hcomplete
      | true =>
          rw [step_addPeer_state node host haccept, routes_withSession, claims_withSession]
          exact OwnerTable.complete_assignAll hcomplete _ _
  | removePeer peerId =>
      cases hpeer : host.state.peers.lookup peerId with
      | none =>
          rw [step_removePeer_of_absent node host hpeer]
          refine iff_of_true (fun id network ip hid hnetwork hip honly => ?_) hcomplete
          -- an absent peer owns no entry, so it cannot be alone
          obtain ⟨network', owner, hmem, hcontains⟩ := hcomplete id network ip hnetwork hip
          cases honly network' owner hmem hcontains
          have hsome := hlive peerId ⟨_, hmem, rfl⟩
          rw [hpeer] at hsome
          contradiction
      | some peer =>
          rw [step_removePeer_state node host hpeer, routes_withoutPeer, claims_withoutPeer,
            OwnerTable.complete_release_iff]
          rfl

/-- The table is complete all along exactly in the runs in which no peer leaves
that alone covers an address of another one. -/
theorem routes_complete_iff_leavesNoGap (node : Node lib) (lighthouses : List LighthouseSlot)
    (calls : List MemberCall) :
    (∀ before, before <+: calls →
      RoutesComplete lib (runAll (Host.step node) (Host.start node lighthouses) before).state) ↔
      Guarded (Host.step node) (LeavesNoGap lib) (Host.start node lighthouses) calls := by
  have hlive : RoutesLive (Host.start node lighthouses).state := by
    rintro id ⟨route, hmem, -⟩
    exact absurd hmem List.not_mem_nil
  have hstart : RoutesComplete lib (Host.start node lighthouses).state := by
    intro id peer network ip hpeer
    contradiction
  have hboth := @guarded_iff_prefixes _ _ (Host.step node) (LeavesNoGap lib)
    (fun host => RoutesLive host.state ∧ RoutesComplete lib host.state)
    (fun host call h => (routesComplete_step_iff node host call h.1 h.2).trans
      (and_iff_right (routesLive_step node host call h.1)).symm) _ calls ⟨hlive, hstart⟩
  rw [hboth]
  refine forall_congr' fun before => imp_congr_right fun _ => (and_iff_right ?_).symm
  exact @runAll_invariant _ _ _ (fun host => RoutesLive host.state)
    (fun host call h => routesLive_step node host call h) _ hlive before

theorem not_routesComplete_of_shared (node : Node lib) (lighthouses : List LighthouseSlot)
    {first second : NewSession} (hfirst : first.simultaneous = false)
    (hsecond : second.simultaneous = false) (hid : first.id ≠ second.id) {network : IpNetwork}
    {ip : IpAddr} (hnetwork : network ∈ authorizedPeerRoutes lib first.cert)
    (hip : network.contains ip = true)
    (hshared : ∀ route ∈ authorizedPeerRoutes lib first.cert, route.contains ip = true →
      route ∈ authorizedPeerRoutes lib second.cert) :
    ¬ RoutesComplete lib (runAll (Host.step node) (Host.start node lighthouses)
      [.addPeer 0 first, .addPeer 0 second, .removePeer second.id]).state := by
  intro hcomplete
  have hlive := lookup_after_leaving node lighthouses hfirst hsecond hid
  obtain ⟨found, hlookup, -⟩ := hcomplete first.id _ network ip hlive hnetwork hip
  obtain ⟨route, hmem, hcontains⟩ := RouteTable.mem_of_lookup hlookup
  rw [runAll_then, step_removePeer_state _ _ (lookup_two_sessions node lighthouses hfirst hsecond),
    routes_withoutPeer, OwnerTable.mem_release,
    runAll_two_sessions node lighthouses hfirst hsecond, routes_withSession,
    OwnerTable.mem_assignAll, routes_withSession, OwnerTable.mem_assignAll] at hmem
  obtain ⟨⟨-, hfound⟩ | ⟨hlost, ⟨hroute, -⟩ | ⟨-, hmem⟩⟩, hne⟩ := hmem
  · exact hne hfound
  · exact hlost (hshared route hroute hcontains)
  · exact absurd hmem List.not_mem_nil

/-- Bob and carol are authorized for the same subnet, and carol leaves. -/
theorem leaving_peer_takes_shared_route :
    (∀ call ∈ [MemberCall.addPeer 0 (Sample.memberSession "bob" 2 ["10.9.0.0/16"]),
        .addPeer 0 (Sample.memberSession "carol" 3 ["10.9.0.0/16"]),
        .removePeer (Sample.memberSession "carol" 3 ["10.9.0.0/16"]).id],
        call.Genuine Sample.memberNode 1000) ∧
      ¬ RoutesComplete Sample.routed (runAll (Host.step Sample.memberNode)
        (Host.start Sample.memberNode [])
        [.addPeer 0 (Sample.memberSession "bob" 2 ["10.9.0.0/16"]),
          .addPeer 0 (Sample.memberSession "carol" 3 ["10.9.0.0/16"]),
          .removePeer (Sample.memberSession "carol" 3 ["10.9.0.0/16"]).id]).state := by
  refine ⟨Sample.genuine_two_members, ?_⟩
  have hip : Sample.lan.contains (.v4 0x0A090005#32) = true := by decide
  apply not_routesComplete_of_shared _ _ rfl rfl Sample.bob_ne_carol (Sample.lan_mem "bob" 2) hip
  intro route hroute hcontains
  obtain hhost | ⟨subnet, hsubnet, hparse, hdefault⟩ :=
    Sample.mem_authorizedPeerRoutes_memberCert.mp hroute
  · cases hhost.symm.trans Sample.hostRoute_bob
    exact absurd hcontains (by decide)
  · exact Sample.mem_authorizedPeerRoutes_memberCert.mpr (Or.inr ⟨subnet, hsubnet, hparse, hdefault⟩)

/-! ## Routes of the operating system -/

/-- The overlay networks and all that live peers are authorized for are routed to
the tunnel interface. -/
structure RoutesInstalled (node : Node lib) (host : Host) : Prop where
  overlay : ∀ route ∈ overlayNetworks lib node.cert, route ∈ host.osRoutes
  authorized : ∀ id peer, host.state.peers.lookup id = some peer →
    ∀ route ∈ authorizedPeerRoutes lib peer.cert, route ∈ host.osRoutes

theorem routesInstalled_iff {node : Node lib} {host : Host} :
    RoutesInstalled node host ↔
      HoldsClaims (host.osRoutes : Set IpNetwork) {route | route ∈ overlayNetworks lib node.cert}
        (claims lib host.state) := by
  constructor
  · intro h
    refine ⟨h.overlay, ?_⟩
    rintro id route ⟨peer, hpeer, hroute⟩
    exact h.authorized id peer hpeer route hroute
  · intro h
    exact ⟨h.base_subset, fun id peer hpeer route hroute => h.claims_subset id ⟨peer, hpeer, hroute⟩⟩

/-- A peer keeps the routes that its certificate authorizes. -/
def RoutesOfCert (lib : Primitives) (st : NodeState) : Prop :=
  ∀ id peer, st.peers.lookup id = some peer → peer.routes = authorizedPeerRoutes lib peer.cert

theorem routesOfCert_step (node : Node lib) (host : Host) (call : MemberCall)
    (h : RoutesOfCert lib host.state) : RoutesOfCert lib (host.step node call).state := by
  apply step_preserves node host call h
  · intro now session id peer hpeer
    rw [withSession_peers, AssocMap.lookup_insert_eq] at hpeer
    split at hpeer
    · cases hpeer
      rfl
    · exact h id peer hpeer
  · intro peerId dropped id peer hpeer
    rw [peers_withoutPeer, AssocMap.lookup_erase_eq] at hpeer
    split at hpeer
    · contradiction
    · exact h id peer hpeer

/-- No route that the leaving peer is authorized for is an overlay network, or
authorized for another live peer. -/
def LeavesSharedRoutes (node : Node lib) (host : Host) : MemberCall → Prop
  | .addPeer .. => True
  | .removePeer peerId =>
      ∀ route ∈ claims lib host.state peerId,
        route ∉ overlayNetworks lib node.cert ∧
          ∀ id, id ≠ peerId → route ∉ claims lib host.state id

theorem routesInstalled_step_iff {node : Node lib} {iface : String}
    (hiface : node.ifaceName = some iface) (host : Host) (call : MemberCall)
    (hcert : RoutesOfCert lib host.state) (h : RoutesInstalled node host) :
    LeavesSharedRoutes node host call ↔ RoutesInstalled node (host.step node call) := by
  have hholds := routesInstalled_iff.mp h
  rw [routesInstalled_iff]
  cases call with
  | addPeer now session =>
      refine iff_of_true trivial ?_
      cases haccept : acceptsSession node session host.state.peers with
      | false =>
          rw [step_addPeer_of_not_accepts node host haccept]
          exact hholds
      | true =>
          rw [step_addPeer_osRoutes host hiface haccept, step_addPeer_state node host haccept,
            claims_withSession, Finset.coe_union, List.coe_toFinset]
          exact hholds.add _ _
  | removePeer peerId =>
      cases hlive : host.state.peers.lookup peerId with
      | none =>
          rw [step_removePeer_of_absent node host hlive]
          refine iff_of_true ?_ hholds
          rintro route ⟨peer, hpeer, -⟩
          rw [hlive] at hpeer
          contradiction
      | some peer =>
          have hroutes : {route | route ∈ peer.routes} = claims lib host.state peerId := by
            ext route
            simp only [claims, hlive, Option.some.injEq, exists_eq_left', hcert peerId peer hlive]
          rw [step_removePeer_osRoutes host hiface hlive, step_removePeer_state node host hlive,
            claims_withoutPeer, Finset.coe_sdiff, List.coe_toFinset, hroutes, hholds.remove_iff]
          simp only [LeavesSharedRoutes, Set.disjoint_right, Set.mem_ofPred_eq]
          exact ⟨fun hfree => ⟨fun route hroute => (hfree route hroute).1,
            fun id hid route hroute => (hfree route hroute).2 id hid⟩,
            fun hfree route hroute => ⟨hfree.1 hroute, fun id hid => hfree.2 id hid hroute⟩⟩

/-- The routes stay installed all along exactly in the runs in which no peer leaves
that shares a route with the overlay or with another live peer. -/
theorem os_routes_installed_iff_leavesSharedRoutes (node : Node lib) {iface : String}
    (hiface : node.ifaceName = some iface) (lighthouses : List LighthouseSlot)
    (calls : List MemberCall) :
    (∀ before, before <+: calls →
      RoutesInstalled node (runAll (Host.step node) (Host.start node lighthouses) before)) ↔
      Guarded (Host.step node) (LeavesSharedRoutes node) (Host.start node lighthouses) calls := by
  have hcert : RoutesOfCert lib (Host.start node lighthouses).state := by
    intro id peer hpeer
    contradiction
  have hstart : RoutesInstalled node (Host.start node lighthouses) := by
    refine ⟨fun route hroute => ?_, fun id peer hpeer => by contradiction⟩
    simpa [Host.start, hiface] using hroute
  have hboth := @guarded_iff_prefixes _ _ (Host.step node) (LeavesSharedRoutes node)
    (fun host => RoutesOfCert lib host.state ∧ RoutesInstalled node host)
    (fun host call h => (routesInstalled_step_iff hiface host call h.1 h.2).trans
      (and_iff_right (routesOfCert_step node host call h.1)).symm) _ calls ⟨hcert, hstart⟩
  rw [hboth]
  refine forall_congr' fun before => imp_congr_right fun _ => (and_iff_right ?_).symm
  exact @runAll_invariant _ _ _ (fun host => RoutesOfCert lib host.state)
    (fun host call h => routesOfCert_step node host call h) _ hcert before

theorem not_routesInstalled_of_shared (node : Node lib) (lighthouses : List LighthouseSlot)
    {first second : NewSession} {iface : String} (hiface : node.ifaceName = some iface)
    (hfirst : first.simultaneous = false) (hsecond : second.simultaneous = false)
    (hid : first.id ≠ second.id) {network : IpNetwork}
    (hnetwork : network ∈ authorizedPeerRoutes lib first.cert)
    (hshared : network ∈ authorizedPeerRoutes lib second.cert) :
    ¬ RoutesInstalled node (runAll (Host.step node) (Host.start node lighthouses)
      [.addPeer 0 first, .addPeer 0 second, .removePeer second.id]) := by
  intro h
  have hkept := h.authorized first.id _
    (lookup_after_leaving node lighthouses hfirst hsecond hid) network hnetwork
  rw [runAll_then, step_removePeer_osRoutes _ hiface
    (lookup_two_sessions node lighthouses hfirst hsecond), Finset.mem_sdiff] at hkept
  exact hkept.2 (List.mem_toFinset.mpr hshared)

theorem leaving_peer_takes_shared_os_route :
    (∀ call ∈ [MemberCall.addPeer 0 (Sample.memberSession "bob" 2 ["10.9.0.0/16"]),
        .addPeer 0 (Sample.memberSession "carol" 3 ["10.9.0.0/16"]),
        .removePeer (Sample.memberSession "carol" 3 ["10.9.0.0/16"]).id],
        call.Genuine Sample.memberNode 1000) ∧
      ¬ RoutesInstalled Sample.memberNode (runAll (Host.step Sample.memberNode)
        (Host.start Sample.memberNode [])
        [.addPeer 0 (Sample.memberSession "bob" 2 ["10.9.0.0/16"]),
          .addPeer 0 (Sample.memberSession "carol" 3 ["10.9.0.0/16"]),
          .removePeer (Sample.memberSession "carol" 3 ["10.9.0.0/16"]).id]) :=
  ⟨Sample.genuine_two_members, not_routesInstalled_of_shared _ _ rfl rfl rfl Sample.bob_ne_carol
    (Sample.lan_mem "bob" 2) (Sample.lan_mem "carol" 3)⟩

/-- Carol has only her own address, which nobody else has. -/
theorem leaving_peer_leaves_os_routes :
    Sample.memberNode.ifaceName = some "lw0" ∧
      ∀ before, before <+: [MemberCall.addPeer 0 (Sample.memberSession "bob" 2 ["10.9.0.0/16"]),
          .addPeer 0 (Sample.memberSession "carol" 3 []),
          .removePeer (Sample.memberSession "carol" 3 []).id] →
        RoutesInstalled Sample.memberNode
          (runAll (Host.step Sample.memberNode) (Host.start Sample.memberNode []) before) := by
  refine ⟨rfl, ?_⟩
  apply (os_routes_installed_iff_leavesSharedRoutes Sample.memberNode rfl [] _).mpr
  refine ⟨trivial, trivial, ?_, trivial⟩
  have hstate := @runAll_two_sessions _ Sample.memberNode []
    (Sample.memberSession "bob" 2 ["10.9.0.0/16"]) (Sample.memberSession "carol" 3 []) rfl rfl
  simp only [runAll_cons, runAll_nil] at hstate
  simp only [LeavesSharedRoutes, hstate, claims_withSession, claims_initial, Function.update_self]
  intro route hroute
  cases (Sample.eq_host_of_mem hroute).symm.trans Sample.hostRoute_carol
  refine ⟨?_, fun id hid hmem => ?_⟩
  · have hoverlay : overlayNetworks Sample.routed Sample.memberNode.cert =
        [⟨.v4 0x0A000000#32, 24, by decide⟩] := rfl
    rw [hoverlay]
    decide
  · rw [Function.update_of_ne hid] at hmem
    by_cases hbob : id = (Sample.memberSession "bob" 2 ["10.9.0.0/16"]).id
    · rw [hbob, Function.update_self] at hmem
      obtain hhost | ⟨subnet, hsubnet, hparse, -⟩ :=
        Sample.mem_authorizedPeerRoutes_memberCert.mp hmem
      · exact absurd (Option.some.inj (hhost.symm.trans Sample.hostRoute_bob)) (by decide)
      · rw [List.mem_singleton.mp hsubnet] at hparse
        exact absurd (Option.some.inj (hparse.symm.trans Sample.parse_lan)) (by decide)
    · rw [Function.update_of_ne hbob] at hmem
      exact hmem

end Liteway.Daemon
