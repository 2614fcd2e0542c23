import Liteway.Daemon.LighthouseQueries

/-!
# Nodes that join

One node after another opens a session, and each is there from then on.
-/

namespace Liteway.Daemon

open Liteway.Library Liteway.Core

variable {lib : Primitives}

section Joining

variable {node : Node lib} {env : Env} {st : NodeState} {src : SocketAddr} {request : Request lib}

variable (node env st src request) in
def joined : NodeState :=
  withSession node env.now (responseSession lib st src (request.answer node env))
    { st with
      handshakeCache := st.handshakeCache.insert (lib.blake3Hash request.initiate.msg)
        (request.answer node env).msg (nodeIdFromCert lib request.identity.cert) env.now }

/-- A node can join as long as its request is new and nobody is being dialled. -/
structure CanJoin (node : Node lib) (env : Env) (st : NodeState) (request : Request lib) : Prop where
  welcome : request.Welcome node env.unixTime
  uncached : st.handshakeCache.get (lib.blake3Hash request.initiate.msg) env.now = none
  idle : st.pending = ∅

theorem CanJoin.accepts (h : CanJoin node env st request) :
    acceptsSession node (responseSession lib st src (request.answer node env)) st.peers = true := by
  apply acceptsSession_of_not_simultaneous
  simp only [responseSession, h.idle]
  rfl

theorem CanJoin.step_eq (hlib : lib.Correct) (h : CanJoin node env st request) (src : SocketAddr) :
    (step node st (.datagram env src request.initiate.msg)).1 = joined node env st src request := by
  have hstep : step node st (.datagram env src request.initiate.msg) =
      installResponse node env st src (lib.blake3Hash request.initiate.msg)
        (request.answer node env) := Request.handleDatagram_initiate hlib h.welcome h.uncached src
  rw [hstep]
  exact installResponse_of_accepts h.accepts

theorem CanJoin.installedBy_eq (hlib : lib.Correct) (h : CanJoin node env st request)
    (src : SocketAddr) :
    installedBy node st (.datagram env src request.initiate.msg) =
      some (responseSession lib st src (request.answer node env)) := by
  apply installedBy_of_offeredBy node _ h.accepts
  simp only [offeredBy, Request.wholePacket_initiate hlib h.welcome env st src]
  exact Request.offered_initiate hlib h.welcome h.uncached src

theorem CanJoin.admitted_cons (hlib : lib.Correct) (h : CanJoin node env st request)
    (src : SocketAddr) (events : List Event) :
    admitted node st (.datagram env src request.initiate.msg :: events) =
      request.identity.cert :: admitted node (joined node env st src request) events := by
  simp only [admitted, h.installedBy_eq hlib src, h.step_eq hlib src]
  rfl

theorem lookup_joined_self :
    (joined node env st src request).peers.lookup (nodeIdFromCert lib request.identity.cert) =
      some (newPeer node env.now (responseSession lib st src (request.answer node env))
        (st.peers.lookup (nodeIdFromCert lib request.identity.cert))) :=
  AList.lookup_insert _

theorem lookup_joined_ne {id : UInt32} (hne : id ≠ nodeIdFromCert lib request.identity.cert) :
    (joined node env st src request).peers.lookup id = st.peers.lookup id :=
  AList.lookup_insert_ne hne

theorem routes_joined :
    (joined node env st src request).routes.routes =
      OwnerTable.assignAll st.routes.routes (authorizedPeerRoutes lib request.identity.cert)
        (nodeIdFromCert lib request.identity.cert) :=
  routes_withSession node env.now _ _

theorem CanJoin.next {env' : Env} {request' : Request lib} (h : CanJoin node env st request)
    (h' : CanJoin node env' st request')
    (hne : lib.blake3Hash request'.initiate.msg ≠ lib.blake3Hash request.initiate.msg) :
    CanJoin node env' (joined node env st src request) request' where
  welcome := h'.welcome
  uncached := HandshakeCache.get_insert_of_ne _ _ _ _ hne h'.uncached
  idle := h.idle

/-- A run in which nodes join, one after another. -/
structure Joined (node : Node lib) (lighthouses : List LighthouseSlot) (events : List Event)
    (st : NodeState) (certs : List Cert) : Prop where
  state : (run node lighthouses events).state = st
  certs : admitted node (.initial lighthouses) events = certs

theorem admitted_append (node : Node lib) (record : Record) (before after : List Event) :
    admitted node record.state (before ++ after) = admitted node record.state before ++
      admitted node (runAll (Record.step node) record before).state after := by
  induction before generalizing record with
  | nil => rfl
  | cons event before ih =>
      rw [runAll_cons, List.cons_append]
      simp only [admitted, List.append_assoc]
      exact congrArg _ (ih (record.step node event))

theorem Joined.snoc (hlib : lib.Correct) {lighthouses : List LighthouseSlot} {events : List Event}
    {certs : List Cert} (h : Joined node lighthouses events st certs)
    (hjoin : CanJoin node env st request) (src : SocketAddr) :
    Joined node lighthouses (events ++ [.datagram env src request.initiate.msg])
      (joined node env st src request) (certs ++ [request.identity.cert]) where
  state := by
    have hstep := hjoin.step_eq hlib src
    rw [← h.state] at hstep ⊢
    unfold run
    rw [runAll_append]
    exact hstep
  certs := by
    have hadmitted := hjoin.admitted_cons hlib src []
    have happend := admitted_append node ⟨.initial lighthouses, []⟩ events
      [.datagram env src request.initiate.msg]
    have hstate : (runAll (Record.step node) ⟨.initial lighthouses, []⟩ events).state = st := h.state
    rw [hstate, hadmitted] at happend
    rw [happend]
    exact congrArg (· ++ [request.identity.cert]) h.certs

/-- There are routes for the address, and all of them lead to the peer. -/
structure OwnedBy (st : NodeState) (ip : IpAddr) (id : UInt32) : Prop where
  some : ∃ network, (network, id) ∈ st.routes.routes ∧ network.contains ip = true
  only : ∀ network id', (network, id') ∈ st.routes.routes → network.contains ip = true → id' = id

theorem OwnedBy.lookup {ip : IpAddr} {id : UInt32} (h : OwnedBy st ip id) :
    st.routes.lookup ip = Option.some id := by
  obtain ⟨network, hmem, hcontains⟩ := h.some
  obtain ⟨found, hfound⟩ := RouteTable.lookup_isSome_of_mem hmem hcontains
  obtain ⟨network', hmem', hcontains'⟩ := RouteTable.mem_of_lookup hfound
  rw [hfound, h.only network' found hmem' hcontains']

/-- The first node whose certificate authorizes an address gets it. -/
theorem ownedBy_joined {ip : IpAddr} {route : IpNetwork}
    (hroute : route ∈ authorizedPeerRoutes lib request.identity.cert)
    (hcontains : route.contains ip = true) (hnew : st.routes.routes = []) :
    OwnedBy (joined node env st src request) ip (nodeIdFromCert lib request.identity.cert) where
  some := by
    refine ⟨route, ?_, hcontains⟩
    rw [routes_joined]
    exact OwnerTable.mem_assignAll.mpr (Or.inl ⟨hroute, rfl⟩)
  only := by
    intro network id hmem _
    rw [routes_joined, hnew] at hmem
    obtain ⟨-, hid⟩ | ⟨-, hold⟩ := OwnerTable.mem_assignAll.mp hmem
    · exact hid
    · contradiction

theorem OwnedBy.joined {ip : IpAddr} {id : UInt32} (h : OwnedBy st ip id)
    (hnone : ∀ route ∈ authorizedPeerRoutes lib request.identity.cert, route.contains ip = false) :
    OwnedBy (joined node env st src request) ip id where
  some := by
    obtain ⟨network, hmem, hcontains⟩ := h.some
    refine ⟨network, ?_, hcontains⟩
    rw [routes_joined]
    refine OwnerTable.mem_assignAll.mpr (Or.inr ⟨fun hin => ?_, hmem⟩)
    rw [hnone network hin] at hcontains
    contradiction
  only := by
    intro network id' hmem hcontains
    rw [routes_joined] at hmem
    obtain ⟨hin, -⟩ | ⟨-, hold⟩ := OwnerTable.mem_assignAll.mp hmem
    · rw [hnone network hin] at hcontains
      contradiction
    · exact h.only network id' hold hcontains

theorem mem_lighthouseAnswers_of_route {requesterId foundId : UInt32} {targetIp : IpAddr}
    {requester found : PeerState} (hmode : node.amLighthouse = true)
    (hrequester : st.peers.lookup requesterId = some requester)
    (hroute : st.routes.lookup targetIp = some foundId)
    (hfound : st.peers.lookup foundId = some found) :
    ⟨requesterId, targetIp, foundId, found⟩ ∈ lighthouseAnswers node st requesterId targetIp := by
  have hrouted : routedPeer st targetIp = some (foundId, found) := by
    simp [routedPeer, hroute, hfound]
  simp only [lighthouseAnswers, hmode, hrequester, hrouted, Bool.not_true, Bool.false_eq_true,
    ↓reduceIte]
  exact List.mem_cons_self

theorem mem_answers_of_ownedBy (hmode : node.amLighthouse = true) {ip : IpAddr} {id : UInt32}
    {found : PeerState} (howner : OwnedBy st ip id) (hfound : st.peers.lookup id = some found)
    (hother : id ≠ nodeIdFromCert lib request.identity.cert)
    (hnone : ∀ route ∈ authorizedPeerRoutes lib request.identity.cert, route.contains ip = false) :
    ⟨nodeIdFromCert lib request.identity.cert, ip, id, found⟩ ∈
      lighthouseAnswers node (joined node env st src request)
        (nodeIdFromCert lib request.identity.cert) ip :=
  mem_lighthouseAnswers_of_route hmode lookup_joined_self (howner.joined hnone).lookup
    ((lookup_joined_ne hother).trans hfound)

end Joining

end Liteway.Daemon
