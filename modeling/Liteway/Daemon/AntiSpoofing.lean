import Liteway.Daemon.Delivery

/-!
# What reaches the TUN device

A packet is written to the TUN device only if a live peer sent it under its
session key, for the first time, from an address its certificate authorizes and
to one the certificate of this node authorizes.
-/

namespace Liteway.Daemon

open Liteway.Library Liteway.Core

/-! ## Sessions remember what they were installed with -/

/-- Every session authorizes what its certificate does, and its replay window
stands for the numbers accepted since it was installed. -/
def Authentic (lib : Primitives) (record : Record) : Prop :=
  ∀ id peer, record.state.peers.lookup id = some peer →
    peer.routes = authorizedPeerRoutes lib peer.cert ∧
      peer.rxReplay.Represents (sessionLog id record.trace)

section Invariant

variable {lib : Primitives} {node : Node lib}

theorem authentic_routine {st : NodeState} {trace : List Effect} {out : NodeState × List Effect}
    (hinv : Authentic lib ⟨st, trace⟩) (h : Routine st out) :
    Authentic lib ⟨out.1, trace ++ out.2⟩ := by
  intro id after hafter
  obtain ⟨before, hbefore, hsame⟩ := h.kept id after hafter
  obtain ⟨hroutes, hwindow⟩ := hinv id before hbefore
  rw [hsame.routes, hsame.cert, hsame.rxReplay]
  refine ⟨hroutes, ?_⟩
  rw [sessionLog_append id trace fun effect heffect => (h.silent effect heffect).unmarked]
  exact hwindow

theorem authentic_installs {now : Instant} {st : NodeState} {session : NewSession}
    {trace : List Effect} {out : NodeState × List Effect} (hinv : Authentic lib ⟨st, trace⟩)
    (h : Installs node now st session out) : Authentic lib ⟨out.1, trace ++ out.2⟩ := by
  obtain ⟨rest, heffects, hrest⟩ := h.effects
  have hlog : ∀ id, sessionLog id (trace ++ out.2) =
      if session.id = id then [] else sessionLog id trace := by
    intro id
    rw [heffects, List.append_cons, sessionLog_append id _ fun effect heffect =>
      (hrest effect heffect).unmarked, sessionLog_installed]
  intro id after hafter
  change out.1.peers.lookup id = some after at hafter
  rw [h.peers, AssocMap.lookup_insert_eq] at hafter
  change _ ∧ after.rxReplay.Represents (sessionLog id (trace ++ out.2))
  rw [hlog]
  split at hafter
  · rename_i hid
    cases Option.some.inj hafter
    rw [if_pos hid.symm]
    exact ⟨rfl, ReplayWindow.represents_new⟩
  · rename_i hid
    rw [if_neg fun heq => hid heq.symm]
    exact hinv id after hafter

theorem authentic_afterAccept (env : Env) {st : NodeState} (src : SocketAddr)
    {packet : ByteString} {peerId : UInt32} {peer : PeerState} {header : NetworkHeader}
    {body : PacketBody} {trace : List Effect} (hinv : Authentic lib ⟨st, trace⟩)
    (h : Accepts node st packet peerId peer header body) :
    Authentic lib
      ⟨afterAccept env st src peerId peer body, trace ++ [.accepted peerId (packetSeq body)]⟩ := by
  intro id after hafter
  change (st.peers.insert peerId _).lookup id = some after at hafter
  rw [AssocMap.lookup_insert_eq] at hafter
  change _ ∧ after.rxReplay.Represents (sessionLog id (trace ++ _))
  rw [sessionLog_accepted]
  split at hafter
  · rename_i hid
    subst hid
    cases Option.some.inj hafter
    obtain ⟨hroutes, hwindow⟩ := hinv id peer h.live
    have hsame := SameSession.receive peer (peer.rxReplay.accept (packetSeq body)).2 src env.now
      (srcIsRelay st id peer src) (PacketBody.isKeepalive body)
    have hspec := (ReplayWindow.accept_spec hwindow (packetSeq body)).2
    rw [if_pos h.fresh] at hspec
    rw [hsame.routes, hsame.cert, hsame.rxReplay, if_pos rfl]
    exact ⟨hroutes, hspec⟩
  · rename_i hid
    rw [if_neg fun heq => hid heq.symm]
    exact hinv id after hafter

theorem authentic_handleBody (node : Node lib) (env : Env) {st : NodeState} (src : SocketAddr)
    (peerId : UInt32) (body : PacketBody) {trace : List Effect}
    (hinv : Authentic lib ⟨st, trace⟩) :
    Authentic lib ⟨(handleBody node env st src peerId body).1,
      trace ++ (handleBody node env st src peerId body).2⟩ := by
  obtain ⟨seq, ipPacket, rfl⟩ | hother := body_cases body
  · intro id after hafter
    change _ ∧ after.rxReplay.Represents (sessionLog id (trace ++ handleData node st peerId ipPacket))
    rw [sessionLog_append id trace unmarked_handleData]
    exact hinv id after hafter
  · exact authentic_routine hinv (routine_handleBody node env st src peerId hother)

theorem authentic_step {record : Record} (hinv : Authentic lib record) (event : Event) :
    Authentic lib (record.step node event) := by
  obtain ⟨st, trace⟩ := record
  have houtcome := outcome_step node st event
  unfold Record.step
  generalize step node st event = out at houtcome
  cases houtcome with
  | routine h => exact authentic_routine hinv h
  | installs _ _ h => exact authentic_installs hinv h
  | @accepts env src data packet peerId peer header body _ h =>
      have haccepts : Accepts node (afterFeed node env st src data) packet peerId peer header body :=
        ⟨h.session, h.live, h.decrypted, h.fresh⟩
      have hfed : Authentic lib ⟨afterFeed node env st src data, trace⟩ := hinv
      have hafter := authentic_handleBody node env src peerId body
        (authentic_afterAccept env src hfed haccepts)
      rw [List.append_assoc, List.singleton_append] at hafter
      exact hafter

theorem authentic_run (lighthouses : List LighthouseSlot) (events : List Event) :
    Authentic lib (run node lighthouses events) := by
  apply runAll_invariant
  · exact fun record event hinv => authentic_step hinv event
  · intro id peer hpeer
    simp [NodeState.initial] at hpeer

end Invariant

/-! ## The TUN device -/

section Tun

variable {lib : Primitives}

theorem peerAllowsIpPacketSource_eq_true {peer : PeerState} {ipPacket : ByteString}
    (h : peerAllowsIpPacketSource peer ipPacket = true) :
    ∃ srcIp, parseSourceIp ipPacket = some srcIp ∧
      ∃ route ∈ peer.routes, route.contains srcIp = true := by
  unfold peerAllowsIpPacketSource at h
  split at h
  · contradiction
  · rename_i srcIp hsrc
    exact ⟨srcIp, hsrc, List.any_eq_true.mp h⟩

theorem acceptsDestination_eq_true {node : Node lib} (hnetworks : node.localNetworks ≠ [])
    {ipPacket : ByteString} (h : acceptsDestination node ipPacket = true) :
    ∃ dstIp, parseDestIp ipPacket = some dstIp ∧
      (dstIp.isMulticast = true ∨
        ∃ network ∈ node.localNetworks, network.contains dstIp = true) := by
  unfold acceptsDestination at h
  rw [if_neg (by simpa using hnetworks)] at h
  split at h
  · contradiction
  · rename_i dstIp hdst
    refine ⟨dstIp, hdst, ?_⟩
    split at h
    · rename_i hmulticast
      exact Or.inl hmulticast
    · exact Or.inr (List.any_eq_true.mp h)

/-- A packet of a live session, sent under its key for the first time, that the
datagram `data` brings. -/
structure Carries (node : Node lib) (env : Env) (record : Record) (src : SocketAddr)
    (data : ByteString) (peerId : UInt32) (peer : PeerState) (ipPacket : ByteString) : Prop where
  live : record.state.peers.lookup peerId = some peer
  authenticated : ∃ packet header seq, wholePacket node env record.state src data = some packet ∧
    decryptPacket lib packet node.networkKey peer.rxKey = some (header, .data seq ipPacket) ∧
    seq ∉ sessionLog peerId record.trace

/-- Nothing but an authorized packet of a live peer reaches the TUN device. -/
theorem tunWrite_authorized {node : Node lib} (hnetworks : node.localNetworks ≠ [])
    (lighthouses : List LighthouseSlot) (events : List Event) (env : Env) (src : SocketAddr)
    (data : ByteString) {ipPacket : ByteString}
    (hwrite : .tunWrite ipPacket ∈
      (handleDatagram node env (run node lighthouses events).state src data).2) :
    ∃ peerId peer, Carries node env (run node lighthouses events) src data peerId peer ipPacket ∧
      (∃ srcIp, parseSourceIp ipPacket = some srcIp ∧
        ∃ route ∈ authorizedPeerRoutes lib peer.cert, route.contains srcIp = true) ∧
      ∃ dstIp, parseDestIp ipPacket = some dstIp ∧
        (dstIp.isMulticast = true ∨
          ∃ network ∈ node.localNetworks, network.contains dstIp = true) := by
  have hinv : Authentic lib (run node lighthouses events) := authentic_run lighthouses events
  generalize run node lighthouses events = record at hinv hwrite
  have houtcome := outcome_handleDatagram node env record.state src data
  generalize handleDatagram node env record.state src data = out at houtcome hwrite
  generalize hevent : Event.datagram env src data = event at houtcome
  cases houtcome with
  | routine h => exact absurd (h.silent _ hwrite) (by simp [Effect.Silent])
  | installs _ _ h =>
      obtain ⟨rest, heffects, hrest⟩ := h.effects
      rw [heffects] at hwrite
      obtain hfirst | hlater := List.mem_cons.mp hwrite
      · contradiction
      · exact absurd (hrest _ hlater) (by simp [Effect.Silent])
  | @accepts env' src' data' packet peerId peer header body hpacket h =>
      cases hevent
      obtain hfirst | hlater := List.mem_cons.mp hwrite
      · contradiction
      obtain ⟨seq, found, rfl⟩ | hother := body_cases body
      · obtain ⟨heq, ⟨after, hafter, hsource⟩, hdestination, -⟩ := mem_handleData_iff.mp hlater
        cases heq
        obtain ⟨hroutes, hwindow⟩ := hinv peerId peer h.live
        have hfresh := (ReplayWindow.accept_spec hwindow seq).1.mp h.fresh
        -- the peer that is asked for its routes is the one that sent the packet
        have hpeers : (afterAccept env (afterFeed node env record.state src data) src peerId peer
            (.data seq ipPacket)).peers.lookup peerId = some _ := AList.lookup_insert _
        rw [hpeers] at hafter
        cases Option.some.inj hafter
        have hsource' := peerAllowsIpPacketSource_eq_true hsource
        rw [(SameSession.receive peer _ src env.now _ _).routes] at hsource'
        exact ⟨peerId, peer, ⟨h.live, packet, header, seq, hpacket, h.decrypted, hfresh.1⟩,
          hroutes ▸ hsource', acceptsDestination_eq_true hnetworks hdestination⟩
      · exact absurd ((routine_handleBody node env _ src peerId hother).silent _ hlater)
          (by simp [Effect.Silent])

namespace Sample

/-- An IPv4 header from alice's address to bob's. -/
def ipPacket : ByteString := [0x45, 0, 0, 0, 0, 0, 0, 0, 0, 0, 0, 0, 10, 0, 0, 1, 10, 0, 0, 2]

end Sample

/-- Alice opens a session with bob, and her first packet reaches his TUN device. -/
theorem alice_reaches_tun :
    ∃ (lib : Primitives) (node : Node lib) (events : List Event) (env : Env) (src : SocketAddr)
      (data : ByteString),
      node.localNetworks ≠ [] ∧
        .tunWrite Sample.ipPacket ∈ (handleDatagram node env (run node [] events).state src data).2 ∧
        ∃ peerId peer, Carries node env (run node [] events) src data peerId peer
          Sample.ipPacket := by
  have hlib := transparent_correct [Core.Sample.cert "alice" 1, Core.Sample.cert "bob" 2]
  have hknown : Core.Sample.cert "alice" 1 ∈ [Core.Sample.cert "alice" 1, Core.Sample.cert "bob" 2] :=
    List.mem_cons_self
  have hwelcome := Sample.welcome_request "bob" 2 hknown (by decide) (by decide) ⟨1, by decide⟩ false
    (show timestampValid 1000 (Sample.env 0 2 ⟨2, by decide⟩).unixTime by decide) (by decide)
    (by decide)
  have hnetworks := Sample.localNetworks_node
    [Core.Sample.cert "alice" 1, Core.Sample.cert "bob" 2] "bob" 2
  have hne : (Sample.node [Core.Sample.cert "alice" 1, Core.Sample.cert "bob" 2] "bob"
      2).localNetworks ≠ [] := by
    rw [hnetworks]
    exact List.cons_ne_nil _ _
  have hroute : (⟨.v4 (Sample.address 1), 32, Nat.le_refl 32⟩ : IpNetwork) ∈
      authorizedPeerRoutes (transparent [Core.Sample.cert "alice" 1, Core.Sample.cert "bob" 2])
        (Core.Sample.cert "alice" 1) := by
    rw [Sample.authorizedPeerRoutes_cert]
    exact List.mem_singleton_self _
  have hdestination : acceptsDestination (Sample.node [Core.Sample.cert "alice" 1,
      Core.Sample.cert "bob" 2] "bob" 2) Sample.ipPacket = true := by
    unfold acceptsDestination
    rw [hnetworks]
    decide
  have hwrite := tunWrite_after_opening hlib (Sample.env 0 2 ⟨2, by decide⟩) hwelcome []
    Core.Sample.source (Sample.env 1 3 ⟨3, by decide⟩) Core.Sample.source (Core.Sample.sealingOf 4)
    Core.Sample.padding 1 (show Sample.ipPacket.length < 2 ^ 32 by decide)
    (show parseSourceIp Sample.ipPacket = some (.v4 (Sample.address 1)) by decide) hroute
    (by decide) hdestination rfl
  obtain ⟨peerId, peer, hcarries, -⟩ := tunWrite_authorized hne [] _ _ _ _ hwrite
  exact ⟨_, _, _, _, _, _, hne, hwrite, peerId, peer, hcarries⟩

end Tun

end Liteway.Daemon
