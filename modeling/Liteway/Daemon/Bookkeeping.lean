import Liteway.Daemon.ThreadSteps

/-!
# The maps agree

Whenever both threads are idle the maps agree, as long as no session is installed over
a drop that is under way and no entry is written for a peer that has gone.
-/

namespace Liteway.Daemon

open Liteway.Library Liteway.Core

namespace Threads

/-! ## Whole runs -/

section Runs

variable {lib : Primitives} {node : Node lib}

theorem invariant_step (t : Threads) (turn : Turn) (h : t.Invariant)
    (hguard : t.Fresh turn ∧ t.Orderly node turn) : (t.step node turn).Invariant := by
  obtain ⟨hfresh, horderly⟩ := hguard
  unfold step
  cases turn with
  | addPeer now session =>
      cases hreceiver : t.receiver with
      | idle => exact invariant_beginAdd h hreceiver now hfresh horderly
      | _ => exact h
  | receiver => exact invariant_continueAdd h horderly
  | maintainPeers env =>
      simp only
      split
      · rename_i hidle
        exact invariant_maintainPeers h env hidle
      · exact h
  | maintainer => exact invariant_continueDrops h

/-- Whenever neither thread is in a call, the maps agree. -/
theorem Invariant.coherent {t : Threads} (h : t.Invariant) (hidle : t.Idle) : Coherent t.state := by
  obtain ⟨hreceiver, hmaintainer⟩ := hidle
  constructor
  · intro rxSessionId peerId hentry
    rw [← isSome_heldWith]
    obtain hpeer | ⟨_, hpending, -⟩ | ⟨_, hpending⟩ := h.entries rxSessionId peerId hentry
    · rw [hpeer]
      rfl
    · rw [hreceiver] at hpending
      contradiction
    · rw [hmaintainer] at hpending
      contradiction
  · intro peerId hmentions
    rw [← isSome_heldWith]
    exact h.mentioned_present hmentions (by simp [RoutesAwaited, hmaintainer])
  · intro peerId peer hpeer
    have hheld : heldWith t.state peerId = some peer.rxSessionId := congrArg _ hpeer
    obtain hfound | ⟨_, _, hpending, -⟩ := h.found peerId _ hheld
    · exact hfound
    · rw [hreceiver] at hpending
      contradiction

/-- However the sections interleave, the maps agree whenever no call is in
progress, and every drop removes the session it was decided on, as long as the
two threads keep out of each other's way. -/
theorem bookkeeping_coherent (lighthouses : List LighthouseSlot) {turns : List Turn}
    (hrun : Guarded (step node) (fun t turn => t.Fresh turn ∧ t.Orderly node turn)
      (start lighthouses) turns) :
    (runAll (step node) (start lighthouses) turns).FaithfulDrops ∧
      ((runAll (step node) (start lighthouses) turns).Idle →
        Coherent (runAll (step node) (start lighthouses) turns).state) := by
  have hinvariant := guarded_invariant invariant_step (invariant_start lighthouses) hrun
  exact ⟨hinvariant.faithful, hinvariant.coherent⟩

/-! ## Calls without interference -/

/-- Left alone, the sections of `add_peer` make up the call. -/
theorem run_addPeer {t : Threads} (hidle : t.receiver = .idle) (now : Instant)
    (session : NewSession) :
    runAll (step node) t [.addPeer now session, .receiver, .receiver, .receiver] =
      { t with
        state := (addPeer node now t.state session).2.1
        offered := session.rxSessionId :: t.offered } := by
  obtain ⟨state, receiver, maintainer, offered, removals⟩ := t
  cases hidle
  cases haccept : acceptsSession node session state.peers with
  | false =>
      rw [addPeer_of_not_accepts haccept]
      simp [step, beginAdd, addPeerPeers, haccept, continueAdd]
  | true =>
      rw [addPeer_of_accepts haccept]
      simp [step, beginAdd, addPeerPeers, haccept, continueAdd, withSession]

theorem run_removePeer {t : Threads} {drop : Drop} {rest : List Drop} {peer : PeerState}
    (hmaintainer : t.maintainer = .drops (drop :: rest))
    (hpeer : t.state.peers.lookup drop.peerId = some peer) :
    runAll (step node) t [.maintainer, .maintainer, .maintainer, .maintainer] =
      { t with
        state := (removePeer node t.state drop.peerId).1
        maintainer := .drops rest
        removals := (drop, peer.rxSessionId) :: t.removals } := by
  obtain ⟨state, receiver, maintainer, offered, removals⟩ := t
  cases hmaintainer
  simp only at hpeer
  simp [step, continueDrops, removePeer, removePeerPeers, hpeer]

/-! ## A session over a drop -/

theorem decideDrops_expired (henabled : node.keepaliveEnabled = true) {session : NewSession}
    {now : Instant} {env : Env} {lighthouses : List LighthouseSlot}
    (hexpired : env.now.durationSince now ≥ node.timings.peerExpiry) :
    decideDrops node env (withSession node now session (.initial lighthouses)) =
      [⟨session.id, some session.rxSessionId⟩] := by
  have hpeers : (withSession node now session (.initial lighthouses)).peers.entries =
      [⟨session.id, newPeer node now session none⟩] := rfl
  have hlookup : (withSession node now session (.initial lighthouses)).peers.lookup session.id =
      some (newPeer node now session none) := AList.lookup_insert _
  have hdrop : (maintainPeer node (env.forPeer session.id) session.id
      (newPeer node now session none)).2.2 = some .expired := by
    have htick : (newPeer node now session none).tick env.now node.timings
        ((env.forPeer session.id).rand [0]).token =
        (.drop .expired, newPeer node now session none) := if_pos hexpired
    have hnow : (env.forPeer session.id).now = env.now := rfl
    unfold maintainPeer
    rw [if_pos henabled, hnow, htick]
  unfold decideDrops maintainPeersDrops
  rw [hpeers]
  simp only [List.filterMap_cons, hdrop, Option.map_some, List.filterMap_nil, List.map_cons,
    List.map_nil, hlookup]
  rfl

/-- A session is installed and goes stale, and its drop is decided. -/
def staleSession (session : NewSession) (env : Env) : List Turn :=
  [.addPeer 0 session, .receiver, .receiver, .receiver, .maintainPeers env]

def staleState (node : Node lib) (session : NewSession) (env : Env) : NodeState :=
  maintainPeersLocked node env (withSession node 0 session (.initial []))

theorem run_staleSession (henabled : node.keepaliveEnabled = true) {session : NewSession}
    {env : Env} (hexpired : env.now.durationSince 0 ≥ node.timings.peerExpiry) :
    runAll (step node) (start []) (staleSession session env) =
      { start [] with
        state := staleState node session env
        maintainer := .drops [⟨session.id, some session.rxSessionId⟩]
        offered := [session.rxSessionId] } := by
  have hadded : runAll (step node) (start [])
      [.addPeer 0 session, .receiver, .receiver, .receiver] = _ := run_addPeer rfl 0 session
  rw [addPeer_of_accepts (acceptsSession_of_absent rfl)] at hadded
  have hdrops : decideDrops node env (withSession node 0 session (.initial [])) = _ :=
    decideDrops_expired henabled hexpired
  have hturns : staleSession session env =
      [.addPeer 0 session, .receiver, .receiver, .receiver] ++ [.maintainPeers env] := rfl
  rw [hturns, runAll_append, hadded, ← hdrops]
  rfl

def race (session : NewSession) (now : Instant) : List Turn :=
  [.addPeer now session, .maintainer, .maintainer, .maintainer, .maintainer, .receiver, .receiver,
    .receiver]

theorem race_incoherent {first second : NewSession} (henabled : node.keepaliveEnabled = true)
    (hsame : second.id = first.id) (hone : second.simultaneous = false)
    (hids : second.rxSessionId ≠ first.rxSessionId) {env : Env}
    (hexpired : env.now.durationSince 0 ≥ node.timings.peerExpiry) :
    let turns := staleSession first env ++ race second env.now
    let last := runAll (step node) (start []) turns
    Guarded (step node) Fresh (start []) turns ∧ last.Idle ∧
      ¬ last.FaithfulDrops ∧ ¬ Coherent last.state := by
  have hstale : runAll (step node) (start []) (staleSession first env) = _ :=
    run_staleSession henabled hexpired
  have haccept : acceptsSession node second (staleState node first env).peers = true :=
    acceptsSession_of_not_simultaneous hone
  -- the state after the first section of `add_peer`
  obtain ⟨st, old, hadd, hpeer⟩ : ∃ st old,
      addPeerPeers node env.now second (staleState node first env) = some (st, old) ∧
      st.peers.lookup first.id = some (newPeer node env.now second
        ((staleState node first env).peers.lookup second.id)) := by
    refine ⟨_, _, if_pos haccept, ?_⟩
    rw [← hsame]
    exact AList.lookup_insert _
  intro turns last
  have hbegun : step node { start [] with
        state := staleState node first env
        maintainer := .drops [⟨first.id, some first.rxSessionId⟩]
        offered := [first.rxSessionId] } (.addPeer env.now second) =
      { state := st
        receiver := .sessions second old
        maintainer := .drops [⟨first.id, some first.rxSessionId⟩]
        offered := [second.rxSessionId, first.rxSessionId]
        removals := [] } := by
    unfold step beginAdd
    simp only [start, hadd]
  have hremoved : runAll (step node)
      { state := st
        receiver := .sessions second old
        maintainer := .drops [⟨first.id, some first.rxSessionId⟩]
        offered := [second.rxSessionId, first.rxSessionId]
        removals := [] } [.maintainer, .maintainer, .maintainer, .maintainer] = _ :=
    run_removePeer rfl hpeer
  have hlast : last = {
      state := bindLighthouse second.addr second.cert.body.info.name second.id
        (addPeerRoutes lib second (addPeerSessions old second (removePeer node st first.id).1))
      receiver := .idle
      maintainer := .drops []
      offered := [second.rxSessionId, first.rxSessionId]
      removals := [(⟨first.id, some first.rxSessionId⟩, second.rxSessionId)] } := by
    have hrace : race second env.now = .addPeer env.now second ::
        ([.maintainer, .maintainer, .maintainer, .maintainer] ++
          [.receiver, .receiver, .receiver]) := rfl
    change runAll (step node) (start []) (staleSession first env ++ race second env.now) = _
    rw [runAll_append, hstale, hrace, runAll_cons, hbegun, runAll_append, hremoved]
    rfl
  have hgone : (removePeer node st first.id).1.peers.lookup first.id = none := by
    unfold removePeer removePeerPeers
    simp only [hpeer]
    exact AList.lookup_erase _ _
  rw [hlast]
  refine ⟨guarded_append.mpr ⟨⟨?_, trivial, trivial, trivial, trivial, trivial⟩, ?_⟩, ⟨rfl, rfl⟩,
    ?_, ?_⟩
  · exact List.not_mem_nil
  · rw [hstale]
    refine ⟨?_, trivial, trivial, trivial, trivial, trivial, trivial, trivial, trivial⟩
    exact fun hmem => hids (List.mem_singleton.mp hmem)
  · intro hfaithful
    exact hids (Option.some.inj (hfaithful _ List.mem_cons_self)).symm
  · intro hcoherent
    have hentry := lookup_addPeerSessions old second (removePeer node st first.id).1
      second.rxSessionId
    rw [if_pos rfl] at hentry
    have hpresent := hcoherent.session_present second.rxSessionId second.id hentry
    rw [hsame] at hpresent
    exact absurd hpresent (by
      change ¬ ((removePeer node st first.id).1.peers.lookup first.id).isSome = true
      rw [hgone]
      exact Bool.false_ne_true)

theorem drop_orderly (session : NewSession) (henabled : node.keepaliveEnabled = true) {env : Env}
    (hexpired : env.now.durationSince 0 ≥ node.timings.peerExpiry) :
    let turns := staleSession session env ++ [.maintainer, .maintainer, .maintainer, .maintainer]
    Guarded (step node) (fun t turn => t.Fresh turn ∧ t.Orderly node turn) (start []) turns ∧
      (runAll (step node) (start []) turns).Idle := by
  intro turns
  have haccept : acceptsSession node session (NodeState.initial []).peers = true :=
    acceptsSession_of_absent rfl
  obtain ⟨st, hbegun, hpresent⟩ : ∃ st, step node (start []) (.addPeer 0 session) =
        { start [] with
          state := st
          receiver := .sessions session none
          offered := [session.rxSessionId] } ∧
      (st.peers.lookup session.id).isSome = true := by
    refine ⟨{ NodeState.initial [] with
      peers := (NodeState.initial []).peers.insert session.id (newPeer node 0 session none) }, ?_, ?_⟩
    · have hadd : addPeerPeers node 0 session (NodeState.initial []) = some (_, _) := if_pos haccept
      unfold step beginAdd
      simp only [start, hadd]
      rfl
    · exact AList.lookup_isSome.mpr (AList.mem_insert _ |>.mpr (Or.inl rfl))
  have hstale : runAll (step node) (start []) (staleSession session env) = _ :=
    run_staleSession henabled hexpired
  obtain ⟨peer, hpeer⟩ : ∃ peer, (staleState node session env).peers.lookup session.id =
      some peer := by
    rw [← Option.isSome_iff_exists, ← isSome_heldWith]
    unfold staleState
    rw [heldWith_maintainPeersLocked, isSome_heldWith]
    exact AList.lookup_isSome.mpr (AList.mem_insert _ |>.mpr (Or.inl rfl))
  constructor
  · refine ⟨⟨List.not_mem_nil, fun _ drop hdrop => absurd hdrop List.not_mem_nil⟩, ?_⟩
    rw [hbegun]
    exact ⟨⟨trivial, Or.inl hpresent⟩, ⟨trivial, Or.inl hpresent⟩, ⟨trivial, trivial⟩,
      ⟨trivial, trivial⟩, ⟨trivial, trivial⟩, ⟨trivial, trivial⟩, ⟨trivial, trivial⟩,
      ⟨trivial, trivial⟩, trivial⟩
  · change (runAll (step node) (start []) (staleSession session env ++ _)).Idle
    rw [runAll_append, hstale]
    have hremoved : runAll (step node) { start [] with
        state := staleState node session env
        maintainer := .drops [⟨session.id, some session.rxSessionId⟩]
        offered := [session.rxSessionId] } [.maintainer, .maintainer, .maintainer, .maintainer] = _ :=
      run_removePeer rfl hpeer
    exact hremoved ▸ ⟨rfl, rfl⟩

end Runs

end Threads

namespace Sample

noncomputable def aliceSession (rxSessionId : UInt32) : NewSession where
  id := nodeIdFromCert (transparent pair) (Core.Sample.cert "alice" 1)
  sessionKey := Vector.replicate _ 0
  cert := Core.Sample.cert "alice" 1
  addr := Core.Sample.source
  directAddr := none
  relayed := false
  isRelay := false
  txSessionId := 1
  rxSessionId := rxSessionId
  initiatorId := nodeIdFromCert (transparent pair) (Core.Sample.cert "alice" 1)
  simultaneous := false

theorem bob_expiry : (env 300 2 ⟨2, by decide⟩).now.durationSince 0 ≥
    (node pair "bob" 2).timings.peerExpiry := by decide

end Sample

/-- Bob drops the stale session of alice. -/
theorem bob_drops_stale_session :
    ∃ (lib : Primitives) (node : Node lib) (turns : List Turn),
      Guarded (Threads.step node) (fun t turn => t.Fresh turn ∧ t.Orderly node turn)
          (Threads.start []) turns ∧
        (runAll (Threads.step node) (Threads.start []) turns).Idle ∧
        (runAll (Threads.step node) (Threads.start []) turns).FaithfulDrops ∧
        Threads.Coherent (runAll (Threads.step node) (Threads.start []) turns).state := by
  obtain ⟨hguarded, hidle⟩ := Threads.drop_orderly (Sample.aliceSession 1) rfl Sample.bob_expiry
  obtain ⟨hfaithful, hcoherent⟩ := Threads.bookkeeping_coherent [] hguarded
  exact ⟨_, _, _, hguarded, hidle, hfaithful, hcoherent hidle⟩

/-- Alice comes back between the decision to drop her stale session and the drop:
the drop removes her new session, whose id stays in the session map. -/
theorem drop_takes_new_session :
    ∃ (lib : Primitives) (node : Node lib) (turns : List Turn),
      Guarded (Threads.step node) Threads.Fresh (Threads.start []) turns ∧
        (runAll (Threads.step node) (Threads.start []) turns).Idle ∧
        ¬ (runAll (Threads.step node) (Threads.start []) turns).FaithfulDrops ∧
        ¬ Threads.Coherent (runAll (Threads.step node) (Threads.start []) turns).state := by
  have hsame : (Sample.aliceSession 3).id = (Sample.aliceSession 1).id := rfl
  exact ⟨_, _, _, Threads.race_incoherent rfl hsame rfl (show (3 : UInt32) ≠ 1 by decide)
    Sample.bob_expiry⟩

end Liteway.Daemon
