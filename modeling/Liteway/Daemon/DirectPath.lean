import Liteway.Daemon.Link

/-!
# Leaving the relay

Two nodes with a session through a relay probe the direct path between them.  The
session leaves the relay only after packets have come through on the direct path in
both directions: what tells the one end is in what the other end has sent.
-/

namespace Liteway.Daemon

open Liteway.Library Liteway.Core

namespace Link

variable {lib : Primitives} {link : Link lib} {key : End → SessionKey} {s : LinkState}

variable (link) in
/-- Whenever an end of the session leaves the relay, packets have come through on
the direct path in both directions. -/
theorem switch_needs_both_directions (hlib : lib.Correct) (hopens : link.Opens key s)
    (events : List LinkEvent) (hguard : Guarded link.step link.Guard s events) {now : LinkState}
    (hnow : now = runAll link.step s events) {event : LinkEvent} (hevent : link.Guard now event)
    {e : End} {before after : PeerState}
    (hbefore : (now.st e).peers.lookup (link.peerId e) = some before)
    (hrelayed : before.relayed = true)
    (hafter : ((link.step now event).st e).peers.lookup (link.peerId e) = some after)
    (hleft : after.relayed = false) :
    ∀ side, (link.step now event).direct side = true := by
  have hcautious : ∀ e, link.Cautious key e (now.st e) (now.sent e) (now.direct e) := by
    rw [hnow]
    exact @guarded_invariant _ _ _ _
      (fun s => ∀ e, link.Cautious key e (s.st e) (s.sent e) (s.direct e))
      (fun s event h hguard => cautious_step hopens.relay h hguard.2) _ _ hopens.cautious hguard
  obtain ⟨hlive, hallowed⟩ := hevent
  have hmoved : ∀ peer, (now.st e).peers.lookup (link.peerId e) = some peer →
      ¬ SameEnd peer after := by
    intro peer hpeer hsame
    cases hbefore.symm.trans hpeer
    rw [hsame.relayed, hrelayed] at hleft
    contradiction
  have hstays : (link.step now event).st e ≠ now.st e := by
    intro hsame
    rw [hsame] at hafter
    exact hmoved after hafter (SameEnd.refl after)
  cases event with
  | act acting event =>
      obtain rfl : e = acting := by
        by_contra he
        exact hstays (Function.update_of_ne he _ _)
      simp only [step, Function.update_self] at hafter
      obtain ⟨peer, hpeer, hsame | ⟨_, _, _, _, _, _, rfl, hpacket, hheader, haccepts, -⟩⟩ :=
        end_step hallowed.1 hafter
      · exact absurd hsame (hmoved peer hpeer)
      · have htakes := hallowed.2
        simp [takesPacket, takenFrom_of_accepts hpacket hheader haccepts] at htakes
  | send sending draw body =>
      cases htx : peerTx (now.st sending) (link.peerId sending) with
      | none => exact absurd (by simp only [step, htx]) hstays
      | some out =>
          obtain rfl : e = sending := by
            by_contra he
            exact hstays (by simp only [step, htx, Function.update_of_ne he])
          simp only [step, htx, Function.update_self] at hafter
          obtain ⟨-, peer, hpeer, hsame⟩ := (retains_peerTx htx).ends.only _ after hafter
          exact absurd hsame (hmoved peer hpeer)
  | deliver receiving env mail =>
      cases hsource : link.source receiving mail with
      | none => exact absurd (by simp only [step, hsource]) hstays
      | some src =>
          obtain rfl : e = receiving := by
            by_contra he
            exact hstays (by simp only [step, hsource, Function.update_of_ne he])
          simp only [step, hsource, Function.update_self] at hafter
          obtain ⟨hdirect, htakes, hother⟩ := Cautious.leaves_relay hlib hopens.network hcautious
            (hlive e) hallowed.1 hsource (hallowed.2 src hsource) hbefore hrelayed hafter hleft
          intro side
          by_cases hside : side = e
          · subst hside
            simp only [step, hsource, Function.update_self, htakes, Bool.true_and, Bool.or_eq_true,
              decide_eq_true_eq]
            exact Or.inr hdirect
          · have hpeer : side = e.other := by
              cases e <;> cases side <;> first
                | rfl
                | exact absurd rfl hside
            simp only [step, hsource, Function.update_of_ne hside]
            rw [hpeer]
            exact hother

end Link

namespace Sample

noncomputable def throughRelay (relay direct : SocketAddr) (txKey rxKey : SessionKey) : PeerState where
  name := "bob"
  cert := Core.Sample.cert "bob" 2
  txKey := txKey
  rxKey := rxKey
  addr := relay
  directAddr := some direct
  isRelay := false
  txSessionId := 1
  rxSessionId := 1
  txSeq := 0
  rxReplay := .new
  lastSeen := 0
  lastAck := 0
  routes := []
  handshakeInitiatorId := 0
  keepalive := none
  relayed := true
  nextProbe := none
  probeInterval := 0
  probeToken := none

noncomputable def relayPeer (relay : SocketAddr) : PeerState :=
  { throughRelay relay relay (Vector.replicate _ 0) (Vector.replicate _ 0) with
    isRelay := true
    relayed := false }

noncomputable def relayedState (peerId : UInt32) (relay : SocketAddr) (peer : PeerState) :
    NodeState :=
  { NodeState.initial [] with
    peers := ((∅ : AssocMap UInt32 PeerState).insert 9 (relayPeer relay)).insert peerId peer
    rxSessions := (∅ : AssocMap UInt32 UInt32).insert 1 peerId }

structure Ready (peerId : UInt32) (relay : SocketAddr) (session : PeerState) (st : NodeState) :
    Prop where
  live : ∃ peer, st.peers.lookup peerId = some peer ∧ SameEnd session peer
  relay : ∃ peer, st.peers.lookup 9 = some peer ∧ SameEnd (relayPeer relay) peer
  only : ∀ id peer, st.peers.lookup id = some peer → id = peerId ∨ id = 9
  session : st.rxSessions.lookup 1 = some peerId

variable {lib : Primitives} {node : Node lib} {peerId : UInt32} {relay direct : SocketAddr}
  {session : PeerState} {st : NodeState}

theorem ready_relayedState (hid : peerId ≠ 9) :
    Ready peerId relay session (relayedState peerId relay session) where
  live := ⟨session, AList.lookup_insert _, SameEnd.refl session⟩
  relay := by
    refine ⟨relayPeer relay, ?_, SameEnd.refl _⟩
    change ((AList.insert _ _ _).insert _ _).lookup _ = _
    rw [AList.lookup_insert_ne hid.symm]
    exact AList.lookup_insert _
  only := by
    intro id peer hpeer
    change ((AList.insert _ _ _).insert _ _).lookup _ = _ at hpeer
    rw [AssocMap.lookup_insert_eq, AssocMap.lookup_insert_eq] at hpeer
    split at hpeer
    · exact Or.inl ‹_›
    split at hpeer
    · exact Or.inr ‹_›
    · contradiction
  session := AList.lookup_insert _

theorem Ready.srcIsRelay (h : Ready peerId relay session st) {src : SocketAddr} (hsrc : src ≠ relay)
    (peer : PeerState) : srcIsRelay st peerId peer src = false := by
  rw [Bool.eq_false_iff]
  intro htrue
  unfold Daemon.srcIsRelay at htrue
  obtain ⟨id, found, hfound, hflags⟩ := AssocMap.any_eq_true_iff.mp (Bool.and_eq_true _ _ ▸ htrue).2
  simp only [ne_eq, decide_not, Bool.and_eq_true, Bool.not_eq_eq_eq_not, Bool.not_true,
    decide_eq_false_iff_not, decide_eq_true_eq] at hflags
  obtain ⟨peer, hpeer, hend⟩ := h.relay
  cases (h.only id found hfound).resolve_left hflags.1.1
  cases hfound.symm.trans hpeer
  exact hsrc (hflags.2.symm.trans hend.addr)

theorem entries_relayedState (hid : peerId ≠ 9) :
    (relayedState peerId relay session).peers.entries =
      [⟨peerId, session⟩, ⟨9, relayPeer relay⟩] := by
  have hnew : peerId ∉ (∅ : AssocMap UInt32 PeerState).insert 9 (relayPeer relay) := by
    rw [AList.mem_insert]
    simp [hid]
  change (AList.insert _ _ _).entries = _
  rw [AList.entries_insert_of_notMem hnew]
  rfl

theorem tick_relayedState (hid : peerId ≠ 9) (hdirect : relay ≠ direct) {env : Env}
    (hnow : env.now = 0) (hexpiry : 0 < node.timings.peerExpiry)
    (hinterval : 0 < node.timings.keepaliveInterval) (txKey rxKey : SessionKey) :
    maintainPeersDrops node env (relayedState peerId relay
        (throughRelay relay direct txKey rxKey)) = [] ∧
      ∀ action ∈ maintainPeersActions node env (relayedState peerId relay
        (throughRelay relay direct txKey rxKey)), action.mail.isSome = true := by
  have hquiet : ∀ id peer, peer.keepalive = none → peer.lastSeen = 0 → peer.lastAck = 0 →
      maintainPeer node (env.forPeer id) id peer = ((probePeer node (env.forPeer id) id peer).1,
        (probePeer node (env.forPeer id) id peer).2, none) := by
    intro id peer hkeepalive hseen hacked
    exact maintainPeer_of_fresh hkeepalive (hseen.trans hnow.symm) (hacked.trans hnow.symm) hexpiry
      hinterval
  have hsession := hquiet peerId (throughRelay relay direct txKey rxKey) rfl rfl rfl
  have hrelay := hquiet 9 (relayPeer relay) rfl rfl rfl
  rw [probePeer_of_relayed rfl rfl hdirect rfl] at hsession
  rw [probePeer_of_direct rfl] at hrelay
  unfold maintainPeersDrops maintainPeersActions
  rw [entries_relayedState hid]
  simp [hsession, hrelay, Action.mail]

theorem ready_maintenance (hid : peerId ≠ 9) (hdirect : relay ≠ direct) {env : Env}
    (hnow : env.now = 0) (hexpiry : 0 < node.timings.peerExpiry)
    (hinterval : 0 < node.timings.keepaliveInterval) (txKey rxKey : SessionKey) :
    Ready peerId relay (throughRelay relay direct txKey rxKey) (step node (relayedState peerId relay
      (throughRelay relay direct txKey rxKey)) (.maintenance env)).1 := by
  obtain ⟨hdrops, hsends⟩ := @tick_relayedState _ node peerId relay direct hid hdirect (env.part 1)
    hnow hexpiry hinterval txKey rxKey
  obtain ⟨hpeers, hsessions⟩ := step_maintenance hdrops hsends
  have hready : Ready peerId relay (throughRelay relay direct txKey rxKey)
      (relayedState peerId relay (throughRelay relay direct txKey rxKey)) := ready_relayedState hid
  have hlookup : ∀ id, (step node (relayedState peerId relay (throughRelay relay direct txKey rxKey))
      (.maintenance env)).1.peers.lookup id = ((relayedState peerId relay
        (throughRelay relay direct txKey rxKey)).peers.lookup id).map fun peer =>
          (maintainPeer node ((env.part 1).forPeer id) id peer).1 := by
    intro id
    rw [hpeers]
    unfold maintainPeersLocked
    rw [AssocMap.lookup_mapValues]
  have hkept : ∀ id session, (∃ peer, (relayedState peerId relay
      (throughRelay relay direct txKey rxKey)).peers.lookup id = some peer ∧ SameEnd session peer) →
      ∃ peer, (step node (relayedState peerId relay (throughRelay relay direct txKey rxKey))
        (.maintenance env)).1.peers.lookup id = some peer ∧ SameEnd session peer := by
    rintro id session ⟨peer, hpeer, hend⟩
    rw [hlookup, hpeer]
    exact ⟨_, rfl, hend.trans (sameEnd_maintainPeer node _ id peer)⟩
  refine ⟨hkept _ _ hready.live, hkept _ _ hready.relay, fun id peer hpeer => ?_, ?_⟩
  · rw [hlookup] at hpeer
    obtain ⟨before, hbefore, -⟩ := Option.map_eq_some_iff.mp hpeer
    exact hready.only id before hbefore
  · rw [hsessions]
    exact hready.session

/-! ### Alice probes bob -/

variable {link : Link lib} {key : End → SessionKey}

theorem Ready.relayLive {s : LinkState} {e : End} (h : Ready (link.peerId e) link.relay session (s.st e))
    (hid : link.peerId e ≠ 9) : link.RelayLive s e := by
  obtain ⟨peer, hpeer, hend⟩ := h.relay
  exact ⟨9, peer, hid.symm, hpeer, hend.isRelay, hend.addr⟩

noncomputable def start (link : Link lib) (key : End → SessionKey) : LinkState where
  st := fun e => relayedState (link.peerId e) link.relay
    (throughRelay link.relay (link.endpoint e.other) (key e) (key e.other))
  sent := fun _ => []
  direct := fun _ => false

theorem opens_start (hnetwork : (link.node .first).networkKey = (link.node .second).networkKey)
    (hrelay : ∀ e, link.endpoint e ≠ link.relay) : link.Opens key (start link key) where
  network := hnetwork
  relay := hrelay
  session := fun e => ⟨throughRelay link.relay (link.endpoint e.other) (key e) (key e.other),
    AList.lookup_insert _, rfl, rfl, rfl, rfl⟩
  sent := fun _ => rfl
  direct := fun _ => rfl

noncomputable def probe (link : Link lib) (key : End → SessionKey) (draw : Draw) : Mail where
  addr := link.endpoint .second
  wire := serializePacket (encryptPacket lib draw.sealing draw.padding (link.peerId .first) 1
    (link.node .first).networkKey (key .first) (.keepalive 1 draw.token))

theorem keepalives_start (hrelay : link.endpoint .second ≠ link.relay) {env : Env}
    (hnow : env.now = 0) (hexpiry : 0 < (link.node .first).timings.peerExpiry)
    (hinterval : 0 < (link.node .first).timings.keepaliveInterval) :
    link.keepalives .first ((start link key).st .first) (.maintenance env) =
      [probe link key (((env.part 1).forPeer (link.peerId .first)).rand [1])] := by
  have hlive : ((start link key).st .first).peers.lookup (link.peerId .first) =
      some (throughRelay link.relay (link.endpoint .second) (key .first) (key .second)) :=
    AList.lookup_insert _
  have htick := @maintainPeer_of_fresh _ (link.node .first) ((env.part 1).forPeer (link.peerId .first))
    (link.peerId .first) (throughRelay link.relay (link.endpoint .second) (key .first) (key .second))
    rfl hnow.symm hnow.symm hexpiry hinterval
  rw [probePeer_of_relayed rfl rfl hrelay.symm rfl] at htick
  unfold Link.keepalives
  simp only [hlive, htick]
  rfl

theorem probe_answered (hlib : lib.Correct)
    (hnetwork : (link.node .first).networkKey = (link.node .second).networkKey)
    (hid : link.peerId .second ≠ 9) (draw : Draw) (env : Env) {out : NodeState × List Effect}
    (hout : out = Daemon.step (link.node .second) ((start link key).st .second)
      (.datagram env (link.endpoint .first) (probe link key draw).wire)) :
    offeredBy (link.node .second) ((start link key).st .second)
        (.datagram env (link.endpoint .first) (probe link key draw).wire) = none ∧
      (∃ peer, out.1.peers.lookup 9 = some peer ∧ SameEnd (relayPeer link.relay) peer) ∧
      ∃ mail ∈ link.answers .second env ((start link key).st .second) (link.endpoint .first)
          (probe link key draw).wire, mail.addr = link.endpoint .first ∧
        ∃ seq token, mail.wire = serializePacket (encryptPacket lib (env.rand []).sealing
          (env.rand []).padding (link.node .first).ourId 1 (link.node .first).networkKey (key .second)
          (.keepaliveAck seq token)) := by
  have hready : Ready (link.peerId .second) link.relay _ ((start link key).st .second) :=
    ready_relayedState hid
  have hlive : ((start link key).st .second).peers.lookup (link.peerId .second) =
      some (throughRelay link.relay (link.endpoint .first) (key .second) (key .first)) :=
    AList.lookup_insert _
  have hwire : (probe link key draw).wire = serializePacket (encryptPacket lib draw.sealing
      draw.padding (link.node .second).ourId 1 (link.node .second).networkKey
      (throughRelay link.relay (link.endpoint .first) (key .second) (key .first)).rxKey
      (.keepalive 1 draw.token)) := by
    unfold probe
    rw [hnetwork]
    rfl
  have hshort : (PacketBody.keepalive 1 draw.token).Short lib := by
    intro payload hpayload
    contradiction
  obtain ⟨htakes, hoffer⟩ := takesPacket_encryptPacket hlib env (link.endpoint .first) draw.sealing
    draw.padding hready.session hlive hshort trivial rfl
  obtain ⟨st', ackSeq, hothers, hstep⟩ := @step_keepalive _ (link.node .second) env _
    (link.endpoint .first) _ _ hlib draw.sealing draw.padding 1 hready.session hlive 1 draw.token rfl
  rw [← hwire] at htakes hoffer hstep
  refine ⟨hoffer, ?_, ⟨link.endpoint .first, _⟩, ?_, rfl, ackSeq, draw.token, rfl⟩
  · obtain ⟨peer, hpeer, hend⟩ := hready.relay
    refine ⟨peer, ?_, hend⟩
    rw [hout, hstep, hothers 9 hid.symm]
    exact hpeer
  · unfold Link.answers
    rw [if_pos htakes, hstep, hnetwork]
    refine List.mem_filterMap.mpr ⟨_, List.mem_cons_of_mem _ List.mem_cons_self, ?_⟩
    exact if_pos rfl

theorem answer_switches (hlib : lib.Correct) {st : NodeState}
    (hready : Ready (link.peerId .first) link.relay
      (throughRelay link.relay (link.endpoint .second) (key .first) (key .second)) st)
    (hrelay : link.endpoint .second ≠ link.relay) (coins : SealCoins) (padding : Padding)
    (seq token : UInt64) (env : Env) {wire : ByteString}
    (hwire : wire = serializePacket (encryptPacket lib coins padding (link.node .first).ourId 1
      (link.node .first).networkKey (key .second) (.keepaliveAck seq token))) :
    offeredBy (link.node .first) st (.datagram env (link.endpoint .second) wire) = none ∧
      ∃ after, (Daemon.step (link.node .first) st
        (.datagram env (link.endpoint .second) wire)).1.peers.lookup (link.peerId .first) =
          some after ∧ after.relayed = false := by
  obtain ⟨peer, hpeer, hend⟩ := hready.live
  have hfresh : (peer.rxReplay.accept seq).1 = true := by
    rw [hend.rxReplay]
    rfl
  have hshort : (PacketBody.keepaliveAck seq token).Short lib := by
    intro payload hpayload
    contradiction
  have hkey : key .second = peer.rxKey := hend.rxKey.symm
  have hmoves := PeerState.relayed_receive_direct (peer.rxReplay.accept seq).2 env.now
    (show peer.addr ≠ link.endpoint .second from hend.addr ▸ hrelay.symm)
  rw [hwire, hkey]
  refine ⟨(takesPacket_encryptPacket hlib env (link.endpoint .second) coins padding hready.session
    hpeer hshort trivial hfresh).2, ?_⟩
  have hstep := @handleDatagram_encryptPacket _ (link.node .first) hlib env st (link.endpoint .second)
    coins padding 1 _ peer _ hshort trivial hready.session hpeer hfresh
  have hseen : (afterAccept env st (link.endpoint .second) (link.peerId .first) peer
      (.keepaliveAck seq token)).peers.lookup (link.peerId .first) = some (peer.receive
        (peer.rxReplay.accept seq).2 (link.endpoint .second) env.now false false) := by
    unfold afterAccept
    rw [hready.srcIsRelay hrelay]
    exact AList.lookup_insert _
  have hacked := SameEnd.ackKeepalive (peer.receive (peer.rxReplay.accept seq).2
    (link.endpoint .second) env.now false false) token env.now
  refine ⟨_, ?_, hacked.relayed.trans hmoves⟩
  refine (congrArg (fun out => out.1.peers.lookup (link.peerId .first)) hstep).trans ?_
  simp only [handleBody, handleKeepaliveAck, hseen]
  exact AList.lookup_insert _

theorem probe_switches (hlib : lib.Correct)
    (hnetwork : (link.node .first).networkKey = (link.node .second).networkKey)
    (hrelay : ∀ e, link.endpoint e ≠ link.relay) (hid : ∀ e, link.peerId e ≠ 9) {env : Env}
    (hnow : env.now = 0) (hexpiry : 0 < (link.node .first).timings.peerExpiry)
    (hinterval : 0 < (link.node .first).timings.keepaliveInterval) :
    ∃ events event before after, Guarded link.step link.Guard (start link key) events ∧
      link.Guard (runAll link.step (start link key) events) event ∧
      ((runAll link.step (start link key) events).st .first).peers.lookup (link.peerId .first) =
        some before ∧
      before.relayed = true ∧
      ((link.step (runAll link.step (start link key) events) event).st .first).peers.lookup
        (link.peerId .first) = some after ∧
      after.relayed = false := by
  generalize hdraw : (((env.part 1).forPeer (link.peerId .first)).rand [1]) = draw
  have hstart : ∀ e, Ready (link.peerId e) link.relay _ ((start link key).st e) :=
    fun e => ready_relayedState (hid e)
  have hticked : Ready _ _ _ (Daemon.step (link.node .first) ((start link key).st .first)
      (.maintenance env)).1 :=
    ready_maintenance (hid .first) (hrelay .second).symm hnow hexpiry hinterval (key .first)
      (key .second)
  generalize htick : (Daemon.step (link.node .first) ((start link key).st .first)
    (.maintenance env)).1 = ticked at hticked
  have hprobes := @keepalives_start _ link key (hrelay .second) env hnow hexpiry hinterval
  rw [hdraw] at hprobes
  obtain ⟨hbobOffer, hbobRelay, ack, hack, haddr, seq, token, hwire⟩ :=
    @probe_answered _ link key hlib hnetwork (hid .second) draw env _ rfl
  obtain ⟨haliceOffer, after, hafter, hleft⟩ := answer_switches hlib hticked (hrelay .second)
    (env.rand []).sealing (env.rand []).padding seq token env hwire
  obtain ⟨before, hbefore, hend⟩ := hticked.live
  -- the tick, and what alice and bob are then
  generalize hs₁ : link.step (start link key) (.act .first (.maintenance env)) = s₁
  have hguard₁ : link.Guard (start link key) (.act .first (.maintenance env)) :=
    ⟨fun e => (hstart e).relayLive (hid e), fun session hoffer => by contradiction, rfl⟩
  have hne : End.first ≠ End.second := by decide
  have hfirst₁ : s₁.st .first = ticked := by
    rw [← hs₁, ← htick]
    simp only [Link.step, Function.update_self]
  have hsecond₁ : s₁.st .second = (start link key).st .second := by
    rw [← hs₁]
    simp only [Link.step, Function.update_of_ne hne.symm]
  have hsent₁ : s₁.sent .first = [probe link key draw] := by
    rw [← hs₁]
    simp only [Link.step, hprobes, Function.update_self]
    rfl
  have hlive₁ : ∀ e, link.RelayLive s₁ e := by
    intro e
    cases e with
    | first => exact Ready.relayLive (hfirst₁ ▸ hticked) (hid .first)
    | second => exact Ready.relayLive (hsecond₁ ▸ hstart .second) (hid .second)
  -- the probe at bob
  have hsource₂ : link.source .second (probe link key draw) = some (link.endpoint .first) :=
    if_pos rfl
  generalize hs₂ : link.step s₁ (.deliver .second env (probe link key draw)) = s₂
  have hguard₂ : link.Guard s₁ (.deliver .second env (probe link key draw)) := by
    refine ⟨hlive₁, ?_, fun src hsrc session hoffer => ?_⟩
    · change _ ∈ s₁.sent .first
      rw [hsent₁]
      exact List.mem_singleton_self _
    · cases Option.some.inj (hsource₂.symm.trans hsrc)
      rw [hsecond₁, hbobOffer] at hoffer
      contradiction
  have hfirst₂ : s₂.st .first = ticked := by
    rw [← hs₂, ← hfirst₁]
    simp only [Link.step, hsource₂, Function.update_of_ne hne]
  have hsent₂ : ack ∈ s₂.sent .second := by
    rw [← hs₂]
    simp only [Link.step, hsource₂, Function.update_self, hsecond₁]
    exact List.mem_append_right _ hack
  have hlive₂ : ∀ e, link.RelayLive s₂ e := by
    intro e
    cases e with
    | first => exact Ready.relayLive (hfirst₂ ▸ hticked) (hid .first)
    | second =>
        obtain ⟨peer, hpeer, hsame⟩ := hbobRelay
        refine ⟨9, peer, (hid .second).symm, ?_, hsame.isRelay, hsame.addr⟩
        rw [← hs₂]
        simp only [Link.step, hsource₂, Function.update_self, hsecond₁]
        exact hpeer
  -- the answer at alice
  have hsource₃ : link.source .first ack = some (link.endpoint .second) := if_pos haddr
  have hrun : runAll link.step (start link key) [.act .first (.maintenance env),
      .deliver .second env (probe link key draw)] = s₂ := by
    rw [runAll_cons, hs₁, runAll_cons, hs₂, runAll_nil]
  refine ⟨[.act .first (.maintenance env), .deliver .second env (probe link key draw)],
    .deliver .first env ack, before, after, ⟨hguard₁, hs₁ ▸ hguard₂, trivial⟩, ?_, ?_,
    hend.relayed, ?_, hleft⟩
  · rw [hrun]
    refine ⟨hlive₂, hsent₂, fun src hsrc session hoffer => ?_⟩
    cases Option.some.inj (hsource₃.symm.trans hsrc)
    rw [hfirst₂, haliceOffer] at hoffer
    contradiction
  · rw [hrun, hfirst₂]
    exact hbefore
  · rw [hrun]
    simp only [Link.step, hsource₃, Function.update_self, hfirst₂]
    exact hafter

/-- Alice, bob, and a relay on a third address. -/
noncomputable def pairLink : Link (transparent pair) where
  node
    | .first => Sample.node pair "alice" 1
    | .second => Sample.node pair "bob" 2
  endpoint
    | .first => .v4 0xC0A80001#32 4242
    | .second => .v4 0xC0A80002#32 4242
  relay := .v4 0xC0A80003#32 4242

theorem pairLink_endpoint (e : End) : pairLink.endpoint e ≠ pairLink.relay := by
  cases e <;> (simp only [pairLink]; decide)

theorem pairLink_peerId (e : End) : pairLink.peerId e ≠ 9 := by
  cases e with
  | first =>
      change nodeIdFromCert _ (Core.Sample.cert "bob" 2) ≠ 9
      rw [nodeIdFromCert_cert]
      decide
  | second =>
      change nodeIdFromCert _ (Core.Sample.cert "alice" 1) ≠ 9
      rw [nodeIdFromCert_cert]
      decide

end Sample

/-- Alice's session with bob leaves the relay after her probe and his answer. -/
theorem alice_leaves_relay :
    ∃ (lib : Primitives) (link : Link lib) (key : End → SessionKey) (s : LinkState)
      (events : List LinkEvent) (event : LinkEvent) (before after : PeerState),
      link.Opens key s ∧ Guarded link.step link.Guard s events ∧
        ((runAll link.step s events).st .first).peers.lookup (link.peerId .first) = some before ∧
        before.relayed = true ∧
        ((link.step (runAll link.step s events) event).st .first).peers.lookup
          (link.peerId .first) = some after ∧
        after.relayed = false ∧
        ∀ side, (link.step (runAll link.step s events) event).direct side = true := by
  have hlib := transparent_correct Sample.pair
  have hopens : Sample.pairLink.Opens (fun _ => Vector.replicate _ 0) (Sample.start Sample.pairLink _) :=
    Sample.opens_start rfl Sample.pairLink_endpoint
  obtain ⟨events, event, before, after, hguard, hevent, hbefore, hrelayed, hafter, hleft⟩ :=
    @Sample.probe_switches _ Sample.pairLink (fun _ => Vector.replicate _ 0) hlib rfl
      Sample.pairLink_endpoint Sample.pairLink_peerId (Sample.env 0 1 ⟨1, by decide⟩) rfl
      (show 0 < peerExpiry by decide) (show 0 < Duration.fromSecs 5 by decide)
  exact ⟨_, Sample.pairLink, _, _, events, event, before, after, hopens, hguard, hbefore, hrelayed,
    hafter, hleft, Link.switch_needs_both_directions Sample.pairLink hlib hopens events hguard rfl
      hevent hbefore hrelayed hafter hleft⟩

end Liteway.Daemon
