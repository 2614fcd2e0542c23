import Liteway.Daemon.HandshakeMessages
import Liteway.Daemon.Run

/-!
# What an event changes

An event installs one session, or takes some peers away and leaves all other
sessions, the routes to them and the cached answers as they are.
-/

namespace Liteway.Daemon

open Liteway.Library Liteway.Core

/-! ## Calls that install nothing -/

/-- The same session, up to its replay window. -/
def SameLink (before after : PeerState) : Prop :=
  SameSession { before with rxReplay := after.rxReplay } after

theorem SameSession.link {before after : PeerState} (h : SameSession before after) :
    SameLink before after :=
  ⟨h.cert, h.routes, rfl, h.rxKey, h.txKey, h.rxSessionId, h.txSessionId, h.initiatorId⟩

theorem SameLink.trans {first second third : PeerState} (h : SameLink first second)
    (h' : SameLink second third) : SameLink first third :=
  ⟨h'.cert.trans h.cert, h'.routes.trans h.routes, rfl, h'.rxKey.trans h.rxKey,
    h'.txKey.trans h.txKey, h'.rxSessionId.trans h.rxSessionId, h'.txSessionId.trans h.txSessionId,
    h'.initiatorId.trans h.initiatorId⟩

theorem SameLink.receive (peer : PeerState) (window : ReplayWindow) (src : SocketAddr)
    (now : Instant) (viaRelay isKeepalive : Bool) :
    SameLink peer (peer.receive window src now viaRelay isKeepalive) := by
  have hsame := SameSession.receive peer window src now viaRelay isKeepalive
  exact ⟨hsame.cert, hsame.routes, rfl, hsame.rxKey, hsame.txKey, hsame.rxSessionId,
    hsame.txSessionId, hsame.initiatorId⟩

theorem PeerState.addr_receive (peer : PeerState) (window : ReplayWindow) (src : SocketAddr)
    (now : Instant) (viaRelay isKeepalive : Bool) :
    (peer.receive window src now viaRelay isKeepalive).addr = peer.addr ∨
      (peer.receive window src now viaRelay isKeepalive).addr = src := by
  unfold PeerState.receive PeerState.markSeen
  simp only
  repeat' split
  all_goals first
    | exact Or.inl rfl
    | exact Or.inr rfl

instance : Std.Refl SameLink := ⟨fun peer => (SameSession.refl peer).link⟩

instance : IsTrans PeerState SameLink := ⟨fun _ _ _ => SameLink.trans⟩

/-- The same session on the same path. -/
structure SameEnd (before after : PeerState) : Prop extends SameSession before after where
  addr : after.addr = before.addr
  relayed : after.relayed = before.relayed
  isRelay : after.isRelay = before.isRelay

namespace SameEnd

theorem refl (peer : PeerState) : SameEnd peer peer := ⟨SameSession.refl peer, rfl, rfl, rfl⟩

theorem trans {first second third : PeerState} (h : SameEnd first second)
    (h' : SameEnd second third) : SameEnd first third :=
  ⟨h.toSameSession.trans h'.toSameSession, h'.addr.trans h.addr, h'.relayed.trans h.relayed,
    h'.isRelay.trans h.isRelay⟩

instance : Std.Refl SameEnd := ⟨refl⟩

instance : IsTrans PeerState SameEnd := ⟨fun _ _ _ => trans⟩

theorem link {before after : PeerState} (h : SameEnd before after) : SameLink before after :=
  h.toSameSession.link

theorem nextSeq (peer : PeerState) : SameEnd peer peer.nextSeq.2 :=
  ⟨SameSession.nextSeq peer, rfl, rfl, rfl⟩

theorem learnDirectAddr (addr : SocketAddr) (peer : PeerState) :
    SameEnd peer (learnDirectAddr addr peer) := by
  refine ⟨SameSession.learnDirectAddr addr peer, ?_, ?_, ?_⟩ <;> unfold Daemon.learnDirectAddr <;>
    split <;> rfl

theorem ackKeepalive (peer : PeerState) (token : UInt64) (now : Instant) :
    SameEnd peer (peer.ackKeepalive token now).2 := by
  refine ⟨SameSession.ackKeepalive peer token now, ?_, ?_, ?_⟩ <;>
    unfold PeerState.ackKeepalive <;> repeat' split
  all_goals rfl

theorem tick (peer : PeerState) (now : Instant) (timings : Timings) (token : UInt64) :
    SameEnd peer (peer.tick now timings token).2 := by
  refine ⟨SameSession.tick peer now timings token, ?_, ?_, ?_⟩ <;> unfold PeerState.tick <;>
    repeat' split
  all_goals rfl

theorem takePathProbe (peer : PeerState) (now : Instant) (timings : Timings) (token : UInt64) :
    SameEnd peer (peer.takePathProbe now timings token).2 := by
  refine ⟨SameSession.takePathProbe peer now timings token, ?_, ?_, ?_⟩ <;>
    unfold PeerState.takePathProbe <;> simp only <;> repeat' split
  all_goals rfl

end SameEnd

/-- The same peer, up to the sequence number of what is sent to it. -/
def SameButSeq (before after : PeerState) : Prop := after = { before with txSeq := after.txSeq }

namespace SameButSeq

theorem refl (peer : PeerState) : SameButSeq peer peer := rfl

theorem trans {first second third : PeerState} (h : SameButSeq first second)
    (h' : SameButSeq second third) : SameButSeq first third := by
  unfold SameButSeq at h h' ⊢
  rw [h'.trans (congrArg (fun peer => { peer with txSeq := third.txSeq }) h)]

instance : Std.Refl SameButSeq := ⟨refl⟩

instance : IsTrans PeerState SameButSeq := ⟨fun _ _ _ => trans⟩

theorem nextSeq (peer : PeerState) : SameButSeq peer peer.nextSeq.2 := rfl

theorem sameEnd {before after : PeerState} (h : SameButSeq before after) :
    SameEnd before after := by
  rw [h]
  exact ⟨⟨rfl, rfl, rfl, rfl, rfl, rfl, rfl, rfl⟩, rfl, rfl, rfl⟩

end SameButSeq

/-- The peers of `gone` are taken away with their routes, and nothing else is; what
a peer that stays keeps is up to `link`. -/
structure Retains (link : PeerState → PeerState → Prop) (gone : List UInt32) (st st' : NodeState) :
    Prop where
  kept : ∀ id before, id ∉ gone → st.peers.lookup id = some before →
    ∃ after, st'.peers.lookup id = some after ∧ link before after
  only : ∀ id after, st'.peers.lookup id = some after →
    id ∉ gone ∧ ∃ before, st.peers.lookup id = some before ∧ link before after
  routes : st'.routes.routes = st.routes.routes.filter fun route => route.2 ∉ gone
  cache : st'.handshakeCache = st.handshakeCache

namespace Retains

variable {link : PeerState → PeerState → Prop}

theorem refl [Std.Refl link] (st : NodeState) : Retains link [] st st where
  kept := fun _ before _ h => ⟨before, h, Std.Refl.refl before⟩
  only := fun _ after h => ⟨List.not_mem_nil, after, h, Std.Refl.refl after⟩
  routes := by simp
  cache := rfl

theorem trans [IsTrans PeerState link] {gone gone' : List UInt32} {st middle st' : NodeState}
    (h : Retains link gone st middle) (h' : Retains link gone' middle st') :
    Retains link (gone ++ gone') st st' where
  kept := by
    intro id before hid hbefore
    rw [List.mem_append, not_or] at hid
    obtain ⟨between, hbetween, hlink⟩ := h.kept id before hid.1 hbefore
    obtain ⟨after, hafter, hlink'⟩ := h'.kept id between hid.2 hbetween
    exact ⟨after, hafter, IsTrans.trans _ _ _ hlink hlink'⟩
  only := by
    intro id after hafter
    obtain ⟨hid', between, hbetween, hlink'⟩ := h'.only id after hafter
    obtain ⟨hid, before, hbefore, hlink⟩ := h.only id between hbetween
    exact ⟨by simp [hid, hid'], before, hbefore, IsTrans.trans _ _ _ hlink hlink'⟩
  routes := by
    rw [h'.routes, h.routes, List.filter_filter]
    apply List.filter_congr
    intro route _
    simp [Bool.and_comm]
  cache := h'.cache.trans h.cache

theorem andThen [IsTrans PeerState link] {gone : List UInt32} {st middle st' : NodeState}
    (h : Retains link gone st middle) (h' : Retains link [] middle st') :
    Retains link gone st st' := by
  have hboth := h.trans h'
  rwa [List.append_nil] at hboth

theorem mono {link' : PeerState → PeerState → Prop}
    (hlink : ∀ {before after}, link before after → link' before after) {gone : List UInt32}
    {st st' : NodeState} (h : Retains link gone st st') : Retains link' gone st st' where
  kept := by
    intro id before hid hbefore
    obtain ⟨after, hafter, hkept⟩ := h.kept id before hid hbefore
    exact ⟨after, hafter, hlink hkept⟩
  only := by
    intro id after hafter
    obtain ⟨hid, before, hbefore, hkept⟩ := h.only id after hafter
    exact ⟨hid, before, hbefore, hlink hkept⟩
  routes := h.routes
  cache := h.cache

theorem links {gone : List UInt32} {st st' : NodeState} (h : Retains SameEnd gone st st') :
    Retains SameLink gone st st' := h.mono SameEnd.link

theorem ends {gone : List UInt32} {st st' : NodeState} (h : Retains SameButSeq gone st st') :
    Retains SameEnd gone st st' := h.mono SameButSeq.sameEnd

theorem ofFrame [Std.Refl link] {st st' : NodeState} (hpeers : st'.peers = st.peers)
    (hroutes : st'.routes = st.routes) (hcache : st'.handshakeCache = st.handshakeCache) :
    Retains link [] st st' := by
  have h : Retains link [] st st := refl st
  exact ⟨by rw [hpeers]; exact h.kept, by rw [hpeers]; exact h.only, by rw [hroutes]; exact h.routes,
    hcache⟩

theorem ofInsert [Std.Refl link] {st : NodeState} {peerId : UInt32} {before after : PeerState}
    (hbefore : st.peers.lookup peerId = some before) (hlink : link before after) :
    Retains link [] st { st with peers := st.peers.insert peerId after } where
  kept := by
    intro id found _ hfound
    rw [AssocMap.lookup_insert_eq]
    split
    · rename_i hid
      subst id
      cases hfound.symm.trans hbefore
      exact ⟨after, rfl, hlink⟩
    · exact ⟨found, hfound, Std.Refl.refl found⟩
  only := by
    intro id found hfound
    refine ⟨List.not_mem_nil, ?_⟩
    rw [AssocMap.lookup_insert_eq] at hfound
    split at hfound
    · rename_i hid
      subst id
      cases hfound
      exact ⟨before, hbefore, hlink⟩
    · exact ⟨found, hfound, Std.Refl.refl found⟩
  routes := by simp
  cache := rfl

theorem ofMapValues {st : NodeState} {f : UInt32 → PeerState → PeerState}
    (hsame : ∀ id peer, link peer (f id peer)) :
    Retains link [] st { st with peers := AssocMap.mapValues f st.peers } where
  kept := by
    intro id before _ hbefore
    rw [AssocMap.lookup_mapValues, hbefore]
    exact ⟨f id before, rfl, hsame id before⟩
  only := by
    intro id after hafter
    rw [AssocMap.lookup_mapValues] at hafter
    obtain ⟨before, hbefore, rfl⟩ := Option.map_eq_some_iff.mp hafter
    exact ⟨List.not_mem_nil, before, hbefore, hsame id before⟩
  routes := by simp
  cache := rfl

end Retains

theorem retains_forEach {α : Type} {step : Nat → α → NodeState → NodeState × List Effect}
    (hstep : ∀ i x st, Retains SameButSeq [] st (step i x st).1) (i : Nat) (xs : List α)
    (st : NodeState) : Retains SameButSeq [] st (forEach step i xs st).1 := by
  induction xs generalizing i st with
  | nil => exact Retains.refl st
  | cons x xs ih => exact (hstep i x st).andThen (ih (i + 1) _)

section Calls

variable {lib : Primitives} (node : Node lib)

theorem retains_peerTx {st st' : NodeState} {peerId : UInt32} {tx : PeerTx}
    (h : peerTx st peerId = some (tx, st')) : Retains SameButSeq [] st st' := by
  unfold peerTx at h
  split at h
  · contradiction
  · rename_i peer hpeer
    cases Option.some.inj h
    exact Retains.ofInsert hpeer (SameButSeq.nextSeq peer)

theorem retains_startHandshake (env : Env) (st : NodeState) (addr : SocketAddr)
    (peerId : Option UInt32) (peerName : String) :
    Retains SameButSeq [] st (startHandshake node env st addr peerId peerName).2.1 := by
  unfold startHandshake
  split
  · exact Retains.refl st
  simp only
  split
  · exact Retains.refl st
  · exact Retains.ofFrame rfl rfl rfl

theorem retains_noteDirectEndpoint (st : NodeState) (peerId : UInt32) (addr : SocketAddr) :
    Retains SameEnd [] st (noteDirectEndpoint st peerId addr) := by
  unfold noteDirectEndpoint
  split
  · exact Retains.refl st
  split
  · exact Retains.refl st
  · rename_i peer hpeer
    exact Retains.ofInsert hpeer (SameEnd.learnDirectAddr addr peer)

theorem retains_removePeer (st : NodeState) (peerId : UInt32) :
    ∃ gone, (∀ id ∈ gone, id = peerId) ∧
      Retains SameButSeq gone st (removePeer node st peerId).1 := by
  unfold removePeer removePeerPeers
  cases hpeer : st.peers.lookup peerId with
  | none => exact ⟨[], by simp, Retains.refl st⟩
  | some peer =>
      refine ⟨[peerId], by simp, ?_⟩
      constructor
      · intro id before hid hbefore
        refine ⟨before, ?_, SameButSeq.refl before⟩
        change (st.peers.erase peerId).lookup id = some before
        rw [AList.lookup_erase_ne (by simpa using hid)]
        exact hbefore
      · intro id after hafter
        change (st.peers.erase peerId).lookup id = some after at hafter
        rw [AssocMap.lookup_erase_eq] at hafter
        split at hafter
        · contradiction
        · rename_i hid
          exact ⟨by simpa using hid, after, hafter, SameButSeq.refl after⟩
      · change (st.routes.removePeer peerId).routes = _
        unfold RouteTable.removePeer
        apply List.filter_congr
        intro route _
        simp
      · rfl

theorem retains_introduce (env : Env) (st : NodeState) (peerId : UInt32) (targetIp : IpAddr)
    (foundId : UInt32) (found : PeerState) :
    Retains SameButSeq [] st (introduce node env st peerId targetIp foundId found).1 := by
  unfold introduce
  split
  · exact Retains.refl st
  · rename_i htx
    exact retains_peerTx htx

theorem retains_handleLighthouseQuery (env : Env) (st : NodeState) (requesterId : UInt32)
    (targetIp : IpAddr) :
    Retains SameButSeq [] st (handleLighthouseQuery node env st requesterId targetIp).1 := by
  unfold handleLighthouseQuery
  split
  · exact Retains.refl st
  split
  · exact Retains.refl st
  simp only
  split
  · rename_i foundId found _
    have hanswer := retains_introduce node (env.part 0) st requesterId targetIp foundId found
    split
    · exact hanswer
    split
    · exact hanswer
    · exact hanswer.andThen (retains_introduce node (env.part 1) _ _ _ _ _)
  · split
    · exact Retains.refl st
    · rename_i htx
      exact retains_peerTx htx

theorem retains_handleLighthouseResponse (env : Env) (st : NodeState) (targetIp : IpAddr)
    (peerId : UInt32) (peerAddr : SocketAddr) (peerCert : Cert) :
    Retains SameEnd [] st (handleLighthouseResponse node env st targetIp peerId peerAddr peerCert).1 := by
  unfold handleLighthouseResponse
  iterate 4
    split
    · exact Retains.refl st
  split
  · rename_i peer hpeer
    exact Retains.ofInsert hpeer (SameEnd.learnDirectAddr peerAddr peer)
  · exact (retains_startHandshake node env st peerAddr _ _).ends

theorem retains_answerKeepalive (env : Env) (st : NodeState) (peerId : UInt32) (token : UInt64)
    (replyTo : SocketAddr) :
    Retains SameButSeq [] st (answerKeepalive node env st peerId token replyTo).1 := by
  unfold answerKeepalive
  split
  · exact Retains.refl st
  · rename_i htx
    exact retains_peerTx htx

theorem retains_handleKeepaliveAck (env : Env) (st : NodeState) (peerId : UInt32) (token : UInt64) :
    Retains SameEnd [] st (handleKeepaliveAck env st peerId token) := by
  unfold handleKeepaliveAck
  split
  · exact Retains.refl st
  · rename_i peer hpeer
    exact Retains.ofInsert hpeer (SameEnd.ackKeepalive peer token env.now)

theorem retains_handleBody (env : Env) (st : NodeState) (src : SocketAddr) (peerId : UInt32)
    {body : PacketBody} (hbody : ∀ seq, body ≠ .disconnect seq) :
    Retains SameEnd [] st (handleBody node env st src peerId body).1 := by
  cases body with
  | data seq ipPacket => exact Retains.refl st
  | relayForward seq nextPeerId innerPacket =>
      simp only [handleBody]
      split
      · exact Retains.refl st
      · exact Retains.refl st
  | disconnect seq => exact absurd rfl (hbody seq)
  | lighthouseQuery seq targetIp =>
      exact (retains_handleLighthouseQuery node env st peerId targetIp).ends
  | lighthouseResponse seq targetIp foundId peerAddr peerCert peerIsRelay =>
      exact retains_handleLighthouseResponse node env st targetIp foundId peerAddr peerCert
  | lighthouseNotFound seq targetIp => exact Retains.refl st
  | keepalive seq token => exact (retains_answerKeepalive node env st peerId token src).ends
  | keepaliveAck seq token => exact retains_handleKeepaliveAck env st peerId token

theorem retains_sendLighthouseQuery (env : Env) (dstIp : IpAddr) (peerId : UInt32) (st : NodeState) :
    Retains SameButSeq [] st (sendLighthouseQuery node env dstIp peerId st).1 := by
  unfold sendLighthouseQuery
  split
  · exact Retains.refl st
  · rename_i htx
    exact retains_peerTx htx

theorem retains_requestDiscovery (env : Env) (st : NodeState) (dstIp : IpAddr) :
    Retains SameButSeq [] st (requestDiscovery node env st dstIp).1 := by
  unfold requestDiscovery
  split
  · exact Retains.refl st
  · have hnoted : Retains SameButSeq [] st { st with
        discoveryPending := st.discoveryPending.insert dstIp env.now } :=
      Retains.ofFrame rfl rfl rfl
    exact hnoted.andThen (retains_forEach (fun i peerId st =>
      retains_sendLighthouseQuery node (env.part i) dstIp peerId st) _ _ _)

theorem retains_runAction (env : Env) (action : Action) (st : NodeState) :
    Retains SameButSeq [] st (runAction node env action st).1 := by
  cases action with
  | send addr wire => exact Retains.refl st
  | lookup ip => exact retains_requestDiscovery node env st ip

theorem retains_connectLighthouses (env : Env) (resolve : String → Option SocketAddr)
    (st : NodeState) : Retains SameButSeq [] st (connectLighthouses node env resolve st).1 := by
  apply retains_forEach
  intro i lighthouse st
  have hrefresh : Retains SameButSeq [] st
      (refreshLighthouseAddress (env.part i) resolve lighthouse st).2 := by
    unfold refreshLighthouseAddress
    split
    · exact Retains.refl st
    · exact Retains.ofFrame rfl rfl rfl
  exact hrefresh.andThen (retains_startHandshake node (env.part i) _ _ none lighthouse.name)

theorem retains_retransmitHandshakes (env : Env) (st : NodeState) :
    Retains SameButSeq [] st (retransmitHandshakes node env st).1 := by
  unfold retransmitHandshakes
  have hpending : ∀ pending, Retains SameButSeq [] st { st with pending := pending } :=
    fun pending => Retains.ofFrame rfl rfl rfl
  exact (hpending _).andThen (retains_forEach (fun _ _ st => Retains.refl st) _ _ _)

theorem retransmitHandshakes_state (env : Env) (st : NodeState) :
    ∃ pending, (retransmitHandshakes node env st).1 = { st with pending := pending } :=
  ⟨_, forEach_state (fun _ _ _ _ => rfl) _ _⟩

theorem peers_retransmitHandshakes (env : Env) (st : NodeState) :
    (retransmitHandshakes node env st).1.peers = st.peers := by
  obtain ⟨pending, hstate⟩ := retransmitHandshakes_state node env st
  rw [hstate]

theorem retains_sendToOverlay (env : Env) (st : NodeState) (overlayNetworks : List IpNetwork)
    (ipPacket : ByteString) :
    Retains SameButSeq [] st (sendToOverlay node env st overlayNetworks ipPacket).1 := by
  unfold sendToOverlay
  iterate 3
    split
    · exact Retains.refl st
  split
  · exact retains_requestDiscovery node env st _
  split
  · exact Retains.refl st
  · rename_i htx
    exact retains_peerTx htx

theorem sameEnd_probePeer (env : Env) (peerId : UInt32) (peer : PeerState) :
    SameEnd peer (probePeer node env peerId peer).1 := by
  have hprobe := SameEnd.takePathProbe peer env.now node.timings (env.rand [1]).token
  unfold probePeer
  split
  · rename_i h
    rw [h] at hprobe
    exact hprobe.trans (SameEnd.nextSeq _)
  · rename_i h
    rw [h] at hprobe
    exact hprobe
  · rename_i h
    rw [h] at hprobe
    exact hprobe

theorem sameEnd_maintainPeer (env : Env) (peerId : UInt32) (peer : PeerState) :
    SameEnd peer (maintainPeer node env peerId peer).1 := by
  have htick := SameEnd.tick peer env.now node.timings (env.rand [0]).token
  unfold maintainPeer
  split
  · split
    · rename_i h
      rw [h] at htick
      exact htick
    · rename_i h
      rw [h] at htick
      exact htick.trans ((SameEnd.nextSeq _).trans (sameEnd_probePeer node env peerId _))
    · rename_i h
      rw [h] at htick
      exact htick.trans (sameEnd_probePeer node env peerId _)
  split
  · exact SameEnd.refl peer
  · exact sameEnd_probePeer node env peerId peer

theorem retains_drops (drops : List UInt32) (i : Nat) (st : NodeState) :
    ∃ gone, (∀ id ∈ gone, id ∈ drops) ∧
      Retains SameButSeq gone st
        (forEach (fun _ peerId st => removePeer node st peerId) i drops st).1 := by
  induction drops generalizing i st with
  | nil => exact ⟨[], by simp, Retains.refl st⟩
  | cons peerId drops ih =>
      obtain ⟨gone, hgone, hfirst⟩ := retains_removePeer node st peerId
      obtain ⟨gone', hgone', hrest⟩ := ih (i + 1) (removePeer node st peerId).1
      refine ⟨gone ++ gone', fun id hid => ?_, hfirst.trans hrest⟩
      obtain hold | hnew := List.mem_append.mp hid
      · rw [hgone id hold]
        exact List.mem_cons_self
      · exact List.mem_cons_of_mem _ (hgone' id hnew)

theorem retains_maintainPeersLocked (env : Env) (st : NodeState) :
    ∃ gone, (∀ id ∈ gone, id ∈ maintainPeersDrops node env st) ∧
      Retains SameButSeq gone (maintainPeersLocked node env st) (maintainPeers node env st).1 := by
  obtain ⟨gone, hgone, hdrops⟩ :=
    retains_drops node (maintainPeersDrops node env st) 0 (maintainPeersLocked node env st)
  refine ⟨gone, hgone, ?_⟩
  exact hdrops.andThen
    (retains_forEach (fun i action st => retains_runAction node (env.part i) action st) 0
      (maintainPeersActions node env st) _)

theorem retains_maintainPeers (env : Env) (st : NodeState) :
    ∃ gone, (∀ id ∈ gone, id ∈ maintainPeersDrops node env st) ∧
      Retains SameEnd gone st (maintainPeers node env st).1 := by
  have hlocked : Retains SameEnd [] st (maintainPeersLocked node env st) :=
    Retains.ofMapValues fun id peer => sameEnd_maintainPeer node (env.forPeer id) id peer
  obtain ⟨gone, hgone, hrest⟩ := retains_maintainPeersLocked node env st
  exact ⟨gone, hgone, hlocked.trans hrest.ends⟩

end Calls

/-! ## Events -/

section Events

variable {lib : Primitives} (node : Node lib)

/-- The request that an event brings and that is answered anew. -/
def freshAnswer (st : NodeState) : Event → Option (ByteString × HandshakeResponse)
  | .datagram env src data => do
      let packet ← wholePacket node env st src data
      let header ← networkHeader lib packet node.networkKey
      if header.kind ≠ kindHandshake1 then none
      else if (st.handshakeCache.get (lib.blake3Hash packet) env.now).isSome then none
      else
        match processHandshake1 lib (env.rand []).responder env.unixTime packet node.cert
            node.signingKey node.networkKey node.caVk node.amRelay with
        | .error _ => none
        | .ok response =>
            if nodeIdFromCert lib response.peerCert = node.ourId then none
            else some (packet, response)
  | _ => none

/-- The event makes the node drop the peer: a disconnect of its session, or a tick
that finds it dead. -/
def DropsAt (st : NodeState) : Event → UInt32 → Prop
  | .datagram env src data, peerId =>
      ∃ packet peer header seq, wholePacket node env st src data = some packet ∧
        networkHeader lib packet node.networkKey = some header ∧
        Accepts node st packet peerId peer header (.disconnect seq)
  | .maintenance env, peerId => peerId ∈ maintainPeersDrops node (env.part 1) st
  | _, _ => False

/-- What an event makes of the state. -/
inductive Change (st : NodeState) : Event → NodeState → Prop where
  | answered {env : Env} {src : SocketAddr} {data packet : ByteString} {response : HandshakeResponse}
      (hfresh : freshAnswer node st (.datagram env src data) = some (packet, response))
      (hoffer : offeredBy node st (.datagram env src data) =
        some (responseSession lib st src response)) :
      Change st (.datagram env src data) (installResponse node env
        (afterFeed node env st src data) src (lib.blake3Hash packet) response).1
  | concluded {env : Env} {src : SocketAddr} {data : ByteString} {sessionId : UInt32}
      {session : NewSession} (hfresh : freshAnswer node st (.datagram env src data) = none)
      (hoffer : offeredBy node st (.datagram env src data) = some session) :
      Change st (.datagram env src data) (addPeer node env.now
        { afterFeed node env st src data with pending := st.pending.erase sessionId } session).2.1
  | accepted {env : Env} {src : SocketAddr} {data packet : ByteString} {peerId : UInt32}
      {peer : PeerState} {header : NetworkHeader} {body : PacketBody}
      (hfresh : freshAnswer node st (.datagram env src data) = none)
      (hoffer : offeredBy node st (.datagram env src data) = none)
      (hpacket : wholePacket node env st src data = some packet)
      (hheader : networkHeader lib packet node.networkKey = some header)
      (h : Accepts node st packet peerId peer header body) :
      Change st (.datagram env src data) (handleBody node env
        (afterAccept env (afterFeed node env st src data) src peerId peer body) src peerId body).1
  | retains {event : Event} {gone : List UInt32} {st' : NodeState}
      (hfresh : freshAnswer node st event = none) (hoffer : offeredBy node st event = none)
      (hgone : ∀ id ∈ gone, DropsAt node st event id) (h : Retains SameEnd gone st st') :
      Change st event st'
  | maintained {env : Env} {gone : List UInt32} {st' : NodeState}
      {discovery : AssocMap IpAddr Instant}
      (hgone : ∀ id ∈ gone, DropsAt node st (.maintenance env) id)
      (h : Retains SameEnd gone st st') :
      Change st (.maintenance env) { st' with
        discoveryPending := discovery
        handshakeCache := st'.handshakeCache.cleanup env.now }

variable {node} {env : Env} {st : NodeState} {src : SocketAddr} {data packet : ByteString}
  {header : NetworkHeader}

private theorem retains_afterFeed : Retains SameEnd [] st (afterFeed node env st src data) :=
  Retains.ofFrame rfl rfl rfl

private theorem freshAnswer_of_ne (hpacket : wholePacket node env st src data = some packet)
    (hheader : networkHeader lib packet node.networkKey = some header)
    (hkind : header.kind ≠ kindHandshake1) :
    freshAnswer node st (.datagram env src data) = none := by
  simp [freshAnswer, hpacket, hheader, hkind]

private theorem change_handshake1 (hpacket : wholePacket node env st src data = some packet)
    (hheader : networkHeader lib packet node.networkKey = some header)
    (hkind : header.kind = kindHandshake1) :
    Change node st (.datagram env src data)
      (handleHandshake1 node env (afterFeed node env st src data) src packet).1 := by
  have hcache' : (afterFeed node env st src data).handshakeCache = st.handshakeCache := rfl
  unfold handleHandshake1
  simp only [hcache']
  cases hcache : st.handshakeCache.get (lib.blake3Hash packet) env.now with
  | some entry =>
      refine .retains ?_ ?_ (List.forall_mem_nil _)
        (retains_afterFeed.andThen (retains_noteDirectEndpoint _ _ _))
      · simp [freshAnswer, hpacket, hheader, hcache]
      · simp [offeredBy, hpacket, offered, hheader, hkind, requested, hcache]
  | none =>
      simp only
      cases hprocess : processHandshake1 lib (env.rand []).responder env.unixTime packet node.cert
          node.signingKey node.networkKey node.caVk node.amRelay with
      | error reason =>
          refine .retains ?_ ?_ (List.forall_mem_nil _) retains_afterFeed
          · simp [freshAnswer, hpacket, hheader, hcache, hprocess]
          · simp [offeredBy, hpacket, offered, hheader, hkind, requested, hcache, hprocess]
      | ok response =>
          simp only
          split
          · rename_i hself
            refine .retains ?_ ?_ (List.forall_mem_nil _) retains_afterFeed
            · simp [freshAnswer, hpacket, hheader, hcache, hprocess, hself]
            · simp [offeredBy, hpacket, offered, hheader, hkind, requested, hcache, hprocess, hself]
          · rename_i hforeign
            refine .answered ?_ ?_
            · simp [freshAnswer, hpacket, hheader, hkind, hcache, hprocess, hforeign]
            · simp [offeredBy, hpacket, offered, hheader, hkind, requested, hcache, hprocess,
                hforeign]

private theorem change_handshake2 (hpacket : wholePacket node env st src data = some packet)
    (hheader : networkHeader lib packet node.networkKey = some header)
    (hkind : header.kind = kindHandshake2) :
    Change node st (.datagram env src data)
      (handleHandshake2 node env (afterFeed node env st src data) src packet header.sessionId).1 := by
  have hfirst : header.kind ≠ kindHandshake1 := by
    rw [hkind]
    decide
  have hfresh := freshAnswer_of_ne hpacket hheader hfirst
  have hpending' : (afterFeed node env st src data).pending = st.pending := rfl
  have hoffer : offeredBy node st (.datagram env src data) =
      confirmed node env st src packet header.sessionId := by
    simp [offeredBy, hpacket, offered, hheader, hkind, show kindHandshake2 ≠ kindHandshake1 by decide]
  unfold confirmed at hoffer
  unfold handleHandshake2
  simp only [hpending']
  cases hpending : st.pending.lookup header.sessionId with
  | none =>
      simp only [hpending] at hoffer
      exact .retains hfresh hoffer (List.forall_mem_nil _) retains_afterFeed
  | some handshake =>
      simp only [hpending] at hoffer ⊢
      cases hprocess : processHandshake2 lib env.unixTime packet handshake.initiate node.networkKey
          node.caVk with
      | error reason =>
          simp only [hprocess] at hoffer
          exact .retains hfresh hoffer (List.forall_mem_nil _) retains_afterFeed
      | ok result =>
          simp only [hprocess] at hoffer ⊢
          split
          · rename_i hother
            rw [if_pos hother] at hoffer
            exact .retains hfresh hoffer (List.forall_mem_nil _) retains_afterFeed
          · rename_i hother
            rw [if_neg hother] at hoffer
            exact .concluded hfresh hoffer

private theorem change_session (hpacket : wholePacket node env st src data = some packet)
    (hheader : networkHeader lib packet node.networkKey = some header)
    (hfirst : header.kind ≠ kindHandshake1) (hsecond : header.kind ≠ kindHandshake2) :
    Change node st (.datagram env src data)
      (handleSessionPacket node env (afterFeed node env st src data) src packet header).1 := by
  have hfresh := freshAnswer_of_ne hpacket hheader hfirst
  have hoffer : offeredBy node st (.datagram env src data) = none := by
    simp [offeredBy, hpacket, offered, hheader, hfirst, hsecond]
  obtain h | ⟨peerId, peer, body, haccepts, h⟩ :=
    handleSessionPacket_cases node env (afterFeed node env st src data) src packet header
  · rw [h]
    exact .retains hfresh hoffer (List.forall_mem_nil _) retains_afterFeed
  · rw [h]
    exact .accepted hfresh hoffer hpacket hheader
      ⟨haccepts.session, haccepts.live, haccepts.decrypted, haccepts.fresh⟩

private theorem change_datagram :
    Change node st (.datagram env src data) (handleDatagram node env st src data).1 := by
  cases hpacket : wholePacket node env st src data with
  | none =>
      have hstate : Retains SameEnd [] st (handleDatagram node env st src data).1 := by
        obtain ⟨assembler, effects, hnone, -⟩ := handleDatagram_of_no_packet hpacket
        rw [hnone]
        exact Retains.ofFrame rfl rfl rfl
      refine .retains ?_ ?_ (List.forall_mem_nil _) hstate
      · simp [freshAnswer, hpacket]
      · simp [offeredBy, hpacket]
  | some packet =>
      rw [handleDatagram_of_wholePacket hpacket]
      unfold handlePacket
      cases hheader : networkHeader lib packet node.networkKey with
      | none =>
          refine .retains ?_ ?_ (List.forall_mem_nil _) retains_afterFeed
          · simp [freshAnswer, hpacket, hheader]
          · simp [offeredBy, hpacket, offered, hheader]
      | some header =>
          simp only
          by_cases hfirst : header.kind = kindHandshake1
          · rw [if_pos hfirst]
            exact change_handshake1 hpacket hheader hfirst
          rw [if_neg hfirst]
          by_cases hsecond : header.kind = kindHandshake2
          · rw [if_pos hsecond]
            exact change_handshake2 hpacket hheader hsecond
          rw [if_neg hsecond]
          split
          · refine .retains (freshAnswer_of_ne hpacket hheader hfirst) ?_ (List.forall_mem_nil _)
              retains_afterFeed
            simp [offeredBy, hpacket, offered, hheader, hfirst, hsecond]
          · exact change_session hpacket hheader hfirst hsecond

theorem change_step (st : NodeState) (event : Event) :
    Change node st event (step node st event).1 := by
  cases event with
  | datagram env src data => exact change_datagram
  | cleanup now => exact .retains rfl rfl (List.forall_mem_nil _) (Retains.ofFrame rfl rfl rfl)
  | maintenance env =>
      obtain ⟨gone, hgone, hpeers⟩ :=
        retains_maintainPeers node (env.part 1) (retransmitHandshakes node (env.part 0) st).1
      have hretry := retains_retransmitHandshakes node (env.part 0) st
      have hsame : maintainPeersDrops node (env.part 1)
          (retransmitHandshakes node (env.part 0) st).1 = maintainPeersDrops node (env.part 1) st := by
        unfold maintainPeersDrops
        rw [peers_retransmitHandshakes]
      refine .maintained (fun id hid => ?_) (hretry.ends.trans hpeers)
      rw [List.nil_append] at hid
      have hdrop := hgone id hid
      rw [hsame] at hdrop
      exact hdrop
  | punch env resolve =>
      exact .retains rfl rfl (List.forall_mem_nil _)
        (retains_connectLighthouses node env resolve st).ends
  | tunPacket env overlayNetworks ipPacket =>
      exact .retains rfl rfl (List.forall_mem_nil _)
        (retains_sendToOverlay node env st overlayNetworks ipPacket).ends
  | shutdown env =>
      exact .retains rfl rfl (List.forall_mem_nil _)
        (Retains.ofMapValues fun _ peer => SameEnd.nextSeq peer)

theorem Accepts.retains {peerId : UInt32} {peer : PeerState} {body : PacketBody}
    (hpacket : wholePacket node env st src data = some packet)
    (hheader : networkHeader lib packet node.networkKey = some header)
    (h : Accepts node st packet peerId peer header body) :
    ∃ gone, (∀ id ∈ gone, DropsAt node st (.datagram env src data) id) ∧
      Retains SameLink gone st (handleBody node env
        (afterAccept env (afterFeed node env st src data) src peerId peer body) src peerId
        body).1 := by
  have hlink := SameLink.receive peer (peer.rxReplay.accept (packetSeq body)).2 src env.now
    (srcIsRelay (afterFeed node env st src data) peerId peer src) (PacketBody.isKeepalive body)
  have hseen : Retains SameLink [] st (afterAccept env (afterFeed node env st src data) src peerId
      peer body) :=
    (retains_afterFeed.links).andThen (Retains.ofInsert h.live hlink)
  by_cases hbody : ∃ seq, body = .disconnect seq
  · obtain ⟨seq, rfl⟩ := hbody
    obtain ⟨gone, hgone, hremoved⟩ := retains_removePeer node
      (afterAccept env (afterFeed node env st src data) src peerId peer (.disconnect seq)) peerId
    refine ⟨gone, fun id hid => ?_, hseen.trans hremoved.ends.links⟩
    rw [hgone id hid]
    exact ⟨packet, peer, header, seq, hpacket, hheader, h⟩
  · rw [not_exists] at hbody
    exact ⟨[], List.forall_mem_nil _,
      hseen.andThen (retains_handleBody node env _ src peerId hbody).links⟩

end Events

end Liteway.Daemon
