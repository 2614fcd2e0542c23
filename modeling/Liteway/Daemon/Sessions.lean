import Liteway.Daemon.Maintenance

/-!
# What a call does to the sessions

Only `add_peer` installs a session and only `handle_session_packet` moves a
replay window.  Every other call is routine: it may touch counters and
endpoints, or take a session away, and it writes nothing to the TUN device.
-/

namespace Liteway.Daemon

open Liteway.Library Liteway.Core

/-! ## Routine calls -/

/-- The fields that only `add_peer` and the replay check write are the same. -/
structure SameSession (before after : PeerState) : Prop where
  cert : after.cert = before.cert
  routes : after.routes = before.routes
  rxReplay : after.rxReplay = before.rxReplay
  rxKey : after.rxKey = before.rxKey
  txKey : after.txKey = before.txKey
  rxSessionId : after.rxSessionId = before.rxSessionId
  txSessionId : after.txSessionId = before.txSessionId
  initiatorId : after.handshakeInitiatorId = before.handshakeInitiatorId

namespace SameSession

theorem refl (peer : PeerState) : SameSession peer peer := ⟨rfl, rfl, rfl, rfl, rfl, rfl, rfl, rfl⟩

theorem trans {first second third : PeerState} (h : SameSession first second)
    (h' : SameSession second third) : SameSession first third :=
  ⟨h'.cert.trans h.cert, h'.routes.trans h.routes, h'.rxReplay.trans h.rxReplay,
    h'.rxKey.trans h.rxKey, h'.txKey.trans h.txKey, h'.rxSessionId.trans h.rxSessionId,
    h'.txSessionId.trans h.txSessionId, h'.initiatorId.trans h.initiatorId⟩

theorem nextSeq (peer : PeerState) : SameSession peer peer.nextSeq.2 :=
  ⟨rfl, rfl, rfl, rfl, rfl, rfl, rfl, rfl⟩

theorem learnDirectAddr (addr : SocketAddr) (peer : PeerState) :
    SameSession peer (learnDirectAddr addr peer) := by
  unfold Daemon.learnDirectAddr
  split
  · exact refl peer
  · exact ⟨rfl, rfl, rfl, rfl, rfl, rfl, rfl, rfl⟩

theorem ackKeepalive (peer : PeerState) (token : UInt64) (now : Instant) :
    SameSession peer (peer.ackKeepalive token now).2 := by
  unfold PeerState.ackKeepalive
  split
  · exact ⟨rfl, rfl, rfl, rfl, rfl, rfl, rfl, rfl⟩
  split
  · exact ⟨rfl, rfl, rfl, rfl, rfl, rfl, rfl, rfl⟩
  · exact refl peer

theorem markSeen (peer : PeerState) (src : SocketAddr) (now : Instant) (viaRelay isKeepalive : Bool) :
    SameSession peer (peer.markSeen src now viaRelay isKeepalive).2 := by
  unfold PeerState.markSeen
  simp only
  repeat' split
  all_goals exact ⟨rfl, rfl, rfl, rfl, rfl, rfl, rfl, rfl⟩

theorem tick (peer : PeerState) (now : Instant) (timings : Timings) (token : UInt64) :
    SameSession peer (peer.tick now timings token).2 := by
  unfold PeerState.tick
  repeat' split
  all_goals exact ⟨rfl, rfl, rfl, rfl, rfl, rfl, rfl, rfl⟩

theorem takePathProbe (peer : PeerState) (now : Instant) (timings : Timings) (token : UInt64) :
    SameSession peer (peer.takePathProbe now timings token).2 := by
  unfold PeerState.takePathProbe
  simp only
  repeat' split
  all_goals exact ⟨rfl, rfl, rfl, rfl, rfl, rfl, rfl, rfl⟩

end SameSession

/-- Datagrams and routes, but no TUN write and no mark. -/
def Effect.Silent : Effect → Prop
  | .send .. => True
  | .addRoute .. => True
  | .delRoute .. => True
  | .tunWrite .. => False
  | .installed .. => False
  | .accepted .. => False

/-- A call that neither installs a session nor accepts a packet. -/
structure Routine (st : NodeState) (out : NodeState × List Effect) : Prop where
  /-- Every session there is now was there before. -/
  kept : ∀ id after, out.1.peers.lookup id = some after →
    ∃ before, st.peers.lookup id = some before ∧ SameSession before after
  /-- A lighthouse that is bound now was bound before, and its peer is still there. -/
  bound : ∀ slot ∈ out.1.lighthouses, ∀ id, slot.peerId = some id →
    (∃ old ∈ st.lighthouses, old.peerId = some id ∧ old.name = slot.name ∧
      old.address = slot.address) ∧
    ((st.peers.lookup id).isSome = true → (out.1.peers.lookup id).isSome = true)
  silent : ∀ effect ∈ out.2, effect.Silent

namespace Routine

theorem refl (st : NodeState) {effects : List Effect} (h : ∀ effect ∈ effects, effect.Silent) :
    Routine st (st, effects) where
  kept := fun _ after h => ⟨after, h, SameSession.refl after⟩
  bound := fun slot hslot _ hid => ⟨⟨slot, hslot, hid, rfl, rfl⟩, id⟩
  silent := h

theorem idle (st : NodeState) : Routine st (st, []) := refl st (by simp)

theorem trans {st : NodeState} {first second : NodeState × List Effect} (h : Routine st first)
    (h' : Routine first.1 second) : Routine st (second.1, first.2 ++ second.2) where
  kept := by
    intro id after hafter
    obtain ⟨middle, hmiddle, hsame'⟩ := h'.kept id after hafter
    obtain ⟨before, hbefore, hsame⟩ := h.kept id middle hmiddle
    exact ⟨before, hbefore, hsame.trans hsame'⟩
  bound := by
    intro slot hslot id hid
    obtain ⟨⟨middle, hmiddle, hid', hname', haddr'⟩, hlive'⟩ := h'.bound slot hslot id hid
    obtain ⟨⟨old, hold, hid'', hname, haddr⟩, hlive⟩ := h.bound middle hmiddle id hid'
    exact ⟨⟨old, hold, hid'', hname.trans hname', haddr.trans haddr'⟩, hlive' ∘ hlive⟩
  silent := by
    intro effect heffect
    obtain h1 | h2 := List.mem_append.mp heffect
    · exact h.silent effect h1
    · exact h'.silent effect h2

theorem withFrame {st middle st' : NodeState} {effects : List Effect}
    (h : Routine st (middle, effects)) (hpeers : st'.peers = middle.peers)
    (hslots : st'.lighthouses = middle.lighthouses) : Routine st (st', effects) := by
  obtain ⟨hkept, hbound, hsilent⟩ := h
  simp only [← hpeers, ← hslots] at hkept hbound
  exact ⟨hkept, hbound, hsilent⟩

theorem append {st st' : NodeState} {effects more : List Effect}
    (h : Routine st (st', effects)) (hmore : ∀ effect ∈ more, effect.Silent) :
    Routine st (st', effects ++ more) := h.trans (refl st' hmore)

theorem ofFrame {st st' : NodeState} {effects : List Effect} (hpeers : st'.peers = st.peers)
    (hslots : st'.lighthouses = st.lighthouses) (h : ∀ effect ∈ effects, effect.Silent) :
    Routine st (st', effects) where
  kept := by
    intro id after hafter
    rw [hpeers] at hafter
    exact ⟨after, hafter, SameSession.refl after⟩
  bound := by
    intro slot hslot id hid
    rw [hslots] at hslot
    rw [hpeers]
    exact ⟨⟨slot, hslot, hid, rfl, rfl⟩, fun h => h⟩
  silent := h

theorem ofInsert {st : NodeState} {peerId : UInt32} {before after : PeerState}
    {effects : List Effect} (hbefore : st.peers.lookup peerId = some before)
    (hsame : SameSession before after) (h : ∀ effect ∈ effects, effect.Silent) :
    Routine st ({ st with peers := st.peers.insert peerId after }, effects) where
  kept := by
    intro id found hfound
    rw [AssocMap.lookup_insert_eq] at hfound
    split at hfound
    · rename_i heq
      cases Option.some.inj hfound
      exact ⟨before, heq ▸ hbefore, hsame⟩
    · exact ⟨found, hfound, SameSession.refl found⟩
  bound := by
    intro slot hslot id hid
    refine ⟨⟨slot, hslot, hid, rfl, rfl⟩, fun hlive => ?_⟩
    change ((st.peers.insert peerId after).lookup id).isSome = true
    rw [AssocMap.lookup_insert_eq]
    split
    · rfl
    · exact hlive
  silent := h

theorem ofMapValues {st : NodeState} {f : UInt32 → PeerState → PeerState}
    {effects : List Effect} (hsame : ∀ id peer, SameSession peer (f id peer))
    (h : ∀ effect ∈ effects, effect.Silent) :
    Routine st ({ st with peers := AssocMap.mapValues f st.peers }, effects) where
  kept := by
    intro id after hafter
    rw [AssocMap.lookup_mapValues] at hafter
    obtain ⟨before, hbefore, rfl⟩ := Option.map_eq_some_iff.mp hafter
    exact ⟨before, hbefore, hsame id before⟩
  bound := by
    intro slot hslot id hid
    refine ⟨⟨slot, hslot, hid, rfl, rfl⟩, fun hlive => ?_⟩
    change ((AssocMap.mapValues f st.peers).lookup id).isSome = true
    rw [AssocMap.lookup_mapValues, Option.isSome_map]
    exact hlive
  silent := h

end Routine

theorem routine_forEach {α : Type} {step : Nat → α → NodeState → NodeState × List Effect}
    (hstep : ∀ i x st, Routine st (step i x st)) (i : Nat) (xs : List α) (st : NodeState) :
    Routine st (forEach step i xs st) := by
  induction xs generalizing i st with
  | nil => exact Routine.idle st
  | cons x xs ih => exact (hstep i x st).trans (ih (i + 1) _)

/-! ## The calls that are routine -/

section Calls

variable {lib : Primitives} (node : Node lib)

theorem silent_sendMessageWithId (env : Env) (msg : ByteString) (addr : SocketAddr)
    (dstPeerId msgId : UInt32) :
    ∀ effect ∈ (sendMessageWithId node env msg addr dstPeerId msgId).2, effect.Silent := by
  intro effect heffect
  unfold sendMessageWithId at heffect
  split at heffect
  · simp at heffect
  split at heffect
  · obtain ⟨datagram, -, rfl⟩ := List.mem_map.mp heffect
    trivial
  · simp at heffect

theorem silent_sendWire (wire : ByteString) (addr : SocketAddr) :
    ∀ effect ∈ sendWire wire addr, effect.Silent := by
  intro effect heffect
  cases List.mem_singleton.mp heffect
  trivial

theorem silent_relayDatagram (st : NodeState) (data : ByteString) (dstPeerId : UInt32) :
    ∀ effect ∈ relayDatagram node st data dstPeerId, effect.Silent := by
  unfold relayDatagram
  split
  · simp
  split
  · simp
  · exact silent_sendWire data _

theorem routine_peerTx {st st' : NodeState} {peerId : UInt32} {tx : PeerTx}
    (h : peerTx st peerId = some (tx, st')) {effects : List Effect}
    (hsilent : ∀ effect ∈ effects, effect.Silent) : Routine st (st', effects) := by
  unfold peerTx at h
  split at h
  · contradiction
  · rename_i peer hpeer
    cases Option.some.inj h
    exact Routine.ofInsert hpeer (SameSession.nextSeq peer) hsilent

theorem routine_startHandshake (env : Env) (st : NodeState) (addr : SocketAddr)
    (peerId : Option UInt32) (peerName : String) :
    Routine st (startHandshake node env st addr peerId peerName).2 := by
  unfold startHandshake
  split
  · exact Routine.idle st
  simp only
  split
  · exact Routine.refl st (silent_sendMessageWithId node _ _ _ _ _)
  · exact Routine.ofFrame rfl rfl (silent_sendMessageWithId node _ _ _ _ _)

theorem routine_noteDirectEndpoint (st : NodeState) (peerId : UInt32) (addr : SocketAddr)
    {effects : List Effect} (hsilent : ∀ effect ∈ effects, effect.Silent) :
    Routine st (noteDirectEndpoint st peerId addr, effects) := by
  unfold noteDirectEndpoint
  split
  · exact Routine.refl st hsilent
  split
  · exact Routine.refl st hsilent
  · rename_i peer hpeer
    exact Routine.ofInsert hpeer (SameSession.learnDirectAddr addr peer) hsilent

theorem routine_removePeer (st : NodeState) (peerId : UInt32) :
    Routine st (removePeer node st peerId) := by
  unfold removePeer removePeerPeers
  split
  · exact Routine.idle st
  rename_i peer st' hremoved
  split at hremoved
  · contradiction
  cases Option.some.inj hremoved
  constructor
  · intro id after hafter
    change (st.peers.erase peerId).lookup id = some after at hafter
    rw [AssocMap.lookup_erase_eq] at hafter
    split at hafter
    · contradiction
    · exact ⟨after, hafter, SameSession.refl after⟩
  · intro slot hslot id hid
    obtain ⟨old, hold, rfl⟩ := List.mem_map.mp hslot
    split at hid
    · simp at hid
    · rename_i hother
      have hne : id ≠ peerId := fun h => hother (h ▸ hid)
      rw [if_neg hother]
      refine ⟨⟨old, hold, hid, rfl, rfl⟩, fun hlive => ?_⟩
      change ((st.peers.erase peerId).lookup id).isSome = true
      rw [AssocMap.lookup_erase_eq, if_neg hne]
      exact hlive
  · intro effect heffect
    simp only at heffect
    split at heffect
    · simp at heffect
    · obtain ⟨route, -, rfl⟩ := List.mem_map.mp heffect
      trivial

theorem routine_introduce (env : Env) (st : NodeState) (peerId : UInt32) (targetIp : IpAddr)
    (foundId : UInt32) (found : PeerState) :
    Routine st (introduce node env st peerId targetIp foundId found) := by
  unfold introduce
  split
  · exact Routine.idle st
  · rename_i htx
    exact routine_peerTx htx (silent_sendMessageWithId node _ _ _ _ _)

theorem routine_handleLighthouseQuery (env : Env) (st : NodeState) (requesterId : UInt32)
    (targetIp : IpAddr) : Routine st (handleLighthouseQuery node env st requesterId targetIp) := by
  unfold handleLighthouseQuery
  split
  · exact Routine.idle st
  split
  · exact Routine.idle st
  simp only
  split
  · rename_i foundId found _
    have hanswer := routine_introduce node (env.part 0) st requesterId targetIp foundId found
    split
    · exact hanswer
    split
    · exact hanswer
    · exact hanswer.trans (routine_introduce node (env.part 1) _ _ _ _ _)
  · split
    · exact Routine.idle st
    · rename_i htx
      exact routine_peerTx htx (silent_sendMessageWithId node _ _ _ _ _)

theorem routine_handleLighthouseResponse (env : Env) (st : NodeState) (targetIp : IpAddr)
    (peerId : UInt32) (peerAddr : SocketAddr) (peerCert : Cert) :
    Routine st (handleLighthouseResponse node env st targetIp peerId peerAddr peerCert) := by
  unfold handleLighthouseResponse
  iterate 4
    split
    · exact Routine.idle st
  split
  · rename_i peer hpeer
    exact Routine.ofInsert hpeer (SameSession.learnDirectAddr peerAddr peer) (by simp)
  · exact routine_startHandshake node env st peerAddr _ _

theorem routine_answerKeepalive (env : Env) (st : NodeState) (peerId : UInt32) (token : UInt64)
    (replyTo : SocketAddr) : Routine st (answerKeepalive node env st peerId token replyTo) := by
  unfold answerKeepalive
  split
  · exact Routine.idle st
  · rename_i htx
    exact routine_peerTx htx (silent_sendWire _ _)

theorem routine_handleKeepaliveAck (env : Env) (st : NodeState) (peerId : UInt32) (token : UInt64) :
    Routine st (handleKeepaliveAck env st peerId token, []) := by
  unfold handleKeepaliveAck
  split
  · exact Routine.idle st
  · rename_i peer hpeer
    exact Routine.ofInsert hpeer (SameSession.ackKeepalive peer token env.now) (by simp)

theorem routine_handleBody (env : Env) (st : NodeState) (src : SocketAddr) (peerId : UInt32)
    {body : PacketBody} (hbody : ∀ seq ipPacket, body ≠ .data seq ipPacket) :
    Routine st (handleBody node env st src peerId body) := by
  cases body with
  | data seq ipPacket => exact absurd rfl (hbody seq ipPacket)
  | relayForward seq nextPeerId innerPacket =>
      simp only [handleBody]
      split
      · exact Routine.refl st (silent_relayDatagram node st innerPacket nextPeerId)
      · exact Routine.idle st
  | disconnect seq => exact routine_removePeer node st peerId
  | lighthouseQuery seq targetIp => exact routine_handleLighthouseQuery node env st peerId targetIp
  | lighthouseResponse seq targetIp foundId peerAddr peerCert peerIsRelay =>
      exact routine_handleLighthouseResponse node env st targetIp foundId peerAddr peerCert
  | lighthouseNotFound seq targetIp => exact Routine.idle st
  | keepalive seq token => exact routine_answerKeepalive node env st peerId token src
  | keepaliveAck seq token => exact routine_handleKeepaliveAck env st peerId token

/-! ## Maintenance is routine -/

theorem routine_sendLighthouseQuery (env : Env) (dstIp : IpAddr) (peerId : UInt32) (st : NodeState) :
    Routine st (sendLighthouseQuery node env dstIp peerId st) := by
  unfold sendLighthouseQuery
  split
  · exact Routine.idle st
  · rename_i htx
    exact routine_peerTx htx (silent_sendMessageWithId node _ _ _ _ _)

theorem routine_requestDiscovery (env : Env) (st : NodeState) (dstIp : IpAddr) :
    Routine st (requestDiscovery node env st dstIp) := by
  unfold requestDiscovery
  split
  · exact Routine.idle st
  · have hnoted : Routine st ({ st with
        discoveryPending := st.discoveryPending.insert dstIp env.now }, []) :=
      Routine.ofFrame rfl rfl (by simp)
    exact hnoted.trans (routine_forEach (fun i peerId st =>
      routine_sendLighthouseQuery node (env.part i) dstIp peerId st) _ _ _)

theorem routine_refreshLighthouseAddress (env : Env) (resolve : String → Option SocketAddr)
    (lighthouse : LighthouseSlot) (st : NodeState) :
    Routine st ((refreshLighthouseAddress env resolve lighthouse st).2, []) := by
  unfold refreshLighthouseAddress
  split
  · exact Routine.idle st
  constructor
  · exact fun id after hafter => ⟨after, hafter, SameSession.refl after⟩
  · intro slot hslot id hid
    obtain ⟨old, hold, rfl⟩ := List.mem_map.mp hslot
    refine ⟨?_, fun hlive => hlive⟩
    split at hid
    · rename_i hother
      rw [if_pos hother]
      exact ⟨old, hold, hid, rfl, rfl⟩
    rename_i hother
    rw [if_neg hother]
    split at hid
    · simp at hid
    · rename_i hsame
      rw [if_neg hsame]
      exact ⟨old, hold, hid, rfl, rfl⟩
  · simp

theorem routine_connectLighthouses (env : Env) (resolve : String → Option SocketAddr)
    (st : NodeState) : Routine st (connectLighthouses node env resolve st) := by
  apply routine_forEach
  intro i lighthouse st
  exact (routine_refreshLighthouseAddress (env.part i) resolve lighthouse st).trans
    (routine_startHandshake node (env.part i) _ _ none lighthouse.name)

theorem routine_retransmitHandshakes (env : Env) (st : NodeState) :
    Routine st (retransmitHandshakes node env st) := by
  unfold retransmitHandshakes
  have hpending : ∀ pending, Routine st ({ st with pending := pending }, []) :=
    fun pending => Routine.ofFrame rfl rfl (by simp)
  refine (hpending _).trans (routine_forEach (fun i copy st => ?_) _ _ _)
  exact Routine.refl st (silent_sendMessageWithId node _ _ _ _ _)

theorem sameSession_probePeer (env : Env) (peerId : UInt32) (peer : PeerState) :
    SameSession peer (probePeer node env peerId peer).1 := by
  have hprobe := SameSession.takePathProbe peer env.now node.timings (env.rand [1]).token
  unfold probePeer
  split
  · rename_i h
    rw [h] at hprobe
    exact hprobe.trans (SameSession.nextSeq _)
  · rename_i h
    rw [h] at hprobe
    exact hprobe
  · rename_i h
    rw [h] at hprobe
    exact hprobe

theorem sameSession_maintainPeer (env : Env) (peerId : UInt32) (peer : PeerState) :
    SameSession peer (maintainPeer node env peerId peer).1 := by
  have htick := SameSession.tick peer env.now node.timings (env.rand [0]).token
  unfold maintainPeer
  split
  · split
    · rename_i h
      rw [h] at htick
      exact htick
    · rename_i h
      rw [h] at htick
      exact htick.trans ((SameSession.nextSeq _).trans (sameSession_probePeer node env peerId _))
    · rename_i h
      rw [h] at htick
      exact htick.trans (sameSession_probePeer node env peerId _)
  split
  · exact SameSession.refl peer
  · exact sameSession_probePeer node env peerId peer

theorem routine_maintainPeersLocked (env : Env) (st : NodeState) :
    Routine st (maintainPeersLocked node env st, []) :=
  Routine.ofMapValues (fun id peer => sameSession_maintainPeer node (env.forPeer id) id peer)
    (by simp)

theorem routine_runAction (env : Env) (action : Action) (st : NodeState) :
    Routine st (runAction node env action st) := by
  cases action with
  | send addr wire => exact Routine.refl st (silent_sendWire wire addr)
  | lookup ip => exact routine_requestDiscovery node env st ip

theorem routine_maintainPeers (env : Env) (st : NodeState) :
    Routine st (maintainPeers node env st) := by
  have hdrops := (routine_maintainPeersLocked node env st).trans
    (routine_forEach (fun _ peerId st => routine_removePeer node st peerId) 0
      (maintainPeersDrops node env st) (maintainPeersLocked node env st))
  exact hdrops.trans (routine_forEach (fun i action st =>
    routine_runAction node (env.part i) action st) 0 (maintainPeersActions node env st) _)

theorem routine_maintenanceTick (env : Env) (st : NodeState) :
    Routine st (maintenanceTick node env st) := by
  have hretries := routine_retransmitHandshakes node (env.part 0) st
  unfold maintenanceTick
  generalize retransmitHandshakes node (env.part 0) st = retried at hretries ⊢
  obtain ⟨middle, retries⟩ := retried
  have hpeers := routine_maintainPeers node (env.part 1) middle
  dsimp only
  generalize maintainPeers node (env.part 1) middle = maintained at hpeers ⊢
  exact (hretries.trans hpeers).withFrame rfl rfl

theorem routine_sendToOverlay (env : Env) (st : NodeState) (overlayNetworks : List IpNetwork)
    (ipPacket : ByteString) : Routine st (sendToOverlay node env st overlayNetworks ipPacket) := by
  unfold sendToOverlay
  split
  · exact Routine.idle st
  split
  · exact Routine.idle st
  split
  · exact Routine.idle st
  split
  · exact routine_requestDiscovery node env st _
  split
  · exact Routine.idle st
  · rename_i htx
    exact routine_peerTx htx (silent_sendWire _ _)

theorem routine_notifyShutdown (env : Env) (st : NodeState) :
    Routine st (notifyShutdown node env st) := by
  apply Routine.ofMapValues
  · exact fun _ peer => SameSession.nextSeq peer
  · intro effect heffect
    obtain ⟨entry, -, hmem⟩ := List.mem_flatMap.mp heffect
    exact silent_sendWire _ _ effect hmem

end Calls

end Liteway.Daemon
