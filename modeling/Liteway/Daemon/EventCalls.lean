import Liteway.Core.HeaderPath
import Liteway.Daemon.LighthouseQueries
import Liteway.Daemon.ProbeBackoff

/-!
# The calls behind an event

What an event of the node does to one session is a sequence of calls on its
state, up to the numbers of the packets sent and received.  Which calls these
are can be read off the event and the state it happens in.
-/

namespace Liteway.Daemon

open Liteway.Library Liteway.Core

/-! ## Packet numbers do not matter -/

namespace SameButSeq

variable {peer peer' : PeerState}

theorem takePathProbe (h : SameButSeq peer peer') (now : Instant) (timings : Timings)
    (token : UInt64) :
    SameButSeq (peer.takePathProbe now timings token).2 (peer'.takePathProbe now timings token).2 := by
  rw [h]
  unfold PeerState.takePathProbe SameButSeq
  simp only
  repeat' split
  all_goals rfl

end SameButSeq

/-- Every peer becomes what `f` makes of it, and none comes or goes. -/
def Touched (f : UInt32 → PeerState → PeerState) (st st' : NodeState) : Prop :=
  ∀ id, Option.Rel SameButSeq ((st.peers.lookup id).map (f id)) (st'.peers.lookup id)

namespace Touched

variable {f : UInt32 → PeerState → PeerState} {st middle st' : NodeState} {id : UInt32}

theorem andSend (hpeers : ∀ id, middle.peers.lookup id = (st.peers.lookup id).map (f id))
    (h : Retains SameButSeq [] middle st') : Touched f st st' := by
  intro id
  rw [← hpeers id]
  cases hmiddle : middle.peers.lookup id with
  | none =>
      cases hafter : st'.peers.lookup id with
      | none => exact .none
      | some after =>
          obtain ⟨-, before, hbefore, -⟩ := h.only id after hafter
          cases hmiddle.symm.trans hbefore
  | some before =>
      obtain ⟨after, hafter, hsame⟩ := h.kept id before List.not_mem_nil hmiddle
      rw [hafter]
      exact .some hsame

theorem exists_before (h : Touched f st st') {after : PeerState}
    (hafter : st'.peers.lookup id = some after) :
    ∃ before, st.peers.lookup id = some before ∧ SameButSeq (f id before) after := by
  have hrel := h id
  rw [hafter] at hrel
  cases hbefore : st.peers.lookup id with
  | none =>
      rw [hbefore] at hrel
      cases hrel
  | some before =>
      rw [hbefore] at hrel
      cases hrel with
      | some hsame => exact ⟨before, rfl, hsame⟩

theorem exists_after (h : Touched f st st') {before : PeerState}
    (hbefore : st.peers.lookup id = some before) :
    ∃ after, st'.peers.lookup id = some after ∧ SameButSeq (f id before) after := by
  have hrel := h id
  rw [hbefore] at hrel
  cases hafter : st'.peers.lookup id with
  | none =>
      rw [hafter] at hrel
      cases hrel
  | some after =>
      rw [hafter] at hrel
      cases hrel with
      | some hsame => exact ⟨after, rfl, hsame⟩

end Touched

/-! ## Packets -/

section Packets

variable {lib : Primitives} (node : Node lib)

def told (env : Env) : PacketBody → Option (UInt32 × SocketAddr)
  | .lighthouseResponse _ targetIp foundId peerAddr peerCert _ =>
      if foundId = node.ourId then none
      else if !peerCert.verify lib node.caVk env.unixTime then none
      else if nodeIdFromCert lib peerCert ≠ foundId then none
      else if !(authorizedPeerRoutes lib peerCert).any fun route => route.contains targetIp then none
      else some (foundId, peerAddr)
  | _ => none

def toldCalls (env : Env) (body : PacketBody) (id : UInt32) : List SessionCall :=
  match told node env body with
  | none => []
  | some (foundId, addr) => if id = foundId then [.learned env.now addr] else []

/-- The call that an accepted packet makes on the session it belongs to. -/
def packetCall (env : Env) (src : SocketAddr) (viaRelay : Bool) : PacketBody → SessionCall
  | .keepaliveAck _ token => .ack env.now src viaRelay token
  | body => .seen env.now src viaRelay (PacketBody.isKeepalive body)

def packetCalls (env : Env) (src : SocketAddr) (viaRelay : Bool) (sender : UInt32)
    (body : PacketBody) (id : UInt32) : List SessionCall :=
  (if id = sender then [packetCall env src viaRelay body] else []) ++ toldCalls node env body id

def withWindow (sender : UInt32) (body : PacketBody) (id : UInt32) (peer : PeerState) : PeerState :=
  if id = sender then { peer with rxReplay := (peer.rxReplay.accept (packetSeq body)).2 } else peer

def recordEndpoint (st : NodeState) (peerId : UInt32) (addr : SocketAddr) : NodeState :=
  match st.peers.lookup peerId with
  | none => st
  | some peer => { st with peers := st.peers.insert peerId (learnDirectAddr addr peer) }

theorem noteDirectEndpoint_eq (st : NodeState) (peerId : UInt32) (addr : SocketAddr) :
    noteDirectEndpoint st peerId addr =
      if addrIsRelay st addr then st else recordEndpoint st peerId addr := rfl

theorem lookup_recordEndpoint (st : NodeState) (peerId : UInt32) (addr : SocketAddr) (id : UInt32) :
    (recordEndpoint st peerId addr).peers.lookup id =
      (st.peers.lookup id).map fun peer => if id = peerId then learnDirectAddr addr peer else peer := by
  unfold recordEndpoint
  cases hpeer : st.peers.lookup peerId with
  | none =>
      by_cases hid : id = peerId
      · rw [hid, hpeer]
        rfl
      · simp [hid]
  | some peer =>
      simp only [AssocMap.lookup_insert_eq]
      by_cases hid : id = peerId
      · rw [if_pos hid, hid, hpeer]
        simp
      · simp [hid]

def afterTold (env : Env) (st : NodeState) (body : PacketBody) : NodeState :=
  match told node env body with
  | none => st
  | some (foundId, addr) => recordEndpoint st foundId addr

variable {node} {env : Env} {st : NodeState} {src : SocketAddr} {sender : UInt32} {body : PacketBody}

theorem lookup_afterTold (timings : Timings) (id : UInt32) :
    (afterTold node env st body).peers.lookup id =
      (st.peers.lookup id).map fun peer =>
        runAll (PeerState.afterCall timings) peer (toldCalls node env body id) := by
  unfold afterTold toldCalls
  cases told node env body with
  | none => simp
  | some found =>
      obtain ⟨foundId, addr⟩ := found
      rw [lookup_recordEndpoint]
      by_cases hid : id = foundId
      · simp only [hid, ↓reduceIte]
        rfl
      · simp [hid]

theorem retains_afterTold (seq : UInt64) (targetIp : IpAddr) (foundId : UInt32)
    (peerAddr : SocketAddr) (peerCert : Cert) (peerIsRelay : Bool) :
    Retains SameButSeq []
      (afterTold node env st (.lighthouseResponse seq targetIp foundId peerAddr peerCert peerIsRelay))
      (handleLighthouseResponse node env st targetIp foundId peerAddr peerCert).1 := by
  unfold afterTold told handleLighthouseResponse
  dsimp only
  by_cases hself : foundId = node.ourId
  · rw [if_pos hself, if_pos hself]
    exact Retains.refl st
  rw [if_neg hself, if_neg hself]
  by_cases hvalid : (!peerCert.verify lib node.caVk env.unixTime) = true
  · rw [if_pos hvalid, if_pos hvalid]
    exact Retains.refl st
  rw [if_neg hvalid, if_neg hvalid]
  by_cases hnamed : nodeIdFromCert lib peerCert ≠ foundId
  · rw [if_pos hnamed, if_pos hnamed]
    exact Retains.refl st
  rw [if_neg hnamed, if_neg hnamed]
  by_cases hroute : (!(authorizedPeerRoutes lib peerCert).any fun route =>
      route.contains targetIp) = true
  · rw [if_pos hroute, if_pos hroute]
    exact Retains.refl st
  rw [if_neg hroute, if_neg hroute]
  unfold recordEndpoint
  cases hpeer : st.peers.lookup foundId with
  | some peer =>
      simp only [hpeer]
      exact Retains.refl _
  | none =>
      simp only [hpeer]
      exact retains_startHandshake node env st peerAddr _ _

/-- The state once an accepted packet is taken in, before anything is sent. -/
def afterBody (node : Node lib) (env : Env) (st : NodeState) (sender : UInt32) :
    PacketBody → NodeState
  | .keepaliveAck _ token => handleKeepaliveAck env st sender token
  | body => afterTold node env st body

theorem retains_afterBody (src : SocketAddr) (hbody : ∀ seq, body ≠ .disconnect seq) :
    Retains SameButSeq [] (afterBody node env st sender body)
      (handleBody node env st src sender body).1 := by
  cases body with
  | data seq ipPacket => exact Retains.refl st
  | relayForward seq nextPeerId innerPacket =>
      simp only [handleBody]
      split
      · exact Retains.refl st
      · exact Retains.refl st
  | disconnect seq => exact absurd rfl (hbody seq)
  | lighthouseQuery seq targetIp => exact retains_handleLighthouseQuery node env st sender targetIp
  | lighthouseResponse seq targetIp foundId peerAddr peerCert peerIsRelay =>
      exact retains_afterTold seq targetIp foundId peerAddr peerCert peerIsRelay
  | lighthouseNotFound seq targetIp => exact Retains.refl st
  | keepalive seq token => exact retains_answerKeepalive node env st sender token src
  | keepaliveAck seq token => exact Retains.refl _

variable {peer : PeerState}

theorem lookup_afterAccept (hpeer : st.peers.lookup sender = some peer) (id : UInt32) :
    (afterAccept env st src sender peer body).peers.lookup id =
      (st.peers.lookup id).map fun before =>
        if id = sender then ((withWindow sender body id before).markSeen src env.now
          (srcIsRelay st sender peer src) (PacketBody.isKeepalive body)).2
        else before := by
  unfold afterAccept
  rw [AssocMap.lookup_insert_eq]
  by_cases hid : id = sender
  · subst hid
    simp [hpeer, withWindow, PeerState.receive]
  · simp [hid]

theorem lookup_afterBody (hpeer : st.peers.lookup sender = some peer) (timings : Timings)
    (id : UInt32) :
    (afterBody node env (afterAccept env st src sender peer body) sender body).peers.lookup id =
      (st.peers.lookup id).map fun before =>
        runAll (PeerState.afterCall timings) (withWindow sender body id before)
          (packetCalls node env src (srcIsRelay st sender peer src) sender body id) := by
  -- an ack is matched after it is taken in; whatever else comes in is written down
  by_cases hack : ∃ seq token, body = .keepaliveAck seq token
  · obtain ⟨seq, token, rfl⟩ := hack
    have hsender : (afterAccept env st src sender peer (.keepaliveAck seq token)).peers.lookup
        sender = _ := lookup_afterAccept hpeer sender
    rw [hpeer] at hsender
    simp only [afterBody, handleKeepaliveAck, hsender, Option.map_some, ↓reduceIte]
    rw [AssocMap.lookup_insert_eq]
    by_cases hid : id = sender
    · subst hid
      rw [if_pos rfl, hpeer]
      simp [packetCalls, toldCalls, told, packetCall, PeerState.afterCall, PacketBody.isKeepalive]
    · rw [if_neg hid, lookup_afterAccept hpeer]
      simp [hid, packetCalls, toldCalls, told, withWindow]
  · have hbody : afterBody node env (afterAccept env st src sender peer body) sender body =
        afterTold node env (afterAccept env st src sender peer body) body := by
      cases body with
      | keepaliveAck seq token => exact absurd ⟨seq, token, rfl⟩ hack
      | _ => rfl
    have hcall : packetCall env src (srcIsRelay st sender peer src) body =
        .seen env.now src (srcIsRelay st sender peer src) (PacketBody.isKeepalive body) := by
      cases body with
      | keepaliveAck seq token => exact absurd ⟨seq, token, rfl⟩ hack
      | _ => rfl
    rw [hbody, lookup_afterTold timings, lookup_afterAccept hpeer, Option.map_map]
    unfold packetCalls
    rw [hcall]
    by_cases hid : id = sender
    · simp only [hid, ↓reduceIte, List.singleton_append, runAll_cons]
      rfl
    · simp only [hid, ↓reduceIte, List.nil_append, withWindow]
      rfl

theorem handleSessionPacket_of_accepts {packet : ByteString} {header : NetworkHeader}
    (h : Accepts node st packet sender peer header body) :
    (handleSessionPacket node env st src packet header).1 =
      (handleBody node env (afterAccept env st src sender peer body) src sender body).1 := by
  unfold handleSessionPacket
  simp only [h.session, h.live, h.decrypted, h.fresh, ne_eq, not_true_eq_false, ↓reduceIte,
    Bool.not_true, Bool.false_eq_true]
  rfl

theorem lookup_removePeer (peerId id : UInt32) :
    (removePeer node st peerId).1.peers.lookup id =
      if id = peerId then none else st.peers.lookup id := by
  unfold removePeer removePeerPeers
  cases hpeer : st.peers.lookup peerId with
  | none =>
      change st.peers.lookup id = _
      by_cases hid : id = peerId
      · rw [if_pos hid, hid, hpeer]
      · rw [if_neg hid]
  | some peer =>
      change (st.peers.erase peerId).lookup id = _
      exact AssocMap.lookup_erase_eq peerId id st.peers

theorem touched_accepted {packet : ByteString} {header : NetworkHeader}
    (h : Accepts node st packet sender peer header body) (hbody : ∀ seq, body ≠ .disconnect seq)
    (env : Env) (src : SocketAddr) (data : ByteString) :
    Touched (fun id before => runAll (PeerState.afterCall node.timings)
        (withWindow sender body id before)
        (packetCalls node env src (srcIsRelay st sender peer src) sender body id)) st
      (handleBody node env (afterAccept env (afterFeed node env st src data) src sender peer body)
        src sender body).1 := by
  have hpeer : (afterFeed node env st src data).peers.lookup sender = some peer := h.live
  exact Touched.andSend (fun id => lookup_afterBody hpeer node.timings id)
    (retains_afterBody src hbody)

end Packets

/-! ## Ticks -/

section Ticks

variable {lib : Primitives} (node : Node lib) (env : Env)

def tickCalls : List SessionCall :=
  (if node.keepaliveEnabled then [.tick env.now (env.rand [0]).token] else []) ++
    [.probe env.now (env.rand [1]).token]

variable {node env} {peerId : UInt32} {peer : PeerState}

theorem sameButSeq_probePeer :
    SameButSeq (peer.takePathProbe env.now node.timings (env.rand [1]).token).2
      (probePeer node env peerId peer).1 := by
  unfold probePeer
  split
  · rename_i hprobe
    rw [hprobe]
    exact SameButSeq.nextSeq _
  · rename_i hprobe
    rw [hprobe]
    exact SameButSeq.refl _
  · rename_i hprobe
    rw [hprobe]
    exact SameButSeq.refl _

theorem sameButSeq_maintainPeer (h : (maintainPeer node env peerId peer).2.2 = none) :
    SameButSeq (runAll (PeerState.afterCall node.timings) peer (tickCalls node env))
      (maintainPeer node env peerId peer).1 := by
  unfold maintainPeer at h ⊢
  unfold tickCalls
  by_cases henabled : node.keepaliveEnabled = true
  · rw [if_pos henabled] at h ⊢
    rw [if_pos henabled, List.singleton_append, runAll_cons, PeerState.afterCall_tick]
    cases htick : peer.tick env.now node.timings (env.rand [0]).token with
    | mk asked ticked =>
        cases asked with
        | drop reason =>
            simp only [htick] at h
            contradiction
        | keepalive token =>
            -- the probe is asked for after the keepalive has taken a number
            have hsent := (SameButSeq.nextSeq ticked).takePathProbe env.now node.timings
              (env.rand [1]).token
            exact hsent.trans sameButSeq_probePeer
        | idle => exact sameButSeq_probePeer
  · rw [if_neg henabled] at h ⊢
    rw [if_neg henabled]
    split at h
    · contradiction
    · rename_i hseen
      rw [if_neg hseen]
      exact sameButSeq_probePeer

theorem maintainPeer_of_dropped (h : (maintainPeer node env peerId peer).2.2 ≠ none) :
    (maintainPeer node env peerId peer).1 = peer := by
  unfold maintainPeer at h ⊢
  by_cases henabled : node.keepaliveEnabled = true
  · rw [if_pos henabled] at h ⊢
    cases htick : peer.tick env.now node.timings (env.rand [0]).token with
    | mk asked ticked =>
        cases asked with
        | drop reason =>
            have hsame := PeerState.tick_of_drop (congrArg Prod.fst htick)
            rw [htick] at hsame
            exact hsame
        | keepalive token =>
            simp only [htick, ne_eq, not_true_eq_false] at h
        | idle =>
            simp only [htick, ne_eq, not_true_eq_false] at h
  · rw [if_neg henabled] at h ⊢
    split at h
    · rename_i hseen
      rw [if_pos hseen]
    · exact absurd rfl h

end Ticks

/-! ## Events -/

section Events

variable {lib : Primitives} (node : Node lib)

/-- A datagram brings a packet of `sender` that is accepted. -/
def Brings (env : Env) (st : NodeState) (src : SocketAddr) (data : ByteString) (sender : UInt32)
    (peer : PeerState) (body : PacketBody) : Prop :=
  ∃ packet header, wholePacket node env st src data = some packet ∧
    networkHeader lib packet node.networkKey = some header ∧
    ¬ (header.dstPeerId ≠ 0 ∧ header.dstPeerId ≠ node.ourId) ∧
    Accepts node st packet sender peer header body

/-- A datagram repeats a request of the peer that was answered before, and comes
from no relay. -/
def Repeats (env : Env) (st : NodeState) (src : SocketAddr) (data : ByteString) (id : UInt32) :
    Prop :=
  ∃ packet header entry, wholePacket node env st src data = some packet ∧
    networkHeader lib packet node.networkKey = some header ∧ header.kind = kindHandshake1 ∧
    st.handshakeCache.get (lib.blake3Hash packet) env.now = some entry ∧ entry.peerId = id ∧
    addrIsRelay st src = false

/-- The calls that an event makes on the session with `id`: none at all, those of an
accepted packet, what a repeated request tells, or those of a tick. -/
inductive Makes (st : NodeState) (id : UInt32) : Event → List SessionCall → Prop where
  | nothing {event : Event} : Makes st id event []
  | packet {env : Env} {src : SocketAddr} {data : ByteString} {sender : UInt32} {peer : PeerState}
      {body : PacketBody} (h : Brings node env st src data sender peer body) :
      Makes st id (.datagram env src data)
        (packetCalls node env src (srcIsRelay st sender peer src) sender body id)
  | noted {env : Env} {src : SocketAddr} {data : ByteString} (h : Repeats node env st src data id) :
      Makes st id (.datagram env src data) [.learned env.now src]
  | maintained {env : Env} :
      Makes st id (.maintenance env) (tickCalls node ((env.part 1).forPeer id))

variable {node} {st : NodeState} {id : UInt32} {event : Event} {after : PeerState}

theorem Brings.live {env : Env} {src : SocketAddr} {data : ByteString} {sender : UInt32}
    {peer : PeerState} {body : PacketBody} (h : Brings node env st src data sender peer body) :
    st.peers.lookup sender = some peer := by
  obtain ⟨packet, header, -, -, -, haccepts⟩ := h
  exact haccepts.live

theorem kind_of_decryptPacket {packet : ByteString} {networkKey : NetworkKey} {key : SessionKey}
    {header : NetworkHeader} {body : PacketBody}
    (h : decryptPacket lib packet networkKey key = some (header, body)) :
    header.kind = body.kind := by
  unfold decryptPacket at h
  simp only [Option.bind_eq_bind, Option.bind_eq_some_iff] at h
  obtain ⟨pkt, -, decoded, -, plaintext, -, ⟨kind, rd⟩, -, ⟨seq, rd'⟩, -, hbody⟩ := h
  split at hbody
  · contradiction
  · rename_i hkind
    obtain ⟨found, hfound, hpair⟩ := Option.bind_eq_some_iff.mp hbody
    cases hpair
    rw [kind_of_readBody hfound]
    exact (not_not.mp hkind).symm

theorem step_of_brings {env : Env} {src : SocketAddr} {data : ByteString} {sender : UInt32}
    {peer : PeerState} {body : PacketBody} (h : Brings node env st src data sender peer body) :
    (step node st (.datagram env src data)).1 =
      (handleBody node env (afterAccept env (afterFeed node env st src data) src sender peer body)
        src sender body).1 := by
  obtain ⟨packet, header, hpacket, hheader, hours, haccepts⟩ := h
  obtain ⟨hfirst, hsecond, -⟩ := body.kind_ne
  rw [← kind_of_decryptPacket haccepts.decrypted] at hfirst hsecond
  change (handleDatagram node env st src data).1 = _
  rw [handleDatagram_of_wholePacket hpacket]
  unfold handlePacket
  simp only [hheader]
  rw [if_neg hfirst, if_neg hsecond, if_neg hours]
  exact handleSessionPacket_of_accepts
    ⟨haccepts.session, haccepts.live, haccepts.decrypted, haccepts.fresh⟩

theorem step_of_repeats {env : Env} {src : SocketAddr} {data : ByteString}
    (h : Repeats node env st src data id) :
    (step node st (.datagram env src data)).1 =
      recordEndpoint (afterFeed node env st src data) id src := by
  obtain ⟨packet, header, entry, hpacket, hheader, hkind, hcached, rfl, hrelay⟩ := h
  have hcached' : (afterFeed node env st src data).handshakeCache.get (lib.blake3Hash packet)
      env.now = some entry := hcached
  have hrelay' : ¬ addrIsRelay (afterFeed node env st src data) src = true :=
    Bool.eq_false_iff.mp hrelay
  change (handleDatagram node env st src data).1 = _
  rw [handleDatagram_of_wholePacket hpacket]
  unfold handlePacket
  simp only [hheader]
  rw [if_pos hkind]
  unfold handleHandshake1
  simp only [hcached', noteDirectEndpoint_eq]
  rw [if_neg hrelay']

/-- The peer comes out of the calls that the event makes. -/
def ComesFrom (node : Node lib) (st : NodeState) (id : UInt32) (event : Event) (after : PeerState) :
    Prop :=
  ∃ before window calls, st.peers.lookup id = some before ∧ Makes node st id event calls ∧
    SameButSeq (runAll (PeerState.afterCall node.timings) { before with rxReplay := window } calls)
      after

theorem ComesFrom.same (h : st.peers.lookup id = some after) : ComesFrom node st id event after :=
  ⟨after, after.rxReplay, [], h, .nothing, SameButSeq.refl after⟩

theorem ComesFrom.retains {gone : List UInt32} {st' : NodeState} (h : Retains SameButSeq gone st st')
    (hafter : st'.peers.lookup id = some after) : ComesFrom node st id event after := by
  obtain ⟨-, before, hbefore, hsame⟩ := h.only id after hafter
  exact ⟨before, before.rxReplay, [], hbefore, .nothing, hsame⟩

theorem ComesFrom.addPeer {session : NewSession} {now : Instant} {base : NodeState}
    (hother : ∀ session, installedBy node st event = some session → session.id ≠ id)
    (hoffer : offeredBy node st event = some session)
    (hafter : (addPeer node now base session).2.1.peers.lookup id = some after)
    (hbase : base.peers = st.peers) : ComesFrom node st id event after := by
  rw [lookup_addPeer, hbase] at hafter
  split at hafter
  · rename_i hinstalled
    exact absurd hinstalled.1.symm
      (hother session (installedBy_of_offeredBy node hoffer hinstalled.2))
  · exact ComesFrom.same hafter

section Datagrams

variable {env : Env} {src : SocketAddr} {data packet : ByteString} {header : NetworkHeader}

theorem comesFrom_handshake1
    (hother : ∀ session, installedBy node st (.datagram env src data) = some session →
      session.id ≠ id)
    (hpacket : wholePacket node env st src data = some packet)
    (hheader : networkHeader lib packet node.networkKey = some header)
    (hkind : header.kind = kindHandshake1)
    (hafter : (handleHandshake1 node env (afterFeed node env st src data) src
      packet).1.peers.lookup id = some after) :
    ComesFrom node st id (.datagram env src data) after := by
  have hcache' : (afterFeed node env st src data).handshakeCache = st.handshakeCache := rfl
  unfold handleHandshake1 at hafter
  simp only [hcache'] at hafter
  cases hcached : st.handshakeCache.get (lib.blake3Hash packet) env.now with
  | some entry =>
      simp only [hcached, noteDirectEndpoint_eq] at hafter
      cases hrelay : addrIsRelay st src with
      | true =>
          rw [if_pos (show addrIsRelay (afterFeed node env st src data) src = true from hrelay)]
            at hafter
          exact ComesFrom.same hafter
      | false =>
          rw [if_neg (by
            rw [show addrIsRelay (afterFeed node env st src data) src = false from hrelay]
            exact Bool.false_ne_true), lookup_recordEndpoint] at hafter
          obtain ⟨before, hbefore, rfl⟩ := Option.map_eq_some_iff.mp hafter
          by_cases hid : id = entry.peerId
          · rw [if_pos hid]
            exact ⟨before, before.rxReplay, _, hbefore,
              .noted ⟨packet, header, entry, hpacket, hheader, hkind, hcached, hid.symm, hrelay⟩,
              SameButSeq.refl _⟩
          · rw [if_neg hid]
            exact ComesFrom.same hbefore
  | none =>
      simp only [hcached] at hafter
      cases hprocess : processHandshake1 lib (env.rand []).responder env.unixTime packet node.cert
          node.signingKey node.networkKey node.caVk node.amRelay with
      | error reason =>
          simp only [hprocess] at hafter
          exact ComesFrom.same hafter
      | ok response =>
          simp only [hprocess] at hafter
          split at hafter
          · exact ComesFrom.same hafter
          · rename_i hforeign
            have hoffer : offeredBy node st (.datagram env src data) =
                some (responseSession lib st src response) := by
              simp [offeredBy, hpacket, offered, hheader, hkind, requested, hcached, hprocess,
                hforeign]
            unfold installResponse at hafter
            exact ComesFrom.addPeer hother hoffer hafter rfl

theorem comesFrom_handshake2
    (hother : ∀ session, installedBy node st (.datagram env src data) = some session →
      session.id ≠ id)
    (hpacket : wholePacket node env st src data = some packet)
    (hheader : networkHeader lib packet node.networkKey = some header)
    (hkind : header.kind = kindHandshake2)
    (hafter : (handleHandshake2 node env (afterFeed node env st src data) src packet
      header.sessionId).1.peers.lookup id = some after) :
    ComesFrom node st id (.datagram env src data) after := by
  have hoffer : offeredBy node st (.datagram env src data) =
      confirmed node env st src packet header.sessionId := by
    simp [offeredBy, hpacket, offered, hheader, hkind, show kindHandshake2 ≠ kindHandshake1 by decide]
  have hpending' : (afterFeed node env st src data).pending = st.pending := rfl
  unfold confirmed at hoffer
  unfold handleHandshake2 at hafter
  simp only [hpending'] at hafter
  cases hpending : st.pending.lookup header.sessionId with
  | none =>
      simp only [hpending] at hafter
      exact ComesFrom.same hafter
  | some handshake =>
      simp only [hpending] at hoffer hafter
      cases hprocess : processHandshake2 lib env.unixTime packet handshake.initiate node.networkKey
          node.caVk with
      | error reason =>
          simp only [hprocess] at hafter
          exact ComesFrom.same hafter
      | ok result =>
          simp only [hprocess] at hoffer hafter
          split at hafter
          · exact ComesFrom.same hafter
          · rename_i hexpected
            rw [if_neg hexpected] at hoffer
            exact ComesFrom.addPeer hother hoffer hafter rfl

theorem comesFrom_session (hpacket : wholePacket node env st src data = some packet)
    (hheader : networkHeader lib packet node.networkKey = some header)
    (hours : ¬ (header.dstPeerId ≠ 0 ∧ header.dstPeerId ≠ node.ourId))
    (hafter : (handleSessionPacket node env (afterFeed node env st src data) src packet
      header).1.peers.lookup id = some after) :
    ComesFrom node st id (.datagram env src data) after := by
  obtain h | ⟨sender, peer, body, haccepts, h⟩ :=
    handleSessionPacket_cases node env (afterFeed node env st src data) src packet header
  · rw [h] at hafter
    exact ComesFrom.same hafter
  rw [h] at hafter
  have haccepts' : Accepts node st packet sender peer header body :=
    ⟨haccepts.session, haccepts.live, haccepts.decrypted, haccepts.fresh⟩
  by_cases hbody : ∃ seq, body = .disconnect seq
  · obtain ⟨seq, rfl⟩ := hbody
    -- whoever is still there is not the sender
    have hremoved : (removePeer node (afterAccept env (afterFeed node env st src data) src sender
        peer (.disconnect seq)) sender).1.peers.lookup id = some after := hafter
    rw [lookup_removePeer] at hremoved
    split at hremoved
    · contradiction
    · rename_i hid
      rw [lookup_afterAccept haccepts.live] at hremoved
      obtain ⟨before, hbefore, hsame⟩ := Option.map_eq_some_iff.mp hremoved
      rw [if_neg hid] at hsame
      subst hsame
      exact ComesFrom.same hbefore
  · rw [not_exists] at hbody
    obtain ⟨before, hbefore, hsame⟩ :=
      (touched_accepted haccepts' hbody env src data).exists_before hafter
    have hbrings : Brings node env st src data sender peer body :=
      ⟨packet, header, hpacket, hheader, hours, haccepts'⟩
    by_cases hid : id = sender
    · unfold withWindow at hsame
      rw [if_pos hid] at hsame
      exact ⟨before, _, _, hbefore, .packet hbrings, hsame⟩
    · unfold withWindow at hsame
      rw [if_neg hid] at hsame
      exact ⟨before, before.rxReplay, _, hbefore, .packet hbrings, hsame⟩

theorem comesFrom_datagram
    (hother : ∀ session, installedBy node st (.datagram env src data) = some session →
      session.id ≠ id)
    (hafter : (handleDatagram node env st src data).1.peers.lookup id = some after) :
    ComesFrom node st id (.datagram env src data) after := by
  cases hpacket : wholePacket node env st src data with
  | none =>
      obtain ⟨assembler, effects, hnone, -⟩ := handleDatagram_of_no_packet hpacket
      rw [hnone] at hafter
      exact ComesFrom.same hafter
  | some packet =>
      rw [handleDatagram_of_wholePacket hpacket] at hafter
      unfold handlePacket at hafter
      cases hheader : networkHeader lib packet node.networkKey with
      | none =>
          simp only [hheader] at hafter
          exact ComesFrom.same hafter
      | some header =>
          simp only [hheader] at hafter
          split at hafter
          · rename_i hkind
            exact comesFrom_handshake1 hother hpacket hheader hkind hafter
          split at hafter
          · rename_i hkind
            exact comesFrom_handshake2 hother hpacket hheader hkind hafter
          split at hafter
          · exact ComesFrom.same hafter
          · rename_i hours
            exact comesFrom_session hpacket hheader hours hafter

end Datagrams

theorem comesFrom_maintenance {env : Env}
    (hafter : (maintenanceTick node env st).1.peers.lookup id = some after) :
    ComesFrom node st id (.maintenance env) after := by
  unfold maintenanceTick at hafter
  obtain ⟨gone, -, hrest⟩ := retains_maintainPeersLocked node (env.part 1)
    (retransmitHandshakes node (env.part 0) st).1
  obtain ⟨-, kept, hkept, hsame⟩ := hrest.only id after hafter
  unfold maintainPeersLocked at hkept
  rw [AssocMap.lookup_mapValues, peers_retransmitHandshakes] at hkept
  obtain ⟨before, hbefore, rfl⟩ := Option.map_eq_some_iff.mp hkept
  by_cases hdrop : (maintainPeer node ((env.part 1).forPeer id) id before).2.2 = none
  · exact ⟨before, before.rxReplay, _, hbefore, .maintained,
      (sameButSeq_maintainPeer hdrop).trans hsame⟩
  · rw [maintainPeer_of_dropped hdrop] at hsame
    exact ⟨before, before.rxReplay, [], hbefore, .nothing, hsame⟩

/-- An event that does not replace the session makes calls on it. -/
theorem comesFrom_step
    (hother : ∀ session, installedBy node st event = some session → session.id ≠ id)
    (hafter : (step node st event).1.peers.lookup id = some after) :
    ComesFrom node st id event after := by
  cases event with
  | datagram env src data => exact comesFrom_datagram hother hafter
  | cleanup now => exact ComesFrom.same hafter
  | maintenance env => exact comesFrom_maintenance hafter
  | punch env resolve => exact ComesFrom.retains (retains_connectLighthouses node env resolve st) hafter
  | tunPacket env overlayNetworks ipPacket =>
      exact ComesFrom.retains (retains_sendToOverlay node env st overlayNetworks ipPacket) hafter
  | shutdown env =>
      have hsent : Retains SameButSeq [] st (notifyShutdown node env st).1 :=
        Retains.ofMapValues fun _ peer => SameButSeq.nextSeq peer
      exact ComesFrom.retains hsent hafter

end Events

end Liteway.Daemon
