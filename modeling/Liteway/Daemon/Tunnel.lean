import Liteway.Daemon.AntiSpoofing
import Liteway.Daemon.SessionPaths
import Liteway.Daemon.SessionRoundTrip
import Liteway.Library.Channel

/-!
# From one TUN device to the other

Two nodes that share a session, with a network between them that loses, copies,
delays and reorders what it likes.  What one reads from its TUN device and the
other writes to its own makes up a channel that delivers at most once.
-/

namespace Liteway.Daemon

open Liteway.Library Liteway.Core

/-! ## The send path -/

section Sending

variable {lib : Primitives}

def tunBufferLen : Nat := 65535

def overlayPeer (st : NodeState) (overlayNetworks : List IpNetwork) (ipPacket : ByteString) :
    Option UInt32 :=
  (parseDestIp ipPacket).bind fun dstIp =>
    if dstIp.isMulticast || dstIp.isLinkLocal then none
    else if isOverlayBroadcast dstIp overlayNetworks then none
    else st.routes.lookup dstIp

def dataWire (node : Node lib) (env : Env) (peerId : UInt32) (peer : PeerState)
    (ipPacket : ByteString) : ByteString :=
  serializePacket (encryptDataPacket lib (env.rand []).sealing (env.rand []).padding
    (peer.txSeq + 1) peerId peer.txSessionId ipPacket node.networkKey peer.txKey)

theorem sendToOverlay_of_peer {node : Node lib} {env : Env} {st : NodeState}
    {overlayNetworks : List IpNetwork} {ipPacket : ByteString} {peerId : UInt32} {peer : PeerState}
    (hroute : overlayPeer st overlayNetworks ipPacket = some peerId)
    (hpeer : st.peers.lookup peerId = some peer) :
    sendToOverlay node env st overlayNetworks ipPacket =
      ({ st with peers := st.peers.insert peerId peer.nextSeq.2 },
        [.send peer.addr (dataWire node env peerId peer ipPacket)]) := by
  obtain ⟨dstIp, hdst, hroute⟩ := Option.bind_eq_some_iff.mp hroute
  split at hroute
  · contradiction
  rename_i hunicast
  split at hroute
  · contradiction
  rename_i hbroadcast
  unfold sendToOverlay
  simp only [hdst]
  rw [if_neg hunicast, if_neg hbroadcast]
  simp only [hroute, peerTx, hpeer]
  rfl

/-- A data packet under its number, with the datagram that carries it. -/
structure SealedData where
  seq : UInt64
  ipPacket : ByteString
  wire : ByteString

def sealedData (node : Node lib) (key : SessionKey) (st : NodeState) : Event → Option SealedData
  | .tunPacket env overlayNetworks ipPacket => do
      let peerId ← overlayPeer st overlayNetworks ipPacket
      let peer ← st.peers.lookup peerId
      if peer.txKey = key then
        some { seq := peer.txSeq + 1, ipPacket, wire := dataWire node env peerId peer ipPacket }
      else none
  | _ => none

theorem sealedData_of_peer {node : Node lib} {env : Env} {st : NodeState}
    {overlayNetworks : List IpNetwork} {ipPacket : ByteString} {peerId : UInt32} {peer : PeerState}
    (hroute : overlayPeer st overlayNetworks ipPacket = some peerId)
    (hpeer : st.peers.lookup peerId = some peer) :
    sealedData node peer.txKey st (.tunPacket env overlayNetworks ipPacket) =
      some { seq := peer.txSeq + 1, ipPacket, wire := dataWire node env peerId peer ipPacket } := by
  simp only [sealedData, hroute, hpeer, Option.bind_eq_bind, Option.bind_some, ↓reduceIte]

theorem effects_of_sealedData {node : Node lib} {key : SessionKey} {st : NodeState} {event : Event}
    {data : SealedData} (h : sealedData node key st event = some data) :
    ∃ addr, (step node st event).2 = [.send addr data.wire] := by
  cases event with
  | tunPacket env overlayNetworks ipPacket =>
      obtain ⟨peerId, hroute, h⟩ := Option.bind_eq_some_iff.mp h
      obtain ⟨peer, hpeer, h⟩ := Option.bind_eq_some_iff.mp h
      split at h
      · cases h
        exact ⟨peer.addr, congrArg Prod.snd (sendToOverlay_of_peer hroute hpeer)⟩
      · contradiction
  | _ => contradiction

theorem short_data {ipPacket : ByteString} (hlen : ipPacket.length ≤ tunBufferLen) (seq : UInt64) :
    (PacketBody.data seq ipPacket).Short lib := by
  intro payload hpayload
  rw [List.mem_singleton.mp hpayload]
  exact Nat.lt_of_le_of_lt hlen (by decide)

theorem decryptPacket_sealedData (hlib : lib.Correct) {node : Node lib} {key : SessionKey}
    {st : NodeState} {event : Event} {data : SealedData}
    (hlen : ∀ env overlayNetworks ipPacket, event = .tunPacket env overlayNetworks ipPacket →
      ipPacket.length ≤ tunBufferLen)
    (h : sealedData node key st event = some data) :
    ∃ header, decryptPacket lib data.wire node.networkKey key =
      some (header, .data data.seq data.ipPacket) := by
  cases event with
  | tunPacket env overlayNetworks ipPacket =>
      obtain ⟨peerId, hroute, h⟩ := Option.bind_eq_some_iff.mp h
      obtain ⟨peer, hpeer, h⟩ := Option.bind_eq_some_iff.mp h
      split at h
      · rename_i hkey
        cases h
        subst hkey
        exact ⟨_, decryptPacket_encryptPacket hlib _ _ _ _ _ _
          (short_data (hlen env overlayNetworks ipPacket rfl) (peer.txSeq + 1)) trivial⟩
      · contradiction
  | _ => contradiction

end Sending

/-! ## What a datagram delivers -/

def tunWrites (effects : List Effect) : List ByteString :=
  effects.filterMap fun
    | .tunWrite ipPacket => some ipPacket
    | _ => none

def deliveries (id : UInt32) : List Effect → List (UInt64 × ByteString)
  | .accepted peerId seq :: rest =>
      if peerId = id then (tunWrites rest).map fun ipPacket => (seq, ipPacket) else []
  | _ => []

theorem deliveries_accepted (id peerId : UInt32) (seq : UInt64) (rest : List Effect) :
    deliveries id (.accepted peerId seq :: rest) =
      if peerId = id then (tunWrites rest).map fun ipPacket => (seq, ipPacket) else [] := rfl

theorem tunWrites_of_silent {effects : List Effect} (h : ∀ effect ∈ effects, effect.Silent) :
    tunWrites effects = [] := by
  refine List.filterMap_eq_nil_iff.mpr fun effect heffect => ?_
  have hsilent := h effect heffect
  cases effect with
  | tunWrite ipPacket => exact hsilent.elim
  | _ => rfl

theorem deliveries_of_silent {effects : List Effect} (h : ∀ effect ∈ effects, effect.Silent)
    (id : UInt32) : deliveries id effects = [] := by
  cases effects with
  | nil => rfl
  | cons effect rest =>
      have hsilent := h effect List.mem_cons_self
      cases effect with
      | accepted peerId seq => exact hsilent.elim
      | _ => rfl

section Receiving

variable {lib : Primitives} {node : Node lib} {st : NodeState} {id : UInt32} {event : Event}

theorem tunWrites_handleData (st : NodeState) (peerId : UInt32) (ipPacket : ByteString) :
    tunWrites (handleData node st peerId ipPacket) = [] ∨
      tunWrites (handleData node st peerId ipPacket) = [ipPacket] := by
  unfold handleData
  simp only
  repeat' split
  all_goals first
    | exact Or.inl rfl
    | exact Or.inr rfl

/-- The session keeps its key and its replay window. -/
def KeepsWindow (id : UInt32) (st st' : NodeState) : Prop :=
  ∀ after, st'.peers.lookup id = some after → ∃ before, st.peers.lookup id = some before ∧
    after.rxKey = before.rxKey ∧ after.rxReplay = before.rxReplay

theorem Routine.keepsWindow {out : NodeState × List Effect} (h : Routine st out) :
    KeepsWindow id st out.1 := by
  intro after hafter
  obtain ⟨before, hbefore, hsame⟩ := h.kept id after hafter
  exact ⟨before, hbefore, hsame.rxKey, hsame.rxReplay⟩

/-- A fresh packet of the session moves its window, and delivers at most what it
carries. -/
structure Takes (node : Node lib) (id : UInt32) (st : NodeState) (event : Event) (packet : ByteString)
    (before : PeerState) (header : NetworkHeader) (body : PacketBody) : Prop where
  brought : ∃ env src data, event = .datagram env src data ∧
    wholePacket node env st src data = some packet
  accepts : Accepts node st packet id before header body
  window : ∀ after, (step node st event).1.peers.lookup id = some after →
    after.rxKey = before.rxKey ∧
      after.rxReplay = (before.rxReplay.accept (packetSeq body)).2
  delivers : deliveries id (step node st event).2 = [] ∨
    ∃ seq ipPacket, body = .data seq ipPacket ∧
      deliveries id (step node st event).2 = [(seq, ipPacket)]

theorem lookup_afterAccept_self (env : Env) (src : SocketAddr) {peer : PeerState}
    (body : PacketBody) :
    (afterAccept env st src id peer body).peers.lookup id =
      some (peer.receive (peer.rxReplay.accept (packetSeq body)).2 src env.now
        (srcIsRelay st id peer src) (PacketBody.isKeepalive body)) :=
  AList.lookup_insert _

theorem takes_of_accepts {env : Env} {src : SocketAddr} {data packet : ByteString}
    {peer : PeerState} {header : NetworkHeader} {body : PacketBody}
    (hpacket : wholePacket node env st src data = some packet)
    (haccepts : Accepts node st packet id peer header body)
    (hstep : step node st (.datagram env src data) =
      ((handleBody node env (afterAccept env (afterFeed node env st src data) src id peer body)
        src id body).1,
        .accepted id (packetSeq body) ::
          (handleBody node env (afterAccept env (afterFeed node env st src data) src id peer body)
            src id body).2)) :
    Takes node id st (.datagram env src data) packet peer header body := by
  have hsame := SameSession.receive peer (peer.rxReplay.accept (packetSeq body)).2 src env.now
    (srcIsRelay (afterFeed node env st src data) id peer src) (PacketBody.isKeepalive body)
  refine ⟨⟨env, src, data, rfl, hpacket⟩, haccepts, ?_, ?_⟩
  · intro after hafter
    rw [hstep] at hafter
    obtain ⟨seq, ipPacket, rfl⟩ | hother := body_cases body
    · rw [show (handleBody node env (afterAccept env (afterFeed node env st src data) src id peer
        (.data seq ipPacket)) src id (.data seq ipPacket)).1 = afterAccept env
          (afterFeed node env st src data) src id peer (.data seq ipPacket) from rfl,
        lookup_afterAccept_self] at hafter
      cases Option.some.inj hafter
      exact ⟨hsame.rxKey, hsame.rxReplay⟩
    · obtain ⟨before, hbefore, hkey, hwindow⟩ :=
        (routine_handleBody node env _ src id hother).keepsWindow after hafter
      rw [lookup_afterAccept_self] at hbefore
      cases Option.some.inj hbefore
      exact ⟨hkey.trans hsame.rxKey, hwindow.trans hsame.rxReplay⟩
  · rw [hstep]
    simp only [deliveries_accepted, ↓reduceIte]
    obtain ⟨seq, ipPacket, rfl⟩ | hother := body_cases body
    · obtain hnone | hone := @tunWrites_handleData _ node (afterAccept env
        (afterFeed node env st src data) src id peer (.data seq ipPacket)) id ipPacket
      · exact Or.inl (congrArg (List.map _) hnone)
      · exact Or.inr ⟨seq, ipPacket, rfl, congrArg (List.map _) hone⟩
    · left
      rw [tunWrites_of_silent (routine_handleBody node env _ src id hother).silent]
      rfl

/-- An event either leaves the window of the session alone and delivers nothing,
or it brings a fresh packet of the session. -/
theorem takes_or_keeps (hkeeps : LeavesInPlace node id st event) :
    (KeepsWindow id st (step node st event).1 ∧ deliveries id (step node st event).2 = []) ∨
      ∃ packet before header body, Takes node id st event packet before header body := by
  have houtcome := outcome_step node st event
  generalize hout : step node st event = out at houtcome
  cases houtcome with
  | routine h => exact Or.inl ⟨h.keepsWindow, deliveries_of_silent h.silent id⟩
  | @installs env src data packet session _ hpacket hoffer h =>
      left
      have hinstalled : installedBy node st (.datagram env src data) = some session := by
        refine installedBy_of_offeredBy node ?_ h.accepted
        simp only [offeredBy, hpacket, Option.bind_some, hoffer]
      obtain ⟨rest, heffects, -⟩ := h.effects
      refine ⟨fun after hafter => ?_, ?_⟩
      · rw [h.peers, AssocMap.lookup_insert_eq, if_neg (hkeeps session hinstalled).symm] at hafter
        exact ⟨after, hafter, rfl, rfl⟩
      · rw [heffects]
        rfl
  | @accepts env src data packet peerId peer header body hpacket h =>
      by_cases hid : peerId = id
      · subst hid
        exact Or.inr ⟨packet, peer, header, body, takes_of_accepts hpacket h hout⟩
      · left
        have hother : (afterAccept env (afterFeed node env st src data) src peerId peer body).peers.lookup
            id = st.peers.lookup id := AList.lookup_insert_ne (fun heq => hid heq.symm)
        refine ⟨fun after hafter => ?_, ?_⟩
        · obtain ⟨seq, ipPacket, rfl⟩ | hbody := body_cases body
          · exact ⟨after, hother.symm.trans hafter, rfl, rfl⟩
          · have hkept : KeepsWindow id (afterAccept env (afterFeed node env st src data) src peerId
                peer body) _ := (routine_handleBody node env _ src peerId hbody).keepsWindow
            obtain ⟨before, hbefore, hsame⟩ := hkept after hafter
            exact ⟨before, hother.symm.trans hbefore, hsame⟩
        · exact (deliveries_accepted id peerId _ _).trans (if_neg hid)

end Receiving

/-! ## Copies of a data packet -/

section Copies

variable {lib : Primitives} {sender receiver : Node lib} {st : NodeState} {id : UInt32}
  {left right : PeerState}

/-- The receiver waits for packets of the session; its window stands for `log`. -/
structure Listens (id : UInt32) (right : PeerState) (log : List UInt64) (st : NodeState) : Prop where
  session : st.rxSessions.lookup right.rxSessionId = some id
  live : ∃ peer, st.peers.lookup id = some peer ∧ peer.rxKey = right.rxKey ∧
    peer.routes = right.routes ∧ peer.rxReplay.Represents log

theorem handleDatagram_of_refused (hlib : lib.Correct) {node : Node lib} (env : Env) (src : SocketAddr)
    (coins : SealCoins) (padding : Padding) {sessionId peerId : UInt32} {peer : PeerState}
    {body : PacketBody} (hshort : body.Short lib) (htexts : body.TextsReadBack lib)
    (hsession : st.rxSessions.lookup sessionId = some peerId)
    (hlive : st.peers.lookup peerId = some peer)
    (hrefused : (peer.rxReplay.accept (packetSeq body)).1 = false) :
    handleDatagram node env st src (serializePacket
      (encryptPacket lib coins padding node.ourId sessionId node.networkKey peer.rxKey body)) =
      (st, []) := by
  have hheader := networkHeader_encryptPacket hlib coins padding node.ourId sessionId
    node.networkKey peer.rxKey body
  have hdecrypt := decryptPacket_encryptPacket hlib coins padding node.ourId sessionId
    node.networkKey peer.rxKey hshort htexts
  obtain ⟨hfirst, hsecond, hfrag⟩ := body.kind_ne
  rw [handleDatagram_of_header env st src hheader hfrag (Or.inr rfl)]
  unfold handlePacket
  simp only [hheader, hfirst, hsecond, ↓reduceIte, ne_eq, not_true_eq_false, and_false]
  unfold handleSessionPacket
  simp only [hsession, hlive, hdecrypt, hrefused, ne_eq, not_true_eq_false, ↓reduceIte,
    Bool.not_false]
  rw [ReplayWindow.accept_of_refused hrefused, AssocMap.replace_of_lookup hlive]

theorem listens_step (hlib : lib.Correct) {log : List UInt64} (h : Listens id right log st)
    (hkey : left.txKey = right.rxKey) (hsession : left.txSessionId = right.rxSessionId)
    (hnetwork : sender.networkKey = receiver.networkKey) (htun : receiver.ifaceName.isSome = true)
    (env env' : Env) (src : SocketAddr) {ipPacket : ByteString}
    (hshort : ipPacket.length ≤ tunBufferLen)
    (hsource : peerAllowsIpPacketSource right ipPacket = true)
    (hdestination : acceptsDestination receiver ipPacket = true) :
    (ReplayWindow.Fresh log (left.txSeq + 1) ∧
      ∃ st', step receiver st (.datagram env src
          (dataWire sender env' receiver.ourId left ipPacket)) =
          (st', [.accepted id (left.txSeq + 1), .tunWrite ipPacket]) ∧
        Listens id right ((left.txSeq + 1) :: log) st') ∨
    (¬ ReplayWindow.Fresh log (left.txSeq + 1) ∧
      step receiver st (.datagram env src (dataWire sender env' receiver.ourId left ipPacket)) =
        (st, [])) := by
  obtain ⟨peer, hpeer, hrxKey, hroutes, hwindow⟩ := h.live
  have hspec := ReplayWindow.accept_spec hwindow (left.txSeq + 1)
  have hbody := @short_data lib ipPacket hshort (left.txSeq + 1)
  have hsession' : st.rxSessions.lookup left.txSessionId = some id := by
    rw [hsession]
    exact h.session
  have hwire : dataWire sender env' receiver.ourId left ipPacket =
      serializePacket (encryptPacket lib (env'.rand []).sealing (env'.rand []).padding
        receiver.ourId left.txSessionId receiver.networkKey peer.rxKey
        (.data (left.txSeq + 1) ipPacket)) := by
    unfold dataWire
    rw [hnetwork, hkey, ← hrxKey]
    rfl
  rw [hwire]
  cases haccept : (peer.rxReplay.accept (left.txSeq + 1)).1 with
  | true =>
      rw [haccept, if_pos rfl] at hspec
      have hsame := SameSession.receive peer
        (peer.rxReplay.accept (packetSeq (.data (left.txSeq + 1) ipPacket))).2 src env.now
        (srcIsRelay st id peer src) (PacketBody.isKeepalive (.data (left.txSeq + 1) ipPacket))
      have hallows : peerAllowsIpPacketSource (peer.receive
          (peer.rxReplay.accept (packetSeq (.data (left.txSeq + 1) ipPacket))).2 src env.now
          (srcIsRelay st id peer src) (PacketBody.isKeepalive (.data (left.txSeq + 1) ipPacket)))
          ipPacket = true := by
        unfold peerAllowsIpPacketSource
        rw [hsame.routes, hroutes]
        exact hsource
      refine Or.inl ⟨hspec.1.mp rfl, _, (handleDatagram_encryptPacket hlib env src _ _ hbody trivial
        hsession' hpeer haccept).trans (Prod.ext rfl (congrArg (List.cons _) ?_)),
        h.session, _, lookup_afterAccept_self env src _, hsame.rxKey.trans hrxKey,
        hsame.routes.trans hroutes, ?_⟩
      · change handleData receiver _ id ipPacket = _
        unfold handleData
        rw [lookup_afterAccept_self]
        simp only [Option.any_some, hallows, hdestination, htun, Bool.not_true, Bool.false_eq_true,
          ↓reduceIte]
      · rw [hsame.rxReplay]
        exact hspec.2
  | false =>
      rw [haccept] at hspec
      exact Or.inr ⟨fun hfresh => Bool.false_ne_true (hspec.1.mpr hfresh),
        handleDatagram_of_refused hlib env src _ _ hbody trivial hsession' hpeer haccept⟩

end Copies

/-! ## Two nodes and a network -/

/-- Two nodes, the data packets that the first has sealed under a key, and those of
the session that the second has written to its TUN device. -/
structure Tunnel where
  sender : NodeState
  receiver : NodeState
  sealed : List SealedData
  written : List (UInt64 × ByteString)

/-- A call that a thread of either node makes. -/
inductive Move where
  | sender (event : Event)
  | receiver (event : Event)

namespace Tunnel

variable {lib : Primitives} (sender receiver : Node lib) (id : UInt32) (key : SessionKey)

def step (tunnel : Tunnel) : Move → Tunnel
  | .sender event =>
      { tunnel with
        sender := (Daemon.step sender tunnel.sender event).1
        sealed := tunnel.sealed ++ (sealedData sender key tunnel.sender event).toList }
  | .receiver event =>
      { tunnel with
        receiver := (Daemon.step receiver tunnel.receiver event).1
        written := tunnel.written ++
          deliveries id (Daemon.step receiver tunnel.receiver event).2 }

variable {sender receiver id key} in
theorem step_sender {st st' : NodeState} {sealed : List SealedData}
    {written : List (UInt64 × ByteString)} {event : Event} {found : Option SealedData}
    (h : sealedData sender key st event = found) :
    Tunnel.step sender receiver id key ⟨st, st', sealed, written⟩ (.sender event) =
      ⟨(Daemon.step sender st event).1, st', sealed ++ found.toList, written⟩ := by
  subst h
  rfl

variable {sender receiver id key} in
theorem step_receiver {st st' after : NodeState} {sealed : List SealedData}
    {written : List (UInt64 × ByteString)} {event : Event} {effects : List Effect}
    (h : Daemon.step receiver st' event = (after, effects)) :
    Tunnel.step sender receiver id key ⟨st, st', sealed, written⟩ (.receiver event) =
      ⟨st, after, sealed, written ++ deliveries id effects⟩ := by
  unfold Tunnel.step
  simp only [h]

/-- The network may do anything to datagrams but forge one: a data packet that opens
under the key of the session is one that the sender has sealed. -/
def Unforged (tunnel : Tunnel) (event : Event) : Prop :=
  ∀ env src data packet header seq ipPacket, event = .datagram env src data →
    wholePacket receiver env tunnel.receiver src data = some packet →
    decryptPacket lib packet receiver.networkKey key = some (header, .data seq ipPacket) →
    ∃ sealed ∈ tunnel.sealed, packet = sealed.wire

/-- The sender reads its TUN device into a buffer, and the receiver keeps the
session. -/
def Permits (tunnel : Tunnel) : Move → Prop
  | .sender event => ∀ env overlayNetworks ipPacket,
      event = .tunPacket env overlayNetworks ipPacket → ipPacket.length ≤ tunBufferLen
  | .receiver event =>
      LeavesInPlace receiver id tunnel.receiver event ∧ Unforged receiver key tunnel event

/-- The channel that a tunnel stands for. -/
def channel (tunnel : Tunnel) : Channel UInt64 ByteString :=
  ⟨tunnel.sealed.map fun data => (data.seq, data.ipPacket), tunnel.written⟩

/-- The window of the receiver knows all that was written, and what was sealed can
be opened. -/
structure Coherent (tunnel : Tunnel) : Prop where
  window : ∀ peer, tunnel.receiver.peers.lookup id = some peer → peer.rxKey = key ∧
    ∃ log, peer.rxReplay.Represents log ∧ tunnel.written.map Prod.fst ⊆ log
  opens : ∀ data ∈ tunnel.sealed, ∃ header,
    decryptPacket lib data.wire receiver.networkKey key =
      some (header, .data data.seq data.ipPacket)

variable {sender receiver id key} {tunnel : Tunnel}

theorem coherent_sender (hlib : lib.Correct) (hnetwork : sender.networkKey = receiver.networkKey)
    (h : Coherent receiver id key tunnel) {event : Event}
    (hpermits : Permits receiver id key tunnel (.sender event)) :
    Coherent receiver id key (tunnel.step sender receiver id key (.sender event)) := by
  refine ⟨h.window, fun data hdata => ?_⟩
  obtain hold | hnew := List.mem_append.mp hdata
  · exact h.opens data hold
  · have hopens := decryptPacket_sealedData hlib hpermits (Option.mem_toList.mp hnew)
    rw [hnetwork] at hopens
    exact hopens

theorem moves_sender (tunnel : Tunnel) (event : Event) :
    Relation.ReflTransGen Channel.Moves tunnel.channel
      (tunnel.step sender receiver id key (.sender event)).channel := by
  cases hsealed : sealedData sender key tunnel.sender event with
  | none =>
      have hsame : (tunnel.step sender receiver id key (.sender event)).channel = tunnel.channel := by
        simp [channel, step, hsealed]
      rw [hsame]
  | some data =>
      have hsent : (tunnel.step sender receiver id key (.sender event)).channel =
          tunnel.channel.send [(data.seq, data.ipPacket)] := by
        simp [channel, step, hsealed, Channel.send]
      rw [hsent]
      exact .single (.send tunnel.channel _)

theorem receiver_takes (h : Coherent receiver id key tunnel) {event : Event}
    (hforged : Unforged receiver key tunnel event) {packet : ByteString} {before : PeerState}
    {header : NetworkHeader} {body : PacketBody}
    (htakes : Takes receiver id tunnel.receiver event packet before header body) :
    Coherent receiver id key (tunnel.step sender receiver id key (.receiver event)) ∧
      Relation.ReflTransGen Channel.Moves tunnel.channel
        (tunnel.step sender receiver id key (.receiver event)).channel := by
  obtain ⟨hkey, log, hrep, hlog⟩ := h.window before htakes.accepts.live
  have hspec := ReplayWindow.accept_spec hrep (packetSeq body)
  have hfresh := hspec.1.mp htakes.accepts.fresh
  have hrep' := hspec.2
  rw [if_pos htakes.accepts.fresh] at hrep'
  obtain hnone | ⟨seq, ipPacket, rfl, hone⟩ := htakes.delivers
  · have hsame : (tunnel.step sender receiver id key (.receiver event)).written = tunnel.written := by
      simp [step, hnone]
    refine ⟨⟨fun after hafter => ?_, h.opens⟩, ?_⟩
    · obtain ⟨hkey', hwindow⟩ := htakes.window after hafter
      rw [hsame, hwindow]
      exact ⟨hkey'.trans hkey, _, hrep', List.subset_cons_of_subset _ hlog⟩
    · have hchannel : (tunnel.step sender receiver id key (.receiver event)).channel =
          tunnel.channel := congrArg (Channel.mk _) hsame
      rw [hchannel]
  · have hwritten : (tunnel.step sender receiver id key (.receiver event)).written =
        tunnel.written ++ [(seq, ipPacket)] := congrArg (tunnel.written ++ ·) hone
    -- the sender has sealed this very packet
    obtain ⟨env, src, data, hevent, hpacket⟩ := htakes.brought
    have hdecrypted := htakes.accepts.decrypted
    rw [hkey] at hdecrypted
    obtain ⟨sealed, hsealed, rfl⟩ :=
      hforged env src data packet header seq ipPacket hevent hpacket hdecrypted
    obtain ⟨header', hopens⟩ := h.opens sealed hsealed
    cases hdecrypted.symm.trans hopens
    refine ⟨⟨fun after hafter => ?_, h.opens⟩, ?_⟩
    · obtain ⟨hkey', hwindow⟩ := htakes.window after hafter
      rw [hwritten, hwindow, List.map_append]
      refine ⟨hkey'.trans hkey, _, hrep', List.append_subset.mpr ⟨?_, ?_⟩⟩
      · exact List.subset_cons_of_subset _ hlog
      · simp [packetSeq]
    · have hchannel : (tunnel.step sender receiver id key (.receiver event)).channel =
          tunnel.channel.deliver [(sealed.seq, sealed.ipPacket)] := congrArg (Channel.mk _) hwritten
      rw [hchannel]
      refine .single (.deliver tunnel.channel _ (List.mem_map.mpr ⟨sealed, hsealed, rfl⟩) ?_)
      exact fun hmem => hfresh.1 (hlog hmem)

theorem simulates_step (hlib : lib.Correct) (hnetwork : sender.networkKey = receiver.networkKey)
    (tunnel : Tunnel) (move : Move) (h : Coherent receiver id key tunnel)
    (hpermits : Permits receiver id key tunnel move) :
    Coherent receiver id key (tunnel.step sender receiver id key move) ∧
      Relation.ReflTransGen Channel.Moves tunnel.channel
        (tunnel.step sender receiver id key move).channel := by
  cases move with
  | sender event => exact ⟨coherent_sender hlib hnetwork h hpermits, moves_sender tunnel event⟩
  | receiver event =>
      obtain ⟨hkeeps, hforged⟩ := hpermits
      obtain ⟨hwindow, hnone⟩ | ⟨packet, before, header, body, htakes⟩ := takes_or_keeps hkeeps
      · have hsame : (tunnel.step sender receiver id key (.receiver event)).written =
            tunnel.written := by
          simp [step, hnone]
        refine ⟨⟨fun after hafter => ?_, h.opens⟩, ?_⟩
        · obtain ⟨before, hbefore, hkey, hreplay⟩ := hwindow after hafter
          rw [hsame, hkey, hreplay]
          exact h.window before hbefore
        · have hchannel : (tunnel.step sender receiver id key (.receiver event)).channel =
              tunnel.channel := congrArg (Channel.mk _) hsame
          rw [hchannel]
      · exact receiver_takes h hforged htakes

/-- From any state the receiver can reach, and however the threads of the two nodes
and the network interleave while it keeps the session, the tunnel is a channel: nothing
is written that was not sealed before, and no packet more often than it was sealed. -/
theorem refines_channel (hlib : lib.Correct) (hnetwork : sender.networkKey = receiver.networkKey)
    (lighthouses : List LighthouseSlot) (events : List Event) {peer : PeerState}
    (hpeer : (run receiver lighthouses events).state.peers.lookup id = some peer)
    (st : NodeState) {moves : List Move}
    (hpermits : Guarded (Tunnel.step sender receiver id peer.rxKey)
      (Permits receiver id peer.rxKey) ⟨st, (run receiver lighthouses events).state, [], []⟩ moves) :
    ∀ reached, reached = runAll (Tunnel.step sender receiver id peer.rxKey)
        ⟨st, (run receiver lighthouses events).state, [], []⟩ moves →
      reached.channel.Reachable ∧
        (reached.written.map Prod.snd).Subperm (reached.sealed.map SealedData.ipPacket) := by
  rintro reached rfl
  have hstart : Coherent receiver id peer.rxKey
      ⟨st, (run receiver lighthouses events).state, [], []⟩ := by
    refine ⟨fun found hfound => ?_, List.forall_mem_nil _⟩
    cases hpeer.symm.trans hfound
    obtain ⟨-, hwindow⟩ := @authentic_run _ receiver lighthouses events id peer hpeer
    exact ⟨rfl, _, hwindow, List.nil_subset _⟩
  obtain ⟨-, hreachable⟩ := guarded_simulation (simulates_step hlib hnetwork) hstart hpermits
  refine ⟨hreachable, ?_⟩
  have hsubperm := Channel.Reachable.subperm hreachable
  simp only [channel, List.map_map] at hsubperm
  exact hsubperm

end Tunnel

section Offers

variable {lib : Primitives} {node : Node lib} {st : NodeState}

theorem leavesInPlace_of_offeredBy {event : Event} (h : offeredBy node st event = none) (id : UInt32) :
    LeavesInPlace node id st event := by
  intro session hinstalled
  have hoffer := (offeredBy_of_installedBy node hinstalled).1
  rw [h] at hoffer
  contradiction

theorem offeredBy_encryptPacket (hlib : lib.Correct) (env : Env) (st : NodeState) (src : SocketAddr)
    (coins : SealCoins) (padding : Padding) (sessionId : UInt32) (sessionKey : SessionKey)
    (body : PacketBody) :
    let wire := serializePacket (encryptPacket lib coins padding node.ourId sessionId
      node.networkKey sessionKey body)
    wholePacket node env st src wire = some wire ∧
      offeredBy node st (.datagram env src wire) = none := by
  intro wire
  have hheader := networkHeader_encryptPacket hlib coins padding node.ourId sessionId
    node.networkKey sessionKey body
  obtain ⟨hfirst, hsecond, hfrag⟩ := body.kind_ne
  have hwhole := (wholePacket_of_header env st src hheader hfrag (Or.inr rfl)).1
  exact ⟨hwhole, by simp [wire, offeredBy, hwhole, offered, hheader, hfirst, hsecond]⟩

theorem permits_read {receiver : Node lib} {id : UInt32} {key : SessionKey} {tunnel : Tunnel}
    {env : Env} {overlayNetworks : List IpNetwork} {ipPacket : ByteString}
    (hlen : ipPacket.length ≤ tunBufferLen) :
    Tunnel.Permits receiver id key tunnel (.sender (.tunPacket env overlayNetworks ipPacket)) := by
  intro env overlayNetworks found hevent
  cases hevent
  exact hlen

theorem permits_copy (hlib : lib.Correct) {sender receiver : Node lib}
    (hnetwork : sender.networkKey = receiver.networkKey) {env' : Env} {left : PeerState}
    {tunnel : Tunnel} {data : SealedData} (hdata : data ∈ tunnel.sealed) {ipPacket : ByteString}
    (hwire : data.wire = dataWire sender env' receiver.ourId left ipPacket) (env : Env)
    (src : SocketAddr) (id : UInt32) (key : SessionKey) :
    Tunnel.Permits receiver id key tunnel (.receiver (.datagram env src data.wire)) := by
  have hpacket : ∀ env st src, wholePacket receiver env st src data.wire = some data.wire ∧
      offeredBy receiver st (.datagram env src data.wire) = none := by
    intro env st src
    rw [hwire]
    unfold dataWire
    rw [hnetwork]
    exact offeredBy_encryptPacket hlib env st src (env'.rand []).sealing (env'.rand []).padding
      left.txSessionId left.txKey (.data (left.txSeq + 1) ipPacket)
  refine ⟨leavesInPlace_of_offeredBy (hpacket _ _ _).2 _, ?_⟩
  intro env src data' packet header seq found hevent hwhole _
  cases hevent
  cases hwhole.symm.trans (hpacket _ _ _).1
  exact ⟨data, hdata, rfl⟩

theorem CanJoin.state_run (hlib : lib.Correct) {env : Env} {lighthouses : List LighthouseSlot}
    {request : Request lib} (h : CanJoin node env (.initial lighthouses) request)
    (src : SocketAddr) :
    (run node lighthouses [.datagram env src request.initiate.msg]).state =
      joined node env (.initial lighthouses) src request := h.step_eq hlib src

end Offers

namespace Sample

noncomputable def west : Node (transparent pair) := node pair "alice" 1

noncomputable def east : Node (transparent pair) := node pair "bob" 2

def answering : Env := env 0 2 ⟨2, Core.Sample.two_ne⟩

noncomputable def hail : Request (transparent pair) :=
  request pair "alice" 1 ⟨1, Core.Sample.one_ne⟩ false

theorem welcome_hail : hail.Welcome east answering.unixTime :=
  welcome_request "bob" 2 List.mem_cons_self (by decide) (by decide) _ false
    (show timestampValid 1000 answering.unixTime by decide) (by decide) (by decide)

noncomputable def hailed : NewSession :=
  responseSession (transparent pair) (.initial []) Core.Sample.source
    (hail.answer east answering)

noncomputable def westPeer : PeerState := newPeer east answering.now hailed none

noncomputable def eastPeer : PeerState :=
  { westPeer with
    txKey := westPeer.rxKey
    rxKey := westPeer.txKey
    txSessionId := westPeer.rxSessionId
    rxSessionId := westPeer.txSessionId }

theorem mirrored_call : Mirrored eastPeer westPeer := ⟨rfl, rfl, rfl, rfl⟩

noncomputable def atWest : NodeState :=
  { NodeState.initial [] with
    peers := (∅ : AssocMap UInt32 PeerState).insert east.ourId eastPeer
    routes := RouteTable.new.insertAll east.localNetworks east.ourId }

noncomputable def atEast : NodeState :=
  joined east answering (.initial []) Core.Sample.source hail

theorem run_atEast :
    (run east [] [.datagram answering Core.Sample.source hail.initiate.msg]).state = atEast :=
  CanJoin.state_run (transparent_correct pair) ⟨welcome_hail, rfl, rfl⟩ Core.Sample.source

theorem lookup_atEast : atEast.peers.lookup hailed.id = some westPeer :=
  @lookup_joined_self _ east answering (.initial []) Core.Sample.source hail

theorem session_atEast : atEast.rxSessions.lookup westPeer.rxSessionId = some hailed.id := by
  unfold atEast joined
  exact lookup_rxSessions_withSession east _ _ _

theorem listens_atEast : Listens hailed.id westPeer [] atEast :=
  ⟨session_atEast, westPeer, lookup_atEast, rfl, rfl, ReplayWindow.represents_new⟩

theorem overlayPeer_atWest {packet : ByteString}
    (hdst : parseDestIp packet = some (.v4 (address 2))) :
    overlayPeer atWest [] packet = some east.ourId := by
  have hroutes : atWest.routes = RouteTable.new.insertAll
      [⟨.v4 (address 2), 32, Nat.le_refl 32⟩] east.ourId := by
    unfold atWest
    rw [show east.localNetworks = _ from localNetworks_node pair "bob" 2]
  unfold overlayPeer
  rw [hdst, hroutes]
  rfl

theorem source_west {packet : ByteString}
    (hsrc : parseSourceIp packet = some (.v4 (address 1))) :
    peerAllowsIpPacketSource westPeer packet = true := by
  have hroutes : westPeer.routes = [⟨.v4 (address 1), 32, Nat.le_refl 32⟩] :=
    authorizedPeerRoutes_cert pair "alice" 1
  unfold peerAllowsIpPacketSource
  rw [hsrc, hroutes]
  decide

theorem destination_east {packet : ByteString}
    (hdst : parseDestIp packet = some (.v4 (address 2))) :
    acceptsDestination east packet = true := by
  unfold acceptsDestination
  rw [show east.localNetworks = _ from localNetworks_node pair "bob" 2, hdst]
  decide

noncomputable def sealed : SealedData where
  seq := 1
  ipPacket := ipPacket
  wire := dataWire west answering east.ourId eastPeer ipPacket

noncomputable def reading : Move := .sender (.tunPacket answering [] ipPacket)

noncomputable def arriving : Move :=
  .receiver (.datagram answering Core.Sample.source sealed.wire)

theorem step_reading : Tunnel.step west east hailed.id westPeer.rxKey ⟨atWest, atEast, [], []⟩ reading =
    ⟨(step west atWest (.tunPacket answering [] ipPacket)).1, atEast, [sealed], []⟩ := by
  have hsealed : sealedData west westPeer.rxKey atWest (.tunPacket answering [] ipPacket) =
      some sealed :=
    @sealedData_of_peer _ west answering atWest [] ipPacket east.ourId eastPeer
      (overlayPeer_atWest rfl) (AList.lookup_insert _)
  exact Tunnel.step_sender hsealed

end Sample

/-- Alice sends a packet and the network delivers it twice: bob writes it once. -/
theorem alice_tunnel :
    ∃ (lib : Primitives) (sender receiver : Node lib) (id : UInt32) (peer : PeerState)
      (st : NodeState) (events : List Event) (moves : List Move) (reached : Tunnel),
      (run receiver [] events).state.peers.lookup id = some peer ∧
        Guarded (Tunnel.step sender receiver id peer.rxKey) (Tunnel.Permits receiver id peer.rxKey)
          ⟨st, (run receiver [] events).state, [], []⟩ moves ∧
        reached = runAll (Tunnel.step sender receiver id peer.rxKey)
          ⟨st, (run receiver [] events).state, [], []⟩ moves ∧
        moves.length = 3 ∧ reached.written = [(1, Sample.ipPacket)] ∧ reached.channel.Reachable := by
  have hlib := transparent_correct Sample.pair
  have hnetwork : Sample.west.networkKey = Sample.east.networkKey := rfl
  have hreceives := fun st log hlistens => @listens_step _ Sample.west Sample.east st
    Sample.hailed.id Sample.eastPeer Sample.westPeer hlib log hlistens rfl rfl hnetwork rfl
    Sample.answering Sample.answering Core.Sample.source Sample.ipPacket (by decide)
    (Sample.source_west rfl) (Sample.destination_east rfl)
  have hpermits : ∀ st st' written, Tunnel.Permits Sample.east Sample.hailed.id Sample.westPeer.rxKey
      ⟨st, st', [Sample.sealed], written⟩ Sample.arriving := fun st st' written =>
    permits_copy hlib hnetwork (List.mem_singleton_self _) rfl _ _ _ _
  obtain ⟨-, st', hfirst, hlistens⟩ | ⟨hold, -⟩ := hreceives _ _ Sample.listens_atEast
  · obtain ⟨⟨hnew, -⟩, -⟩ | ⟨-, hsecond⟩ := hreceives _ _ hlistens
    · exact absurd List.mem_cons_self hnew
    have hrun : Guarded (Tunnel.step Sample.west Sample.east Sample.hailed.id Sample.westPeer.rxKey)
        (Tunnel.Permits Sample.east Sample.hailed.id Sample.westPeer.rxKey)
        ⟨Sample.atWest, Sample.atEast, [], []⟩ [Sample.reading, Sample.arriving, Sample.arriving] ∧
        runAll (Tunnel.step Sample.west Sample.east Sample.hailed.id Sample.westPeer.rxKey)
          ⟨Sample.atWest, Sample.atEast, [], []⟩
          [Sample.reading, Sample.arriving, Sample.arriving] = _ :=
      guarded_cons_of_step Sample.step_reading (permits_read (by decide))
        (guarded_cons_of_step (Tunnel.step_receiver hfirst) (hpermits _ _ _)
          (guarded_cons_of_step (Tunnel.step_receiver hsecond) (hpermits _ _ _) ⟨trivial, rfl⟩))
    obtain ⟨hguarded, hreached⟩ := hrun
    have hrefines := Tunnel.refines_channel hlib hnetwork []
      [.datagram Sample.answering Core.Sample.source Sample.hail.initiate.msg]
      (by rw [Sample.run_atEast]; exact Sample.lookup_atEast) Sample.atWest
      (by rw [Sample.run_atEast]; exact hguarded) _ rfl
    refine ⟨_, _, _, _, _, _, _, _, _, ?_, ?_, rfl, rfl, ?_, hrefines.1⟩
    · rw [Sample.run_atEast]
      exact Sample.lookup_atEast
    · rw [Sample.run_atEast]
      exact hguarded
    · rw [Sample.run_atEast, hreached]
      simp only [deliveries_accepted, ↓reduceIte]
      rfl
  · exact absurd ⟨List.not_mem_nil, by simp [ReplayWindow.maxAccepted]⟩ hold

end Liteway.Daemon
