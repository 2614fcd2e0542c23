import Liteway.Core.Fragmenter
import Liteway.Core.HandshakeRoundTrip
import Liteway.Core.SessionPacket
import Liteway.Core.Transparent
import Liteway.Daemon.Run

/-!
# Honest messages arrive

What an honest node sends reaches the handler it is meant for: a request is
answered and its session offered, and an authorized data packet of a live
session is written to the TUN device.
-/

namespace Liteway.Daemon

open Liteway.Library Liteway.Core

section Dispatch

variable {lib : Primitives} {node : Node lib}

theorem relayTarget_of_header {data : ByteString} {header : NetworkHeader}
    (hheader : networkHeader lib data node.networkKey = some header)
    (hdst : header.dstPeerId = 0 ∨ header.dstPeerId = node.ourId) : relayTarget node data = none := by
  unfold relayTarget
  simp only [hheader]
  rw [if_neg]
  rintro ⟨hzero, hother⟩
  obtain h | h := hdst
  · exact hzero h
  · exact hother h

theorem wholePacket_of_header (env : Env) (st : NodeState) (src : SocketAddr) {data : ByteString}
    {header : NetworkHeader} (hheader : networkHeader lib data node.networkKey = some header)
    (hkind : header.kind ≠ kindHandshakeFrag)
    (hdst : header.dstPeerId = 0 ∨ header.dstPeerId = node.ourId) :
    wholePacket node env st src data = some data ∧ afterFeed node env st src data = st := by
  have hfeed : st.assembler.feed lib env.now src data node.networkKey =
      (.notFragment, st.assembler) := by
    unfold FragmentAssembler.feed
    rw [openFragment_of_kind_ne hheader hkind]
  unfold wholePacket afterFeed
  rw [relayTarget_of_header hheader hdst, hfeed]
  exact ⟨rfl, rfl⟩

theorem handleDatagram_of_header (env : Env) (st : NodeState) (src : SocketAddr) {data : ByteString}
    {header : NetworkHeader} (hheader : networkHeader lib data node.networkKey = some header)
    (hkind : header.kind ≠ kindHandshakeFrag)
    (hdst : header.dstPeerId = 0 ∨ header.dstPeerId = node.ourId) :
    handleDatagram node env st src data = handlePacket node env st src data := by
  obtain ⟨hpacket, hfed⟩ := wholePacket_of_header env st src hheader hkind hdst
  rw [handleDatagram_of_wholePacket hpacket, hfed]

/-- A message leaves if the socket works and it needs no more than 255 fragments. -/
def leaves (node : Node lib) (env : Env) (msg : ByteString) : Bool :=
  divCeil msg.length (node.maxDatagram - packetOverhead) ≤ 255 && env.socketOk

theorem leaves_iff {env : Env} {msg : ByteString} :
    leaves node env msg = true ↔
      divCeil msg.length (node.maxDatagram - packetOverhead) ≤ 255 ∧ env.socketOk = true := by
  simp [leaves]

theorem leaves_of_default (hmax : node.maxDatagram = defaultMaxDatagram) {env : Env}
    (hsocket : env.socketOk = true) {msg : ByteString} (hlen : msg.length ≤ 10000) :
    leaves node env msg = true := by
  refine leaves_iff.mpr ⟨?_, hsocket⟩
  rw [hmax]
  change (msg.length + (1200 - packetOverhead) - 1) / (1200 - packetOverhead) ≤ 255
  simp only [packetOverhead, maskNonceLen, networkHeaderLen, nonceLen, aeadTagLen]
  omega

theorem sendMessageWithId_sent (env : Env) (msg : ByteString) (addr : SocketAddr)
    (dstPeerId msgId : UInt32) :
    (sendMessageWithId node env msg addr dstPeerId msgId).1 = leaves node env msg := by
  unfold sendMessageWithId leaves
  by_cases hfits : fragmentTotal msg node.maxDatagram ≤ 255
  · have hcount := (Nat.max_le.mp hfits).1
    rw [sendFragmentedWithId_eq_ok node.minDatagram_le hfits]
    cases env.socketOk <;> simp [hcount]
  · have hcount : ¬ divCeil msg.length (node.maxDatagram - packetOverhead) ≤ 255 := by
      intro h
      exact hfits (Nat.max_le.mpr ⟨h, by decide⟩)
    rw [sendFragmentedWithId_eq_tooManyChunks node.minDatagram_le hfits]
    simp [hcount]

end Dispatch

/-! ## Requests -/

/-- A handshake_1 and all that its creator put into it. -/
structure Request (lib : Primitives) where
  identity : Identity lib
  networkKey : NetworkKey
  coins : InitiatorCoins
  created : UInt64
  relayFlag : Bool

namespace Request

variable {lib : Primitives}

def initiate (request : Request lib) : HandshakeInitiate :=
  createHandshake1 lib request.coins request.created request.identity.cert
    request.identity.signingKey request.networkKey request.relayFlag

def plain (request : Request lib) : Handshake1Plain :=
  requestPlain lib request.coins request.identity.cert request.relayFlag

def answer (request : Request lib) (node : Node lib) (env : Env) : HandshakeResponse :=
  respond lib (env.rand []).responder env.unixTime request.initiate.msg node.cert node.signingKey
    node.networkKey node.amRelay request.plain

/-- A node of the same network with a valid certificate, asking at a time the
receiver agrees with. -/
structure Welcome (request : Request lib) (node : Node lib) (now : UInt64) : Prop where
  network : request.networkKey = node.networkKey
  short : (lib.certToVec request.identity.cert).length < 2 ^ 32
  clock : timestampValid request.created now
  certified : request.identity.cert.verify lib node.caVk now = true
  foreign : nodeIdFromCert lib request.identity.cert ≠ node.ourId

theorem networkHeader_initiate (hlib : lib.Correct) (request : Request lib) :
    networkHeader lib request.initiate.msg request.networkKey =
      some { kind := kindHandshake1, fragIndex := 0, fragTotal := 0, dstPeerId := 0,
             sessionId := request.coins.rxSessionId.value } :=
  networkHeader_createHandshake1 hlib _ _ _ _ _ _

theorem Welcome.networkHeader (hlib : lib.Correct) {request : Request lib} {node : Node lib}
    {now : UInt64} (h : request.Welcome node now) :
    Core.networkHeader lib request.initiate.msg node.networkKey =
      some { kind := kindHandshake1, fragIndex := 0, fragTotal := 0, dstPeerId := 0,
             sessionId := request.coins.rxSessionId.value } := by
  rw [← h.network]
  exact networkHeader_initiate hlib request

theorem processHandshake1_initiate (hlib : lib.Correct) {request : Request lib} {node : Node lib}
    {env : Env} (h : request.Welcome node env.unixTime) :
    processHandshake1 lib (env.rand []).responder env.unixTime request.initiate.msg node.cert
      node.signingKey node.networkKey node.caVk node.amRelay = .ok (request.answer node env) := by
  unfold answer initiate
  rw [← h.network]
  exact processHandshake1_createHandshake1 hlib _ _ _ _ request.identity _ _ _ _ _ _ h.short h.clock
    h.certified

theorem offered_initiate (hlib : lib.Correct) {request : Request lib} {node : Node lib}
    {env : Env} (h : request.Welcome node env.unixTime) {st : NodeState}
    (hcache : st.handshakeCache.get (lib.blake3Hash request.initiate.msg) env.now = none)
    (src : SocketAddr) :
    offered node env st src request.initiate.msg =
      some (responseSession lib st src (request.answer node env)) := by
  have hheader := h.networkHeader hlib
  unfold offered requested
  simp only [hheader, ↓reduceIte, hcache, processHandshake1_initiate hlib h]
  exact if_neg h.foreign

theorem wholePacket_initiate (hlib : lib.Correct) {request : Request lib} {node : Node lib}
    {now : UInt64} (h : request.Welcome node now) (env : Env) (st : NodeState) (src : SocketAddr) :
    wholePacket node env st src request.initiate.msg = some request.initiate.msg := by
  have hheader := h.networkHeader hlib
  have hkind : kindHandshake1 ≠ kindHandshakeFrag := by decide
  exact (wholePacket_of_header env st src hheader hkind (Or.inl rfl)).1

theorem handleDatagram_initiate (hlib : lib.Correct) {request : Request lib} {node : Node lib}
    {env : Env} (h : request.Welcome node env.unixTime) {st : NodeState}
    (hcache : st.handshakeCache.get (lib.blake3Hash request.initiate.msg) env.now = none)
    (src : SocketAddr) :
    handleDatagram node env st src request.initiate.msg =
      installResponse node env st src (lib.blake3Hash request.initiate.msg)
        (request.answer node env) := by
  have hheader := h.networkHeader hlib
  have hkind : kindHandshake1 ≠ kindHandshakeFrag := by decide
  rw [handleDatagram_of_header env st src hheader hkind (Or.inl rfl)]
  unfold handlePacket
  simp only [hheader, ↓reduceIte]
  unfold handleHandshake1
  simp only [hcache, processHandshake1_initiate hlib h]
  exact if_neg h.foreign

end Request

section Install

variable {lib : Primitives} {node : Node lib}

theorem acceptsSession_of_absent {session : NewSession} {peers : AssocMap UInt32 PeerState}
    (habsent : peers.lookup session.id = none) : acceptsSession node session peers = true := by
  unfold acceptsSession acceptHandshakeSession
  rw [habsent]
  split <;> rfl

theorem acceptsSession_of_not_simultaneous {session : NewSession}
    {peers : AssocMap UInt32 PeerState} (hone : session.simultaneous = false) :
    acceptsSession node session peers = true := by
  unfold acceptsSession acceptHandshakeSession
  rw [hone]
  rfl

theorem installResponse_of_accepts {env : Env} {st : NodeState} {src : SocketAddr}
    {digest : Bytes 32} {response : HandshakeResponse}
    (haccept : acceptsSession node (responseSession lib st src response) st.peers = true) :
    (installResponse node env st src digest response).1 =
      withSession node env.now (responseSession lib st src response)
        { st with
          handshakeCache := st.handshakeCache.insert digest response.msg
            (nodeIdFromCert lib response.peerCert) env.now } := by
  have hadded : addPeer node env.now { st with
      handshakeCache := st.handshakeCache.insert digest response.msg
        (nodeIdFromCert lib response.peerCert) env.now } (responseSession lib st src response) = _ :=
    addPeer_of_accepts haccept
  exact congrArg (fun out => out.2.1) hadded

theorem installResponse_of_not_accepts {env : Env} {st : NodeState} {src : SocketAddr}
    {digest : Bytes 32} {response : HandshakeResponse}
    (haccept : acceptsSession node (responseSession lib st src response) st.peers = false) :
    (installResponse node env st src digest response).1 =
      { st with
        handshakeCache := st.handshakeCache.insert digest response.msg
          (nodeIdFromCert lib response.peerCert) env.now } := by
  have hkept : addPeer node env.now { st with
      handshakeCache := st.handshakeCache.insert digest response.msg
        (nodeIdFromCert lib response.peerCert) env.now } (responseSession lib st src response) = _ :=
    addPeer_of_not_accepts haccept
  exact congrArg (fun out => out.2.1) hkept

end Install

/-! ## Opening a session -/

section Opening

variable {lib : Primitives} {node : Node lib}

theorem opening_state (hlib : lib.Correct) {request : Request lib} {env : Env}
    (h : request.Welcome node env.unixTime) (lighthouses : List LighthouseSlot)
    (src : SocketAddr) :
    (handleDatagram node env (.initial lighthouses) src request.initiate.msg).1 =
      withSession node env.now
        (responseSession lib (.initial lighthouses) src (request.answer node env))
        { NodeState.initial lighthouses with
          handshakeCache := HandshakeCache.new.insert (lib.blake3Hash request.initiate.msg)
            (request.answer node env).msg (nodeIdFromCert lib request.identity.cert) env.now } := by
  have hcache : (NodeState.initial lighthouses).handshakeCache.get
      (lib.blake3Hash request.initiate.msg) env.now = none := rfl
  rw [Request.handleDatagram_initiate hlib h hcache]
  exact installResponse_of_accepts (acceptsSession_of_absent rfl)

end Opening

/-! ## Data packets -/

section Data

variable {lib : Primitives} {node : Node lib}

theorem handlePacket_encryptPacket (hlib : lib.Correct) (env : Env) {st : NodeState}
    (src : SocketAddr) (coins : SealCoins) (padding : Padding) {sessionId peerId : UInt32}
    {peer : PeerState} {body : PacketBody} (hshort : body.Short lib)
    (htexts : body.TextsReadBack lib) (hsession : st.rxSessions.lookup sessionId = some peerId)
    (hlive : st.peers.lookup peerId = some peer)
    (hfresh : (peer.rxReplay.accept (packetSeq body)).1 = true) :
    handlePacket node env st src (serializePacket
        (encryptPacket lib coins padding node.ourId sessionId node.networkKey peer.rxKey body)) =
      ((handleBody node env (afterAccept env st src peerId peer body) src peerId body).1,
        .accepted peerId (packetSeq body) ::
          (handleBody node env (afterAccept env st src peerId peer body) src peerId body).2) := by
  have hheader := networkHeader_encryptPacket hlib coins padding node.ourId sessionId
    node.networkKey peer.rxKey body
  have hdecrypt := decryptPacket_encryptPacket hlib coins padding node.ourId sessionId
    node.networkKey peer.rxKey hshort htexts
  obtain ⟨hfirst, hsecond, -⟩ := body.kind_ne
  unfold handlePacket
  simp only [hheader, hfirst, hsecond, ↓reduceIte, ne_eq, not_true_eq_false, and_false]
  unfold handleSessionPacket
  simp only [hsession, hlive, hdecrypt, hfresh, ne_eq, not_true_eq_false, ↓reduceIte,
    Bool.not_true, Bool.false_eq_true]
  rfl

theorem handleDatagram_encryptPacket (hlib : lib.Correct) (env : Env) {st : NodeState}
    (src : SocketAddr) (coins : SealCoins) (padding : Padding) {sessionId peerId : UInt32}
    {peer : PeerState} {body : PacketBody} (hshort : body.Short lib)
    (htexts : body.TextsReadBack lib) (hsession : st.rxSessions.lookup sessionId = some peerId)
    (hlive : st.peers.lookup peerId = some peer)
    (hfresh : (peer.rxReplay.accept (packetSeq body)).1 = true) :
    handleDatagram node env st src (serializePacket
        (encryptPacket lib coins padding node.ourId sessionId node.networkKey peer.rxKey body)) =
      ((handleBody node env (afterAccept env st src peerId peer body) src peerId body).1,
        .accepted peerId (packetSeq body) ::
          (handleBody node env (afterAccept env st src peerId peer body) src peerId body).2) := by
  have hheader := networkHeader_encryptPacket hlib coins padding node.ourId sessionId
    node.networkKey peer.rxKey body
  rw [handleDatagram_of_header env st src hheader body.kind_ne.2.2 (Or.inr rfl)]
  exact handlePacket_encryptPacket hlib env src coins padding hshort htexts hsession hlive hfresh

theorem tunWrite_of_authorized (hlib : lib.Correct) {env : Env} {st : NodeState} {src : SocketAddr}
    {coins : SealCoins} {padding : Padding} {seq : UInt64} {sessionId peerId : UInt32}
    {peer : PeerState} {ipPacket : ByteString} (hlen : ipPacket.length < 2 ^ 32)
    (hsession : st.rxSessions.lookup sessionId = some peerId)
    (hlive : st.peers.lookup peerId = some peer) (hfresh : (peer.rxReplay.accept seq).1 = true)
    (hsource : peerAllowsIpPacketSource peer ipPacket = true)
    (hdestination : acceptsDestination node ipPacket = true)
    (htun : node.ifaceName.isSome = true) :
    .tunWrite ipPacket ∈ (handleDatagram node env st src (serializePacket
      (encryptDataPacket lib coins padding seq node.ourId sessionId ipPacket node.networkKey
        peer.rxKey))).2 := by
  have hshort : (PacketBody.data seq ipPacket).Short lib := by
    intro payload hpayload
    rw [List.mem_singleton.mp hpayload]
    exact hlen
  have hsame := SameSession.receive peer
    (peer.rxReplay.accept (packetSeq (.data seq ipPacket))).2 src env.now
    (srcIsRelay st peerId peer src) (PacketBody.isKeepalive (.data seq ipPacket))
  unfold encryptDataPacket
  rw [handleDatagram_encryptPacket hlib env src coins padding hshort trivial hsession hlive hfresh]
  refine List.mem_cons_of_mem _ (mem_handleData_iff.mpr ⟨rfl, ?_, hdestination, htun⟩)
  refine ⟨_, AList.lookup_insert _, ?_⟩
  unfold peerAllowsIpPacketSource
  rw [hsame.routes]
  exact hsource

theorem tunWrite_after_opening (hlib : lib.Correct) {request : Request lib} (env : Env)
    (h : request.Welcome node env.unixTime) (lighthouses : List LighthouseSlot)
    (src : SocketAddr) (env' : Env) (src' : SocketAddr) (coins : SealCoins) (padding : Padding)
    (seq : UInt64) {ipPacket : ByteString} (hlen : ipPacket.length < 2 ^ 32) {srcIp : IpAddr}
    (hsrc : parseSourceIp ipPacket = some srcIp) {route : IpNetwork}
    (hroute : route ∈ authorizedPeerRoutes lib request.identity.cert)
    (hcontains : route.contains srcIp = true)
    (hdestination : acceptsDestination node ipPacket = true)
    (htun : node.ifaceName.isSome = true) :
    .tunWrite ipPacket ∈ (handleDatagram node env'
      (run node lighthouses [.datagram env src request.initiate.msg]).state src'
      (serializePacket (encryptDataPacket lib coins padding seq node.ourId
        (env.rand []).responder.rxSessionId.value ipPacket node.networkKey
        (deriveTrafficKey lib (request.answer node env).sessionKey
          (nodeIdFromCert lib request.identity.cert) node.ourId)))).2 := by
  have hstate := opening_state hlib h lighthouses src
  have hkey : deriveTrafficKey lib (request.answer node env).sessionKey
      (nodeIdFromCert lib request.identity.cert) node.ourId = (newPeer node env.now
        (responseSession lib (.initial lighthouses) src (request.answer node env)) none).rxKey := rfl
  have hsource : peerAllowsIpPacketSource (newPeer node env.now
      (responseSession lib (.initial lighthouses) src (request.answer node env)) none) ipPacket =
      true := by
    unfold peerAllowsIpPacketSource
    rw [hsrc]
    exact List.any_eq_true.mpr ⟨route, hroute, hcontains⟩
  have hrun : (run node lighthouses [.datagram env src request.initiate.msg]).state = _ := hstate
  rw [hrun, hkey]
  apply tunWrite_of_authorized hlib hlen (lookup_rxSessions_withSession node _ _ _) _ rfl hsource
    hdestination htun
  exact AList.lookup_insert _

end Data

/-! ## Sample nodes -/

namespace Sample

private theorem slice_of_bytes {hash : Bytes 32} {n : UInt8}
    (h : ∀ (i : Nat) (hi : i < 4), hash[i] = n) :
    Bytes.slice hash.toList 0 4 (by simp) = Vector.replicate 4 n := by
  apply Vector.ext
  intro i hi
  simp only [Bytes.slice, List.drop_zero, Vector.getElem_mk, List.getElem_toArray,
    List.getElem_take, Vector.getElem_toList, Vector.getElem_replicate]
  exact h i hi

theorem nodeIdFromCert_of_spread (known : List Cert) {cert : Cert} {n : UInt8}
    (hkey : cert.body.keys.mlDsaPk = spread 1952 (Vector.replicate 32 n)) :
    nodeIdFromCert (transparent known) cert = decodeU32BE (Vector.replicate 4 n) := by
  have hhash : ∀ (label : ByteString) (i : Nat) (hi : i < 4),
      (digest (label ++ (spread 1952 (Vector.replicate 32 n)).toList))[i] = n := by
    intro label i hi
    rw [digest_end label _ (Nat.lt_trans hi (by decide)) (by decide)]
    simp [spread]
  unfold nodeIdFromCert
  simp only [← List.append_assoc, hkey]
  exact congrArg decodeU32BE (slice_of_bytes (hhash _))

theorem nodeIdFromCert_cert (known : List Cert) (name : String) (n : UInt8) :
    nodeIdFromCert (transparent known) (Core.Sample.cert name n) =
      decodeU32BE (Vector.replicate 4 n) :=
  nodeIdFromCert_of_spread known rfl

def address (n : UInt8) : BitVec 32 := if n = 1 then 0x0A000001#32 else 0x0A000002#32

theorem authorizedPeerRoutes_cert (known : List Cert) (name : String) (n : UInt8) :
    authorizedPeerRoutes (transparent known) (Core.Sample.cert name n) =
      [⟨.v4 (address n), 32, Nat.le_refl 32⟩] := by
  have hhost : ∀ n : UInt8, hostRoute (transparent known)
      (if n = 1 then "10.0.0.1/24" else "10.0.0.2/24") =
      some ⟨.v4 (address n), 32, Nat.le_refl 32⟩ := by
    intro n
    unfold address
    split <;> rfl
  unfold authorizedPeerRoutes
  simp only [Core.Sample.cert, Core.Sample.certBody, hhost]
  simp

noncomputable def node (known : List Cert) (name : String) (n : UInt8) : Node (transparent known) where
  cert := Core.Sample.cert name n
  signingKey := Core.Sample.signingKey n
  caVk := Core.Sample.caVk
  networkKey := Core.Sample.networkKey
  maxDatagram := defaultMaxDatagram
  minDatagram_le := minDatagram_le_default
  maxDatagram_le := Nat.le_refl _
  amLighthouse := false
  amRelay := false
  keepaliveEnabled := true
  timings := Timings.fromSecs 5 15 1 10 3
  ifaceName := some "lw0"

theorem localNetworks_node (known : List Cert) (name : String) (n : UInt8) :
    (node known name n).localNetworks = [⟨.v4 (address n), 32, Nat.le_refl 32⟩] :=
  authorizedPeerRoutes_cert known name n

noncomputable def request (known : List Cert) (name : String) (n : UInt8) (rxSessionId : SessionId)
    (relayFlag : Bool) : Request (transparent known) where
  identity := Core.Sample.identity known name n
  networkKey := Core.Sample.networkKey
  coins := Core.Sample.initiatorCoins n rxSessionId
  created := 1000
  relayFlag := relayFlag

/-- A call some seconds after the start, with all draws told apart by a byte. -/
def env (secs : Nat) (n : UInt8) (rxSessionId : SessionId) : Env where
  now := Duration.fromSecs secs
  unixTime := 1000 + UInt64.ofNat secs
  socketOk := true
  rand := fun _ =>
    { sealing := Core.Sample.sealingOf n
      padding := Core.Sample.padding
      word := 0
      token := 0
      initiator := Core.Sample.initiatorCoins n rxSessionId
      responder := Core.Sample.responderCoins n rxSessionId }

theorem welcome_request {known : List Cert} {name : String} {n : UInt8} (name' : String) (n' : UInt8)
    (hknown : Core.Sample.cert name n ∈ known) (hlen : known.length + name.length < 2 ^ 31)
    (hids : decodeU32BE (Vector.replicate 4 n) ≠ decodeU32BE (Vector.replicate 4 n'))
    (rxSessionId : SessionId) (relayFlag : Bool) {now : UInt64} (hclock : timestampValid 1000 now)
    (hbegun : ¬ now.toInt64 < 0) (hvalid : ¬ now.toInt64 > 1000000) :
    (request known name n rxSessionId relayFlag).Welcome (node known name' n') now where
  network := rfl
  short := Core.Sample.length_certToVec_lt hknown hlen
  clock := hclock
  certified := Core.Sample.verify_cert known name n hbegun hvalid
  foreign := by
    change nodeIdFromCert _ (Core.Sample.cert name n) ≠ nodeIdFromCert _ (Core.Sample.cert name' n')
    rw [nodeIdFromCert_cert, nodeIdFromCert_cert]
    exact hids

theorem digest_initiate_ne {lib : Primitives} {request request' : Request lib}
    (hnetwork : request.networkKey = request'.networkKey)
    (hne : request.coins.sealing.maskNonce ≠ request'.coins.sealing.maskNonce) :
    digest request.initiate.msg ≠ digest request'.initiate.msg := by
  intro h
  unfold Request.initiate at h
  rw [createHandshake1_msg, createHandshake1_msg, hnetwork] at h
  have hnonce := maskNonce_eq_of_digest fun i hi => by
    exact congrArg (fun bytes : Bytes 32 => bytes[16 + i]) h
  exact hne hnonce

theorem maskNonce_sealingOf_ne {n n' : UInt8} (hne : n ≠ n') :
    (Core.Sample.sealingOf n).maskNonce ≠ (Core.Sample.sealingOf n').maskNonce := by
  intro h
  have hbyte := congrArg (fun bytes : Bytes maskNonceLen => bytes[0]) h
  exact hne (by simpa [Core.Sample.sealingOf] using hbyte)

theorem digest_request_ne (known : List Cert) (name name' : String) {n n' : UInt8} (hne : n ≠ n')
    (rxSessionId rxSessionId' : SessionId) (relayFlag relayFlag' : Bool) :
    (transparent known).blake3Hash (request known name n rxSessionId relayFlag).initiate.msg ≠
      (transparent known).blake3Hash
        (request known name' n' rxSessionId' relayFlag').initiate.msg :=
  digest_initiate_ne rfl (maskNonce_sealingOf_ne hne)

noncomputable def pair : List Cert := [Core.Sample.cert "alice" 1, Core.Sample.cert "bob" 2]

end Sample

end Liteway.Daemon
