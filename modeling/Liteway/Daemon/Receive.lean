import Liteway.Daemon.Node

/-!
# The receive path

From a datagram on the socket to the handlers: relaying, reassembly, the two
handshake messages, and the packets of an established session.
-/

namespace Liteway.Daemon

open Liteway.Library Liteway.Core

section Receive

variable {lib : Primitives} (node : Node lib)

def relayDatagram (st : NodeState) (data : ByteString) (dstPeerId : UInt32) : List Effect :=
  if !node.amRelay then []
  else
    match st.peers.lookup dstPeerId with
    | none => []
    | some peer => sendWire data peer.addr

/-! ## Handshakes -/

/-- The id under which every copy of an answer is fragmented. -/
def responseMsgId (digest : Bytes 32) : UInt32 :=
  decodeU32BE (Bytes.slice digest.toList 0 4 (by simp))

def responseSession (lib : Primitives) (st : NodeState) (src : SocketAddr) (response : HandshakeResponse) :
    NewSession :=
  let peerId := nodeIdFromCert lib response.peerCert
  let relayed := addrIsRelay st src
  let entry := AssocMap.find? (fun pending => pending.peerId = some peerId) st.pending
  { id := peerId
    sessionKey := response.sessionKey
    cert := response.peerCert
    addr := src
    directAddr := (entry.map PendingHandshake.directAddr).or (if relayed then none else some src)
    relayed := relayed
    isRelay := response.peerIsRelay
    txSessionId := response.peerRxSessionId
    rxSessionId := response.myRxSessionId
    initiatorId := peerId
    simultaneous := entry.isSome }

/-- What `handle_handshake_1` does with an accepted request. -/
def installResponse (env : Env) (st : NodeState) (src : SocketAddr) (digest : Bytes 32)
    (response : HandshakeResponse) : NodeState × List Effect :=
  let peerId := nodeIdFromCert lib response.peerCert
  let st := { st with
    handshakeCache := st.handshakeCache.insert digest response.msg peerId env.now }
  let (_, st, effects) := addPeer node env.now st (responseSession lib st src response)
  (st, effects ++
    (sendMessageWithId node env response.msg src peerId (responseMsgId digest)).2)

def handleHandshake1 (env : Env) (st : NodeState) (src : SocketAddr) (packet : ByteString) :
    NodeState × List Effect :=
  let digest := lib.blake3Hash packet
  match st.handshakeCache.get digest env.now with
  | some entry =>
      (noteDirectEndpoint st entry.peerId src,
        (sendMessageWithId node env entry.response src entry.peerId (responseMsgId digest)).2)
  | none =>
      match processHandshake1 lib (env.rand []).responder env.unixTime packet node.cert
          node.signingKey node.networkKey node.caVk node.amRelay with
      | .error _ => (st, [])
      | .ok response =>
          if nodeIdFromCert lib response.peerCert = node.ourId then (st, [])
          else installResponse node env st src digest response

def resultSession (st : NodeState) (src : SocketAddr) (handshake : PendingHandshake)
    (result : HandshakeResult) : NewSession :=
  let peerId := nodeIdFromCert lib result.peerCert
  { id := peerId
    sessionKey := result.sessionKey
    cert := result.peerCert
    addr := src
    directAddr := some handshake.directAddr
    relayed := src ≠ handshake.directAddr || addrIsRelay st src
    isRelay := result.peerIsRelay
    txSessionId := result.peerRxSessionId
    rxSessionId := result.myRxSessionId
    initiatorId := node.ourId
    simultaneous :=
      (st.peers.lookup peerId).any fun existing => existing.handshakeInitiatorId ≠ node.ourId }

def handleHandshake2 (env : Env) (st : NodeState) (src : SocketAddr) (packet : ByteString)
    (sessionId : UInt32) : NodeState × List Effect :=
  match st.pending.lookup sessionId with
  | none => (st, [])
  | some handshake =>
      match processHandshake2 lib env.unixTime packet handshake.initiate node.networkKey
          node.caVk with
      | .error _ => (st, [])
      | .ok result =>
          if handshake.peerId.any fun expected => expected ≠ nodeIdFromCert lib result.peerCert then
            (st, [])
          else
            let st := { st with pending := st.pending.erase sessionId }
            (addPeer node env.now st (resultSession node st src handshake result)).2

/-! ## Session packets -/

def packetSeq : PacketBody → UInt64
  | .data seq _ => seq
  | .relayForward seq _ _ => seq
  | .disconnect seq => seq
  | .lighthouseQuery seq _ => seq
  | .lighthouseResponse seq _ _ _ _ _ => seq
  | .lighthouseNotFound seq _ => seq
  | .keepalive seq _ => seq
  | .keepaliveAck seq _ => seq

def peerAllowsIpPacketSource (peer : PeerState) (packet : ByteString) : Bool :=
  match parseSourceIp packet with
  | none => false
  | some srcIp => peer.routes.any fun route => route.contains srcIp

def acceptsDestination (ipPacket : ByteString) : Bool :=
  if node.localNetworks.isEmpty then true
  else
    match parseDestIp ipPacket with
    | none => false
    | some dst =>
        if dst.isMulticast then true
        else node.localNetworks.any fun net => net.contains dst

/-- There is a TUN device exactly when an interface is configured. -/
def handleData (st : NodeState) (peerId : UInt32) (ipPacket : ByteString) : List Effect :=
  let allowed := (st.peers.lookup peerId).any fun peer => peerAllowsIpPacketSource peer ipPacket
  if !allowed then []
  else if !acceptsDestination node ipPacket then []
  else if node.ifaceName.isSome then [.tunWrite ipPacket]
  else []

def introduce (env : Env) (st : NodeState) (peerId : UInt32) (targetIp : IpAddr) (foundId : UInt32)
    (found : PeerState) : NodeState × List Effect :=
  match peerTx st peerId with
  | none => (st, [])
  | some (tx, st) =>
      let pkt := encryptLighthouseResponsePacket lib (env.rand []).sealing (env.rand []).padding
        tx.seq peerId tx.sessionId targetIp foundId found.addr found.cert found.isRelay
        node.networkKey tx.key
      (st, (sendMessage node (env.part 0) (serializePacket pkt) tx.addr peerId).2)

def handleLighthouseQuery (env : Env) (st : NodeState) (requesterId : UInt32) (targetIp : IpAddr) :
    NodeState × List Effect :=
  if !node.amLighthouse then (st, [])
  else
    match st.peers.lookup requesterId with
    | none => (st, [])
    | some requester =>
        let target := do
          let id ← st.routes.lookup targetIp
          let peer ← st.peers.lookup id
          pure (id, peer)
        match target with
        | some (foundId, found) =>
            let (st, answer) := introduce node (env.part 0) st requesterId targetIp foundId found
            if foundId = requesterId then (st, answer)
            else
              match primaryCertIp lib requester.cert with
              | none => (st, answer)
              | some requesterIp =>
                  let (st, introduction) :=
                    introduce node (env.part 1) st foundId requesterIp requesterId requester
                  (st, answer ++ introduction)
        | none =>
            match peerTx st requesterId with
            | none => (st, [])
            | some (tx, st) =>
                let pkt := encryptLighthouseNotFoundPacket lib (env.rand []).sealing
                  (env.rand []).padding tx.seq requesterId tx.sessionId targetIp node.networkKey
                  tx.key
                (st, (sendMessage node (env.part 0) (serializePacket pkt) tx.addr requesterId).2)

def handleLighthouseResponse (env : Env) (st : NodeState) (targetIp : IpAddr) (peerId : UInt32)
    (peerAddr : SocketAddr) (peerCert : Cert) : NodeState × List Effect :=
  if peerId = node.ourId then (st, [])
  else if !peerCert.verify lib node.caVk env.unixTime then (st, [])
  else if nodeIdFromCert lib peerCert ≠ peerId then (st, [])
  else if !(authorizedPeerRoutes lib peerCert).any fun route => route.contains targetIp then (st, [])
  else
    match st.peers.lookup peerId with
    | some peer => ({ st with peers := st.peers.insert peerId (learnDirectAddr peerAddr peer) }, [])
    | none => (startHandshake node env st peerAddr (some peerId) peerCert.body.info.name).2

def answerKeepalive (env : Env) (st : NodeState) (peerId : UInt32) (token : UInt64)
    (replyTo : SocketAddr) : NodeState × List Effect :=
  match peerTx st peerId with
  | none => (st, [])
  | some (tx, st) =>
      let pkt := encryptKeepaliveAckPacket lib (env.rand []).sealing (env.rand []).padding tx.seq
        peerId tx.sessionId token node.networkKey tx.key
      (st, sendWire (serializePacket pkt) replyTo)

def handleKeepaliveAck (env : Env) (st : NodeState) (peerId : UInt32) (token : UInt64) : NodeState :=
  match st.peers.lookup peerId with
  | none => st
  | some peer =>
      { st with peers := st.peers.insert peerId (peer.ackKeepalive token env.now).2 }

def handleBody (env : Env) (st : NodeState) (src : SocketAddr) (peerId : UInt32) :
    PacketBody → NodeState × List Effect
  | .data _ ipPacket => (st, handleData node st peerId ipPacket)
  | .lighthouseQuery _ targetIp => handleLighthouseQuery node env st peerId targetIp
  | .lighthouseResponse _ targetIp foundId peerAddr peerCert _ =>
      handleLighthouseResponse node env st targetIp foundId peerAddr peerCert
  | .lighthouseNotFound _ _ => (st, [])
  | .keepalive _ token => answerKeepalive node env st peerId token src
  | .keepaliveAck _ token => (handleKeepaliveAck env st peerId token, [])
  | .relayForward _ nextPeerId innerPacket =>
      if node.amRelay then (st, relayDatagram node st innerPacket nextPeerId) else (st, [])
  | .disconnect _ => removePeer node st peerId

def PacketBody.isKeepalive : PacketBody → Bool
  | .keepalive _ _ => true
  | _ => false

/-- A relay does not count as a relay for itself. -/
def srcIsRelay (st : NodeState) (peerId : UInt32) (peer : PeerState) (src : SocketAddr) : Bool :=
  peer.addr ≠ src &&
    AssocMap.any (fun id other => id ≠ peerId && other.isRelay && other.addr = src) st.peers

def PeerState.receive (peer : PeerState) (window : ReplayWindow) (src : SocketAddr) (now : Instant)
    (viaRelay isKeepalive : Bool) : PeerState :=
  ({ peer with rxReplay := window }.markSeen src now viaRelay isKeepalive).2

def handleSessionPacket (env : Env) (st : NodeState) (src : SocketAddr) (packet : ByteString)
    (header : NetworkHeader) : NodeState × List Effect :=
  match st.rxSessions.lookup header.sessionId with
  | none => (st, [])
  | some peerId =>
      match st.peers.lookup peerId with
      | none => (st, [])
      | some peer =>
          match decryptPacket lib packet node.networkKey peer.rxKey with
          | none => (st, [])
          | some (decodedHeader, body) =>
              if decodedHeader ≠ header then (st, [])
              else
                let (fresh, window) := peer.rxReplay.accept (packetSeq body)
                if !fresh then
                  ({ st with peers := st.peers.replace peerId { peer with rxReplay := window } }, [])
                else
                  let peer := peer.receive window src env.now (srcIsRelay st peerId peer src)
                    (PacketBody.isKeepalive body)
                  let st := { st with peers := st.peers.insert peerId peer }
                  let (st, effects) := handleBody node env st src peerId body
                  (st, .accepted peerId (packetSeq body) :: effects)

/-! ## Dispatch -/

def handlePacket (env : Env) (st : NodeState) (src : SocketAddr) (packet : ByteString) :
    NodeState × List Effect :=
  match networkHeader lib packet node.networkKey with
  | none => (st, [])
  | some header =>
      if header.kind = kindHandshake1 then handleHandshake1 node env st src packet
      else if header.kind = kindHandshake2 then
        handleHandshake2 node env st src packet header.sessionId
      else if header.dstPeerId ≠ 0 ∧ header.dstPeerId ≠ node.ourId then
        (st, relayDatagram node st packet header.dstPeerId)
      else handleSessionPacket node env st src packet header

def relayTarget (data : ByteString) : Option UInt32 :=
  match networkHeader lib data node.networkKey with
  | none => none
  | some header =>
      if header.dstPeerId ≠ 0 ∧ header.dstPeerId ≠ node.ourId then some header.dstPeerId else none

def handleDatagram (env : Env) (st : NodeState) (src : SocketAddr) (data : ByteString) :
    NodeState × List Effect :=
  match relayTarget node data with
  | some dstPeerId => (st, relayDatagram node st data dstPeerId)
  | none =>
      let (fed, assembler) := st.assembler.feed lib env.now src data node.networkKey
      let st := { st with assembler := assembler }
      match fed with
      | .complete message => handlePacket node env st src message
      | .buffered => (st, [])
      | .notFragment => handlePacket node env st src data

end Receive

end Liteway.Daemon
