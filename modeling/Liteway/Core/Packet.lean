import Liteway.Core.Crypto
import Liteway.Library.Cursor

/-!
# Packets on the wire

Every datagram is a mask nonce, a masked 16-byte header, an AEAD nonce and a
ciphertext.  The header is readable with the network key alone; the mask nonce
and the masked header are the associated data of the ciphertext.
-/

namespace Liteway.Core

open Liteway.Library

abbrev maskNonceLen : Nat := 8
abbrev networkHeaderLen : Nat := 16
abbrev packetOverhead : Nat := maskNonceLen + networkHeaderLen + nonceLen + aeadTagLen
abbrev minPacketLen : Nat := packetOverhead

def kindData : UInt8 := 0x21
def kindRelayForward : UInt8 := 0x22
def kindDisconnect : UInt8 := 0x23
def kindLighthouseQuery : UInt8 := 0x24
def kindLighthouseResponse : UInt8 := 0x25
def kindLighthouseNotFound : UInt8 := 0x26
def kindKeepalive : UInt8 := 0x27
def kindKeepaliveAck : UInt8 := 0x28
def kindHandshake1 : UInt8 := 0x11
def kindHandshake2 : UInt8 := 0x12
def kindHandshakeFrag : UInt8 := 0x13

structure DataPacket where
  maskNonce : Bytes maskNonceLen
  maskedHeader : Bytes networkHeaderLen
  nonce : Bytes nonceLen
  ciphertext : ByteString
deriving DecidableEq

structure NetworkHeader where
  kind : UInt8
  fragIndex : UInt8
  fragTotal : UInt8
  dstPeerId : UInt32
  sessionId : UInt32
deriving DecidableEq

inductive PacketBody where
  | data (seq : UInt64) (ipPacket : ByteString)
  | relayForward (seq : UInt64) (nextPeerId : UInt32) (innerPacket : ByteString)
  | disconnect (seq : UInt64)
  | lighthouseQuery (seq : UInt64) (targetIp : IpAddr)
  | lighthouseResponse (seq : UInt64) (targetIp : IpAddr) (peerId : UInt32)
      (peerAddr : SocketAddr) (peerCert : Cert) (peerIsRelay : Bool)
  | lighthouseNotFound (seq : UInt64) (targetIp : IpAddr)
  | keepalive (seq : UInt64) (token : UInt64)
  | keepaliveAck (seq : UInt64) (token : UInt64)
deriving DecidableEq

/-- The random choices of one sealed packet. -/
structure SealCoins where
  maskNonce : Bytes maskNonceLen
  nonce : Bytes nonceLen

/-- Random trailing bytes; their number is a random byte modulo 32. -/
structure Padding where
  bytes : ByteString
  length_lt : bytes.length < 32

/-! ## The masked header -/

def encodeHeader (header : NetworkHeader) : Bytes networkHeaderLen :=
  ⟨([header.kind, header.fragIndex, header.fragTotal, 0] ++ ((u32BE header.dstPeerId).toList ++
      ((u32BE header.sessionId).toList ++ [0, 0, 0, 0]))).toArray, by simp⟩

/-- The kinds a header may carry. -/
def knownKinds : List UInt8 :=
  [kindData, kindRelayForward, kindDisconnect, kindLighthouseQuery, kindLighthouseResponse,
    kindLighthouseNotFound, kindKeepalive, kindKeepaliveAck, kindHandshake1, kindHandshake2,
    kindHandshakeFrag]

def decodeHeader (bytes : Bytes networkHeaderLen) : Option NetworkHeader :=
  if bytes[3] ≠ 0 ∨ (Bytes.slice bytes.toList 12 4 (by simp [networkHeaderLen])).toList ≠ [0, 0, 0, 0] then none
  else if bytes[0] ∉ knownKinds then none
  else
    some {
      kind := bytes[0]
      fragIndex := bytes[1]
      fragTotal := bytes[2]
      dstPeerId := decodeU32BE (Bytes.slice bytes.toList 4 4 (by simp [networkHeaderLen]))
      sessionId := decodeU32BE (Bytes.slice bytes.toList 8 4 (by simp [networkHeaderLen])) }

section Codec

variable (lib : Primitives)

/-- The key stream a header is masked with; only its first 16 bytes are used. -/
def headerMask (maskNonce : Bytes maskNonceLen) (networkKey : NetworkKey) :
    Bytes networkHeaderLen :=
  let maskKey := deriveLabeledKey lib "liteway-network-header-mask-v1" networkKey.toList
  Bytes.slice (lib.blake3KeyedHash maskKey maskNonce.toList).toList 0 networkHeaderLen
    (by simp [networkHeaderLen])

def maskNetworkHeader (header : NetworkHeader) (maskNonce : Bytes maskNonceLen)
    (networkKey : NetworkKey) : Bytes networkHeaderLen :=
  Bytes.xor (encodeHeader header) (headerMask lib maskNonce networkKey)

def unmaskHeaderBytes (maskNonce : Bytes maskNonceLen) (maskedHeader : Bytes networkHeaderLen)
    (networkKey : NetworkKey) : Option NetworkHeader :=
  decodeHeader (Bytes.xor maskedHeader (headerMask lib maskNonce networkKey))

def unmaskHeader (pkt : DataPacket) (networkKey : NetworkKey) : Option NetworkHeader :=
  unmaskHeaderBytes lib pkt.maskNonce pkt.maskedHeader networkKey

def unmaskPacketHeader (pkt : DataPacket) (networkKey : NetworkKey) : Option NetworkHeader :=
  unmaskHeader lib pkt networkKey

def packetAad (pkt : DataPacket) : ByteString :=
  pkt.maskNonce.toList ++ pkt.maskedHeader.toList

def serializePacket (pkt : DataPacket) : ByteString :=
  pkt.maskNonce.toList ++ (pkt.maskedHeader.toList ++ (pkt.nonce.toList ++ pkt.ciphertext))

def deserializePacket (data : ByteString) : Option DataPacket :=
  if h : data.length < minPacketLen then none
  else
    some {
      maskNonce := Bytes.slice data 0 maskNonceLen (Nat.le_trans (by decide) (Nat.not_lt.mp h))
      maskedHeader := Bytes.slice data maskNonceLen networkHeaderLen (Nat.le_trans (by decide) (Nat.not_lt.mp h))
      nonce := Bytes.slice data (maskNonceLen + networkHeaderLen) nonceLen (Nat.le_trans (by decide) (Nat.not_lt.mp h))
      ciphertext := data.drop (maskNonceLen + networkHeaderLen + nonceLen) }

/-- Read the masked header straight off the wire, without building a packet. -/
def networkHeader (data : ByteString) (networkKey : NetworkKey) : Option NetworkHeader :=
  if h : data.length < minPacketLen then none
  else
    let maskNonce := Bytes.slice data 0 maskNonceLen (Nat.le_trans (by decide) (Nat.not_lt.mp h))
    let masked := Bytes.slice data maskNonceLen networkHeaderLen (Nat.le_trans (by decide) (Nat.not_lt.mp h))
    unmaskHeaderBytes lib maskNonce masked networkKey

/-! ## Session packets -/

def deriveTrafficKey (sessionKey : SessionKey) (srcId dstId : UInt32) : SessionKey :=
  deriveLabeledKey lib "liteway-traffic-key-v2"
    (sessionKey.toList ++ (u32BE srcId).toList ++ (u32BE dstId).toList)

def packetKey (sessionKey : SessionKey) : SessionKey :=
  deriveLabeledKey lib "liteway-packet-key-v2" sessionKey.toList

/-- `put_vec_u32`: the length field is the length modulo `2^32`. -/
def vecU32 (bytes : ByteString) : ByteString :=
  (u32BE (UInt32.ofNat bytes.length)).toList ++ bytes

/-- `seal` with its random nonces made explicit. -/
def sealPacket (coins : SealCoins) (kind : UInt8) (dstPeerId sessionId : UInt32)
    (networkKey : NetworkKey) (sessionKey : SessionKey) (plaintext : ByteString) : DataPacket :=
  let header : NetworkHeader :=
    { kind := kind, fragIndex := 0, fragTotal := 0, dstPeerId := dstPeerId, sessionId := sessionId }
  let maskedHeader := maskNetworkHeader lib header coins.maskNonce networkKey
  let pktForAad : DataPacket :=
    { maskNonce := coins.maskNonce, maskedHeader := maskedHeader, nonce := coins.nonce,
      ciphertext := [] }
  { pktForAad with
    ciphertext :=
      lib.aeadEncrypt (packetKey lib sessionKey) coins.nonce plaintext (packetAad pktForAad) }

/-- The kind byte a body is sent under. -/
def PacketBody.kind : PacketBody → UInt8
  | .data .. => kindData
  | .relayForward .. => kindRelayForward
  | .disconnect .. => kindDisconnect
  | .lighthouseQuery .. => kindLighthouseQuery
  | .lighthouseResponse .. => kindLighthouseResponse
  | .lighthouseNotFound .. => kindLighthouseNotFound
  | .keepalive .. => kindKeepalive
  | .keepaliveAck .. => kindKeepaliveAck

/-- The fields of a body as the `encrypt_*` functions write them after the kind
byte. -/
def PacketBody.fields : PacketBody → ByteString
  | .data seq ipPacket => (u64BE seq).toList ++ vecU32 ipPacket
  | .relayForward seq nextPeerId innerPacket =>
      (u64BE seq).toList ++ (u32BE nextPeerId).toList ++ vecU32 innerPacket
  | .disconnect seq => (u64BE seq).toList
  | .lighthouseQuery seq targetIp =>
      (u64BE seq).toList ++ vecU32 (lib.ipAddrToString targetIp).toUTF8.data.toList
  | .lighthouseResponse seq targetIp peerId peerAddr peerCert peerIsRelay =>
      (u64BE seq).toList ++ vecU32 (lib.ipAddrToString targetIp).toUTF8.data.toList ++
        (u32BE peerId).toList ++ vecU32 (lib.socketAddrToString peerAddr).toUTF8.data.toList ++
        vecU32 (lib.certToVec peerCert) ++ [if peerIsRelay then 1 else 0]
  | .lighthouseNotFound seq targetIp =>
      (u64BE seq).toList ++ vecU32 (lib.ipAddrToString targetIp).toUTF8.data.toList
  | .keepalive seq token => (u64BE seq).toList ++ (u64BE token).toList
  | .keepaliveAck seq token => (u64BE seq).toList ++ (u64BE token).toList

/-- The family of `encrypt_*_packet` functions: kind byte, fields, padding. -/
def encryptPacket (coins : SealCoins) (padding : Padding) (dstPeerId sessionId : UInt32)
    (networkKey : NetworkKey) (sessionKey : SessionKey) (body : PacketBody) : DataPacket :=
  sealPacket lib coins body.kind dstPeerId sessionId networkKey sessionKey
    (body.kind :: (body.fields lib ++ padding.bytes))

def encryptDataPacket (coins : SealCoins) (padding : Padding) (seq : UInt64)
    (dstPeerId sessionId : UInt32) (ipPacket : ByteString) (networkKey : NetworkKey)
    (sessionKey : SessionKey) : DataPacket :=
  encryptPacket lib coins padding dstPeerId sessionId networkKey sessionKey (.data seq ipPacket)

def encryptDisconnectPacket (coins : SealCoins) (padding : Padding) (seq : UInt64)
    (dstPeerId sessionId : UInt32) (networkKey : NetworkKey) (sessionKey : SessionKey) :
    DataPacket :=
  encryptPacket lib coins padding dstPeerId sessionId networkKey sessionKey (.disconnect seq)

def encryptRelayForwardPacket (coins : SealCoins) (padding : Padding) (seq : UInt64)
    (dstPeerId sessionId nextPeerId : UInt32) (innerPacket : ByteString) (networkKey : NetworkKey)
    (sessionKey : SessionKey) : DataPacket :=
  encryptPacket lib coins padding dstPeerId sessionId networkKey sessionKey
    (.relayForward seq nextPeerId innerPacket)

def encryptLighthouseQueryPacket (coins : SealCoins) (padding : Padding) (seq : UInt64)
    (dstPeerId sessionId : UInt32) (targetIp : IpAddr) (networkKey : NetworkKey)
    (sessionKey : SessionKey) : DataPacket :=
  encryptPacket lib coins padding dstPeerId sessionId networkKey sessionKey
    (.lighthouseQuery seq targetIp)

def encryptLighthouseResponsePacket (coins : SealCoins) (padding : Padding) (seq : UInt64)
    (dstPeerId sessionId : UInt32) (targetIp : IpAddr) (peerId : UInt32) (peerAddr : SocketAddr)
    (peerCert : Cert) (peerIsRelay : Bool) (networkKey : NetworkKey) (sessionKey : SessionKey) :
    DataPacket :=
  encryptPacket lib coins padding dstPeerId sessionId networkKey sessionKey
    (.lighthouseResponse seq targetIp peerId peerAddr peerCert peerIsRelay)

def encryptLighthouseNotFoundPacket (coins : SealCoins) (padding : Padding) (seq : UInt64)
    (dstPeerId sessionId : UInt32) (targetIp : IpAddr) (networkKey : NetworkKey)
    (sessionKey : SessionKey) : DataPacket :=
  encryptPacket lib coins padding dstPeerId sessionId networkKey sessionKey
    (.lighthouseNotFound seq targetIp)

def encryptKeepalivePacket (coins : SealCoins) (padding : Padding) (seq : UInt64)
    (dstPeerId sessionId : UInt32) (token : UInt64) (networkKey : NetworkKey)
    (sessionKey : SessionKey) : DataPacket :=
  encryptPacket lib coins padding dstPeerId sessionId networkKey sessionKey (.keepalive seq token)

def encryptKeepaliveAckPacket (coins : SealCoins) (padding : Padding) (seq : UInt64)
    (dstPeerId sessionId : UInt32) (token : UInt64) (networkKey : NetworkKey)
    (sessionKey : SessionKey) : DataPacket :=
  encryptPacket lib coins padding dstPeerId sessionId networkKey sessionKey
    (.keepaliveAck seq token)

def parseUtf8 (bytes : ByteString) : Option String := String.fromUTF8? ⟨bytes.toArray⟩

/-- The part of `decrypt_packet` that reads the fields of a known kind. -/
def readBody (kind : UInt8) (seq : UInt64) (rd : Cursor) : Option PacketBody :=
  if kind = kindData then do
    let (ipPacket, _) ← rd.vecU32
    pure (.data seq ipPacket)
  else if kind = kindRelayForward then do
    let (nextPeerId, rd) ← rd.u32
    let (innerPacket, _) ← rd.vecU32
    pure (.relayForward seq nextPeerId innerPacket)
  else if kind = kindDisconnect then
    pure (.disconnect seq)
  else if kind = kindLighthouseQuery then do
    let (text, _) ← rd.vecU32
    let targetIp ← lib.ipAddrParse (← parseUtf8 text)
    pure (.lighthouseQuery seq targetIp)
  else if kind = kindLighthouseResponse then do
    let (text, rd) ← rd.vecU32
    let targetIp ← lib.ipAddrParse (← parseUtf8 text)
    let (peerId, rd) ← rd.u32
    let (text, rd) ← rd.vecU32
    let peerAddr ← lib.socketAddrParse (← parseUtf8 text)
    let (certBytes, rd) ← rd.vecU32
    let peerCert ← lib.certFromSlice certBytes
    let (relay, _) ← rd.u8
    pure (.lighthouseResponse seq targetIp peerId peerAddr peerCert (relay != 0))
  else if kind = kindLighthouseNotFound then do
    let (text, _) ← rd.vecU32
    let targetIp ← lib.ipAddrParse (← parseUtf8 text)
    pure (.lighthouseNotFound seq targetIp)
  else if kind = kindKeepalive then do
    let (token, _) ← rd.u64
    pure (.keepalive seq token)
  else if kind = kindKeepaliveAck then do
    let (token, _) ← rd.u64
    pure (.keepaliveAck seq token)
  else
    none

def decryptPacket (data : ByteString) (networkKey : NetworkKey) (sessionKey : SessionKey) :
    Option (NetworkHeader × PacketBody) := do
  let pkt ← deserializePacket data
  let header ← unmaskHeader lib pkt networkKey
  let plaintext ← lib.aeadDecrypt (packetKey lib sessionKey) pkt.nonce pkt.ciphertext (packetAad pkt)
  let (kind, rd) ← (Cursor.start plaintext).u8
  let (seq, rd) ← rd.u64
  if kind ≠ header.kind then none
  else do
    let body ← readBody lib kind seq rd
    pure (header, body)

end Codec

end Liteway.Core
