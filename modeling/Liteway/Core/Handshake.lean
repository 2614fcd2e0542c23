import Liteway.Core.Packet
import Liteway.Library.Parsing

/-!
# The two-message handshake

The initiator signs its ephemeral keys and certificate; the responder answers
with its own, bound to the hash of the request as it was received.  Both
plaintexts carry random padding after the signature and are sealed under the
network key.  Random choices and clock readings are explicit arguments, one
clock reading per call.
-/

namespace Liteway.Core

open Liteway.Library

def handshakeVersion : UInt8 := 2
def flagRelay : UInt16 := 0x0001
def handshakeMaxClockSkewSecs : Nat := 300

inductive HandshakeError where
  | decryptFailed1
  | decryptFailed2
  | tooShort1
  | tooShort2
  | wrongKind
  | unsupportedVersion
  | clockSkew
  | fieldOutOfBounds
  | certFormat
  | transcriptMismatch
  | certVerification
  | signature
  | invalidMlKemKey
deriving DecidableEq

/-- The text of the error, up to the detail a library appends to it. -/
def HandshakeError.message : HandshakeError → String
  | .decryptFailed1 => "handshake 1 decrypt failed"
  | .decryptFailed2 => "handshake 2 decrypt failed"
  | .tooShort1 => "handshake 1 too short"
  | .tooShort2 => "handshake 2 too short"
  | .wrongKind => "wrong handshake kind"
  | .unsupportedVersion => "unsupported handshake version"
  | .clockSkew => "handshake timestamp outside allowed clock skew"
  | .fieldOutOfBounds => "field out of bounds"
  | .certFormat => ""
  | .transcriptMismatch => "handshake transcript mismatch"
  | .certVerification => "peer cert verification failed"
  | .signature => "peer handshake signature failed"
  | .invalidMlKemKey => "invalid peer ephemeral ML-KEM public key: "

/-- A session id is drawn again until it is not zero. -/
structure SessionId where
  value : UInt32
  ne_zero : value ≠ 0

/-- The random choices of `create_handshake_1`. -/
structure InitiatorCoins where
  ephX25519Sk : Bytes 32
  ephMlkemSeed : Bytes mlkemSkLen
  rxSessionId : SessionId
  random : Bytes 16
  padding : Padding
  sealing : SealCoins

/-- The random choices of `process_handshake_1`. -/
structure ResponderCoins where
  rxSessionId : SessionId
  ephX25519Sk : Bytes 32
  encapsulation : Bytes 32
  random : Bytes 16
  padding : Padding
  sealing : SealCoins

structure HandshakeInitiate where
  msg : ByteString
  ephX25519Sk : Bytes 32
  ephMlkemSk : Bytes mlkemSkLen
  myRxSessionId : UInt32
deriving DecidableEq

structure HandshakeResponse where
  msg : ByteString
  sessionKey : SessionKey
  peerCert : Cert
  peerIsRelay : Bool
  myRxSessionId : UInt32
  peerRxSessionId : UInt32
deriving DecidableEq

structure HandshakeResult where
  peerCert : Cert
  sessionKey : SessionKey
  peerEphX25519 : Bytes 32
  peerIsRelay : Bool
  myRxSessionId : UInt32
  peerRxSessionId : UInt32
deriving DecidableEq

structure Handshake1Plain where
  cert : Cert
  rxSessionId : UInt32
  ephX25519Pk : Bytes 32
  ephMlkemPk : Bytes mlkemPkLen
  peerIsRelay : Bool
deriving DecidableEq

structure Handshake2Plain where
  cert : Cert
  rxSessionId : UInt32
  ephX25519Pk : Bytes 32
  mlkemCt : Bytes mlkemCtLen
  peerIsRelay : Bool
deriving DecidableEq

/-! ## Sealing and opening -/

def handshakeHeaderAndPayload (plaintext : ByteString) : NetworkHeader × ByteString :=
  if h : 7 ≤ plaintext.length ∧ plaintext[0]? = some kindHandshakeFrag then
    ({ kind := kindHandshakeFrag
       fragIndex := plaintext[5]
       fragTotal := plaintext[6]
       dstPeerId := 0
       sessionId := decodeU32BE (Bytes.slice plaintext 1 4 (by omega)) },
      plaintext.drop 7)
  else
    ({ kind := plaintext[0]?.getD 0, fragIndex := 0, fragTotal := 0, dstPeerId := 0, sessionId := 0 },
      plaintext)

section Seal

variable (lib : Primitives)

def sealHandshakeWithHeader (coins : SealCoins) (networkKey : NetworkKey) (plaintext : ByteString)
    (dstPeerId sessionId : UInt32) : ByteString :=
  let (header, payload) := handshakeHeaderAndPayload plaintext
  let header := { header with dstPeerId := dstPeerId, sessionId := sessionId }
  let maskedHeader := maskNetworkHeader lib header coins.maskNonce networkKey
  let pktForAad : DataPacket :=
    { maskNonce := coins.maskNonce, maskedHeader := maskedHeader, nonce := coins.nonce,
      ciphertext := [] }
  let ct := lib.aeadEncrypt networkKey coins.nonce payload (packetAad pktForAad)
  coins.maskNonce.toList ++ (maskedHeader.toList ++ (coins.nonce.toList ++ ct))

def sealHandshakeToPeer (coins : SealCoins) (networkKey : NetworkKey) (plaintext : ByteString)
    (dstPeerId : UInt32) : ByteString :=
  let sessionId :=
    if h : 7 ≤ plaintext.length ∧ plaintext[0]? = some kindHandshakeFrag then
      decodeU32BE (Bytes.slice plaintext 1 4 (by omega))
    else
      0
  sealHandshakeWithHeader lib coins networkKey plaintext dstPeerId sessionId

def openHandshake (networkKey : NetworkKey) (data : ByteString) : Option ByteString := do
  let pkt ← deserializePacket data
  let header ← unmaskPacketHeader lib pkt networkKey
  let plaintext ← lib.aeadDecrypt networkKey pkt.nonce pkt.ciphertext (packetAad pkt)
  if header.kind = kindHandshakeFrag then
    if header.fragTotal = 0 ∨ header.fragIndex ≥ header.fragTotal then none
    else
      some (kindHandshakeFrag :: ((u32BE header.sessionId).toList ++
        (header.fragIndex :: header.fragTotal :: plaintext)))
  else if header.fragIndex ≠ 0 ∨ header.fragTotal ≠ 0 then none
  else if plaintext[0]? = some header.kind then some plaintext
  else none

end Seal

/-! ## Parsing -/

def timestampValid (timestamp now : UInt64) : Prop :=
  now.toNat - handshakeMaxClockSkewSecs ≤ timestamp.toNat ∧
    timestamp.toNat ≤ min (now.toNat + handshakeMaxClockSkewSecs) (2 ^ 64 - 1)

instance (timestamp now : UInt64) : Decidable (timestampValid timestamp now) :=
  inferInstanceAs (Decidable (_ ∧ _))

def validateTimestamp (timestamp now : UInt64) : Except HandshakeError Unit :=
  ensure (timestampValid timestamp now) .clockSkew

section Parse

variable (lib : Primitives)

def verifyPeerCertAndSig (cert : Cert) (caVk : HybridVerifyKey) (now : UInt64)
    (signed : ByteString) (sig : HybridSignature) : Except HandshakeError Unit := do
  ensure (cert.verify lib caVk now = true) .certVerification
  ensure (hybridVerify lib cert.verifyKey signed sig = true) .signature

def parseHandshake1 (data : ByteString) (caVk : HybridVerifyKey) (now : UInt64) :
    Except HandshakeError Handshake1Plain := do
  let rd := Cursor.start data
  let signedLen := 1 + 1 + 2 + 8 + 16 + 4 + 32 + mlkemPkLen
  ensure (signedLen + 4 + ed25519SigLen + mldsaSigLen ≤ data.length) .tooShort1
  let (kind, rd) ← orThrow .fieldOutOfBounds rd.u8
  ensure (kind = kindHandshake1) .wrongKind
  let (version, rd) ← orThrow .fieldOutOfBounds rd.u8
  ensure (version = handshakeVersion) .unsupportedVersion
  let (flags, rd) ← orThrow .fieldOutOfBounds rd.u16
  let (timestamp, rd) ← orThrow .fieldOutOfBounds rd.u64
  validateTimestamp timestamp now
  let (_, rd) ← orThrow .fieldOutOfBounds (rd.bytes 16)
  let (rxSessionId, rd) ← orThrow .fieldOutOfBounds rd.u32
  let (ephX25519Pk, rd) ← orThrow .fieldOutOfBounds (rd.array 32)
  let (ephMlkemPk, rd) ← orThrow .fieldOutOfBounds (rd.array mlkemPkLen)
  let (certBytes, rd) ← orThrow .fieldOutOfBounds rd.vecU32
  let cert ← orThrow .certFormat (lib.certFromSlice certBytes)
  let signed := rd.consumed
  let (ed25519, rd) ← orThrow .fieldOutOfBounds (rd.array ed25519SigLen)
  let (mlDsa, _) ← orThrow .fieldOutOfBounds (rd.array mldsaSigLen)
  verifyPeerCertAndSig lib cert caVk now signed ⟨ed25519, mlDsa⟩
  pure {
    cert := cert
    rxSessionId := rxSessionId
    ephX25519Pk := ephX25519Pk
    ephMlkemPk := ephMlkemPk
    peerIsRelay := flags &&& flagRelay != 0 }

def parseHandshake2 (data expectedHs1Msg : ByteString) (caVk : HybridVerifyKey) (now : UInt64) :
    Except HandshakeError Handshake2Plain := do
  let rd := Cursor.start data
  let signedLen := 1 + 1 + 2 + 8 + 16 + 4 + 32 + mlkemCtLen + 32
  ensure (signedLen + 4 + ed25519SigLen + mldsaSigLen ≤ data.length) .tooShort2
  let (kind, rd) ← orThrow .fieldOutOfBounds rd.u8
  ensure (kind = kindHandshake2) .wrongKind
  let (version, rd) ← orThrow .fieldOutOfBounds rd.u8
  ensure (version = handshakeVersion) .unsupportedVersion
  let (flags, rd) ← orThrow .fieldOutOfBounds rd.u16
  let (timestamp, rd) ← orThrow .fieldOutOfBounds rd.u64
  validateTimestamp timestamp now
  let (_, rd) ← orThrow .fieldOutOfBounds (rd.bytes 16)
  let (rxSessionId, rd) ← orThrow .fieldOutOfBounds rd.u32
  let (ephX25519Pk, rd) ← orThrow .fieldOutOfBounds (rd.array 32)
  let (mlkemCt, rd) ← orThrow .fieldOutOfBounds (rd.array mlkemCtLen)
  let (hs1Hash, rd) ← orThrow .fieldOutOfBounds (rd.array 32)
  ensure (hs1Hash = lib.blake3Hash expectedHs1Msg) .transcriptMismatch
  let (certBytes, rd) ← orThrow .fieldOutOfBounds rd.vecU32
  let cert ← orThrow .certFormat (lib.certFromSlice certBytes)
  let signed := rd.consumed
  let (ed25519, rd) ← orThrow .fieldOutOfBounds (rd.array ed25519SigLen)
  let (mlDsa, _) ← orThrow .fieldOutOfBounds (rd.array mldsaSigLen)
  verifyPeerCertAndSig lib cert caVk now signed ⟨ed25519, mlDsa⟩
  pure {
    cert := cert
    rxSessionId := rxSessionId
    ephX25519Pk := ephX25519Pk
    mlkemCt := mlkemCt
    peerIsRelay := flags &&& flagRelay != 0 }

end Parse

/-! ## The three steps -/

section Steps

variable (lib : Primitives)

def deriveSessionV2 (hybridSs hs1Msg hs2Msg : ByteString) : SessionKey :=
  deriveLabeledKey lib "liteway-session-v2"
    (hybridSs ++ (lib.blake3Hash hs1Msg).toList ++ (lib.blake3Hash hs2Msg).toList)

def relayFlags (relayFlag : Bool) : UInt16 := if relayFlag then flagRelay else 0

/-- The bytes of a handshake_1 that its signature covers. -/
def handshake1Signed (flags : UInt16) (timestamp : UInt64) (random : Bytes 16)
    (rxSessionId : UInt32) (ephX25519Pk : Bytes 32) (ephMlkemPk : Bytes mlkemPkLen)
    (certBytes : ByteString) : ByteString :=
  kindHandshake1 :: handshakeVersion :: ((u16BE flags).toList ++ ((u64BE timestamp).toList ++
    (random.toList ++ ((u32BE rxSessionId).toList ++ (ephX25519Pk.toList ++ (ephMlkemPk.toList ++
      vecU32 certBytes))))))

/-- The bytes of a handshake_2 that its signature covers. -/
def handshake2Signed (flags : UInt16) (timestamp : UInt64) (random : Bytes 16)
    (rxSessionId : UInt32) (ephX25519Pk : Bytes 32) (mlkemCt : Bytes mlkemCtLen)
    (hs1Hash : Bytes 32) (certBytes : ByteString) : ByteString :=
  kindHandshake2 :: handshakeVersion :: ((u16BE flags).toList ++ ((u64BE timestamp).toList ++
    (random.toList ++ ((u32BE rxSessionId).toList ++ (ephX25519Pk.toList ++ (mlkemCt.toList ++
      (hs1Hash.toList ++ vecU32 certBytes)))))))

/-- A signed prefix followed by its signature and random padding. -/
def withSignature (signed : ByteString) (sig : HybridSignature) (padding : ByteString) :
    ByteString :=
  signed ++ (sig.ed25519.toList ++ (sig.mlDsa.toList ++ padding))

def createHandshake1 (coins : InitiatorCoins) (unixTime : UInt64) (myCert : Cert)
    (mySigningKey : HybridSigningKey) (networkKey : NetworkKey) (relayFlag : Bool) :
    HandshakeInitiate :=
  let myRxSessionId := coins.rxSessionId.value
  let signed := handshake1Signed (relayFlags relayFlag) unixTime coins.random myRxSessionId
    (lib.x25519Public coins.ephX25519Sk) (lib.mlKemPublic coins.ephMlkemSeed) (lib.certToVec myCert)
  let plaintext := withSignature signed (hybridSign lib mySigningKey signed) coins.padding.bytes
  { msg := sealHandshakeWithHeader lib coins.sealing networkKey plaintext 0 myRxSessionId
    ephX25519Sk := coins.ephX25519Sk
    ephMlkemSk := coins.ephMlkemSeed
    myRxSessionId := myRxSessionId }

/-- What the responder signs in answer to the handshake_1 `data`. -/
def responseSigned (coins : ResponderCoins) (unixTime : UInt64) (data : ByteString) (myCert : Cert)
    (relayFlag : Bool) (ephMlkemPk : Bytes mlkemPkLen) : ByteString :=
  handshake2Signed (relayFlags relayFlag) unixTime coins.random coins.rxSessionId.value
    (lib.x25519Public coins.ephX25519Sk) (lib.mlKemEncapsulate ephMlkemPk coins.encapsulation).1
    (lib.blake3Hash data) (lib.certToVec myCert)

/-- The second half of `process_handshake_1`, once the request has been accepted. -/
def respond (coins : ResponderCoins) (unixTime : UInt64) (data : ByteString) (myCert : Cert)
    (mySigningKey : HybridSigningKey) (networkKey : NetworkKey) (relayFlag : Bool)
    (hs1 : Handshake1Plain) : HandshakeResponse :=
  let mlkemSs := (lib.mlKemEncapsulate hs1.ephMlkemPk coins.encapsulation).2
  let x25519Ss := lib.x25519DiffieHellman coins.ephX25519Sk hs1.ephX25519Pk
  let hybridSs := x25519Ss.toList ++ mlkemSs.toList
  let signed := responseSigned lib coins unixTime data myCert relayFlag hs1.ephMlkemPk
  let plaintext2 := withSignature signed (hybridSign lib mySigningKey signed) coins.padding.bytes
  let msg := sealHandshakeWithHeader lib coins.sealing networkKey plaintext2 0 hs1.rxSessionId
  { msg := msg
    sessionKey := deriveSessionV2 lib hybridSs data msg
    peerCert := hs1.cert
    peerIsRelay := hs1.peerIsRelay
    myRxSessionId := coins.rxSessionId.value
    peerRxSessionId := hs1.rxSessionId }

def processHandshake1 (coins : ResponderCoins) (unixTime : UInt64) (data : ByteString)
    (myCert : Cert) (mySigningKey : HybridSigningKey) (networkKey : NetworkKey)
    (caVk : HybridVerifyKey) (relayFlag : Bool) : Except HandshakeError HandshakeResponse := do
  let plaintext ← orThrow .decryptFailed1 (openHandshake lib networkKey data)
  let hs1 ← parseHandshake1 lib plaintext caVk unixTime
  ensure (lib.mlKemPublicValid hs1.ephMlkemPk = true) .invalidMlKemKey
  pure (respond lib coins unixTime data myCert mySigningKey networkKey relayFlag hs1)

/-- The second half of `process_handshake_2`, once the reply has been accepted. -/
def conclude (data : ByteString) (initiate : HandshakeInitiate) (hs2 : Handshake2Plain) :
    HandshakeResult :=
  let x25519Ss := lib.x25519DiffieHellman initiate.ephX25519Sk hs2.ephX25519Pk
  let mlkemSs := lib.mlKemDecapsulate initiate.ephMlkemSk hs2.mlkemCt
  let hybridSs := x25519Ss.toList ++ mlkemSs.toList
  { peerCert := hs2.cert
    sessionKey := deriveSessionV2 lib hybridSs initiate.msg data
    peerEphX25519 := hs2.ephX25519Pk
    peerIsRelay := hs2.peerIsRelay
    myRxSessionId := initiate.myRxSessionId
    peerRxSessionId := hs2.rxSessionId }

def processHandshake2 (unixTime : UInt64) (data : ByteString) (initiate : HandshakeInitiate)
    (networkKey : NetworkKey) (caVk : HybridVerifyKey) : Except HandshakeError HandshakeResult := do
  let plaintext ← orThrow .decryptFailed2 (openHandshake lib networkKey data)
  let hs2 ← parseHandshake2 lib plaintext initiate.msg caVk unixTime
  pure (conclude lib data initiate hs2)

end Steps

end Liteway.Core
