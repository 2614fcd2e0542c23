import Liteway.Core.HandshakeLayout
import Liteway.Core.Sealing

/-!
# An honest handshake completes

The request of an honest initiator is accepted, the reply of an honest responder
is accepted, and both derive the same key from opposite halves of the exchange.
-/

namespace Liteway.Core

open Liteway.Library

/-- A certificate together with the signing key it was issued for. -/
structure Identity (lib : Primitives) where
  cert : Cert
  signingKey : HybridSigningKey
  verifyKey_eq : cert.verifyKey = signingKey.public lib

/-- Two clock readings that differ by at most the allowed skew. -/
def ClocksAgree (left right : UInt64) : Prop :=
  left.toNat ≤ right.toNat + handshakeMaxClockSkewSecs ∧
    right.toNat ≤ left.toNat + handshakeMaxClockSkewSecs

instance (left right : UInt64) : Decidable (ClocksAgree left right) :=
  inferInstanceAs (Decidable (_ ∧ _))

theorem timestampValid_of_clocksAgree {timestamp now : UInt64} (h : ClocksAgree timestamp now) :
    timestampValid timestamp now := by
  have hbound := timestamp.toNat_lt
  obtain ⟨hlow, hhigh⟩ := h
  constructor
  · omega
  · omega

variable {lib : Primitives}

theorem processHandshake1_eq_ok_iff {coins : ResponderCoins} {unixTime : UInt64}
    {data : ByteString} {myCert : Cert} {mySigningKey : HybridSigningKey} {networkKey : NetworkKey}
    {caVk : HybridVerifyKey} {relayFlag : Bool} {response : HandshakeResponse} :
    processHandshake1 lib coins unixTime data myCert mySigningKey networkKey caVk relayFlag =
        .ok response ↔
      ∃ plaintext hs1, openHandshake lib networkKey data = some plaintext ∧
        parseHandshake1 lib plaintext caVk unixTime = .ok hs1 ∧
        lib.mlKemPublicValid hs1.ephMlkemPk = true ∧
        respond lib coins unixTime data myCert mySigningKey networkKey relayFlag hs1 = response := by
  unfold processHandshake1
  simp only [bind_eq_ok_iff, orThrow_eq_ok_iff, ensure_eq_ok_iff]
  constructor
  · rintro ⟨plaintext, hopen, hs1, hparse, _, hvalid, h⟩
    exact ⟨plaintext, hs1, hopen, hparse, hvalid, Except.ok.inj h⟩
  · rintro ⟨plaintext, hs1, hopen, hparse, hvalid, rfl⟩
    exact ⟨plaintext, hopen, hs1, hparse, (), hvalid, rfl⟩

theorem processHandshake2_eq_ok_iff {unixTime : UInt64} {data : ByteString}
    {initiate : HandshakeInitiate} {networkKey : NetworkKey} {caVk : HybridVerifyKey}
    {result : HandshakeResult} :
    processHandshake2 lib unixTime data initiate networkKey caVk = .ok result ↔
      ∃ plaintext hs2, openHandshake lib networkKey data = some plaintext ∧
        parseHandshake2 lib plaintext initiate.msg caVk unixTime = .ok hs2 ∧
        conclude lib data initiate hs2 = result := by
  unfold processHandshake2
  simp only [bind_eq_ok_iff, orThrow_eq_ok_iff]
  constructor
  · rintro ⟨plaintext, hopen, hs2, hparse, h⟩
    exact ⟨plaintext, hs2, hopen, hparse, Except.ok.inj h⟩
  · rintro ⟨plaintext, hs2, hopen, hparse, rfl⟩
    exact ⟨plaintext, hopen, hs2, hparse, rfl⟩

theorem relayFlags_and (relayFlag : Bool) : (relayFlags relayFlag &&& flagRelay != 0) = relayFlag := by
  cases relayFlag <;> decide

/-- What an honest handshake_1 parses to. -/
def requestPlain (lib : Primitives) (coins : InitiatorCoins) (cert : Cert) (relayFlag : Bool) :
    Handshake1Plain :=
  { cert := cert
    rxSessionId := coins.rxSessionId.value
    ephX25519Pk := lib.x25519Public coins.ephX25519Sk
    ephMlkemPk := lib.mlKemPublic coins.ephMlkemSeed
    peerIsRelay := relayFlag }

/-- What an honest handshake_2 parses to. -/
def replyPlain (lib : Primitives) (coins : ResponderCoins) (cert : Cert) (relayFlag : Bool)
    (ephMlkemPk : Bytes mlkemPkLen) : Handshake2Plain :=
  { cert := cert
    rxSessionId := coins.rxSessionId.value
    ephX25519Pk := lib.x25519Public coins.ephX25519Sk
    mlkemCt := (lib.mlKemEncapsulate ephMlkemPk coins.encapsulation).1
    peerIsRelay := relayFlag }

/-- The signed part of a handshake_1, as its creator fills it in. -/
def requestSigned (lib : Primitives) (coins : InitiatorCoins) (unixTime : UInt64) (cert : Cert)
    (relayFlag : Bool) : ByteString :=
  handshake1Signed (relayFlags relayFlag) unixTime coins.random coins.rxSessionId.value
    (lib.x25519Public coins.ephX25519Sk) (lib.mlKemPublic coins.ephMlkemSeed) (lib.certToVec cert)

/-- The sealed plaintext of a handshake_1. -/
def requestPlaintext (lib : Primitives) (coins : InitiatorCoins) (unixTime : UInt64) (cert : Cert)
    (signingKey : HybridSigningKey) (relayFlag : Bool) : ByteString :=
  withSignature (requestSigned lib coins unixTime cert relayFlag)
    (hybridSign lib signingKey (requestSigned lib coins unixTime cert relayFlag))
    coins.padding.bytes

/-- The sealed plaintext of a handshake_2. -/
def replyPlaintext (lib : Primitives) (coins : ResponderCoins) (unixTime : UInt64)
    (data : ByteString) (cert : Cert) (signingKey : HybridSigningKey) (relayFlag : Bool)
    (ephMlkemPk : Bytes mlkemPkLen) : ByteString :=
  withSignature (responseSigned lib coins unixTime data cert relayFlag ephMlkemPk)
    (hybridSign lib signingKey (responseSigned lib coins unixTime data cert relayFlag ephMlkemPk))
    coins.padding.bytes

theorem createHandshake1_msg (coins : InitiatorCoins) (unixTime : UInt64) (cert : Cert)
    (signingKey : HybridSigningKey) (networkKey : NetworkKey) (relayFlag : Bool) :
    (createHandshake1 lib coins unixTime cert signingKey networkKey relayFlag).msg =
      sealHandshakeWithHeader lib coins.sealing networkKey
        (requestPlaintext lib coins unixTime cert signingKey relayFlag) 0
        coins.rxSessionId.value := rfl

theorem respond_msg (coins : ResponderCoins) (unixTime : UInt64) (data : ByteString)
    (cert : Cert) (signingKey : HybridSigningKey) (networkKey : NetworkKey) (relayFlag : Bool)
    (hs1 : Handshake1Plain) :
    (respond lib coins unixTime data cert signingKey networkKey relayFlag hs1).msg =
      sealHandshakeWithHeader lib coins.sealing networkKey
        (replyPlaintext lib coins unixTime data cert signingKey relayFlag hs1.ephMlkemPk) 0
        hs1.rxSessionId := rfl

private theorem head_requestPlaintext (coins : InitiatorCoins) (unixTime : UInt64) (cert : Cert)
    (signingKey : HybridSigningKey) (relayFlag : Bool) :
    (requestPlaintext lib coins unixTime cert signingKey relayFlag)[0]? = some kindHandshake1 := by
  simp [requestPlaintext, withSignature, requestSigned, handshake1Signed]

theorem head_replyPlaintext (coins : ResponderCoins) (unixTime : UInt64)
    (data : ByteString) (cert : Cert) (signingKey : HybridSigningKey) (relayFlag : Bool)
    (ephMlkemPk : Bytes mlkemPkLen) :
    (replyPlaintext lib coins unixTime data cert signingKey relayFlag ephMlkemPk)[0]? =
      some kindHandshake2 := by
  simp [replyPlaintext, withSignature, responseSigned, handshake2Signed]

theorem openHandshake_createHandshake1 (hlib : lib.Correct) (coins : InitiatorCoins)
    (unixTime : UInt64) (cert : Cert) (signingKey : HybridSigningKey) (networkKey : NetworkKey)
    (relayFlag : Bool) :
    openHandshake lib networkKey
        (createHandshake1 lib coins unixTime cert signingKey networkKey relayFlag).msg =
      some (requestPlaintext lib coins unixTime cert signingKey relayFlag) := by
  rw [createHandshake1_msg]
  exact openHandshake_seal hlib _ _ _ _ (head_requestPlaintext _ _ _ _ _) (by decide) (by decide)

theorem openHandshake_respond (hlib : lib.Correct) (coins : ResponderCoins) (unixTime : UInt64)
    (data : ByteString) (cert : Cert) (signingKey : HybridSigningKey) (networkKey : NetworkKey)
    (relayFlag : Bool) (hs1 : Handshake1Plain) :
    openHandshake lib networkKey
        (respond lib coins unixTime data cert signingKey networkKey relayFlag hs1).msg =
      some (replyPlaintext lib coins unixTime data cert signingKey relayFlag hs1.ephMlkemPk) := by
  rw [respond_msg]
  exact openHandshake_seal hlib _ _ _ _ (head_replyPlaintext _ _ _ _ _ _ _) (by decide) (by decide)

theorem length_createHandshake1_msg (hlib : lib.Correct) (coins : InitiatorCoins)
    (unixTime : UInt64) (cert : Cert) (signingKey : HybridSigningKey) (networkKey : NetworkKey)
    (relayFlag : Bool) :
    (createHandshake1 lib coins unixTime cert signingKey networkKey relayFlag).msg.length =
      packetOverhead + (1 + 1 + 2 + 8 + 16 + 4 + 32 + mlkemPkLen + 4 + (lib.certToVec cert).length +
        ed25519SigLen + mldsaSigLen + coins.padding.bytes.length) := by
  rw [createHandshake1_msg,
    length_seal hlib _ _ _ _ (head_requestPlaintext _ _ _ _ _) (by decide)]
  unfold requestPlaintext requestSigned
  rw [withSignature_length, handshake1Signed_length]

theorem length_respond_msg (hlib : lib.Correct) (coins : ResponderCoins) (unixTime : UInt64)
    (data : ByteString) (cert : Cert) (signingKey : HybridSigningKey) (networkKey : NetworkKey)
    (relayFlag : Bool) (hs1 : Handshake1Plain) :
    (respond lib coins unixTime data cert signingKey networkKey relayFlag hs1).msg.length =
      packetOverhead + (1 + 1 + 2 + 8 + 16 + 4 + 32 + mlkemCtLen + 32 + 4 +
        (lib.certToVec cert).length + ed25519SigLen + mldsaSigLen + coins.padding.bytes.length) := by
  rw [respond_msg, length_seal hlib _ _ _ _ (head_replyPlaintext _ _ _ _ _ _ _) (by decide)]
  unfold replyPlaintext responseSigned
  rw [withSignature_length, handshake2Signed_length]

theorem networkHeader_createHandshake1 (hlib : lib.Correct) (coins : InitiatorCoins)
    (unixTime : UInt64) (cert : Cert) (signingKey : HybridSigningKey) (networkKey : NetworkKey)
    (relayFlag : Bool) :
    networkHeader lib
        (createHandshake1 lib coins unixTime cert signingKey networkKey relayFlag).msg networkKey =
      some { kind := kindHandshake1, fragIndex := 0, fragTotal := 0, dstPeerId := 0,
             sessionId := coins.rxSessionId.value } := by
  rw [createHandshake1_msg]
  exact networkHeader_seal hlib _ _ _ _ (head_requestPlaintext _ _ _ _ _) (by decide) (by decide)

theorem networkHeader_respond (hlib : lib.Correct) (coins : ResponderCoins) (unixTime : UInt64)
    (data : ByteString) (cert : Cert) (signingKey : HybridSigningKey) (networkKey : NetworkKey)
    (relayFlag : Bool) (hs1 : Handshake1Plain) :
    networkHeader lib
        (respond lib coins unixTime data cert signingKey networkKey relayFlag hs1).msg networkKey =
      some { kind := kindHandshake2, fragIndex := 0, fragTotal := 0, dstPeerId := 0,
             sessionId := hs1.rxSessionId } := by
  rw [respond_msg]
  exact networkHeader_seal hlib _ _ _ _ (head_replyPlaintext _ _ _ _ _ _ _) (by decide) (by decide)

theorem parseHandshake1_requestPlaintext (hlib : lib.Correct) (coins : InitiatorCoins)
    (created now : UInt64) (initiator : Identity lib) (caVk : HybridVerifyKey) (relayFlag : Bool)
    (hlen : (lib.certToVec initiator.cert).length < 2 ^ 32)
    (htime : timestampValid created now) (hcert : initiator.cert.verify lib caVk now = true) :
    parseHandshake1 lib
        (requestPlaintext lib coins created initiator.cert initiator.signingKey relayFlag) caVk now =
      .ok (requestPlain lib coins initiator.cert relayFlag) := by
  rw [parseHandshake1_eq_ok_iff]
  refine ⟨relayFlags relayFlag, created, coins.random, lib.certToVec initiator.cert, _,
    coins.padding.bytes, rfl, htime, hlen, hlib.cert_fromSlice_toVec _, hcert, ?_,
    (relayFlags_and relayFlag).symm⟩
  change hybridVerify lib initiator.cert.verifyKey _ _ = true
  rw [initiator.verifyKey_eq]
  exact hybridVerify_hybridSign hlib _ _

theorem parseHandshake2_replyPlaintext (hlib : lib.Correct) (reply : ResponderCoins)
    (answered now : UInt64) (data : ByteString) (responder : Identity lib)
    (caVk : HybridVerifyKey) (relayFlag : Bool) (ephMlkemPk : Bytes mlkemPkLen)
    (hlen : (lib.certToVec responder.cert).length < 2 ^ 32)
    (htime : timestampValid answered now) (hcert : responder.cert.verify lib caVk now = true) :
    parseHandshake2 lib
        (replyPlaintext lib reply answered data responder.cert responder.signingKey relayFlag
          ephMlkemPk) data caVk now =
      .ok (replyPlain lib reply responder.cert relayFlag ephMlkemPk) := by
  rw [parseHandshake2_eq_ok_iff]
  refine ⟨relayFlags relayFlag, answered, reply.random, lib.certToVec responder.cert, _,
    reply.padding.bytes, rfl, htime, hlen, hlib.cert_fromSlice_toVec _, hcert, ?_,
    (relayFlags_and relayFlag).symm⟩
  change hybridVerify lib responder.cert.verifyKey _ _ = true
  rw [responder.verifyKey_eq]
  exact hybridVerify_hybridSign hlib _ _

theorem processHandshake1_createHandshake1 (hlib : lib.Correct) (coins : InitiatorCoins)
    (reply : ResponderCoins) (created now : UInt64) (initiator : Identity lib) (cert : Cert)
    (signingKey : HybridSigningKey) (networkKey : NetworkKey) (caVk : HybridVerifyKey)
    (relayFlag relayFlag' : Bool) (hlen : (lib.certToVec initiator.cert).length < 2 ^ 32)
    (htime : timestampValid created now) (hcert : initiator.cert.verify lib caVk now = true) :
    processHandshake1 lib reply now (createHandshake1 lib coins created initiator.cert
        initiator.signingKey networkKey relayFlag).msg cert signingKey networkKey caVk relayFlag' =
      .ok (respond lib reply now (createHandshake1 lib coins created initiator.cert
        initiator.signingKey networkKey relayFlag).msg cert signingKey networkKey relayFlag'
        (requestPlain lib coins initiator.cert relayFlag)) := by
  rw [processHandshake1_eq_ok_iff]
  exact ⟨_, _, openHandshake_createHandshake1 hlib _ _ _ _ _ _,
    parseHandshake1_requestPlaintext hlib _ _ _ _ _ _ hlen htime hcert,
    hlib.mlKem_public_valid _, rfl⟩

theorem processHandshake2_respond (hlib : lib.Correct) (reply : ResponderCoins)
    (answered now : UInt64) (initiate : HandshakeInitiate) (responder : Identity lib)
    (networkKey : NetworkKey) (caVk : HybridVerifyKey) (relayFlag : Bool) (hs1 : Handshake1Plain)
    (hlen : (lib.certToVec responder.cert).length < 2 ^ 32) (htime : timestampValid answered now)
    (hcert : responder.cert.verify lib caVk now = true) :
    processHandshake2 lib now (respond lib reply answered initiate.msg responder.cert
        responder.signingKey networkKey relayFlag hs1).msg initiate networkKey caVk =
      .ok (conclude lib (respond lib reply answered initiate.msg responder.cert
        responder.signingKey networkKey relayFlag hs1).msg initiate
        (replyPlain lib reply responder.cert relayFlag hs1.ephMlkemPk)) := by
  rw [processHandshake2_eq_ok_iff]
  exact ⟨_, _, openHandshake_respond hlib _ _ _ _ _ _ _ _,
    parseHandshake2_replyPlaintext hlib _ _ _ _ _ _ _ _ hlen htime hcert, rfl⟩

/-! ## What a parse of an honest message says -/

theorem parse_requestPlaintext_fields {coins : InitiatorCoins} {created now : UInt64} {cert : Cert}
    {signingKey : HybridSigningKey} {caVk : HybridVerifyKey} {relayFlag : Bool}
    {hs1 : Handshake1Plain}
    (hparse : parseHandshake1 lib (requestPlaintext lib coins created cert signingKey relayFlag)
      caVk now = .ok hs1) :
    hs1.rxSessionId = coins.rxSessionId.value ∧
      hs1.ephX25519Pk = lib.x25519Public coins.ephX25519Sk ∧
      hs1.ephMlkemPk = lib.mlKemPublic coins.ephMlkemSeed := by
  obtain ⟨flags, timestamp, random, certBytes, sig, padding, hdata, -⟩ :=
    parseHandshake1_eq_ok_iff.mp hparse
  obtain ⟨-, -, hrx, hx, hm, -⟩ := handshake1Signed_append_inj hdata
  exact ⟨hrx.symm, hx.symm, hm.symm⟩

theorem parse_requestPlaintext_valid (hlib : lib.Correct) {coins : InitiatorCoins}
    {created now : UInt64} {cert : Cert} {signingKey : HybridSigningKey} {caVk : HybridVerifyKey}
    {relayFlag : Bool} {hs1 : Handshake1Plain} (hlen : (lib.certToVec cert).length < 2 ^ 32)
    (hparse : parseHandshake1 lib (requestPlaintext lib coins created cert signingKey relayFlag)
      caVk now = .ok hs1) :
    timestampValid created now ∧ cert.verify lib caVk now = true ∧ hs1.cert = cert := by
  obtain ⟨flags, timestamp, random, certBytes, sig, padding, hdata, htime, hcertLen, hcert,
    hverify, -, -⟩ := parseHandshake1_eq_ok_iff.mp hparse
  obtain ⟨-, rfl, -, -, -, hrest⟩ := handshake1Signed_append_inj hdata
  obtain ⟨rfl, -⟩ := vecU32_append_inj hlen hcertLen hrest
  rw [hlib.cert_fromSlice_toVec] at hcert
  have hsame : hs1.cert = cert := (Option.some.inj hcert).symm
  rw [hsame] at hverify
  exact ⟨htime, hverify, hsame⟩

/-- An honest request is accepted exactly while its timestamp and its certificate
are valid. -/
theorem parse_requestPlaintext_iff (hlib : lib.Correct) {coins : InitiatorCoins}
    {created now : UInt64} {initiator : Identity lib} {caVk : HybridVerifyKey} {relayFlag : Bool}
    (hlen : (lib.certToVec initiator.cert).length < 2 ^ 32) {hs1 : Handshake1Plain} :
    parseHandshake1 lib
        (requestPlaintext lib coins created initiator.cert initiator.signingKey relayFlag) caVk now =
        .ok hs1 ↔
      timestampValid created now ∧ initiator.cert.verify lib caVk now = true ∧
        hs1 = requestPlain lib coins initiator.cert relayFlag := by
  constructor
  · intro hparse
    obtain ⟨htime, hverify, -⟩ := parse_requestPlaintext_valid hlib hlen hparse
    refine ⟨htime, hverify, ?_⟩
    rw [parseHandshake1_requestPlaintext hlib _ _ _ _ _ _ hlen htime hverify] at hparse
    exact (Except.ok.inj hparse).symm
  · rintro ⟨htime, hverify, rfl⟩
    exact parseHandshake1_requestPlaintext hlib _ _ _ _ _ _ hlen htime hverify

theorem parse_replyPlaintext_fields {coins : ResponderCoins} {answered now : UInt64}
    {data expected : ByteString} {cert : Cert} {signingKey : HybridSigningKey}
    {caVk : HybridVerifyKey} {relayFlag : Bool} {ephMlkemPk : Bytes mlkemPkLen}
    {hs2 : Handshake2Plain}
    (hparse : parseHandshake2 lib (replyPlaintext lib coins answered data cert signingKey relayFlag
      ephMlkemPk) expected caVk now = .ok hs2) :
    lib.blake3Hash data = lib.blake3Hash expected ∧
      hs2.rxSessionId = coins.rxSessionId.value ∧
      hs2.ephX25519Pk = lib.x25519Public coins.ephX25519Sk ∧
      hs2.mlkemCt = (lib.mlKemEncapsulate ephMlkemPk coins.encapsulation).1 := by
  obtain ⟨flags, timestamp, random, certBytes, sig, padding, hdata, -⟩ :=
    parseHandshake2_eq_ok_iff.mp hparse
  obtain ⟨-, -, hrx, hx, hct, hhash, -⟩ := handshake2Signed_append_inj hdata
  exact ⟨hhash, hrx.symm, hx.symm, hct.symm⟩

/-! ## The key -/

/-- The secret the responder mixes into the session key. -/
def responderSecret (lib : Primitives) (coins : ResponderCoins) (hs1 : Handshake1Plain) :
    ByteString :=
  (lib.x25519DiffieHellman coins.ephX25519Sk hs1.ephX25519Pk).toList ++
    (lib.mlKemEncapsulate hs1.ephMlkemPk coins.encapsulation).2.toList

/-- The secret the initiator mixes into the session key. -/
def initiatorSecret (lib : Primitives) (initiate : HandshakeInitiate) (hs2 : Handshake2Plain) :
    ByteString :=
  (lib.x25519DiffieHellman initiate.ephX25519Sk hs2.ephX25519Pk).toList ++
    (lib.mlKemDecapsulate initiate.ephMlkemSk hs2.mlkemCt).toList

theorem respond_sessionKey (coins : ResponderCoins) (unixTime : UInt64) (data : ByteString)
    (cert : Cert) (signingKey : HybridSigningKey) (networkKey : NetworkKey) (relayFlag : Bool)
    (hs1 : Handshake1Plain) :
    (respond lib coins unixTime data cert signingKey networkKey relayFlag hs1).sessionKey =
      deriveSessionV2 lib (responderSecret lib coins hs1) data
        (respond lib coins unixTime data cert signingKey networkKey relayFlag hs1).msg := rfl

theorem conclude_sessionKey (data : ByteString) (initiate : HandshakeInitiate)
    (hs2 : Handshake2Plain) :
    (conclude lib data initiate hs2).sessionKey =
      deriveSessionV2 lib (initiatorSecret lib initiate hs2) initiate.msg data := rfl

/-- The Diffie-Hellman shares commute and the encapsulated secret comes back. -/
theorem initiatorSecret_eq_responderSecret (hlib : lib.Correct) {initiate : HandshakeInitiate}
    {coins : ResponderCoins} {hs1 : Handshake1Plain} {hs2 : Handshake2Plain}
    (hx1 : hs1.ephX25519Pk = lib.x25519Public initiate.ephX25519Sk)
    (hm1 : hs1.ephMlkemPk = lib.mlKemPublic initiate.ephMlkemSk)
    (hx2 : hs2.ephX25519Pk = lib.x25519Public coins.ephX25519Sk)
    (hct : hs2.mlkemCt = (lib.mlKemEncapsulate hs1.ephMlkemPk coins.encapsulation).1) :
    initiatorSecret lib initiate hs2 = responderSecret lib coins hs1 := by
  unfold initiatorSecret responderSecret
  rw [hct, hx2, hx1, hm1, hlib.mlKem_decapsulate_encapsulate,
    hlib.diffieHellman_comm initiate.ephX25519Sk]

/-! ## What both ends take from one exchange -/

section Ends

variable {coins : InitiatorCoins} {created : UInt64} {cert : Cert} {signingKey : HybridSigningKey}
  {networkKey : NetworkKey} {relayFlag : Bool} {reply : ResponderCoins} {answered : UInt64}
  {cert' : Cert} {signingKey' : HybridSigningKey} {caVk : HybridVerifyKey} {relayFlag' : Bool}
  {response : HandshakeResponse}

theorem processHandshake1_peerCert (hlib : lib.Correct)
    (hlen : (lib.certToVec cert).length < 2 ^ 32)
    (hprocess : processHandshake1 lib reply answered (createHandshake1 lib coins created cert
      signingKey networkKey relayFlag).msg cert' signingKey' networkKey caVk relayFlag' =
        .ok response) : response.peerCert = cert := by
  obtain ⟨plaintext, hs1, hopen, hparse, -, rfl⟩ := processHandshake1_eq_ok_iff.mp hprocess
  rw [openHandshake_createHandshake1 hlib] at hopen
  cases Option.some.inj hopen
  exact (parse_requestPlaintext_valid hlib hlen hparse).2.2

theorem networkHeader_answer (hlib : lib.Correct)
    (hprocess : processHandshake1 lib reply answered (createHandshake1 lib coins created cert
      signingKey networkKey relayFlag).msg cert' signingKey' networkKey caVk relayFlag' =
        .ok response) :
    networkHeader lib response.msg networkKey =
      some { kind := kindHandshake2, fragIndex := 0, fragTotal := 0, dstPeerId := 0,
             sessionId := coins.rxSessionId.value } := by
  obtain ⟨plaintext, hs1, hopen, hparse, -, rfl⟩ := processHandshake1_eq_ok_iff.mp hprocess
  rw [openHandshake_createHandshake1 hlib] at hopen
  cases Option.some.inj hopen
  rw [networkHeader_respond hlib, (parse_requestPlaintext_fields hparse).1]

/-- An initiator that accepts the answer to its request shares its key and its
session ids with the responder, whatever certificates they checked. -/
theorem processHandshake2_answer (hlib : lib.Correct) {now : UInt64} {caVk' : HybridVerifyKey}
    {result : HandshakeResult}
    (hprocess : processHandshake1 lib reply answered (createHandshake1 lib coins created cert
      signingKey networkKey relayFlag).msg cert' signingKey' networkKey caVk relayFlag' =
        .ok response)
    (hresult : processHandshake2 lib now response.msg (createHandshake1 lib coins created cert
      signingKey networkKey relayFlag) networkKey caVk' = .ok result) :
    result.sessionKey = response.sessionKey ∧
      result.myRxSessionId = response.peerRxSessionId ∧
      result.peerRxSessionId = response.myRxSessionId := by
  obtain ⟨plaintext, hs1, hopen, hparse, -, rfl⟩ := processHandshake1_eq_ok_iff.mp hprocess
  rw [openHandshake_createHandshake1 hlib] at hopen
  cases Option.some.inj hopen
  obtain ⟨hrx1, hx1, hm1⟩ := parse_requestPlaintext_fields hparse
  obtain ⟨plaintext2, hs2, hopen2, hparse2, rfl⟩ := processHandshake2_eq_ok_iff.mp hresult
  rw [openHandshake_respond hlib] at hopen2
  cases Option.some.inj hopen2
  obtain ⟨-, hrx2, hx2, hct⟩ := parse_replyPlaintext_fields hparse2
  refine ⟨?_, hrx1.symm, hrx2⟩
  rw [conclude_sessionKey, respond_sessionKey,
    initiatorSecret_eq_responderSecret hlib hx1 hm1 hx2 hct]

end Ends

/-! ## A whole exchange -/

/-- Two nodes of one network and everything their handshake depends on.  The
initiator reads its clock twice, the responder once. -/
structure Exchange (lib : Primitives) where
  initiator : Identity lib
  responder : Identity lib
  networkKey : NetworkKey
  caVk : HybridVerifyKey
  initiatorRelay : Bool
  responderRelay : Bool
  coins : InitiatorCoins
  reply : ResponderCoins
  created : UInt64
  answered : UInt64
  concluded : UInt64

namespace Exchange

def initiate (x : Exchange lib) : HandshakeInitiate :=
  createHandshake1 lib x.coins x.created x.initiator.cert x.initiator.signingKey x.networkKey
    x.initiatorRelay

def hs1 (x : Exchange lib) : Handshake1Plain :=
  requestPlain lib x.coins x.initiator.cert x.initiatorRelay

def response (x : Exchange lib) : HandshakeResponse :=
  respond lib x.reply x.answered x.initiate.msg x.responder.cert x.responder.signingKey x.networkKey
    x.responderRelay x.hs1

def plaintext2 (x : Exchange lib) : ByteString :=
  replyPlaintext lib x.reply x.answered x.initiate.msg x.responder.cert x.responder.signingKey
    x.responderRelay x.hs1.ephMlkemPk

/-- The reply of the responder, sealed with the given random choices. -/
def sealReply (x : Exchange lib) (sealing : SealCoins) : ByteString :=
  sealHandshakeWithHeader lib sealing x.networkKey x.plaintext2 0 x.hs1.rxSessionId

def hs2 (x : Exchange lib) : Handshake2Plain :=
  replyPlain lib x.reply x.responder.cert x.responderRelay x.hs1.ephMlkemPk

/-- What the initiator ends up with when it receives `msg`. -/
def result (x : Exchange lib) (msg : ByteString) : HandshakeResult :=
  conclude lib msg x.initiate x.hs2

/-- The certificates are good at the time they are checked and the clocks agree. -/
structure Honest (x : Exchange lib) : Prop where
  initiator_cert : x.initiator.cert.verify lib x.caVk x.answered = true
  responder_cert : x.responder.cert.verify lib x.caVk x.concluded = true
  request_clock : ClocksAgree x.created x.answered
  reply_clock : ClocksAgree x.answered x.concluded

/-- Besides, the length of either certificate fits its length field. -/
structure Valid (x : Exchange lib) : Prop extends x.Honest where
  initiator_len : (lib.certToVec x.initiator.cert).length < 2 ^ 32
  responder_len : (lib.certToVec x.responder.cert).length < 2 ^ 32

theorem response_msg (x : Exchange lib) : x.response.msg = x.sealReply x.reply.sealing := rfl

theorem processHandshake1_eq (hlib : lib.Correct) {x : Exchange lib} (hx : x.Valid) :
    processHandshake1 lib x.reply x.answered x.initiate.msg x.responder.cert x.responder.signingKey
      x.networkKey x.caVk x.responderRelay = .ok x.response :=
  processHandshake1_createHandshake1 hlib x.coins x.reply x.created x.answered x.initiator
    x.responder.cert x.responder.signingKey x.networkKey x.caVk x.initiatorRelay x.responderRelay
    hx.initiator_len (timestampValid_of_clocksAgree hx.request_clock) hx.initiator_cert

theorem openHandshake_sealReply (hlib : lib.Correct) (x : Exchange lib) (sealing : SealCoins) :
    openHandshake lib x.networkKey (x.sealReply sealing) = some x.plaintext2 :=
  openHandshake_seal hlib _ _ _ _ (head_replyPlaintext _ _ _ _ _ _ _) (by decide) (by decide)

theorem parseHandshake2_plaintext2 (hlib : lib.Correct) {x : Exchange lib} (hx : x.Valid) :
    parseHandshake2 lib x.plaintext2 x.initiate.msg x.caVk x.concluded = .ok x.hs2 :=
  parseHandshake2_replyPlaintext hlib x.reply x.answered x.concluded x.initiate.msg x.responder
    x.caVk x.responderRelay x.hs1.ephMlkemPk hx.responder_len
    (timestampValid_of_clocksAgree hx.reply_clock) hx.responder_cert

theorem processHandshake2_sealReply (hlib : lib.Correct) {x : Exchange lib} (hx : x.Valid)
    (sealing : SealCoins) :
    processHandshake2 lib x.concluded (x.sealReply sealing) x.initiate x.networkKey x.caVk =
      .ok (x.result (x.sealReply sealing)) :=
  processHandshake2_eq_ok_iff.mpr ⟨x.plaintext2, x.hs2, openHandshake_sealReply hlib x sealing,
    parseHandshake2_plaintext2 hlib hx, rfl⟩

theorem secrets_eq (hlib : lib.Correct) (x : Exchange lib) :
    initiatorSecret lib x.initiate x.hs2 = responderSecret lib x.reply x.hs1 :=
  initiatorSecret_eq_responderSecret hlib rfl rfl rfl rfl

theorem sessionKey_eq (hlib : lib.Correct) (x : Exchange lib) :
    (x.result x.response.msg).sessionKey = x.response.sessionKey := by
  have hresponse : x.response.sessionKey =
      deriveSessionV2 lib (responderSecret lib x.reply x.hs1) x.initiate.msg x.response.msg := rfl
  unfold result
  rw [conclude_sessionKey, secrets_eq hlib, hresponse]

end Exchange

end Liteway.Core
