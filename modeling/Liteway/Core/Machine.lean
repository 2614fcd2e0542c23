import Liteway.Core.PacketCodec
import Liteway.Core.Handshake
import Liteway.Library.Checked

/-!
# Receiving, with operations that can panic

The functions that look at received bytes, written once more with the indexing,
slicing, copying and arithmetic of the source.  Each returns what its counterpart
in the model returns, and so none of the operations goes wrong.
-/

namespace Liteway.Core

open Liteway.Library

/-- A ciphertext is its plaintext and a tag. -/
def Primitives.PlaintextFits (lib : Primitives) : Prop :=
  ∀ key nonce ciphertext aad plaintext,
    lib.aeadDecrypt key nonce ciphertext aad = some plaintext →
      plaintext.length ≤ ciphertext.length

namespace Machine

/-! ## Packets -/

section Packets

variable (lib : Primitives)

def deriveLabeledKey (context : String) (input : ByteString) : Checked (Bytes sessionKeyLen) :=
  Checked.toArray sessionKeyLen (lib.blake3DeriveKey context input).toList

def decodeHeader (header : Bytes networkHeaderLen) : OptionT Checked NetworkHeader := do
  let bytes := header.toList
  let unused ← (Checked.get bytes 3 : Checked UInt8)
  let malformed ← Checked.or (unused != 0)
    (do pure ((← Checked.slice bytes 12 16) != [0, 0, 0, 0]))
  if malformed then failure
  else
    let kind ← (Checked.get bytes 0 : Checked UInt8)
    if kind ∉ knownKinds then failure
    else
      let fragIndex ← (Checked.get bytes 1 : Checked UInt8)
      let fragTotal ← (Checked.get bytes 2 : Checked UInt8)
      let dstPeerId ← ofOption (tryInto 4 (← Checked.slice bytes 4 8))
      let sessionId ← ofOption (tryInto 4 (← Checked.slice bytes 8 12))
      pure {
        kind := kind
        fragIndex := fragIndex
        fragTotal := fragTotal
        dstPeerId := decodeU32BE dstPeerId
        sessionId := decodeU32BE sessionId }

def unmaskHeaderBytes (maskNonce : Bytes maskNonceLen) (maskedHeader : Bytes networkHeaderLen)
    (networkKey : NetworkKey) : OptionT Checked NetworkHeader := do
  let maskKey ← deriveLabeledKey lib "liteway-network-header-mask-v1" networkKey.toList
  let mask := lib.blake3KeyedHash maskKey maskNonce.toList
  -- the loop is over zipped iterators and stops at the shortest
  let plain := Bytes.xor maskedHeader
    (Bytes.slice mask.toList 0 networkHeaderLen (by simp [networkHeaderLen]))
  decodeHeader plain

def unmaskHeader (pkt : DataPacket) (networkKey : NetworkKey) : OptionT Checked NetworkHeader :=
  unmaskHeaderBytes lib pkt.maskNonce pkt.maskedHeader networkKey

def unmaskPacketHeader (pkt : DataPacket) (networkKey : NetworkKey) :
    OptionT Checked NetworkHeader :=
  unmaskHeader lib pkt networkKey

def packetAad (pkt : DataPacket) : Checked ByteString := do
  let aad := List.replicate (maskNonceLen + networkHeaderLen) 0
  let aad ← Checked.copyFromSlice aad 0 maskNonceLen pkt.maskNonce.toList
  Checked.copyFromSlice aad maskNonceLen aad.length pkt.maskedHeader.toList

/-- `aead::decrypt`: the cipher and its nonce are made from slices. -/
def aeadDecrypt (key : Bytes kHeaderLen) (nonce : Bytes nonceLen) (ciphertext aad : ByteString) :
    OptionT Checked ByteString := do
  let key ← (Checked.unwrap (tryInto kHeaderLen key.toList) : Checked (Bytes kHeaderLen))
  let nonce ← (Checked.unwrap (tryInto nonceLen nonce.toList) : Checked (Bytes nonceLen))
  ofOption (lib.aeadDecrypt key nonce ciphertext aad)

def deserializePacket (data : ByteString) : OptionT Checked DataPacket := do
  if data.length < minPacketLen then failure
  else
    let maskNonce ← Checked.toArray maskNonceLen (← Checked.slice data 0 maskNonceLen)
    let maskedHeader ← Checked.toArray networkHeaderLen
      (← Checked.slice data maskNonceLen (maskNonceLen + networkHeaderLen))
    let nonce ← Checked.toArray nonceLen (← Checked.slice data (maskNonceLen + networkHeaderLen)
      (maskNonceLen + networkHeaderLen + nonceLen))
    let ciphertext ← Checked.slice data (maskNonceLen + networkHeaderLen + nonceLen) data.length
    pure {
      maskNonce := maskNonce
      maskedHeader := maskedHeader
      nonce := nonce
      ciphertext := ciphertext }

def networkHeader (data : ByteString) (networkKey : NetworkKey) : OptionT Checked NetworkHeader := do
  if data.length < minPacketLen then failure
  else
    let maskNonce ← ofOption (tryInto maskNonceLen (← Checked.slice data 0 maskNonceLen))
    let masked ← ofOption (tryInto networkHeaderLen
      (← Checked.slice data maskNonceLen (maskNonceLen + networkHeaderLen)))
    unmaskHeaderBytes lib maskNonce masked networkKey

def openHandshake (networkKey : NetworkKey) (data : ByteString) : OptionT Checked ByteString := do
  let pkt ← deserializePacket data
  let header ← unmaskPacketHeader lib pkt networkKey
  let aad ← packetAad pkt
  let plaintext ← aeadDecrypt lib networkKey pkt.nonce pkt.ciphertext aad
  if header.kind = kindHandshakeFrag then
    if header.fragTotal = 0 ∨ header.fragIndex ≥ header.fragTotal then failure
    else
      let capacity ← Checked.add 7 plaintext.length
      Checked.withCapacity capacity
      Checked.extendFromSlice (kindHandshakeFrag :: ((u32BE header.sessionId).toList ++
        [header.fragIndex, header.fragTotal])) plaintext
  else if header.fragIndex ≠ 0 ∨ header.fragTotal ≠ 0 then failure
  else
    let first ← ofOption plaintext.head?
    if first ≠ header.kind then failure else pure plaintext

end Packets

section PacketRules

variable {lib : Primitives}

theorem deriveLabeledKey_eq_ok (lib : Primitives) (context : String) (input : ByteString) :
    deriveLabeledKey lib context input = .ok (Core.deriveLabeledKey lib context input) :=
  Checked.toArray_toList _

theorem returns_decodeHeader (header : Bytes networkHeaderLen) :
    Returns (decodeHeader header) (Core.decodeHeader header) := by
  have hlen : header.toList.length = 16 := by simp [networkHeaderLen]
  have hget : ∀ (index : Nat) (h : index < 16),
      Checked.get header.toList index = .ok header[index] := by
    intro index h
    rw [Checked.get_eq_ok (by omega)]
    simp
  have hmalformed : Checked.or (header[3] != 0)
      (do pure ((← Checked.slice header.toList 12 16) != [0, 0, 0, 0])) =
      .ok (header[3] != 0 || header.toList.extract 12 16 != [0, 0, 0, 0]) := by
    apply Checked.or_eq_ok
    intro _
    rw [Checked.slice_eq_ok (by decide) (by omega)]
    rfl
  have hfield : ∀ (start : Nat) (h : start + 4 ≤ 16),
      Checked.slice header.toList start (start + 4) =
        .ok (header.toList.extract start (start + 4)) := by
    intro start h
    exact Checked.slice_eq_ok (Nat.le_add_right _ _) (by omega)
  unfold decodeHeader Core.decodeHeader
  apply Returns.step (hget 3 (by decide))
  apply Returns.step hmalformed
  have hzero : (Bytes.slice header.toList 12 4 (by omega)).toList = header.toList.extract 12 16 := by
    simp [List.extract_eq_take_drop]
  by_cases hbad : header[3] ≠ 0 ∨ header.toList.extract 12 16 ≠ [0, 0, 0, 0]
  · rw [if_pos (by simpa using hbad), if_pos (by rwa [hzero])]
    exact returns_failure
  · rw [if_neg (by simpa using hbad), if_neg (by rwa [hzero])]
    apply Returns.step (hget 0 (by decide))
    apply returns_ite
    · intro _
      exact returns_failure
    · intro _
      apply Returns.step (hget 1 (by decide))
      apply Returns.step (hget 2 (by decide))
      apply Returns.step (hfield 4 (by decide))
      rw [tryInto_extract (by omega)]
      apply Returns.step (hfield 8 (by decide))
      rw [tryInto_extract (by omega)]
      exact returns_pure _

theorem returns_unmaskHeaderBytes (lib : Primitives) (maskNonce : Bytes maskNonceLen)
    (maskedHeader : Bytes networkHeaderLen) (networkKey : NetworkKey) :
    Returns (unmaskHeaderBytes lib maskNonce maskedHeader networkKey)
      (Core.unmaskHeaderBytes lib maskNonce maskedHeader networkKey) := by
  unfold unmaskHeaderBytes
  apply Returns.step (deriveLabeledKey_eq_ok lib _ _)
  exact returns_decodeHeader _

theorem packetAad_eq_ok (pkt : DataPacket) : packetAad pkt = .ok (Core.packetAad pkt) := by
  unfold packetAad
  apply Checked.step (Checked.copyFromSlice_eq_ok (Nat.zero_le _) (by simp) (by simp))
  rw [Checked.copyFromSlice_eq_ok (by simp) (Nat.le_refl _) (by simp)]
  simp [Core.packetAad]

theorem returns_aeadDecrypt (lib : Primitives) (key : Bytes kHeaderLen) (nonce : Bytes nonceLen)
    (ciphertext aad : ByteString) :
    Returns (aeadDecrypt lib key nonce ciphertext aad)
      (lib.aeadDecrypt key nonce ciphertext aad) := by
  unfold aeadDecrypt
  rw [tryInto_toList, tryInto_toList]
  apply Returns.step (Checked.unwrap_eq_ok key)
  apply Returns.step (Checked.unwrap_eq_ok nonce)
  exact returns_ofOption _

theorem returns_deserializePacket (data : ByteString) :
    Returns (deserializePacket data) (Core.deserializePacket data) := by
  unfold deserializePacket Core.deserializePacket
  by_cases hshort : data.length < minPacketLen
  · rw [if_pos hshort, dif_pos hshort]
    exact returns_failure
  · rw [if_neg hshort, dif_neg hshort]
    have hlen : 52 ≤ data.length := Nat.not_lt.mp hshort
    have hnonce : 0 + maskNonceLen ≤ data.length := Nat.le_trans (by decide) hlen
    apply Returns.field hnonce
    apply Returns.field (Nat.le_trans (by decide) hlen)
    apply Returns.field (Nat.le_trans (by decide) hlen)
    apply Returns.step (Checked.slice_length_eq_ok (Nat.le_trans (by decide) hlen))
    exact returns_pure _

theorem returns_networkHeader (lib : Primitives) (data : ByteString) (networkKey : NetworkKey) :
    Returns (networkHeader lib data networkKey) (Core.networkHeader lib data networkKey) := by
  unfold networkHeader Core.networkHeader
  by_cases hshort : data.length < minPacketLen
  · rw [if_pos hshort, dif_pos hshort]
    exact returns_failure
  · rw [if_neg hshort, dif_neg hshort]
    have hlen : 52 ≤ data.length := Nat.not_lt.mp hshort
    have hnonce : 0 + maskNonceLen ≤ data.length := Nat.le_trans (by decide) hlen
    have hmasked : maskNonceLen + networkHeaderLen ≤ data.length := Nat.le_trans (by decide) hlen
    apply Returns.step (Checked.slice_eq_ok (Nat.zero_le _) hnonce)
    rw [tryInto_extract hnonce]
    apply Returns.step (Checked.slice_eq_ok (by decide) hmasked)
    rw [tryInto_extract hmasked]
    exact returns_unmaskHeaderBytes lib _ _ networkKey

theorem plaintext_length_le (hfits : lib.PlaintextFits) {data : Slice} {pkt : DataPacket}
    (hpkt : Core.deserializePacket data.bytes = some pkt) {key : Bytes kHeaderLen}
    {aad plaintext : ByteString}
    (hplain : lib.aeadDecrypt key pkt.nonce pkt.ciphertext aad = some plaintext) :
    plaintext.length + 36 ≤ isizeMax := by
  have hdata := data.length_le
  have hle := hfits _ _ _ _ _ hplain
  obtain ⟨hserial, -⟩ := serializePacket_deserializePacket hpkt
  have hlen := serializePacket_length pkt
  rw [hserial] at hlen
  omega

theorem returns_openHandshake (hfits : lib.PlaintextFits) (networkKey : NetworkKey)
    (data : Slice) :
    Returns (openHandshake lib networkKey data.bytes)
      (Core.openHandshake lib networkKey data.bytes) := by
  unfold openHandshake Core.openHandshake
  apply (returns_deserializePacket data.bytes).bind
  intro pkt hpkt
  apply (returns_unmaskHeaderBytes lib _ _ networkKey).bind
  intro header _
  apply Returns.step (packetAad_eq_ok pkt)
  apply (returns_aeadDecrypt lib _ _ _ _).bind
  intro plaintext hplain
  have hlen := plaintext_length_le hfits hpkt hplain
  apply returns_ite
  · intro _
    apply returns_ite
    · intro _
      exact returns_failure
    · intro _
      have hcapacity : 7 + plaintext.length ≤ isizeMax := by omega
      apply Returns.step (Checked.add_eq_ok (Nat.le_trans hcapacity (by decide)))
      apply Returns.step (Checked.withCapacity_eq_ok hcapacity)
      apply returns_liftM
      rw [Checked.extendFromSlice_eq_ok (by simp; omega)]
      simp
  · intro _
    apply returns_ite
    · intro _
      exact returns_failure
    · intro _
      cases plaintext with
      | nil => exact returns_failure
      | cons first rest =>
          apply (returns_ofOption (some first)).bind_some
          by_cases hkind : first = header.kind
          · rw [if_neg (by simpa using hkind), if_pos (by simpa using hkind)]
            exact returns_pure _
          · rw [if_pos hkind, if_neg (by simpa using hkind)]
            exact returns_failure

end PacketRules

/-! ## Session packets -/

section Bodies

variable (lib : Primitives)

def readBody (kind : UInt8) (seq : UInt64) (rd : Reader) : OptionT Checked PacketBody :=
  if kind = kindData then do
    let (ipPacket, _) ← rd.vecU32
    pure (.data seq ipPacket)
  else if kind = kindRelayForward then do
    let (nextPeerId, rd) ← rd.u32
    let (innerPacket, _) ← rd.vecU32
    pure (.relayForward seq nextPeerId innerPacket)
  else if kind = kindDisconnect then
    pure (.disconnect seq)
  else if kind = kindLighthouseQuery then do
    let (text, _) ← rd.vecU32
    let targetIp ← ofOption (lib.ipAddrParse (← ofOption (parseUtf8 text)))
    pure (.lighthouseQuery seq targetIp)
  else if kind = kindLighthouseResponse then do
    let (text, rd) ← rd.vecU32
    let targetIp ← ofOption (lib.ipAddrParse (← ofOption (parseUtf8 text)))
    let (peerId, rd) ← rd.u32
    let (text, rd) ← rd.vecU32
    let peerAddr ← ofOption (lib.socketAddrParse (← ofOption (parseUtf8 text)))
    let (certBytes, rd) ← rd.vecU32
    let peerCert ← ofOption (lib.certFromSlice certBytes)
    let (relay, _) ← rd.u8
    pure (.lighthouseResponse seq targetIp peerId peerAddr peerCert (relay != 0))
  else if kind = kindLighthouseNotFound then do
    let (text, _) ← rd.vecU32
    let targetIp ← ofOption (lib.ipAddrParse (← ofOption (parseUtf8 text)))
    pure (.lighthouseNotFound seq targetIp)
  else if kind = kindKeepalive then do
    let (token, _) ← rd.u64
    pure (.keepalive seq token)
  else if kind = kindKeepaliveAck then do
    let (token, _) ← rd.u64
    pure (.keepaliveAck seq token)
  else
    failure

def decryptPacket (data : ByteString) (networkKey : NetworkKey) (sessionKey : SessionKey) :
    OptionT Checked (NetworkHeader × PacketBody) := do
  let pkt ← deserializePacket data
  let header ← unmaskHeader lib pkt networkKey
  let packetKey ← deriveLabeledKey lib "liteway-packet-key-v2" sessionKey.toList
  let aad ← packetAad pkt
  let plaintext ← aeadDecrypt lib packetKey pkt.nonce pkt.ciphertext aad
  let (kind, rd) ← (Reader.start plaintext).u8
  let (seq, rd) ← rd.u64
  if kind ≠ header.kind then failure
  else do
    let body ← readBody lib kind seq rd
    pure (header, body)

end Bodies

section BodyRules

variable {lib : Primitives} {data : Slice} {rd : Cursor}

theorem returns_text {α β : Type} {parse : String → Option α} {bytes : ByteString}
    {f : α → OptionT Checked β} {g : α → Option β} (hf : ∀ value, Returns (f value) (g value)) :
    Returns (do
        let value ← ofOption (parse (← ofOption (parseUtf8 bytes)))
        f value)
      (do
        let value ← parse (← parseUtf8 bytes)
        g value) := by
  apply (returns_ofOption _).bind
  intro text _
  apply (returns_ofOption _).bind
  intro value _
  exact hf value

theorem returns_readBody (hrd : rd.data = data.bytes) (kind : UInt8) (seq : UInt64) :
    Returns (readBody lib kind seq (Reader.of rd)) (Core.readBody lib kind seq rd) := by
  unfold readBody Core.readBody
  refine returns_ite ?data fun _ => returns_ite ?relayForward fun _ => returns_ite ?disconnect
    fun _ => returns_ite ?query fun _ => returns_ite ?response fun _ => returns_ite ?notFound
    fun _ => returns_ite ?keepalive fun _ => returns_ite ?keepaliveAck fun _ => returns_failure
  case data =>
    intro _
    apply (reads_vecU32 hrd).bind
    intro ipPacket next _ _
    exact returns_pure _
  case relayForward =>
    intro _
    apply (reads_u32 hrd).bind
    intro nextPeerId next _ hnext
    apply (reads_vecU32 (hnext)).bind
    intro innerPacket last _ _
    exact returns_pure _
  case disconnect =>
    intro _
    exact returns_pure _
  case query =>
    intro _
    apply (reads_vecU32 hrd).bind
    intro bytes next _ _
    apply returns_text
    intro targetIp
    exact returns_pure _
  case response =>
    intro _
    apply (reads_vecU32 hrd).bind
    intro bytes rd _ hrd
    apply returns_text
    intro targetIp
    apply (reads_u32 hrd).bind
    intro peerId rd _ hrd
    apply (reads_vecU32 hrd).bind
    intro bytes rd _ hrd
    apply returns_text
    intro peerAddr
    apply (reads_vecU32 hrd).bind
    intro certBytes rd _ hrd
    apply (returns_ofOption _).bind
    intro peerCert _
    apply (reads_u8 hrd).bind
    intro relay next _ _
    exact returns_pure _
  case notFound =>
    intro _
    apply (reads_vecU32 hrd).bind
    intro bytes next _ _
    apply returns_text
    intro targetIp
    exact returns_pure _
  case keepalive =>
    intro _
    apply (reads_u64 hrd).bind
    intro token next _ _
    exact returns_pure _
  case keepaliveAck =>
    intro _
    apply (reads_u64 hrd).bind
    intro token next _ _
    exact returns_pure _

theorem returns_decryptPacket (hfits : lib.PlaintextFits) (data : Slice)
    (networkKey : NetworkKey) (sessionKey : SessionKey) :
    Returns (decryptPacket lib data.bytes networkKey sessionKey)
      (Core.decryptPacket lib data.bytes networkKey sessionKey) := by
  unfold decryptPacket Core.decryptPacket
  apply (returns_deserializePacket data.bytes).bind
  intro pkt hpkt
  apply (returns_unmaskHeaderBytes lib _ _ networkKey).bind
  intro header _
  apply Returns.step (deriveLabeledKey_eq_ok lib _ _)
  apply Returns.step (packetAad_eq_ok pkt)
  apply (returns_aeadDecrypt lib _ _ _ _).bind
  intro plaintext hplain
  have hlen := plaintext_length_le hfits hpkt hplain
  have hstart : (Cursor.start plaintext).data = (Slice.mk plaintext (by omega)).bytes := rfl
  apply (reads_u8 hstart).bind
  intro kind rd _ hrd
  apply (reads_u64 hrd).bind
  intro seq rd _ hrd
  apply returns_ite
  · intro _
    exact returns_failure
  · intro _
    apply (returns_readBody hrd kind seq).bind
    intro body _
    exact returns_pure _

end BodyRules

/-! ## Handshakes -/

section Handshakes

variable (lib : Primitives)

def parseHandshake1 (data : ByteString) (caVk : HybridVerifyKey) (now : UInt64) :
    ExceptT HandshakeError Checked Handshake1Plain := do
  let rd := Reader.start data
  let signedLen := 1 + 1 + 2 + 8 + 16 + 4 + 32 + mlkemPkLen
  ofResult (ensure (signedLen + 4 + ed25519SigLen + mldsaSigLen ≤ data.length) .tooShort1)
  let (kind, rd) ← orBail .fieldOutOfBounds rd.u8
  ofResult (ensure (kind = kindHandshake1) .wrongKind)
  let (version, rd) ← orBail .fieldOutOfBounds rd.u8
  ofResult (ensure (version = handshakeVersion) .unsupportedVersion)
  let (flags, rd) ← orBail .fieldOutOfBounds rd.u16
  let (timestamp, rd) ← orBail .fieldOutOfBounds rd.u64
  ofResult (validateTimestamp timestamp now)
  let (_, rd) ← orBail .fieldOutOfBounds (rd.bytes 16)
  let (rxSessionId, rd) ← orBail .fieldOutOfBounds rd.u32
  let (ephX25519Pk, rd) ← orBail .fieldOutOfBounds (rd.array 32)
  let (ephMlkemPk, rd) ← orBail .fieldOutOfBounds (rd.array mlkemPkLen)
  let (certBytes, rd) ← orBail .fieldOutOfBounds rd.vecU32
  let cert ← ofResult (orThrow .certFormat (lib.certFromSlice certBytes))
  let signed ← Checked.slice data 0 rd.pos
  let (ed25519, rd) ← orBail .fieldOutOfBounds (rd.array ed25519SigLen)
  let (mlDsa, _) ← orBail .fieldOutOfBounds (rd.array mldsaSigLen)
  ofResult (verifyPeerCertAndSig lib cert caVk now signed ⟨ed25519, mlDsa⟩)
  pure {
    cert := cert
    rxSessionId := rxSessionId
    ephX25519Pk := ephX25519Pk
    ephMlkemPk := ephMlkemPk
    peerIsRelay := flags &&& flagRelay != 0 }

def parseHandshake2 (data expectedHs1Msg : ByteString) (caVk : HybridVerifyKey) (now : UInt64) :
    ExceptT HandshakeError Checked Handshake2Plain := do
  let rd := Reader.start data
  let signedLen := 1 + 1 + 2 + 8 + 16 + 4 + 32 + mlkemCtLen + 32
  ofResult (ensure (signedLen + 4 + ed25519SigLen + mldsaSigLen ≤ data.length) .tooShort2)
  let (kind, rd) ← orBail .fieldOutOfBounds rd.u8
  ofResult (ensure (kind = kindHandshake2) .wrongKind)
  let (version, rd) ← orBail .fieldOutOfBounds rd.u8
  ofResult (ensure (version = handshakeVersion) .unsupportedVersion)
  let (flags, rd) ← orBail .fieldOutOfBounds rd.u16
  let (timestamp, rd) ← orBail .fieldOutOfBounds rd.u64
  ofResult (validateTimestamp timestamp now)
  let (_, rd) ← orBail .fieldOutOfBounds (rd.bytes 16)
  let (rxSessionId, rd) ← orBail .fieldOutOfBounds rd.u32
  let (ephX25519Pk, rd) ← orBail .fieldOutOfBounds (rd.array 32)
  let (mlkemCt, rd) ← orBail .fieldOutOfBounds (rd.array mlkemCtLen)
  let (hs1Hash, rd) ← orBail .fieldOutOfBounds (rd.array 32)
  ofResult (ensure (hs1Hash = lib.blake3Hash expectedHs1Msg) .transcriptMismatch)
  let (certBytes, rd) ← orBail .fieldOutOfBounds rd.vecU32
  let cert ← ofResult (orThrow .certFormat (lib.certFromSlice certBytes))
  let signed ← Checked.slice data 0 rd.pos
  let (ed25519, rd) ← orBail .fieldOutOfBounds (rd.array ed25519SigLen)
  let (mlDsa, _) ← orBail .fieldOutOfBounds (rd.array mldsaSigLen)
  ofResult (verifyPeerCertAndSig lib cert caVk now signed ⟨ed25519, mlDsa⟩)
  pure {
    cert := cert
    rxSessionId := rxSessionId
    ephX25519Pk := ephX25519Pk
    mlkemCt := mlkemCt
    peerIsRelay := flags &&& flagRelay != 0 }

end Handshakes

section HandshakeRules

variable {data : Slice} {rd : Cursor}

theorem slice_pos_eq_ok (hrd : rd.data = data.bytes) :
    Checked.slice data.bytes 0 (Reader.of rd).pos = .ok rd.consumed := by
  rw [← hrd]
  have hslice := Checked.slice_eq_ok (Nat.zero_le rd.pos) rd.pos_le
  rw [List.extract_eq_take_drop, Nat.sub_zero, List.drop_zero] at hslice
  exact hslice

theorem results_signed {α : Type} (lib : Primitives) (caVk : HybridVerifyKey) (now : UInt64)
    (hrd : rd.data = data.bytes) (plain : Cert → α) :
    Results
      (do
        let (certBytes, rd) ← orBail .fieldOutOfBounds (Reader.of rd).vecU32
        let cert ← ofResult (orThrow .certFormat (lib.certFromSlice certBytes))
        let signed ← Checked.slice data.bytes 0 rd.pos
        let (ed25519, rd) ← orBail .fieldOutOfBounds (rd.array ed25519SigLen)
        let (mlDsa, _) ← orBail .fieldOutOfBounds (rd.array mldsaSigLen)
        ofResult (verifyPeerCertAndSig lib cert caVk now signed ⟨ed25519, mlDsa⟩)
        pure (plain cert) : ExceptT HandshakeError Checked α)
      (do
        let (certBytes, rd) ← orThrow .fieldOutOfBounds rd.vecU32
        let cert ← orThrow .certFormat (lib.certFromSlice certBytes)
        let signed := rd.consumed
        let (ed25519, rd) ← orThrow .fieldOutOfBounds (rd.array ed25519SigLen)
        let (mlDsa, _) ← orThrow .fieldOutOfBounds (rd.array mldsaSigLen)
        verifyPeerCertAndSig lib cert caVk now signed ⟨ed25519, mlDsa⟩
        pure (plain cert)) := by
  apply (reads_vecU32 hrd).results
  intro certBytes rd hrd
  apply (results_ofResult _).bind
  intro cert _
  apply Results.step (slice_pos_eq_ok hrd)
  apply (reads_array hrd (by decide)).results
  intro ed25519 rd hrd
  apply (reads_array hrd (by decide)).results
  intro mlDsa rd hrd
  apply (results_ofResult _).bind
  intro _ _
  exact results_pure _

theorem results_parseHandshake1 (lib : Primitives) (data : Slice) (caVk : HybridVerifyKey)
    (now : UInt64) :
    Results (parseHandshake1 lib data.bytes caVk now)
      (Core.parseHandshake1 lib data.bytes caVk now) := by
  unfold parseHandshake1 Core.parseHandshake1
  have hstart : (Cursor.start data.bytes).data = data.bytes := rfl
  apply (results_ofResult _).bind
  intro _ _
  apply (reads_u8 hstart).results
  intro kind rd hrd
  apply (results_ofResult _).bind
  intro _ _
  apply (reads_u8 hrd).results
  intro version rd hrd
  apply (results_ofResult _).bind
  intro _ _
  apply (reads_u16 hrd).results
  intro flags rd hrd
  apply (reads_u64 hrd).results
  intro timestamp rd hrd
  apply (results_ofResult _).bind
  intro _ _
  apply (reads_bytes hrd (by decide)).results
  intro random rd hrd
  apply (reads_u32 hrd).results
  intro rxSessionId rd hrd
  apply (reads_array hrd (by decide)).results
  intro ephX25519Pk rd hrd
  apply (reads_array hrd (by decide)).results
  intro ephMlkemPk rd hrd
  exact results_signed lib caVk now hrd _

theorem results_parseHandshake2 (lib : Primitives) (data : Slice) (expectedHs1Msg : ByteString)
    (caVk : HybridVerifyKey) (now : UInt64) :
    Results (parseHandshake2 lib data.bytes expectedHs1Msg caVk now)
      (Core.parseHandshake2 lib data.bytes expectedHs1Msg caVk now) := by
  unfold parseHandshake2 Core.parseHandshake2
  have hstart : (Cursor.start data.bytes).data = data.bytes := rfl
  apply (results_ofResult _).bind
  intro _ _
  apply (reads_u8 hstart).results
  intro kind rd hrd
  apply (results_ofResult _).bind
  intro _ _
  apply (reads_u8 hrd).results
  intro version rd hrd
  apply (results_ofResult _).bind
  intro _ _
  apply (reads_u16 hrd).results
  intro flags rd hrd
  apply (reads_u64 hrd).results
  intro timestamp rd hrd
  apply (results_ofResult _).bind
  intro _ _
  apply (reads_bytes hrd (by decide)).results
  intro random rd hrd
  apply (reads_u32 hrd).results
  intro rxSessionId rd hrd
  apply (reads_array hrd (by decide)).results
  intro ephX25519Pk rd hrd
  apply (reads_array hrd (by decide)).results
  intro mlkemCt rd hrd
  apply (reads_array hrd (by decide)).results
  intro hs1Hash rd hrd
  apply (results_ofResult _).bind
  intro _ _
  exact results_signed lib caVk now hrd _

end HandshakeRules

end Machine

end Liteway.Core
