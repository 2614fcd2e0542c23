import Liteway.Core.Frag
import Liteway.Core.PacketCodec

/-!
# Opening what was sealed

A sealed handshake message or fragment opens to the plaintext it was made from,
and its header can be read without opening it.
-/

namespace Liteway.Core

open Liteway.Library

variable {lib : Primitives}

/-- The packet that sealing `payload` under `header` puts on the wire. -/
def sealedPacket (lib : Primitives) (coins : SealCoins) (networkKey : NetworkKey)
    (header : NetworkHeader) (payload : ByteString) : DataPacket :=
  { maskNonce := coins.maskNonce
    maskedHeader := maskNetworkHeader lib header coins.maskNonce networkKey
    nonce := coins.nonce
    ciphertext := lib.aeadEncrypt networkKey coins.nonce payload
      (coins.maskNonce.toList ++ (maskNetworkHeader lib header coins.maskNonce networkKey).toList) }

theorem sealHandshakeWithHeader_eq (coins : SealCoins) (networkKey : NetworkKey)
    (plaintext : ByteString) (dstPeerId sessionId : UInt32) :
    sealHandshakeWithHeader lib coins networkKey plaintext dstPeerId sessionId =
      serializePacket (sealedPacket lib coins networkKey
        { (handshakeHeaderAndPayload plaintext).1 with
          dstPeerId := dstPeerId, sessionId := sessionId }
        (handshakeHeaderAndPayload plaintext).2) := rfl

theorem deserializePacket_sealedPacket (haead : lib.AeadCorrect) (coins : SealCoins)
    (networkKey : NetworkKey) (header : NetworkHeader) (payload : ByteString) :
    deserializePacket (serializePacket (sealedPacket lib coins networkKey header payload)) =
      some (sealedPacket lib coins networkKey header payload) := by
  apply deserializePacket_serializePacket
  simp only [sealedPacket, haead.encrypt_length]
  omega

theorem networkHeader_sealedPacket (haead : lib.AeadCorrect) (coins : SealCoins)
    (networkKey : NetworkKey) {header : NetworkHeader} (hkind : header.kind ∈ knownKinds)
    (payload : ByteString) :
    networkHeader lib (serializePacket (sealedPacket lib coins networkKey header payload))
      networkKey = some header := by
  rw [networkHeader_eq_unmaskPacketHeader, deserializePacket_sealedPacket haead]
  exact unmaskHeaderBytes_mask hkind coins.maskNonce networkKey

theorem openHandshake_sealedPacket (haead : lib.AeadCorrect) (coins : SealCoins)
    (networkKey : NetworkKey) {header : NetworkHeader} (hkind : header.kind ∈ knownKinds)
    (payload : ByteString) :
    openHandshake lib networkKey
        (serializePacket (sealedPacket lib coins networkKey header payload)) =
      if header.kind = kindHandshakeFrag then
        if header.fragTotal = 0 ∨ header.fragIndex ≥ header.fragTotal then none
        else
          some (kindHandshakeFrag :: ((u32BE header.sessionId).toList ++
            (header.fragIndex :: header.fragTotal :: payload)))
      else if header.fragIndex ≠ 0 ∨ header.fragTotal ≠ 0 then none
      else if payload[0]? = some header.kind then some payload
      else none := by
  have hheader : unmaskPacketHeader lib (sealedPacket lib coins networkKey header payload)
      networkKey = some header :=
    unmaskHeaderBytes_mask hkind coins.maskNonce networkKey
  have hdecrypt : lib.aeadDecrypt networkKey
      (sealedPacket lib coins networkKey header payload).nonce
      (sealedPacket lib coins networkKey header payload).ciphertext
      (packetAad (sealedPacket lib coins networkKey header payload)) = some payload :=
    haead.decrypt_encrypt _ _ _ _
  unfold openHandshake
  simp only [deserializePacket_sealedPacket haead, Option.bind_eq_bind, Option.bind_some, hheader,
    hdecrypt]

theorem handshakeHeaderAndPayload_of_ne {kind : UInt8} {plaintext : ByteString}
    (hhead : plaintext[0]? = some kind) (hkind : kind ≠ kindHandshakeFrag) :
    handshakeHeaderAndPayload plaintext =
      ({ kind := kind, fragIndex := 0, fragTotal := 0, dstPeerId := 0, sessionId := 0 },
        plaintext) := by
  unfold handshakeHeaderAndPayload
  rw [dif_neg (by simp [hhead, hkind]), hhead]
  rfl

theorem openHandshake_seal (hlib : lib.Correct) (coins : SealCoins) (networkKey : NetworkKey)
    {kind : UInt8} {plaintext : ByteString} (dstPeerId sessionId : UInt32)
    (hhead : plaintext[0]? = some kind) (hknown : kind ∈ knownKinds)
    (hfrag : kind ≠ kindHandshakeFrag) :
    openHandshake lib networkKey
      (sealHandshakeWithHeader lib coins networkKey plaintext dstPeerId sessionId) =
      some plaintext := by
  rw [sealHandshakeWithHeader_eq, handshakeHeaderAndPayload_of_ne hhead hfrag]
  rw [openHandshake_sealedPacket hlib.aead _ _ hknown]
  simp [hfrag, hhead]

theorem networkHeader_seal (hlib : lib.Correct) (coins : SealCoins) (networkKey : NetworkKey)
    {kind : UInt8} {plaintext : ByteString} (dstPeerId sessionId : UInt32)
    (hhead : plaintext[0]? = some kind) (hknown : kind ∈ knownKinds)
    (hfrag : kind ≠ kindHandshakeFrag) :
    networkHeader lib
      (sealHandshakeWithHeader lib coins networkKey plaintext dstPeerId sessionId)
      networkKey =
      some { kind := kind, fragIndex := 0, fragTotal := 0, dstPeerId := dstPeerId,
             sessionId := sessionId } := by
  rw [sealHandshakeWithHeader_eq, handshakeHeaderAndPayload_of_ne hhead hfrag]
  exact networkHeader_sealedPacket hlib.aead coins networkKey hknown _

theorem length_seal (hlib : lib.Correct) (coins : SealCoins) (networkKey : NetworkKey)
    {kind : UInt8} {plaintext : ByteString} (dstPeerId sessionId : UInt32)
    (hhead : plaintext[0]? = some kind) (hfrag : kind ≠ kindHandshakeFrag) :
    (sealHandshakeWithHeader lib coins networkKey plaintext dstPeerId sessionId).length =
      packetOverhead + plaintext.length := by
  unfold sealHandshakeWithHeader
  rw [handshakeHeaderAndPayload_of_ne hhead hfrag]
  simp only [List.length_append, Vector.length_toList, hlib.aead_encrypt_length, packetOverhead]
  omega

/-! ## Fragments -/

/-- The plaintext of one fragment before it is sealed. -/
def fragmentPlain (msgId : UInt32) (index total : UInt8) (chunk : ByteString) : ByteString :=
  kindHandshakeFrag :: ((u32BE msgId).toList ++ (index :: total :: chunk))

private theorem fragmentPlain_guard (msgId : UInt32) (index total : UInt8) (chunk : ByteString) :
    7 ≤ (fragmentPlain msgId index total chunk).length ∧
      (fragmentPlain msgId index total chunk)[0]? = some kindHandshakeFrag := by
  constructor
  · simp [fragmentPlain]
    omega
  · rfl

private theorem slice_fragmentPlain (msgId : UInt32) (index total : UInt8) (chunk : ByteString)
    (h : 1 + 4 ≤ (fragmentPlain msgId index total chunk).length) :
    Bytes.slice (fragmentPlain msgId index total chunk) 1 4 h = u32BE msgId := by
  have hdata : fragmentPlain msgId index total chunk =
      [kindHandshakeFrag] ++ ((u32BE msgId).toList ++ (index :: total :: chunk)) := rfl
  exact Bytes.slice_eq h hdata rfl

theorem handshakeHeaderAndPayload_fragmentPlain (msgId : UInt32) (index total : UInt8)
    (chunk : ByteString) :
    handshakeHeaderAndPayload (fragmentPlain msgId index total chunk) =
      ({ kind := kindHandshakeFrag, fragIndex := index, fragTotal := total, dstPeerId := 0,
         sessionId := msgId }, chunk) := by
  have hguard := fragmentPlain_guard msgId index total chunk
  unfold handshakeHeaderAndPayload
  rw [dif_pos hguard, slice_fragmentPlain, decodeU32BE_u32BE]
  rfl

theorem sealHandshakeToPeer_fragmentPlain (coins : SealCoins) (networkKey : NetworkKey)
    (msgId : UInt32) (index total : UInt8) (chunk : ByteString) (dstPeerId : UInt32) :
    sealHandshakeToPeer lib coins networkKey (fragmentPlain msgId index total chunk) dstPeerId =
      serializePacket (sealedPacket lib coins networkKey
        { kind := kindHandshakeFrag, fragIndex := index, fragTotal := total,
          dstPeerId := dstPeerId, sessionId := msgId } chunk) := by
  have hguard := fragmentPlain_guard msgId index total chunk
  unfold sealHandshakeToPeer
  rw [dif_pos hguard, slice_fragmentPlain, decodeU32BE_u32BE, sealHandshakeWithHeader_eq,
    handshakeHeaderAndPayload_fragmentPlain]

theorem openHandshake_fragment (haead : lib.AeadCorrect) (coins : SealCoins) (networkKey : NetworkKey)
    (msgId : UInt32) {index total : UInt8} (chunk : ByteString) (dstPeerId : UInt32)
    (hindex : index < total) :
    openHandshake lib networkKey
      (sealHandshakeToPeer lib coins networkKey (fragmentPlain msgId index total chunk)
        dstPeerId) = some (fragmentPlain msgId index total chunk) := by
  have htotal : ¬ (total = 0 ∨ index ≥ total) := by
    rintro (rfl | hge)
    · exact absurd hindex UInt8.not_lt_zero
    · exact absurd hindex (UInt8.not_lt.mpr hge)
  have hknown : kindHandshakeFrag ∈ knownKinds := by decide
  rw [sealHandshakeToPeer_fragmentPlain, openHandshake_sealedPacket haead _ _ hknown]
  simp only [↓reduceIte, htotal]
  rfl

theorem openFragment_sealFragment (haead : lib.AeadCorrect) (coins : SealCoins) (networkKey : NetworkKey)
    (dstPeerId msgId : UInt32) {index total : UInt8} (chunk : ByteString) (hindex : index < total) :
    FragmentAssembler.openFragment lib networkKey
        (sealFragment lib coins networkKey dstPeerId msgId index total chunk) =
      some { msgId := msgId, index := index.toNat, total := total.toNat, chunk := chunk } := by
  have hguard := fragmentPlain_guard msgId index total chunk
  have hopen : openHandshake lib networkKey
      (sealFragment lib coins networkKey dstPeerId msgId index total chunk) =
      some (fragmentPlain msgId index total chunk) :=
    openHandshake_fragment haead coins networkKey msgId chunk dstPeerId hindex
  have hkind : ¬ ((fragmentPlain msgId index total chunk).isEmpty = true ∨
      (fragmentPlain msgId index total chunk)[0]? ≠ some kindHandshakeFrag) := by
    simp [fragmentPlain]
  unfold FragmentAssembler.openFragment
  simp only [hopen, hkind, ↓reduceIte, dif_neg (Nat.not_lt.mpr hguard.1), slice_fragmentPlain,
    decodeU32BE_u32BE]
  rfl

theorem openFragment_of_undecodable {networkKey : NetworkKey} {data : ByteString}
    (hheader : networkHeader lib data networkKey = none) :
    FragmentAssembler.openFragment lib networkKey data = none := by
  rw [networkHeader_eq_unmaskPacketHeader] at hheader
  have hopen : openHandshake lib networkKey data = none := by
    unfold openHandshake
    cases hpkt : deserializePacket data with
    | none => rfl
    | some pkt =>
        rw [hpkt, Option.bind_some] at hheader
        simp only [Option.bind_eq_bind, Option.bind_some, hheader, Option.bind_none]
  unfold FragmentAssembler.openFragment
  rw [hopen]

theorem openFragment_of_kind_ne {networkKey : NetworkKey} {data : ByteString}
    {header : NetworkHeader} (hheader : networkHeader lib data networkKey = some header)
    (hkind : header.kind ≠ kindHandshakeFrag) :
    FragmentAssembler.openFragment lib networkKey data = none := by
  rw [networkHeader_eq_unmaskPacketHeader, Option.bind_eq_some_iff] at hheader
  obtain ⟨pkt, hpkt, hunmask⟩ := hheader
  have hopen : ∀ plain, openHandshake lib networkKey data = some plain →
      plain[0]? = some header.kind := by
    intro plain hplain
    simp only [openHandshake, hpkt, hunmask, Option.bind_eq_bind, Option.bind_some,
      Option.bind_eq_some_iff, hkind, ↓reduceIte] at hplain
    obtain ⟨plaintext, -, hplain⟩ := hplain
    split at hplain
    · contradiction
    split at hplain
    · rename_i hfirst
      cases Option.some.inj hplain
      exact hfirst
    · contradiction
  unfold FragmentAssembler.openFragment
  split
  · rfl
  · rename_i plain hplain
    rw [if_pos]
    right
    rw [hopen plain hplain]
    simpa using hkind

end Liteway.Core
