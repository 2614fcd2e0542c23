import Liteway.Core.Packet

/-!
# Header and packet round trips

The masked header and the packet framing are read back exactly as they were
written.  Handshakes, fragments and session packets all rest on these rules.
-/

namespace Liteway.Core

open Liteway.Library

theorem encodeHeader_toList (header : NetworkHeader) :
    (encodeHeader header).toList =
      [header.kind, header.fragIndex, header.fragTotal, 0] ++
        ((u32BE header.dstPeerId).toList ++ ((u32BE header.sessionId).toList ++ [0, 0, 0, 0])) := by
  simp [encodeHeader]

theorem decodeHeader_encodeHeader {header : NetworkHeader} (hkind : header.kind ∈ knownKinds) :
    decodeHeader (encodeHeader header) = some header := by
  have hlist := encodeHeader_toList header
  have hdst : Bytes.slice (encodeHeader header).toList 4 4 (by simp [networkHeaderLen]) =
      u32BE header.dstPeerId :=
    Bytes.slice_eq _ hlist rfl
  have hsession : Bytes.slice (encodeHeader header).toList 8 4 (by simp [networkHeaderLen]) =
      u32BE header.sessionId := by
    refine Bytes.slice_eq _ (hlist.trans (List.append_assoc _ _ _).symm) (by simp)
  have hreserved : Bytes.slice (encodeHeader header).toList 12 4 (by simp [networkHeaderLen]) =
      #v[0, 0, 0, 0] := by
    have htail : (encodeHeader header).toList =
        ([header.kind, header.fragIndex, header.fragTotal, 0] ++ (u32BE header.dstPeerId).toList ++
          (u32BE header.sessionId).toList) ++ ((#v[0, 0, 0, 0] : Bytes 4).toList ++ []) := by
      simp [hlist]
    exact Bytes.slice_eq _ htail (by simp)
  unfold decodeHeader
  rw [hreserved, hdst, hsession, decodeU32BE_u32BE, decodeU32BE_u32BE]
  simp [encodeHeader, hkind]

theorem kind_mem_of_decodeHeader {bytes : Bytes networkHeaderLen} {header : NetworkHeader}
    (h : decodeHeader bytes = some header) : header.kind ∈ knownKinds := by
  unfold decodeHeader at h
  split at h
  · contradiction
  · split at h
    · contradiction
    · rename_i hkind
      simp only [Option.some.injEq] at h
      subst header
      exact Classical.not_not.mp hkind

section Codec

variable {lib : Primitives}

theorem unmaskHeaderBytes_mask {header : NetworkHeader} (hkind : header.kind ∈ knownKinds)
    (maskNonce : Bytes maskNonceLen) (networkKey : NetworkKey) :
    unmaskHeaderBytes lib maskNonce (maskNetworkHeader lib header maskNonce networkKey)
      networkKey = some header := by
  unfold unmaskHeaderBytes maskNetworkHeader
  rw [Bytes.xor_cancel_right, decodeHeader_encodeHeader hkind]

theorem serializePacket_length (pkt : DataPacket) :
    (serializePacket pkt).length = 36 + pkt.ciphertext.length := by
  simp only [serializePacket, List.length_append, Vector.length_toList]
  change 8 + (16 + (12 + _)) = _
  omega

theorem deserializePacket_serializePacket {pkt : DataPacket}
    (hlen : aeadTagLen ≤ pkt.ciphertext.length) :
    deserializePacket (serializePacket pkt) = some pkt := by
  have hlong : ¬ (serializePacket pkt).length < minPacketLen := by
    rw [serializePacket_length]
    change ¬ 36 + _ < 52
    change 16 ≤ _ at hlen
    omega
  unfold deserializePacket
  rw [dif_neg hlong]
  congr 1
  obtain ⟨maskNonce, maskedHeader, nonce, ciphertext⟩ := pkt
  have hmask : ∀ h, Bytes.slice (serializePacket ⟨maskNonce, maskedHeader, nonce, ciphertext⟩)
      0 maskNonceLen h = maskNonce :=
    fun h => Bytes.slice_eq h (List.nil_append _).symm rfl
  have hheader : ∀ h, Bytes.slice (serializePacket ⟨maskNonce, maskedHeader, nonce, ciphertext⟩)
      maskNonceLen networkHeaderLen h = maskedHeader :=
    fun h => Bytes.slice_eq h rfl (by simp)
  have hnonce : ∀ h, Bytes.slice (serializePacket ⟨maskNonce, maskedHeader, nonce, ciphertext⟩)
      (maskNonceLen + networkHeaderLen) nonceLen h = nonce :=
    fun h => Bytes.slice_eq h (List.append_assoc _ _ _).symm (by simp)
  simp only [hmask, hheader, hnonce, DataPacket.mk.injEq, true_and]
  have hdata : serializePacket ⟨maskNonce, maskedHeader, nonce, ciphertext⟩ =
      (maskNonce.toList ++ maskedHeader.toList ++ nonce.toList) ++ ciphertext := by
    simp [serializePacket]
  rw [hdata]
  exact List.drop_left' (by simp only [List.length_append, Vector.length_toList])

theorem serializePacket_deserializePacket {data : ByteString} {pkt : DataPacket}
    (h : deserializePacket data = some pkt) :
    serializePacket pkt = data ∧ aeadTagLen ≤ pkt.ciphertext.length := by
  unfold deserializePacket at h
  split at h
  · contradiction
  · rename_i hlong
    change ¬ data.length < 52 at hlong
    simp only [Option.some.injEq] at h
    subst pkt
    refine ⟨?_, ?_⟩
    · have hfirst : data.take 8 ++ data.drop 8 = data := List.take_append_drop 8 data
      have hsecond : (data.drop 8).take 16 ++ data.drop 24 = data.drop 8 := by
        rw [← List.drop_drop (i := 16) (j := 8), List.take_append_drop]
      have hthird : (data.drop 24).take 12 ++ data.drop 36 = data.drop 24 := by
        rw [← List.drop_drop (i := 12) (j := 24), List.take_append_drop]
      simp only [serializePacket, Bytes.toList_slice, List.drop_zero]
      change data.take 8 ++ ((data.drop 8).take 16 ++ ((data.drop 24).take 12 ++ data.drop 36)) = data
      rw [hthird, hsecond, hfirst]
    · change 16 ≤ (data.drop 36).length
      rw [List.length_drop]
      omega

/-- The fast header path agrees with reading the whole packet first. -/
theorem networkHeader_eq_unmaskPacketHeader (data : ByteString) (networkKey : NetworkKey) :
    networkHeader lib data networkKey =
      (deserializePacket data).bind fun pkt => unmaskPacketHeader lib pkt networkKey := by
  unfold networkHeader deserializePacket
  split
  · rfl
  · rfl

end Codec

end Liteway.Core
