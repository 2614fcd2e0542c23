import Liteway.Core.PacketCodec
import Mathlib.Data.Set.Function

/-!
# One header, two readers

Where a datagram goes is decided on the header that is read straight off the wire;
what is done with it depends on the packet that is decrypted.  The masked headers
that are accepted are exactly those of known headers, and a packet that decrypts
has the header and the kind that were seen before.
-/

namespace Liteway.Core

open Liteway.Library

/-- The reserved bytes are checked, so a header is encoded by one byte string only. -/
theorem encodeHeader_of_decodeHeader {bytes : Bytes networkHeaderLen} {header : NetworkHeader}
    (h : decodeHeader bytes = some header) : encodeHeader header = bytes := by
  unfold decodeHeader at h
  split at h
  · contradiction
  · rename_i hreserved
    split at h
    · contradiction
    · rw [not_or, Classical.not_not, Classical.not_not, Bytes.toList_slice] at hreserved
      obtain ⟨hthird, htail⟩ := hreserved
      cases h
      have hlen : bytes.toList.length = 16 := Vector.length_toList
      have hkind : bytes.toList.take 4 = [bytes[0], bytes[1], bytes[2], bytes[3]] := by
        apply List.ext_getElem
        · simp [networkHeaderLen]
        · intro i hi hi'
          have hsmall : i < 4 := hi'
          have hcases : i = 0 ∨ i = 1 ∨ i = 2 ∨ i = 3 := by omega
          obtain rfl | rfl | rfl | rfl := hcases
          all_goals simp
      have htail' : bytes.toList.drop 12 = [0, 0, 0, 0] := by
        rw [← htail, List.take_of_length_le]
        rw [List.length_drop, hlen]
      apply Vector.toList_inj.mp
      rw [encodeHeader_toList]
      simp only [u32BE_decodeU32BE, Bytes.toList_slice]
      rw [← htail', ← hthird, ← hkind]
      calc bytes.toList.take 4 ++ ((bytes.toList.drop 4).take 4 ++
            ((bytes.toList.drop 8).take 4 ++ bytes.toList.drop 12))
          = bytes.toList.take 4 ++ ((bytes.toList.drop 4).take 4 ++ bytes.toList.drop 8) := by
            rw [← @List.drop_drop _ 4 8, List.take_append_drop]
        _ = bytes.toList.take 4 ++ bytes.toList.drop 4 := by
            rw [← @List.drop_drop _ 4 4, List.take_append_drop]
        _ = bytes.toList := List.take_append_drop 4 bytes.toList

section Codec

variable {lib : Primitives}

theorem unmaskHeaderBytes_eq_some_iff {maskNonce : Bytes maskNonceLen}
    {masked : Bytes networkHeaderLen} {networkKey : NetworkKey} {header : NetworkHeader} :
    unmaskHeaderBytes lib maskNonce masked networkKey = some header ↔
      header.kind ∈ knownKinds ∧ maskNetworkHeader lib header maskNonce networkKey = masked := by
  constructor
  · intro h
    refine ⟨kind_mem_of_decodeHeader h, ?_⟩
    unfold maskNetworkHeader
    rw [encodeHeader_of_decodeHeader h, Bytes.xor_cancel_right]
  · rintro ⟨hkind, rfl⟩
    exact unmaskHeaderBytes_mask hkind maskNonce networkKey

theorem bijOn_maskNetworkHeader (maskNonce : Bytes maskNonceLen) (networkKey : NetworkKey) :
    Set.BijOn (fun header => maskNetworkHeader lib header maskNonce networkKey)
      {header | header.kind ∈ knownKinds}
      {masked | (unmaskHeaderBytes lib maskNonce masked networkKey).isSome = true} := by
  refine ⟨?_, ?_, ?_⟩
  · intro header hkind
    rw [Set.mem_ofPred_eq, unmaskHeaderBytes_mask hkind]
    rfl
  · intro header hkind header' hkind' hmask
    have hheader := @unmaskHeaderBytes_mask lib header hkind maskNonce networkKey
    have hheader' := @unmaskHeaderBytes_mask lib header' hkind' maskNonce networkKey
    dsimp only at hmask
    rw [hmask, hheader'] at hheader
    exact (Option.some.inj hheader).symm
  · intro masked hsome
    obtain ⟨header, hheader⟩ := Option.isSome_iff_exists.mp hsome
    obtain ⟨hkind, hmask⟩ := unmaskHeaderBytes_eq_some_iff.mp hheader
    exact ⟨header, hkind, hmask⟩

theorem kind_of_readBody {kind : UInt8} {seq : UInt64} {rd : Cursor} {body : PacketBody}
    (h : readBody lib kind seq rd = some body) : body.kind = kind := by
  unfold readBody at h
  split at h
  · rename_i hkind
    obtain ⟨⟨ipPacket, rd⟩, -, h⟩ := Option.bind_eq_some_iff.mp h
    cases h
    exact hkind.symm
  split at h
  · rename_i hkind
    obtain ⟨⟨nextPeerId, rd⟩, -, h⟩ := Option.bind_eq_some_iff.mp h
    obtain ⟨⟨innerPacket, rd⟩, -, h⟩ := Option.bind_eq_some_iff.mp h
    cases h
    exact hkind.symm
  split at h
  · rename_i hkind
    cases h
    exact hkind.symm
  split at h
  · rename_i hkind
    obtain ⟨⟨text, rd⟩, -, h⟩ := Option.bind_eq_some_iff.mp h
    obtain ⟨text, -, h⟩ := Option.bind_eq_some_iff.mp h
    obtain ⟨targetIp, -, h⟩ := Option.bind_eq_some_iff.mp h
    cases h
    exact hkind.symm
  split at h
  · rename_i hkind
    obtain ⟨⟨text, rd⟩, -, h⟩ := Option.bind_eq_some_iff.mp h
    obtain ⟨text, -, h⟩ := Option.bind_eq_some_iff.mp h
    obtain ⟨targetIp, -, h⟩ := Option.bind_eq_some_iff.mp h
    obtain ⟨⟨peerId, rd⟩, -, h⟩ := Option.bind_eq_some_iff.mp h
    obtain ⟨⟨text, rd⟩, -, h⟩ := Option.bind_eq_some_iff.mp h
    obtain ⟨text, -, h⟩ := Option.bind_eq_some_iff.mp h
    obtain ⟨peerAddr, -, h⟩ := Option.bind_eq_some_iff.mp h
    obtain ⟨⟨certBytes, rd⟩, -, h⟩ := Option.bind_eq_some_iff.mp h
    obtain ⟨peerCert, -, h⟩ := Option.bind_eq_some_iff.mp h
    obtain ⟨⟨relay, rd⟩, -, h⟩ := Option.bind_eq_some_iff.mp h
    cases h
    exact hkind.symm
  split at h
  · rename_i hkind
    obtain ⟨⟨text, rd⟩, -, h⟩ := Option.bind_eq_some_iff.mp h
    obtain ⟨text, -, h⟩ := Option.bind_eq_some_iff.mp h
    obtain ⟨targetIp, -, h⟩ := Option.bind_eq_some_iff.mp h
    cases h
    exact hkind.symm
  split at h
  · rename_i hkind
    obtain ⟨⟨token, rd⟩, -, h⟩ := Option.bind_eq_some_iff.mp h
    cases h
    exact hkind.symm
  split at h
  · rename_i hkind
    obtain ⟨⟨token, rd⟩, -, h⟩ := Option.bind_eq_some_iff.mp h
    cases h
    exact hkind.symm
  · contradiction

theorem decryptPacket_header {data : ByteString} {networkKey : NetworkKey}
    {sessionKey : SessionKey} {header : NetworkHeader} {body : PacketBody}
    (h : decryptPacket lib data networkKey sessionKey = some (header, body)) :
    networkHeader lib data networkKey = some header ∧ body.kind = header.kind := by
  unfold decryptPacket at h
  obtain ⟨pkt, hpkt, h⟩ := Option.bind_eq_some_iff.mp h
  obtain ⟨header', hheader, h⟩ := Option.bind_eq_some_iff.mp h
  obtain ⟨plaintext, -, h⟩ := Option.bind_eq_some_iff.mp h
  obtain ⟨⟨kind, rd⟩, -, h⟩ := Option.bind_eq_some_iff.mp h
  obtain ⟨⟨seq, rd'⟩, -, h⟩ := Option.bind_eq_some_iff.mp h
  dsimp only at h
  split at h
  · contradiction
  · rename_i hkind
    obtain ⟨body', hbody, h⟩ := Option.bind_eq_some_iff.mp h
    cases h
    refine ⟨?_, ?_⟩
    · rw [networkHeader_eq_unmaskPacketHeader, hpkt]
      exact hheader
    · rw [kind_of_readBody hbody]
      exact Classical.not_not.mp hkind

end Codec

/-- The two readers agree on every byte string, masking is a bijection between the
known headers and the accepted masked ones, and a packet that decrypts has the
header on which its way was decided. -/
theorem headerPaths_agree (lib : Primitives) (networkKey : NetworkKey) :
    (∀ data, networkHeader lib data networkKey =
      (deserializePacket data).bind fun pkt => unmaskPacketHeader lib pkt networkKey) ∧
    (∀ maskNonce,
      (∀ header, header.kind ∈ knownKinds → unmaskHeaderBytes lib maskNonce
        (maskNetworkHeader lib header maskNonce networkKey) networkKey = some header) ∧
      (∀ masked header, unmaskHeaderBytes lib maskNonce masked networkKey = some header →
        maskNetworkHeader lib header maskNonce networkKey = masked) ∧
      Set.BijOn (fun header => maskNetworkHeader lib header maskNonce networkKey)
        {header | header.kind ∈ knownKinds}
        {masked | (unmaskHeaderBytes lib maskNonce masked networkKey).isSome = true}) ∧
    ∀ data sessionKey header body,
      decryptPacket lib data networkKey sessionKey = some (header, body) →
        networkHeader lib data networkKey = some header ∧ body.kind = header.kind := by
  refine ⟨fun data => networkHeader_eq_unmaskPacketHeader data networkKey, ?_, ?_⟩
  · intro maskNonce
    refine ⟨?_, ?_, bijOn_maskNetworkHeader maskNonce networkKey⟩
    · intro header hkind
      exact unmaskHeaderBytes_mask hkind maskNonce networkKey
    · intro masked header h
      exact (unmaskHeaderBytes_eq_some_iff.mp h).2
  · intro data sessionKey header body h
    exact decryptPacket_header h

end Liteway.Core
