import Liteway.Core.Sealing
import Liteway.Core.Transparent

/-!
# What the fragmenter puts on the wire

A message that fits is cut into consecutive chunks, and each chunk is sealed with
its index, the number of chunks and the receiver.  A message that does not fit, or
a datagram limit that leaves no room for data, is refused before anything is sent.
-/

namespace Liteway.Core

open Liteway.Library

/-- The number of fragments of a message; an empty one takes one as well. -/
def fragmentTotal (data : ByteString) (maxDatagram : Nat) : Nat :=
  max (divCeil data.length (maxDatagram - packetOverhead)) 1

/-- The `index`-th datagram of a message. -/
def fragmentDatagram (lib : Primitives) (coins : Nat → SealCoins) (data : ByteString)
    (networkKey : NetworkKey) (maxDatagram : Nat) (dstPeerId msgId : UInt32) (index : Nat) :
    ByteString :=
  sealFragment lib (coins index) networkKey dstPeerId msgId (UInt8.ofNat index)
    (UInt8.ofNat (fragmentTotal data maxDatagram)) (chunk (maxDatagram - packetOverhead) data index)

section Sending

variable {lib : Primitives} {coins : Nat → SealCoins} {data : ByteString}
  {networkKey : NetworkKey} {maxDatagram : Nat} {dstPeerId msgId : UInt32}

theorem chunkSize_pos_of_le (hsize : minDatagram ≤ maxDatagram) : 0 < maxDatagram - packetOverhead := by
  simp only [minDatagram] at hsize
  omega

theorem fragmentTotal_le_iff (hsize : minDatagram ≤ maxDatagram) :
    fragmentTotal data maxDatagram ≤ 255 ↔ data.length ≤ 255 * (maxDatagram - packetOverhead) := by
  unfold fragmentTotal
  rw [Nat.max_le, divCeil_le_iff (chunkSize_pos_of_le hsize)]
  exact and_iff_left (by decide)

theorem fragmentTotal_nil (hsize : minDatagram ≤ maxDatagram) : fragmentTotal [] maxDatagram = 1 := by
  have hpos := chunkSize_pos_of_le hsize
  unfold fragmentTotal divCeil
  rw [List.length_nil, Nat.zero_add, Nat.div_eq_of_lt (Nat.sub_lt hpos Nat.one_pos)]
  rfl

theorem fragmentTotal_of_ne_nil (hsize : minDatagram ≤ maxDatagram) (hdata : data ≠ []) :
    fragmentTotal data maxDatagram = divCeil data.length (maxDatagram - packetOverhead) := by
  have hpos : 0 < data.length := List.length_pos_iff.mpr hdata
  have hle := le_divCeil_mul (n := data.length) (chunkSize_pos_of_le hsize)
  apply Nat.max_eq_left
  apply Nat.pos_of_ne_zero
  intro hzero
  rw [hzero, Nat.zero_mul] at hle
  omega

theorem sendFragmentedWithId_eq_ok (hsize : minDatagram ≤ maxDatagram)
    (hfits : fragmentTotal data maxDatagram ≤ 255) :
    sendFragmentedWithId lib coins data networkKey maxDatagram dstPeerId msgId =
      .ok ((List.range (fragmentTotal data maxDatagram)).map
        (fragmentDatagram lib coins data networkKey maxDatagram dstPeerId msgId)) := by
  have htotal : ¬ max (divCeil data.length (maxDatagram - packetOverhead)) 1 > 255 :=
    Nat.not_lt.mpr hfits
  unfold sendFragmentedWithId
  rw [if_neg (Nat.not_lt.mpr hsize)]
  simp only [htotal, ↓reduceIte]
  split
  · -- an empty message still takes one fragment
    rename_i hempty
    cases List.isEmpty_iff.mp hempty
    simp [fragmentTotal_nil hsize, fragmentDatagram, chunk]
  · rename_i hne
    have hcount := fragmentTotal_of_ne_nil hsize (by simpa using hne)
    congr 1
    apply List.ext_getElem
    · simp [chunks, hcount]
    · intro i hleft hright
      simp [chunks, fragmentDatagram, fragmentTotal]

theorem sendFragmentedWithId_eq_tooManyChunks (hsize : minDatagram ≤ maxDatagram)
    (hmany : ¬ fragmentTotal data maxDatagram ≤ 255) :
    sendFragmentedWithId lib coins data networkKey maxDatagram dstPeerId msgId =
      .error .tooManyChunks := by
  have htotal : max (divCeil data.length (maxDatagram - packetOverhead)) 1 > 255 :=
    Nat.not_le.mp hmany
  unfold sendFragmentedWithId
  rw [if_neg (Nat.not_lt.mpr hsize)]
  simp only [htotal, ↓reduceIte]

/-- Exactly what does not fit is refused. -/
theorem sendFragmentedWithId_eq_error_iff :
    (∃ error, sendFragmentedWithId lib coins data networkKey maxDatagram dstPeerId msgId =
      .error error) ↔
      maxDatagram < minDatagram ∨ 255 * (maxDatagram - packetOverhead) < data.length := by
  by_cases hsize : maxDatagram < minDatagram
  · simp [sendFragmentedWithId, hsize]
  have hle := Nat.not_lt.mp hsize
  by_cases hfits : fragmentTotal data maxDatagram ≤ 255
  · have hdata := (fragmentTotal_le_iff hle).mp hfits
    rw [sendFragmentedWithId_eq_ok hle hfits]
    constructor
    · rintro ⟨error, herror⟩
      contradiction
    · rintro (hlt | hlong)
      · exact absurd hlt hsize
      · exact absurd hdata (Nat.not_le.mpr hlong)
  · have hlong := (fragmentTotal_le_iff hle).not.mp hfits
    exact iff_of_true ⟨_, sendFragmentedWithId_eq_tooManyChunks hle hfits⟩
      (Or.inr (Nat.not_le.mp hlong))

/-! ## One datagram -/

theorem length_sealFragment (haead : lib.AeadCorrect) (coins : SealCoins) (networkKey : NetworkKey)
    (dstPeerId msgId : UInt32) (index total : UInt8) (chunk : ByteString) :
    (sealFragment lib coins networkKey dstPeerId msgId index total chunk).length =
      packetOverhead + chunk.length := by
  change (sealHandshakeToPeer lib coins networkKey (fragmentPlain msgId index total chunk)
    dstPeerId).length = _
  rw [sealHandshakeToPeer_fragmentPlain, serializePacket_length]
  simp only [sealedPacket, haead.encrypt_length]
  change 36 + (chunk.length + 16) = 52 + chunk.length
  omega

theorem networkHeader_sealFragment (haead : lib.AeadCorrect) (coins : SealCoins)
    (networkKey : NetworkKey) (dstPeerId msgId : UInt32) (index total : UInt8)
    (chunk : ByteString) :
    networkHeader lib (sealFragment lib coins networkKey dstPeerId msgId index total chunk)
      networkKey =
      some { kind := kindHandshakeFrag, fragIndex := index, fragTotal := total,
             dstPeerId := dstPeerId, sessionId := msgId } := by
  change networkHeader lib (sealHandshakeToPeer lib coins networkKey
    (fragmentPlain msgId index total chunk) dstPeerId) networkKey = _
  rw [sealHandshakeToPeer_fragmentPlain]
  exact networkHeader_sealedPacket haead coins networkKey (show kindHandshakeFrag ∈ knownKinds by decide) _

/-- The datagram is within the limit, opens to the given chunk under its index and
its total, and is addressed to the receiver. -/
structure CarriesChunk (lib : Primitives) (networkKey : NetworkKey) (maxDatagram : Nat)
    (dstPeerId msgId : UInt32) (index total : Nat) (chunk datagram : ByteString) : Prop where
  length_le : datagram.length ≤ maxDatagram
  opens : ∃ i n : UInt8, i.toNat = index ∧ n.toNat = total ∧
    openHandshake lib networkKey datagram = some (fragmentPlain msgId i n chunk) ∧
    networkHeader lib datagram networkKey =
      some { kind := kindHandshakeFrag, fragIndex := i, fragTotal := n, dstPeerId := dstPeerId,
             sessionId := msgId }

theorem carriesChunk_fragmentDatagram (haead : lib.AeadCorrect) (hsize : minDatagram ≤ maxDatagram)
    (hfits : fragmentTotal data maxDatagram ≤ 255) {index : Nat}
    (hindex : index < fragmentTotal data maxDatagram) :
    CarriesChunk lib networkKey maxDatagram dstPeerId msgId index (fragmentTotal data maxDatagram)
      (chunk (maxDatagram - packetOverhead) data index)
      (fragmentDatagram lib coins data networkKey maxDatagram dstPeerId msgId index) := by
  have hpos := chunkSize_pos_of_le hsize
  have hi : (UInt8.ofNat index).toNat = index :=
    UInt8.toNat_ofNat_of_lt' (show index < 256 by omega)
  have hn : (UInt8.ofNat (fragmentTotal data maxDatagram)).toNat = fragmentTotal data maxDatagram :=
    UInt8.toNat_ofNat_of_lt' (show _ < 256 by omega)
  constructor
  · unfold fragmentDatagram
    rw [length_sealFragment haead]
    have hchunk := length_chunk_le (maxDatagram - packetOverhead) data index
    omega
  · refine ⟨UInt8.ofNat index, UInt8.ofNat (fragmentTotal data maxDatagram), hi, hn, ?_, ?_⟩
    · apply openHandshake_fragment haead
      rw [UInt8.lt_iff_toNat_lt, hi, hn]
      exact hindex
    · exact networkHeader_sealFragment haead _ _ _ _ _ _ _

/-! ## The whole message -/

/-- The chunks make up the message, one to a datagram in order. -/
structure CarriesMessage (lib : Primitives) (networkKey : NetworkKey) (maxDatagram : Nat)
    (dstPeerId msgId : UInt32) (data : ByteString) (datagrams pieces : List ByteString) : Prop where
  flatten_eq : pieces.flatten = data
  length_eq : pieces.length = datagrams.length
  carries : ∀ index piece datagram, pieces[index]? = some piece →
    datagrams[index]? = some datagram →
    CarriesChunk lib networkKey maxDatagram dstPeerId msgId index datagrams.length piece datagram
  of_empty : data = [] → pieces = [[]]

theorem carriesMessage_fragmentDatagram (haead : lib.AeadCorrect)
    (hsize : minDatagram ≤ maxDatagram) (hfits : fragmentTotal data maxDatagram ≤ 255) :
    CarriesMessage lib networkKey maxDatagram dstPeerId msgId data
      ((List.range (fragmentTotal data maxDatagram)).map
        (fragmentDatagram lib coins data networkKey maxDatagram dstPeerId msgId))
      ((List.range (fragmentTotal data maxDatagram)).map
        (chunk (maxDatagram - packetOverhead) data)) := by
  have hdata : data.length ≤ fragmentTotal data maxDatagram * (maxDatagram - packetOverhead) :=
    (divCeil_le_iff (chunkSize_pos_of_le hsize)).mp (Nat.le_max_left _ _)
  constructor
  · exact flatten_chunk_range_of_le hdata
  · simp
  · intro index piece datagram hpiece hdatagram
    obtain ⟨hindex, rfl⟩ := List.getElem?_eq_some_iff.mp hpiece
    obtain ⟨-, rfl⟩ := List.getElem?_eq_some_iff.mp hdatagram
    simp only [List.length_map, List.length_range, List.getElem_map, List.getElem_range] at hindex ⊢
    exact carriesChunk_fragmentDatagram haead hsize hfits hindex
  · rintro rfl
    simp [fragmentTotal_nil hsize, chunk]

/-- The fragmenter refuses, without sending anything, exactly what has no room in 255
chunks; everything else leaves as datagrams that carry it. -/
theorem sendFragmentedWithId_partition (haead : lib.AeadCorrect) (coins : Nat → SealCoins)
    (data : ByteString) (networkKey : NetworkKey) (maxDatagram : Nat) (dstPeerId msgId : UInt32) :
    ((∃ error, sendFragmentedWithId lib coins data networkKey maxDatagram dstPeerId msgId =
        .error error) ↔
      maxDatagram < minDatagram ∨ 255 * (maxDatagram - packetOverhead) < data.length) ∧
      ∀ datagrams,
        sendFragmentedWithId lib coins data networkKey maxDatagram dstPeerId msgId =
          .ok datagrams →
        ∃ pieces, CarriesMessage lib networkKey maxDatagram dstPeerId msgId data datagrams pieces := by
  refine ⟨sendFragmentedWithId_eq_error_iff, ?_⟩
  intro datagrams hsend
  have hsent : ¬ (maxDatagram < minDatagram ∨ 255 * (maxDatagram - packetOverhead) < data.length) := by
    intro hrefused
    obtain ⟨error, herror⟩ := sendFragmentedWithId_eq_error_iff.mpr hrefused
    rw [hsend] at herror
    contradiction
  obtain ⟨hsize, hlong⟩ := not_or.mp hsent
  have hle := Nat.not_lt.mp hsize
  have hfits := (fragmentTotal_le_iff hle).mpr (Nat.not_lt.mp hlong)
  rw [sendFragmentedWithId_eq_ok hle hfits] at hsend
  cases Except.ok.inj hsend
  exact ⟨_, carriesMessage_fragmentDatagram haead hle hfits⟩

end Sending

/-- Three bytes to a datagram, and seven bytes to send. -/
theorem seven_bytes_take_three_fragments :
    ∃ datagrams pieces,
      sendFragmentedWithId (transparent []) (fun _ => Sample.sealing) [1, 2, 3, 4, 5, 6, 7]
        Sample.networkKey 55 9 7 = .ok datagrams ∧
      datagrams.length = 3 ∧
      CarriesMessage (transparent []) Sample.networkKey 55 9 7 [1, 2, 3, 4, 5, 6, 7] datagrams
        pieces := by
  have hsend := @sendFragmentedWithId_eq_ok (transparent []) (fun _ => Sample.sealing)
    [1, 2, 3, 4, 5, 6, 7] Sample.networkKey 55 9 7 (by decide) (by decide)
  obtain ⟨pieces, hpieces⟩ := (sendFragmentedWithId_partition (transparent_correct []).aead
    (fun _ => Sample.sealing) [1, 2, 3, 4, 5, 6, 7] Sample.networkKey 55 9 7).2 _ hsend
  refine ⟨_, pieces, hsend, ?_, hpieces⟩
  have htotal : fragmentTotal [1, 2, 3, 4, 5, 6, 7] 55 = 3 := by decide
  simp [htotal]

end Liteway.Core
