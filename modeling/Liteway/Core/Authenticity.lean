import Liteway.Core.SessionPacket

/-!
# Every byte on the wire is authenticated

With an ideal AEAD, a datagram that opens is one that was sealed, byte for byte:
the mask nonce and the masked header are the associated data, and the nonce and
the ciphertext are the rest.  The program encrypts in two places, for sessions
and for handshakes.
-/

namespace Liteway.Core

open Liteway.Library

variable {lib : Primitives}

/-! ## Encryptions -/

structure EncryptCall where
  key : Bytes kHeaderLen
  nonce : Bytes nonceLen
  plaintext : ByteString
  aad : ByteString

/-- Decryption succeeds only on what one of the calls produced, with its own key,
nonce and associated data. -/
def IdealAead (lib : Primitives) (calls : Set EncryptCall) : Prop :=
  ∀ key nonce ciphertext aad plaintext,
    lib.aeadDecrypt key nonce ciphertext aad = some plaintext →
      ∃ call ∈ calls, call.key = key ∧ call.nonce = nonce ∧ call.aad = aad ∧
        lib.aeadEncrypt call.key call.nonce call.plaintext call.aad = ciphertext

/-- A call of `seal`. -/
structure SessionSealing where
  coins : SealCoins
  kind : UInt8
  dstPeerId : UInt32
  sessionId : UInt32
  networkKey : NetworkKey
  sessionKey : SessionKey
  plaintext : ByteString

/-- A call of `seal_handshake_with_header`. -/
structure HandshakeSealing where
  coins : SealCoins
  networkKey : NetworkKey
  plaintext : ByteString
  dstPeerId : UInt32
  sessionId : UInt32

inductive Sealing where
  | session (sealing : SessionSealing)
  | handshake (sealing : HandshakeSealing)

/-- The datagram of a session packet, sealed under the given key. -/
def SessionSealing.wire (lib : Primitives) (sealing : SessionSealing) (sessionKey : SessionKey) :
    ByteString :=
  serializePacket (sealPacket lib sealing.coins sealing.kind sealing.dstPeerId sealing.sessionId
    sealing.networkKey sessionKey sealing.plaintext)

def HandshakeSealing.header (sealing : HandshakeSealing) : NetworkHeader :=
  { (handshakeHeaderAndPayload sealing.plaintext).1 with
    dstPeerId := sealing.dstPeerId, sessionId := sealing.sessionId }

def HandshakeSealing.wire (lib : Primitives) (sealing : HandshakeSealing) : ByteString :=
  sealHandshakeWithHeader lib sealing.coins sealing.networkKey sealing.plaintext sealing.dstPeerId
    sealing.sessionId

/-- The one encryption that each call makes. -/
def Sealing.call (lib : Primitives) : Sealing → EncryptCall
  | .session sealing =>
      { key := packetKey lib sealing.sessionKey
        nonce := sealing.coins.nonce
        plaintext := sealing.plaintext
        aad := sealing.coins.maskNonce.toList ++
          (maskNetworkHeader lib ⟨sealing.kind, 0, 0, sealing.dstPeerId, sealing.sessionId⟩
            sealing.coins.maskNonce sealing.networkKey).toList }
  | .handshake sealing =>
      { key := sealing.networkKey
        nonce := sealing.coins.nonce
        plaintext := (handshakeHeaderAndPayload sealing.plaintext).2
        aad := sealing.coins.maskNonce.toList ++
          (maskNetworkHeader lib sealing.header sealing.coins.maskNonce
            sealing.networkKey).toList }

/-- Everything that was encrypted. -/
def encryptCalls (lib : Primitives) (sealings : Set Sealing) : Set EncryptCall :=
  {call | ∃ sealing ∈ sealings, sealing.call lib = call}

/-! ## The layout leaves no gap -/

theorem packet_eq_of_parts {pkt pkt' : DataPacket} (hnonce : pkt.nonce = pkt'.nonce)
    (haad : packetAad pkt = packetAad pkt') (hciphertext : pkt.ciphertext = pkt'.ciphertext) :
    pkt = pkt' := by
  obtain ⟨maskNonce, maskedHeader, nonce, ciphertext⟩ := pkt
  obtain ⟨maskNonce', maskedHeader', nonce', ciphertext'⟩ := pkt'
  obtain ⟨hmask, hheader⟩ := List.append_inj haad (by simp)
  cases Vector.toList_inj.mp hmask
  cases Vector.toList_inj.mp hheader
  cases hnonce
  cases hciphertext
  rfl

theorem data_eq_of_parts {data : ByteString} {pkt pkt' : DataPacket}
    (hdata : deserializePacket data = some pkt) (hnonce : pkt'.nonce = pkt.nonce)
    (haad : packetAad pkt' = packetAad pkt) (hciphertext : pkt'.ciphertext = pkt.ciphertext) :
    data = serializePacket pkt' := by
  rw [packet_eq_of_parts hnonce haad hciphertext]
  exact (serializePacket_deserializePacket hdata).1.symm

/-- The datagrams sealed under a session key. -/
def sessionWires (lib : Primitives) (sealings : Set Sealing) (sessionKey : SessionKey) :
    Set ByteString :=
  {data | ∃ sealing, .session sealing ∈ sealings ∧
    packetKey lib sealing.sessionKey = packetKey lib sessionKey ∧
    data = sealing.wire lib sessionKey}

/-- The datagrams sealed under a network key. -/
def handshakeWires (lib : Primitives) (sealings : Set Sealing) (networkKey : NetworkKey) :
    Set ByteString :=
  {data | ∃ sealing, .handshake sealing ∈ sealings ∧ sealing.networkKey = networkKey ∧
    data = sealing.wire lib}

/-- The key that packets of a session are encrypted under is no network key that
handshakes were sealed under. -/
def PacketKeyApart (lib : Primitives) (sealings : Set Sealing) (sessionKey : SessionKey) : Prop :=
  ∀ sealing, .handshake sealing ∈ sealings → sealing.networkKey ≠ packetKey lib sessionKey

/-- The network key is no key that session packets were encrypted under. -/
def NetworkKeyApart (lib : Primitives) (sealings : Set Sealing) (networkKey : NetworkKey) : Prop :=
  ∀ sealing, .session sealing ∈ sealings → packetKey lib sealing.sessionKey ≠ networkKey

theorem mem_sessionWires_of_decryptPacket {sealings : Set Sealing}
    (hideal : IdealAead lib (encryptCalls lib sealings)) {sessionKey : SessionKey}
    (hapart : PacketKeyApart lib sealings sessionKey) {data : ByteString} {networkKey : NetworkKey}
    {accepted : NetworkHeader × PacketBody}
    (h : decryptPacket lib data networkKey sessionKey = some accepted) :
    data ∈ sessionWires lib sealings sessionKey := by
  unfold decryptPacket at h
  obtain ⟨pkt, hdata, h⟩ := Option.bind_eq_some_iff.mp h
  obtain ⟨header, -, h⟩ := Option.bind_eq_some_iff.mp h
  obtain ⟨plaintext, hdecrypt, -⟩ := Option.bind_eq_some_iff.mp h
  obtain ⟨-, ⟨sealing, hmem, rfl⟩, hkey, hnonce, haad, hciphertext⟩ := hideal _ _ _ _ _ hdecrypt
  cases sealing with
  | handshake sealing => exact absurd hkey (hapart sealing hmem)
  | session sealing =>
      refine ⟨sealing, hmem, hkey, data_eq_of_parts hdata hnonce haad ?_⟩
      rw [hkey] at hciphertext
      exact hciphertext

theorem mem_handshakeWires_of_openHandshake {sealings : Set Sealing}
    (hideal : IdealAead lib (encryptCalls lib sealings)) {networkKey : NetworkKey}
    (hapart : NetworkKeyApart lib sealings networkKey) {data plaintext : ByteString}
    (h : openHandshake lib networkKey data = some plaintext) :
    data ∈ handshakeWires lib sealings networkKey := by
  unfold openHandshake at h
  obtain ⟨pkt, hdata, h⟩ := Option.bind_eq_some_iff.mp h
  obtain ⟨header, -, h⟩ := Option.bind_eq_some_iff.mp h
  obtain ⟨plaintext, hdecrypt, -⟩ := Option.bind_eq_some_iff.mp h
  obtain ⟨-, ⟨sealing, hmem, rfl⟩, hkey, hnonce, haad, hciphertext⟩ := hideal _ _ _ _ _ hdecrypt
  cases sealing with
  | session sealing => exact absurd hkey (hapart sealing hmem)
  | handshake sealing =>
      refine ⟨sealing, hmem, hkey, ?_⟩
      unfold HandshakeSealing.wire
      rw [sealHandshakeWithHeader_eq]
      exact data_eq_of_parts hdata hnonce haad hciphertext

/-- What opens was sealed under the same key, and anything else is rejected. -/
theorem accepted_datagrams_were_sealed {sealings : Set Sealing}
    (hideal : IdealAead lib (encryptCalls lib sealings)) {sessionKey : SessionKey}
    (hsession : PacketKeyApart lib sealings sessionKey) {networkKey : NetworkKey}
    (hnetwork : NetworkKeyApart lib sealings networkKey) :
    (∀ data headerKey accepted, decryptPacket lib data headerKey sessionKey = some accepted →
      data ∈ sessionWires lib sealings sessionKey) ∧
    (∀ data plaintext, openHandshake lib networkKey data = some plaintext →
      data ∈ handshakeWires lib sealings networkKey) ∧
    (∀ data headerKey, data ∉ sessionWires lib sealings sessionKey →
      decryptPacket lib data headerKey sessionKey = none) ∧
    (∀ data, data ∉ handshakeWires lib sealings networkKey →
      openHandshake lib networkKey data = none) := by
  refine ⟨fun data headerKey accepted => mem_sessionWires_of_decryptPacket hideal hsession,
    fun data plaintext => mem_handshakeWires_of_openHandshake hideal hnetwork,
    fun data headerKey hother => ?_, fun data hother => ?_⟩
  · cases haccepted : decryptPacket lib data headerKey sessionKey with
    | none => rfl
    | some accepted =>
        exact absurd (mem_sessionWires_of_decryptPacket hideal hsession haccepted) hother
  · cases hopened : openHandshake lib networkKey data with
    | none => rfl
    | some plaintext =>
        exact absurd (mem_handshakeWires_of_openHandshake hideal hnetwork hopened) hother

/-! ## Primitives that keep a record -/

/-- Primitives that decrypt what the given calls have sealed and nothing else. -/
def recording (lib : Primitives) (sealings : List Sealing) : Primitives :=
  { lib with
    aeadDecrypt := fun key nonce ciphertext aad =>
      ((sealings.map (Sealing.call lib)).find? fun call =>
        call.key = key && call.nonce = nonce && call.aad = aad &&
          lib.aeadEncrypt call.key call.nonce call.plaintext call.aad = ciphertext).map
        EncryptCall.plaintext }

theorem idealAead_recording (lib : Primitives) (sealings : List Sealing) :
    IdealAead (recording lib sealings)
      (encryptCalls (recording lib sealings) {sealing | sealing ∈ sealings}) := by
  intro key nonce ciphertext aad plaintext h
  obtain ⟨call, hfind, -⟩ := Option.map_eq_some_iff.mp h
  obtain ⟨sealing, hmem, rfl⟩ := List.mem_map.mp (List.mem_of_find?_eq_some hfind)
  have hmatch := List.find?_some hfind
  simp only [Bool.and_eq_true, decide_eq_true_eq] at hmatch
  obtain ⟨⟨⟨hkey, hnonce⟩, haad⟩, hciphertext⟩ := hmatch
  refine ⟨sealing.call lib, ⟨sealing, hmem, ?_⟩, hkey, hnonce, haad, hciphertext⟩
  cases sealing <;> rfl

namespace Sample

/-- A disconnect packet of some session. -/
def farewell : SessionSealing where
  coins := sealingOf 3
  kind := kindDisconnect
  dstPeerId := 5
  sessionId := 6
  networkKey := networkKey
  sessionKey := Vector.replicate _ 9
  plaintext := kindDisconnect :: (u64BE 1).toList

def greeting : HandshakeSealing where
  coins := sealingOf 4
  networkKey := networkKey
  plaintext := [kindHandshake1]
  dstPeerId := 5
  sessionId := 7

noncomputable def recorder : Primitives :=
  recording (transparent []) [.session farewell, .handshake greeting]

theorem packetKey_farewell_ne : packetKey recorder farewell.sessionKey ≠ networkKey := by
  intro h
  have hbyte : (digest (Vector.replicate 32 (9 : UInt8)).toList)[0] = 0 :=
    congrArg (fun key : Bytes 32 => key[0]) h
  exact absurd hbyte (by decide)

end Sample

/-- A byte more, and neither of the two is accepted. -/
theorem extended_datagrams_rejected :
    decryptPacket Sample.recorder
        (Sample.farewell.wire Sample.recorder Sample.farewell.sessionKey ++ [0]) Sample.networkKey
        Sample.farewell.sessionKey = none ∧
      openHandshake Sample.recorder Sample.networkKey
        (Sample.greeting.wire Sample.recorder ++ [0]) = none := by
  have hideal := idealAead_recording (transparent [])
    [.session Sample.farewell, .handshake Sample.greeting]
  have hsession : PacketKeyApart Sample.recorder
      {sealing | sealing ∈ [Sealing.session Sample.farewell, .handshake Sample.greeting]}
      Sample.farewell.sessionKey := by
    intro sealing hmem
    have heq : sealing = Sample.greeting := by simpa using hmem
    rw [heq]
    exact Sample.packetKey_farewell_ne.symm
  have hnetwork : NetworkKeyApart Sample.recorder
      {sealing | sealing ∈ [Sealing.session Sample.farewell, .handshake Sample.greeting]}
      Sample.networkKey := by
    intro sealing hmem
    have heq : sealing = Sample.farewell := by simpa using hmem
    rw [heq]
    exact Sample.packetKey_farewell_ne
  obtain ⟨-, -, hreject, hreject'⟩ := accepted_datagrams_were_sealed hideal hsession hnetwork
  refine ⟨hreject _ _ ?_, hreject' _ ?_⟩
  · rintro ⟨sealing, hmem, -, hwire⟩
    have heq : sealing = Sample.farewell := by simpa using hmem
    rw [heq] at hwire
    exact absurd (List.append_right_eq_self.mp hwire) (by simp)
  · rintro ⟨sealing, hmem, -, hwire⟩
    have heq : sealing = Sample.greeting := by simpa using hmem
    rw [heq] at hwire
    exact absurd (List.append_right_eq_self.mp hwire) (by simp)

end Liteway.Core
