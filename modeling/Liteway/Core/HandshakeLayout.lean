import Liteway.Core.Handshake
import Liteway.Core.PacketCodec

/-!
# What the handshake parsers accept

Each parser accepts exactly the plaintexts that consist of a signed prefix in
the writer's layout, a signature over that prefix, and arbitrary padding.  The
writers and the parsers are compared through these two statements only.
-/

namespace Liteway.Core

open Liteway.Library

variable {lib : Primitives}

theorem verifyPeerCertAndSig_eq_ok_iff {cert : Cert} {caVk : HybridVerifyKey} {now : UInt64}
    {signed : ByteString} {sig : HybridSignature} {done : Unit} :
    verifyPeerCertAndSig lib cert caVk now signed sig = .ok done ↔
      cert.verify lib caVk now = true ∧ hybridVerify lib cert.verifyKey signed sig = true := by
  unfold verifyPeerCertAndSig
  rw [ensure_bind_iff, ensure_eq_ok_iff]

private theorem bind_certFromSlice_iff {certBytes : ByteString} {result : α}
    {f : Cert → Except HandshakeError α} :
    (orThrow .certFormat (lib.certFromSlice certBytes) >>= f) = .ok result ↔
      ∃ cert, lib.certFromSlice certBytes = some cert ∧ f cert = .ok result :=
  orThrow_bind_iff

private theorem bind_verifyPeerCertAndSig_iff {cert : Cert} {caVk : HybridVerifyKey}
    {now : UInt64} {signed : ByteString} {sig : HybridSignature} {result : α}
    {f : Unit → Except HandshakeError α} :
    (verifyPeerCertAndSig lib cert caVk now signed sig >>= f) = .ok result ↔
      cert.verify lib caVk now = true ∧ hybridVerify lib cert.verifyKey signed sig = true ∧
        f () = .ok result := by
  rw [bind_eq_ok_iff]
  simp only [verifyPeerCertAndSig_eq_ok_iff]
  exact ⟨fun ⟨_, ⟨hcert, hsig⟩, h⟩ => ⟨hcert, hsig, h⟩,
    fun ⟨hcert, hsig, h⟩ => ⟨(), ⟨hcert, hsig⟩, h⟩⟩

private theorem pure_eq_ok_iff {value result : α} :
    (pure value : Except HandshakeError α) = .ok result ↔ value = result := by
  simp [pure, Except.pure]

theorem handshake1Signed_length (flags : UInt16) (timestamp : UInt64) (random : Bytes 16)
    (rxSessionId : UInt32) (ephX25519Pk : Bytes 32) (ephMlkemPk : Bytes mlkemPkLen)
    (certBytes : ByteString) :
    (handshake1Signed flags timestamp random rxSessionId ephX25519Pk ephMlkemPk certBytes).length =
      1 + 1 + 2 + 8 + 16 + 4 + 32 + mlkemPkLen + 4 + certBytes.length := by
  simp [handshake1Signed, vecU32]
  omega

theorem handshake2Signed_length (flags : UInt16) (timestamp : UInt64) (random : Bytes 16)
    (rxSessionId : UInt32) (ephX25519Pk : Bytes 32) (mlkemCt : Bytes mlkemCtLen)
    (hs1Hash : Bytes 32) (certBytes : ByteString) :
    (handshake2Signed flags timestamp random rxSessionId ephX25519Pk mlkemCt hs1Hash
      certBytes).length =
      1 + 1 + 2 + 8 + 16 + 4 + 32 + mlkemCtLen + 32 + 4 + certBytes.length := by
  simp [handshake2Signed, vecU32]
  omega

theorem withSignature_length (signed : ByteString) (sig : HybridSignature) (padding : ByteString) :
    (withSignature signed sig padding).length =
      signed.length + ed25519SigLen + mldsaSigLen + padding.length := by
  simp only [withSignature, List.length_append, Vector.length_toList]
  change _ = signed.length + 64 + 3309 + padding.length
  omega

/-! ## The layouts are unambiguous -/

theorem vecU32_append_inj {left right x y : ByteString} (hleft : left.length < 2 ^ 32)
    (hright : right.length < 2 ^ 32) (h : vecU32 left ++ x = vecU32 right ++ y) :
    left = right ∧ x = y := by
  simp only [vecU32, List.append_assoc] at h
  obtain ⟨hlen, hrest⟩ := Bytes.toList_append_inj h
  have hcount := congrArg UInt32.toNat (u32BE_injective hlen)
  rw [UInt32.toNat_ofNat_of_lt' hleft, UInt32.toNat_ofNat_of_lt' hright] at hcount
  exact List.append_inj hrest hcount

theorem handshake1Signed_append_inj {flags flags' : UInt16} {timestamp timestamp' : UInt64}
    {random random' : Bytes 16} {rxSessionId rxSessionId' : UInt32}
    {ephX25519Pk ephX25519Pk' : Bytes 32} {ephMlkemPk ephMlkemPk' : Bytes mlkemPkLen}
    {certBytes certBytes' x y : ByteString}
    (h : handshake1Signed flags timestamp random rxSessionId ephX25519Pk ephMlkemPk certBytes ++ x =
      handshake1Signed flags' timestamp' random' rxSessionId' ephX25519Pk' ephMlkemPk'
        certBytes' ++ y) :
    flags = flags' ∧ timestamp = timestamp' ∧ rxSessionId = rxSessionId' ∧
      ephX25519Pk = ephX25519Pk' ∧ ephMlkemPk = ephMlkemPk' ∧
      vecU32 certBytes ++ x = vecU32 certBytes' ++ y := by
  simp only [handshake1Signed, List.cons_append, List.append_assoc, List.cons.injEq,
    true_and] at h
  obtain ⟨hflags, h⟩ := Bytes.toList_append_inj h
  obtain ⟨htime, h⟩ := Bytes.toList_append_inj h
  obtain ⟨-, h⟩ := Bytes.toList_append_inj h
  obtain ⟨hrx, h⟩ := Bytes.toList_append_inj h
  obtain ⟨hx, h⟩ := Bytes.toList_append_inj h
  obtain ⟨hm, h⟩ := Bytes.toList_append_inj h
  exact ⟨u16BE_injective hflags, u64BE_injective htime, u32BE_injective hrx, hx, hm, h⟩

theorem handshake2Signed_append_inj {flags flags' : UInt16} {timestamp timestamp' : UInt64}
    {random random' : Bytes 16} {rxSessionId rxSessionId' : UInt32}
    {ephX25519Pk ephX25519Pk' : Bytes 32} {mlkemCt mlkemCt' : Bytes mlkemCtLen}
    {hs1Hash hs1Hash' : Bytes 32} {certBytes certBytes' x y : ByteString}
    (h : handshake2Signed flags timestamp random rxSessionId ephX25519Pk mlkemCt hs1Hash
        certBytes ++ x =
      handshake2Signed flags' timestamp' random' rxSessionId' ephX25519Pk' mlkemCt' hs1Hash'
        certBytes' ++ y) :
    flags = flags' ∧ timestamp = timestamp' ∧ rxSessionId = rxSessionId' ∧
      ephX25519Pk = ephX25519Pk' ∧ mlkemCt = mlkemCt' ∧ hs1Hash = hs1Hash' ∧
      vecU32 certBytes ++ x = vecU32 certBytes' ++ y := by
  simp only [handshake2Signed, List.cons_append, List.append_assoc, List.cons.injEq,
    true_and] at h
  obtain ⟨hflags, h⟩ := Bytes.toList_append_inj h
  obtain ⟨htime, h⟩ := Bytes.toList_append_inj h
  obtain ⟨-, h⟩ := Bytes.toList_append_inj h
  obtain ⟨hrx, h⟩ := Bytes.toList_append_inj h
  obtain ⟨hx, h⟩ := Bytes.toList_append_inj h
  obtain ⟨hct, h⟩ := Bytes.toList_append_inj h
  obtain ⟨hhash, h⟩ := Bytes.toList_append_inj h
  exact ⟨u16BE_injective hflags, u64BE_injective htime, u32BE_injective hrx, hx, hct, hhash, h⟩

theorem handshake2Signed_eq_of_append {flags flags' : UInt16} {timestamp timestamp' : UInt64}
    {random random' : Bytes 16} {rxSessionId rxSessionId' : UInt32}
    {ephX25519Pk ephX25519Pk' : Bytes 32} {mlkemCt mlkemCt' : Bytes mlkemCtLen}
    {hs1Hash hs1Hash' : Bytes 32} {certBytes certBytes' x y : ByteString}
    (hlen : certBytes.length < 2 ^ 32) (hlen' : certBytes'.length < 2 ^ 32)
    (h : handshake2Signed flags timestamp random rxSessionId ephX25519Pk mlkemCt hs1Hash
        certBytes ++ x =
      handshake2Signed flags' timestamp' random' rxSessionId' ephX25519Pk' mlkemCt' hs1Hash'
        certBytes' ++ y) :
    handshake2Signed flags timestamp random rxSessionId ephX25519Pk mlkemCt hs1Hash certBytes =
      handshake2Signed flags' timestamp' random' rxSessionId' ephX25519Pk' mlkemCt' hs1Hash'
        certBytes' := by
  obtain ⟨-, -, -, -, -, -, hrest⟩ := handshake2Signed_append_inj h
  obtain ⟨rfl, -⟩ := vecU32_append_inj hlen hlen' hrest
  apply List.append_inj_left h
  rw [handshake2Signed_length, handshake2Signed_length]

/-! ## The parsers -/

theorem parseHandshake1_eq_ok_iff {data : ByteString} {caVk : HybridVerifyKey} {now : UInt64}
    {plain : Handshake1Plain} :
    parseHandshake1 lib data caVk now = .ok plain ↔
      ∃ flags timestamp random certBytes sig padding,
        data = withSignature (handshake1Signed flags timestamp random plain.rxSessionId
          plain.ephX25519Pk plain.ephMlkemPk certBytes) sig padding ∧
        timestampValid timestamp now ∧ certBytes.length < 2 ^ 32 ∧
        lib.certFromSlice certBytes = some plain.cert ∧
        plain.cert.verify lib caVk now = true ∧
        hybridVerify lib plain.cert.verifyKey (handshake1Signed flags timestamp random
          plain.rxSessionId plain.ephX25519Pk plain.ephMlkemPk certBytes) sig = true ∧
        plain.peerIsRelay = (flags &&& flagRelay != 0) := by
  -- the rules turn the parser into a chain of equations between byte strings
  simp only [parseHandshake1, Cursor.start_eq_split, ensure_bind_iff, bind_u8_iff, bind_u16_iff,
    bind_u32_iff, bind_u64_iff, bind_array_iff, bind_bytes_iff, bind_vecU32_iff, validateTimestamp,
    bind_certFromSlice_iff, bind_verifyPeerCertAndSig_iff, pure_eq_ok_iff, Cursor.consumed_split]
  constructor
  · rintro ⟨-, kind, _, h1, hkind, version, _, h2, hversion, flags, _, h3, timestamp, _, h4, htime,
      random, _, h5, rxSessionId, _, h6, ephX25519Pk, _, h7, ephMlkemPk, _, h8, certBytes, _,
      hlen, h9, cert, hcert, ed25519, _, h10, mlDsa, padding, h11, hverify, hsig, hplain⟩
    subst hplain hkind hversion h11 h10 h9 h8 h7 h6 h5 h4 h3 h2 h1
    refine ⟨flags, timestamp, random, certBytes, ⟨ed25519, mlDsa⟩, padding, ?_, htime, hlen, hcert,
      hverify, ?_, rfl⟩
    · simp [withSignature, handshake1Signed, vecU32]
    · rw [← hsig]
      congr 1
      simp [handshake1Signed, vecU32]
  · rintro ⟨flags, timestamp, random, certBytes, ⟨ed25519, mlDsa⟩, padding, rfl, htime, hlen, hcert,
      hverify, hsig, hrelay⟩
    obtain ⟨cert, rxSessionId, ephX25519Pk, ephMlkemPk, peerIsRelay⟩ := plain
    dsimp only at hcert hverify hsig hrelay
    subst peerIsRelay
    refine ⟨by rw [withSignature_length, handshake1Signed_length]; omega, ?_⟩
    simp only [withSignature, handshake1Signed, vecU32, List.cons_append, List.append_assoc]
    refine ⟨kindHandshake1, _, rfl, rfl, handshakeVersion, _, rfl, rfl, flags, _, rfl,
      timestamp, _, rfl, htime, random, _, rfl, rxSessionId, _, rfl, ephX25519Pk, _, rfl,
      ephMlkemPk, _, rfl, certBytes, _, hlen, rfl, cert, hcert, ed25519, _, rfl, mlDsa, padding,
      rfl, hverify, ?_, rfl⟩
    rw [← hsig]
    congr 1

theorem parseHandshake2_eq_ok_iff {data expectedHs1Msg : ByteString} {caVk : HybridVerifyKey}
    {now : UInt64} {plain : Handshake2Plain} :
    parseHandshake2 lib data expectedHs1Msg caVk now = .ok plain ↔
      ∃ flags timestamp random certBytes sig padding,
        data = withSignature (handshake2Signed flags timestamp random plain.rxSessionId
          plain.ephX25519Pk plain.mlkemCt (lib.blake3Hash expectedHs1Msg) certBytes) sig padding ∧
        timestampValid timestamp now ∧ certBytes.length < 2 ^ 32 ∧
        lib.certFromSlice certBytes = some plain.cert ∧
        plain.cert.verify lib caVk now = true ∧
        hybridVerify lib plain.cert.verifyKey (handshake2Signed flags timestamp random
          plain.rxSessionId plain.ephX25519Pk plain.mlkemCt (lib.blake3Hash expectedHs1Msg)
          certBytes) sig = true ∧
        plain.peerIsRelay = (flags &&& flagRelay != 0) := by
  simp only [parseHandshake2, Cursor.start_eq_split, ensure_bind_iff, bind_u8_iff, bind_u16_iff,
    bind_u32_iff, bind_u64_iff, bind_array_iff, bind_bytes_iff, bind_vecU32_iff, validateTimestamp,
    bind_certFromSlice_iff, bind_verifyPeerCertAndSig_iff, pure_eq_ok_iff, Cursor.consumed_split]
  constructor
  · rintro ⟨-, kind, _, h1, hkind, version, _, h2, hversion, flags, _, h3, timestamp, _, h4, htime,
      random, _, h5, rxSessionId, _, h6, ephX25519Pk, _, h7, mlkemCt, _, h8, hs1Hash, _, h9,
      hhash, certBytes, _, hlen, h10, cert, hcert, ed25519, _, h11, mlDsa, padding, h12, hverify,
      hsig, hplain⟩
    subst hplain hkind hversion hhash h12 h11 h10 h9 h8 h7 h6 h5 h4 h3 h2 h1
    refine ⟨flags, timestamp, random, certBytes, ⟨ed25519, mlDsa⟩, padding, ?_, htime, hlen, hcert,
      hverify, ?_, rfl⟩
    · simp [withSignature, handshake2Signed, vecU32]
    · rw [← hsig]
      congr 1
      simp [handshake2Signed, vecU32]
  · rintro ⟨flags, timestamp, random, certBytes, ⟨ed25519, mlDsa⟩, padding, rfl, htime, hlen, hcert,
      hverify, hsig, hrelay⟩
    obtain ⟨cert, rxSessionId, ephX25519Pk, mlkemCt, peerIsRelay⟩ := plain
    dsimp only at hcert hverify hsig hrelay
    subst peerIsRelay
    refine ⟨by rw [withSignature_length, handshake2Signed_length]; omega, ?_⟩
    simp only [withSignature, handshake2Signed, vecU32, List.cons_append, List.append_assoc]
    refine ⟨kindHandshake2, _, rfl, rfl, handshakeVersion, _, rfl, rfl, flags, _, rfl,
      timestamp, _, rfl, htime, random, _, rfl, rxSessionId, _, rfl, ephX25519Pk, _, rfl,
      mlkemCt, _, rfl, lib.blake3Hash expectedHs1Msg, _, rfl, rfl, certBytes, _, hlen, rfl, cert,
      hcert, ed25519, _, rfl, mlDsa, padding, rfl, hverify, ?_, rfl⟩
    rw [← hsig]
    congr 1

end Liteway.Core
