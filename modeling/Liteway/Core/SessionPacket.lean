import Liteway.Core.Transparent

/-!
# Session packets read back

A packet sealed under a session key opens under it to the header and the fields
it was made from; the padding after the fields is ignored.
-/

namespace Liteway.Core

open Liteway.Library

variable {lib : Primitives}

theorem deserializePacket_sealPacket (hlib : lib.Correct) (coins : SealCoins) (kind : UInt8)
    (dstPeerId sessionId : UInt32) (networkKey : NetworkKey) (sessionKey : SessionKey)
    (plaintext : ByteString) :
    deserializePacket (serializePacket
        (sealPacket lib coins kind dstPeerId sessionId networkKey sessionKey plaintext)) =
      some (sealPacket lib coins kind dstPeerId sessionId networkKey sessionKey plaintext) := by
  apply deserializePacket_serializePacket
  simp only [sealPacket, hlib.aead_encrypt_length]
  omega

theorem networkHeader_sealPacket (hlib : lib.Correct) (coins : SealCoins) {kind : UInt8}
    (hkind : kind ∈ knownKinds) (dstPeerId sessionId : UInt32) (networkKey : NetworkKey)
    (sessionKey : SessionKey) (plaintext : ByteString) :
    networkHeader lib (serializePacket
        (sealPacket lib coins kind dstPeerId sessionId networkKey sessionKey plaintext))
        networkKey =
      some { kind := kind, fragIndex := 0, fragTotal := 0, dstPeerId := dstPeerId,
             sessionId := sessionId } := by
  rw [networkHeader_eq_unmaskPacketHeader, deserializePacket_sealPacket hlib]
  exact @unmaskHeaderBytes_mask lib ⟨kind, 0, 0, dstPeerId, sessionId⟩ hkind coins.maskNonce
    networkKey

theorem decryptPacket_sealPacket (hlib : lib.Correct) (coins : SealCoins) {kind : UInt8}
    (hkind : kind ∈ knownKinds) (dstPeerId sessionId : UInt32) (networkKey : NetworkKey)
    (sessionKey : SessionKey) (seq : UInt64) (rest : ByteString) :
    decryptPacket lib (serializePacket (sealPacket lib coins kind dstPeerId sessionId networkKey
        sessionKey (kind :: ((u64BE seq).toList ++ rest)))) networkKey sessionKey =
      (readBody lib kind seq (Cursor.split ([kind] ++ (u64BE seq).toList) rest)).map fun body =>
        ({ kind := kind, fragIndex := 0, fragTotal := 0, dstPeerId := dstPeerId,
           sessionId := sessionId }, body) := by
  have hheader : unmaskHeader lib (sealPacket lib coins kind dstPeerId sessionId networkKey
      sessionKey (kind :: ((u64BE seq).toList ++ rest))) networkKey =
      some ⟨kind, 0, 0, dstPeerId, sessionId⟩ :=
    @unmaskHeaderBytes_mask lib ⟨kind, 0, 0, dstPeerId, sessionId⟩ hkind coins.maskNonce
      networkKey
  have hopen : lib.aeadDecrypt (packetKey lib sessionKey) coins.nonce
      (sealPacket lib coins kind dstPeerId sessionId networkKey sessionKey
        (kind :: ((u64BE seq).toList ++ rest))).ciphertext
      (packetAad (sealPacket lib coins kind dstPeerId sessionId networkKey sessionKey
        (kind :: ((u64BE seq).toList ++ rest)))) =
      some (kind :: ((u64BE seq).toList ++ rest)) :=
    hlib.aead_decrypt_encrypt _ _ _ _
  have hseq : (Cursor.split [kind] ((u64BE seq).toList ++ rest)).u64 =
      some (seq, Cursor.split ([kind] ++ (u64BE seq).toList) rest) :=
    Cursor.u64_split_eq_some_iff.mpr ⟨rest, rfl, rfl⟩
  unfold decryptPacket
  rw [deserializePacket_sealPacket hlib]
  simp only [Option.bind_eq_bind, Option.bind_some, hheader]
  rw [show (sealPacket lib coins kind dstPeerId sessionId networkKey sessionKey
    (kind :: ((u64BE seq).toList ++ rest))).nonce = coins.nonce from rfl, hopen]
  simp only [Option.bind_some, Cursor.start_eq_split, Cursor.u8_split_cons, List.nil_append, hseq,
    ne_eq, not_true_eq_false, ↓reduceIte]
  cases readBody lib kind seq (Cursor.split ([kind] ++ (u64BE seq).toList) rest) <;> rfl

/-! ## Fields read back -/

theorem parseUtf8_toUTF8 (text : String) : parseUtf8 text.toUTF8.data.toList = some text := by
  unfold parseUtf8 String.fromUTF8?
  have hvalid : (⟨text.toUTF8.data.toList.toArray⟩ : ByteArray).IsValidUTF8 := text.isValidUTF8
  rw [dif_pos hvalid]
  rfl

theorem vecU32_split_vecU32 {payload : ByteString} (hlen : payload.length < 2 ^ 32)
    (before tail : ByteString) :
    (Cursor.split before (vecU32 payload ++ tail)).vecU32 =
      some (payload, Cursor.split (before ++ vecU32 payload) tail) := by
  refine Cursor.vecU32_split_eq_some_iff.mpr ⟨hlen, tail, List.append_assoc _ _ _, ?_⟩
  simp only [vecU32, List.append_assoc]

theorem read_text {α β : Type} {parse : String → Option α} {text : String} {value : α}
    (hparse : parse text = some value) (hlen : text.toUTF8.data.toList.length < 2 ^ 32)
    (before tail : ByteString) (next : α → Cursor → Option β) :
    ((Cursor.split before (vecU32 text.toUTF8.data.toList ++ tail)).vecU32.bind fun read =>
      (parseUtf8 read.1).bind fun text => (parse text).bind fun value => next value read.2) =
      next value (Cursor.split (before ++ vecU32 text.toUTF8.data.toList) tail) := by
  rw [vecU32_split_vecU32 hlen, Option.bind_some, parseUtf8_toUTF8, Option.bind_some, hparse,
    Option.bind_some]

/-- The fields that are written after their length. -/
def PacketBody.payloads (lib : Primitives) : PacketBody → List ByteString
  | .data _ ipPacket => [ipPacket]
  | .relayForward _ _ innerPacket => [innerPacket]
  | .disconnect _ => []
  | .lighthouseQuery _ targetIp => [(lib.ipAddrToString targetIp).toUTF8.data.toList]
  | .lighthouseResponse _ targetIp _ peerAddr peerCert _ =>
      [(lib.ipAddrToString targetIp).toUTF8.data.toList,
        (lib.socketAddrToString peerAddr).toUTF8.data.toList, lib.certToVec peerCert]
  | .lighthouseNotFound _ targetIp => [(lib.ipAddrToString targetIp).toUTF8.data.toList]
  | .keepalive _ _ => []
  | .keepaliveAck _ _ => []

/-- The lengths fit into 32 bits. -/
def PacketBody.Short (lib : Primitives) (body : PacketBody) : Prop :=
  ∀ payload ∈ body.payloads lib, payload.length < 2 ^ 32

/-- The text forms of the addresses in a body stand for these addresses.  A socket
address with a flow label has none. -/
def PacketBody.TextsReadBack (lib : Primitives) : PacketBody → Prop
  | .lighthouseQuery _ targetIp => lib.ipAddrParse (lib.ipAddrToString targetIp) = some targetIp
  | .lighthouseResponse _ targetIp _ peerAddr _ _ =>
      lib.ipAddrParse (lib.ipAddrToString targetIp) = some targetIp ∧
        lib.socketAddrParse (lib.socketAddrToString peerAddr) = some peerAddr
  | .lighthouseNotFound _ targetIp => lib.ipAddrParse (lib.ipAddrToString targetIp) = some targetIp
  | _ => True

private theorem readBody_lighthouseResponse (seq : UInt64) (rd : Cursor) :
    readBody lib kindLighthouseResponse seq rd =
      rd.vecU32.bind fun read => (parseUtf8 read.1).bind fun text =>
        (lib.ipAddrParse text).bind fun targetIp => read.2.u32.bind fun id =>
          id.2.vecU32.bind fun addr => (parseUtf8 addr.1).bind fun text =>
            (lib.socketAddrParse text).bind fun peerAddr => addr.2.vecU32.bind fun cert =>
              (lib.certFromSlice cert.1).bind fun peerCert => cert.2.u8.bind fun relay =>
                some (.lighthouseResponse seq targetIp id.1 peerAddr peerCert (relay.1 != 0)) := by
  unfold readBody
  rw [if_neg (by decide), if_neg (by decide), if_neg (by decide), if_neg (by decide), if_pos rfl]
  rfl

/-- What each writer puts after the sequence number, the reader reads. -/
theorem readBody_fields (hlib : lib.Correct) {body : PacketBody} (hshort : body.Short lib)
    (htexts : body.TextsReadBack lib) :
    ∃ seq rest, body.fields lib = (u64BE seq).toList ++ rest ∧ ∀ before padding,
      readBody lib body.kind seq (Cursor.split before (rest ++ padding)) = some body := by
  cases body with
  | data seq ipPacket =>
      have hpacket := hshort ipPacket List.mem_cons_self
      refine ⟨seq, vecU32 ipPacket, rfl, fun before padding => ?_⟩
      change (Cursor.vecU32 _).bind _ = _
      rw [vecU32_split_vecU32 hpacket]
      rfl
  | relayForward seq nextPeerId innerPacket =>
      have hpacket := hshort innerPacket List.mem_cons_self
      refine ⟨seq, (u32BE nextPeerId).toList ++ vecU32 innerPacket, List.append_assoc _ _ _,
        fun before padding => ?_⟩
      change (Cursor.u32 _).bind _ = _
      rw [List.append_assoc, Cursor.u32_split_append, Option.bind_some]
      change (Cursor.vecU32 _).bind _ = _
      rw [vecU32_split_vecU32 hpacket]
      rfl
  | disconnect seq =>
      exact ⟨seq, [], (List.append_nil _).symm, fun before padding => rfl⟩
  | lighthouseQuery seq targetIp =>
      refine ⟨seq, vecU32 (lib.ipAddrToString targetIp).toUTF8.data.toList, rfl,
        fun before padding => ?_⟩
      exact read_text htexts (hshort _ List.mem_cons_self) before padding
        fun targetIp _ => some (PacketBody.lighthouseQuery seq targetIp)
  | lighthouseResponse seq targetIp peerId peerAddr peerCert peerIsRelay =>
      have hip := hshort _ List.mem_cons_self
      have haddr := hshort _ (List.mem_cons_of_mem _ List.mem_cons_self)
      have hcert := hshort _ (List.mem_cons_of_mem _ (List.mem_cons_of_mem _ List.mem_cons_self))
      have hrelay : ((if peerIsRelay then 1 else 0 : UInt8) != 0) = peerIsRelay := by
        cases peerIsRelay <;> rfl
      refine ⟨seq, vecU32 (lib.ipAddrToString targetIp).toUTF8.data.toList ++
        ((u32BE peerId).toList ++ (vecU32 (lib.socketAddrToString peerAddr).toUTF8.data.toList ++
          (vecU32 (lib.certToVec peerCert) ++ [if peerIsRelay then 1 else 0]))), ?_,
        fun before padding => ?_⟩
      · simp only [PacketBody.fields, List.append_assoc]
      · have hkind : (PacketBody.lighthouseResponse seq targetIp peerId peerAddr peerCert
            peerIsRelay).kind = kindLighthouseResponse := rfl
        rw [hkind, readBody_lighthouseResponse]
        simp only [List.append_assoc, vecU32_split_vecU32 hip, vecU32_split_vecU32 haddr,
          vecU32_split_vecU32 hcert, Option.bind_some, parseUtf8_toUTF8, htexts.1, htexts.2,
          hlib.cert_fromSlice_toVec, Cursor.u32_split_append, List.singleton_append,
          Cursor.u8_split_cons, hrelay]
  | lighthouseNotFound seq targetIp =>
      refine ⟨seq, vecU32 (lib.ipAddrToString targetIp).toUTF8.data.toList, rfl,
        fun before padding => ?_⟩
      exact read_text htexts (hshort _ List.mem_cons_self) before padding
        fun targetIp _ => some (PacketBody.lighthouseNotFound seq targetIp)
  | keepalive seq token =>
      refine ⟨seq, (u64BE token).toList, rfl, fun before padding => ?_⟩
      change (Cursor.u64 _).bind _ = _
      rw [Cursor.u64_split_append]
      rfl
  | keepaliveAck seq token =>
      refine ⟨seq, (u64BE token).toList, rfl, fun before padding => ?_⟩
      change (Cursor.u64 _).bind _ = _
      rw [Cursor.u64_split_append]
      rfl

theorem PacketBody.kind_mem (body : PacketBody) : body.kind ∈ knownKinds := by
  cases body <;> simp [PacketBody.kind, knownKinds]

theorem PacketBody.kind_ne (body : PacketBody) :
    body.kind ≠ kindHandshake1 ∧ body.kind ≠ kindHandshake2 ∧ body.kind ≠ kindHandshakeFrag := by
  cases body <;> (simp only [PacketBody.kind]; decide)

theorem networkHeader_encryptPacket (hlib : lib.Correct) (coins : SealCoins) (padding : Padding)
    (dstPeerId sessionId : UInt32) (networkKey : NetworkKey) (sessionKey : SessionKey)
    (body : PacketBody) :
    networkHeader lib (serializePacket (encryptPacket lib coins padding dstPeerId sessionId
        networkKey sessionKey body)) networkKey =
      some { kind := body.kind, fragIndex := 0, fragTotal := 0, dstPeerId := dstPeerId,
             sessionId := sessionId } :=
  networkHeader_sealPacket hlib coins body.kind_mem _ _ _ _ _

theorem decryptPacket_encryptPacket (hlib : lib.Correct) (coins : SealCoins) (padding : Padding)
    (dstPeerId sessionId : UInt32) (networkKey : NetworkKey) (sessionKey : SessionKey)
    {body : PacketBody} (hshort : body.Short lib) (htexts : body.TextsReadBack lib) :
    decryptPacket lib (serializePacket (encryptPacket lib coins padding dstPeerId sessionId
        networkKey sessionKey body)) networkKey sessionKey =
      some ({ kind := body.kind, fragIndex := 0, fragTotal := 0, dstPeerId := dstPeerId,
              sessionId := sessionId }, body) := by
  obtain ⟨seq, rest, hfields, hread⟩ := readBody_fields hlib hshort htexts
  unfold encryptPacket
  rw [hfields, List.append_assoc, decryptPacket_sealPacket hlib coins body.kind_mem, hread,
    Option.map_some]

/-- The writer of each kind of packet, given the fields as a body. -/
def encryptBody (lib : Primitives) (coins : SealCoins) (padding : Padding)
    (dstPeerId sessionId : UInt32) (networkKey : NetworkKey) (sessionKey : SessionKey) :
    PacketBody → DataPacket
  | .data seq ipPacket =>
      encryptDataPacket lib coins padding seq dstPeerId sessionId ipPacket networkKey sessionKey
  | .relayForward seq nextPeerId innerPacket =>
      encryptRelayForwardPacket lib coins padding seq dstPeerId sessionId nextPeerId innerPacket
        networkKey sessionKey
  | .disconnect seq =>
      encryptDisconnectPacket lib coins padding seq dstPeerId sessionId networkKey sessionKey
  | .lighthouseQuery seq targetIp =>
      encryptLighthouseQueryPacket lib coins padding seq dstPeerId sessionId targetIp networkKey
        sessionKey
  | .lighthouseResponse seq targetIp peerId peerAddr peerCert peerIsRelay =>
      encryptLighthouseResponsePacket lib coins padding seq dstPeerId sessionId targetIp peerId
        peerAddr peerCert peerIsRelay networkKey sessionKey
  | .lighthouseNotFound seq targetIp =>
      encryptLighthouseNotFoundPacket lib coins padding seq dstPeerId sessionId targetIp networkKey
        sessionKey
  | .keepalive seq token =>
      encryptKeepalivePacket lib coins padding seq dstPeerId sessionId token networkKey sessionKey
  | .keepaliveAck seq token =>
      encryptKeepaliveAckPacket lib coins padding seq dstPeerId sessionId token networkKey
        sessionKey

/-- Every packet that a writer makes is read back as it was made, whatever the
nonces and the padding. -/
theorem decryptPacket_encryptBody (hlib : lib.Correct) (coins : SealCoins) (padding : Padding)
    (dstPeerId sessionId : UInt32) (networkKey : NetworkKey) (sessionKey : SessionKey)
    (body : PacketBody) (hshort : body.Short lib) (htexts : body.TextsReadBack lib) :
    decryptPacket lib (serializePacket (encryptBody lib coins padding dstPeerId sessionId
        networkKey sessionKey body)) networkKey sessionKey =
      some ({ kind := body.kind, fragIndex := 0, fragTotal := 0, dstPeerId := dstPeerId,
              sessionId := sessionId }, body) := by
  have hwriter : encryptBody lib coins padding dstPeerId sessionId networkKey sessionKey body =
      encryptPacket lib coins padding dstPeerId sessionId networkKey sessionKey body := by
    cases body <;> rfl
  rw [hwriter]
  exact decryptPacket_encryptPacket hlib coins padding dstPeerId sessionId networkKey sessionKey
    hshort htexts

namespace Sample

/-- Transparent primitives that write and read the addresses of the sample answer. -/
noncomputable def spelled : Primitives :=
  { transparent [cert "bob" 2] with
    ipAddrToString := fun _ => "10.0.0.2"
    ipAddrParse := fun text => if text = "10.0.0.2" then some (.v4 0x0A000002#32) else none
    socketAddrToString := fun _ => "10.0.0.1:4242"
    socketAddrParse := fun text => if text = "10.0.0.1:4242" then some source else none }

theorem spelled_correct : spelled.Correct :=
  (transparent_correct [cert "bob" 2]).withTexts _ _ _ _ _

/-- What a lighthouse says about bob. -/
noncomputable def answer : PacketBody :=
  .lighthouseResponse 7 (.v4 0x0A000002#32) 2 source (cert "bob" 2) true

theorem answer_short : answer.Short spelled := by
  have hcert : (spelled.certToVec (cert "bob" 2)).length < 2 ^ 32 :=
    length_certToVec_lt List.mem_cons_self (by decide)
  intro payload hpayload
  simp only [answer, PacketBody.payloads, List.mem_cons, List.not_mem_nil, or_false] at hpayload
  obtain hip | haddr | hlast := hpayload
  · rw [hip]
    change "10.0.0.2".toUTF8.data.toList.length < 2 ^ 32
    decide
  · rw [haddr]
    change "10.0.0.1:4242".toUTF8.data.toList.length < 2 ^ 32
    decide
  · rw [hlast]
    exact hcert

end Sample

theorem lighthouse_answer_reads_back :
    decryptPacket Sample.spelled (serializePacket (encryptBody Sample.spelled Sample.sealing
        Sample.padding 5 6 Sample.networkKey (Vector.replicate _ 9) Sample.answer))
        Sample.networkKey (Vector.replicate _ 9) =
      some ({ kind := kindLighthouseResponse, fragIndex := 0, fragTotal := 0, dstPeerId := 5,
              sessionId := 6 }, Sample.answer) :=
  decryptPacket_encryptBody Sample.spelled_correct Sample.sealing Sample.padding 5 6
    Sample.networkKey (Vector.replicate _ 9) Sample.answer Sample.answer_short ⟨rfl, rfl⟩

end Liteway.Core
