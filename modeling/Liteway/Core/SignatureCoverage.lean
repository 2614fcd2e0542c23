import Liteway.Core.HandshakeLayout
import Liteway.Core.Transparent

/-!
# What the signature of a handshake covers

The parsers find the end of the signed bytes while they read: it is where the
certificate ends, and that depends on a length in the message itself.  Everything
a parser returns stands before that point, so two accepted messages with the same
signed bytes mean the same.
-/

namespace Liteway.Core

open Liteway.Library

/-- The length of what stands before the certificate of a handshake_1. -/
def handshake1Fixed : Nat := 1 + 1 + 2 + 8 + 16 + 4 + 32 + mlkemPkLen

/-- The length of what stands before the certificate of a handshake_2. -/
def handshake2Fixed : Nat := 1 + 1 + 2 + 8 + 16 + 4 + 32 + mlkemCtLen + 32

/-- The bytes up to the end of a certificate that stands, behind its length, after
`fixed` bytes. -/
def signedPrefix (fixed : Nat) (data : ByteString) : ByteString :=
  data.take (fixed + 4 + decodeNatBE ((data.drop fixed).take 4))

section Prefix

variable {front certBytes : ByteString} {fixed : Nat}

theorem signedPrefix_append (hfront : front.length = fixed) (hlen : certBytes.length < 2 ^ 32)
    (rest : ByteString) :
    signedPrefix fixed (front ++ vecU32 certBytes ++ rest) = front ++ vecU32 certBytes := by
  have hfield : ((front ++ vecU32 certBytes ++ rest).drop fixed).take 4 =
      (u32BE (UInt32.ofNat certBytes.length)).toList := by
    rw [List.append_assoc, List.drop_left' hfront, vecU32, List.append_assoc]
    exact List.take_left' (by simp)
  have hcount : decodeNatBE (u32BE (UInt32.ofNat certBytes.length)).toList = certBytes.length := by
    have hword : (UInt32.ofNat certBytes.length).toNat = certBytes.length :=
      UInt32.toNat_ofNat_of_lt' hlen
    change decodeNatBE (natBE 4 (UInt32.ofNat certBytes.length).toNat) = _
    rw [hword, decodeNatBE_natBE]
    exact Nat.mod_eq_of_lt hlen
  unfold signedPrefix
  rw [hfield, hcount]
  apply List.take_left'
  simp [vecU32, hfront]
  omega

end Prefix

/-- The certificate is the last thing in the signed bytes. -/
def EndsWithCert (lib : Primitives) (fixed : Nat) (signed : ByteString) (cert : Cert) : Prop :=
  ∃ front certBytes, signed = front ++ vecU32 certBytes ∧ front.length = fixed ∧
    certBytes.length < 2 ^ 32 ∧ lib.certFromSlice certBytes = some cert

theorem EndsWithCert.signedPrefix_eq {lib : Primitives} {fixed : Nat} {signed : ByteString}
    {cert : Cert} (h : EndsWithCert lib fixed signed cert) (sig : HybridSignature)
    (padding : ByteString) : signedPrefix fixed (withSignature signed sig padding) = signed := by
  obtain ⟨front, certBytes, rfl, hfront, hlen, -⟩ := h
  exact signedPrefix_append hfront hlen _

/-- The signature that decides about a plaintext follows the signed bytes, and it is
checked over these. -/
structure VerifiedOver {α : Type} (lib : Primitives) (fixed : Nat)
    (parse : ByteString → Except HandshakeError α) (cert : Cert) (data signed : ByteString)
    (plain : α) : Prop where
  ends : EndsWithCert lib fixed signed cert
  split : ∃ sig padding, data = withSignature signed sig padding
  verified : ∀ sig padding, parse (withSignature signed sig padding) = .ok plain ↔
    hybridVerify lib cert.verifyKey signed sig = true

theorem withSignature_inj {signed : ByteString} {sig sig' : HybridSignature}
    {padding padding' : ByteString}
    (h : withSignature signed sig padding = withSignature signed sig' padding') : sig = sig' := by
  obtain ⟨hed25519, hrest⟩ := Bytes.toList_append_inj (List.append_cancel_left h)
  obtain ⟨hmlDsa, -⟩ := Bytes.toList_append_inj hrest
  cases sig
  cases sig'
  cases hed25519
  cases hmlDsa
  rfl

/-! ## Both parsers at once

A parser accepts signed bytes that mean `plain`, followed by a signature over them
and by anything at all. -/

section Parser

variable {α : Type} {lib : Primitives} {fixed : Nat}
  {parse : ByteString → Except HandshakeError α} {certOf : α → Cert}
  {Means : ByteString → α → Prop} {data : ByteString} {plain : α}

/-- The parser accepts what `Means` and the signature allow, and nothing else. -/
def AcceptsSigned (lib : Primitives) (fixed : Nat) (parse : ByteString → Except HandshakeError α)
    (certOf : α → Cert) (Means : ByteString → α → Prop) : Prop :=
  (∀ signed plain, Means signed plain → EndsWithCert lib fixed signed (certOf plain)) ∧
    ∀ data plain, parse data = .ok plain ↔
      ∃ signed sig padding, data = withSignature signed sig padding ∧ Means signed plain ∧
        hybridVerify lib (certOf plain).verifyKey signed sig = true

theorem AcceptsSigned.means (haccepts : AcceptsSigned lib fixed parse certOf Means)
    (h : parse data = .ok plain) : Means (signedPrefix fixed data) plain := by
  obtain ⟨signed, sig, padding, rfl, hmeans, -⟩ := (haccepts.2 data plain).mp h
  rw [(haccepts.1 signed plain hmeans).signedPrefix_eq]
  exact hmeans

theorem AcceptsSigned.verifiedOver (haccepts : AcceptsSigned lib fixed parse certOf Means)
    (h : parse data = .ok plain) :
    VerifiedOver lib fixed parse (certOf plain) data (signedPrefix fixed data) plain := by
  have hmeans := haccepts.means h
  have hends := haccepts.1 _ plain hmeans
  obtain ⟨signed, sig, padding, hdata, hsigned, -⟩ := (haccepts.2 data plain).mp h
  have hstart : signedPrefix fixed data = signed := by
    rw [hdata]
    exact (haccepts.1 signed plain hsigned).signedPrefix_eq sig padding
  refine ⟨hends, ⟨sig, padding, by rw [hstart, hdata]⟩, ?_⟩
  intro other extra
  rw [haccepts.2]
  constructor
  · rintro ⟨signed', sig', padding', hother, hmeans', hverify⟩
    -- the bytes after which the signature is looked for are the same
    have hsame := congrArg (signedPrefix fixed) hother
    rw [hends.signedPrefix_eq, (haccepts.1 signed' plain hmeans').signedPrefix_eq] at hsame
    rw [← hsame] at hother hverify
    rw [withSignature_inj hother]
    exact hverify
  · intro hverify
    exact ⟨_, other, extra, rfl, hmeans, hverify⟩

end Parser

/-! ## Requests -/

/-- The signed bytes are those of a request at an acceptable time, with a certificate
of the network. -/
def RequestMeans (lib : Primitives) (caVk : HybridVerifyKey) (now : UInt64) (signed : ByteString)
    (plain : Handshake1Plain) : Prop :=
  ∃ flags timestamp random certBytes,
    signed = handshake1Signed flags timestamp random plain.rxSessionId plain.ephX25519Pk
      plain.ephMlkemPk certBytes ∧
    timestampValid timestamp now ∧ certBytes.length < 2 ^ 32 ∧
    lib.certFromSlice certBytes = some plain.cert ∧ plain.cert.verify lib caVk now = true ∧
    plain.peerIsRelay = (flags &&& flagRelay != 0)

theorem accepts_parseHandshake1 (lib : Primitives) (caVk : HybridVerifyKey) (now : UInt64) :
    AcceptsSigned lib handshake1Fixed (fun data => parseHandshake1 lib data caVk now)
      Handshake1Plain.cert (RequestMeans lib caVk now) := by
  constructor
  · rintro signed plain ⟨flags, timestamp, random, certBytes, rfl, -, hlen, hcert, -, -⟩
    refine ⟨kindHandshake1 :: handshakeVersion :: ((u16BE flags).toList ++
      ((u64BE timestamp).toList ++ (random.toList ++ ((u32BE plain.rxSessionId).toList ++
        (plain.ephX25519Pk.toList ++ plain.ephMlkemPk.toList))))), certBytes, ?_, ?_, hlen, hcert⟩
    · simp [handshake1Signed]
    · simp only [List.length_cons, List.length_append, Vector.length_toList]
      rfl
  · intro data plain
    rw [parseHandshake1_eq_ok_iff]
    constructor
    · rintro ⟨flags, timestamp, random, certBytes, sig, padding, hdata, htime, hlen, hcert, hverify,
        hsig, hrelay⟩
      exact ⟨_, sig, padding, hdata,
        ⟨flags, timestamp, random, certBytes, rfl, htime, hlen, hcert, hverify, hrelay⟩, hsig⟩
    · rintro ⟨signed, sig, padding, hdata,
        ⟨flags, timestamp, random, certBytes, rfl, htime, hlen, hcert, hverify, hrelay⟩, hsig⟩
      exact ⟨flags, timestamp, random, certBytes, sig, padding, hdata, htime, hlen, hcert, hverify,
        hsig, hrelay⟩

theorem requestMeans_unique {lib : Primitives} {caVk caVk' : HybridVerifyKey} {now now' : UInt64}
    {signed : ByteString} {plain plain' : Handshake1Plain}
    (h : RequestMeans lib caVk now signed plain) (h' : RequestMeans lib caVk' now' signed plain') :
    plain = plain' := by
  obtain ⟨flags, timestamp, random, certBytes, rfl, -, hlen, hcert, -, hrelay⟩ := h
  obtain ⟨flags', timestamp', random', certBytes', hsigned, -, hlen', hcert', -, hrelay'⟩ := h'
  obtain ⟨rfl, -, hrx, hx, hm, hrest⟩ :=
    handshake1Signed_append_inj (congrArg (· ++ ([] : ByteString)) hsigned)
  obtain ⟨rfl, -⟩ := vecU32_append_inj hlen hlen' hrest
  have hsame := Option.some.inj (hcert.symm.trans hcert')
  cases plain
  cases plain'
  simp only [Handshake1Plain.mk.injEq]
  exact ⟨hsame, hrx, hx, hm, hrelay.trans hrelay'.symm⟩

/-! ## Replies -/

/-- The signed bytes are those of a reply to `expectedHs1Msg`. -/
def ReplyMeans (lib : Primitives) (expectedHs1Msg : ByteString) (caVk : HybridVerifyKey)
    (now : UInt64) (signed : ByteString) (plain : Handshake2Plain) : Prop :=
  ∃ flags timestamp random certBytes,
    signed = handshake2Signed flags timestamp random plain.rxSessionId plain.ephX25519Pk
      plain.mlkemCt (lib.blake3Hash expectedHs1Msg) certBytes ∧
    timestampValid timestamp now ∧ certBytes.length < 2 ^ 32 ∧
    lib.certFromSlice certBytes = some plain.cert ∧ plain.cert.verify lib caVk now = true ∧
    plain.peerIsRelay = (flags &&& flagRelay != 0)

theorem accepts_parseHandshake2 (lib : Primitives) (expectedHs1Msg : ByteString)
    (caVk : HybridVerifyKey) (now : UInt64) :
    AcceptsSigned lib handshake2Fixed (fun data => parseHandshake2 lib data expectedHs1Msg caVk now)
      Handshake2Plain.cert (ReplyMeans lib expectedHs1Msg caVk now) := by
  constructor
  · rintro signed plain ⟨flags, timestamp, random, certBytes, rfl, -, hlen, hcert, -, -⟩
    refine ⟨kindHandshake2 :: handshakeVersion :: ((u16BE flags).toList ++
      ((u64BE timestamp).toList ++ (random.toList ++ ((u32BE plain.rxSessionId).toList ++
        (plain.ephX25519Pk.toList ++ (plain.mlkemCt.toList ++
          (lib.blake3Hash expectedHs1Msg).toList)))))), certBytes, ?_, ?_, hlen, hcert⟩
    · simp [handshake2Signed]
    · simp only [List.length_cons, List.length_append, Vector.length_toList]
      rfl
  · intro data plain
    rw [parseHandshake2_eq_ok_iff]
    constructor
    · rintro ⟨flags, timestamp, random, certBytes, sig, padding, hdata, htime, hlen, hcert, hverify,
        hsig, hrelay⟩
      exact ⟨_, sig, padding, hdata,
        ⟨flags, timestamp, random, certBytes, rfl, htime, hlen, hcert, hverify, hrelay⟩, hsig⟩
    · rintro ⟨signed, sig, padding, hdata,
        ⟨flags, timestamp, random, certBytes, rfl, htime, hlen, hcert, hverify, hrelay⟩, hsig⟩
      exact ⟨flags, timestamp, random, certBytes, sig, padding, hdata, htime, hlen, hcert, hverify,
        hsig, hrelay⟩

theorem replyMeans_unique {lib : Primitives} {expectedHs1Msg expectedHs1Msg' : ByteString}
    {caVk caVk' : HybridVerifyKey} {now now' : UInt64} {signed : ByteString}
    {plain plain' : Handshake2Plain} (h : ReplyMeans lib expectedHs1Msg caVk now signed plain)
    (h' : ReplyMeans lib expectedHs1Msg' caVk' now' signed plain') : plain = plain' := by
  obtain ⟨flags, timestamp, random, certBytes, rfl, -, hlen, hcert, -, hrelay⟩ := h
  obtain ⟨flags', timestamp', random', certBytes', hsigned, -, hlen', hcert', -, hrelay'⟩ := h'
  obtain ⟨rfl, -, hrx, hx, hct, -, hrest⟩ :=
    handshake2Signed_append_inj (congrArg (· ++ ([] : ByteString)) hsigned)
  obtain ⟨rfl, -⟩ := vecU32_append_inj hlen hlen' hrest
  have hsame := Option.some.inj (hcert.symm.trans hcert')
  cases plain
  cases plain'
  simp only [Handshake2Plain.mk.injEq]
  exact ⟨hsame, hrx, hx, hct, hrelay.trans hrelay'.symm⟩

/-- No bytes are those of a request and of a reply: their first byte tells. -/
theorem not_requestMeans_of_replyMeans {lib : Primitives} {expectedHs1Msg : ByteString}
    {caVk caVk' : HybridVerifyKey} {now now' : UInt64} {signed : ByteString}
    {reply : Handshake2Plain} (hreply : ReplyMeans lib expectedHs1Msg caVk now signed reply)
    (request : Handshake1Plain) : ¬ RequestMeans lib caVk' now' signed request := by
  obtain ⟨flags, timestamp, random, certBytes, rfl, -⟩ := hreply
  rintro ⟨flags', timestamp', random', certBytes', hsigned, -⟩
  have hkind : kindHandshake2 = kindHandshake1 := (List.cons.inj hsigned).1
  exact absurd hkind (by decide)

/-! ## Coverage -/

/-- An accepted handshake is signed up to the end of its certificate, what it says is
in those bytes, and a request never has the signed bytes of a reply. -/
theorem handshake_signatures_cover (lib : Primitives) :
    (∀ data caVk now plain, parseHandshake1 lib data caVk now = .ok plain →
      VerifiedOver lib handshake1Fixed (fun data => parseHandshake1 lib data caVk now) plain.cert
          data (signedPrefix handshake1Fixed data) plain ∧
        ∀ data' caVk' now' plain', parseHandshake1 lib data' caVk' now' = .ok plain' →
          signedPrefix handshake1Fixed data' = signedPrefix handshake1Fixed data →
          plain' = plain) ∧
    (∀ data hs1Msg caVk now plain, parseHandshake2 lib data hs1Msg caVk now = .ok plain →
      VerifiedOver lib handshake2Fixed (fun data => parseHandshake2 lib data hs1Msg caVk now)
          plain.cert data (signedPrefix handshake2Fixed data) plain ∧
        ∀ data' hs1Msg' caVk' now' plain', parseHandshake2 lib data' hs1Msg' caVk' now' = .ok plain' →
          signedPrefix handshake2Fixed data' = signedPrefix handshake2Fixed data →
          plain' = plain) ∧
    ∀ data caVk now plain data' hs1Msg caVk' now' plain',
      parseHandshake1 lib data caVk now = .ok plain →
      parseHandshake2 lib data' hs1Msg caVk' now' = .ok plain' →
      signedPrefix handshake1Fixed data ≠ signedPrefix handshake2Fixed data' := by
  refine ⟨?_, ?_, ?_⟩
  · intro data caVk now plain h
    refine ⟨(accepts_parseHandshake1 lib caVk now).verifiedOver h, ?_⟩
    intro data' caVk' now' plain' h' hsigned
    have hmeans' := (accepts_parseHandshake1 lib caVk' now').means h'
    rw [hsigned] at hmeans'
    exact requestMeans_unique hmeans' ((accepts_parseHandshake1 lib caVk now).means h)
  · intro data hs1Msg caVk now plain h
    refine ⟨(accepts_parseHandshake2 lib hs1Msg caVk now).verifiedOver h, ?_⟩
    intro data' hs1Msg' caVk' now' plain' h' hsigned
    have hmeans' := (accepts_parseHandshake2 lib hs1Msg' caVk' now').means h'
    rw [hsigned] at hmeans'
    exact replyMeans_unique hmeans' ((accepts_parseHandshake2 lib hs1Msg caVk now).means h)
  · intro data caVk now plain data' hs1Msg caVk' now' plain' hrequest hreply hsigned
    have hmeans := (accepts_parseHandshake1 lib caVk now).means hrequest
    rw [hsigned] at hmeans
    exact not_requestMeans_of_replyMeans
      ((accepts_parseHandshake2 lib hs1Msg caVk' now').means hreply) plain hmeans

namespace Sample

/-- The primitives of the sample exchange. -/
noncomputable abbrev dialLib : Primitives := transparent [cert "alice" 1, cert "bob" 2]

/-- The request of the sample exchange as it is opened. -/
noncomputable def request : ByteString :=
  requestPlaintext dialLib dial.coins dial.created dial.initiator.cert dial.initiator.signingKey
    dial.initiatorRelay

theorem parseHandshake1_request :
    parseHandshake1 dialLib request dial.caVk dial.answered =
      .ok (requestPlain dialLib dial.coins dial.initiator.cert dial.initiatorRelay) :=
  parseHandshake1_requestPlaintext (transparent_correct _) _ _ _ dial.initiator _ _
    dial_valid.initiator_len (timestampValid_of_clocksAgree dial_valid.request_clock)
    dial_valid.initiator_cert

end Sample

/-- Alice's request is accepted, and so it is with other bytes behind its signature. -/
theorem dialled_request_covered :
    ∃ plain sig padding,
      parseHandshake1 Sample.dialLib Sample.request Sample.dial.caVk Sample.dial.answered =
        .ok plain ∧
      Sample.request = withSignature (signedPrefix handshake1Fixed Sample.request) sig padding ∧
      parseHandshake1 Sample.dialLib
        (withSignature (signedPrefix handshake1Fixed Sample.request) sig [1, 2, 3])
        Sample.dial.caVk Sample.dial.answered = .ok plain := by
  have hparse := Sample.parseHandshake1_request
  generalize Sample.request = data at hparse ⊢
  obtain ⟨hover, -⟩ := (handshake_signatures_cover _).1 _ _ _ _ hparse
  obtain ⟨sig, padding, hsplit⟩ := hover.split
  have hown := hover.verified sig padding
  rw [← hsplit] at hown
  exact ⟨_, sig, padding, hparse, hsplit, (hover.verified sig [1, 2, 3]).mpr (hown.mp hparse)⟩

end Liteway.Core
