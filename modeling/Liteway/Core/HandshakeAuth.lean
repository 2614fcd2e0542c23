import Liteway.Core.HandshakeRoundTrip
import Liteway.Core.Transparent

/-!
# Key agreement against a holder of the network secret

An attacker who knows the network key can open and seal handshake messages, but
not sign for a node.  The signature of a reply covers the digest of the request
and the responder's session id, but not the sealed bytes of the reply itself,
and those go into the session key.
-/

namespace Liteway.Core

open Liteway.Library

/-- One successful run of `process_handshake_1`. -/
structure Answer where
  coins : ResponderCoins
  unixTime : UInt64
  data : ByteString
  response : HandshakeResponse

/-- Everything an honest node has signed: its answers and its own requests. -/
structure ResponderTrace (lib : Primitives) where
  identity : Identity lib
  networkKey : NetworkKey
  caVk : HybridVerifyKey
  relayFlag : Bool
  answers : List Answer
  requests : List (InitiatorCoins × UInt64)
  answered : ∀ answer ∈ answers,
    processHandshake1 lib answer.coins answer.unixTime answer.data identity.cert
      identity.signingKey networkKey caVk relayFlag = .ok answer.response

variable {lib : Primitives}

namespace ResponderTrace

variable (trace : ResponderTrace lib)

/-- The request an answer was given to, as the responder read it. -/
def Reads (answer : Answer) (hs1 : Handshake1Plain) : Prop :=
  ∃ plaintext, openHandshake lib trace.networkKey answer.data = some plaintext ∧
    parseHandshake1 lib plaintext trace.caVk answer.unixTime = .ok hs1

/-- The byte strings the node has put its signature under. -/
def Signed (bytes : ByteString) : Prop :=
  (∃ answer ∈ trace.answers, ∃ hs1, trace.Reads answer hs1 ∧
    bytes = responseSigned lib answer.coins answer.unixTime answer.data trace.identity.cert
      trace.relayFlag hs1.ephMlkemPk) ∨
  ∃ request ∈ trace.requests,
    bytes = requestSigned lib request.1 request.2 trace.identity.cert trace.relayFlag

/-- A signature of the node that is read out of `reply` is one it made. -/
def Unforged (reply : ByteString) : Prop :=
  ∀ flags timestamp random rxSessionId ephX25519Pk mlkemCt hs1Hash certBytes sig padding,
    openHandshake lib trace.networkKey reply = some (withSignature (handshake2Signed flags timestamp
      random rxSessionId ephX25519Pk mlkemCt hs1Hash certBytes) sig padding) →
    certBytes.length < 2 ^ 32 →
    hybridVerify lib trace.identity.cert.verifyKey (handshake2Signed flags timestamp random
      rxSessionId ephX25519Pk mlkemCt hs1Hash certBytes) sig = true →
    trace.Signed (handshake2Signed flags timestamp random rxSessionId ephX25519Pk mlkemCt hs1Hash
      certBytes)

/-- The sealed messages that are hashed when `initiate` meets `reply`. -/
def messages (initiate : HandshakeInitiate) (reply : ByteString) : Set ByteString :=
  {bytes | bytes = initiate.msg ∨ bytes = reply ∨
    ∃ answer ∈ trace.answers, bytes = answer.data ∨ bytes = answer.response.msg}

/-- What goes into `derive_session_v2`. -/
def sessionInput (lib : Primitives) (hybridSs hs1Msg hs2Msg : ByteString) : ByteString :=
  hybridSs ++ (lib.blake3Hash hs1Msg).toList ++ (lib.blake3Hash hs2Msg).toList

/-- The inputs from which the two ends derive session keys. -/
def sessionInputs (initiate : HandshakeInitiate) (reply : ByteString) : Set ByteString :=
  {bytes | (∃ plaintext now hs2, openHandshake lib trace.networkKey reply = some plaintext ∧
      parseHandshake2 lib plaintext initiate.msg trace.caVk now = .ok hs2 ∧
      bytes = sessionInput lib (initiatorSecret lib initiate hs2) initiate.msg reply) ∨
    ∃ answer ∈ trace.answers, ∃ hs1, trace.Reads answer hs1 ∧
      bytes = sessionInput lib (responderSecret lib answer.coins hs1) answer.data
        answer.response.msg}

/-- No two messages and no two key inputs of the exchange collide. -/
structure CollisionFree (initiate : HandshakeInitiate) (reply : ByteString) : Prop where
  hash : Set.InjOn lib.blake3Hash (trace.messages initiate reply)
  deriveKey : Set.InjOn (lib.blake3DeriveKey "liteway-session-v2")
    (trace.sessionInputs initiate reply)

/-- The responder answered exactly this request, with session ids crosswise. -/
def Answers (initiate : HandshakeInitiate) (result : HandshakeResult) (answer : Answer) : Prop :=
  answer ∈ trace.answers ∧ answer.data = initiate.msg ∧
    answer.response.myRxSessionId = result.peerRxSessionId ∧
    answer.response.peerRxSessionId = result.myRxSessionId

/-- Both ends hold the same session. -/
def Agreement (initiate : HandshakeInitiate) (result : HandshakeResult) : Prop :=
  ∃ answer, trace.Answers initiate result answer ∧
    answer.response.sessionKey = result.sessionKey

/-- `reply` is byte for byte a handshake_2 that the responder sent. -/
def Sent (reply : ByteString) : Prop := ∃ answer ∈ trace.answers, answer.response.msg = reply

end ResponderTrace

namespace ResponderTrace

variable {trace : ResponderTrace lib} {coins : InitiatorCoins} {created : UInt64} {cert : Cert}
  {signingKey : HybridSigningKey} {relayFlag : Bool} {initiate : HandshakeInitiate}
  {reply : ByteString} {now : UInt64} {result : HandshakeResult}

theorem answer_eq_respond {answer : Answer} (hanswer : answer ∈ trace.answers) :
    ∃ hs1, trace.Reads answer hs1 ∧
      answer.response = respond lib answer.coins answer.unixTime answer.data trace.identity.cert
        trace.identity.signingKey trace.networkKey trace.relayFlag hs1 := by
  obtain ⟨plaintext, hs1, hopen, hparse, -, hresponse⟩ :=
    processHandshake1_eq_ok_iff.mp (trace.answered answer hanswer)
  exact ⟨hs1, ⟨plaintext, hopen, hparse⟩, hresponse.symm⟩

theorem reads_createHandshake1 (hlib : lib.Correct)
    (hinit : initiate = createHandshake1 lib coins created cert signingKey trace.networkKey
      relayFlag) {answer : Answer} {hs1 : Handshake1Plain} (hreads : trace.Reads answer hs1)
    (hdata : answer.data = initiate.msg) :
    hs1.rxSessionId = initiate.myRxSessionId ∧
      hs1.ephX25519Pk = lib.x25519Public initiate.ephX25519Sk ∧
      hs1.ephMlkemPk = lib.mlKemPublic initiate.ephMlkemSk := by
  obtain ⟨plaintext, hopen, hparse⟩ := hreads
  rw [hdata, hinit, openHandshake_createHandshake1 hlib] at hopen
  cases Option.some.inj hopen
  rw [hinit]
  exact parse_requestPlaintext_fields hparse

/-- The signature alone shows that the responder answered exactly this request. -/
theorem exists_answers (hlib : lib.Correct)
    (hinit : initiate = createHandshake1 lib coins created cert signingKey trace.networkKey
      relayFlag)
    (hresult : processHandshake2 lib now reply initiate trace.networkKey trace.caVk = .ok result)
    (hcert : result.peerCert = trace.identity.cert) (hunforged : trace.Unforged reply)
    (hhash : Set.InjOn lib.blake3Hash (trace.messages initiate reply)) :
    ∃ answer, trace.Answers initiate result answer := by
  obtain ⟨plaintext, hs2, hopen, hparse, rfl⟩ := processHandshake2_eq_ok_iff.mp hresult
  obtain ⟨flags, timestamp, random, certBytes, sig, padding, rfl, -, hlen, -, -, hsig, -⟩ :=
    parseHandshake2_eq_ok_iff.mp hparse
  have hpeer : hs2.cert = trace.identity.cert := hcert
  rw [hpeer] at hsig
  obtain ⟨answer, hanswer, hs1, hreads, hbytes⟩ | ⟨request, -, hbytes⟩ :=
    hunforged _ _ _ _ _ _ _ _ _ _ hopen hlen hsig
  · have hsame := congrArg (· ++ ([] : ByteString)) hbytes
    obtain ⟨-, -, hrx, -, -, hdigest, -⟩ := handshake2Signed_append_inj hsame
    have hdata : answer.data = initiate.msg := by
      apply hhash _ _ hdigest.symm
      · exact Or.inr (Or.inr ⟨answer, hanswer, Or.inl rfl⟩)
      · exact Or.inl rfl
    obtain ⟨hs1', hreads', hresponse⟩ := answer_eq_respond hanswer
    obtain ⟨hrx1, -, -⟩ := reads_createHandshake1 hlib hinit hreads' hdata
    refine ⟨answer, hanswer, hdata, ?_, ?_⟩
    · rw [hresponse]
      exact hrx.symm
    · rw [hresponse]
      exact hrx1
  · -- the node's own requests are signed under another kind byte
    simp [handshake2Signed, requestSigned, handshake1Signed, kindHandshake1,
      kindHandshake2] at hbytes

theorem agreement_of_sent (hlib : lib.Correct)
    (hinit : initiate = createHandshake1 lib coins created cert signingKey trace.networkKey
      relayFlag)
    (hresult : processHandshake2 lib now reply initiate trace.networkKey trace.caVk = .ok result)
    (hhash : Set.InjOn lib.blake3Hash (trace.messages initiate reply)) (hsent : trace.Sent reply) :
    trace.Agreement initiate result := by
  obtain ⟨answer, hanswer, hmsg⟩ := hsent
  obtain ⟨hs1, hreads, hresponse⟩ := answer_eq_respond hanswer
  obtain ⟨plaintext, hs2, hopen, hparse, rfl⟩ := processHandshake2_eq_ok_iff.mp hresult
  rw [← hmsg, hresponse, openHandshake_respond hlib] at hopen
  cases Option.some.inj hopen
  obtain ⟨hdigest, hrx2, hx2, hct⟩ := parse_replyPlaintext_fields hparse
  have hdata : answer.data = initiate.msg := by
    apply hhash _ _ hdigest
    · exact Or.inr (Or.inr ⟨answer, hanswer, Or.inl rfl⟩)
    · exact Or.inl rfl
  obtain ⟨hrx1, hx1, hm1⟩ := reads_createHandshake1 hlib hinit hreads hdata
  refine ⟨answer, ⟨hanswer, hdata, ?_, ?_⟩, ?_⟩
  · rw [hresponse]
    exact hrx2.symm
  · rw [hresponse]
    exact hrx1
  · have hsecret : initiatorSecret lib initiate hs2 = responderSecret lib answer.coins hs1 :=
      initiatorSecret_eq_responderSecret hlib hx1 hm1 hx2 hct
    rw [conclude_sessionKey, hsecret, ← hmsg, ← hdata, hresponse]
    exact respond_sessionKey _ _ _ _ _ _ _ _

theorem sent_of_agreement
    (hresult : processHandshake2 lib now reply initiate trace.networkKey trace.caVk = .ok result)
    (hfree : trace.CollisionFree initiate reply) (hagree : trace.Agreement initiate result) :
    trace.Sent reply := by
  obtain ⟨answer, ⟨hanswer, hdata, -, -⟩, hkey⟩ := hagree
  obtain ⟨hs1, hreads, hresponse⟩ := answer_eq_respond hanswer
  obtain ⟨plaintext, hs2, hopen, hparse, rfl⟩ := processHandshake2_eq_ok_iff.mp hresult
  have hinput : sessionInput lib (responderSecret lib answer.coins hs1) answer.data
      answer.response.msg =
      sessionInput lib (initiatorSecret lib initiate hs2) initiate.msg reply := by
    apply hfree.deriveKey
    · exact Or.inr ⟨answer, hanswer, hs1, hreads, rfl⟩
    · exact Or.inl ⟨plaintext, now, hs2, hopen, hparse, rfl⟩
    · rw [hresponse] at hkey ⊢
      exact hkey
  have hdigest := (List.append_inj_right' hinput (by simp))
  refine ⟨answer, hanswer, ?_⟩
  apply hfree.hash _ _ (Vector.toList_inj.mp hdigest)
  · exact Or.inr (Or.inr ⟨answer, hanswer, Or.inr rfl⟩)
  · exact Or.inr (Or.inl rfl)

/-- Whatever reply is accepted, the responder answered exactly this request; the
two ends hold the same key exactly when the reply is byte for byte what the
responder sent. -/
theorem agreement_iff_sent (hlib : lib.Correct)
    (hinit : initiate = createHandshake1 lib coins created cert signingKey trace.networkKey
      relayFlag)
    (hresult : processHandshake2 lib now reply initiate trace.networkKey trace.caVk = .ok result)
    (hcert : result.peerCert = trace.identity.cert) (hunforged : trace.Unforged reply)
    (hfree : trace.CollisionFree initiate reply) :
    (∃ answer, trace.Answers initiate result answer) ∧
      (trace.Agreement initiate result ↔ trace.Sent reply) :=
  ⟨exists_answers hlib hinit hresult hcert hunforged hfree.hash,
    sent_of_agreement hresult hfree, agreement_of_sent hlib hinit hresult hfree.hash⟩

end ResponderTrace

/-! ## An exchange with and without a resealed reply -/

namespace Exchange

def answer (x : Exchange lib) : Answer :=
  { coins := x.reply, unixTime := x.answered, data := x.initiate.msg, response := x.response }

/-- The responder has answered this request and signed nothing else. -/
def trace (hlib : lib.Correct) {x : Exchange lib} (hx : x.Valid) : ResponderTrace lib where
  identity := x.responder
  networkKey := x.networkKey
  caVk := x.caVk
  relayFlag := x.responderRelay
  answers := [x.answer]
  requests := []
  answered := by
    intro found hfound
    cases List.mem_singleton.mp hfound
    exact processHandshake1_eq hlib hx

variable {x : Exchange lib}

theorem initiate_trace (hlib : lib.Correct) (hx : x.Valid) :
    x.initiate = createHandshake1 lib x.coins x.created x.initiator.cert x.initiator.signingKey
      (trace hlib hx).networkKey x.initiatorRelay := rfl

theorem processHandshake2_trace (hlib : lib.Correct) (hx : x.Valid) (sealing : SealCoins) :
    processHandshake2 lib x.concluded (x.sealReply sealing) x.initiate (trace hlib hx).networkKey
      (trace hlib hx).caVk = .ok (x.result (x.sealReply sealing)) :=
  processHandshake2_sealReply hlib hx sealing

theorem reads_answer (hlib : lib.Correct) (hx : x.Valid) {hs1 : Handshake1Plain}
    (hreads : (trace hlib hx).Reads x.answer hs1) : hs1 = x.hs1 := by
  obtain ⟨plaintext, hopen, hparse⟩ := hreads
  have hopen' : openHandshake lib x.networkKey x.initiate.msg = some plaintext := hopen
  unfold initiate at hopen'
  rw [openHandshake_createHandshake1 hlib] at hopen'
  cases Option.some.inj hopen'
  exact ((parse_requestPlaintext_iff hlib hx.initiator_len).mp hparse).2.2

theorem reads_hs1 (hlib : lib.Correct) (hx : x.Valid) : (trace hlib hx).Reads x.answer x.hs1 := by
  obtain ⟨hs1, hreads, -⟩ := ResponderTrace.answer_eq_respond
    (show x.answer ∈ (trace hlib hx).answers from List.mem_cons_self)
  rwa [reads_answer hlib hx hreads] at hreads

theorem unforged_sealReply (hlib : lib.Correct) (hx : x.Valid) (sealing : SealCoins) :
    (trace hlib hx).Unforged (x.sealReply sealing) := by
  intro flags timestamp random rxSessionId ephX25519Pk mlkemCt hs1Hash certBytes sig padding hopen
    hlen _
  have hplain : x.plaintext2 = _ :=
    Option.some.inj ((openHandshake_sealReply hlib x sealing).symm.trans hopen)
  exact Or.inl ⟨x.answer, List.mem_cons_self, x.hs1, reads_hs1 hlib hx,
    (handshake2Signed_eq_of_append hx.responder_len hlen hplain).symm⟩

theorem sessionInputs_sealReply (hlib : lib.Correct) (hx : x.Valid) {sealing : SealCoins}
    {bytes : ByteString}
    (h : bytes ∈ (trace hlib hx).sessionInputs x.initiate (x.sealReply sealing)) :
    bytes = ResponderTrace.sessionInput lib (responderSecret lib x.reply x.hs1) x.initiate.msg
        (x.sealReply sealing) ∨
      bytes = ResponderTrace.sessionInput lib (responderSecret lib x.reply x.hs1) x.initiate.msg
        (x.sealReply x.reply.sealing) := by
  obtain ⟨opened, now, hs2, hopen, hparse, rfl⟩ | ⟨found, hfound, hs1, hreads, rfl⟩ := h
  · left
    cases Option.some.inj ((openHandshake_sealReply hlib x sealing).symm.trans hopen)
    obtain ⟨-, -, hs2x, hs2ct⟩ := parse_replyPlaintext_fields hparse
    have hsecret : initiatorSecret lib x.initiate hs2 = responderSecret lib x.reply x.hs1 :=
      initiatorSecret_eq_responderSecret hlib rfl rfl hs2x hs2ct
    rw [hsecret]
  · right
    cases List.mem_singleton.mp hfound
    rw [reads_answer hlib hx hreads]
    rfl

theorem not_agreement_sealReply (hlib : lib.Correct) (hx : x.Valid) {sealing : SealCoins}
    (hfree : (trace hlib hx).CollisionFree x.initiate (x.sealReply sealing))
    (hne : x.sealReply sealing ≠ x.response.msg) :
    ¬ (trace hlib hx).Agreement x.initiate (x.result (x.sealReply sealing)) := by
  intro hagree
  obtain ⟨found, hfound, hmsg⟩ :=
    ResponderTrace.sent_of_agreement (processHandshake2_trace hlib hx sealing) hfree hagree
  cases List.mem_singleton.mp hfound
  exact hne hmsg.symm

end Exchange

namespace Sample

variable {known : List Cert} {x : Exchange (transparent known)}

theorem maskNonce_eq_of_sealReply {sealing sealing' : SealCoins}
    (h : ∀ (i : Nat) (hi : 16 + i < 32), (digest (x.sealReply sealing))[16 + i] =
      (digest (x.sealReply sealing'))[16 + i]) : sealing.maskNonce = sealing'.maskNonce := by
  apply maskNonce_eq_of_digest
  intro i hi
  exact h i (by omega)

theorem digest_sealReply_ne {sealing : SealCoins}
    (hne : sealing.maskNonce ≠ x.coins.sealing.maskNonce) :
    digest (x.sealReply sealing) ≠ digest x.initiate.msg := by
  intro h
  unfold Exchange.initiate at h
  rw [createHandshake1_msg] at h
  exact hne (maskNonce_eq_of_digest fun i hi => by
    exact congrArg (fun bytes : Bytes 32 => bytes[16 + i]) h)

/-- With transparent primitives, different mask nonces make different digests and
different keys. -/
theorem collisionFree_sealReply (hx : x.Valid) {sealing : SealCoins}
    (hsealing : sealing.maskNonce ≠ x.coins.sealing.maskNonce)
    (hreply : x.reply.sealing.maskNonce ≠ x.coins.sealing.maskNonce)
    (hsame : sealing.maskNonce = x.reply.sealing.maskNonce → sealing = x.reply.sealing) :
    (Exchange.trace (transparent_correct known) hx).CollisionFree x.initiate
      (x.sealReply sealing) := by
  have hcases : ∀ bytes ∈ (Exchange.trace (transparent_correct known) hx).messages x.initiate
      (x.sealReply sealing), bytes = x.initiate.msg ∨
        ∃ s : SealCoins, (s = sealing ∨ s = x.reply.sealing) ∧ bytes = x.sealReply s := by
    rintro bytes (rfl | rfl | ⟨found, hfound, h⟩)
    · exact Or.inl rfl
    · exact Or.inr ⟨sealing, Or.inl rfl, rfl⟩
    · cases List.mem_singleton.mp hfound
      obtain rfl | rfl := h
      · exact Or.inl rfl
      · exact Or.inr ⟨x.reply.sealing, Or.inr rfl, rfl⟩
  have hother : ∀ s : SealCoins, s = sealing ∨ s = x.reply.sealing →
      digest (x.sealReply s) ≠ digest x.initiate.msg := by
    rintro s (rfl | rfl)
    · exact digest_sealReply_ne hsealing
    · exact digest_sealReply_ne hreply
  have hseal : ∀ s s' : SealCoins, (s = sealing ∨ s = x.reply.sealing) →
      (s' = sealing ∨ s' = x.reply.sealing) → s.maskNonce = s'.maskNonce → s = s' := by
    rintro s s' (rfl | rfl) (rfl | rfl) h
    · rfl
    · exact hsame h
    · exact (hsame h.symm).symm
    · rfl
  constructor
  · intro left hleft right hright h
    obtain rfl | ⟨s, hs, rfl⟩ := hcases left hleft
    · obtain rfl | ⟨s', hs', rfl⟩ := hcases right hright
      · rfl
      · exact absurd h.symm (hother s' hs')
    · obtain rfl | ⟨s', hs', rfl⟩ := hcases right hright
      · exact absurd h (hother s hs)
      · have hnonce : s.maskNonce = s'.maskNonce :=
          maskNonce_eq_of_sealReply fun i hi =>
            congrArg (fun bytes : Bytes 32 => bytes[16 + i]) h
        rw [hseal s s' hs hs' hnonce]
  · -- the last bytes of the key input are the second half of the reply's digest
    have hkeys : ∀ (data : ByteString) (s s' : SealCoins),
        digest (data ++ (digest (x.sealReply s)).toList) =
          digest (data ++ (digest (x.sealReply s')).toList) → s.maskNonce = s'.maskNonce := by
      intro data s s' h
      apply maskNonce_eq_of_sealReply
      intro i hi
      have hbyte := congrArg (fun bytes : Bytes 32 => bytes[15 - i]) h
      simp only [digest_end data _ (show 15 - i < 16 by omega) (by decide : 16 ≤ 32)] at hbyte
      have hindex : 32 - 1 - (15 - i) = 16 + i := by omega
      simpa only [hindex] using hbyte
    intro left hleft right hright h
    obtain rfl | rfl := Exchange.sessionInputs_sealReply (transparent_correct known) hx hleft
    · obtain rfl | rfl := Exchange.sessionInputs_sealReply (transparent_correct known) hx hright
      · rfl
      · rw [hsame (hkeys _ _ _ h)]
    · obtain rfl | rfl := Exchange.sessionInputs_sealReply (transparent_correct known) hx hright
      · rw [hsame (hkeys _ _ _ h).symm]
      · rfl

end Sample

/-- The reply as bob sent it: both ends hold the same session. -/
theorem agreement_of_sample_reply :
    (Exchange.trace (transparent_correct _) Sample.dial_valid).Agreement
      Sample.dial.initiate
      (Sample.dial.result (Sample.dial.sealReply Sample.dial.reply.sealing)) := by
  have hlib := transparent_correct [Sample.cert "alice" 1, Sample.cert "bob" 2]
  have hx := Sample.dial_valid
  have hfree : (Exchange.trace hlib hx).CollisionFree Sample.dial.initiate
      (Sample.dial.sealReply Sample.dial.reply.sealing) :=
    Sample.collisionFree_sealReply hx (by decide) (by decide) fun _ => rfl
  have hresult := ResponderTrace.agreement_iff_sent hlib (Exchange.initiate_trace hlib hx)
    (Exchange.processHandshake2_trace hlib hx Sample.dial.reply.sealing) rfl
    (Exchange.unforged_sealReply hlib hx _) hfree
  exact hresult.2.mpr ⟨_, List.mem_cons_self, Exchange.response_msg _⟩

/-- The same reply sealed again by someone who knows the network key: alice
accepts it, and bob holds another key. -/
theorem resealed_reply_breaks_agreement :
    ∃ (lib : Primitives) (trace : ResponderTrace lib) (coins : InitiatorCoins) (created : UInt64)
      (cert : Cert) (signingKey : HybridSigningKey) (relayFlag : Bool) (reply : ByteString)
      (now : UInt64) (result : HandshakeResult),
      let initiate :=
        createHandshake1 lib coins created cert signingKey trace.networkKey relayFlag
      lib.Correct ∧
        processHandshake2 lib now reply initiate trace.networkKey trace.caVk = .ok result ∧
        result.peerCert = trace.identity.cert ∧ trace.Unforged reply ∧
        trace.CollisionFree initiate reply ∧ ¬ trace.Agreement initiate result := by
  have hlib := transparent_correct [Sample.cert "alice" 1, Sample.cert "bob" 2]
  have hx := Sample.dial_valid
  have hnonce : (Sample.sealingOf 3).maskNonce ≠ Sample.dial.reply.sealing.maskNonce := by
    decide
  have hfree : (Exchange.trace hlib hx).CollisionFree Sample.dial.initiate
      (Sample.dial.sealReply (Sample.sealingOf 3)) :=
    Sample.collisionFree_sealReply hx (by decide) (by decide) fun h => absurd h hnonce
  refine ⟨_, Exchange.trace hlib hx, Sample.dial.coins, Sample.dial.created,
    Sample.dial.initiator.cert, Sample.dial.initiator.signingKey,
    Sample.dial.initiatorRelay, Sample.dial.sealReply (Sample.sealingOf 3),
    Sample.dial.concluded, _, hlib,
    Exchange.processHandshake2_sealReply hlib hx (Sample.sealingOf 3), rfl,
    Exchange.unforged_sealReply hlib hx _, hfree, Exchange.not_agreement_sealReply hlib hx hfree ?_⟩
  intro hsame
  apply hnonce
  apply Sample.maskNonce_eq_of_sealReply
  intro i hi
  rw [← Exchange.response_msg, hsame]

end Liteway.Core
