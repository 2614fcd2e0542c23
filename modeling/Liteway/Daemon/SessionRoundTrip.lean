import Liteway.Daemon.Delivery

/-!
# Both ends of an honest handshake

An honest handshake goes through and leaves both nodes with the two halves of one
session, provided the length of a certificate fits its length field.
-/

namespace Liteway.Daemon

open Liteway.Library Liteway.Core

/-- Two entries for one session, seen from its two ends. -/
structure Mirrored (left right : PeerState) : Prop where
  txKey : left.txKey = right.rxKey
  rxKey : left.rxKey = right.txKey
  txSessionId : left.txSessionId = right.rxSessionId
  rxSessionId : left.rxSessionId = right.txSessionId

section RoundTrip

variable {lib : Primitives}

/-- Both messages are accepted, and both ends learn the same. -/
structure RoundTrip (x : Exchange lib) (response : HandshakeResponse) (result : HandshakeResult) :
    Prop where
  accepted : processHandshake1 lib x.reply x.answered x.initiate.msg x.responder.cert
    x.responder.signingKey x.networkKey x.caVk x.responderRelay = .ok response
  concluded : processHandshake2 lib x.concluded response.msg x.initiate x.networkKey x.caVk =
    .ok result
  sessionKey : result.sessionKey = response.sessionKey
  initiator : response.peerCert = x.initiator.cert ∧ response.peerIsRelay = x.initiatorRelay
  responder : result.peerCert = x.responder.cert ∧ result.peerIsRelay = x.responderRelay
  myRxSessionId : result.myRxSessionId = response.peerRxSessionId
  peerRxSessionId : result.peerRxSessionId = response.myRxSessionId

theorem roundTrip (hlib : lib.Correct) {x : Exchange lib} (hx : x.Valid) :
    RoundTrip x x.response (x.result x.response.msg) where
  accepted := Exchange.processHandshake1_eq hlib hx
  concluded := by
    rw [Exchange.response_msg]
    exact Exchange.processHandshake2_sealReply hlib hx x.reply.sealing
  sessionKey := Exchange.sessionKey_eq hlib x
  initiator := ⟨rfl, rfl⟩
  responder := ⟨rfl, rfl⟩
  myRxSessionId := rfl
  peerRxSessionId := rfl

theorem lookup_of_added {node : Node lib} {now : Instant} {st : NodeState} {session : NewSession}
    (h : (addPeer node now st session).1 = .added) :
    (addPeer node now st session).2.1.peers.lookup session.id =
      some (newPeer node now session (st.peers.lookup session.id)) := by
  cases haccept : acceptsSession node session st.peers with
  | false =>
      rw [addPeer_of_not_accepts haccept] at h
      contradiction
  | true =>
      rw [addPeer_of_accepts haccept]
      exact AList.lookup_insert _

/-- The entries that the two ends make of one handshake mirror each other. -/
theorem mirrored_newPeer {x : Exchange lib} {response : HandshakeResponse} {result : HandshakeResult}
    (h : RoundTrip x response result) {left right : Node lib} (hleft : left.cert = x.initiator.cert)
    (hright : right.cert = x.responder.cert) (now now' : Instant) (st st' : NodeState)
    (src src' : SocketAddr) (handshake : PendingHandshake) (previous previous' : Option PeerState) :
    Mirrored (newPeer left now (resultSession left st src handshake result) previous)
      (newPeer right now' (responseSession lib st' src' response) previous') := by
  have hids : left.ourId = nodeIdFromCert lib response.peerCert ∧
      right.ourId = nodeIdFromCert lib result.peerCert := by
    unfold Node.ourId
    rw [hleft, hright, h.initiator.1, h.responder.1]
    exact ⟨rfl, rfl⟩
  constructor
  · change deriveTrafficKey lib result.sessionKey left.ourId (nodeIdFromCert lib result.peerCert) =
      deriveTrafficKey lib response.sessionKey (nodeIdFromCert lib response.peerCert) right.ourId
    rw [h.sessionKey, hids.1, hids.2]
  · change deriveTrafficKey lib result.sessionKey (nodeIdFromCert lib result.peerCert) left.ourId =
      deriveTrafficKey lib response.sessionKey right.ourId (nodeIdFromCert lib response.peerCert)
    rw [h.sessionKey, hids.1, hids.2]
  · exact h.peerRxSessionId
  · exact h.myRxSessionId

/-- An honest handshake goes through, and once both ends have added the session
they hold its two halves. -/
theorem honest_handshake_round_trip (hlib : lib.Correct) {x : Exchange lib} (hx : x.Valid) :
    ∃ response result, RoundTrip x response result ∧
      ∀ (left right : Node lib), left.cert = x.initiator.cert → right.cert = x.responder.cert →
      ∀ (now now' : Instant) (st st' : NodeState) (src src' : SocketAddr)
        (handshake : PendingHandshake),
      let initiated := addPeer left now st (resultSession left st src handshake result)
      let answered := addPeer right now' st' (responseSession lib st' src' response)
      initiated.1 = .added → answered.1 = .added →
      ∃ entry entry',
        initiated.2.1.peers.lookup (nodeIdFromCert lib x.responder.cert) = some entry ∧
        answered.2.1.peers.lookup (nodeIdFromCert lib x.initiator.cert) = some entry' ∧
        Mirrored entry entry' := by
  have htrip := roundTrip hlib hx
  refine ⟨_, _, htrip, ?_⟩
  intro left right hleft hright now now' st st' src src' handshake initiated answered hadded hadded'
  exact ⟨_, _, lookup_of_added hadded, lookup_of_added hadded',
    mirrored_newPeer htrip hleft hright now now' st st' src src' handshake _ _⟩

/-! ## A certificate that is too long -/

/-- A certificate of exactly `2 ^ 32` bytes is announced as empty. -/
theorem parseHandshake1_of_long (hempty : lib.certFromSlice [] = none) {coins : InitiatorCoins}
    {created now : UInt64} {cert : Cert} {signingKey : HybridSigningKey} {caVk : HybridVerifyKey}
    {relayFlag : Bool} (hlen : (lib.certToVec cert).length = 2 ^ 32) (hs1 : Handshake1Plain) :
    parseHandshake1 lib (requestPlaintext lib coins created cert signingKey relayFlag) caVk now ≠
      .ok hs1 := by
  intro hparse
  obtain ⟨flags, timestamp, random, certBytes, sig, padding, hdata, -, hshort, hslice, -⟩ :=
    parseHandshake1_eq_ok_iff.mp hparse
  obtain ⟨-, -, -, -, -, hrest⟩ := handshake1Signed_append_inj hdata
  simp only [vecU32, List.append_assoc] at hrest
  obtain ⟨hcount, -⟩ := Bytes.toList_append_inj hrest
  have hzero := congrArg UInt32.toNat (u32BE_injective hcount)
  rw [hlen, UInt32.toNat_ofNat_of_lt' hshort] at hzero
  have hnil : certBytes = [] := List.length_eq_zero_iff.mp hzero.symm
  rw [hnil, hempty] at hslice
  contradiction

theorem processHandshake1_of_long (hlib : lib.Correct) (hempty : lib.certFromSlice [] = none)
    {x : Exchange lib} (hlen : (lib.certToVec x.initiator.cert).length = 2 ^ 32)
    (response : HandshakeResponse) :
    processHandshake1 lib x.reply x.answered x.initiate.msg x.responder.cert x.responder.signingKey
      x.networkKey x.caVk x.responderRelay ≠ .ok response := by
  intro hprocess
  obtain ⟨plaintext, hs1, hopen, hparse, -⟩ := processHandshake1_eq_ok_iff.mp hprocess
  unfold Exchange.initiate at hopen
  rw [openHandshake_createHandshake1 hlib] at hopen
  cases Option.some.inj hopen
  exact parseHandshake1_of_long hempty hlen hs1 hparse

end RoundTrip

/-- Alice dials bob, and both add the session to their empty peer maps. -/
theorem alice_and_bob_mirrored :
    ∃ (lib : Primitives) (x : Exchange lib) (left right : Node lib) (response : HandshakeResponse)
      (result : HandshakeResult) (handshake : PendingHandshake) (entry entry' : PeerState),
      RoundTrip x response result ∧
        (addPeer left 0 (.initial []) (resultSession left (.initial []) Core.Sample.source handshake
          result)).2.1.peers.lookup (nodeIdFromCert lib x.responder.cert) = some entry ∧
        (addPeer right 0 (.initial []) (responseSession lib (.initial []) Core.Sample.source
          response)).2.1.peers.lookup (nodeIdFromCert lib x.initiator.cert) = some entry' ∧
        Mirrored entry entry' := by
  obtain ⟨response, result, htrip, hends⟩ :=
    honest_handshake_round_trip (transparent_correct _) Core.Sample.dial_valid
  have hadded : ∀ (lib : Primitives) (node : Node lib) (session : NewSession),
      (addPeer node 0 (.initial []) session).1 = .added := by
    intro lib node session
    rw [addPeer_of_accepts (acceptsSession_of_absent rfl)]
  obtain ⟨entry, entry', hentry, hentry', hmirrored⟩ := hends (Sample.node _ "alice" 1)
    (Sample.node _ "bob" 2) rfl rfl 0 0 (.initial []) (.initial []) Core.Sample.source
    Core.Sample.source (.new Core.Sample.dial.initiate Core.Sample.source none "bob" 0)
    (hadded _ _ _) (hadded _ _ _)
  exact ⟨_, _, _, _, response, result, _, entry, entry', htrip, hentry, hentry', hmirrored⟩

namespace Sample

/-- A name of almost 4 GiB. -/
def longName : String := String.ofList (List.replicate (2 ^ 32 - 1) 'a')

theorem length_longName : longName.length = 2 ^ 32 - 1 := by
  unfold longName
  rw [String.length_ofList, List.length_replicate]

end Sample

/-- A request with a certificate of `2 ^ 32` bytes is not accepted. -/
theorem long_certificate_refused :
    ∃ (lib : Primitives) (x : Exchange lib), lib.Correct ∧ x.Honest ∧
      nodeIdFromCert lib x.initiator.cert ≠ nodeIdFromCert lib x.responder.cert ∧
      ∀ response, processHandshake1 lib x.reply x.answered x.initiate.msg x.responder.cert
        x.responder.signingKey x.networkKey x.caVk x.responderRelay ≠ .ok response := by
  have hlib := transparent_correct [Core.Sample.cert Sample.longName 1, Core.Sample.cert "bob" 2]
  refine ⟨_, Core.Sample.exchange Sample.longName, hlib, Core.Sample.exchange_honest _, ?_, ?_⟩
  · change nodeIdFromCert _ (Core.Sample.cert Sample.longName 1) ≠
      nodeIdFromCert _ (Core.Sample.cert "bob" 2)
    rw [Sample.nodeIdFromCert_cert, Sample.nodeIdFromCert_cert]
    decide
  · apply processHandshake1_of_long hlib rfl
    have hlen := Core.Sample.length_certToVec_head Sample.longName [Core.Sample.cert "bob" 2]
    rw [Sample.length_longName] at hlen
    exact hlen

end Liteway.Daemon
