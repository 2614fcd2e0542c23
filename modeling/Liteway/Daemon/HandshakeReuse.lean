import Liteway.Daemon.Delivery

/-!
# A request delivered again

The answer to a request is kept for a minute, while its timestamp stays good for
five.  A copy that arrives in between replaces the session with the peer; the
theorem says exactly when a copy is harmless.
-/

namespace Liteway.Daemon

open Liteway.Library Liteway.Core

/-! ## The timestamp of a request -/

def timestampOf (plaintext : ByteString) : Option UInt64 :=
  if h : 4 + 8 ≤ plaintext.length then some (decodeU64BE (Bytes.slice plaintext 4 8 h)) else none

def requestTimestamp (lib : Primitives) (networkKey : NetworkKey) (packet : ByteString) :
    Option UInt64 :=
  (openHandshake lib networkKey packet).bind timestampOf

theorem timestampOf_withSignature (flags : UInt16) (timestamp : UInt64) (random : Bytes 16)
    (rxSessionId : UInt32) (ephX25519Pk : Bytes 32) (ephMlkemPk : Bytes mlkemPkLen)
    (certBytes : ByteString) (sig : HybridSignature) (padding : ByteString) :
    timestampOf (withSignature (handshake1Signed flags timestamp random rxSessionId ephX25519Pk
      ephMlkemPk certBytes) sig padding) = some timestamp := by
  have hlen : 4 + 8 ≤ (withSignature (handshake1Signed flags timestamp random rxSessionId
      ephX25519Pk ephMlkemPk certBytes) sig padding).length := by
    rw [withSignature_length, handshake1Signed_length]
    omega
  have hdata : withSignature (handshake1Signed flags timestamp random rxSessionId ephX25519Pk
      ephMlkemPk certBytes) sig padding =
      (kindHandshake1 :: handshakeVersion :: (u16BE flags).toList) ++ ((u64BE timestamp).toList ++
        (random.toList ++ ((u32BE rxSessionId).toList ++ (ephX25519Pk.toList ++
          (ephMlkemPk.toList ++ vecU32 certBytes))) ++
          (sig.ed25519.toList ++ (sig.mlDsa.toList ++ padding)))) := by
    simp [withSignature, handshake1Signed]
  unfold timestampOf
  rw [dif_pos hlen, Bytes.slice_eq hlen hdata (by simp), decodeU64BE_u64BE]

section Reuse

variable {lib : Primitives} (node : Node lib)

/-! ## Processing a request -/

/-- The request `packet` was processed in the state `st`, and `response` is what
came of it. -/
structure Processed (env : Env) (st : NodeState) (packet : ByteString)
    (response : HandshakeResponse) : Prop where
  uncached : st.handshakeCache.get (lib.blake3Hash packet) env.now = none
  processed : processHandshake1 lib (env.rand []).responder env.unixTime packet node.cert
    node.signingKey node.networkKey node.caVk node.amRelay = .ok response
  foreign : nodeIdFromCert lib response.peerCert ≠ node.ourId

theorem processHandshake1_again_iff {env : Env} {st : NodeState} {packet : ByteString}
    {response : HandshakeResponse} (h : Processed node env st packet response) :
    ∃ timestamp hs1, requestTimestamp lib node.networkKey packet = some timestamp ∧
      hs1.cert = response.peerCert ∧
      ∀ coins now again, processHandshake1 lib coins now packet node.cert node.signingKey
          node.networkKey node.caVk node.amRelay = .ok again ↔
        timestampValid timestamp now ∧ response.peerCert.verify lib node.caVk now = true ∧
          respond lib coins now packet node.cert node.signingKey node.networkKey node.amRelay hs1 =
            again := by
  obtain ⟨plaintext, hs1, hopen, hparse, hvalid, hresponse⟩ :=
    processHandshake1_eq_ok_iff.mp h.processed
  have hcert : hs1.cert = response.peerCert := by
    rw [← hresponse]
    rfl
  obtain ⟨flags, timestamp, random, certBytes, sig, padding, hdata, -, hlen, hslice, -, hsig,
    hflags⟩ := parseHandshake1_eq_ok_iff.mp hparse
  refine ⟨timestamp, hs1, ?_, hcert, fun coins now again => ?_⟩
  · unfold requestTimestamp
    rw [hopen, hdata]
    exact timestampOf_withSignature _ _ _ _ _ _ _ _ _
  rw [processHandshake1_eq_ok_iff, ← hcert]
  constructor
  · rintro ⟨plaintext', hs1', hopen', hparse', -, rfl⟩
    cases Option.some.inj (hopen.symm.trans hopen')
    obtain ⟨flags', timestamp', random', certBytes', sig', padding', hdata', htime, hlen', hslice',
      hverify, -, hflags'⟩ := parseHandshake1_eq_ok_iff.mp hparse'
    -- both parses read the same fields off the same bytes
    obtain ⟨hf, ht, hrx, hx, hm, hrest⟩ := handshake1Signed_append_inj (hdata.symm.trans hdata')
    obtain ⟨hbytes, -⟩ := vecU32_append_inj hlen hlen' hrest
    have hsame : hs1' = hs1 := by
      obtain ⟨cert, rxSessionId, ephX25519Pk, ephMlkemPk, peerIsRelay⟩ := hs1
      obtain ⟨cert', rxSessionId', ephX25519Pk', ephMlkemPk', peerIsRelay'⟩ := hs1'
      dsimp only at hrx hx hm hslice hslice' hflags hflags'
      subst hrx hx hm hf hbytes hflags hflags'
      cases Option.some.inj (hslice.symm.trans hslice')
      rfl
    subst hsame ht
    exact ⟨htime, hverify, rfl⟩
  · rintro ⟨htime, hverify, rfl⟩
    refine ⟨plaintext, hs1, hopen, parseHandshake1_eq_ok_iff.mpr ?_, hvalid, rfl⟩
    exact ⟨flags, timestamp, random, certBytes, sig, padding, hdata, htime, hlen, hslice, hverify,
      hsig, hflags⟩

/-! ## When a copy is harmless -/

def storedSession (st : NodeState) (peerId : UInt32) :
    Option (SessionKey × SessionKey × UInt32 × UInt32) :=
  (st.peers.lookup peerId).map fun peer =>
    (peer.txKey, peer.rxKey, peer.txSessionId, peer.rxSessionId)

/-- Whatever is drawn, the copy leaves the session with the peer as it is. -/
def KeepsSession (env : Env) (st : NodeState) (src : SocketAddr) (packet : ByteString)
    (peerId : UInt32) : Prop :=
  ∀ rand, storedSession (handleHandshake1 node { env with rand := rand } st src packet).1 peerId =
    storedSession st peerId

/-- Nothing stands in the way of a copy: no answer is kept, the timestamp and the
certificate are still good, and the tie-break does not refuse the session. -/
structure Reusable (env : Env) (st : NodeState) (packet : ByteString) (cert : Cert) : Prop where
  uncached : st.handshakeCache.get (lib.blake3Hash packet) env.now = none
  timely : ∃ timestamp, requestTimestamp lib node.networkKey packet = some timestamp ∧
    timestampValid timestamp env.unixTime
  certified : cert.verify lib node.caVk env.unixTime = true
  preferred : acceptHandshakeSession node.ourId (nodeIdFromCert lib cert)
    ((st.peers.lookup (nodeIdFromCert lib cert)).map PeerState.handshakeInitiatorId)
    (nodeIdFromCert lib cert)
    (AssocMap.find? (fun pending => pending.peerId = some (nodeIdFromCert lib cert))
      st.pending).isSome = true

theorem storedSession_noteDirectEndpoint (st : NodeState) (id : UInt32) (addr : SocketAddr)
    (peerId : UInt32) :
    storedSession (noteDirectEndpoint st id addr) peerId = storedSession st peerId := by
  unfold noteDirectEndpoint
  split
  · rfl
  split
  · rfl
  · rename_i peer hpeer
    have hsame := SameSession.learnDirectAddr addr peer
    unfold storedSession
    rw [AssocMap.lookup_insert_eq]
    split
    · rename_i hid
      subst hid
      simp only [hpeer, Option.map_some, hsame.txKey, hsame.rxKey, hsame.txSessionId,
        hsame.rxSessionId]
    · rfl

theorem storedSession_installResponse (env : Env) (st : NodeState) (src : SocketAddr)
    (digest : Bytes 32) (response : HandshakeResponse) :
    storedSession (installResponse node env st src digest response).1
        (nodeIdFromCert lib response.peerCert) =
      if acceptsSession node (responseSession lib st src response) st.peers then
        some (deriveTrafficKey lib response.sessionKey node.ourId
            (nodeIdFromCert lib response.peerCert),
          deriveTrafficKey lib response.sessionKey (nodeIdFromCert lib response.peerCert)
            node.ourId, response.peerRxSessionId, response.myRxSessionId)
      else storedSession st (nodeIdFromCert lib response.peerCert) := by
  cases haccept : acceptsSession node (responseSession lib st src response) st.peers with
  | true =>
      rw [installResponse_of_accepts haccept, if_pos rfl]
      unfold storedSession
      rw [withSession_peers, AssocMap.lookup_insert_eq]
      exact congrArg _ (if_pos rfl)
  | false =>
      rw [installResponse_of_not_accepts haccept, if_neg Bool.false_ne_true]
      rfl

/-- Random draws that give the responder a session id of its own choice. -/
def Entropy.withSessionId (rand : Entropy) (rxSessionId : SessionId) : Entropy := fun path =>
  { rand path with responder := { (rand path).responder with rxSessionId := rxSessionId } }

theorem exists_sessionId_ne (value : UInt32) : ∃ rxSessionId : SessionId, rxSessionId.value ≠ value := by
  by_cases h : value = 1
  · exact ⟨⟨2, by decide⟩, by rw [h]; decide⟩
  · exact ⟨⟨1, by decide⟩, fun heq => h heq.symm⟩

theorem handleHandshake1_of_ok (env : Env) {st : NodeState} (src : SocketAddr)
    {packet : ByteString} {response : HandshakeResponse}
    (hcache : st.handshakeCache.get (lib.blake3Hash packet) env.now = none)
    (hprocess : processHandshake1 lib (env.rand []).responder env.unixTime packet node.cert
      node.signingKey node.networkKey node.caVk node.amRelay = .ok response)
    (hforeign : nodeIdFromCert lib response.peerCert ≠ node.ourId) :
    handleHandshake1 node env st src packet =
      installResponse node env st src (lib.blake3Hash packet) response := by
  unfold handleHandshake1
  simp only [hcache, hprocess]
  exact if_neg hforeign

/-- A copy of a processed request is harmless exactly if something stands in its
way. -/
theorem keepsSession_iff {env₀ : Env} {st₀ : NodeState} {packet : ByteString}
    {response : HandshakeResponse} (h : Processed node env₀ st₀ packet response) (env : Env)
    (st : NodeState) (src : SocketAddr) :
    KeepsSession node env st src packet (nodeIdFromCert lib response.peerCert) ↔
      ¬ Reusable node env st packet response.peerCert := by
  obtain ⟨timestamp, hs1, htimestamp, hcert, hagain⟩ := processHandshake1_again_iff node h
  have hforeign := h.foreign
  rw [← hcert] at hagain hforeign ⊢
  constructor
  · intro hkeeps hreusable
    obtain ⟨found, hfound, htime⟩ := hreusable.timely
    cases Option.some.inj (htimestamp.symm.trans hfound)
    -- the responder may draw a session id that is not the stored one
    obtain ⟨rxSessionId, hne⟩ := exists_sessionId_ne
      (((storedSession st (nodeIdFromCert lib hs1.cert)).map fun stored => stored.2.2.2).getD 0)
    let drawn : Env := { env with rand := env.rand.withSessionId rxSessionId }
    let again := respond lib (drawn.rand []).responder drawn.unixTime packet node.cert
      node.signingKey node.networkKey node.amRelay hs1
    have hprocess : processHandshake1 lib (drawn.rand []).responder drawn.unixTime packet node.cert
        node.signingKey node.networkKey node.caVk node.amRelay = .ok again :=
      (hagain _ _ again).mpr ⟨htime, hreusable.certified, rfl⟩
    have hinstalled := storedSession_installResponse node drawn st src (lib.blake3Hash packet) again
    have haccept : acceptsSession node (responseSession lib st src again) st.peers = true :=
      hreusable.preferred
    rw [if_pos haccept,
      ← handleHandshake1_of_ok node drawn src hreusable.uncached hprocess hforeign] at hinstalled
    have hstored := (hkeeps drawn.rand).symm.trans hinstalled
    rw [hstored] at hne
    exact hne rfl
  · intro hreusable rand
    cases hcache : st.handshakeCache.get (lib.blake3Hash packet) env.now with
    | some entry =>
        unfold handleHandshake1
        simp only [hcache]
        exact storedSession_noteDirectEndpoint st _ src _
    | none =>
        cases hprocess : processHandshake1 lib (rand []).responder env.unixTime packet node.cert
            node.signingKey node.networkKey node.caVk node.amRelay with
        | error reason =>
            unfold handleHandshake1
            simp only [hcache, hprocess]
        | ok again =>
            obtain ⟨htime, hverify, rfl⟩ := (hagain _ _ again).mp hprocess
            have hrefused : acceptsSession node (responseSession lib st src (respond lib
                (rand []).responder env.unixTime packet node.cert node.signingKey node.networkKey
                node.amRelay hs1)) st.peers = false := by
              rw [Bool.eq_false_iff]
              exact fun haccept => hreusable ⟨hcache, ⟨timestamp, htimestamp, htime⟩, hverify, haccept⟩
            have hinstalled := storedSession_installResponse node { env with rand := rand } st src
              (lib.blake3Hash packet) (respond lib (rand []).responder env.unixTime packet node.cert
                node.signingKey node.networkKey node.amRelay hs1)
            rw [hrefused, ← handleHandshake1_of_ok node { env with rand := rand } src hcache hprocess
              hforeign] at hinstalled
            exact hinstalled

/-- The request `packet`, which the datagram `data` brought, was processed. -/
def ProcessedBy (env : Env) (st : NodeState) (src : SocketAddr) (data packet : ByteString)
    (response : HandshakeResponse) : Prop :=
  wholePacket node env st src data = some packet ∧ Processed node env st packet response

/-- Whatever happens between the two deliveries, the second one is harmless
exactly if something stands in its way at that time. -/
theorem redelivery_harmless_iff (lighthouses : List LighthouseSlot) (before between : List Event)
    {env₀ : Env} {src₀ : SocketAddr} {data₀ packet : ByteString} {response : HandshakeResponse}
    (h : ProcessedBy node env₀ (run node lighthouses before).state src₀ data₀ packet response)
    (env : Env) (src : SocketAddr) :
    let later := run node lighthouses (before ++ .datagram env₀ src₀ data₀ :: between)
    KeepsSession node env later.state src packet (nodeIdFromCert lib response.peerCert) ↔
      ¬ Reusable node env later.state packet response.peerCert :=
  keepsSession_iff node h.2 env _ src

/-! ## A copy after a minute -/

variable {node}

theorem processedBy_initiate (hlib : lib.Correct) {request : Request lib} {env : Env}
    (h : request.Welcome node env.unixTime) (lighthouses : List LighthouseSlot)
    (src : SocketAddr) :
    ProcessedBy node env (run node lighthouses []).state src request.initiate.msg
      request.initiate.msg (request.answer node env) :=
  ⟨Request.wholePacket_initiate hlib h env _ src,
    ⟨rfl, Request.processHandshake1_initiate hlib h, h.foreign⟩⟩

theorem get_after_opening (hlib : lib.Correct) {request : Request lib} {env : Env}
    (h : request.Welcome node env.unixTime) (lighthouses : List LighthouseSlot) (src : SocketAddr)
    (now : Instant) :
    (run node lighthouses [.datagram env src request.initiate.msg]).state.handshakeCache.get
        (lib.blake3Hash request.initiate.msg) now =
      if now.durationSince env.now < handshakeCacheTtl then
        some { response := (request.answer node env).msg
               peerId := nodeIdFromCert lib request.identity.cert
               createdAt := env.now }
      else none := by
  have hstate : (run node lighthouses [.datagram env src request.initiate.msg]).state = _ :=
    opening_state hlib h lighthouses src
  rw [hstate]
  exact HandshakeCache.get_insert_self _ _ _ _ _ _

theorem not_reusable_while_cached (hlib : lib.Correct) {request : Request lib} {env env' : Env}
    (h : request.Welcome node env.unixTime)
    (hrecent : env'.now.durationSince env.now < handshakeCacheTtl)
    (lighthouses : List LighthouseSlot) (src : SocketAddr) (cert : Cert) :
    ¬ Reusable node env' (run node lighthouses [.datagram env src request.initiate.msg]).state
      request.initiate.msg cert := by
  intro hreusable
  have hcached := get_after_opening hlib h lighthouses src env'.now
  rw [if_pos hrecent, hreusable.uncached] at hcached
  contradiction

theorem storedSession_after_copy (hlib : lib.Correct) {request : Request lib} {env env' : Env}
    (h : request.Welcome node env.unixTime) (h' : request.Welcome node env'.unixTime)
    (hexpired : ¬ env'.now.durationSince env.now < handshakeCacheTtl)
    (hids : (env'.rand []).responder.rxSessionId.value ≠ (env.rand []).responder.rxSessionId.value)
    (lighthouses : List LighthouseSlot) (src src' : SocketAddr) :
    let opened := run node lighthouses [.datagram env src request.initiate.msg]
    storedSession (handleHandshake1 node env' opened.state src' request.initiate.msg).1
        (nodeIdFromCert lib request.identity.cert) ≠
      storedSession opened.state (nodeIdFromCert lib request.identity.cert) := by
  intro opened
  have hstate : opened.state = _ := opening_state hlib h lighthouses src
  have hcache : opened.state.handshakeCache.get (lib.blake3Hash request.initiate.msg) env'.now =
      none := (get_after_opening hlib h lighthouses src env'.now).trans (if_neg hexpired)
  have hprocess := Request.processHandshake1_initiate hlib h'
  rw [handleHandshake1_of_ok node env' src' hcache hprocess h'.foreign]
  have hinstalled := storedSession_installResponse node env' opened.state src'
    (lib.blake3Hash request.initiate.msg) (request.answer node env')
  have hone : (responseSession lib opened.state src' (request.answer node env')).simultaneous =
      false := by
    rw [hstate]
    rfl
  have hpeer : (request.answer node env').peerCert = request.identity.cert := rfl
  rw [if_pos (acceptsSession_of_not_simultaneous hone), hpeer] at hinstalled
  have hopened : (storedSession opened.state (nodeIdFromCert lib request.identity.cert)).map
      (fun stored => stored.2.2.2) = some (env.rand []).responder.rxSessionId.value := by
    unfold storedSession
    rw [hstate, withSession_peers, AssocMap.lookup_insert_eq]
    exact congrArg _ (congrArg _ (if_pos rfl))
  intro hsame
  rw [← hsame, hinstalled] at hopened
  exact hids (Option.some.inj hopened)

end Reuse

namespace Sample

noncomputable def alice : Request (transparent pair) :=
  request pair "alice" 1 ⟨1, Core.Sample.one_ne⟩ false

noncomputable def bob : Node (transparent pair) := node pair "bob" 2

theorem alice_welcome {now : UInt64} (hclock : timestampValid 1000 now)
    (hbegun : ¬ now.toInt64 < 0) (hvalid : ¬ now.toInt64 > 1000000) : alice.Welcome bob now :=
  welcome_request "bob" 2 List.mem_cons_self (by decide) (by decide) _ _ hclock hbegun hvalid

end Sample

/-- A second after alice's request, a copy of it changes nothing. -/
theorem copy_harmless_after_a_second :
    KeepsSession Sample.bob (Sample.env 1 4 ⟨4, by decide⟩)
      (run Sample.bob [] [.datagram (Sample.env 0 2 ⟨2, by decide⟩) Core.Sample.source
        Sample.alice.initiate.msg]).state Core.Sample.source Sample.alice.initiate.msg
      (nodeIdFromCert (transparent Sample.pair) (Core.Sample.cert "alice" 1)) := by
  have hlib := transparent_correct Sample.pair
  have hwelcome := Sample.alice_welcome
    (show timestampValid 1000 (Sample.env 0 2 ⟨2, by decide⟩).unixTime by decide) (by decide)
    (by decide)
  refine (redelivery_harmless_iff Sample.bob [] [] []
    (processedBy_initiate hlib hwelcome [] Core.Sample.source) _ _).mpr ?_
  exact not_reusable_while_cached hlib hwelcome (by decide) [] _ _

/-- A minute after alice's request, a copy of it replaces the session. -/
theorem copy_replaces_session_after_a_minute :
    (transparent Sample.pair).Correct ∧
      ProcessedBy Sample.bob (Sample.env 0 2 ⟨2, by decide⟩) (run Sample.bob [] []).state
        Core.Sample.source Sample.alice.initiate.msg Sample.alice.initiate.msg
        (Sample.alice.answer Sample.bob (Sample.env 0 2 ⟨2, by decide⟩)) ∧
      storedSession (handleHandshake1 Sample.bob (Sample.env 61 4 ⟨4, by decide⟩)
          (run Sample.bob [] [.datagram (Sample.env 0 2 ⟨2, by decide⟩) Core.Sample.source
            Sample.alice.initiate.msg]).state Core.Sample.source Sample.alice.initiate.msg).1
          (nodeIdFromCert (transparent Sample.pair) Sample.alice.identity.cert) ≠
        storedSession (run Sample.bob [] [.datagram (Sample.env 0 2 ⟨2, by decide⟩)
            Core.Sample.source Sample.alice.initiate.msg]).state
          (nodeIdFromCert (transparent Sample.pair) Sample.alice.identity.cert) := by
  have hlib := transparent_correct Sample.pair
  have hwelcome := Sample.alice_welcome
    (show timestampValid 1000 (Sample.env 0 2 ⟨2, by decide⟩).unixTime by decide) (by decide)
    (by decide)
  have hwelcome' := Sample.alice_welcome
    (show timestampValid 1000 (Sample.env 61 4 ⟨4, by decide⟩).unixTime by decide) (by decide)
    (by decide)
  exact ⟨hlib, processedBy_initiate hlib hwelcome [] _,
    storedSession_after_copy hlib hwelcome hwelcome' (by decide) (by decide) [] _ _⟩

end Liteway.Daemon
