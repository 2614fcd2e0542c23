import Liteway.Daemon.Delivery

/-!
# What a handshake message does

A request is answered from the cache, dropped, or processed; a reply is dropped
or ends a pending handshake.  Either way the rest of the state is left alone, and
the tie-break says which of two sessions is kept.
-/

namespace Liteway.Daemon

open Liteway.Library Liteway.Core

/-! ## What a handshake message does -/

section Messages

variable {lib : Primitives} (node : Node lib)

def answerTo (env : Env) (st : NodeState) (packet : ByteString) : Option ByteString :=
  match networkHeader lib packet node.networkKey with
  | none => none
  | some header =>
      if header.kind = kindHandshake1 then
        match st.handshakeCache.get (lib.blake3Hash packet) env.now with
        | some entry => some entry.response
        | none =>
            match processHandshake1 lib (env.rand []).responder env.unixTime packet node.cert
                node.signingKey node.networkKey node.caVk node.amRelay with
            | .error _ => none
            | .ok response =>
                if nodeIdFromCert lib response.peerCert = node.ourId then none
                else some response.msg
      else none

def sentAnswer (env : Env) (st : NodeState) (packet : ByteString) : List ByteString :=
  ((answerTo node env st packet).filter (leaves node env)).toList

variable {node} {env : Env} {st : NodeState} {src : SocketAddr} {packet : ByteString}
  {header : NetworkHeader}

theorem mem_sentAnswer {msg : ByteString} (h : msg ∈ sentAnswer node env st packet) :
    answerTo node env st packet = some msg := by
  unfold sentAnswer at h
  rw [Option.mem_toList, Option.filter_eq_some_iff] at h
  exact h.1

/-- The request is no good, or it is too early or too late for it. -/
def Refuses (node : Node lib) (env : Env) (packet : ByteString) : Prop :=
  ∀ response, processHandshake1 lib (env.rand []).responder env.unixTime packet node.cert
    node.signingKey node.networkKey node.caVk node.amRelay ≠ .ok response

/-- A request is answered from the cache, dropped, or processed. -/
inductive RequestOutcome (node : Node lib) (env : Env) (st : NodeState) (src : SocketAddr)
    (packet : ByteString) : NodeState → Option ByteString → Prop where
  | cached {entry : CachedHandshake}
      (hcache : st.handshakeCache.get (lib.blake3Hash packet) env.now = some entry) :
      RequestOutcome node env st src packet (noteDirectEndpoint st entry.peerId src)
        (some entry.response)
  | dropped (hcache : st.handshakeCache.get (lib.blake3Hash packet) env.now = none)
      (hrefused : ∀ response, processHandshake1 lib (env.rand []).responder env.unixTime packet
        node.cert node.signingKey node.networkKey node.caVk node.amRelay = .ok response →
          nodeIdFromCert lib response.peerCert = node.ourId) :
      RequestOutcome node env st src packet st none
  | processed {response : HandshakeResponse}
      (hcache : st.handshakeCache.get (lib.blake3Hash packet) env.now = none)
      (hprocess : processHandshake1 lib (env.rand []).responder env.unixTime packet node.cert
        node.signingKey node.networkKey node.caVk node.amRelay = .ok response)
      (hforeign : nodeIdFromCert lib response.peerCert ≠ node.ourId) :
      RequestOutcome node env st src packet
        (installResponse node env st src (lib.blake3Hash packet) response).1 (some response.msg)

theorem requestOutcome (env : Env) (st : NodeState) (src : SocketAddr)
    (hheader : networkHeader lib packet node.networkKey = some header)
    (hkind : header.kind = kindHandshake1) :
    RequestOutcome node env st src packet (handlePacket node env st src packet).1
      (answerTo node env st packet) := by
  unfold handlePacket answerTo
  simp only [hheader, hkind, ↓reduceIte]
  unfold handleHandshake1
  cases hcache : st.handshakeCache.get (lib.blake3Hash packet) env.now with
  | some entry =>
      simp only [hcache]
      exact .cached hcache
  | none =>
      simp only [hcache]
      cases hprocess : processHandshake1 lib (env.rand []).responder env.unixTime packet node.cert
          node.signingKey node.networkKey node.caVk node.amRelay with
      | error reason =>
          refine .dropped hcache fun response hprocess' => ?_
          rw [hprocess] at hprocess'
          contradiction
      | ok response =>
          simp only
          split
          · rename_i hself
            refine .dropped hcache fun response' hprocess' => ?_
            cases Except.ok.inj (hprocess.symm.trans hprocess')
            exact hself
          · rename_i hforeign
            exact .processed hcache hprocess hforeign

theorem handlePacket_sends_answer {msg : ByteString} (h : answerTo node env st packet = some msg) :
    ∃ effects peerId, (handlePacket node env st src packet).2 = effects ++
      (sendMessageWithId node env msg src peerId (responseMsgId (lib.blake3Hash packet))).2 := by
  unfold answerTo at h
  unfold handlePacket handleHandshake1
  cases hheader : networkHeader lib packet node.networkKey with
  | none =>
      simp only [hheader] at h
      contradiction
  | some header =>
      simp only [hheader] at h
      simp only
      by_cases hkind : header.kind = kindHandshake1
      · rw [if_pos hkind] at h ⊢
        cases hcache : st.handshakeCache.get (lib.blake3Hash packet) env.now with
        | some entry =>
            simp only [hcache, Option.some.injEq] at h
            subst h
            exact ⟨[], entry.peerId, rfl⟩
        | none =>
            simp only [hcache] at h
            simp only
            cases hprocess : processHandshake1 lib (env.rand []).responder env.unixTime packet
                node.cert node.signingKey node.networkKey node.caVk node.amRelay with
            | error error =>
                simp only [hprocess] at h
                contradiction
            | ok response =>
                simp only [hprocess] at h
                simp only
                by_cases hforeign : nodeIdFromCert lib response.peerCert = node.ourId
                · rw [if_pos hforeign] at h
                  contradiction
                · rw [if_neg hforeign, Option.some.injEq] at h
                  subst h
                  rw [if_neg hforeign]
                  exact ⟨_, nodeIdFromCert lib response.peerCert, rfl⟩
      · rw [if_neg hkind] at h
        contradiction

/-- A reply is dropped, or it ends a pending handshake with the peer it was meant
for. -/
inductive ReplyOutcome (node : Node lib) (env : Env) (st : NodeState) (src : SocketAddr)
    (packet : ByteString) (sessionId : UInt32) : NodeState → Prop where
  | dropped : ReplyOutcome node env st src packet sessionId st
  | concluded {handshake : PendingHandshake} {result : HandshakeResult}
      (hpending : st.pending.lookup sessionId = some handshake)
      (hprocess : processHandshake2 lib env.unixTime packet handshake.initiate node.networkKey
        node.caVk = .ok result)
      (hpeer : ∀ expected, handshake.peerId = some expected →
        expected = nodeIdFromCert lib result.peerCert) :
      ReplyOutcome node env st src packet sessionId
        (addPeer node env.now { st with pending := st.pending.erase sessionId }
          (resultSession node st src handshake result)).2.1

theorem replyOutcome (env : Env) (st : NodeState) (src : SocketAddr)
    (hheader : networkHeader lib packet node.networkKey = some header)
    (hkind : header.kind = kindHandshake2) :
    ReplyOutcome node env st src packet header.sessionId
      (handlePacket node env st src packet).1 := by
  have hfirst : kindHandshake2 ≠ kindHandshake1 := by decide
  unfold handlePacket
  simp only [hheader, hkind, hfirst, ↓reduceIte]
  unfold handleHandshake2
  cases hpending : st.pending.lookup header.sessionId with
  | none => exact .dropped
  | some handshake =>
      simp only
      cases hprocess : processHandshake2 lib env.unixTime packet handshake.initiate node.networkKey
          node.caVk with
      | error reason => exact .dropped
      | ok result =>
          simp only
          split
          · exact .dropped
          · rename_i hpeer
            refine .concluded hpending hprocess fun expected hexpected => ?_
            simpa [hexpected] using hpeer

/-- A handshake_2 that verifies against a pending handshake, from the peer it was
meant for. -/
structure Concludes (node : Node lib) (env : Env) (st : NodeState) (packet : ByteString) (header : NetworkHeader)
    (handshake : PendingHandshake) (result : HandshakeResult) : Prop where
  decodes : networkHeader lib packet node.networkKey = some header
  kind : header.kind = kindHandshake2
  pending : st.pending.lookup header.sessionId = some handshake
  verified : processHandshake2 lib env.unixTime packet handshake.initiate node.networkKey
    node.caVk = .ok result
  expected : ∀ expected, handshake.peerId = some expected →
    expected = nodeIdFromCert lib result.peerCert

theorem Concludes.congr {handshake : PendingHandshake}
    {result : HandshakeResult} (h : Concludes node env st packet header handshake result)
    {st' : NodeState} (hpending : st'.pending = st.pending) :
    Concludes node env st' packet header handshake result :=
  ⟨h.decodes, h.kind, hpending ▸ h.pending, h.verified, h.expected⟩

theorem handlePacket_of_concludes {handshake : PendingHandshake}
    {result : HandshakeResult} (h : Concludes node env st packet header handshake result)
    (src : SocketAddr) :
    handlePacket node env st src packet =
      (addPeer node env.now { st with pending := st.pending.erase header.sessionId }
        (resultSession node st src handshake result)).2 := by
  have hreply : kindHandshake2 ≠ kindHandshake1 := by decide
  have hexpected : ¬ (handshake.peerId.any fun expected =>
      expected ≠ nodeIdFromCert lib result.peerCert) = true := by
    rw [Option.any_eq_true]
    rintro ⟨expected, hpeer, hother⟩
    exact of_decide_eq_true hother (h.expected expected hpeer)
  unfold handlePacket handleHandshake2
  simp only [h.decodes, h.kind, hreply, ↓reduceIte, h.pending, h.verified]
  rw [if_neg hexpected]
  rfl

theorem sentAnswer_reply (env : Env) (st : NodeState)
    (hheader : networkHeader lib packet node.networkKey = some header)
    (hkind : header.kind = kindHandshake2) : sentAnswer node env st packet = [] := by
  have hfirst : kindHandshake2 ≠ kindHandshake1 := by decide
  unfold sentAnswer answerTo
  simp only [hheader, hkind, hfirst, ↓reduceIte]
  rfl

/-! ## What it leaves alone -/

theorem lookup_addPeer (now : Instant) (st : NodeState) (session : NewSession) (id : UInt32) :
    (addPeer node now st session).2.1.peers.lookup id =
      if id = session.id ∧ acceptsSession node session st.peers = true then
        some (newPeer node now session (st.peers.lookup session.id))
      else st.peers.lookup id := by
  cases haccept : acceptsSession node session st.peers with
  | false =>
      rw [addPeer_of_not_accepts haccept, if_neg (by simp)]
  | true =>
      rw [addPeer_of_accepts haccept, withSession_peers, AssocMap.lookup_insert_eq]
      simp only [and_true]

theorem addPeer_pending (now : Instant) (st : NodeState) (session : NewSession) :
    (addPeer node now st session).2.1.pending = st.pending := by
  cases haccept : acceptsSession node session st.peers with
  | false => rw [addPeer_of_not_accepts haccept]
  | true => rw [addPeer_of_accepts haccept, withSession_pending]

theorem addPeer_handshakeCache (now : Instant) (st : NodeState) (session : NewSession) :
    (addPeer node now st session).2.1.handshakeCache = st.handshakeCache := by
  cases haccept : acceptsSession node session st.peers with
  | false => rw [addPeer_of_not_accepts haccept]
  | true => rw [addPeer_of_accepts haccept, withSession_handshakeCache]

theorem lookup_installResponse (env : Env) (digest : Bytes 32) {response : HandshakeResponse}
    (haccept : acceptsSession node (responseSession lib st src response) st.peers = true) :
    (installResponse node env st src digest response).1.peers.lookup
        (nodeIdFromCert lib response.peerCert) =
      some (newPeer node env.now (responseSession lib st src response)
        (st.peers.lookup (nodeIdFromCert lib response.peerCert))) := by
  rw [installResponse_of_accepts haccept]
  exact AList.lookup_insert _

theorem installResponse_pending (env : Env) (st : NodeState) (src : SocketAddr)
    (digest : Bytes 32) (response : HandshakeResponse) :
    (installResponse node env st src digest response).1.pending = st.pending :=
  addPeer_pending env.now _ _

theorem noteDirectEndpoint_pending (st : NodeState) (peerId : UInt32) (addr : SocketAddr) :
    (noteDirectEndpoint st peerId addr).pending = st.pending := by
  unfold noteDirectEndpoint
  split
  · rfl
  · split <;> rfl

theorem noteDirectEndpoint_handshakeCache (st : NodeState) (peerId : UInt32) (addr : SocketAddr) :
    (noteDirectEndpoint st peerId addr).handshakeCache = st.handshakeCache := by
  unfold noteDirectEndpoint
  split
  · rfl
  · split <;> rfl

theorem lookup_noteDirectEndpoint {st : NodeState} {peerId id : UInt32} {addr : SocketAddr}
    {peer : PeerState} (h : st.peers.lookup id = some peer) :
    ∃ after, (noteDirectEndpoint st peerId addr).peers.lookup id = some after ∧
      SameSession peer after := by
  unfold noteDirectEndpoint
  split
  · exact ⟨peer, h, SameSession.refl peer⟩
  split
  · exact ⟨peer, h, SameSession.refl peer⟩
  · rename_i found hfound
    simp only [AssocMap.lookup_insert_eq]
    split
    · rename_i hid
      subst hid
      cases Option.some.inj (hfound.symm.trans h)
      exact ⟨_, rfl, SameSession.learnDirectAddr addr peer⟩
    · exact ⟨peer, h, SameSession.refl peer⟩

/-! ## What a request changes -/

namespace RequestOutcome

variable {after : NodeState} {answer : Option ByteString}

theorem pending_eq (h : RequestOutcome node env st src packet after answer) :
    after.pending = st.pending := by
  cases h with
  | cached hcache => exact noteDirectEndpoint_pending st _ src
  | dropped hcache => rfl
  | processed hcache hprocess hforeign => exact addPeer_pending env.now _ _

theorem kept (h : RequestOutcome node env st src packet after answer)
    (hsettled : (st.handshakeCache.get (lib.blake3Hash packet) env.now).isSome = true ∨
      Refuses node env packet) {id : UInt32} {peer : PeerState} (hpeer : st.peers.lookup id = some peer) :
    ∃ same, after.peers.lookup id = some same ∧ SameSession peer same := by
  cases h with
  | cached hcache => exact lookup_noteDirectEndpoint hpeer
  | dropped hcache => exact ⟨peer, hpeer, SameSession.refl peer⟩
  | processed hcache hprocess hforeign =>
      obtain hcached | hrefuses := hsettled
      · rw [hcache] at hcached
        contradiction
      · exact absurd hprocess (hrefuses _)

theorem answer_cases (h : RequestOutcome node env st src packet after answer) {msg : ByteString}
    (hanswer : answer = some msg) :
    (∃ entry, st.handshakeCache.entries.lookup (lib.blake3Hash packet) = some entry ∧
      entry.response = msg) ∨
    ∃ response, processHandshake1 lib (env.rand []).responder env.unixTime packet node.cert
      node.signingKey node.networkKey node.caVk node.amRelay = .ok response ∧ response.msg = msg := by
  cases h with
  | cached hcache =>
      exact Or.inl ⟨_, (Option.filter_eq_some_iff.mp hcache).1, Option.some.inj hanswer⟩
  | dropped hcache => contradiction
  | processed hcache hprocess hforeign => exact Or.inr ⟨_, hprocess, Option.some.inj hanswer⟩

theorem cache_cases (h : RequestOutcome node env st src packet after answer)
    {entry : CachedHandshake}
    (hentry : after.handshakeCache.entries.lookup (lib.blake3Hash packet) = some entry) :
    st.handshakeCache.entries.lookup (lib.blake3Hash packet) = some entry ∨
    ∃ response, processHandshake1 lib (env.rand []).responder env.unixTime packet node.cert
      node.signingKey node.networkKey node.caVk node.amRelay = .ok response ∧
      response.msg = entry.response := by
  cases h with
  | cached hcache =>
      rw [noteDirectEndpoint_handshakeCache] at hentry
      exact Or.inl hentry
  | dropped hcache => exact Or.inl hentry
  | processed hcache hprocess hforeign =>
      unfold installResponse at hentry
      simp only [addPeer_handshakeCache, HandshakeCache.insert, AList.lookup_insert] at hentry
      refine Or.inr ⟨_, hprocess, ?_⟩
      rw [← Option.some.inj hentry]

end RequestOutcome

theorem ReplyOutcome.cache_eq {sessionId : UInt32} {after : NodeState}
    (h : ReplyOutcome node env st src packet sessionId after) :
    after.handshakeCache = st.handshakeCache := by
  cases h with
  | dropped => rfl
  | concluded hpending hprocess hpeer => exact addPeer_handshakeCache env.now _ _

end Messages

/-! ## The tie-break -/

section TieBreak

variable {lib : Primitives} {node : Node lib}

theorem acceptHandshakeSession_iff {ourId peerId initiatorId : UInt32} {existing : Option UInt32}
    {simultaneous : Bool} :
    acceptHandshakeSession ourId peerId existing initiatorId simultaneous = true ↔
      simultaneous = false ∨ existing = none ∨
        initiatorId = min ourId peerId ∧ existing ≠ some (min ourId peerId) := by
  unfold acceptHandshakeSession
  cases simultaneous with
  | false => simp
  | true =>
      cases existing with
      | none => simp
      | some existing =>
          by_cases h : initiatorId = min ourId peerId <;> simp [h]

private theorem min_of_lt {a b : UInt32} (h : a < b) : min a b = a := if_pos (UInt32.le_of_lt h)

private theorem min_of_gt {a b : UInt32} (h : b < a) : min a b = b := by
  refine if_neg fun hle => ?_
  rw [UInt32.le_iff_toNat_le] at hle
  rw [UInt32.lt_iff_toNat_lt] at h
  omega

theorem acceptsSession_result_of_lt {st : NodeState} {src : SocketAddr}
    {handshake : PendingHandshake} {result : HandshakeResult}
    (hlt : node.ourId < nodeIdFromCert lib result.peerCert) :
    acceptsSession node (resultSession node st src handshake result) st.peers = true := by
  unfold acceptsSession
  rw [acceptHandshakeSession_iff]
  simp only [resultSession, min_of_lt hlt, ne_eq, true_and]
  cases st.peers.lookup (nodeIdFromCert lib result.peerCert) with
  | none => exact Or.inr (Or.inl rfl)
  | some existing =>
      by_cases hours : existing.handshakeInitiatorId = node.ourId
      · exact Or.inl (by simp [hours])
      · exact Or.inr (Or.inr (by simpa using hours))

theorem acceptsSession_result_of_gt {st : NodeState} {src : SocketAddr}
    {handshake : PendingHandshake} {result : HandshakeResult} {existing : PeerState}
    (hgt : nodeIdFromCert lib result.peerCert < node.ourId)
    (hexisting : st.peers.lookup (nodeIdFromCert lib result.peerCert) = some existing)
    (htheirs : existing.handshakeInitiatorId = nodeIdFromCert lib result.peerCert) :
    acceptsSession node (resultSession node st src handshake result) st.peers = false := by
  have hne : node.ourId ≠ nodeIdFromCert lib result.peerCert := (UInt32.ne_of_lt hgt).symm
  rw [Bool.eq_false_iff]
  unfold acceptsSession
  rw [ne_eq, acceptHandshakeSession_iff]
  simp only [resultSession, hexisting, Option.any_some, Option.map_some, htheirs, min_of_gt hgt]
  simp [hne.symm, hne]

theorem acceptsSession_response_of_gt {st : NodeState} {src : SocketAddr}
    {response : HandshakeResponse} (hgt : nodeIdFromCert lib response.peerCert < node.ourId)
    (hothers : ∀ entry, st.peers.lookup (nodeIdFromCert lib response.peerCert) = some entry →
      entry.handshakeInitiatorId ≠ nodeIdFromCert lib response.peerCert) :
    acceptsSession node (responseSession lib st src response) st.peers = true := by
  unfold acceptsSession
  rw [acceptHandshakeSession_iff]
  simp only [responseSession, min_of_gt hgt, ne_eq, true_and]
  cases hlookup : st.peers.lookup (nodeIdFromCert lib response.peerCert) with
  | none => exact Or.inr (Or.inl rfl)
  | some existing => exact Or.inr (Or.inr (by simpa using hothers existing hlookup))

end TieBreak

end Liteway.Daemon
