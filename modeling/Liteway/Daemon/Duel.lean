import Liteway.Daemon.Dial

/-!
# Two nodes that dial each other

Both handshakes run at once over a network that delays, reorders and repeats
their messages.  The tie-break keeps the session of the lower node id, but a node
applies it only while it remembers having dialled.
-/

namespace Liteway.Daemon

open Liteway.Library Liteway.Core

structure Duel (lib : Primitives) where
  lower : Dial lib
  higher : Dial lib

/-- Both nodes, every message that was ever sent to either of them, and the answer
that came with the session which the higher node took last. -/
structure DuelState where
  lower : NodeState
  higher : NodeState
  toLower : List ByteString
  toHigher : List ByteString
  chosen : Option ByteString

/-- The network brings a message, with the clocks and draws of the call. -/
inductive Delivery where
  | toLower (env : Env) (src : SocketAddr) (packet : ByteString)
  | toHigher (env : Env) (src : SocketAddr) (packet : ByteString)

/-- The entry of `node` for the session of `key` with `peerId`. -/
structure IsHalf {lib : Primitives} (node : Node lib) (peerId : UInt32) (key : SessionKey)
    (txSessionId rxSessionId : UInt32) (entry : PeerState) : Prop where
  txKey : entry.txKey = deriveTrafficKey lib key node.ourId peerId
  rxKey : entry.rxKey = deriveTrafficKey lib key peerId node.ourId
  txSessionId : entry.txSessionId = txSessionId
  rxSessionId : entry.rxSessionId = rxSessionId

theorem IsHalf.congr {lib : Primitives} {node : Node lib} {peerId : UInt32} {key : SessionKey}
    {txSessionId rxSessionId : UInt32} {before after : PeerState}
    (h : IsHalf node peerId key txSessionId rxSessionId before) (hsame : SameSession before after) :
    IsHalf node peerId key txSessionId rxSessionId after :=
  ⟨hsame.txKey.trans h.txKey, hsame.rxKey.trans h.rxKey, hsame.txSessionId.trans h.txSessionId,
    hsame.rxSessionId.trans h.rxSessionId⟩

theorem isHalf_newPeer {lib : Primitives} (node : Node lib) (now : Instant) (session : NewSession)
    (previous : Option PeerState) :
    IsHalf node session.id session.sessionKey session.txSessionId session.rxSessionId
      (newPeer node now session previous) := ⟨rfl, rfl, rfl, rfl⟩

/-- The answer to a request whose session the node takes. -/
def takenAnswer {lib : Primitives} (node : Node lib) (env : Env) (st : NodeState)
    (src : SocketAddr) (packet : ByteString) : Option ByteString :=
  match st.handshakeCache.get (lib.blake3Hash packet) env.now with
  | some _ => none
  | none =>
      match processHandshake1 lib (env.rand []).responder env.unixTime packet node.cert
          node.signingKey node.networkKey node.caVk node.amRelay with
      | .error _ => none
      | .ok response =>
          if nodeIdFromCert lib response.peerCert ≠ node.ourId ∧
              acceptsSession node (responseSession lib st src response) st.peers = true then
            some response.msg
          else none

theorem takenAnswer_of_processed {lib : Primitives} {node : Node lib} {env : Env} {st : NodeState}
    (src : SocketAddr) {packet : ByteString} {response : HandshakeResponse}
    (hcache : st.handshakeCache.get (lib.blake3Hash packet) env.now = none)
    (hprocess : processHandshake1 lib (env.rand []).responder env.unixTime packet node.cert
      node.signingKey node.networkKey node.caVk node.amRelay = .ok response)
    (hforeign : nodeIdFromCert lib response.peerCert ≠ node.ourId) :
    takenAnswer node env st src packet =
      if acceptsSession node (responseSession lib st src response) st.peers = true then
        some response.msg
      else none := by
  unfold takenAnswer
  simp only [hcache, hprocess, hforeign, ne_eq, not_false_eq_true, true_and]

theorem takenAnswer_of_cached {lib : Primitives} {node : Node lib} {env : Env} {st : NodeState}
    (src : SocketAddr) {packet : ByteString} {entry : CachedHandshake}
    (hcache : st.handshakeCache.get (lib.blake3Hash packet) env.now = some entry) :
    takenAnswer node env st src packet = none := by
  unfold takenAnswer
  simp only [hcache]

theorem takenAnswer_of_refused {lib : Primitives} {node : Node lib} {env : Env} {st : NodeState}
    (src : SocketAddr) {packet : ByteString}
    (hcache : st.handshakeCache.get (lib.blake3Hash packet) env.now = none)
    (hrefused : ∀ response, processHandshake1 lib (env.rand []).responder env.unixTime packet
      node.cert node.signingKey node.networkKey node.caVk node.amRelay = .ok response →
        nodeIdFromCert lib response.peerCert = node.ourId) :
    takenAnswer node env st src packet = none := by
  unfold takenAnswer
  rw [hcache]
  cases hprocess : processHandshake1 lib (env.rand []).responder env.unixTime packet node.cert
      node.signingKey node.networkKey node.caVk node.amRelay with
  | error reason => rfl
  | ok response => exact if_neg fun hforeign => hforeign.1 (hrefused response hprocess)

/-- The network invents no messages. -/
def DuelState.Sent (s : DuelState) : Delivery → Prop
  | .toLower _ _ packet => packet ∈ s.toLower
  | .toHigher _ _ packet => packet ∈ s.toHigher

namespace Duel

variable {lib : Primitives} (duel : Duel lib)

def lowerId : UInt32 := duel.lower.node.ourId

def higherId : UInt32 := duel.higher.node.ourId

/-- Two nodes of one network, without a session with each other, have started a
handshake with each other.  The requests are new, so neither was answered before. -/
structure Opens : Prop where
  network : duel.lower.node.networkKey = duel.higher.node.networkKey
  ids : duel.lowerId < duel.higherId
  lower : duel.lower.Starts duel.higherId
  higher : duel.higher.Starts duel.lowerId
  lowerNew : duel.higher.before.handshakeCache.entries.lookup
    (lib.blake3Hash duel.lower.initiate.msg) = none
  higherNew : duel.lower.before.handshakeCache.entries.lookup
    (lib.blake3Hash duel.higher.initiate.msg) = none

def start : DuelState where
  lower := (duel.lower.start duel.higherId).2.1
  higher := (duel.higher.start duel.lowerId).2.1
  toLower := [duel.higher.initiate.msg]
  toHigher := [duel.lower.initiate.msg]
  chosen := none

def step (s : DuelState) : Delivery → DuelState
  | .toLower env src packet =>
      { s with
        lower := (handlePacket duel.lower.node env s.lower src packet).1
        toHigher := s.toHigher ++ sentAnswer duel.lower.node env s.lower packet }
  | .toHigher env src packet =>
      { s with
        higher := (handlePacket duel.higher.node env s.higher src packet).1
        toLower := s.toLower ++ sentAnswer duel.higher.node env s.higher packet
        chosen :=
          if packet = duel.lower.initiate.msg then
            (takenAnswer duel.higher.node env s.higher src packet).or s.chosen
          else s.chosen }

/-- The copy is answered from the cache, or it is refused. -/
def Settled (node : Node lib) (env : Env) (st : NodeState) (packet : ByteString) : Prop :=
  (st.handshakeCache.get (lib.blake3Hash packet) env.now).isSome = true ∨ Refuses node env packet

/-- The tie-break keeps the session that the higher node has. -/
def KeepsLower (s : DuelState) : Prop :=
  acceptHandshakeSession duel.higherId duel.lowerId
    ((s.higher.peers.lookup duel.lowerId).map PeerState.handshakeInitiatorId) duel.lowerId
    (dialling s.higher duel.lowerId) = false

/-- Neither node takes another session once the lower node has ended its own
handshake, and it ends that with the answer which the higher node chose. -/
def InTime (s : DuelState) : Delivery → Prop
  | .toLower env _ packet =>
      (packet = duel.higher.initiate.msg →
        Settled duel.lower.node env s.lower packet ∨ dialling s.lower duel.higherId = true) ∧
      (packet ≠ duel.higher.initiate.msg → dialling s.lower duel.higherId = true →
        (∃ result, processHandshake2 lib env.unixTime packet duel.lower.initiate
          duel.lower.node.networkKey duel.lower.node.caVk = .ok result) → s.chosen = some packet)
  | .toHigher env _ packet =>
      packet = duel.lower.initiate.msg →
        Settled duel.higher.node env s.higher packet ∨ duel.KeepsLower s ∨
          dialling s.lower duel.higherId = true

/-- Every message was delivered and nothing is pending. -/
structure Answered (deliveries : List Delivery) (s : DuelState) : Prop where
  toLower : ∀ packet ∈ s.toLower, ∃ env src, .toLower env src packet ∈ deliveries
  toHigher : ∀ packet ∈ s.toHigher, ∃ env src, .toHigher env src packet ∈ deliveries
  lower : dialling s.lower duel.higherId = false
  higher : dialling s.higher duel.lowerId = false

def Agreed (s : DuelState) : Prop :=
  ∃ key left right entry entry',
    s.lower.peers.lookup duel.higherId = some entry ∧
    s.higher.peers.lookup duel.lowerId = some entry' ∧
    IsHalf duel.lower.node duel.higherId key right left entry ∧
    IsHalf duel.higher.node duel.lowerId key left right entry'

/-! ## What holds all along -/

/-- The higher node answered the lower one's request with `response`. -/
def Answer (response : HandshakeResponse) : Prop :=
  ∃ coins now, processHandshake1 lib coins now duel.lower.initiate.msg duel.higher.node.cert
    duel.higher.node.signingKey duel.higher.node.networkKey duel.higher.node.caVk
    duel.higher.node.amRelay = .ok response

def IsAnswer (packet : ByteString) : Prop := ∃ response, duel.Answer response ∧ response.msg = packet

def IsReply (packet : ByteString) : Prop :=
  ∃ header, networkHeader lib packet duel.lower.node.networkKey = some header ∧
    header.kind = kindHandshake2

/-- The higher node has taken no session from the lower one. -/
structure Undecided (s : DuelState) : Prop where
  chosen : s.chosen = none
  uncached : s.higher.handshakeCache.entries.lookup (lib.blake3Hash duel.lower.initiate.msg) = none
  dialling : dialling s.lower duel.higherId = true
  others : ∀ entry, s.higher.peers.lookup duel.lowerId = some entry →
    entry.handshakeInitiatorId ≠ duel.lowerId

/-- The higher node has the session that came with `response`, and the lower node
has not settled on another one. -/
structure Decided (s : DuelState) (response : HandshakeResponse) : Prop where
  answer : duel.Answer response
  chosen : s.chosen = some response.msg
  higher : ∃ entry, s.higher.peers.lookup duel.lowerId = some entry ∧
    IsHalf duel.higher.node duel.lowerId response.sessionKey response.peerRxSessionId
      response.myRxSessionId entry ∧
    entry.handshakeInitiatorId = duel.lowerId
  lower : dialling s.lower duel.higherId = true ∨
    ∃ entry, s.lower.peers.lookup duel.higherId = some entry ∧
      IsHalf duel.lower.node duel.higherId response.sessionKey response.myRxSessionId
        response.peerRxSessionId entry

structure Consistent (s : DuelState) : Prop where
  tracks : duel.lower.Tracks duel.higherId s.lower
  answers : ∀ packet ∈ s.toLower, packet = duel.higher.initiate.msg ∨ duel.IsAnswer packet
  remembered : ∀ entry, s.higher.handshakeCache.entries.lookup
    (lib.blake3Hash duel.lower.initiate.msg) = some entry → duel.IsAnswer entry.response
  replies : ∀ packet ∈ s.toHigher, packet = duel.lower.initiate.msg ∨ duel.IsReply packet
  cached : ∀ entry, s.lower.handshakeCache.entries.lookup
    (lib.blake3Hash duel.higher.initiate.msg) = some entry → duel.IsReply entry.response
  decision : duel.Undecided s ∨ ∃ response, duel.Decided s response

variable {duel}

theorem consistent_start (h : duel.Opens) : duel.Consistent duel.start where
  tracks := Dial.Tracks.of_starts h.lower
  answers := fun packet hpacket => Or.inl (List.mem_singleton.mp hpacket)
  remembered := by
    intro entry hentry
    have hnew := h.lowerNew
    simp only [start, h.higher.state_eq] at hentry
    rw [hnew] at hentry
    contradiction
  replies := fun packet hpacket => Or.inl (List.mem_singleton.mp hpacket)
  cached := by
    intro entry hentry
    have hnew := h.higherNew
    simp only [start, h.lower.state_eq] at hentry
    rw [hnew] at hentry
    contradiction
  decision := by
    refine Or.inl ⟨rfl, ?_, ?_, ?_⟩
    · simp only [start, h.higher.state_eq]
      exact h.lowerNew
    · exact (Dial.Tracks.of_starts h.lower).dialling_iff.mpr h.lower.lookup_pending
    · intro entry hentry
      simp only [start, h.higher.state_eq] at hentry
      rw [h.higher.absent] at hentry
      contradiction

theorem networkHeader_higher (hlib : lib.Correct) (h : duel.Opens) :
    networkHeader lib duel.higher.initiate.msg duel.lower.node.networkKey =
      some { kind := kindHandshake1, fragIndex := 0, fragTotal := 0, dstPeerId := 0,
             sessionId := duel.higher.sessionId } := by
  rw [h.network]
  exact networkHeader_createHandshake1 hlib _ _ _ _ _ _

theorem networkHeader_lower (hlib : lib.Correct) (h : duel.Opens) :
    networkHeader lib duel.lower.initiate.msg duel.higher.node.networkKey =
      some { kind := kindHandshake1, fragIndex := 0, fragTotal := 0, dstPeerId := 0,
             sessionId := duel.lower.sessionId } := by
  rw [← h.network]
  exact networkHeader_createHandshake1 hlib _ _ _ _ _ _

theorem Answer.networkHeader (hlib : lib.Correct) (h : duel.Opens) {response : HandshakeResponse}
    (hanswer : duel.Answer response) :
    networkHeader lib response.msg duel.lower.node.networkKey =
      some { kind := kindHandshake2, fragIndex := 0, fragTotal := 0, dstPeerId := 0,
             sessionId := duel.lower.sessionId } := by
  obtain ⟨coins, now, hprocess⟩ := hanswer
  rw [← h.network] at hprocess
  exact networkHeader_answer hlib hprocess

theorem Answer.peerCert (hlib : lib.Correct) (h : duel.Opens) {response : HandshakeResponse}
    (hanswer : duel.Answer response) : response.peerCert = duel.lower.node.cert := by
  obtain ⟨coins, now, hprocess⟩ := hanswer
  rw [← h.network] at hprocess
  exact processHandshake1_peerCert hlib (h.lower.short hlib) hprocess

/-! ## Deliveries to the lower node -/

section Lower

variable {s : DuelState} {env : Env} {src : SocketAddr}

theorem consistent_higher_request (hlib : lib.Correct) (hopens : duel.Opens)
    (h : duel.Consistent s)
    (htime : duel.InTime s (.toLower env src duel.higher.initiate.msg)) :
    duel.Consistent (duel.step s (.toLower env src duel.higher.initiate.msg)) := by
  have hreply : ∀ {coins now response}, processHandshake1 lib coins now duel.higher.initiate.msg
      duel.lower.node.cert duel.lower.node.signingKey duel.lower.node.networkKey
      duel.lower.node.caVk duel.lower.node.amRelay = .ok response → duel.IsReply response.msg := by
    intro coins now response hprocess
    rw [hopens.network] at hprocess
    exact ⟨_, hopens.network ▸ networkHeader_answer hlib hprocess, rfl⟩
  have houtcome := requestOutcome env s.lower src (networkHeader_higher hlib hopens) rfl
  have hdialling := dialling_congr houtcome.pending_eq duel.higherId
  refine ⟨h.tracks.congr houtcome.pending_eq, h.answers, h.remembered, ?_, ?_, ?_⟩
  · intro msg hmsg
    obtain hold | hnew := List.mem_append.mp hmsg
    · exact h.replies msg hold
    obtain ⟨entry, hentry, rfl⟩ | ⟨response, hprocess, rfl⟩ :=
      houtcome.answer_cases (mem_sentAnswer hnew)
    · exact Or.inr (h.cached entry hentry)
    · exact Or.inr (hreply hprocess)
  · intro entry hentry
    obtain hold | ⟨response, hprocess, hmsg⟩ := houtcome.cache_cases hentry
    · exact h.cached entry hold
    · rw [← hmsg]
      exact hreply hprocess
  obtain hundecided | ⟨response, hdecided⟩ := h.decision
  · exact Or.inl ⟨hundecided.chosen, hundecided.uncached, hdialling.trans hundecided.dialling,
      hundecided.others⟩
  · refine Or.inr ⟨response, hdecided.answer, hdecided.chosen, hdecided.higher, ?_⟩
    obtain hlower | ⟨entry, hentry, hhalf⟩ := hdecided.lower
    · exact Or.inl (hdialling.trans hlower)
    obtain hsettled | hlower := htime.1 rfl
    · obtain ⟨same, hsame, hsession⟩ := houtcome.kept hsettled hentry
      exact Or.inr ⟨same, hsame, hhalf.congr hsession⟩
    · exact Or.inl (hdialling.trans hlower)

/-- The lower node settles on the answer to its request. -/
theorem lower_settles (hlib : lib.Correct) (hopens : duel.Opens)
    (htracks : duel.lower.Tracks duel.higherId s.lower) {response : HandshakeResponse}
    (hdecided : duel.Decided s response) {after : NodeState}
    (houtcome : ReplyOutcome duel.lower.node env s.lower src response.msg duel.lower.sessionId
      after) :
    dialling after duel.higherId = true ∨
      ∃ entry, after.peers.lookup duel.higherId = some entry ∧
        IsHalf duel.lower.node duel.higherId response.sessionKey response.myRxSessionId
          response.peerRxSessionId entry := by
  cases houtcome with
  | dropped => exact hdecided.lower
  | concluded hpending hprocess hpeer =>
      rename_i handshake result
      cases htracks.own handshake hpending
      have hid : duel.higherId = nodeIdFromCert lib result.peerCert := hpeer _ rfl
      have haccept : acceptsSession duel.lower.node (resultSession duel.lower.node s.lower src
          (duel.lower.pending duel.higherId) result) s.lower.peers = true :=
        acceptsSession_result_of_lt (hid ▸ hopens.ids)
      obtain ⟨coins, now, hanswer⟩ := hdecided.answer
      rw [← hopens.network] at hanswer
      obtain ⟨hkey, hrx, htx⟩ := processHandshake2_answer hlib hanswer hprocess
      have hhalf := isHalf_newPeer duel.lower.node env.now (resultSession duel.lower.node s.lower
        src (duel.lower.pending duel.higherId) result)
        (s.lower.peers.lookup (nodeIdFromCert lib result.peerCert))
      refine Or.inr ⟨_, (lookup_addPeer _ _ _ _).trans (if_pos ⟨hid, haccept⟩), ?_⟩
      rw [hid, ← hkey, ← hrx, ← htx]
      exact hhalf

theorem Answer.ne_request (hlib : lib.Correct) (hopens : duel.Opens) {response : HandshakeResponse}
    (hanswer : duel.Answer response) : response.msg ≠ duel.higher.initiate.msg := by
  intro heq
  have hreply := hanswer.networkHeader hlib hopens
  rw [heq, networkHeader_higher hlib hopens] at hreply
  exact absurd (congrArg NetworkHeader.kind (Option.some.inj hreply))
    (show ¬ kindHandshake1 = kindHandshake2 by decide)

theorem consistent_lower_reply (hlib : lib.Correct) (hopens : duel.Opens) (h : duel.Consistent s)
    {reply : HandshakeResponse} (hreply : duel.Answer reply)
    (htime : duel.InTime s (.toLower env src reply.msg)) :
    duel.Consistent (duel.step s (.toLower env src reply.msg)) := by
  have hheader := hreply.networkHeader hlib hopens
  have hnone := sentAnswer_reply env s.lower hheader rfl
  have houtcome := replyOutcome env s.lower src hheader rfl
  refine ⟨h.tracks.reply houtcome, h.answers, h.remembered, ?_, ?_, ?_⟩
  · intro msg hmsg
    obtain hold | hnew := List.mem_append.mp hmsg
    · exact h.replies msg hold
    · rw [hnone] at hnew
      contradiction
  · intro entry hentry
    refine h.cached entry ?_
    rw [← houtcome.cache_eq]
    exact hentry
  -- a reply that ends the handshake is the one that was chosen
  have hchosen : (handlePacket duel.lower.node env s.lower src reply.msg).1 = s.lower ∨
      s.chosen = some reply.msg := by
    generalize (handlePacket duel.lower.node env s.lower src reply.msg).1 = after at houtcome
    cases houtcome with
    | dropped => exact Or.inl rfl
    | @concluded handshake result hpending hprocess hpeer =>
        cases h.tracks.own handshake hpending
        exact Or.inr (htime.2 (hreply.ne_request hlib hopens) (h.tracks.dialling_iff.mpr hpending)
          ⟨result, hprocess⟩)
  obtain hundecided | ⟨response, hdecided⟩ := h.decision
  · obtain hsame | hchosen := hchosen
    · refine Or.inl ⟨hundecided.chosen, hundecided.uncached, ?_, hundecided.others⟩
      change dialling (handlePacket duel.lower.node env s.lower src reply.msg).1 duel.higherId = true
      rw [hsame]
      exact hundecided.dialling
    · rw [hundecided.chosen] at hchosen
      contradiction
  · refine Or.inr ⟨response, hdecided.answer, hdecided.chosen, hdecided.higher, ?_⟩
    change dialling (handlePacket duel.lower.node env s.lower src reply.msg).1 duel.higherId = true ∨
      ∃ entry, (handlePacket duel.lower.node env s.lower src reply.msg).1.peers.lookup duel.higherId =
        some entry ∧ _
    obtain hsame | hchosen := hchosen
    · rw [hsame]
      exact hdecided.lower
    · rw [hdecided.chosen, Option.some.injEq] at hchosen
      rw [← hchosen] at houtcome ⊢
      exact lower_settles hlib hopens h.tracks hdecided houtcome

end Lower

/-! ## Deliveries to the higher node -/

section Higher

variable {s : DuelState} {env : Env} {src : SocketAddr}

theorem Answer.id_eq (hlib : lib.Correct) (hopens : duel.Opens) {response : HandshakeResponse}
    (hanswer : duel.Answer response) : nodeIdFromCert lib response.peerCert = duel.lowerId :=
  congrArg (nodeIdFromCert lib) (hanswer.peerCert hlib hopens)

theorem Answer.acceptsSession_eq (hlib : lib.Correct) (hopens : duel.Opens)
    {response : HandshakeResponse} (hanswer : duel.Answer response) (st : NodeState)
    (src : SocketAddr) :
    acceptsSession duel.higher.node (responseSession lib st src response) st.peers =
      acceptHandshakeSession duel.higherId duel.lowerId
        ((st.peers.lookup duel.lowerId).map PeerState.handshakeInitiatorId) duel.lowerId
        (dialling st duel.lowerId) := by
  change acceptHandshakeSession _ (nodeIdFromCert lib response.peerCert)
    ((st.peers.lookup (nodeIdFromCert lib response.peerCert)).map _)
    (nodeIdFromCert lib response.peerCert) (dialling st (nodeIdFromCert lib response.peerCert)) = _
  rw [hanswer.id_eq hlib hopens]
  rfl

/-- The higher node takes a session while the lower one waits for its answer. -/
theorem decided_of_taken (hlib : lib.Correct) (hopens : duel.Opens)
    {response : HandshakeResponse} (hanswer : duel.Answer response)
    (haccept : acceptsSession duel.higher.node (responseSession lib s.higher src response)
      s.higher.peers = true)
    (hdialling : dialling s.lower duel.higherId = true) (toLower : List ByteString) :
    duel.Decided
      { s with
        higher := (installResponse duel.higher.node env s.higher src
          (lib.blake3Hash duel.lower.initiate.msg) response).1
        toLower := toLower
        chosen := some response.msg } response := by
  have hid := hanswer.id_eq hlib hopens
  have hentry := lookup_installResponse env (lib.blake3Hash duel.lower.initiate.msg) haccept
  have hhalf := isHalf_newPeer duel.higher.node env.now (responseSession lib s.higher src response)
    (s.higher.peers.lookup (nodeIdFromCert lib response.peerCert))
  rw [hid] at hentry
  exact ⟨hanswer, rfl, ⟨_, hentry, hid ▸ hhalf, hid⟩, Or.inl hdialling⟩

theorem higher_decides (hlib : lib.Correct) (hopens : duel.Opens) (h : duel.Consistent s)
    (htime : duel.InTime s (.toHigher env src duel.lower.initiate.msg)) {after : NodeState}
    {answer : Option ByteString} (houtcome : RequestOutcome duel.higher.node env s.higher src
      duel.lower.initiate.msg after answer) (toLower : List ByteString) :
    let after' : DuelState := { s with
      higher := after
      toLower := toLower
      chosen := (takenAnswer duel.higher.node env s.higher src duel.lower.initiate.msg).or s.chosen }
    duel.Undecided after' ∨ ∃ response, duel.Decided after' response := by
  cases houtcome with
  | cached hcache =>
      rw [takenAnswer_of_cached src hcache, Option.none_or]
      obtain hundecided | ⟨response, hdecided⟩ := h.decision
      · have hentry := (Option.filter_eq_some_iff.mp hcache).1
        rw [hundecided.uncached] at hentry
        contradiction
      · obtain ⟨entry, hentry, hhalf, hinitiator⟩ := hdecided.higher
        obtain ⟨same, hsame, hsession⟩ := lookup_noteDirectEndpoint hentry
        exact Or.inr ⟨response, hdecided.answer, hdecided.chosen,
          ⟨same, hsame, hhalf.congr hsession, hsession.initiatorId.trans hinitiator⟩,
          hdecided.lower⟩
  | dropped hcache hrefused =>
      rw [takenAnswer_of_refused src hcache hrefused, Option.none_or]
      obtain hundecided | ⟨response, hdecided⟩ := h.decision
      · exact Or.inl ⟨hundecided.chosen, hundecided.uncached, hundecided.dialling, hundecided.others⟩
      · exact Or.inr ⟨response, hdecided.answer, hdecided.chosen, hdecided.higher, hdecided.lower⟩
  | @processed response hcache hprocess hforeign =>
      have hanswer : duel.Answer response := ⟨_, _, hprocess⟩
      rw [takenAnswer_of_processed src hcache hprocess hforeign]
      cases haccept : acceptsSession duel.higher.node (responseSession lib s.higher src response)
          s.higher.peers with
      | true =>
          refine Or.inr ⟨response, decided_of_taken hlib hopens hanswer haccept ?_ toLower⟩
          obtain hundecided | ⟨response', hdecided⟩ := h.decision
          · exact hundecided.dialling
          obtain (hcached | hrefuses) | hkeeps | hdialling := htime rfl
          · rw [hcache] at hcached
            contradiction
          · exact absurd hprocess (hrefuses response)
          · unfold KeepsLower at hkeeps
            rw [← hanswer.acceptsSession_eq hlib hopens s.higher src, haccept] at hkeeps
            contradiction
          · exact hdialling
      | false =>
          rw [if_neg Bool.false_ne_true, Option.none_or, installResponse_of_not_accepts haccept]
          obtain hundecided | ⟨response', hdecided⟩ := h.decision
          · refine absurd haccept (Bool.not_eq_false _ |>.mpr ?_)
            apply acceptsSession_response_of_gt
            · rw [hanswer.id_eq hlib hopens]
              exact hopens.ids
            · rw [hanswer.id_eq hlib hopens]
              exact hundecided.others
          · exact Or.inr ⟨response', hdecided.answer, hdecided.chosen, hdecided.higher,
              hdecided.lower⟩

theorem consistent_lower_request (hlib : lib.Correct) (hopens : duel.Opens) (h : duel.Consistent s)
    (htime : duel.InTime s (.toHigher env src duel.lower.initiate.msg)) :
    duel.Consistent (duel.step s (.toHigher env src duel.lower.initiate.msg)) := by
  have houtcome := requestOutcome env s.higher src (networkHeader_lower hlib hopens) rfl
  dsimp only [step]
  rw [if_pos rfl]
  refine ⟨h.tracks, ?_, ?_, h.replies, h.cached, higher_decides hlib hopens h htime houtcome _⟩
  · intro packet hpacket
    obtain hold | hnew := List.mem_append.mp hpacket
    · exact h.answers packet hold
    obtain ⟨entry, hentry, rfl⟩ | ⟨response, hprocess, hmsg⟩ :=
      houtcome.answer_cases (mem_sentAnswer hnew)
    · exact Or.inr (h.remembered entry hentry)
    · exact Or.inr ⟨response, ⟨_, _, hprocess⟩, hmsg⟩
  · intro entry hentry
    obtain hold | ⟨response, hprocess, hmsg⟩ := houtcome.cache_cases hentry
    · exact h.remembered entry hold
    · exact ⟨response, ⟨_, _, hprocess⟩, hmsg⟩

/-- A reply never takes the place of a session that the lower node initiated. -/
theorem higher_keeps (hopens : duel.Opens) {packet : ByteString} {sessionId : UInt32}
    {st after : NodeState}
    (houtcome : ReplyOutcome duel.higher.node env st src packet sessionId after)
    {entry : PeerState} (hentry : st.peers.lookup duel.lowerId = some entry)
    (hinitiator : entry.handshakeInitiatorId = duel.lowerId) :
    after.peers.lookup duel.lowerId = some entry := by
  cases houtcome with
  | dropped => exact hentry
  | concluded hpending hprocess hpeer =>
      rename_i handshake result
      refine (lookup_addPeer _ _ _ _).trans ((if_neg ?_).trans hentry)
      rintro ⟨hid, haccept⟩
      have hid : duel.lowerId = nodeIdFromCert lib result.peerCert := hid
      have hrefused : acceptsSession duel.higher.node (resultSession duel.higher.node st src handshake
          result) st.peers = false :=
        acceptsSession_result_of_gt (hid ▸ hopens.ids) (hid ▸ hentry) (hinitiator.trans hid)
      exact Bool.eq_false_iff.mp hrefused haccept

theorem higher_others (hopens : duel.Opens) {packet : ByteString} {sessionId : UInt32}
    {st after : NodeState}
    (houtcome : ReplyOutcome duel.higher.node env st src packet sessionId after)
    (hothers : ∀ entry, st.peers.lookup duel.lowerId = some entry →
      entry.handshakeInitiatorId ≠ duel.lowerId) :
    ∀ entry, after.peers.lookup duel.lowerId = some entry →
      entry.handshakeInitiatorId ≠ duel.lowerId := by
  intro entry hentry
  cases houtcome with
  | dropped => exact hothers entry hentry
  | concluded hpending hprocess hpeer =>
      rw [lookup_addPeer] at hentry
      split at hentry
      · cases Option.some.inj hentry
        exact (UInt32.ne_of_lt hopens.ids).symm
      · exact hothers entry hentry

theorem consistent_higher_reply (hlib : lib.Correct) (hopens : duel.Opens) (h : duel.Consistent s)
    {packet : ByteString} (hreply : duel.IsReply packet) :
    duel.Consistent (duel.step s (.toHigher env src packet)) := by
  obtain ⟨header, hheader, hkind⟩ := hreply
  rw [hopens.network] at hheader
  have hnone := sentAnswer_reply env s.higher hheader hkind
  have houtcome := replyOutcome env s.higher src hheader hkind
  have hrequest : packet ≠ duel.lower.initiate.msg := by
    rintro rfl
    rw [networkHeader_lower hlib hopens, Option.some.injEq] at hheader
    rw [← hheader] at hkind
    exact absurd hkind (show ¬ kindHandshake1 = kindHandshake2 by decide)
  unfold step
  simp only [hnone, List.append_nil, hrequest, ↓reduceIte]
  refine ⟨h.tracks, h.answers, ?_, h.replies, h.cached, ?_⟩
  · intro entry hentry
    refine h.remembered entry ?_
    rw [← houtcome.cache_eq]
    exact hentry
  obtain hundecided | ⟨response, hdecided⟩ := h.decision
  · refine Or.inl ⟨hundecided.chosen, ?_, hundecided.dialling,
      higher_others hopens houtcome hundecided.others⟩
    rw [houtcome.cache_eq]
    exact hundecided.uncached
  · obtain ⟨entry, hentry, hhalf, hinitiator⟩ := hdecided.higher
    exact Or.inr ⟨response, hdecided.answer, hdecided.chosen,
      ⟨entry, higher_keeps hopens houtcome hentry hinitiator, hhalf, hinitiator⟩, hdecided.lower⟩

end Higher

end Duel

end Liteway.Daemon
