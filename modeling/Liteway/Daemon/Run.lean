import Liteway.Daemon.Sessions
import Liteway.Library.Runs

/-!
# Runs of a node

A datagram does one of three things: it is routine, it installs the session that
a handshake offers, or it is a fresh packet of a live session.  A run records the
effects of every call, so that what was accepted before can be read off it.
-/

namespace Liteway.Daemon

open Liteway.Library Liteway.Core

section Datagrams

variable {lib : Primitives} (node : Node lib)

/-! ## Whole packets -/

/-- The packet that a datagram brings to the handlers, if any. -/
def wholePacket (env : Env) (st : NodeState) (src : SocketAddr) (data : ByteString) :
    Option ByteString :=
  match relayTarget node data with
  | some _ => none
  | none =>
      match (st.assembler.feed lib env.now src data node.networkKey).1 with
      | .complete message => some message
      | .buffered => none
      | .notFragment => some data

def afterFeed (env : Env) (st : NodeState) (src : SocketAddr) (data : ByteString) : NodeState :=
  { st with assembler := (st.assembler.feed lib env.now src data node.networkKey).2 }

theorem handleDatagram_of_wholePacket {node : Node lib} {env : Env} {st : NodeState}
    {src : SocketAddr} {data packet : ByteString}
    (h : wholePacket node env st src data = some packet) :
    handleDatagram node env st src data =
      handlePacket node env (afterFeed node env st src data) src packet := by
  unfold wholePacket at h
  unfold handleDatagram
  cases htarget : relayTarget node data with
  | some target =>
      simp only [htarget] at h
      contradiction
  | none =>
      cases hfeed : (st.assembler.feed lib env.now src data node.networkKey).1 with
      | buffered =>
          simp only [htarget, hfeed] at h
          contradiction
      | complete message =>
          simp only [htarget, hfeed, Option.some.injEq] at h
          subst h
          simp only [hfeed]
          rfl
      | notFragment =>
          simp only [htarget, hfeed, Option.some.injEq] at h
          subst h
          simp only [hfeed]
          rfl

theorem handleDatagram_of_no_packet {node : Node lib} {env : Env} {st : NodeState}
    {src : SocketAddr} {data : ByteString} (h : wholePacket node env st src data = none) :
    ∃ assembler effects, handleDatagram node env st src data =
        ({ st with assembler := assembler }, effects) ∧
      ∀ effect ∈ effects, effect.Silent := by
  unfold wholePacket at h
  unfold handleDatagram
  cases htarget : relayTarget node data with
  | some target =>
      exact ⟨st.assembler, _, rfl, silent_relayDatagram node st data target⟩
  | none =>
      cases hfeed : (st.assembler.feed lib env.now src data node.networkKey).1 with
      | buffered =>
          simp only [hfeed]
          exact ⟨_, [], rfl, List.forall_mem_nil _⟩
      | complete message =>
          simp only [htarget, hfeed] at h
          contradiction
      | notFragment =>
          simp only [htarget, hfeed] at h
          contradiction

theorem routine_of_wholePacket_none {node : Node lib} {env : Env} {st : NodeState}
    {src : SocketAddr} {data : ByteString} (h : wholePacket node env st src data = none) :
    Routine st (handleDatagram node env st src data) := by
  obtain ⟨assembler, effects, hstate, hsilent⟩ := handleDatagram_of_no_packet h
  rw [hstate]
  exact Routine.ofFrame rfl rfl hsilent

/-! ## Installing a session -/

def requested (env : Env) (st : NodeState) (src : SocketAddr) (packet : ByteString) :
    Option NewSession :=
  match st.handshakeCache.get (lib.blake3Hash packet) env.now with
  | some _ => none
  | none =>
      match processHandshake1 lib (env.rand []).responder env.unixTime packet node.cert
          node.signingKey node.networkKey node.caVk node.amRelay with
      | .error _ => none
      | .ok response =>
          if nodeIdFromCert lib response.peerCert = node.ourId then none
          else some (responseSession lib st src response)

def confirmed (env : Env) (st : NodeState) (src : SocketAddr) (packet : ByteString)
    (sessionId : UInt32) : Option NewSession :=
  match st.pending.lookup sessionId with
  | none => none
  | some handshake =>
      match processHandshake2 lib env.unixTime packet handshake.initiate node.networkKey
          node.caVk with
      | .error _ => none
      | .ok result =>
          if handshake.peerId.any fun expected => expected ≠ nodeIdFromCert lib result.peerCert then
            none
          else some (resultSession node st src handshake result)

def offered (env : Env) (st : NodeState) (src : SocketAddr) (packet : ByteString) :
    Option NewSession :=
  match networkHeader lib packet node.networkKey with
  | none => none
  | some header =>
      if header.kind = kindHandshake1 then requested node env st src packet
      else if header.kind = kindHandshake2 then confirmed node env st src packet header.sessionId
      else none

/-- What `add_peer` does when it accepts a session. -/
structure Installs (now : Instant) (st : NodeState) (session : NewSession)
    (out : NodeState × List Effect) : Prop where
  accepted : acceptsSession node session st.peers = true
  peers : out.1.peers =
    st.peers.insert session.id (newPeer node now session (st.peers.lookup session.id))
  lighthouses : out.1.lighthouses =
    (bindLighthouse session.addr session.cert.body.info.name session.id st).lighthouses
  effects : ∃ rest, out.2 = .installed session.id session.addr session.relayed :: rest ∧
    ∀ effect ∈ rest, effect.Silent

theorem installs_addPeer {node : Node lib} {now : Instant} {st : NodeState} {session : NewSession}
    (haccept : acceptsSession node session st.peers = true) :
    Installs node now st session (addPeer node now st session).2 := by
  rw [addPeer_of_accepts haccept]
  refine ⟨haccept, rfl, rfl, _, rfl, ?_⟩
  intro effect heffect
  split at heffect
  · simp at heffect
  · obtain ⟨route, -, rfl⟩ := List.mem_map.mp heffect
    trivial

theorem Installs.append {node : Node lib} {now : Instant} {st st' : NodeState}
    {session : NewSession} {effects more : List Effect}
    (h : Installs node now st session (st', effects)) (hmore : ∀ effect ∈ more, effect.Silent) :
    Installs node now st session (st', effects ++ more) := by
  obtain ⟨rest, heffects, hrest⟩ := h.effects
  refine ⟨h.accepted, h.peers, h.lighthouses, rest ++ more, ?_, ?_⟩
  · change effects ++ more = _
    rw [show effects = _ from heffects, List.cons_append]
  · intro effect heffect
    obtain hold | hnew := List.mem_append.mp heffect
    · exact hrest effect hold
    · exact hmore effect hnew

theorem Installs.congr {node : Node lib} {now : Instant} {st st' : NodeState}
    {session : NewSession} {out : NodeState × List Effect} (h : Installs node now st' session out)
    (hpeers : st'.peers = st.peers) (hslots : st'.lighthouses = st.lighthouses) :
    Installs node now st session out := by
  obtain ⟨haccepted, hpeers', hslots', heffects⟩ := h
  simp only [hpeers, hslots, bindLighthouse] at haccepted hpeers' hslots'
  exact ⟨haccepted, hpeers', hslots', heffects⟩

/-- The session takes the place of the one there is, or that one is kept. -/
def Settles (now : Instant) (st : NodeState) (session : NewSession)
    (out : NodeState × List Effect) : Prop :=
  if acceptsSession node session st.peers then Installs node now st session out else Routine st out

theorem settles_addPeer (now : Instant) (st st' : NodeState) (session : NewSession)
    (hpeers : st'.peers = st.peers) (hslots : st'.lighthouses = st.lighthouses)
    {more : List Effect} (hmore : ∀ effect ∈ more, effect.Silent) :
    Settles node now st session
      ((addPeer node now st' session).2.1, (addPeer node now st' session).2.2 ++ more) := by
  unfold Settles
  rw [← hpeers]
  cases haccept : acceptsSession node session st'.peers with
  | false =>
      rw [addPeer_of_not_accepts haccept, if_neg Bool.false_ne_true]
      exact Routine.ofFrame hpeers hslots hmore
  | true =>
      rw [if_pos rfl]
      exact ((installs_addPeer haccept).append hmore).congr hpeers hslots

/-- A handshake that offers no session is routine; one that does settles it. -/
def SettlesOffer (now : Instant) (st : NodeState) (offer : Option NewSession)
    (out : NodeState × List Effect) : Prop :=
  match offer with
  | none => Routine st out
  | some session => Settles node now st session out

theorem settlesOffer_handleHandshake1 (env : Env) (st : NodeState) (src : SocketAddr)
    (packet : ByteString) :
    SettlesOffer node env.now st (requested node env st src packet)
      (handleHandshake1 node env st src packet) := by
  unfold requested handleHandshake1
  cases hcache : st.handshakeCache.get (lib.blake3Hash packet) env.now with
  | some entry =>
      simp only [hcache]
      exact routine_noteDirectEndpoint st _ src (silent_sendMessageWithId node _ _ _ _ _)
  | none =>
      simp only [hcache]
      cases processHandshake1 lib (env.rand []).responder env.unixTime packet node.cert
          node.signingKey node.networkKey node.caVk node.amRelay with
      | error reason => exact Routine.idle st
      | ok response =>
          simp only
          split
          · exact Routine.idle st
          -- the answer is cached first, which neither the offer nor `add_peer` looks at
          · exact settles_addPeer node env.now st { st with
              handshakeCache := st.handshakeCache.insert (lib.blake3Hash packet) response.msg
                (nodeIdFromCert lib response.peerCert) env.now }
              (responseSession lib st src response) rfl rfl
              (silent_sendMessageWithId node env response.msg src _ _)

theorem settlesOffer_handleHandshake2 (env : Env) (st : NodeState) (src : SocketAddr)
    (packet : ByteString) (sessionId : UInt32) :
    SettlesOffer node env.now st (confirmed node env st src packet sessionId)
      (handleHandshake2 node env st src packet sessionId) := by
  unfold confirmed handleHandshake2
  cases st.pending.lookup sessionId with
  | none => exact Routine.idle st
  | some handshake =>
      simp only
      cases processHandshake2 lib env.unixTime packet handshake.initiate node.networkKey
          node.caVk with
      | error reason => exact Routine.idle st
      | ok result =>
          simp only
          split
          · exact Routine.idle st
          · have hsettles := settles_addPeer node env.now st
              { st with pending := st.pending.erase sessionId }
              (resultSession node st src handshake result) rfl rfl (List.forall_mem_nil _)
            rw [List.append_nil] at hsettles
            exact hsettles

/-! ## Accepting a packet -/

/-- A fresh packet of a live session. -/
structure Accepts (st : NodeState) (packet : ByteString) (peerId : UInt32) (peer : PeerState)
    (header : NetworkHeader) (body : PacketBody) : Prop where
  session : st.rxSessions.lookup header.sessionId = some peerId
  live : st.peers.lookup peerId = some peer
  decrypted : decryptPacket lib packet node.networkKey peer.rxKey = some (header, body)
  fresh : (peer.rxReplay.accept (packetSeq body)).1 = true

def afterAccept (env : Env) (st : NodeState) (src : SocketAddr) (peerId : UInt32)
    (peer : PeerState) (body : PacketBody) : NodeState :=
  { st with
    peers := st.peers.insert peerId (peer.receive (peer.rxReplay.accept (packetSeq body)).2 src
      env.now (srcIsRelay st peerId peer src) (PacketBody.isKeepalive body)) }

theorem SameSession.receive (peer : PeerState) (window : ReplayWindow) (src : SocketAddr)
    (now : Instant) (viaRelay isKeepalive : Bool) :
    SameSession { peer with rxReplay := window }
      (peer.receive window src now viaRelay isKeepalive) :=
  SameSession.markSeen _ src now viaRelay isKeepalive

/-- A packet is written exactly if its source and its destination are allowed and
there is a TUN device. -/
theorem mem_handleData_iff {node : Node lib} {st : NodeState} {peerId : UInt32} {ipPacket : ByteString}
    {effect : Effect} :
    effect ∈ handleData node st peerId ipPacket ↔
      effect = .tunWrite ipPacket ∧
        (∃ peer, st.peers.lookup peerId = some peer ∧
          peerAllowsIpPacketSource peer ipPacket = true) ∧
        acceptsDestination node ipPacket = true ∧ node.ifaceName.isSome = true := by
  have hallowed : (st.peers.lookup peerId).any (peerAllowsIpPacketSource · ipPacket) = true ↔
      ∃ peer, st.peers.lookup peerId = some peer ∧
        peerAllowsIpPacketSource peer ipPacket = true := Option.any_eq_true _ _
  rw [← hallowed]
  unfold handleData
  cases (st.peers.lookup peerId).any (peerAllowsIpPacketSource · ipPacket) <;>
    cases acceptsDestination node ipPacket <;> cases node.ifaceName.isSome <;> simp

theorem handleSessionPacket_cases (env : Env) (st : NodeState) (src : SocketAddr)
    (packet : ByteString) (header : NetworkHeader) :
    handleSessionPacket node env st src packet header = (st, []) ∨
      ∃ peerId peer body, Accepts node st packet peerId peer header body ∧
        handleSessionPacket node env st src packet header =
          ((handleBody node env (afterAccept env st src peerId peer body) src peerId body).1,
            .accepted peerId (packetSeq body) ::
              (handleBody node env (afterAccept env st src peerId peer body) src peerId body).2) := by
  unfold handleSessionPacket
  split
  · exact Or.inl rfl
  rename_i peerId hsession
  split
  · exact Or.inl rfl
  rename_i peer hpeer
  split
  · exact Or.inl rfl
  rename_i decoded body hdecrypt
  split
  · exact Or.inl rfl
  rename_i hheader
  have hheader : decoded = header := Classical.not_not.mp hheader
  subst hheader
  simp only
  split
  · rename_i hrefused
    rw [ReplayWindow.accept_of_refused (by simpa using hrefused), AssocMap.replace_of_lookup hpeer]
    exact Or.inl rfl
  rename_i hfresh
  refine Or.inr ⟨peerId, peer, body, ⟨hsession, hpeer, hdecrypt, by simpa using hfresh⟩, rfl⟩

theorem body_cases (body : PacketBody) :
    (∃ seq ipPacket, body = .data seq ipPacket) ∨ ∀ seq ipPacket, body ≠ .data seq ipPacket := by
  cases body with
  | data seq ipPacket => exact Or.inl ⟨seq, ipPacket, rfl⟩
  | _ => exact Or.inr (by simp)

/-! ## What a datagram can do -/

theorem settles_handlePacket {node : Node lib} {env : Env} {st : NodeState} {src : SocketAddr}
    {packet : ByteString} {session : NewSession}
    (hoffer : offered node env st src packet = some session) :
    Settles node env.now st session (handlePacket node env st src packet) := by
  have hfirst := settlesOffer_handleHandshake1 node env st src packet
  have hsecond := settlesOffer_handleHandshake2 node env st src packet
  unfold offered at hoffer
  unfold handlePacket
  cases hheader : networkHeader lib packet node.networkKey with
  | none =>
      simp only [hheader] at hoffer
      contradiction
  | some header =>
      simp only [hheader] at hoffer
      simp only
      by_cases hkind : header.kind = kindHandshake1
      · rw [if_pos hkind] at hoffer ⊢
        rw [hoffer] at hfirst
        exact hfirst
      rw [if_neg hkind] at hoffer ⊢
      by_cases hkind' : header.kind = kindHandshake2
      · have hsecond := hsecond header.sessionId
        rw [if_pos hkind'] at hoffer ⊢
        rw [hoffer] at hsecond
        exact hsecond
      · rw [if_neg hkind'] at hoffer
        contradiction

theorem handlePacket_of_not_offered {node : Node lib} {env : Env} {st : NodeState}
    {src : SocketAddr} {packet : ByteString} (hoffer : offered node env st src packet = none) :
    Routine st (handlePacket node env st src packet) ∨
      ∃ peerId peer header body, Accepts node st packet peerId peer header body ∧
        handlePacket node env st src packet =
          ((handleBody node env (afterAccept env st src peerId peer body) src peerId body).1,
            .accepted peerId (packetSeq body) ::
              (handleBody node env (afterAccept env st src peerId peer body) src peerId body).2) := by
  have hfirst := settlesOffer_handleHandshake1 node env st src packet
  have hsecond := settlesOffer_handleHandshake2 node env st src packet
  unfold offered at hoffer
  unfold handlePacket
  cases hheader : networkHeader lib packet node.networkKey with
  | none => exact Or.inl (Routine.idle st)
  | some header =>
      simp only [hheader] at hoffer ⊢
      split at hoffer
      · rename_i hkind
        rw [hoffer] at hfirst
        rw [if_pos hkind]
        exact Or.inl hfirst
      rename_i hkind
      rw [if_neg hkind]
      split at hoffer
      · rename_i hkind'
        have hsecond := hsecond header.sessionId
        rw [hoffer] at hsecond
        rw [if_pos hkind']
        exact Or.inl hsecond
      rename_i hkind'
      rw [if_neg hkind']
      split
      · exact Or.inl (Routine.refl st (silent_relayDatagram node st packet _))
      · obtain h | ⟨peerId, peer, body, haccepts, h⟩ :=
          handleSessionPacket_cases node env st src packet header
        · rw [h]
          exact Or.inl (Routine.idle st)
        · exact Or.inr ⟨peerId, peer, header, body, haccepts, h⟩

/-- A datagram that brings an accepted offer installs it. -/
theorem settles_handleDatagram {node : Node lib} {env : Env} {st : NodeState} {src : SocketAddr}
    {data packet : ByteString} {session : NewSession}
    (hpacket : wholePacket node env st src data = some packet)
    (hoffer : offered node env st src packet = some session) :
    Settles node env.now st session (handleDatagram node env st src data) := by
  have hfed : offered node env (afterFeed node env st src data) src packet = some session := hoffer
  have hsettles := settles_handlePacket hfed
  rw [handleDatagram_of_wholePacket hpacket]
  unfold Settles at hsettles ⊢
  change if acceptsSession node session st.peers = true then _ else _ at hsettles
  split
  · rename_i haccept
    rw [if_pos haccept] at hsettles
    exact hsettles.congr rfl rfl
  · rename_i haccept
    rw [if_neg haccept] at hsettles
    exact ⟨hsettles.kept, hsettles.bound, hsettles.silent⟩

end Datagrams

/-! ## Events and runs -/

/-- The calls of the threads of a node.  `resolve` is the answer of the name
service. -/
inductive Event where
  | datagram (env : Env) (src : SocketAddr) (data : ByteString)
  | cleanup (now : Instant)
  | maintenance (env : Env)
  | punch (env : Env) (resolve : String → Option SocketAddr)
  | tunPacket (env : Env) (overlayNetworks : List IpNetwork) (ipPacket : ByteString)
  | shutdown (env : Env)

section Runs

variable {lib : Primitives} (node : Node lib)

def step (st : NodeState) : Event → NodeState × List Effect
  | .datagram env src data => handleDatagram node env st src data
  | .cleanup now => ({ st with assembler := st.assembler.cleanup now }, [])
  | .maintenance env => maintenanceTick node env st
  | .punch env resolve => connectLighthouses node env resolve st
  | .tunPacket env overlayNetworks ipPacket => sendToOverlay node env st overlayNetworks ipPacket
  | .shutdown env => notifyShutdown node env st

def offeredBy (st : NodeState) : Event → Option NewSession
  | .datagram env src data => (wholePacket node env st src data).bind (offered node env st src)
  | _ => none

def installedBy (st : NodeState) (event : Event) : Option NewSession :=
  (offeredBy node st event).filter fun session => acceptsSession node session st.peers

theorem offeredBy_of_installedBy {st : NodeState} {event : Event} {session : NewSession}
    (h : installedBy node st event = some session) :
    offeredBy node st event = some session ∧ acceptsSession node session st.peers = true :=
  Option.filter_eq_some_iff.mp h

theorem installedBy_of_offeredBy {st : NodeState} {event : Event} {session : NewSession}
    (hoffer : offeredBy node st event = some session)
    (haccept : acceptsSession node session st.peers = true) :
    installedBy node st event = some session :=
  Option.filter_eq_some_iff.mpr ⟨hoffer, haccept⟩

/-- What an event can do.  The assembler aside, the state in which a packet is
handled is the one before the event. -/
inductive Outcome (st : NodeState) : Event → NodeState × List Effect → Prop
  | routine {event : Event} {out : NodeState × List Effect} (h : Routine st out) :
      Outcome st event out
  | installs {env : Env} {src : SocketAddr} {data packet : ByteString} {session : NewSession}
      {out : NodeState × List Effect} (hpacket : wholePacket node env st src data = some packet)
      (hoffer : offered node env st src packet = some session) (h : Installs node env.now st session out) :
      Outcome st (.datagram env src data) out
  | accepts {env : Env} {src : SocketAddr} {data packet : ByteString} {peerId : UInt32}
      {peer : PeerState} {header : NetworkHeader} {body : PacketBody}
      (hpacket : wholePacket node env st src data = some packet)
      (h : Accepts node st packet peerId peer header body) :
      Outcome st (.datagram env src data)
        (let after := afterAccept env (afterFeed node env st src data) src peerId peer body
        ((handleBody node env after src peerId body).1,
          .accepted peerId (packetSeq body) :: (handleBody node env after src peerId body).2))

theorem outcome_handleDatagram (env : Env) (st : NodeState) (src : SocketAddr)
    (data : ByteString) :
    Outcome node st (.datagram env src data) (handleDatagram node env st src data) := by
  cases hpacket : wholePacket node env st src data with
  | none => exact .routine (routine_of_wholePacket_none hpacket)
  | some packet =>
      cases hoffer : offered node env st src packet with
      | some session =>
          have hsettles := settles_handleDatagram hpacket hoffer
          unfold Settles at hsettles
          split at hsettles
          · exact .installs hpacket hoffer hsettles
          · exact .routine hsettles
      | none =>
          have hfed : offered node env (afterFeed node env st src data) src packet = none := hoffer
          rw [handleDatagram_of_wholePacket hpacket]
          obtain h | ⟨peerId, peer, header, body, haccepts, h⟩ := handlePacket_of_not_offered hfed
          · exact .routine ⟨h.kept, h.bound, h.silent⟩
          · rw [h]
            exact .accepts hpacket
              ⟨haccepts.session, haccepts.live, haccepts.decrypted, haccepts.fresh⟩

theorem outcome_step (st : NodeState) (event : Event) :
    Outcome node st event (step node st event) := by
  cases event with
  | datagram env src data => exact outcome_handleDatagram node env st src data
  | cleanup now => exact .routine (Routine.ofFrame rfl rfl (by simp))
  | maintenance env => exact .routine (routine_maintenanceTick node env st)
  | punch env resolve => exact .routine (routine_connectLighthouses node env resolve st)
  | tunPacket env overlayNetworks ipPacket =>
      exact .routine (routine_sendToOverlay node env st overlayNetworks ipPacket)
  | shutdown env => exact .routine (routine_notifyShutdown node env st)

/-- A state together with all that happened on the way to it. -/
structure Record where
  state : NodeState
  trace : List Effect

def Record.step (record : Record) (event : Event) : Record :=
  let (st, effects) := Daemon.step node record.state event
  ⟨st, record.trace ++ effects⟩

def run (lighthouses : List LighthouseSlot) (events : List Event) : Record :=
  runAll (Record.step node) ⟨NodeState.initial lighthouses, []⟩ events

theorem state_run_snoc (lighthouses : List LighthouseSlot) (events : List Event) (event : Event) :
    (run node lighthouses (events ++ [event])).state =
      (step node (run node lighthouses events).state event).1 := by
  unfold run
  rw [runAll_append]
  rfl

/-- The numbers accepted from a peer since its session was installed, the last
one first. -/
def sessionLog (peerId : UInt32) (trace : List Effect) : List UInt64 :=
  trace.foldl (fun log effect =>
    match effect with
    | .installed id _ _ => if id = peerId then [] else log
    | .accepted id seq => if id = peerId then seq :: log else log
    | _ => log) []

/-- Neither of the two marks. -/
def Effect.Unmarked : Effect → Prop
  | .installed .. => False
  | .accepted .. => False
  | _ => True

theorem Effect.Silent.unmarked {effect : Effect} (h : effect.Silent) : effect.Unmarked := by
  cases effect with
  | installed id addr relayed => exact h
  | accepted id seq => exact h
  | _ => trivial

theorem foldl_unmarked {α : Type} {f : α → Effect → α}
    (hf : ∀ acc effect, effect.Unmarked → f acc effect = acc) {effects : List Effect}
    (h : ∀ effect ∈ effects, effect.Unmarked) (acc : α) : effects.foldl f acc = acc := by
  induction effects with
  | nil => rfl
  | cons effect effects ih =>
      rw [List.foldl_cons, hf acc effect (h effect List.mem_cons_self)]
      exact ih fun other hother => h other (List.mem_cons_of_mem effect hother)

theorem unmarked_handleData {node : Node lib} {st : NodeState} {peerId : UInt32}
    {ipPacket : ByteString} : ∀ effect ∈ handleData node st peerId ipPacket, effect.Unmarked := by
  intro effect heffect
  obtain ⟨rfl, -⟩ := mem_handleData_iff.mp heffect
  trivial

theorem sessionLog_append (peerId : UInt32) (trace : List Effect) {effects : List Effect}
    (h : ∀ effect ∈ effects, effect.Unmarked) :
    sessionLog peerId (trace ++ effects) = sessionLog peerId trace := by
  unfold sessionLog
  rw [List.foldl_append]
  refine foldl_unmarked (fun log effect hunmarked => ?_) h _
  cases effect with
  | installed id addr relayed => exact hunmarked.elim
  | accepted id seq => exact hunmarked.elim
  | _ => rfl

theorem sessionLog_installed (peerId id : UInt32) (trace : List Effect) (addr : SocketAddr)
    (relayed : Bool) :
    sessionLog peerId (trace ++ [.installed id addr relayed]) =
      if id = peerId then [] else sessionLog peerId trace := by
  simp [sessionLog]

theorem sessionLog_accepted (peerId id : UInt32) (trace : List Effect) (seq : UInt64) :
    sessionLog peerId (trace ++ [.accepted id seq]) =
      if id = peerId then seq :: sessionLog peerId trace else sessionLog peerId trace := by
  simp [sessionLog]

end Runs

end Liteway.Daemon
