import Liteway.Daemon.SessionMoves

/-!
# Two ends of a session

Two nodes hold a session through a relay.  Each of them runs as it does in any other
setting; what they send to each other may be lost, delayed, repeated and reordered.
-/

namespace Liteway.Daemon

open Liteway.Library Liteway.Core

inductive End where
  | first
  | second
deriving DecidableEq

def End.other : End → End
  | .first => .second
  | .second => .first

@[simp] theorem End.other_other (e : End) : e.other.other = e := by
  cases e <;> rfl

/-- Two nodes, where each of them is, and where the relay between them is. -/
structure Link (lib : Primitives) where
  node : End → Node lib
  endpoint : End → SocketAddr
  relay : SocketAddr

/-- Both nodes, what each has sent to the other, and whether it took in a packet
that came on the direct path. -/
structure LinkState where
  st : End → NodeState
  sent : End → List Mail
  direct : End → Bool

/-- A node acts on its own or on what others send; it sends a packet to where the
session is; it gets what the other end has sent. -/
inductive LinkEvent where
  | act (e : End) (event : Event)
  | send (e : End) (draw : Draw) (body : UInt64 → PacketBody)
  | deliver (e : End) (env : Env) (mail : Mail)

namespace Link

variable {lib : Primitives} (link : Link lib)

def peerId (e : End) : UInt32 := (link.node e.other).ourId

/-- Where a datagram of the other end comes from when it gets here.  The relay passes
on what is sent to it. -/
def source (e : End) (mail : Mail) : Option SocketAddr :=
  if mail.addr = link.endpoint e then some (link.endpoint e.other)
  else if mail.addr = link.relay then some link.relay
  else none

def keepalives (e : End) (st : NodeState) : Event → List Mail
  | .maintenance env =>
      match st.peers.lookup (link.peerId e) with
      | none => []
      | some peer =>
          (maintainPeer (link.node e) ((env.part 1).forPeer (link.peerId e)) (link.peerId e)
            peer).2.1.filterMap Action.mail
  | _ => []

def answers (e : End) (env : Env) (st : NodeState) (src : SocketAddr) (wire : ByteString) :
    List Mail :=
  if takesPacket (link.node e) st (link.peerId e) (.datagram env src wire) then
    (Daemon.step (link.node e) st (.datagram env src wire)).2.filterMap (Effect.mailTo src)
  else []

def step (s : LinkState) : LinkEvent → LinkState
  | .act e event =>
      { s with
        st := Function.update s.st e (Daemon.step (link.node e) (s.st e) event).1
        sent := Function.update s.sent e (s.sent e ++ link.keepalives e (s.st e) event) }
  | .send e draw body =>
      match peerTx (s.st e) (link.peerId e) with
      | none => s
      | some (tx, st) =>
          { s with
            st := Function.update s.st e st
            sent := Function.update s.sent e (s.sent e ++
              [⟨tx.addr, serializePacket (encryptPacket lib draw.sealing draw.padding
                (link.peerId e) tx.sessionId (link.node e).networkKey tx.key (body tx.seq))⟩]) }
  | .deliver e env mail =>
      match link.source e mail with
      | none => s
      | some src =>
          { st := Function.update s.st e
              (Daemon.step (link.node e) (s.st e) (.datagram env src mail.wire)).1
            sent := Function.update s.sent e (s.sent e ++ link.answers e env (s.st e) src mail.wire)
            direct := Function.update s.direct e (s.direct e ||
              takesPacket (link.node e) (s.st e) (link.peerId e) (.datagram env src mail.wire) &&
                src = link.endpoint e.other) }

/-- The relay is a live relay peer of this end, at its own address. -/
def RelayLive (s : LinkState) (e : End) : Prop :=
  ∃ id peer, id ≠ link.peerId e ∧ (s.st e).peers.lookup id = some peer ∧ peer.isRelay = true ∧
    peer.addr = link.relay

/-- No handshake with the other end takes place. -/
def NoHandshake (s : LinkState) (e : End) (event : Event) : Prop :=
  ∀ session, offeredBy (link.node e) (s.st e) event = some session → session.id ≠ link.peerId e

/-- What the two ends send each other arrives as their mail and in no other way. -/
def Allowed (s : LinkState) : LinkEvent → Prop
  | .act e event => link.NoHandshake s e event ∧
      takesPacket (link.node e) (s.st e) (link.peerId e) event = false
  | .send _ _ _ => True
  | .deliver e env mail => mail ∈ s.sent e.other ∧
      ∀ src, link.source e mail = some src → link.NoHandshake s e (.datagram env src mail.wire)

/-- An allowed event while both ends keep the relay. -/
def Guard (s : LinkState) (event : LinkEvent) : Prop :=
  (∀ e, link.RelayLive s e) ∧ link.Allowed s event

/-- Both ends hold the session through the relay, under the keys `key`, and nothing
has been sent under them. -/
structure Opens (key : End → SessionKey) (s : LinkState) : Prop where
  network : (link.node .first).networkKey = (link.node .second).networkKey
  relay : ∀ e, link.endpoint e ≠ link.relay
  session : ∀ e, ∃ peer, (s.st e).peers.lookup (link.peerId e) = some peer ∧
    peer.relayed = true ∧ peer.addr = link.relay ∧ peer.txKey = key e ∧ peer.rxKey = key e.other
  sent : ∀ e, s.sent e = []
  direct : ∀ e, s.direct e = false

/-! ## What is known at each end -/

/-- An end that has taken in nothing on the direct path keeps to the relay, and has
sent nothing but keepalives to the endpoint of the other. -/
structure Cautious (key : End → SessionKey) (e : End) (st : NodeState) (sent : List Mail)
    (direct : Bool) : Prop where
  keys : ∀ peer, st.peers.lookup (link.peerId e) = some peer →
    peer.txKey = key e ∧ peer.rxKey = key e.other
  addr : ∀ peer, st.peers.lookup (link.peerId e) = some peer →
    peer.addr = link.relay ∨ direct = true
  mail : ∀ mail ∈ sent, mail.addr = link.endpoint e.other →
    IsKeepalive (link.node e) (link.peerId e) (key e) mail.wire ∨ direct = true

variable {link} {key : End → SessionKey} {s : LinkState} {e : End} {st st' : NodeState}
  {sent : List Mail} {direct : Bool}

theorem Opens.cautious (h : link.Opens key s) (e : End) :
    link.Cautious key e (s.st e) (s.sent e) (s.direct e) where
  keys := by
    intro peer hpeer
    obtain ⟨found, hfound, -, -, htx, hrx⟩ := h.session e
    cases hpeer.symm.trans hfound
    exact ⟨htx, hrx⟩
  addr := by
    intro peer hpeer
    obtain ⟨found, hfound, -, haddr, -, -⟩ := h.session e
    cases hpeer.symm.trans hfound
    exact Or.inl haddr
  mail := by
    intro mail hmail
    rw [h.sent e] at hmail
    contradiction

theorem Cautious.keep (h : link.Cautious key e st sent direct)
    (hkept : ∀ after, st'.peers.lookup (link.peerId e) = some after →
      ∃ before, st.peers.lookup (link.peerId e) = some before ∧ SameLink before after ∧
        (after.addr = before.addr ∨ after.addr = link.relay))
    {more : List Mail} (hmore : ∀ mail ∈ more, mail.addr = link.endpoint e.other →
      IsKeepalive (link.node e) (link.peerId e) (key e) mail.wire ∨ direct = true) :
    link.Cautious key e st' (sent ++ more) direct where
  keys := by
    intro after hafter
    obtain ⟨before, hbefore, hlink, -⟩ := hkept after hafter
    rw [hlink.txKey, hlink.rxKey]
    exact h.keys before hbefore
  addr := by
    intro after hafter
    obtain ⟨before, hbefore, -, haddr | haddr⟩ := hkept after hafter
    · rw [haddr]
      exact h.addr before hbefore
    · exact Or.inl haddr
  mail := by
    intro mail hmail
    obtain hold | hnew := List.mem_append.mp hmail
    · exact h.mail mail hold
    · exact hmore mail hnew

theorem Cautious.arrived (h : link.Cautious key e st sent direct)
    (hkeys : ∀ after, st'.peers.lookup (link.peerId e) = some after →
      ∃ before, st.peers.lookup (link.peerId e) = some before ∧ SameLink before after)
    (sent' : List Mail) : link.Cautious key e st' sent' true where
  keys := by
    intro after hafter
    obtain ⟨before, hbefore, hlink⟩ := hkeys after hafter
    rw [hlink.txKey, hlink.rxKey]
    exact h.keys before hbefore
  addr := fun _ _ => Or.inr rfl
  mail := fun _ _ _ => Or.inr rfl

theorem networkKey_eq (hnetwork : (link.node .first).networkKey = (link.node .second).networkKey)
    (e : End) : (link.node e.other).networkKey = (link.node e).networkKey := by
  cases e with
  | first => exact hnetwork.symm
  | second => exact hnetwork

theorem source_eq_some {e : End} {mail : Mail} {src : SocketAddr}
    (h : link.source e mail = some src) :
    (mail.addr = link.endpoint e ∧ src = link.endpoint e.other) ∨ src = link.relay := by
  unfold source at h
  split at h
  · rename_i haddr
    exact Or.inl ⟨haddr, (Option.some.inj h).symm⟩
  split at h
  · exact Or.inr (Option.some.inj h).symm
  · contradiction

theorem Cautious.act (h : link.Cautious key e st sent direct) {event : Event}
    (hoffer : ∀ session, offeredBy (link.node e) st event = some session →
      session.id ≠ link.peerId e)
    (htakes : takesPacket (link.node e) st (link.peerId e) event = false) :
    link.Cautious key e (Daemon.step (link.node e) st event).1
      (sent ++ link.keepalives e st event) direct := by
  refine h.keep (fun after hafter => ?_) (fun mail hmail _ => Or.inl ?_)
  · obtain ⟨before, hbefore, hend | ⟨env, src, data, packet, header, body, rfl, hpacket, hheader,
      haccepts, -⟩⟩ := end_step hoffer hafter
    · exact ⟨before, hbefore, hend.link, Or.inl hend.addr⟩
    · simp [takesPacket, takenFrom_of_accepts hpacket hheader haccepts] at htakes
  · unfold keepalives at hmail
    split at hmail
    · split at hmail
      · contradiction
      · rename_i env _ peer hpeer
        obtain ⟨action, haction, hsend⟩ := List.mem_filterMap.mp hmail
        cases action with
        | lookup ip => contradiction
        | send addr wire =>
            cases Option.some.inj hsend
            rw [← (h.keys peer hpeer).1]
            exact isKeepalive_of_maintainPeer haction
    · contradiction

theorem Cautious.send (h : link.Cautious key e st sent direct)
    (hrelay : link.endpoint e.other ≠ link.relay) {tx : PeerTx}
    (htx : peerTx st (link.peerId e) = some (tx, st')) (wire : ByteString) :
    link.Cautious key e st' (sent ++ [⟨tx.addr, wire⟩]) direct := by
  refine h.keep (fun after hafter => ?_) (fun mail hmail haddr => Or.inr ?_)
  · obtain ⟨-, before, hbefore, hend⟩ := (retains_peerTx htx).ends.only _ after hafter
    exact ⟨before, hbefore, hend.link, Or.inl hend.addr⟩
  · cases List.mem_singleton.mp hmail
    unfold peerTx at htx
    split at htx
    · contradiction
    · rename_i peer hpeer
      cases Option.some.inj htx
      obtain hrelayed | hdirect := h.addr peer hpeer
      · exact absurd (haddr.symm.trans hrelayed) hrelay
      · exact hdirect

theorem addr_of_mem_answers {env : Env} {src : SocketAddr} {wire : ByteString} {mail : Mail}
    (h : mail ∈ link.answers e env st src wire) : mail.addr = src := by
  unfold answers at h
  split at h
  · obtain ⟨effect, -, hmail⟩ := List.mem_filterMap.mp h
    unfold Effect.mailTo at hmail
    split at hmail
    · split at hmail
      · rename_i haddr
        cases Option.some.inj hmail
        exact haddr
      · contradiction
    · contradiction
  · contradiction

theorem Cautious.deliver (h : link.Cautious key e st sent direct)
    (hrelay : link.endpoint e.other ≠ link.relay) {env : Env} {src : SocketAddr} {wire : ByteString}
    (hsource : src = link.endpoint e.other ∨ src = link.relay)
    (hoffer : ∀ session, offeredBy (link.node e) st (.datagram env src wire) = some session →
      session.id ≠ link.peerId e) :
    link.Cautious key e (Daemon.step (link.node e) st (.datagram env src wire)).1
      (sent ++ link.answers e env st src wire)
      (direct || takesPacket (link.node e) st (link.peerId e) (.datagram env src wire) &&
        src = link.endpoint e.other) := by
  cases htakes : takesPacket (link.node e) st (link.peerId e) (.datagram env src wire) with
  | false =>
      have hnone : link.answers e env st src wire = link.keepalives e st (.datagram env src wire) := by
        unfold answers
        rw [htakes]
        rfl
      rw [hnone, Bool.false_and, Bool.or_false]
      exact h.act hoffer htakes
  | true =>
      by_cases hdirect : src = link.endpoint e.other
      · subst hdirect
        simp only [decide_true, Bool.and_self, Bool.or_true]
        refine h.arrived (fun after hafter => ?_) _
        obtain ⟨before, hbefore, hsame | ⟨_, _, _, _, _, _, -, -, -, -, hsame⟩⟩ :=
          end_step hoffer hafter
        · exact ⟨before, hbefore, hsame.link⟩
        · exact ⟨before, hbefore, (SameLink.receive _ _ _ _ _ _).trans hsame.link⟩
      · obtain rfl : src = link.relay := hsource.resolve_left hdirect
        simp only [hdirect, decide_false, Bool.and_false, Bool.or_false]
        refine h.keep (fun after hafter => ?_) (fun mail hmail haddr => ?_)
        · obtain ⟨before, hbefore, hsame | ⟨_, _, _, _, _, _, hevent, -, -, -, hsame⟩⟩ :=
            end_step hoffer hafter
          · exact ⟨before, hbefore, hsame.link, Or.inl hsame.addr⟩
          · cases hevent
            refine ⟨before, hbefore, (SameLink.receive _ _ _ _ _ _).trans hsame.link, ?_⟩
            rw [hsame.addr]
            exact PeerState.addr_receive _ _ _ _ _ _
        · exact absurd (haddr.symm.trans (addr_of_mem_answers hmail)) hrelay

theorem cautious_step (hrelay : ∀ e, link.endpoint e ≠ link.relay)
    (h : ∀ e, link.Cautious key e (s.st e) (s.sent e) (s.direct e)) {event : LinkEvent}
    (hallowed : link.Allowed s event) (e : End) :
    link.Cautious key e ((link.step s event).st e) ((link.step s event).sent e)
      ((link.step s event).direct e) := by
  cases event with
  | act acting event =>
      by_cases he : e = acting
      · subst he
        simp only [step, Function.update_self]
        exact (h e).act hallowed.1 hallowed.2
      · simp only [step, Function.update_of_ne he]
        exact h e
  | send sending draw body =>
      cases htx : peerTx (s.st sending) (link.peerId sending) with
      | none =>
          simp only [step, htx]
          exact h e
      | some out =>
          obtain ⟨tx, st⟩ := out
          simp only [step, htx]
          by_cases he : e = sending
          · subst he
            simp only [Function.update_self]
            exact (h e).send (hrelay e.other) htx _
          · simp only [Function.update_of_ne he]
            exact h e
  | deliver receiving env mail =>
      cases hsource : link.source receiving mail with
      | none =>
          simp only [step, hsource]
          exact h e
      | some src =>
          simp only [step, hsource]
          by_cases he : e = receiving
          · subst he
            simp only [Function.update_self]
            exact (h e).deliver (hrelay e.other) ((source_eq_some hsource).imp_left And.right)
              (hallowed.2 src hsource)
          · simp only [Function.update_of_ne he]
            exact h e

theorem RelayLive.srcIsRelay (h : link.RelayLive s e) {peer : PeerState}
    (haddr : peer.addr ≠ link.relay) :
    srcIsRelay (s.st e) (link.peerId e) peer link.relay = true := by
  obtain ⟨id, relay, hid, hrelay, hflag, hat⟩ := h
  unfold Daemon.srcIsRelay
  rw [Bool.and_eq_true]
  refine ⟨decide_eq_true haddr, AssocMap.any_eq_true_iff.mpr ⟨id, relay, hrelay, ?_⟩⟩
  simp [hid, hflag, hat]

/-- The packet with which an end leaves the relay came on the direct path, and the
other end had taken in one on it before. -/
theorem Cautious.leaves_relay (hlib : lib.Correct)
    (hnetwork : (link.node .first).networkKey = (link.node .second).networkKey)
    (h : ∀ e, link.Cautious key e (s.st e) (s.sent e) (s.direct e)) (hlive : link.RelayLive s e)
    {env : Env} {mail : Mail} {src : SocketAddr} (hmail : mail ∈ s.sent e.other)
    (hsource : link.source e mail = some src)
    (hoffer : link.NoHandshake s e (.datagram env src mail.wire)) {before after : PeerState}
    (hbefore : (s.st e).peers.lookup (link.peerId e) = some before)
    (hrelayed : before.relayed = true)
    (hafter : (Daemon.step (link.node e) (s.st e) (.datagram env src mail.wire)).1.peers.lookup
      (link.peerId e) = some after)
    (hleft : after.relayed = false) :
    src = link.endpoint e.other ∧
      takesPacket (link.node e) (s.st e) (link.peerId e) (.datagram env src mail.wire) = true ∧
      s.direct e.other = true := by
  obtain ⟨peer, hpeer, hsame | ⟨_, _, _, packet, header, body, hevent, hpacket, hheader, haccepts,
    hsame⟩⟩ := end_step hoffer hafter
  · cases hbefore.symm.trans hpeer
    rw [hsame.relayed, hrelayed] at hleft
    contradiction
  cases hevent
  cases hbefore.symm.trans hpeer
  rw [hsame.relayed] at hleft
  obtain ⟨haddr, hviaRelay, hbody⟩ := PeerState.relayed_receive hrelayed hleft
  have htakes : takesPacket (link.node e) (s.st e) (link.peerId e)
      (.datagram env src mail.wire) = true := by
    simp [takesPacket, takenFrom_of_accepts hpacket hheader haccepts]
  obtain ⟨hto, hfrom⟩ | hrelay := source_eq_some hsource
  · refine ⟨hfrom, htakes, ?_⟩
    obtain hpunch | hdirect := (h e.other).mail mail hmail (by rw [End.other_other]; exact hto)
    -- a keepalive would not have moved the session
    · have hkey : before.rxKey = key e.other := ((h e).keys before hbefore).2
      have hself : link.peerId e.other = (link.node e).ourId := by
        unfold peerId
        rw [End.other_other]
      rw [← hkey, hself] at hpunch
      have hkeepalive := isKeepalive_of_accepts hlib (networkKey_eq hnetwork e).symm hpunch hpacket
        haccepts
      rw [hbody] at hkeepalive
      contradiction
    · exact hdirect
  · subst hrelay
    rw [hlive.srcIsRelay haddr] at hviaRelay
    contradiction

end Link

end Liteway.Daemon
