import Liteway.Daemon.Node
import Liteway.Library.Runs

/-!
# Calls on a session

What happens to a session between its handshake and its end, as a sequence of calls
on its state.  Each call is described by the fields it leaves alone.
-/

namespace Liteway.Daemon

open Liteway.Library Liteway.Core

/-- A tick, a request for a path probe, an accepted packet, an accepted keepalive
ack, or a direct endpoint that somebody else tells about. -/
inductive SessionCall where
  | tick (now : Instant) (token : UInt64)
  | probe (now : Instant) (token : UInt64)
  | seen (now : Instant) (src : SocketAddr) (viaRelay isKeepalive : Bool)
  | ack (now : Instant) (src : SocketAddr) (viaRelay : Bool) (token : UInt64)
  | learned (now : Instant) (addr : SocketAddr)

def SessionCall.now : SessionCall → Instant
  | .tick now _ => now
  | .probe now _ => now
  | .seen now _ _ _ => now
  | .ack now _ _ _ => now
  | .learned now _ => now

namespace PeerState

/-- An ack is a packet from the peer before it is matched. -/
def afterCall (timings : Timings) (peer : PeerState) : SessionCall → PeerState
  | .tick now token => (peer.tick now timings token).2
  | .probe now token => (peer.takePathProbe now timings token).2
  | .seen now src viaRelay isKeepalive => (peer.markSeen src now viaRelay isKeepalive).2
  | .ack now src viaRelay token =>
      ((peer.markSeen src now viaRelay false).2.ackKeepalive token now).2
  | .learned _ addr => learnDirectAddr addr peer

theorem afterCall_tick (timings : Timings) (peer : PeerState) (now : Instant) (token : UInt64) :
    peer.afterCall timings (.tick now token) = (peer.tick now timings token).2 := rfl

/-! ## The keepalive timers -/

@[simp] theorem markSeen_keepalive (peer : PeerState) (src : SocketAddr) (now : Instant)
    (viaRelay isKeepalive : Bool) :
    (peer.markSeen src now viaRelay isKeepalive).2.keepalive = peer.keepalive := by
  unfold markSeen
  simp only
  repeat' split
  all_goals rfl

@[simp] theorem markSeen_lastAck (peer : PeerState) (src : SocketAddr) (now : Instant)
    (viaRelay isKeepalive : Bool) :
    (peer.markSeen src now viaRelay isKeepalive).2.lastAck = peer.lastAck := by
  unfold markSeen
  simp only
  repeat' split
  all_goals rfl

@[simp] theorem markSeen_lastSeen (peer : PeerState) (src : SocketAddr) (now : Instant)
    (viaRelay isKeepalive : Bool) :
    (peer.markSeen src now viaRelay isKeepalive).2.lastSeen = now := by
  unfold markSeen
  simp only
  repeat' split
  all_goals rfl

/-- What the keepalives of a session are timed by. -/
structure SameTimers (before after : PeerState) : Prop where
  keepalive : after.keepalive = before.keepalive
  lastAck : after.lastAck = before.lastAck
  lastSeen : after.lastSeen = before.lastSeen

theorem sameTimers_takePathProbe (peer : PeerState) (now : Instant) (timings : Timings)
    (token : UInt64) : SameTimers peer (peer.takePathProbe now timings token).2 := by
  unfold takePathProbe
  simp only
  repeat' split
  all_goals exact ⟨rfl, rfl, rfl⟩

theorem sameTimers_learnDirectAddr (addr : SocketAddr) (peer : PeerState) :
    SameTimers peer (learnDirectAddr addr peer) := by
  unfold learnDirectAddr
  split
  all_goals exact ⟨rfl, rfl, rfl⟩

theorem ackKeepalive_eq_unknown_iff {peer : PeerState} {token : UInt64} {now : Instant} :
    (peer.ackKeepalive token now).1 = .unknown ↔
      (∀ pending, peer.keepalive = some pending → pending.token ≠ token) ∧
        peer.probeToken ≠ some token := by
  unfold ackKeepalive
  cases hkeepalive : peer.keepalive with
  | none => by_cases hprobe : peer.probeToken = some token <;> simp [hprobe]
  | some pending =>
      by_cases htoken : pending.token = token
      · simp [htoken]
      · by_cases hprobe : peer.probeToken = some token <;> simp [htoken, hprobe]

theorem ackKeepalive_of_unknown {peer : PeerState} {token : UInt64} {now : Instant}
    (h : (peer.ackKeepalive token now).1 = .unknown) : (peer.ackKeepalive token now).2 = peer := by
  unfold ackKeepalive at h ⊢
  split at h
  · contradiction
  split at h
  · contradiction
  · rename_i hkeepalive hprobe
    rw [if_neg hkeepalive, if_neg hprobe]

theorem ackKeepalive_of_pending {peer : PeerState} {pending : KeepalivePending}
    (h : peer.keepalive = some pending) (now : Instant) :
    peer.ackKeepalive pending.token now =
      (.keepalive, { peer with keepalive := none, lastAck := now }) := by
  unfold ackKeepalive
  rw [if_pos]
  simp [h]

theorem ackKeepalive_lastSeen (peer : PeerState) (token : UInt64) (now : Instant) :
    (peer.ackKeepalive token now).2.lastSeen = peer.lastSeen := by
  unfold ackKeepalive
  repeat' split
  all_goals rfl

theorem ackKeepalive_timers (peer : PeerState) (token : UInt64) (now : Instant) :
    ((peer.ackKeepalive token now).2.keepalive = peer.keepalive ∨
      (peer.ackKeepalive token now).2.keepalive = none ∧
        (peer.ackKeepalive token now).2.lastAck = now) ∧
      ((peer.ackKeepalive token now).2.lastAck = peer.lastAck ∨
        (peer.ackKeepalive token now).2.lastAck = now) := by
  unfold ackKeepalive
  split
  · exact ⟨Or.inr ⟨rfl, rfl⟩, Or.inr rfl⟩
  split
  · exact ⟨Or.inl rfl, Or.inr rfl⟩
  · exact ⟨Or.inl rfl, Or.inl rfl⟩

/-! ## What a tick returns -/

section Ticks

variable {peer : PeerState} {timings : Timings} {now : Instant}

theorem tick_expired (hnone : peer.keepalive = none)
    (h : now.durationSince peer.lastSeen ≥ timings.peerExpiry) (token : UInt64) :
    peer.tick now timings token = (.drop .expired, peer) := by
  unfold tick
  simp only [hnone]
  rw [if_pos h]

theorem tick_due (hnone : peer.keepalive = none)
    (hseen : ¬ now.durationSince peer.lastSeen ≥ timings.peerExpiry)
    (h : now.durationSince peer.lastAck ≥ timings.keepaliveInterval) (token : UInt64) :
    peer.tick now timings token =
      (.keepalive token, { peer with keepalive := some ⟨token, now, now⟩ }) := by
  unfold tick
  simp only [hnone]
  rw [if_neg hseen, if_pos h]

theorem tick_early (hnone : peer.keepalive = none)
    (hseen : ¬ now.durationSince peer.lastSeen ≥ timings.peerExpiry)
    (h : ¬ now.durationSince peer.lastAck ≥ timings.keepaliveInterval) (token : UInt64) :
    peer.tick now timings token = (.idle, peer) := by
  unfold tick
  simp only [hnone]
  rw [if_neg hseen, if_neg h]

variable {pending : KeepalivePending}

theorem tick_overdue (hpending : peer.keepalive = some pending)
    (h : now.durationSince pending.firstSentAt ≥ timings.keepaliveTimeout) (token : UInt64) :
    peer.tick now timings token = (.drop .keepaliveTimeout, peer) := by
  unfold tick
  simp only [hpending]
  rw [if_pos h]

theorem tick_repeat (hpending : peer.keepalive = some pending)
    (htime : ¬ now.durationSince pending.firstSentAt ≥ timings.keepaliveTimeout)
    (h : now.durationSince pending.lastSentAt ≥ min timings.keepaliveInterval keepaliveRetryMax)
    (token : UInt64) :
    peer.tick now timings token =
      (.keepalive pending.token,
        { peer with keepalive := some { pending with lastSentAt := now } }) := by
  unfold tick
  simp only [hpending]
  rw [if_neg htime, if_pos h]

theorem tick_wait (hpending : peer.keepalive = some pending)
    (htime : ¬ now.durationSince pending.firstSentAt ≥ timings.keepaliveTimeout)
    (h : ¬ now.durationSince pending.lastSentAt ≥ min timings.keepaliveInterval keepaliveRetryMax)
    (token : UInt64) : peer.tick now timings token = (.idle, peer) := by
  unfold tick
  simp only [hpending]
  rw [if_neg htime, if_neg h]

end Ticks

theorem tick_of_drop {peer : PeerState} {timings : Timings} {now : Instant} {token : UInt64}
    {reason : DropReason} (h : (peer.tick now timings token).1 = .drop reason) :
    (peer.tick now timings token).2 = peer := by
  unfold tick at h ⊢
  cases hpending : peer.keepalive with
  | some pending =>
      simp only [hpending] at h ⊢
      split at h
      · rename_i htime
        rw [if_pos htime]
      · split at h <;> contradiction
  | none =>
      simp only [hpending] at h ⊢
      split at h
      · rename_i hseen
        rw [if_pos hseen]
      · split at h <;> contradiction

end PeerState

end Liteway.Daemon
