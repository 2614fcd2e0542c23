import Liteway.Daemon.RelayFallback
import Liteway.Daemon.SessionCalls

/-!
# Keepalives

A session whose own packets do not arrive any more is found out, whatever arrives
from the other side.  A session that answers every keepalive is kept, as long as the
next one is due before the session counts as expired.
-/

namespace Liteway.Daemon

open Liteway.Library Liteway.Core

/-! ## A dead sending direction -/

/-- The call is no ack, or one that answers nothing. -/
def Unmatched (peer : PeerState) (call : SessionCall) : Prop :=
  ∀ now src viaRelay token, call = .ack now src viaRelay token →
    ((peer.markSeen src now viaRelay false).2.ackKeepalive token now).1 = .unknown

def PeerTick.isKeepalive : PeerTick → Bool
  | .keepalive _ => true
  | _ => false

def sentAt (timings : Timings) (peer : PeerState) : SessionCall → Option Instant
  | .tick now token => if (peer.tick now timings token).1.isKeepalive then some now else none
  | _ => none

def sends (timings : Timings) : PeerState → List SessionCall → List Instant
  | _, [] => []
  | peer, call :: calls =>
      (sentAt timings peer call).toList ++ sends timings (peer.afterCall timings call) calls

theorem sentAt_tick {timings : Timings} {peer next : PeerState} {now : Instant} {token : UInt64}
    {outcome : PeerTick} (h : peer.tick now timings token = (outcome, next)) :
    sentAt timings peer (.tick now token) = if outcome.isKeepalive then some now else none := by
  unfold sentAt
  simp only [h]

section Unmatched

variable {timings : Timings} {peer : PeerState} {call : SessionCall}

theorem afterCall_of_unmatched (h : Unmatched peer call)
    (htick : ∀ now token, call ≠ .tick now token) :
    (peer.afterCall timings call).keepalive = peer.keepalive ∧
      (peer.afterCall timings call).lastAck = peer.lastAck ∧ sentAt timings peer call = none := by
  cases call with
  | tick now token => exact absurd rfl (htick now token)
  | probe now token =>
      have hsame := PeerState.sameTimers_takePathProbe peer now timings token
      exact ⟨hsame.keepalive, hsame.lastAck, rfl⟩
  | seen now src viaRelay isKeepalive =>
      exact ⟨PeerState.markSeen_keepalive _ _ _ _ _, PeerState.markSeen_lastAck _ _ _ _ _, rfl⟩
  | ack now src viaRelay token =>
      have hunknown := PeerState.ackKeepalive_of_unknown (h now src viaRelay token rfl)
      unfold PeerState.afterCall
      dsimp only
      rw [hunknown]
      exact ⟨PeerState.markSeen_keepalive _ _ _ _ _, PeerState.markSeen_lastAck _ _ _ _ _, rfl⟩
  | learned now addr =>
      have hsame := PeerState.sameTimers_learnDirectAddr addr peer
      exact ⟨hsame.keepalive, hsame.lastAck, rfl⟩

end Unmatched

/-! ### Before the keepalive is due -/

section Early

variable {timings : Timings} {calls : List SessionCall}

theorem early_run {peer : PeerState} (hnone : peer.keepalive = none)
    (hordered : (peer.lastAck :: calls.map SessionCall.now).Pairwise (· ≤ ·))
    (hunmatched : Guarded (PeerState.afterCall timings) Unmatched peer calls)
    (hearly : ∀ now token, .tick now token ∈ calls →
      now < peer.lastAck + timings.keepaliveInterval) :
    (runAll (PeerState.afterCall timings) peer calls).keepalive = none ∧
      (runAll (PeerState.afterCall timings) peer calls).lastAck = peer.lastAck := by
  induction calls generalizing peer with
  | nil => exact ⟨hnone, rfl⟩
  | cons call calls ih =>
      have hkept : (peer.afterCall timings call).keepalive = none ∧
          (peer.afterCall timings call).lastAck = peer.lastAck := by
        by_cases htick : ∃ now token, call = .tick now token
        · obtain ⟨now, token, rfl⟩ := htick
          have hlt := hearly now token List.mem_cons_self
          have hle : peer.lastAck ≤ now :=
            (List.pairwise_cons.mp hordered).1 now List.mem_cons_self
          have hnot : ¬ now.durationSince peer.lastAck ≥ timings.keepaliveInterval := by
            apply Nat.not_le.mpr
            exact Nat.sub_lt_left_of_lt_add hle hlt
          rw [PeerState.afterCall_tick]
          by_cases hseen : now.durationSince peer.lastSeen ≥ timings.peerExpiry
          · rw [PeerState.tick_expired hnone hseen]
            exact ⟨hnone, rfl⟩
          · rw [PeerState.tick_early hnone hseen hnot]
            exact ⟨hnone, rfl⟩
        · have hsame := @afterCall_of_unmatched timings peer call hunmatched.1
            (fun now token hcall => htick ⟨now, token, hcall⟩)
          exact ⟨hsame.1.trans hnone, hsame.2.1⟩
      rw [runAll_cons, ← hkept.2]
      apply ih hkept.1
      · rw [hkept.2]
        exact hordered.sublist ((List.sublist_cons_self _ _).cons_cons _)
      · exact hunmatched.2
      · intro now token hmem
        rw [hkept.2]
        exact hearly now token (List.mem_cons_of_mem _ hmem)

end Early

/-! ### While the keepalive is outstanding -/

section Outstanding

variable {timings : Timings} {peer : PeerState} {token : UInt64} {first last : Nat}

theorem tick_outstanding (h : peer.keepalive = some ⟨token, first, last⟩) {now : Nat}
    (hle : first ≤ now) (other : UInt64) :
    (now < first + timings.keepaliveTimeout →
      (peer.tick now timings other).1 = .idle ∨
        (peer.tick now timings other).1 = .keepalive token) ∧
    (first + timings.keepaliveTimeout ≤ now →
      (peer.tick now timings other).1 = .drop .keepaliveTimeout) := by
  constructor
  · intro hlt
    have htime : ¬ Instant.durationSince now first ≥ timings.keepaliveTimeout := by
      apply Nat.not_le.mpr
      exact Nat.sub_lt_left_of_lt_add hle hlt
    by_cases hretry : Instant.durationSince now last ≥
        min timings.keepaliveInterval keepaliveRetryMax
    · rw [PeerState.tick_repeat h htime hretry]
      exact Or.inr rfl
    · rw [PeerState.tick_wait h htime hretry]
      exact Or.inl rfl
  · intro hge
    have htime : Instant.durationSince now first ≥ timings.keepaliveTimeout :=
      Nat.le_sub_of_add_le' hge
    rw [PeerState.tick_overdue h htime]

theorem outstanding_step {call : SessionCall} (h : peer.keepalive = some ⟨token, first, last⟩)
    (hunmatched : Unmatched peer call) (hle : last ≤ call.now) :
    ∃ last' : Nat, (peer.afterCall timings call).keepalive = some ⟨token, first, last'⟩ ∧
      (sentAt timings peer call = none ∧ last' = last ∨
        sentAt timings peer call = some call.now ∧ last' = call.now ∧
          last + min timings.keepaliveInterval keepaliveRetryMax ≤ call.now) := by
  by_cases htick : ∃ now other, call = .tick now other
  · obtain ⟨now, other, rfl⟩ := htick
    by_cases htime : Instant.durationSince now first ≥ timings.keepaliveTimeout
    · refine ⟨last, ?_, Or.inl ⟨?_, rfl⟩⟩
      · rw [PeerState.afterCall_tick, PeerState.tick_overdue h htime]
        exact h
      · exact sentAt_tick (PeerState.tick_overdue h htime other)
    by_cases hretry : Instant.durationSince now last ≥
        min timings.keepaliveInterval keepaliveRetryMax
    · refine ⟨now, ?_, Or.inr ⟨?_, rfl, ?_⟩⟩
      · rw [PeerState.afterCall_tick, PeerState.tick_repeat h htime hretry]
      · exact sentAt_tick (PeerState.tick_repeat h htime hretry other)
      · exact Nat.add_le_of_le_sub' hle hretry
    · refine ⟨last, ?_, Or.inl ⟨?_, rfl⟩⟩
      · rw [PeerState.afterCall_tick, PeerState.tick_wait h htime hretry]
        exact h
      · exact sentAt_tick (PeerState.tick_wait h htime hretry other)
  · have hsame := @afterCall_of_unmatched timings peer call hunmatched
      (fun now other hcall => htick ⟨now, other, hcall⟩)
    exact ⟨last, hsame.1.trans h, Or.inl ⟨hsame.2.2, rfl⟩⟩

theorem outstanding_run {calls : List SessionCall} (h : peer.keepalive = some ⟨token, first, last⟩)
    (hordered : (last :: calls.map SessionCall.now).Pairwise (· ≤ ·))
    (hunmatched : Guarded (PeerState.afterCall timings) Unmatched peer calls) :
    (∃ last' : Nat,
      (runAll (PeerState.afterCall timings) peer calls).keepalive = some ⟨token, first, last'⟩) ∧
    (last :: sends timings peer calls).IsChain fun sent next =>
      sent + min timings.keepaliveInterval keepaliveRetryMax ≤ next := by
  induction calls generalizing peer last with
  | nil => exact ⟨⟨last, h⟩, List.isChain_singleton _⟩
  | cons call calls ih =>
      have hle : last ≤ call.now := (List.pairwise_cons.mp hordered).1 _ List.mem_cons_self
      have hrest := (List.pairwise_cons.mp hordered).2
      obtain ⟨last', hkeepalive, hsent⟩ := @outstanding_step timings _ _ _ _ _ h hunmatched.1 hle
      rw [runAll_cons]
      unfold sends
      obtain ⟨hsent, rfl⟩ | ⟨hsent, rfl, hgap⟩ := hsent
      · rw [hsent]
        apply ih hkeepalive _ hunmatched.2
        exact hordered.sublist ((List.sublist_cons_self _ _).cons_cons _)
      · obtain ⟨hrun, hchain⟩ := ih hkeepalive hrest hunmatched.2
        rw [hsent]
        exact ⟨hrun, List.isChain_cons_cons.mpr ⟨hgap, hchain⟩⟩

end Outstanding

/-- Without an ack that matches, the first tick that is due starts a keepalive unless
the session counts as expired by then.  It is repeated, not too often, until the
timeout is over, and from then on every tick drops the session. -/
theorem dead_direction_is_detected {timings : Timings} {peer : PeerState}
    {before after : List SessionCall} {due : Instant} {token : UInt64}
    (hnone : peer.keepalive = none)
    (hordered : (peer.lastAck :: (before ++ .tick due token :: after).map SessionCall.now).Pairwise
      (· ≤ ·))
    (hunmatched : Guarded (PeerState.afterCall timings) Unmatched peer
      (before ++ .tick due token :: after))
    (hfirst : ∀ now other, .tick now other ∈ before →
      now < peer.lastAck + timings.keepaliveInterval)
    (hdue : peer.lastAck + timings.keepaliveInterval ≤ due) :
    ((runAll (PeerState.afterCall timings) peer before).tick due timings token).1 =
        .drop .expired ∨
      ((runAll (PeerState.afterCall timings) peer before).tick due timings token).1 =
          .keepalive token ∧
        (∀ between now other rest, after = between ++ .tick now other :: rest →
          (now < due + timings.keepaliveTimeout →
            ((runAll (PeerState.afterCall timings) peer
              (before ++ .tick due token :: between)).tick now timings other).1 = .idle ∨
            ((runAll (PeerState.afterCall timings) peer
              (before ++ .tick due token :: between)).tick now timings other).1 =
                .keepalive token) ∧
          (due + timings.keepaliveTimeout ≤ now →
            ((runAll (PeerState.afterCall timings) peer
              (before ++ .tick due token :: between)).tick now timings other).1 =
                .drop .keepaliveTimeout)) ∧
        (due :: sends timings (runAll (PeerState.afterCall timings) peer
          (before ++ [.tick due token])) after).IsChain fun sent next =>
            sent + min timings.keepaliveInterval (Duration.fromSecs 2) ≤ next := by
  rw [guarded_append] at hunmatched
  obtain ⟨hbefore, -, hafter⟩ := hunmatched
  have hordered' := hordered
  rw [List.map_append, List.map_cons, List.pairwise_cons, List.pairwise_append] at hordered'
  obtain ⟨hack, hfront, hback, -⟩ := hordered'
  obtain ⟨hidle, hlastAck⟩ := early_run hnone
    (List.pairwise_cons.mpr ⟨fun now hnow => hack now (List.mem_append_left _ hnow), hfront⟩)
    hbefore hfirst
  by_cases hseen : Instant.durationSince due
      (runAll (PeerState.afterCall timings) peer before).lastSeen ≥ timings.peerExpiry
  · left
    rw [PeerState.tick_expired hidle hseen]
  · right
    have hready : Instant.durationSince due
        (runAll (PeerState.afterCall timings) peer before).lastAck ≥ timings.keepaliveInterval := by
      rw [hlastAck]
      exact Nat.le_sub_of_add_le' hdue
    have htick := PeerState.tick_due hidle hseen hready token
    have hstarted : ((runAll (PeerState.afterCall timings) peer before).afterCall timings
        (.tick due token)).keepalive = some ⟨token, due, due⟩ := by
      rw [PeerState.afterCall_tick, htick]
    refine ⟨by rw [htick], ?_, ?_⟩
    · intro between now other rest hsplit
      subst hsplit
      rw [guarded_append] at hafter
      rw [List.map_append, ← List.cons_append] at hback
      obtain ⟨⟨last, hlast⟩, -⟩ := outstanding_run hstarted (List.pairwise_append.mp hback).1
        hafter.1
      have hle : due ≤ now := by
        apply (List.pairwise_append.mp hback).2.2 due List.mem_cons_self
        exact List.mem_cons_self
      have hrun : runAll (PeerState.afterCall timings) peer
          (before ++ .tick due token :: between) =
          runAll (PeerState.afterCall timings) ((runAll (PeerState.afterCall timings) peer
            before).afterCall timings (.tick due token)) between := by
        rw [runAll_append, runAll_cons]
      rw [hrun]
      exact tick_outstanding hlast hle other
    · rw [runAll_append]
      exact (outstanding_run hstarted hback hafter).2

namespace Sample

noncomputable def idleSession : NewSession :=
  relaySession (configured .default).cert 2 Core.Sample.source

noncomputable def idlePeer : PeerState := newPeer (configured .default) 0 idleSession none

def chatter (secs : Nat) : SessionCall :=
  .seen (Duration.fromSecs secs) Core.Sample.source false false

end Sample

/-- Bob is heard all the time and acknowledges nothing. -/
theorem dead_direction_default :
    ((runAll (PeerState.afterCall (configTimings .default)) Sample.idlePeer
      ([Sample.chatter 9] ++ .tick (Duration.fromSecs 10) 7 ::
        [.tick (Duration.fromSecs 12) 8, Sample.chatter 39])).tick (Duration.fromSecs 40)
          (configTimings .default) 9).1 = .drop .keepaliveTimeout := by
  obtain hexpired | ⟨-, hticks, -⟩ := @dead_direction_is_detected (configTimings .default)
    Sample.idlePeer [Sample.chatter 9]
    [.tick (Duration.fromSecs 12) 8, Sample.chatter 39, .tick (Duration.fromSecs 40) 9]
    (Duration.fromSecs 10) 7 rfl (by decide) (by simp [Guarded, Unmatched, Sample.chatter])
    (by simp [Sample.chatter]) (by decide)
  · have hseen : (runAll (PeerState.afterCall (configTimings .default)) Sample.idlePeer
        [Sample.chatter 9]).lastSeen = Duration.fromSecs 9 := PeerState.markSeen_lastSeen _ _ _ _ _
    have hnone : (runAll (PeerState.afterCall (configTimings .default)) Sample.idlePeer
        [Sample.chatter 9]).keepalive = none := PeerState.markSeen_keepalive _ _ _ _ _
    have hack : (runAll (PeerState.afterCall (configTimings .default)) Sample.idlePeer
        [Sample.chatter 9]).lastAck = 0 := PeerState.markSeen_lastAck _ _ _ _ _
    rw [PeerState.tick_due hnone (by rw [hseen]; decide) (by rw [hack]; decide)] at hexpired
    contradiction
  · exact (hticks [.tick (Duration.fromSecs 12) 8, Sample.chatter 39] (Duration.fromSecs 40) 9 []
      rfl).2 (by decide)

/-! ## A session that answers -/

def SessionCall.tickTime : SessionCall → Option Instant
  | .tick now _ => some now
  | _ => none

/-- The token is acknowledged before the deadline. -/
def AckedBefore (deadline : Instant) (token : UInt64) (calls : List SessionCall) : Prop :=
  ∃ now src viaRelay, .ack now src viaRelay token ∈ calls ∧ now < deadline

/-- Every keepalive that the run starts is acknowledged before it times out. -/
def Acknowledged (timings : Timings) : PeerState → List SessionCall → Prop
  | _, [] => True
  | peer, call :: calls =>
      (∀ now token, call = .tick now token → peer.keepalive = none →
        (peer.tick now timings token).1 = .keepalive token →
          AckedBefore (now + timings.keepaliveTimeout) token calls) ∧
        Acknowledged timings (peer.afterCall timings call) calls

/-- A run on one clock, with the ticks of the maintenance thread, in which every
keepalive is answered. -/
structure Healthy (timings : Timings) (start : Instant) (peer : PeerState)
    (calls : List SessionCall) : Prop where
  ordered : (start :: calls.map SessionCall.now).Pairwise (· ≤ ·)
  paced : (start :: calls.filterMap SessionCall.tickTime).IsChain fun last now =>
    now ≤ last + millis 250
  acknowledged : Acknowledged timings peer calls

def NotDropped (timings : Timings) (peer : PeerState) (call : SessionCall) : Prop :=
  ∀ now token reason, call = .tick now token → (peer.tick now timings token).1 ≠ .drop reason

def KeptAlive (timings : Timings) (peer : PeerState) (calls : List SessionCall) : Prop :=
  Guarded (PeerState.afterCall timings) (NotDropped timings) peer calls

/-- Where a healthy session stands: an ack is no news after the last packet, the last
tick found no keepalive due, and the one that is outstanding will be answered. -/
structure Answering (timings : Timings) (peer : PeerState) (clock lastTick : Nat)
    (calls : List SessionCall) : Prop where
  acked : peer.lastAck ≤ peer.lastSeen
  seen : peer.lastSeen ≤ clock
  ticked : lastTick ≤ clock
  early : peer.keepalive = none → lastTick < peer.lastAck + timings.keepaliveInterval
  answered : ∀ pending, peer.keepalive = some pending →
    AckedBefore (pending.firstSentAt + timings.keepaliveTimeout) pending.token calls

section Answering

variable {timings : Timings} {peer : PeerState} {clock lastTick : Nat} {call : SessionCall}
  {calls : List SessionCall}

theorem AckedBefore.tail {deadline : Instant} {token : UInt64}
    (h : AckedBefore deadline token (call :: calls))
    (hcall : ∀ now src viaRelay, call ≠ .ack now src viaRelay token) :
    AckedBefore deadline token calls := by
  obtain ⟨now, src, viaRelay, hmem, hlt⟩ := h
  obtain hhead | htail := List.mem_cons.mp hmem
  · exact absurd hhead.symm (hcall now src viaRelay)
  · exact ⟨now, src, viaRelay, htail, hlt⟩

private theorem Answering.ofSame {next : PeerState} (h : Answering timings peer clock lastTick
    (call :: calls)) (hclock : clock ≤ call.now)
    (hcall : ∀ now src viaRelay token, call ≠ .ack now src viaRelay token)
    (hkeepalive : next.keepalive = peer.keepalive) (hack : next.lastAck = peer.lastAck)
    (hseen : next.lastSeen = peer.lastSeen ∨ next.lastSeen = call.now) :
    Answering timings next call.now lastTick calls := by
  have hacked : (peer.lastAck : Nat) ≤ peer.lastSeen := h.acked
  have hseen' : (peer.lastSeen : Nat) ≤ clock := h.seen
  refine ⟨?_, ?_, Nat.le_trans h.ticked hclock, ?_, ?_⟩
  · rw [hack]
    obtain hsame | hnow := hseen
    · rw [hsame]
      exact hacked
    · rw [hnow]
      exact Nat.le_trans hacked (Nat.le_trans hseen' hclock)
  · obtain hsame | hnow := hseen
    · rw [hsame]
      exact Nat.le_trans hseen' hclock
    · rw [hnow]
  · rw [hkeepalive, hack]
    exact h.early
  · intro pending hpending
    rw [hkeepalive] at hpending
    exact (h.answered pending hpending).tail fun now src viaRelay => hcall now src viaRelay _

private theorem Answering.ack {now : Instant} {src : SocketAddr} {viaRelay : Bool} {token : UInt64}
    (h : Answering timings peer clock lastTick (.ack now src viaRelay token :: calls))
    (hclock : clock ≤ now) (hpos : 0 < timings.keepaliveInterval) :
    Answering timings (peer.afterCall timings (.ack now src viaRelay token)) now lastTick calls := by
  have hticked : lastTick ≤ now := Nat.le_trans h.ticked hclock
  have hacked : peer.lastAck ≤ now := Nat.le_trans h.acked (Nat.le_trans h.seen hclock)
  have hrecent : lastTick < now + timings.keepaliveInterval :=
    Nat.lt_of_le_of_lt hticked (Nat.lt_add_of_pos_right hpos)
  have hseen : (peer.afterCall timings (.ack now src viaRelay token)).lastSeen = now := by
    unfold PeerState.afterCall
    dsimp only
    rw [PeerState.ackKeepalive_lastSeen, PeerState.markSeen_lastSeen]
  have htimers := PeerState.ackKeepalive_timers (peer.markSeen src now viaRelay false).2 token now
  rw [PeerState.markSeen_keepalive, PeerState.markSeen_lastAck] at htimers
  obtain ⟨hkeepalive, hack⟩ := htimers
  refine ⟨?_, ?_, hticked, ?_, ?_⟩
  · rw [hseen]
    obtain hsame | hnow := hack
    · exact Nat.le_trans (Nat.le_of_eq hsame) hacked
    · exact Nat.le_of_eq hnow
  · rw [hseen]
  · intro hnone
    obtain hsame | hnow := hack
    · obtain hkept | ⟨-, hnow⟩ := hkeepalive
      · have hearly := h.early (hkept.symm.trans hnone)
        exact Nat.lt_of_lt_of_eq hearly (congrArg (· + timings.keepaliveInterval) hsame.symm)
      · exact Nat.lt_of_lt_of_eq hrecent (congrArg (· + timings.keepaliveInterval) hnow.symm)
    · exact Nat.lt_of_lt_of_eq hrecent (congrArg (· + timings.keepaliveInterval) hnow.symm)
  · intro pending hpending
    obtain hkept | ⟨hcleared, -⟩ := hkeepalive
    · have hpending' : peer.keepalive = some pending := hkept.symm.trans hpending
      refine (h.answered pending hpending').tail ?_
      intro now' src' viaRelay' hcall
      cases hcall
      -- the ack for the pending token would have cleared it
      have hmatch := PeerState.ackKeepalive_of_pending
        ((PeerState.markSeen_keepalive peer src now viaRelay false).trans hpending') now
      unfold PeerState.afterCall at hpending
      dsimp only at hpending
      rw [hmatch] at hpending
      contradiction
    · have hnone := hcleared.symm.trans hpending
      contradiction

theorem notDropped_of_tick {next : PeerState} {now : Instant} {token : UInt64} {outcome : PeerTick}
    (h : peer.tick now timings token = (outcome, next)) (houtcome : ∀ reason, outcome ≠ .drop reason) :
    NotDropped timings peer (.tick now token) := by
  intro now' token' reason hcall
  cases hcall
  rw [h]
  exact houtcome reason

/-- A tick drops no healthy session if keepalives are due well before the expiry. -/
private theorem Answering.tick {now : Instant} {token : UInt64}
    (h : Answering timings peer clock lastTick (.tick now token :: calls))
    (hclock : clock ≤ now) (hgap : now ≤ lastTick + millis 250)
    (hshort : timings.keepaliveInterval + millis 250 ≤ timings.peerExpiry)
    (htimeout : 0 < timings.keepaliveTimeout) (hordered : ∀ call ∈ calls, now ≤ call.now)
    (hacked : peer.keepalive = none → (peer.tick now timings token).1 = .keepalive token →
      AckedBefore (now + timings.keepaliveTimeout) token calls) :
    NotDropped timings peer (.tick now token) ∧
      Answering timings (peer.afterCall timings (.tick now token)) now now calls := by
  have hseen : peer.lastSeen ≤ now := Nat.le_trans h.seen hclock
  have hanswered : ∀ pending, peer.keepalive = some pending →
      AckedBefore (pending.firstSentAt + timings.keepaliveTimeout) pending.token calls := by
    intro pending hpending
    exact (h.answered pending hpending).tail fun _ _ _ => by simp
  rw [PeerState.afterCall_tick]
  cases hkeepalive : peer.keepalive with
  | none =>
      have hfresh : ¬ now.durationSince peer.lastSeen ≥ timings.peerExpiry := by
        apply Nat.not_le.mpr
        apply Nat.sub_lt_left_of_lt_add hseen
        calc now ≤ lastTick + millis 250 := hgap
          _ < peer.lastAck + timings.keepaliveInterval + millis 250 :=
            Nat.add_lt_add_right (h.early hkeepalive) _
          _ ≤ peer.lastSeen + timings.keepaliveInterval + millis 250 :=
            Nat.add_le_add_right (Nat.add_le_add_right h.acked _) _
          _ ≤ peer.lastSeen + timings.peerExpiry := by
            rw [Nat.add_assoc]
            exact Nat.add_le_add_left hshort _
      by_cases hdue : now.durationSince peer.lastAck ≥ timings.keepaliveInterval
      · have htick := PeerState.tick_due hkeepalive hfresh hdue token
        refine ⟨notDropped_of_tick htick (by simp), ?_⟩
        rw [htick]
        refine ⟨h.acked, hseen, le_refl _, ?_, ?_⟩
        · intro hnone
          contradiction
        · intro pending hpending
          cases hpending
          exact hacked hkeepalive (by rw [htick])
      · have htick := PeerState.tick_early hkeepalive hfresh hdue token
        refine ⟨notDropped_of_tick htick (by simp), ?_⟩
        rw [htick]
        refine ⟨h.acked, hseen, le_refl _, ?_, hanswered⟩
        intro _
        exact (Nat.sub_lt_iff_lt_add' (Nat.le_trans h.acked hseen)).mp (Nat.lt_of_not_le hdue)
  | some pending =>
      obtain ⟨acked, src, viaRelay, hmem, hlt⟩ := hanswered pending hkeepalive
      have htime : ¬ now.durationSince pending.firstSentAt ≥ timings.keepaliveTimeout := by
        have hbefore : now < pending.firstSentAt + timings.keepaliveTimeout :=
          Nat.lt_of_le_of_lt (hordered _ hmem) hlt
        apply Nat.not_le.mpr
        obtain hle | hlater := Nat.le_total pending.firstSentAt now
        · exact Nat.sub_lt_left_of_lt_add hle hbefore
        · unfold Instant.durationSince
          rw [Nat.sub_eq_zero_of_le hlater]
          exact htimeout
      by_cases hretry : now.durationSince pending.lastSentAt ≥
          min timings.keepaliveInterval keepaliveRetryMax
      · have htick := PeerState.tick_repeat hkeepalive htime hretry token
        refine ⟨notDropped_of_tick htick (by simp), ?_⟩
        rw [htick]
        refine ⟨h.acked, hseen, le_refl _, ?_, ?_⟩
        · intro hnone
          contradiction
        · intro pending' hpending'
          cases hpending'
          exact hanswered pending hkeepalive
      · have htick := PeerState.tick_wait hkeepalive htime hretry token
        refine ⟨notDropped_of_tick htick (by simp), ?_⟩
        rw [htick]
        refine ⟨h.acked, hseen, le_refl _, ?_, hanswered⟩
        intro hnone
        rw [hkeepalive] at hnone
        contradiction

theorem Answering.keptAlive (h : Answering timings peer clock lastTick calls)
    (hordered : (clock :: calls.map SessionCall.now).Pairwise (· ≤ ·))
    (hpaced : (lastTick :: calls.filterMap SessionCall.tickTime).IsChain fun last now =>
      now ≤ last + millis 250)
    (hacked : Acknowledged timings peer calls)
    (hshort : timings.keepaliveInterval + millis 250 ≤ timings.peerExpiry)
    (hpos : 0 < timings.keepaliveInterval) (htimeout : 0 < timings.keepaliveTimeout) :
    KeptAlive timings peer calls := by
  induction calls generalizing peer clock lastTick with
  | nil => trivial
  | cons call calls ih =>
      rw [List.map_cons, List.pairwise_cons] at hordered
      have hclock : clock ≤ call.now := hordered.1 _ List.mem_cons_self
      cases call with
      | tick now token =>
          have htimes : (SessionCall.tick now token :: calls).filterMap SessionCall.tickTime =
              now :: calls.filterMap SessionCall.tickTime := rfl
          rw [htimes, List.isChain_cons_cons] at hpaced
          have hlater : ∀ call ∈ calls, now ≤ call.now := by
            intro call hcall
            exact (List.pairwise_cons.mp hordered.2).1 _ (List.mem_map_of_mem hcall)
          obtain ⟨hkept, hnext⟩ := h.tick hclock hpaced.1 hshort htimeout hlater
            (hacked.1 now token rfl)
          exact ⟨hkept, ih hnext hordered.2 hpaced.2 hacked.2⟩
      | probe now token =>
          have hsame := PeerState.sameTimers_takePathProbe peer now timings token
          have hnext : Answering timings (peer.afterCall timings (.probe now token)) now lastTick
              calls :=
            h.ofSame hclock (by simp) hsame.keepalive hsame.lastAck (Or.inl hsame.lastSeen)
          exact ⟨by simp [NotDropped], ih hnext hordered.2 hpaced hacked.2⟩
      | seen now src viaRelay isKeepalive =>
          have hnext : Answering timings
              (peer.afterCall timings (.seen now src viaRelay isKeepalive)) now lastTick calls :=
            h.ofSame hclock (by simp) (PeerState.markSeen_keepalive _ _ _ _ _)
              (PeerState.markSeen_lastAck _ _ _ _ _)
              (Or.inr (PeerState.markSeen_lastSeen _ _ _ _ _))
          exact ⟨by simp [NotDropped], ih hnext hordered.2 hpaced hacked.2⟩
      | ack now src viaRelay token =>
          exact ⟨by simp [NotDropped], ih (h.ack hclock hpos) hordered.2 hpaced hacked.2⟩
      | learned now addr =>
          have hsame := PeerState.sameTimers_learnDirectAddr addr peer
          have hnext : Answering timings (peer.afterCall timings (.learned now addr)) now lastTick
              calls :=
            h.ofSame hclock (by simp) hsame.keepalive hsame.lastAck (Or.inl hsame.lastSeen)
          exact ⟨by simp [NotDropped], ih hnext hordered.2 hpaced hacked.2⟩

end Answering

/-! ### Keepalives that come too late -/

section Quiet

variable {timings : Timings} {peer : PeerState}

def onlyTicks (times : List Nat) : List SessionCall := times.map fun now => .tick now 0

/-- A session that expires before its first keepalive is due sends none. -/
theorem quiet_tick (hnone : peer.keepalive = none) (hack : peer.lastAck = peer.lastSeen)
    (hlong : timings.peerExpiry ≤ timings.keepaliveInterval) (now : Instant) (token : UInt64) :
    (peer.tick now timings token).2 = peer ∧
      ∀ other, (peer.tick now timings token).1 ≠ .keepalive other := by
  by_cases hseen : now.durationSince peer.lastSeen ≥ timings.peerExpiry
  · rw [PeerState.tick_expired hnone hseen]
    exact ⟨rfl, by simp⟩
  · have hearly : ¬ now.durationSince peer.lastAck ≥ timings.keepaliveInterval := by
      rw [hack]
      intro hdue
      exact hseen (Nat.le_trans hlong hdue)
    rw [PeerState.tick_early hnone hseen hearly]
    exact ⟨rfl, by simp⟩

theorem quiet_acknowledged (hnone : peer.keepalive = none) (hack : peer.lastAck = peer.lastSeen)
    (hlong : timings.peerExpiry ≤ timings.keepaliveInterval) (times : List Nat) :
    Acknowledged timings peer (onlyTicks times) := by
  induction times with
  | nil => trivial
  | cons now times ih =>
      obtain ⟨hsame, hnot⟩ := quiet_tick hnone hack hlong now 0
      refine ⟨?_, ?_⟩
      · intro now' token hcall _ hkeepalive
        cases hcall
        exact absurd hkeepalive (hnot 0)
      · rw [PeerState.afterCall_tick, hsame]
        exact ih

theorem quiet_keptAlive (hnone : peer.keepalive = none) (hack : peer.lastAck = peer.lastSeen)
    (hlong : timings.peerExpiry ≤ timings.keepaliveInterval) {times : List Nat}
    (h : KeptAlive timings peer (onlyTicks times)) :
    ∀ now ∈ times, NotDropped timings peer (.tick now 0) := by
  induction times with
  | nil => simp
  | cons first times ih =>
      obtain ⟨hfirst, hrest⟩ := h
      rw [PeerState.afterCall_tick, (quiet_tick hnone hack hlong first 0).1] at hrest
      intro now hnow
      obtain rfl | hnow := List.mem_cons.mp hnow
      · exact hfirst
      · exact ih hrest now hnow

theorem exists_healthy_drop {start : Nat} (hnone : peer.keepalive = none)
    (hseen : peer.lastSeen = start) (hack : peer.lastAck = start)
    (hlong : timings.peerExpiry ≤ timings.keepaliveInterval) (hexpiry : 0 < timings.peerExpiry) :
    ∃ calls, Healthy timings start peer calls ∧ ¬ KeptAlive timings peer calls := by
  have hgap : 0 < millis 250 := by decide
  obtain ⟨times, htimes⟩ := exists_leads hgap (Nat.le_add_right start timings.peerExpiry)
  have hsame : peer.lastAck = peer.lastSeen := hack.trans hseen.symm
  refine ⟨onlyTicks times, ⟨?_, ?_, quiet_acknowledged hnone hsame hlong times⟩, ?_⟩
  · have hnow : (onlyTicks times).map SessionCall.now = times := by
      unfold onlyTicks
      rw [List.map_map]
      exact List.map_id times
    rw [hnow]
    exact htimes.pairwise
  · have htick : (onlyTicks times).filterMap SessionCall.tickTime = times := by
      unfold onlyTicks
      rw [List.filterMap_map]
      exact List.filterMap_some
    rw [htick]
    exact htimes.isChain
  · intro hkept
    have hmem : start + timings.peerExpiry ∈ times :=
      htimes.stop_mem (Nat.lt_add_of_pos_right hexpiry)
    apply quiet_keptAlive hnone hsame hlong hkept _ hmem _ 0 .expired rfl
    rw [PeerState.tick_expired hnone]
    rw [hseen]
    unfold Instant.durationSince
    rw [Nat.add_sub_cancel_left]

end Quiet

section Configurations

variable {lib : Primitives} {node : Node lib} {config : AppConfig}

theorem keepalive_of_validate (hvalid : config.validate = .ok ()) :
    0 < (configTimings config).keepaliveInterval ∧ 0 < (configTimings config).keepaliveTimeout := by
  obtain ⟨hzero, -⟩ := AppConfig.validate_eq_ok_iff.mp hvalid
  have hpos : ∀ name secs, (name, secs) ∈ config.zeroChecks → 0 < Duration.fromSecs secs.toNat := by
    intro name secs hcheck
    have hsecs : 0 < secs.toNat :=
      Nat.pos_of_ne_zero fun h => hzero (name, secs) hcheck (UInt64.toNat_inj.mp h)
    exact Nat.mul_pos hsecs (by decide)
  refine ⟨hpos "keepalive_interval_secs" _ ?_, hpos "keepalive_timeout_secs" _ ?_⟩ <;>
    simp [AppConfig.zeroChecks]

theorem keepaliveInterval_add_tick_le (h : config.keepaliveIntervalSecs < 300) :
    (configTimings config).keepaliveInterval + millis 250 ≤ (configTimings config).peerExpiry := by
  have hsecs : config.keepaliveIntervalSecs.toNat < 300 := h
  have hinterval : (configTimings config).keepaliveInterval =
      config.keepaliveIntervalSecs.toNat * 1000000000 := rfl
  have hexpiry : (configTimings config).peerExpiry = 300 * 1000000000 := rfl
  have hgap : millis 250 = 250 * 1000000 := rfl
  rw [hinterval, hexpiry, hgap]
  have hle : config.keepaliveIntervalSecs.toNat * 1000000000 + 250 * 1000000 ≤
      300 * 1000000000 := by
    omega
  exact hle

theorem peerExpiry_le_keepaliveInterval (h : ¬ config.keepaliveIntervalSecs < 300) :
    (configTimings config).peerExpiry ≤ (configTimings config).keepaliveInterval := by
  have hsecs : 300 ≤ config.keepaliveIntervalSecs.toNat := Nat.not_lt.mp h
  exact Nat.mul_le_mul_right _ hsecs

/-- A new session is kept through every healthy run exactly if the keepalives of the
configuration come more often than sessions expire. -/
theorem keptAlive_iff_interval_lt (hvalid : config.validate = .ok ())
    (hnode : node.timings = configTimings config) (start : Instant) (session : NewSession)
    (previous : Option PeerState) :
    (∀ calls, Healthy node.timings start (newPeer node start session previous) calls →
      KeptAlive node.timings (newPeer node start session previous) calls) ↔
      config.keepaliveIntervalSecs < 300 := by
  obtain ⟨hpos, htimeout⟩ := keepalive_of_validate hvalid
  rw [hnode]
  constructor
  · intro hall
    by_contra hlong
    obtain ⟨calls, hhealthy, hdropped⟩ := @exists_healthy_drop (configTimings config)
      (newPeer node start session previous) start rfl rfl rfl
      (peerExpiry_le_keepaliveInterval hlong) (show 0 < peerExpiry by decide)
    exact hdropped (hall calls hhealthy)
  · intro hshort calls hhealthy
    have hstart : Answering (configTimings config) (newPeer node start session previous) start start
        calls := by
      refine ⟨le_refl _, le_refl _, le_refl _, ?_, ?_⟩
      · intro _
        exact Nat.lt_add_of_pos_right hpos
      · intro pending hpending
        contradiction
    exact hstart.keptAlive hhealthy.ordered hhealthy.paced hhealthy.acknowledged
      (keepaliveInterval_add_tick_le hshort) hpos htimeout

end Configurations

namespace Sample

def drowsy : AppConfig :=
  { AppConfig.default with
    keepaliveIntervalSecs := 400
    keepaliveTimeoutSecs := 500 }

end Sample

theorem keptAlive_default :
    AppConfig.default.validate = .ok () ∧
      ∀ calls, Healthy (Sample.configured .default).timings 0
          (newPeer (Sample.configured .default) 0 Sample.idleSession none) calls →
        KeptAlive (Sample.configured .default).timings
          (newPeer (Sample.configured .default) 0 Sample.idleSession none) calls :=
  have hvalid : AppConfig.default.validate = .ok () := by decide
  ⟨hvalid, (@keptAlive_iff_interval_lt _ (Sample.configured .default) .default hvalid rfl 0
    Sample.idleSession none).mpr (by decide)⟩

/-- With a keepalive every 400 s the session is dropped after 300 s. -/
theorem not_keptAlive_drowsy :
    Sample.drowsy.validate = .ok () ∧
      ¬ ∀ calls, Healthy (Sample.configured Sample.drowsy).timings 0
          (newPeer (Sample.configured Sample.drowsy) 0 Sample.idleSession none) calls →
        KeptAlive (Sample.configured Sample.drowsy).timings
          (newPeer (Sample.configured Sample.drowsy) 0 Sample.idleSession none) calls := by
  refine ⟨by decide, ?_⟩
  intro hall
  obtain ⟨calls, hhealthy, hdropped⟩ := @exists_healthy_drop
    (Sample.configured Sample.drowsy).timings
    (newPeer (Sample.configured Sample.drowsy) 0 Sample.idleSession none) 0 rfl rfl rfl
    (by decide) (by decide)
  exact hdropped (hall calls hhealthy)

end Liteway.Daemon
