import Liteway.Core.Config
import Liteway.Daemon.Delivery
import Liteway.Daemon.Retries
import Liteway.Library.Pacing

/-!
# Whether the relay is tried

A handshake that stays unanswered is sent again and again, and through a relay too
once the fallback is due.  Whether a copy is sent between the fallback and the
timeout depends on how the two lie in the schedule of the retries.
-/

namespace Liteway.Daemon

open Liteway.Library Liteway.Core

/-- The timings that `main` takes from the configuration. -/
def configTimings (config : AppConfig) : Timings :=
  Timings.fromSecs config.keepaliveIntervalSecs.toNat config.keepaliveTimeoutSecs.toNat
    config.directProbeIntervalSecs.toNat config.handshakeTimeoutSecs.toNat
    config.relayFallbackTimeoutSecs.toNat

/-! ## Schedules -/

/-- A call of `retransmit_handshakes`: its inputs and the state it finds. -/
structure Tick where
  env : Env
  state : NodeState

def tickTimes (ticks : List Tick) : List Instant := ticks.map fun tick => tick.env.now

section Schedules

variable {lib : Primitives} (node : Node lib)

/-- Nothing but the ticks touches the pending handshake: every tick finds it as the
tick before has left it. -/
def Unanswered (key : UInt32) : Option PendingHandshake → List Tick → Prop
  | _, [] => True
  | entry, tick :: ticks =>
      tick.state.pending.lookup key = entry ∧
        Unanswered key ((retransmitHandshakes node tick.env tick.state).1.pending.lookup key) ticks

def Retransmits (tick : Tick) (initiate : HandshakeInitiate) (addr : SocketAddr) : Prop :=
  ∃ copy ∈ retransmissions node tick.env tick.state, copy.1.initiate = initiate ∧ copy.2 = addr

/-- A copy is sent to a relay other than the target that was connected. -/
def RelayTried (target : UInt32) (initiate : HandshakeInitiate) (ticks : List Tick) : Prop :=
  ∃ tick ∈ ticks, ∃ found ∈ ticks, ∃ relay, firstRelay found.state target = some relay ∧
    Retransmits node tick initiate relay.2

end Schedules

/-! ## When copies are sent -/

/-- When the copy after `n` others is sent at the earliest. -/
def earliestRetry : Nat → Nat
  | 0 => 0
  | n + 1 => earliestRetry n + retryDelay (n + 1)

/-- Before when it is sent at the latest. -/
def latestRetry (n : Nat) : Nat := earliestRetry n + n * maintenanceTickInterval

theorem latestRetry_succ (n : Nat) :
    latestRetry (n + 1) = latestRetry n + retryDelay (n + 1) + maintenanceTickInterval := by
  have hnext : earliestRetry (n + 1) = earliestRetry n + retryDelay (n + 1) := rfl
  unfold latestRetry
  rw [hnext, Nat.succ_mul]
  omega

theorem retryDelay_pos (attempts : Nat) : 0 < retryDelay attempts := by
  unfold retryDelay
  apply Nat.lt_min.mpr
  exact ⟨Nat.mul_pos (by decide) (Nat.two_pow_pos _), by decide⟩

/-- The fallback comes before the last copy, and before the timeout by so much that
the copy after it is not late, for every number of copies sent before. -/
def FallbackInTime (fallback timeout : Nat) : Prop :=
  fallback ≤ earliestRetry (handshakeMaxAttempts - 1) ∧
    ∀ n < handshakeMaxAttempts - 1, fallback ≤ earliestRetry n ∨ latestRetry (n + 1) ≤ timeout ∨
      fallback + retryDelay (n + 1) + maintenanceTickInterval ≤ timeout

instance (fallback timeout : Nat) : Decidable (FallbackInTime fallback timeout) :=
  inferInstanceAs (Decidable (_ ∧ _))

theorem not_expired {timings : Timings} {handshake : PendingHandshake} {created now : Nat}
    (hcreated : handshake.createdAt = created) (hpos : (0 : Nat) < timings.handshakeTimeout)
    (hlt : now < created + timings.handshakeTimeout) : handshake.expired now timings = false := by
  have hage : now - created < timings.handshakeTimeout := by omega
  simp only [PendingHandshake.expired, hcreated, decide_eq_false_iff_not, ge_iff_le, Nat.not_le]
  exact hage

/-! ## In time -/

/-- A handshake that has been sent `n + 1` times, the last time at `sent`, and all of
them before the fallback. -/
structure Waiting (timings : Timings) (created : Nat) (target : UInt32)
    (initiate : HandshakeInitiate) (handshake : PendingHandshake) (now : Nat) : Prop where
  createdAt_eq : handshake.createdAt = created
  peerId_eq : handshake.peerId = some target
  initiate_eq : handshake.initiate = initiate
  sent : ∃ n sent : Nat, n < handshakeMaxAttempts ∧ handshake.attempts = n + 1 ∧
    handshake.nextAttempt = sent + retryDelay (n + 1) ∧ sent ≤ now ∧
    created + earliestRetry n ≤ sent ∧ sent ≤ created + latestRetry n ∧
    sent < created + timings.relayFallback ∧
    (n < handshakeMaxAttempts - 1 → now < sent + retryDelay (n + 1))

section InTime

variable {lib : Primitives} {node : Node lib} {created now : Nat} {target : UInt32}
  {initiate : HandshakeInitiate} {handshake : PendingHandshake}

theorem Waiting.not_late {timings : Timings}
    (h : Waiting timings created target initiate handshake now)
    (hintime : FallbackInTime timings.relayFallback timings.handshakeTimeout) :
    now + maintenanceTickInterval < created + timings.handshakeTimeout := by
  obtain ⟨n, sent, hn, -, -, -, hearliest, hlatest, hbefore, hquiet⟩ := h.sent
  have hstarted : earliestRetry n < timings.relayFallback := by omega
  by_cases hlast : n < handshakeMaxAttempts - 1
  · have hnow := hquiet hlast
    have hnext := latestRetry_succ n
    obtain hstart | hend | hend := hintime.2 n hlast
    · omega
    · omega
    · omega
  · have hfull : n = handshakeMaxAttempts - 1 := by omega
    rw [hfull] at hstarted
    exact absurd hintime.1 (Nat.not_le.mpr hstarted)

theorem Waiting.created_le {timings : Timings}
    (h : Waiting timings created target initiate handshake now) : created ≤ now := by
  obtain ⟨n, sent, -, -, -, hsent, hearliest, -⟩ := h.sent
  omega

theorem waiting_new (timings : Timings) (initiate : HandshakeInitiate) (directAddr : SocketAddr)
    (target : UInt32) (peerName : String) (created : Nat)
    (hfallback : 0 < timings.relayFallback) :
    Waiting timings created target initiate
      (.new initiate directAddr (some target) peerName created) created where
  createdAt_eq := rfl
  peerId_eq := rfl
  initiate_eq := rfl
  sent := by
    have hdelay : 0 < retryDelay 1 := retryDelay_pos 1
    refine ⟨0, created, by decide, rfl, rfl, Nat.le_refl _, Nat.le_refl _, Nat.le_refl _, ?_, ?_⟩
    · exact Nat.lt_add_of_pos_right hfallback
    · intro _
      exact Nat.lt_add_of_pos_right hdelay

variable {timings : Timings} {relays : List (UInt32 × SocketAddr)} {now' : Nat}

theorem Waiting.wait (h : Waiting timings created target initiate handshake now) (hle : now ≤ now')
    (halive : handshake.expired now' timings = false)
    (hdue : handshake.retransmitDue now' timings = false) :
    Waiting timings created target initiate (afterTick now' timings relays handshake) now' := by
  rw [afterTick_of_not_due relays hdue, withRelayFallback_eq]
  refine ⟨h.createdAt_eq, h.peerId_eq, h.initiate_eq, ?_⟩
  obtain ⟨n, sent, hn, hattempts, hnext, hsent, hearliest, hlatest, hbefore, -⟩ := h.sent
  refine ⟨n, sent, hn, hattempts, hnext, Nat.le_trans hsent hle, hearliest, hlatest, hbefore, ?_⟩
  intro hlast
  rw [← hnext]
  simp only [PendingHandshake.retransmitDue, PendingHandshake.expired] at hdue halive
  rw [halive] at hdue
  simp only [hattempts, Bool.not_false, Bool.true_and, ge_iff_le, Bool.and_eq_false_iff,
    decide_eq_false_iff_not] at hdue
  obtain hcapped | hearly := hdue
  · exact absurd (Nat.add_lt_of_lt_sub hlast) hcapped
  · exact Nat.not_le.mp hearly

theorem Waiting.send (h : Waiting timings created target initiate handshake now)
    (hgap : now' ≤ now + maintenanceTickInterval) (hearly : now' < created + timings.relayFallback)
    (hdue : handshake.retransmitDue now' timings = true) :
    Waiting timings created target initiate (afterTick now' timings relays handshake) now' := by
  obtain ⟨n, sent, hn, hattempts, hnext, hsent, hearliest, hlatest, hbefore, hquiet⟩ := h.sent
  have hfallback : withRelayFallback now' timings relays handshake = handshake := by
    apply withRelayFallback_of_early
    rw [h.createdAt_eq]
    change now' - created < (timings.relayFallback : Nat)
    omega
  rw [afterTick_of_due relays hdue, hfallback]
  simp only [PendingHandshake.retransmitDue, hattempts, hnext, ge_iff_le, Bool.and_eq_true,
    decide_eq_true_eq] at hdue
  have hreached : sent + retryDelay (n + 1) ≤ now' := hdue.2
  refine ⟨h.createdAt_eq, h.peerId_eq, h.initiate_eq, n + 1, now', hdue.1.2, ?_, ?_, Nat.le_refl _,
    ?_, ?_, hearly, ?_⟩
  · simp [PendingHandshake.recordAttempt, hattempts]
  · simp [PendingHandshake.recordAttempt, hattempts]
  · unfold earliestRetry
    omega
  · rw [latestRetry_succ]
    have hnow := hquiet (by omega)
    omega
  · intro _
    exact Nat.lt_add_of_pos_right (retryDelay_pos _)

/-- From any point on at which no copy was sent after the fallback, the relay is
tried if the fallback is in time. -/
theorem Waiting.relay_tried {key : UInt32} {ticks : List Tick}
    (h : Waiting node.timings created target initiate handshake now)
    (hintime : FallbackInTime node.timings.relayFallback node.timings.handshakeTimeout)
    (hunanswered : Unanswered node key (some handshake) ticks)
    (hpaced : Paced maintenanceTickInterval (created + node.timings.handshakeTimeout) now
      (tickTimes ticks))
    (hrelays : ∀ tick ∈ ticks, (firstRelay tick.state target).isSome = true) :
    ∃ tick ∈ ticks, ∃ addr, Retransmits node tick initiate addr ∧
      (handshake.relayAddr = some addr ∨
        ∃ found ∈ ticks, ∃ relay, firstRelay found.state target = some relay ∧ relay.2 = addr) := by
  have hnear := h.not_late hintime
  induction ticks generalizing handshake now with
  | nil => exact absurd hpaced (Nat.not_le.mpr hnear)
  | cons tick ticks ih =>
      obtain ⟨hle, hgap, hrest⟩ := hpaced
      obtain ⟨hlookup, hnext⟩ := hunanswered
      obtain ⟨hrelay, hrelays⟩ := List.forall_mem_cons.mp hrelays
      have halive : handshake.expired tick.env.now node.timings = false := by
        have hstarted := h.created_le
        exact not_expired h.createdAt_eq (by omega) (Nat.lt_of_le_of_lt hgap hnear)
      rw [lookup_after_tick hlookup halive] at hnext
      by_cases hdue : handshake.retransmitDue tick.env.now node.timings = true ∧
          created + node.timings.relayFallback ≤ tick.env.now
      -- a copy is due after the fallback, and the relay is known by now
      · obtain ⟨addr, haddr⟩ := relayAddr_of_late h.peerId_eq (by
          rw [h.createdAt_eq]
          exact Nat.le_sub_of_add_le' hdue.2) hrelay
        refine ⟨tick, List.mem_cons_self, addr, ⟨_, mem_retransmissions hlookup halive hdue.1
          (mem_targets_of_relayAddr haddr), ?_, rfl⟩, ?_⟩
        · rw [withRelayFallback_eq]
          exact h.initiate_eq
        · obtain hold | ⟨relay, hfound, hrelayAddr⟩ := relayAddr_cases h.peerId_eq haddr
          · exact Or.inl hold
          · exact Or.inr ⟨tick, List.mem_cons_self, relay, hfound, hrelayAddr⟩
      -- otherwise the handshake waits on
      have hwait : Waiting node.timings created target initiate (afterTick tick.env.now node.timings
          (connectedRelays tick.state) handshake) tick.env.now := by
        cases hsend : handshake.retransmitDue tick.env.now node.timings with
        | false => exact h.wait hle halive hsend
        | true => exact h.send hgap (Nat.not_le.mp fun hlate => hdue ⟨hsend, hlate⟩) hsend
      obtain ⟨later, hlater, addr, hcopy, haddr⟩ :=
        ih hwait hnext hrest hrelays (hwait.not_late hintime)
      refine ⟨later, List.mem_cons_of_mem _ hlater, addr, hcopy, ?_⟩
      obtain hknown | ⟨found, hmem, hrelay⟩ := haddr
      · rw [relayAddr_afterTick] at hknown
        obtain hold | ⟨relay, hfound, hrelayAddr⟩ := relayAddr_cases h.peerId_eq hknown
        · exact Or.inl hold
        · exact Or.inr ⟨tick, List.mem_cons_self, relay, hfound, hrelayAddr⟩
      · exact Or.inr ⟨found, List.mem_cons_of_mem _ hmem, hrelay⟩

end InTime

/-! ## Too late -/

section TooLate

variable {timings : Timings} {relays : List (UInt32 × SocketAddr)} {addr : SocketAddr}
  {handshake : PendingHandshake}

def afterTicks (timings : Timings) (relays : List (UInt32 × SocketAddr))
    (handshake : PendingHandshake) (times : List Instant) : PendingHandshake :=
  times.foldl (fun handshake now => afterTick now timings relays handshake) handshake

def Avoids (timings : Timings) (relays : List (UInt32 × SocketAddr)) (addr : SocketAddr) :
    PendingHandshake → List Instant → Prop
  | _, [] => True
  | handshake, now :: times =>
      (handshake.retransmitDue now timings = true →
        addr ∉ (withRelayFallback now timings relays handshake).targets) ∧
      Avoids timings relays addr (afterTick now timings relays handshake) times

theorem Avoids.append {times times' : List Instant} (h : Avoids timings relays addr handshake times)
    (h' : Avoids timings relays addr (afterTicks timings relays handshake times) times') :
    Avoids timings relays addr handshake (times ++ times') := by
  induction times generalizing handshake with
  | nil => exact h'
  | cons now times ih => exact ⟨h.1, ih h.2 h'⟩

theorem afterTicks_append (handshake : PendingHandshake) (times times' : List Instant) :
    afterTicks timings relays handshake (times ++ times') =
      afterTicks timings relays (afterTicks timings relays handshake times) times' :=
  List.foldl_append

theorem avoids_of_not_due {times : List Instant}
    (hquiet : ∀ now ∈ times, handshake.attempts < handshakeMaxAttempts → now < handshake.nextAttempt) :
    Avoids timings relays addr handshake times := by
  induction times generalizing handshake with
  | nil => trivial
  | cons now times ih =>
      have hdue : handshake.retransmitDue now timings = false := by
        simp only [PendingHandshake.retransmitDue, ge_iff_le, Bool.and_eq_false_iff,
          decide_eq_false_iff_not]
        by_cases hcapped : handshake.attempts < handshakeMaxAttempts
        · exact Or.inr (Nat.not_le.mpr (hquiet now List.mem_cons_self hcapped))
        · exact Or.inl (Or.inr hcapped)
      refine ⟨fun hsend => ?_, ih ?_⟩
      · rw [hdue] at hsend
        contradiction
      · rw [afterTick_of_not_due relays hdue, withRelayFallback_eq]
        exact fun later hlater => hquiet later (List.mem_cons_of_mem _ hlater)

theorem afterTicks_of_not_due {times : List Instant}
    (hquiet : ∀ now ∈ times, now < handshake.nextAttempt)
    (hearly : ∀ now ∈ times, now.durationSince handshake.createdAt < timings.relayFallback) :
    afterTicks timings relays handshake times = handshake := by
  induction times with
  | nil => rfl
  | cons now times ih =>
      obtain ⟨hnow, hquiet⟩ := List.forall_mem_cons.mp hquiet
      obtain ⟨hbefore, hearly⟩ := List.forall_mem_cons.mp hearly
      have hdue : handshake.retransmitDue now timings = false := by
        simp only [PendingHandshake.retransmitDue, ge_iff_le, Bool.and_eq_false_iff,
          decide_eq_false_iff_not]
        exact Or.inr (Nat.not_le.mpr hnow)
      have hafter : afterTick now timings relays handshake = handshake := by
        rw [afterTick_of_not_due relays hdue, withRelayFallback_of_early hbefore]
      change afterTicks timings relays (afterTick now timings relays handshake) times = handshake
      rw [hafter]
      exact ih hquiet hearly

def resent (handshake : PendingHandshake) (n sent : Nat) : PendingHandshake :=
  { handshake with
    attempts := n + 1
    nextAttempt := sent + retryDelay (n + 1) }

def tickSlack : Nat := maintenanceTickInterval - 1

/-- Every time between the earliest and the latest one can be that of the copy after
`n` others, and no relay is tried if that is before the fallback. -/
theorem exists_schedule {created : Nat} (hrelay : handshake.relayAddr = none)
    (hcreated : handshake.createdAt = created) (haddr : addr ≠ handshake.directAddr) {n sent : Nat}
    (hn : n < handshakeMaxAttempts) (hearliest : created + earliestRetry n ≤ sent)
    (hlatest : sent ≤ created + earliestRetry n + n * tickSlack)
    (hfallback : sent < created + timings.relayFallback)
    (htimeout : sent < created + timings.handshakeTimeout) :
    ∃ times, Leads maintenanceTickInterval sent created times ∧
      Avoids timings relays addr (resent handshake 0 created) times ∧
      afterTicks timings relays (resent handshake 0 created) times = resent handshake n sent := by
  induction n generalizing sent with
  | zero =>
      have hsent : sent = created := by
        change created + 0 ≤ sent at hearliest
        change sent ≤ created + 0 + 0 * tickSlack at hlatest
        omega
      subst hsent
      exact ⟨[], rfl, trivial, rfl⟩
  | succ n ih =>
      have hnext : earliestRetry (n + 1) = earliestRetry n + retryDelay (n + 1) := rfl
      rw [hnext] at hearliest hlatest
      rw [Nat.succ_mul] at hlatest
      have hdelay : (0 : Nat) < retryDelay (n + 1) := retryDelay_pos _
      have hslack : (tickSlack : Nat) + 1 = maintenanceTickInterval := rfl
      -- the copy before is as late as it has to be
      obtain ⟨before, hfirst, hle, hlast, hlate⟩ : ∃ before : Nat,
          created + earliestRetry n ≤ before ∧ before + retryDelay (n + 1) ≤ sent ∧
            before ≤ created + earliestRetry n + n * tickSlack ∧
            sent ≤ before + retryDelay (n + 1) + tickSlack := by
        refine ⟨max (created + earliestRetry n) (sent - retryDelay (n + 1) - tickSlack), ?_⟩
        generalize n * tickSlack = slack at hlatest ⊢
        omega
      obtain ⟨times, hleads, havoids, hafter⟩ := ih (Nat.lt_of_succ_lt hn) hfirst hlast
        (Nat.lt_of_le_of_lt (Nat.le_of_add_right_le hle) hfallback)
        (Nat.lt_of_le_of_lt (Nat.le_of_add_right_le hle) htimeout)
      -- the last tick at which it is not due
      obtain ⟨pause, hpause⟩ := @exists_leads maintenanceTickInterval before
        (before + retryDelay (n + 1) - 1) (by decide) (by omega)
      have hquiet : ∀ now ∈ pause, now < (resent handshake n before).nextAttempt := by
        intro now hnow
        have hstop := hpause.le_stop.2 now hnow
        change now < before + retryDelay (n + 1)
        omega
      have hearly : ∀ now : Nat, now ≤ sent →
          now - (resent handshake n before).createdAt < timings.relayFallback := by
        intro now hnow
        change now - handshake.createdAt < timings.relayFallback
        rw [hcreated]
        omega
      have hpaused : afterTicks timings relays (resent handshake n before) pause =
          resent handshake n before := by
        apply afterTicks_of_not_due hquiet
        intro now hnow
        have hstop := hpause.le_stop.2 now hnow
        exact hearly now (by omega)
      have hdue : (resent handshake n before).retransmitDue sent timings = true := by
        simp only [PendingHandshake.retransmitDue, PendingHandshake.expired, resent, ge_iff_le,
          Bool.and_eq_true, Bool.not_eq_true', decide_eq_false_iff_not, decide_eq_true_eq,
          Nat.not_le, hcreated]
        refine ⟨⟨?_, hn⟩, hle⟩
        change sent - created < timings.handshakeTimeout
        omega
      have hunrouted : withRelayFallback sent timings relays (resent handshake n before) =
          resent handshake n before := withRelayFallback_of_early (hearly sent (Nat.le_refl _))
      have hsend : Avoids timings relays addr (resent handshake n before) [sent] := by
        refine ⟨fun _ => ?_, trivial⟩
        have htargets : (resent handshake n before).targets = [handshake.directAddr] := by
          simp only [PendingHandshake.targets, resent, hrelay]
        rw [hunrouted, htargets]
        simpa using haddr
      refine ⟨times ++ (pause ++ [sent]), hleads.append (hpause.snoc (by omega) (by omega)),
        havoids.append ?_, ?_⟩
      · rw [hafter]
        refine (avoids_of_not_due fun now hnow _ => hquiet now hnow).append ?_
        rw [hpaused]
        exact hsend
      · rw [afterTicks_append, hafter, afterTicks_append, hpaused]
        change afterTick sent timings relays (resent handshake n before) = _
        rw [afterTick_of_due relays hdue, hunrouted]
        rfl

/-- The steps of the schedule are all multiples of a tick. -/
theorem tick_dvd_retryDelay (attempts : Nat) :
    (maintenanceTickInterval : Nat) ∣ retryDelay attempts := by
  have hpower : ∀ k < 4, (maintenanceTickInterval : Nat) ∣
      min (handshakeRetryBase * 2 ^ k) handshakeRetryMax := by decide
  apply hpower
  omega

theorem tick_dvd_earliestRetry (n : Nat) : (maintenanceTickInterval : Nat) ∣ earliestRetry n := by
  induction n with
  | zero => exact Nat.dvd_zero _
  | succ n ih => exact Nat.dvd_add ih (tick_dvd_retryDelay (n + 1))

theorem exists_last_copy {fallback timeout : Nat}
    (hfallback : (maintenanceTickInterval : Nat) ∣ fallback)
    (htimeout : (maintenanceTickInterval : Nat) ∣ timeout)
    (hlate : ¬ FallbackInTime fallback timeout) :
    ∃ n sent : Nat, n < handshakeMaxAttempts ∧ earliestRetry n ≤ sent ∧
      sent ≤ earliestRetry n + n * tickSlack ∧ sent < fallback ∧
      (n + 1 < handshakeMaxAttempts → timeout ≤ sent + retryDelay (n + 1) + tickSlack) := by
  by_cases hcapped : fallback ≤ earliestRetry (handshakeMaxAttempts - 1)
  · have hgap : ∃ n < handshakeMaxAttempts - 1, earliestRetry n < fallback ∧
        timeout < latestRetry (n + 1) ∧
        timeout < fallback + retryDelay (n + 1) + maintenanceTickInterval := by
      by_contra hnone
      apply hlate
      refine ⟨hcapped, fun n hn => ?_⟩
      by_contra hgap
      simp only [not_or, Nat.not_le] at hgap
      exact hnone ⟨n, hn, hgap⟩
    obtain ⟨n, hn, hstarted, hlast, hafter⟩ := hgap
    refine ⟨n, min (fallback - 1) (earliestRetry n + n * tickSlack), Nat.lt_trans hn (by decide), ?_⟩
    -- all times are multiples of a tick, so a bound that is missed is missed by a whole one
    have htick : @Eq Nat maintenanceTickInterval 250000000 := by decide
    have hslack : tickSlack = 249999999 := by decide
    have hfew : n < 9 := hn
    obtain ⟨delay, hdelay⟩ := tick_dvd_retryDelay (n + 1)
    obtain ⟨first, hfirst⟩ := tick_dvd_earliestRetry n
    obtain ⟨fallbackTicks, hfallback⟩ := hfallback
    obtain ⟨timeoutTicks, htimeout⟩ := htimeout
    rw [latestRetry_succ, latestRetry, hdelay] at hlast
    rw [hdelay] at hafter ⊢
    rw [htick] at hfallback htimeout hfirst hlast hafter ⊢
    rw [hslack]
    omega
  · refine ⟨handshakeMaxAttempts - 1, earliestRetry (handshakeMaxAttempts - 1), by decide,
      Nat.le_refl _, Nat.le_add_right _ _, Nat.not_le.mp hcapped, ?_⟩
    intro hfew
    exact absurd hfew (by decide)

/-- If the fallback is not in time, there is a schedule by which the relay is not
tried. -/
theorem exists_avoiding_schedule {created : Nat} (hrelay : handshake.relayAddr = none)
    (hcreated : handshake.createdAt = created) (haddr : addr ≠ handshake.directAddr)
    (hfallback : (maintenanceTickInterval : Nat) ∣ timings.relayFallback)
    (htimeout : (maintenanceTickInterval : Nat) ∣ timings.handshakeTimeout)
    (hlt : timings.relayFallback < timings.handshakeTimeout)
    (hlate : ¬ FallbackInTime timings.relayFallback timings.handshakeTimeout) :
    ∃ times, Paced maintenanceTickInterval (created + timings.handshakeTimeout) created times ∧
      (∀ now ∈ times, now < created + timings.handshakeTimeout) ∧
      Avoids timings relays addr (resent handshake 0 created) times := by
  have hslack : (tickSlack : Nat) + 1 = maintenanceTickInterval := rfl
  obtain ⟨n, sent, hn, hearliest, hlatest, hbefore, hnext⟩ :=
    exists_last_copy hfallback htimeout hlate
  have hearly : sent < timings.handshakeTimeout := Nat.lt_trans hbefore hlt
  obtain ⟨times, hleads, havoids, hafter⟩ := @exists_schedule timings relays addr handshake created
    hrelay hcreated haddr n (created + sent) hn (by omega) (by omega) (by omega) (by omega)
  -- the ticks go on until the next copy is due, or until the timeout if none is left
  obtain ⟨stop, hstop, hquiet, halive, hends⟩ : ∃ stop : Nat, created + sent ≤ stop ∧
      (n + 1 < handshakeMaxAttempts → stop < created + sent + retryDelay (n + 1)) ∧
      stop < created + timings.handshakeTimeout ∧
      created + timings.handshakeTimeout ≤ stop + maintenanceTickInterval := by
    have hdelay : (0 : Nat) < retryDelay (n + 1) := retryDelay_pos _
    by_cases hleft : n + 1 < handshakeMaxAttempts
    · have hnext := hnext hleft
      refine ⟨min (created + sent + retryDelay (n + 1) - 1) (created + timings.handshakeTimeout - 1),
        ?_⟩
      omega
    · refine ⟨created + timings.handshakeTimeout - 1, ?_⟩
      omega
  obtain ⟨pause, hpause⟩ := @exists_leads maintenanceTickInterval (created + sent) stop (by decide)
    hstop
  have hall := hleads.append hpause
  refine ⟨times ++ pause, hall.paced hends, ?_, havoids.append ?_⟩
  · intro now hnow
    exact Nat.lt_of_le_of_lt (hall.le_stop.2 now hnow) halive
  · rw [hafter]
    apply avoids_of_not_due
    intro now hnow hleft
    exact Nat.lt_of_le_of_lt (hpause.le_stop.2 now hnow) (hquiet hleft)

end TooLate

/-! ## A node that knows one relay -/

section OneRelay

variable {lib : Primitives} (node : Node lib) (env : Env) (relayId : UInt32) (relay : PeerState)
  (key : UInt32)

def loneState (handshake : PendingHandshake) : NodeState :=
  { NodeState.initial [] with
    peers := (∅ : AssocMap UInt32 PeerState).insert relayId relay
    pending := (∅ : AssocMap UInt32 PendingHandshake).insert key handshake }

def loneTicks : PendingHandshake → List Instant → List Tick
  | _, [] => []
  | handshake, now :: times =>
      ⟨{ env with now := now }, loneState relayId relay key handshake⟩ ::
        loneTicks (afterTick now node.timings [(relayId, relay.addr)] handshake) times

variable {relay} {handshake : PendingHandshake} {times : List Instant}

theorem connectedRelays_loneState (hrelay : relay.isRelay = true) :
    connectedRelays (loneState relayId relay key handshake) = [(relayId, relay.addr)] := by
  have hentries : (loneState relayId relay key handshake).peers.entries = [⟨relayId, relay⟩] := rfl
  unfold connectedRelays
  rw [hentries]
  simp [hrelay]

theorem firstRelay_loneState (hrelay : relay.isRelay = true) {target : UInt32}
    (hother : relayId ≠ target) :
    firstRelay (loneState relayId relay key handshake) target = some (relayId, relay.addr) := by
  unfold firstRelay
  rw [connectedRelays_loneState relayId key hrelay]
  simp [hother]

theorem exists_of_mem_loneTicks {tick : Tick}
    (h : tick ∈ loneTicks node env relayId relay key handshake times) :
    ∃ handshake, tick.state = loneState relayId relay key handshake := by
  induction times generalizing handshake with
  | nil => contradiction
  | cons now times ih =>
      obtain rfl | hrest := List.mem_cons.mp h
      · exact ⟨handshake, rfl⟩
      · exact ih hrest

theorem tickTimes_loneTicks :
    tickTimes (loneTicks node env relayId relay key handshake times) = times := by
  induction times generalizing handshake with
  | nil => rfl
  | cons now times ih => exact congrArg (now :: ·) ih

variable {node} {created : Nat}

theorem createdAt_afterTick (now : Instant) (timings : Timings)
    (relays : List (UInt32 × SocketAddr)) (handshake : PendingHandshake) :
    (afterTick now timings relays handshake).createdAt = handshake.createdAt := by
  unfold afterTick withAttempt
  rw [withRelayFallback_eq]
  split <;> rfl

theorem unanswered_loneTicks (hrelay : relay.isRelay = true) (hcreated : handshake.createdAt = created)
    (hpos : (0 : Nat) < node.timings.handshakeTimeout)
    (halive : ∀ now ∈ times, now < created + node.timings.handshakeTimeout) :
    Unanswered node key (some handshake)
      (loneTicks node env relayId relay key handshake times) := by
  induction times generalizing handshake with
  | nil => trivial
  | cons now times ih =>
      obtain ⟨hnow, halive⟩ := List.forall_mem_cons.mp halive
      have hlookup : (loneState relayId relay key handshake).pending.lookup key = some handshake :=
        AList.lookup_insert _
      have hexpired : handshake.expired now node.timings = false := not_expired hcreated hpos hnow
      refine ⟨hlookup, ?_⟩
      rw [lookup_after_tick hlookup hexpired, connectedRelays_loneState relayId key hrelay]
      exact ih ((createdAt_afterTick _ _ _ _).trans hcreated) halive

theorem not_retransmits_of_avoids (hrelay : relay.isRelay = true) (initiate : HandshakeInitiate)
    (havoids : Avoids node.timings [(relayId, relay.addr)] relay.addr handshake times) :
    ∀ tick ∈ loneTicks node env relayId relay key handshake times,
      ¬ Retransmits node tick initiate relay.addr := by
  induction times generalizing handshake with
  | nil => exact List.forall_mem_nil _
  | cons now times ih =>
      refine List.forall_mem_cons.mpr ⟨?_, ih havoids.2⟩
      rintro ⟨copy, hcopy, -, haddr⟩
      obtain ⟨other, found, hlookup, hdue, hfound, htarget⟩ :=
        exists_pending_of_mem_retransmissions hcopy
      have hsame : found = handshake := by
        change ((∅ : AssocMap UInt32 PendingHandshake).insert key handshake).lookup other = _
          at hlookup
        rw [AssocMap.lookup_insert_eq] at hlookup
        split at hlookup
        · exact (Option.some.inj hlookup).symm
        · contradiction
      rw [hsame] at hdue hfound
      rw [hfound, haddr, connectedRelays_loneState relayId key hrelay] at htarget
      exact havoids.1 hdue htarget

theorem not_relayTried_of_avoids (hrelay : relay.isRelay = true) {target : UInt32}
    (hother : relayId ≠ target) (initiate : HandshakeInitiate)
    (havoids : Avoids node.timings [(relayId, relay.addr)] relay.addr handshake times) :
    ¬ RelayTried node target initiate (loneTicks node env relayId relay key handshake times) := by
  rintro ⟨tick, htick, found, hfound, chosen, hchosen, hsent⟩
  obtain ⟨handshake', hstate⟩ := exists_of_mem_loneTicks node env relayId key hfound
  rw [hstate, firstRelay_loneState relayId key hrelay hother] at hchosen
  rw [← Option.some.inj hchosen] at hsent
  exact not_retransmits_of_avoids env relayId key hrelay initiate havoids tick htick hsent

end OneRelay

/-! ## Configurations -/

section Configurations

variable {lib : Primitives}

/-- However the ticks fall, a handshake that stays unanswered is tried through a
relay, if one is connected all the time. -/
def TriesRelay (node : Node lib) (key : UInt32) (initiate : HandshakeInitiate)
    (directAddr : SocketAddr) (target : UInt32) (peerName : String) (created : Nat) : Prop :=
  ∀ ticks : List Tick,
    Unanswered node key (some (.new initiate directAddr (some target) peerName created)) ticks →
    Paced maintenanceTickInterval (created + node.timings.handshakeTimeout) created
      (tickTimes ticks) →
    (∀ tick ∈ ticks, (firstRelay tick.state target).isSome = true) →
    RelayTried node target initiate ticks

variable {config : AppConfig} {node : Node lib}

theorem fallback_of_validate (hvalid : config.validate = .ok ()) :
    0 < (configTimings config).relayFallback ∧
      (configTimings config).relayFallback < (configTimings config).handshakeTimeout := by
  obtain ⟨hzero, -, hlt, -⟩ := AppConfig.validate_eq_ok_iff.mp hvalid
  have hfallback : config.relayFallbackTimeoutSecs ≠ 0 :=
    hzero ("relay_fallback_timeout_secs", config.relayFallbackTimeoutSecs) (by
      simp [AppConfig.zeroChecks])
  have hpos : 0 < config.relayFallbackTimeoutSecs.toNat :=
    Nat.pos_of_ne_zero fun h => hfallback (UInt64.toNat_inj.mp h)
  exact ⟨Nat.mul_pos hpos (by decide), Nat.mul_lt_mul_of_pos_right hlt (by decide)⟩

theorem tick_dvd_fromSecs (secs : Nat) : (maintenanceTickInterval : Nat) ∣ Duration.fromSecs secs :=
  Nat.dvd_mul_left_of_dvd (by decide) secs

theorem triesRelay_of_inTime (hvalid : config.validate = .ok ())
    (hnode : node.timings = configTimings config)
    (hintime : FallbackInTime (configTimings config).relayFallback
      (configTimings config).handshakeTimeout)
    (key : UInt32) (initiate : HandshakeInitiate) (directAddr : SocketAddr) (target : UInt32)
    (peerName : String) (created : Nat) :
    TriesRelay node key initiate directAddr target peerName created := by
  intro ticks hunanswered hpaced hrelays
  rw [← hnode] at hintime
  have hfallback : 0 < node.timings.relayFallback := by
    rw [hnode]
    exact (fallback_of_validate hvalid).1
  obtain ⟨tick, htick, addr, hcopy, haddr⟩ :=
    (waiting_new node.timings initiate directAddr target peerName created hfallback).relay_tried
      hintime hunanswered hpaced hrelays
  obtain hknown | ⟨found, hfound, relay, hrelay, rfl⟩ := haddr
  · contradiction
  · exact ⟨tick, htick, found, hfound, relay, hrelay, hcopy⟩

def relaySession (cert : Cert) (id : UInt32) (addr : SocketAddr) : NewSession where
  id := id
  sessionKey := Vector.replicate _ 0
  cert := cert
  addr := addr
  directAddr := none
  relayed := false
  isRelay := true
  txSessionId := 1
  rxSessionId := 1
  initiatorId := id
  simultaneous := false

theorem not_triesRelay_of_late (hvalid : config.validate = .ok ())
    (hnode : node.timings = configTimings config)
    (hlate : ¬ FallbackInTime (configTimings config).relayFallback
      (configTimings config).handshakeTimeout)
    (key : UInt32) (initiate : HandshakeInitiate) (directAddr : SocketAddr) (target : UInt32)
    (peerName : String) (created : Nat) :
    ¬ TriesRelay node key initiate directAddr target peerName created := by
  obtain ⟨addr, haddr⟩ : ∃ addr : SocketAddr, addr ≠ directAddr := by
    by_cases h : SocketAddr.v4 0 0 = directAddr
    · exact ⟨.v4 0 1, fun h' => absurd (h.trans h'.symm) (by decide)⟩
    · exact ⟨.v4 0 0, h⟩
  have hother : target + 1 ≠ target := by simp
  let relay := newPeer node created (relaySession node.cert (target + 1) addr) none
  have hends := (fallback_of_validate hvalid).2
  rw [← hnode] at hends hlate
  have hfallback : (maintenanceTickInterval : Nat) ∣ node.timings.relayFallback := by
    rw [hnode]
    exact tick_dvd_fromSecs _
  have htimeout : (maintenanceTickInterval : Nat) ∣ node.timings.handshakeTimeout := by
    rw [hnode]
    exact tick_dvd_fromSecs _
  obtain ⟨times, hpaced, halive, havoids⟩ := @exists_avoiding_schedule node.timings
    [(target + 1, relay.addr)] addr
    (.new initiate directAddr (some target) peerName created) created rfl rfl haddr
    hfallback htimeout hends hlate
  intro htries
  refine not_relayTried_of_avoids (Sample.env 0 1 ⟨1, by decide⟩) (target + 1) key
    (rfl : relay.isRelay = true) hother initiate havoids (htries _ ?_ ?_ ?_)
  · exact unanswered_loneTicks _ _ _ rfl rfl (Nat.zero_lt_of_lt hends) halive
  · rw [tickTimes_loneTicks]
    exact hpaced
  · intro tick htick
    obtain ⟨handshake, hstate⟩ := exists_of_mem_loneTicks _ _ _ _ htick
    rw [hstate, firstRelay_loneState _ _ rfl hother]
    rfl

/-- A node with a configuration that is accepted tries the relay, for every handshake
and however the ticks fall, exactly if the fallback is in time. -/
theorem triesRelay_iff_inTime (hvalid : config.validate = .ok ())
    (hnode : node.timings = configTimings config) (key : UInt32) (initiate : HandshakeInitiate)
    (directAddr : SocketAddr) (target : UInt32) (peerName : String) (created : Nat) :
    TriesRelay node key initiate directAddr target peerName created ↔
      FallbackInTime (configTimings config).relayFallback
        (configTimings config).handshakeTimeout := by
  constructor
  · intro htries
    by_contra hlate
    exact not_triesRelay_of_late hvalid hnode hlate key initiate directAddr target peerName created
      htries
  · intro hintime
    exact triesRelay_of_inTime hvalid hnode hintime key initiate directAddr target peerName created

end Configurations

namespace Sample

noncomputable def configured (config : AppConfig) : Node (transparent []) :=
  { node [] "alice" 1 with timings := configTimings config }

noncomputable def unansweredRequest : HandshakeInitiate :=
  (request [] "alice" 1 ⟨1, Core.Sample.one_ne⟩ false).initiate

def patient : AppConfig :=
  { AppConfig.default with
    relayFallbackTimeoutSecs := 30
    handshakeTimeoutSecs := 60 }

end Sample

theorem triesRelay_default :
    TriesRelay (Sample.configured .default) 1 Sample.unansweredRequest Core.Sample.source 2 "bob" 0 :=
  (@triesRelay_iff_inTime _ .default _ (by decide) rfl 1 Sample.unansweredRequest
    Core.Sample.source 2 "bob" 0).mpr (by decide)

/-- All copies are sent before the fallback. -/
theorem not_triesRelay_patient :
    Sample.patient.validate = .ok () ∧
      ¬ TriesRelay (Sample.configured Sample.patient) 1 Sample.unansweredRequest Core.Sample.source 2
        "bob" 0 :=
  have hvalid : Sample.patient.validate = .ok () := by decide
  ⟨hvalid, not_triesRelay_of_late hvalid rfl (by decide) 1 Sample.unansweredRequest
    Core.Sample.source 2 "bob" 0⟩

end Liteway.Daemon
