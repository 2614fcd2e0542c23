import Liteway.Daemon.Keepalives
import Liteway.Library.Checked

/-!
# How often a relayed session is probed

After each probe of the direct path the pause is doubled, up to a ceiling.  The
configured pause itself may lie above the ceiling.  It may even lie beyond the end of
the clock, and then the probe panics.
-/

namespace Liteway.Daemon

open Liteway.Library Liteway.Core

namespace PeerState

def nextInterval (peer : PeerState) (timings : Timings) : Duration :=
  match peer.nextProbe with
  | none => timings.directProbeInterval
  | some _ => min (peer.probeInterval * 2) directProbeMaxInterval

section Probes

variable {peer : PeerState} {timings : Timings} {now : Instant}

theorem takePathProbe_cases (peer : PeerState) (now : Instant) (timings : Timings)
    (token : UInt64) :
    peer.takePathProbe now timings token = (.none, peer) ∨
      (peer.takePathProbe now timings token).1 ≠ .none ∧
        (∀ next, peer.nextProbe = some next → next ≤ now) ∧
        (peer.takePathProbe now timings token).2.probeInterval = peer.nextInterval timings ∧
        (peer.takePathProbe now timings token).2.nextProbe =
          some (now + peer.nextInterval timings) := by
  unfold takePathProbe
  split
  · exact Or.inl rfl
  split
  · exact Or.inl rfl
  split
  · exact Or.inl rfl
  · rename_i hdue
    right
    have htimes : ∀ next, peer.nextProbe = some next → next ≤ now := by
      intro next hnext
      rw [hnext] at hdue
      simpa using hdue
    unfold nextInterval
    cases hdirect : peer.directAddr with
    | none => exact ⟨by simp, htimes, rfl, rfl⟩
    | some direct => exact ⟨by simp, htimes, rfl, rfl⟩

theorem markSeen_probeInterval (peer : PeerState) (src : SocketAddr) (now : Instant)
    (viaRelay isKeepalive : Bool) :
    (peer.markSeen src now viaRelay isKeepalive).2.probeInterval = peer.probeInterval := by
  unfold markSeen
  simp only
  repeat' split
  all_goals rfl

theorem ackKeepalive_probeInterval (peer : PeerState) (token : UInt64) (now : Instant) :
    (peer.ackKeepalive token now).2.probeInterval = peer.probeInterval := by
  unfold ackKeepalive
  repeat' split
  all_goals rfl

theorem takePathProbe_path (peer : PeerState) (now : Instant) (timings : Timings) (token : UInt64) :
    (peer.takePathProbe now timings token).2.addr = peer.addr ∧
      (peer.takePathProbe now timings token).2.directAddr = peer.directAddr ∧
      (peer.takePathProbe now timings token).2.relayed = peer.relayed := by
  unfold takePathProbe
  simp only
  repeat' split
  all_goals exact ⟨rfl, rfl, rfl⟩

theorem takePathProbe_ne_none (hrelayed : peer.relayed = true)
    (hdirect : peer.directAddr ≠ some peer.addr)
    (hdue : ∀ next, peer.nextProbe = some next → next ≤ now) (token : UInt64) :
    (peer.takePathProbe now timings token).1 ≠ .none := by
  have hnot : ¬ (peer.nextProbe.any fun next => now < next) = true := by
    rw [Option.any_eq_true]
    rintro ⟨next, hnext, hlt⟩
    exact Nat.not_lt.mpr (hdue next hnext) (of_decide_eq_true hlt)
  unfold takePathProbe
  rw [if_neg (by simp [hrelayed]), if_neg hdirect, if_neg hnot]
  dsimp only
  cases peer.directAddr <;> simp

end Probes

end PeerState

/-! ## Where the clock ends -/

namespace Machine

/-- `take_path_probe` with a clock that ends: doubling the pause and adding it to the
time panic when the result is out of range. -/
def takePathProbe (clockEnd : Instant) (peer : PeerState) (now : Instant) (timings : Timings)
    (token : UInt64) : Checked (PathProbe × PeerState) :=
  if !peer.relayed then .ok (.none, peer)
  else if peer.directAddr = some peer.addr then .ok (.none, peer)
  else if peer.nextProbe.any fun next => now < next then .ok (.none, peer)
  else do
    let interval ←
      match peer.nextProbe with
      | none => pure timings.directProbeInterval
      | some _ => do
          let doubled ← Checked.upTo Duration.max (peer.probeInterval * 2)
          pure (min doubled directProbeMaxInterval)
    let next ← Checked.upTo clockEnd (now + interval)
    let peer := { peer with probeInterval := interval, nextProbe := some next }
    match peer.directAddr with
    | some direct => pure (.punch direct token, { peer with probeToken := some token })
    | none => pure (.lookup, peer)

section Clock

variable {clockEnd : Instant} {peer : PeerState} {now : Instant} {timings : Timings} {token : UInt64}

/-- The new pause and the end of it can be told. -/
def Fits (clockEnd : Instant) (peer : PeerState) (now : Instant) (timings : Timings) : Prop :=
  (peer.nextProbe.isSome = true → peer.probeInterval * 2 ≤ Duration.max) ∧
    now + peer.nextInterval timings ≤ clockEnd

theorem takePathProbe_of_fits (h : Fits clockEnd peer now timings) :
    takePathProbe clockEnd peer now timings token = .ok (peer.takePathProbe now timings token) := by
  obtain ⟨hdoubled, hnext⟩ := h
  unfold takePathProbe PeerState.takePathProbe
  unfold PeerState.nextInterval at hnext
  split
  · rfl
  split
  · rfl
  split
  · rfl
  cases hprobe : peer.nextProbe with
  | none =>
      simp only [hprobe] at hnext
      simp only [pure_bind, Checked.upTo_eq_ok hnext]
      cases hdirect : peer.directAddr <;> rfl
  | some next =>
      simp only [hprobe] at hnext hdoubled
      simp only [Checked.upTo_eq_ok (hdoubled rfl)]
      change (Checked.upTo clockEnd (now + min (peer.probeInterval * 2) directProbeMaxInterval) >>=
        _) = _
      rw [Checked.upTo_eq_ok hnext]
      cases hdirect : peer.directAddr <;> rfl

/-- A probe that does not panic is the one of the unbounded clock, and it fits. -/
theorem eq_of_takePathProbe {out : PathProbe × PeerState}
    (h : takePathProbe clockEnd peer now timings token = .ok out) :
    out = peer.takePathProbe now timings token ∧
      (out.1 ≠ .none → Fits clockEnd peer now timings) := by
  have hcases : out = (.none, peer) ∧ peer.takePathProbe now timings token = (.none, peer) ∨
      Fits clockEnd peer now timings := by
    unfold takePathProbe at h
    unfold PeerState.takePathProbe
    split at h
    · rename_i hdirect
      exact Or.inl ⟨(Except.ok.inj h).symm, if_pos hdirect⟩
    rename_i hrelayed
    rw [if_neg hrelayed]
    split at h
    · rename_i hdirect
      exact Or.inl ⟨(Except.ok.inj h).symm, if_pos hdirect⟩
    rename_i hdirect
    rw [if_neg hdirect]
    split at h
    · rename_i hwaits
      exact Or.inl ⟨(Except.ok.inj h).symm, if_pos hwaits⟩
    right
    unfold Fits PeerState.nextInterval
    cases hprobe : peer.nextProbe with
    | none =>
        simp only [hprobe, pure_bind] at h
        exact ⟨fun hsome => by contradiction, (Checked.le_of_upTo_bind h).1⟩
    | some next =>
        simp only [hprobe, pure_bind] at h
        obtain ⟨hdoubled, h⟩ := Checked.le_of_upTo_bind h
        exact ⟨fun _ => hdoubled, (Checked.le_of_upTo_bind h).1⟩
  obtain ⟨hout, hnone⟩ | hfits := hcases
  · exact ⟨hout.trans hnone.symm, fun hsome => absurd (congrArg Prod.fst hout) hsome⟩
  · rw [takePathProbe_of_fits hfits] at h
    exact ⟨(Except.ok.inj h).symm, fun _ => hfits⟩

end Clock

end Machine

/-! ## The probes of a run -/

/-- When the call asks for a probe, and the pause after it. -/
def probedAt (timings : Timings) (peer : PeerState) : SessionCall → Option (Nat × Nat)
  | .probe now token =>
      if (peer.takePathProbe now timings token).1 = .none then none
      else some (now, (peer.takePathProbe now timings token).2.probeInterval)
  | _ => none

def probesOf (timings : Timings) : PeerState → List SessionCall → List (Nat × Nat)
  | _, [] => []
  | peer, call :: calls =>
      (probedAt timings peer call).toList ++ probesOf timings (peer.afterCall timings call) calls

/-- Only probes move the time of the next probe. -/
def KeepsSchedule (timings : Timings) (peer : PeerState) (call : SessionCall) : Prop :=
  (∃ now token, call = .probe now token) ∨
    (peer.afterCall timings call).nextProbe = peer.nextProbe

/-- The call does not panic.  Only probes can. -/
def Returns (clockEnd : Instant) (timings : Timings) (peer : PeerState) : SessionCall → Prop
  | .probe now token => ∃ out, Machine.takePathProbe clockEnd peer now timings token = .ok out
  | _ => True

/-- A call between two resets that returns. -/
def Uneventful (clockEnd : Instant) (timings : Timings) (peer : PeerState) (call : SessionCall) :
    Prop :=
  KeepsSchedule timings peer call ∧ Returns clockEnd timings peer call

/-- No pause is shorter than the floor or than the one before it, and every pause is
kept. -/
def BacksOff (floor : Nat) (probes : List (Nat × Nat)) : Prop :=
  (∀ probe ∈ probes, floor ≤ probe.2) ∧
    probes.IsChain fun probe next => probe.1 + probe.2 ≤ next.1 ∧ probe.2 ≤ next.2

section Runs

variable {clockEnd : Instant} {timings : Timings} {peer : PeerState} {call : SessionCall}
  {calls : List SessionCall}

theorem afterCall_probeInterval (hcall : ∀ now token, call ≠ .probe now token) :
    (peer.afterCall timings call).probeInterval = peer.probeInterval ∧
      probedAt timings peer call = none := by
  refine ⟨?_, ?_⟩
  · cases call with
    | tick now token =>
        rw [PeerState.afterCall_tick]
        unfold PeerState.tick
        repeat' split
        all_goals rfl
    | probe now token => exact absurd rfl (hcall now token)
    | seen now src viaRelay isKeepalive =>
        exact PeerState.markSeen_probeInterval peer src now viaRelay isKeepalive
    | ack now src viaRelay token =>
        exact (PeerState.ackKeepalive_probeInterval _ token now).trans
          (PeerState.markSeen_probeInterval peer src now viaRelay false)
    | learned now addr =>
        unfold PeerState.afterCall learnDirectAddr
        simp only
        split
        all_goals rfl
  · cases call with
    | probe now token => exact absurd rfl (hcall now token)
    | _ => rfl

theorem probedAt_of_none {now : Instant} {token : UInt64}
    (h : peer.takePathProbe now timings token = (.none, peer)) :
    peer.afterCall timings (.probe now token) = peer ∧
      probedAt timings peer (.probe now token) = none := by
  unfold PeerState.afterCall probedAt
  simp only [h, ↓reduceIte, and_self]

theorem probedAt_of_ne {now : Instant} {token : UInt64}
    (h : (peer.takePathProbe now timings token).1 ≠ .none) :
    probedAt timings peer (.probe now token) =
      some (now, (peer.takePathProbe now timings token).2.probeInterval) :=
  if_neg h

theorem probesOf_probe {now : Instant} {token : UInt64}
    (h : (peer.takePathProbe now timings token).1 ≠ .none) :
    probesOf timings peer (.probe now token :: calls) =
      (now, (peer.takePathProbe now timings token).2.probeInterval) ::
        probesOf timings (peer.takePathProbe now timings token).2 calls := by
  rw [probesOf, probedAt_of_ne h]
  rfl

theorem BacksOff.cons {floor : Nat} {probe next : Nat × Nat} {probes : List (Nat × Nat)}
    (h : BacksOff floor (next :: probes)) (hfloor : floor ≤ probe.2)
    (hkept : probe.1 + probe.2 ≤ next.1) (hlonger : probe.2 ≤ next.2) :
    BacksOff floor (probe :: next :: probes) :=
  ⟨List.forall_mem_cons.mpr ⟨hfloor, h.1⟩, List.isChain_cons_cons.mpr ⟨⟨hkept, hlonger⟩, h.2⟩⟩

theorem backsOff_after_probe {floor last pause : Nat} (hnext : peer.nextProbe = some (last + pause))
    (hpause : peer.probeInterval = pause) (hfloor : floor ≤ pause)
    (hceiling : pause ≤ directProbeMaxInterval)
    (hguard : Guarded (PeerState.afterCall timings) (Uneventful clockEnd timings) peer calls) :
    BacksOff floor ((last, pause) :: probesOf timings peer calls) := by
  induction calls generalizing peer last pause with
  | nil => exact ⟨by simpa [probesOf] using hfloor, List.isChain_singleton _⟩
  | cons call calls ih =>
      unfold probesOf
      by_cases hprobe : ∃ now token, call = .probe now token
      · obtain ⟨now, token, rfl⟩ := hprobe
        obtain hnone | ⟨hsome, hdue, hinterval, hnext'⟩ :=
          PeerState.takePathProbe_cases peer now timings token
        · obtain ⟨hsame, hquiet⟩ := probedAt_of_none hnone
          rw [hquiet, hsame]
          have hrest := hguard.2
          rw [hsame] at hrest
          exact ih hnext hpause hfloor hceiling hrest
        · have hgrown : peer.nextInterval timings = min (pause * 2) directProbeMaxInterval := by
            unfold PeerState.nextInterval
            rw [hnext, hpause]
          have hlonger : pause ≤ min (pause * 2) directProbeMaxInterval :=
            Nat.le_min.mpr ⟨Nat.le_mul_of_pos_right pause (by decide), hceiling⟩
          rw [hgrown] at hinterval hnext'
          rw [probedAt_of_ne hsome, hinterval]
          exact BacksOff.cons (ih hnext' hinterval (Nat.le_trans hfloor hlonger)
            (Nat.min_le_right _ _) hguard.2) hfloor (hdue _ hnext) hlonger
      · obtain ⟨hsame, hquiet⟩ := @afterCall_probeInterval timings peer call
          (fun now token hcall => hprobe ⟨now, token, hcall⟩)
        have hkept := hguard.1.1.resolve_left hprobe
        rw [hquiet]
        exact ih (hkept.trans hnext) (hsame.trans hpause) hfloor hceiling hguard.2

/-- Two probes with the given first pause are more than the clock or a `Duration` can
tell. -/
def Once (clockEnd : Instant) (pause : Duration) : Prop :=
  clockEnd < pause + directProbeMaxInterval ∨ Duration.max < pause * 2

theorem probesOf_after_only_probe {last pause : Nat}
    (hnext : peer.nextProbe = some (last + pause)) (hpause : peer.probeInterval = pause)
    (hceiling : directProbeMaxInterval < pause) (honce : Once clockEnd pause)
    (hguard : Guarded (PeerState.afterCall timings) (Uneventful clockEnd timings) peer calls) :
    probesOf timings peer calls = [] := by
  induction calls generalizing peer with
  | nil => rfl
  | cons call calls ih =>
      unfold probesOf
      by_cases hprobe : ∃ now token, call = .probe now token
      · obtain ⟨now, token, rfl⟩ := hprobe
        obtain hnone | ⟨hsome, hdue, -⟩ := PeerState.takePathProbe_cases peer now timings token
        · obtain ⟨hsame, hquiet⟩ := probedAt_of_none hnone
          have hrest := hguard.2
          rw [hsame] at hrest
          rw [hquiet, hsame, ih hnext hpause hrest]
          rfl
        -- a second probe would not have returned
        · obtain ⟨out, hout⟩ := hguard.1.2
          obtain ⟨rfl, hfits⟩ := Machine.eq_of_takePathProbe hout
          obtain ⟨hdoubled, hend⟩ := hfits hsome
          have hlong : peer.nextInterval timings = directProbeMaxInterval := by
            unfold PeerState.nextInterval
            rw [hnext, hpause]
            exact Nat.min_eq_right (Nat.le_trans hceiling.le (Nat.le_mul_of_pos_right pause (by decide)))
          rw [hlong] at hend
          rw [hnext, hpause] at hdoubled
          have hlate := hdue _ hnext
          obtain hclock | hduration := honce
          · have hwaited : pause ≤ now := Nat.le_trans (Nat.le_add_left pause last) hlate
            exact absurd (Nat.le_trans (Nat.add_le_add_right hwaited _) hend) (Nat.not_le.mpr hclock)
          · exact absurd (hdoubled rfl) (Nat.not_le.mpr hduration)
      · obtain ⟨hsame, hquiet⟩ := @afterCall_probeInterval timings peer call
          (fun now token hcall => hprobe ⟨now, token, hcall⟩)
        have hkept := hguard.1.1.resolve_left hprobe
        rw [hquiet, ih (hkept.trans hnext) (hsame.trans hpause) hguard.2]
        rfl

theorem backsOff_after_reset (hnext : peer.nextProbe = none)
    (hceiling : timings.directProbeInterval ≤ directProbeMaxInterval ∨
      directProbeMaxInterval < timings.directProbeInterval ∧
        Once clockEnd timings.directProbeInterval)
    (hguard : Guarded (PeerState.afterCall timings) (Uneventful clockEnd timings) peer calls) :
    BacksOff timings.directProbeInterval (probesOf timings peer calls) := by
  induction calls generalizing peer with
  | nil => exact ⟨by simp [probesOf], List.IsChain.nil⟩
  | cons call calls ih =>
      unfold probesOf
      by_cases hprobe : ∃ now token, call = .probe now token
      · obtain ⟨now, token, rfl⟩ := hprobe
        obtain hnone | ⟨hsome, -, hinterval, hnext'⟩ :=
          PeerState.takePathProbe_cases peer now timings token
        · obtain ⟨hsame, hquiet⟩ := probedAt_of_none hnone
          rw [hquiet, hsame]
          have hrest := hguard.2
          rw [hsame] at hrest
          exact ih hnext hrest
        · have hfirst : peer.nextInterval timings = timings.directProbeInterval := by
            unfold PeerState.nextInterval
            rw [hnext]
          rw [hfirst] at hinterval hnext'
          rw [probedAt_of_ne hsome, hinterval]
          obtain hbelow | ⟨habove, honce⟩ := hceiling
          · exact backsOff_after_probe hnext' hinterval (le_refl _) hbelow hguard.2
          · have hlast : probesOf timings (peer.afterCall timings (.probe now token)) calls = [] :=
              probesOf_after_only_probe hnext' hinterval habove honce hguard.2
            rw [hlast]
            exact ⟨by simp, List.isChain_singleton _⟩
      · have hquiet := (@afterCall_probeInterval timings peer call
          (fun now token hcall => hprobe ⟨now, token, hcall⟩)).2
        have hkept := hguard.1.1.resolve_left hprobe
        rw [hquiet]
        exact ih (hkept.trans hnext) hguard.2

theorem not_backsOff_above_ceiling (hrelayed : peer.relayed = true) (hnext : peer.nextProbe = none)
    (hdirect : peer.directAddr = none)
    (hceiling : directProbeMaxInterval < timings.directProbeInterval) :
    ¬ BacksOff timings.directProbeInterval (probesOf timings peer
      [.probe 0 0, .probe timings.directProbeInterval 0]) := by
  intro hbacksOff
  have hasks : (peer.takePathProbe 0 timings 0).1 ≠ .none := by
    apply PeerState.takePathProbe_ne_none hrelayed
    · simp [hdirect]
    · simp [hnext]
  obtain hnone | ⟨-, -, hinterval, hnext'⟩ := PeerState.takePathProbe_cases peer 0 timings 0
  · rw [hnone] at hasks
    exact hasks rfl
  have hfirst : peer.nextInterval timings = timings.directProbeInterval := by
    unfold PeerState.nextInterval
    rw [hnext]
  rw [hfirst] at hinterval hnext'
  obtain ⟨haddr, hdirect', hrelayed'⟩ := PeerState.takePathProbe_path peer 0 timings 0
  rw [probesOf_probe hasks] at hbacksOff
  generalize (peer.takePathProbe 0 timings 0).2 = waiting at *
  have hasks' : (waiting.takePathProbe timings.directProbeInterval timings 0).1 ≠ .none := by
    apply PeerState.takePathProbe_ne_none (hrelayed'.trans hrelayed)
    · simp [hdirect', hdirect]
    · intro next hnext
      rw [hnext', Nat.zero_add, Option.some.injEq] at hnext
      exact Nat.le_of_eq hnext.symm
  obtain hnone | ⟨-, -, hinterval', -⟩ :=
    PeerState.takePathProbe_cases waiting timings.directProbeInterval timings 0
  · rw [hnone] at hasks'
    exact hasks' rfl
  have hsecond : waiting.nextInterval timings ≤ directProbeMaxInterval := by
    unfold PeerState.nextInterval
    rw [hnext']
    exact Nat.min_le_right _ _
  rw [probesOf_probe hasks', hinterval'] at hbacksOff
  have hpause := hbacksOff.1 _ (List.mem_cons_of_mem _ List.mem_cons_self)
  exact absurd (Nat.le_trans hpause hsecond) (Nat.not_le.mpr hceiling)

theorem uneventful_above_ceiling (hrelayed : peer.relayed = true) (hnext : peer.nextProbe = none)
    (hdirect : peer.directAddr = none) (htwice : ¬ Once clockEnd timings.directProbeInterval) :
    Guarded (PeerState.afterCall timings) (Uneventful clockEnd timings) peer
      [.probe 0 0, .probe timings.directProbeInterval 0] := by
  obtain ⟨hclock, hduration⟩ := not_or.mp htwice
  have hfirst : Machine.Fits clockEnd peer 0 timings := by
    unfold Machine.Fits PeerState.nextInterval
    rw [hnext]
    refine ⟨fun hsome => by contradiction, ?_⟩
    rw [Nat.zero_add]
    exact Nat.le_trans (Nat.le_add_right _ _) (Nat.not_lt.mp hclock)
  have hasks : (peer.takePathProbe 0 timings 0).1 ≠ .none := by
    apply PeerState.takePathProbe_ne_none hrelayed
    · simp [hdirect]
    · simp [hnext]
  obtain hnone | ⟨-, -, hinterval, hnext'⟩ := PeerState.takePathProbe_cases peer 0 timings 0
  · rw [hnone] at hasks
    exact absurd rfl hasks
  have hpause : peer.nextInterval timings = timings.directProbeInterval := by
    unfold PeerState.nextInterval
    rw [hnext]
  rw [hpause] at hinterval
  have hsecond : Machine.Fits clockEnd (peer.takePathProbe 0 timings 0).2
      timings.directProbeInterval timings := by
    unfold Machine.Fits PeerState.nextInterval
    rw [hnext', hinterval]
    refine ⟨fun _ => Nat.not_lt.mp hduration, ?_⟩
    exact Nat.le_trans (Nat.add_le_add_left (Nat.min_le_right _ _) _) (Nat.not_lt.mp hclock)
  exact ⟨⟨Or.inl ⟨_, _, rfl⟩, _, Machine.takePathProbe_of_fits hfirst⟩,
    ⟨Or.inl ⟨_, _, rfl⟩, _, Machine.takePathProbe_of_fits hsecond⟩, trivial⟩

end Runs

namespace Sample

noncomputable def relayedPeer : PeerState := { idlePeer with relayed := true }

def unhurried : AppConfig := { AppConfig.default with directProbeIntervalSecs := 60 }

/-- The clock of a system whose times are signed 64-bit counts of seconds. -/
def clockEnd : Instant := Duration.fromSecs (2 ^ 63 - 1)

end Sample

/-- The probes of a relayed session back off from the configured pause, in every run
between two resets, exactly if that is not above the ceiling of 30 s, or so long that
the second probe panics. -/
theorem backsOff_iff_interval_le (clockEnd : Instant) (config : AppConfig) :
    (∀ peer calls, peer.relayed = true → peer.nextProbe = none →
      Guarded (PeerState.afterCall (configTimings config))
        (Uneventful clockEnd (configTimings config)) peer calls →
      BacksOff (configTimings config).directProbeInterval
        (probesOf (configTimings config) peer calls)) ↔
      config.directProbeIntervalSecs ≤ 30 ∨
        Once clockEnd (configTimings config).directProbeInterval := by
  constructor
  · intro hall
    by_contra hneither
    obtain ⟨hlong, htwice⟩ := not_or.mp hneither
    have hsecs : 30 < config.directProbeIntervalSecs.toNat := Nat.not_le.mp hlong
    have hceiling : directProbeMaxInterval < (configTimings config).directProbeInterval :=
      Nat.mul_lt_mul_of_pos_right hsecs (by decide)
    exact @not_backsOff_above_ceiling (configTimings config) Sample.relayedPeer rfl rfl rfl hceiling
      (hall Sample.relayedPeer _ rfl rfl (uneventful_above_ceiling rfl rfl rfl htwice))
  · intro hcondition peer calls _ hnext hguard
    refine backsOff_after_reset hnext ?_ hguard
    by_cases hshort : config.directProbeIntervalSecs ≤ 30
    · have hsecs : config.directProbeIntervalSecs.toNat ≤ 30 := hshort
      exact Or.inl (Nat.mul_le_mul_right _ hsecs)
    · have hsecs : 30 < config.directProbeIntervalSecs.toNat := Nat.not_le.mp hshort
      exact Or.inr ⟨Nat.mul_lt_mul_of_pos_right hsecs (by decide), hcondition.resolve_left hshort⟩

/-- With a pause of 60 s the second probe follows the first after 60 s and the third
after another 30 s. -/
theorem not_backsOff_unhurried :
    Sample.unhurried.validate = .ok () ∧
      Guarded (PeerState.afterCall (configTimings Sample.unhurried))
        (Uneventful Sample.clockEnd (configTimings Sample.unhurried)) Sample.relayedPeer
        [.probe 0 0, .probe (configTimings Sample.unhurried).directProbeInterval 0] ∧
      ¬ BacksOff (configTimings Sample.unhurried).directProbeInterval
        (probesOf (configTimings Sample.unhurried) Sample.relayedPeer
          [.probe 0 0, .probe (configTimings Sample.unhurried).directProbeInterval 0]) :=
  ⟨by decide, uneventful_above_ceiling rfl rfl rfl (by unfold Once; decide),
    not_backsOff_above_ceiling rfl rfl rfl (by decide)⟩

end Liteway.Daemon
