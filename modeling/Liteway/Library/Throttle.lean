import Liteway.Library.AssocMap
import Liteway.Library.Runs

/-!
# Throttles that forget

A throttle grants each key once per `retry` and keeps the time of the last grant.
To stay small it forgets grants that are `ttl` old.  If the clock does not go back
and `retry ≤ ttl`, nobody can tell: the answers are those of a throttle that
remembers every grant.
-/

namespace Liteway.Library

/-- What happens to a throttle. -/
inductive ThrottleMove (K : Type) where
  | ask (key : K) (now : Nat)
  | forget (now : Nat)

def ThrottleMove.now {K : Type} : ThrottleMove K → Nat
  | .ask _ now => now
  | .forget now => now

namespace Throttle

variable {K : Type} [DecidableEq K] (retry ttl : Nat)

/-- Whether a key is to be granted. -/
def due (last : AssocMap K Nat) (key : K) (now : Nat) : Bool :=
  !(last.lookup key).any fun granted => now - granted < retry

def step (last : AssocMap K Nat) : ThrottleMove K → AssocMap K Nat
  | .ask key now => if due retry last key now then last.insert key now else last
  | .forget now => AssocMap.retain (fun _ granted => now - granted < ttl) last

/-- The keys granted in a run, with their times. -/
def grants : AssocMap K Nat → List (ThrottleMove K) → List (K × Nat)
  | _, [] => []
  | last, .ask key now :: moves =>
      (if due retry last key now then [(key, now)] else []) ++
        grants (step retry ttl last (.ask key now)) moves
  | last, .forget now :: moves => grants (step retry ttl last (.forget now)) moves

/-- Grants of one key lie `retry` apart. -/
def Spaced (log : List (K × Nat)) : Prop :=
  log.Pairwise fun earlier later => earlier.1 = later.1 → earlier.2 + retry ≤ later.2

/-- The table of a throttle whose past grants are `log`, at the time `now`. -/
structure Remembers (last : AssocMap K Nat) (log : List (K × Nat)) (now : Nat) : Prop where
  past : ∀ grant ∈ log, grant.2 ≤ now
  latest : ∀ key granted, last.lookup key = some granted →
    (key, granted) ∈ log ∧ ∀ grant ∈ log, grant.1 = key → grant.2 ≤ granted
  forgotten : ∀ grant ∈ log, last.lookup grant.1 = none → grant.2 + ttl ≤ now

variable {retry ttl} {last : AssocMap K Nat} {log : List (K × Nat)} {now now' : Nat} {key : K}

theorem due_iff : due retry last key now = true ↔
    ∀ granted, last.lookup key = some granted → retry ≤ now - granted := by
  unfold due
  cases hlast : last.lookup key with
  | none => simp
  | some granted => simp

theorem grants_append (last : AssocMap K Nat) (before after : List (ThrottleMove K)) :
    grants retry ttl last (before ++ after) =
      grants retry ttl last before ++ grants retry ttl (runAll (step retry ttl) last before) after := by
  induction before generalizing last with
  | nil => rfl
  | cons move moves ih =>
      cases move with
      | ask key now => simp only [List.cons_append, grants, runAll_cons, ih, List.append_assoc]
      | forget now => simp only [List.cons_append, grants, runAll_cons, ih]

namespace Remembers

theorem nothing : Remembers ttl (∅ : AssocMap K Nat) [] now where
  past := List.forall_mem_nil _
  latest := fun key granted h => by simp at h
  forgotten := List.forall_mem_nil _

theorem mono (h : Remembers ttl last log now) (hle : now ≤ now') : Remembers ttl last log now' where
  past := fun grant hgrant => Nat.le_trans (h.past grant hgrant) hle
  latest := h.latest
  forgotten := fun grant hgrant hnone => Nat.le_trans (h.forgotten grant hgrant hnone) hle

/-- What was forgotten would not have held up an answer. -/
theorem due_iff (h : Remembers ttl last log now) (hretry : retry ≤ ttl) (key : K) :
    due retry last key now = true ↔ ∀ grant ∈ log, grant.1 = key → grant.2 + retry ≤ now := by
  rw [Throttle.due_iff]
  constructor
  · rintro hdue ⟨key', time⟩ hgrant rfl
    cases hlast : last.lookup key' with
    | none =>
        have hold := h.forgotten _ hgrant hlast
        simp only at hold ⊢
        omega
    | some granted =>
        obtain ⟨hmem, hlatest⟩ := h.latest key' granted hlast
        have hpast := h.past _ hmem
        have hle := hlatest _ hgrant rfl
        have hwait := hdue granted hlast
        simp only at hpast hle ⊢
        omega
  · intro hall granted hlast
    have hwait := hall _ (h.latest key granted hlast).1 rfl
    simp only at hwait
    omega

theorem grant (h : Remembers ttl last log now) (key : K) :
    Remembers ttl (last.insert key now) (log ++ [(key, now)]) now where
  past := List.forall_mem_append.mpr ⟨h.past, List.forall_mem_singleton.mpr (Nat.le_refl now)⟩
  latest := by
    intro found granted hfound
    rw [AssocMap.lookup_insert_eq] at hfound
    split at hfound
    · rename_i hkey
      cases Option.some.inj hfound
      refine ⟨List.mem_append_right _ (by simp [hkey]), fun grant hgrant _ => ?_⟩
      obtain hold | hnew := List.mem_append.mp hgrant
      · exact h.past grant hold
      · rw [List.mem_singleton.mp hnew]
    · rename_i hne
      obtain ⟨hmem, hlatest⟩ := h.latest found granted hfound
      refine ⟨List.mem_append_left _ hmem, fun grant hgrant hkey => ?_⟩
      obtain hold | hnew := List.mem_append.mp hgrant
      · exact hlatest grant hold hkey
      · rw [List.mem_singleton.mp hnew] at hkey
        exact absurd hkey.symm hne
  forgotten := by
    intro grant hgrant hnone
    rw [AssocMap.lookup_insert_eq] at hnone
    split at hnone
    · contradiction
    · rename_i hne
      obtain hold | hnew := List.mem_append.mp hgrant
      · exact h.forgotten grant hold hnone
      · rw [List.mem_singleton.mp hnew] at hne
        exact absurd rfl hne

theorem forget (h : Remembers ttl last log now) :
    Remembers ttl (step retry ttl last (.forget now)) log now where
  past := h.past
  latest := fun key granted hgranted => h.latest key granted (AssocMap.lookup_retain.mp hgranted).1
  forgotten := by
    intro grant hgrant hnone
    cases hlast : last.lookup grant.1 with
    | none => exact h.forgotten grant hgrant hlast
    | some granted =>
        have hle := (h.latest grant.1 granted hlast).2 grant hgrant rfl
        have hpast := h.past _ (h.latest grant.1 granted hlast).1
        have hdropped : ¬ now - granted < ttl := by
          intro hkeep
          have hkept : (step retry ttl last (.forget now)).lookup grant.1 = some granted :=
            AssocMap.lookup_retain.mpr ⟨hlast, decide_eq_true hkeep⟩
          exact Option.some_ne_none granted (hkept.symm.trans hnone)
        simp only at hpast
        omega

end Remembers

/-- After a run with a clock that does not go back the table still tells when each
key was granted last, up to what no longer matters. -/
theorem remembers_run {moves : List (ThrottleMove K)} {finish : Nat}
    (h : Remembers ttl last log now) (hclock : moves.Pairwise fun earlier later =>
      earlier.now ≤ later.now) (hstart : ∀ move ∈ moves, now ≤ move.now)
    (hfinish : ∀ move ∈ moves, move.now ≤ finish) (hle : now ≤ finish) :
    Remembers ttl (runAll (step retry ttl) last moves) (log ++ grants retry ttl last moves) finish := by
  induction moves generalizing last log now with
  | nil =>
      rw [grants, List.append_nil]
      exact h.mono hle
  | cons move moves ih =>
      obtain ⟨hmove, hrest⟩ := List.forall_mem_cons.mp hstart
      obtain ⟨hlast, hrest'⟩ := List.forall_mem_cons.mp hfinish
      obtain ⟨hhead, htail⟩ := List.pairwise_cons.mp hclock
      have h := h.mono hmove
      cases move with
      | ask key now =>
          simp only [grants, runAll_cons, step]
          cases hdue : due retry last key now with
          | true =>
              simp only [↓reduceIte]
              rw [← List.append_assoc]
              exact ih (h.grant key) htail hhead hrest' hlast
          | false =>
              simp only [Bool.false_eq_true, ↓reduceIte, List.nil_append]
              exact ih h htail hhead hrest' hlast
      | forget now =>
          simp only [grants, runAll_cons]
          exact ih h.forget htail hhead hrest' hlast

theorem spaced_run {moves : List (ThrottleMove K)} (h : Remembers ttl last log now)
    (hretry : retry ≤ ttl) (hspaced : Spaced retry log)
    (hclock : moves.Pairwise fun earlier later => earlier.now ≤ later.now)
    (hstart : ∀ move ∈ moves, now ≤ move.now) :
    Spaced retry (log ++ grants retry ttl last moves) := by
  induction moves generalizing last log now with
  | nil =>
      rw [grants, List.append_nil]
      exact hspaced
  | cons move moves ih =>
      obtain ⟨hmove, -⟩ := List.forall_mem_cons.mp hstart
      obtain ⟨hhead, htail⟩ := List.pairwise_cons.mp hclock
      have h := h.mono hmove
      cases move with
      | ask key now =>
          simp only [grants, step]
          cases hdue : due retry last key now with
          | true =>
              simp only [↓reduceIte]
              rw [← List.append_assoc]
              refine ih (h.grant key) ?_ htail hhead
              refine List.pairwise_append.mpr ⟨hspaced, List.pairwise_singleton _ _, ?_⟩
              intro grant hgrant later hlater hkey
              rw [List.mem_singleton.mp hlater] at hkey ⊢
              exact (h.due_iff hretry key).mp hdue grant hgrant hkey
          | false =>
              simp only [Bool.false_eq_true, ↓reduceIte, List.nil_append]
              exact ih h hspaced htail hhead
      | forget now =>
          rw [grants]
          exact ih h.forget hspaced htail hhead

end Throttle

end Liteway.Library
