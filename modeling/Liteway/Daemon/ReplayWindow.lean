import Mathlib.Data.Nat.Bitwise
import Mathlib.Data.List.MinMax
import Mathlib.Order.Lattice

/-!
# The replay window

`ReplayWindow` remembers the highest sequence number of a session and a bitmap
of the 64 numbers ending there.  What it stands for is the unbounded list of
numbers accepted so far; `Represents` ties the two together and survives every
call of `accept`.
-/

namespace Liteway.Daemon

def replayWindowBits : UInt64 := 64

structure ReplayWindow where
  initialized : Bool
  highest : UInt64
  seen : UInt64
deriving DecidableEq

namespace ReplayWindow

def new : ReplayWindow := ⟨false, 0, 0⟩

def accept (window : ReplayWindow) (seq : UInt64) : Bool × ReplayWindow :=
  if !window.initialized then
    (true, { initialized := true, highest := seq, seen := 1 })
  else if seq > window.highest then
    let shift := seq - window.highest
    let seen := if shift ≥ replayWindowBits then 1 else (window.seen <<< shift) ||| 1
    (true, { window with seen := seen, highest := seq })
  else
    let behind := window.highest - seq
    if behind ≥ replayWindowBits then
      (false, window)
    else
      let bit := 1 <<< behind
      if window.seen &&& bit ≠ 0 then
        (false, window)
      else
        (true, { window with seen := window.seen ||| bit })

theorem accept_of_refused {window : ReplayWindow} {seq : UInt64}
    (h : (window.accept seq).1 = false) : (window.accept seq).2 = window := by
  unfold accept at h ⊢
  split
  · rename_i hnew
    rw [if_pos hnew] at h
    contradiction
  rename_i hnew
  rw [if_neg hnew] at h
  split
  · rename_i hhigher
    rw [if_pos hhigher] at h
    contradiction
  rename_i hhigher
  rw [if_neg hhigher] at h
  simp only at h ⊢
  split
  · rfl
  rename_i hbehind
  rw [if_neg hbehind] at h
  split
  · rfl
  · rename_i hseen
    rw [if_neg hseen] at h
    contradiction

/-- Feed a sequence of numbers.  Returns the window together with the numbers
that were accepted, the latest first. -/
def acceptAll (seqs : List UInt64) : ReplayWindow × List UInt64 :=
  seqs.foldl (fun state seq =>
    let (accepted, window) := state.1.accept seq
    (window, if accepted then seq :: state.2 else state.2)) (new, [])

def maxAccepted (accepted : List UInt64) : Option Nat := (accepted.map UInt64.toNat).max?

/-- What the window is for: a number is fresh if it was not accepted before and
is fewer than 64 behind the largest accepted one. -/
def Fresh (accepted : List UInt64) (seq : UInt64) : Prop :=
  seq ∉ accepted ∧ ∀ highest, maxAccepted accepted = some highest → (highest : Int) - seq.toNat < 64

structure Represents (window : ReplayWindow) (accepted : List UInt64) : Prop where
  highest_eq :
    maxAccepted accepted = if window.initialized then some window.highest.toNat else none
  seen_iff : window.initialized = true → ∀ behind < 64,
    (window.seen.toNat.testBit behind = true ↔
      ∃ seq ∈ accepted, seq.toNat + behind = window.highest.toNat)

theorem represents_new : Represents new [] :=
  ⟨rfl, by simp [new]⟩

private theorem maxAccepted_cons {accepted : List UInt64} {seq : UInt64} {highest : Nat}
    (hmax : maxAccepted accepted = some highest) :
    maxAccepted (seq :: accepted) = some (max seq.toNat highest) := by
  unfold maxAccepted at *
  rw [List.map_cons, List.max?_cons, hmax]
  rfl

private theorem le_maxAccepted {accepted : List UInt64} {seq : UInt64} {highest : Nat}
    (hmax : maxAccepted accepted = some highest) (hmem : seq ∈ accepted) :
    seq.toNat ≤ highest :=
  (List.max?_eq_some_iff.mp hmax).2 _ (List.mem_map_of_mem hmem)

private theorem maxAccepted_eq_none {accepted : List UInt64}
    (h : maxAccepted accepted = none) : accepted = [] := by
  simpa [maxAccepted] using h

private theorem testBit_shift_or_one (seen shift : UInt64) (hshift : shift.toNat < 64)
    {behind : Nat} (hbehind : behind < 64) :
    ((seen <<< shift) ||| 1).toNat.testBit behind =
      (behind == 0 || decide (shift.toNat ≤ behind) && seen.toNat.testBit (behind - shift.toNat)) := by
  rw [UInt64.toNat_or, UInt64.toNat_shiftLeft, Nat.mod_eq_of_lt hshift, Nat.testBit_or,
    Nat.testBit_mod_two_pow, Nat.testBit_shiftLeft]
  have hone : (1 : UInt64).toNat = 2 ^ 0 := rfl
  rw [hone, Nat.testBit_two_pow, Bool.or_comm]
  have hzero : decide (0 = behind) = (behind == 0) := by
    cases behind <;> rfl
  rw [hzero, decide_eq_true hbehind, Bool.true_and]

private theorem testBit_single (behind : UInt64) (hbehind : behind.toNat < 64)
    {index : Nat} (hindex : index < 64) :
    ((1 : UInt64) <<< behind).toNat.testBit index = decide (index = behind.toNat) := by
  have hone : (1 : UInt64).toNat = 1 := rfl
  rw [UInt64.toNat_shiftLeft, Nat.mod_eq_of_lt hbehind, Nat.testBit_mod_two_pow, hone,
    Nat.one_shiftLeft, Nat.testBit_two_pow]
  simp [hindex, eq_comm]

private theorem and_single_ne_zero_iff (seen behind : UInt64) (hbehind : behind.toNat < 64) :
    seen &&& ((1 : UInt64) <<< behind) ≠ 0 ↔ seen.toNat.testBit behind.toNat = true := by
  have hvalue : ((1 : UInt64) <<< behind).toNat = 2 ^ behind.toNat := by
    have hlt : 2 ^ behind.toNat < 2 ^ 64 := Nat.pow_lt_pow_right (by decide) hbehind
    have hone : (1 : UInt64).toNat = 1 := rfl
    rw [UInt64.toNat_shiftLeft, Nat.mod_eq_of_lt hbehind, hone, Nat.one_shiftLeft,
      Nat.mod_eq_of_lt hlt]
  have hpos : 2 ^ behind.toNat ≠ 0 := (Nat.pow_pos (by decide)).ne'
  rw [ne_eq, ← UInt64.toNat_inj, UInt64.toNat_and, hvalue, Nat.and_two_pow]
  cases seen.toNat.testBit behind.toNat <;> simp

private theorem represents_first (seq : UInt64) : Represents ⟨true, seq, 1⟩ [seq] := by
  refine ⟨by simp [maxAccepted], ?_⟩
  intro _ behind hbehind
  have hone : (1 : UInt64).toNat = 2 ^ 0 := rfl
  rw [hone, Nat.testBit_two_pow]
  simp only [decide_eq_true_eq, List.mem_singleton, exists_eq_left]
  omega

private theorem accept_above {window : ReplayWindow} {accepted : List UInt64} {seq : UInt64}
    (hrep : Represents window accepted) (hinit : window.initialized = true)
    (hmax : maxAccepted accepted = some window.highest.toNat) (hgt : seq > window.highest) :
    ((window.accept seq).1 = true ↔ Fresh accepted seq) ∧
      Represents (window.accept seq).2
        (if (window.accept seq).1 then seq :: accepted else accepted) := by
  have hlt : window.highest.toNat < seq.toNat := UInt64.lt_iff_toNat_lt.mp hgt
  have hfresh : Fresh accepted seq := by
    refine ⟨fun hmem => ?_, fun highest hhigh => ?_⟩
    · have := le_maxAccepted hmax hmem
      omega
    · rw [hmax, Option.some.injEq] at hhigh
      omega
  have hshift : (seq - window.highest).toNat = seq.toNat - window.highest.toNat :=
    UInt64.toNat_sub_of_le _ _ (UInt64.le_of_lt hgt)
  simp only [accept, hinit, Bool.not_true, Bool.false_eq_true, ↓reduceIte, hgt, hfresh, iff_self,
    true_and]
  refine ⟨?_, ?_⟩
  · rw [maxAccepted_cons hmax, if_pos rfl, max_eq_left (by omega)]
  · intro _ behind hbehind
    by_cases hfar : seq - window.highest ≥ replayWindowBits
    · -- every older number has left the window, so only bit 0 may be set
      have hge : 64 ≤ seq.toNat - window.highest.toNat := by
        rw [← hshift]
        exact UInt64.le_iff_toNat_le.mp hfar
      have hone : (1 : UInt64).toNat = 2 ^ 0 := rfl
      simp only [hfar, ↓reduceIte, hone, Nat.testBit_two_pow, decide_eq_true_eq, List.mem_cons]
      constructor
      · rintro rfl
        exact ⟨seq, Or.inl rfl, by omega⟩
      · rintro ⟨old, rfl | hold, heq⟩
        · omega
        · have := le_maxAccepted hmax hold
          omega
    · have hnear : (seq - window.highest).toNat < 64 := by
        have := UInt64.lt_iff_toNat_lt.mp (UInt64.not_le.mp hfar)
        exact this
      simp only [hfar, ↓reduceIte]
      rw [testBit_shift_or_one _ _ hnear hbehind, hshift]
      simp only [Bool.or_eq_true, beq_iff_eq, Bool.and_eq_true, decide_eq_true_eq, List.mem_cons]
      constructor
      · rintro (rfl | ⟨hle, hbit⟩)
        · exact ⟨seq, Or.inl rfl, by omega⟩
        · obtain ⟨old, hold, heq⟩ := (hrep.seen_iff hinit _ (by omega)).mp hbit
          exact ⟨old, Or.inr hold, by omega⟩
      · rintro ⟨old, rfl | hold, heq⟩
        · left
          omega
        · right
          have := le_maxAccepted hmax hold
          have hle : seq.toNat - window.highest.toNat ≤ behind := by omega
          exact ⟨hle, (hrep.seen_iff hinit _ (by omega)).mpr ⟨old, hold, by omega⟩⟩

private theorem accept_below {window : ReplayWindow} {accepted : List UInt64} {seq : UInt64}
    (hrep : Represents window accepted) (hinit : window.initialized = true)
    (hmax : maxAccepted accepted = some window.highest.toNat) (hgt : ¬ seq > window.highest) :
    ((window.accept seq).1 = true ↔ Fresh accepted seq) ∧
      Represents (window.accept seq).2
        (if (window.accept seq).1 then seq :: accepted else accepted) := by
  have hle : seq.toNat ≤ window.highest.toNat :=
    UInt64.le_iff_toNat_le.mp (UInt64.not_lt.mp hgt)
  have hbehind : (window.highest - seq).toNat = window.highest.toNat - seq.toNat :=
    UInt64.toNat_sub_of_le _ _ (UInt64.not_lt.mp hgt)
  by_cases hfar : window.highest - seq ≥ replayWindowBits
  · have hge : 64 ≤ window.highest.toNat - seq.toNat := by
      rw [← hbehind]
      exact UInt64.le_iff_toNat_le.mp hfar
    simp only [accept, hinit, Bool.not_true, Bool.false_eq_true, ↓reduceIte, hgt, hfar, false_iff]
    refine ⟨fun hfresh => ?_, hrep⟩
    have := hfresh.2 _ hmax
    omega
  · have hnear : (window.highest - seq).toNat < 64 := by
      have := UInt64.lt_iff_toNat_lt.mp (UInt64.not_le.mp hfar)
      exact this
    have hbit := and_single_ne_zero_iff window.seen (window.highest - seq) hnear
    have hmem : window.seen.toNat.testBit (window.highest - seq).toNat = true ↔ seq ∈ accepted := by
      rw [hrep.seen_iff hinit _ hnear, hbehind]
      constructor
      · rintro ⟨old, hold, heq⟩
        have : old = seq := UInt64.toNat_inj.mp (by omega)
        exact this ▸ hold
      · intro h
        exact ⟨seq, h, by omega⟩
    by_cases hseen : window.seen &&& (1 <<< (window.highest - seq)) ≠ 0
    · have hrefused : window.accept seq = (false, window) := by
        simp only [accept, hinit, Bool.not_true, Bool.false_eq_true, ↓reduceIte, hgt, hfar]
        rw [if_pos hseen]
      rw [hrefused]
      simp only [Bool.false_eq_true, false_iff, ↓reduceIte]
      exact ⟨fun hfresh => hfresh.1 (hmem.mp (hbit.mp hseen)), hrep⟩
    · simp only [accept, hinit, Bool.not_true, Bool.false_eq_true, ↓reduceIte, hgt, hfar, hseen,
        true_iff]
      refine ⟨⟨fun h => hseen (hbit.mpr (hmem.mpr h)), fun highest hhigh => ?_⟩, ?_, ?_⟩
      · rw [hmax, Option.some.injEq] at hhigh
        omega
      · rw [maxAccepted_cons hmax, if_pos rfl, max_eq_right hle]
      · intro _ index hindex
        simp only [UInt64.toNat_or, Nat.testBit_or, Bool.or_eq_true,
          testBit_single _ hnear hindex, decide_eq_true_eq, List.mem_cons]
        rw [hrep.seen_iff hinit index hindex]
        constructor
        · rintro (⟨old, hold, heq⟩ | heq)
          · exact ⟨old, Or.inr hold, heq⟩
          · exact ⟨seq, Or.inl rfl, by omega⟩
        · rintro ⟨old, rfl | hold, heq⟩
          · right
            omega
          · exact Or.inl ⟨old, hold, heq⟩

/-- One call of `accept` takes the decision the accepted list asks for, and the
new window represents the new list. -/
theorem accept_spec {window : ReplayWindow} {accepted : List UInt64}
    (hrep : Represents window accepted) (seq : UInt64) :
    ((window.accept seq).1 = true ↔ Fresh accepted seq) ∧
      Represents (window.accept seq).2
        (if (window.accept seq).1 then seq :: accepted else accepted) := by
  cases hinit : window.initialized with
  | false =>
      have hnil : accepted = [] := maxAccepted_eq_none (by simpa [hinit] using hrep.highest_eq)
      subst accepted
      simp only [accept, hinit, Bool.not_false, ↓reduceIte]
      exact ⟨by simp [Fresh, maxAccepted], represents_first seq⟩
  | true =>
      have hmax : maxAccepted accepted = some window.highest.toNat := by
        simpa [hinit] using hrep.highest_eq
      by_cases hgt : seq > window.highest
      · exact accept_above hrep hinit hmax hgt
      · exact accept_below hrep hinit hmax hgt

theorem acceptAll_append_singleton (seqs : List UInt64) (seq : UInt64) :
    acceptAll (seqs ++ [seq]) =
      (((acceptAll seqs).1.accept seq).2,
        if ((acceptAll seqs).1.accept seq).1 then seq :: (acceptAll seqs).2
        else (acceptAll seqs).2) := by
  unfold acceptAll
  rw [List.foldl_append]
  rfl

theorem represents_acceptAll (seqs : List UInt64) :
    Represents (acceptAll seqs).1 (acceptAll seqs).2 := by
  induction seqs using List.reverseRecOn with
  | nil => exact represents_new
  | append_singleton seqs seq ih =>
      rw [acceptAll_append_singleton]
      exact (accept_spec ih seq).2

theorem accepted_subset (seqs : List UInt64) : (acceptAll seqs).2 ⊆ seqs := by
  induction seqs using List.reverseRecOn with
  | nil => exact List.Subset.refl _
  | append_singleton seqs seq ih =>
      intro old hold
      rw [acceptAll_append_singleton] at hold
      dsimp only at hold
      split at hold
      · rcases List.mem_cons.mp hold with rfl | hold
        · simp
        · exact List.mem_append_left _ (ih hold)
      · exact List.mem_append_left _ (ih hold)

theorem accepted_nodup (seqs : List UInt64) : (acceptAll seqs).2.Nodup := by
  induction seqs using List.reverseRecOn with
  | nil => exact List.nodup_nil
  | append_singleton seqs seq ih =>
      rw [acceptAll_append_singleton]
      dsimp only
      split
      · rename_i haccept
        have hfresh := (accept_spec (represents_acceptAll seqs) seq).1.mp haccept
        exact List.nodup_cons.mpr ⟨hfresh.1, ih⟩
      · exact ih

/-- The 64-bit window decides exactly as the unbounded list of accepted numbers
would: no number is accepted twice, and none that arrives for the first time
fewer than 64 behind is lost. -/
theorem accept_exact (seqs : List UInt64) (seq : UInt64) :
    (((acceptAll seqs).1.accept seq).1 = true ↔
      seq ∉ (acceptAll seqs).2 ∧
        ((acceptAll seqs).2 = [] ∨ ∃ highest, maxAccepted (acceptAll seqs).2 = some highest ∧
          (highest : Int) - seq.toNat < 64)) ∧
    (acceptAll seqs).2.Nodup ∧
    (seq ∉ seqs →
      (∀ highest, maxAccepted (acceptAll seqs).2 = some highest →
        (highest : Int) - seq.toNat < 64) →
      ((acceptAll seqs).1.accept seq).1 = true) := by
  have hspec := (accept_spec (represents_acceptAll seqs) seq).1
  refine ⟨hspec.trans (and_congr_right fun _ => ?_), accepted_nodup seqs, ?_⟩
  · cases hmax : maxAccepted (acceptAll seqs).2 with
    | none => simp [maxAccepted_eq_none hmax]
    | some highest =>
        have hne : (acceptAll seqs).2 ≠ [] := by
          intro hnil
          simp [hnil, maxAccepted] at hmax
        simp [hne]
  · intro hfirst hnear
    exact hspec.mpr ⟨fun hmem => hfirst (accepted_subset seqs hmem), hnear⟩

end ReplayWindow

end Liteway.Daemon
