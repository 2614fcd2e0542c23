import Mathlib.Data.List.Basic

/-!
# Paced readings of a clock

A clock is read again and again, never later than `gap` after the reading before.
-/

namespace Liteway.Library

variable {gap start stop finish : Nat}

/-- Readings after `start`, none later than `gap` after the one before, that go on
until `finish`. -/
def Paced (gap finish : Nat) : Nat → List Nat → Prop
  | start, [] => finish ≤ start + gap
  | start, now :: times => start ≤ now ∧ now ≤ start + gap ∧ Paced gap finish now times

/-- Paced readings of which `stop` is the last. -/
def Leads (gap stop : Nat) : Nat → List Nat → Prop
  | start, [] => start = stop
  | start, now :: times => start ≤ now ∧ now ≤ start + gap ∧ Leads gap stop now times

namespace Leads

variable {times : List Nat}

theorem append {middle : Nat} {times' : List Nat} (h : Leads gap middle start times)
    (h' : Leads gap stop middle times') : Leads gap stop start (times ++ times') := by
  induction times generalizing start with
  | nil =>
      cases h
      exact h'
  | cons now times ih => exact ⟨h.1, h.2.1, ih h.2.2⟩

theorem snoc {now : Nat} (h : Leads gap stop start times) (hle : stop ≤ now)
    (hgap : now ≤ stop + gap) : Leads gap now start (times ++ [now]) :=
  h.append ⟨hle, hgap, rfl⟩

theorem paced (h : Leads gap stop start times) (hfinish : finish ≤ stop + gap) :
    Paced gap finish start times := by
  induction times generalizing start with
  | nil =>
      cases h
      exact hfinish
  | cons now times ih => exact ⟨h.1, h.2.1, ih h.2.2⟩

theorem le_stop (h : Leads gap stop start times) : start ≤ stop ∧ ∀ now ∈ times, now ≤ stop := by
  induction times generalizing start with
  | nil => exact ⟨Nat.le_of_eq h, List.forall_mem_nil _⟩
  | cons now times ih =>
      obtain ⟨hstop, htimes⟩ := ih h.2.2
      exact ⟨Nat.le_trans h.1 hstop, List.forall_mem_cons.mpr ⟨hstop, htimes⟩⟩

theorem isChain (h : Leads gap stop start times) :
    (start :: times).IsChain fun last now => now ≤ last + gap := by
  induction times generalizing start with
  | nil => exact List.IsChain.singleton start
  | cons now times ih => exact List.isChain_cons_cons.mpr ⟨h.2.1, ih h.2.2⟩

theorem pairwise (h : Leads gap stop start times) : (start :: times).Pairwise (· ≤ ·) := by
  rw [← List.isChain_iff_pairwise]
  induction times generalizing start with
  | nil => exact List.IsChain.singleton start
  | cons now times ih => exact List.isChain_cons_cons.mpr ⟨h.1, ih h.2.2⟩

theorem stop_mem (h : Leads gap stop start times) (hlt : start < stop) : stop ∈ times := by
  induction times generalizing start with
  | nil => exact absurd h (Nat.ne_of_lt hlt)
  | cons now times ih =>
      by_cases hnow : now = stop
      · rw [hnow]
        exact List.mem_cons_self
      · have hle := h.2.2.le_stop.1
        exact List.mem_cons_of_mem _ (ih h.2.2 (Nat.lt_of_le_of_ne hle hnow))

end Leads

theorem exists_leads (hgap : 0 < gap) (hle : start ≤ stop) :
    ∃ times, Leads gap stop start times := by
  obtain ⟨rest, rfl⟩ := Nat.exists_eq_add_of_le hle
  induction rest with
  | zero => exact ⟨[], rfl⟩
  | succ rest ih =>
      obtain ⟨times, htimes⟩ := ih (Nat.le_add_right _ _)
      exact ⟨times ++ [start + rest + 1], htimes.snoc (Nat.le_succ _) (by omega)⟩

end Liteway.Library
