import Mathlib.Data.List.Basic

/-!
# Words that agree on their leading bits

The words that agree with a given one on its first bits form a block.  One block
lies inside another exactly if it fixes at least as many bits and its word agrees
on the bits the other one fixes.
-/

namespace Liteway.Library

variable {width : Nat}

/-- The two words have the same `len` leading bits. -/
def AgreeOn (len : Nat) (x y : BitVec width) : Prop :=
  ∀ i < len, x.getMsbD i = y.getMsbD i

namespace AgreeOn

variable {len len' : Nat} {x y z : BitVec width}

theorem refl (len : Nat) (x : BitVec width) : AgreeOn len x x := fun _ _ => rfl

theorem symm (h : AgreeOn len x y) : AgreeOn len y x := fun i hi => (h i hi).symm

theorem trans (h : AgreeOn len x y) (h' : AgreeOn len y z) : AgreeOn len x z :=
  fun i hi => (h i hi).trans (h' i hi)

theorem mono (h : AgreeOn len x y) (hle : len' ≤ len) : AgreeOn len' x y :=
  fun i hi => h i (Nat.lt_of_lt_of_le hi hle)

end AgreeOn

theorem and_leading_eq_iff {len : Nat} {x y : BitVec width} :
    x &&& ~~~(BitVec.allOnes width >>> len) = y &&& ~~~(BitVec.allOnes width >>> len) ↔
      AgreeOn len x y := by
  have hbit : ∀ (word : BitVec width) (i : Nat), i < width →
      (word &&& ~~~(BitVec.allOnes width >>> len)).getMsbD i =
        (word.getMsbD i && decide (i < len)) := by
    intro word i hi
    by_cases hlen : i < len
    · simp [hi, hlen]
    · simp [hi, hlen, Nat.lt_of_le_of_lt (Nat.sub_le i len) hi]
  constructor
  · intro h i hi
    by_cases hwidth : i < width
    · have hsame := congrArg (fun word => word.getMsbD i) h
      simpa [hbit _ i hwidth, hi] using hsame
    · simp [BitVec.getMsbD, hwidth]
  · intro h
    apply BitVec.eq_of_getMsbD_eq
    intro i hi
    rw [hbit _ i hi, hbit _ i hi]
    by_cases hlen : i < len
    · rw [h i hlen]
    · simp [hlen]

theorem exists_agreeOn_not_succ {len : Nat} (hlen : len < width) (x : BitVec width) :
    ∃ y, AgreeOn len x y ∧ ¬ AgreeOn (len + 1) x y := by
  have hbit : ∀ i, (BitVec.twoPow width (width - 1 - len)).getMsbD i = decide (i = len) := by
    intro i
    have hindex : width - (width - 1 - len) - 1 = len := by omega
    have hlow : width - 1 - len < width := by omega
    rw [BitVec.getMsbD_twoPow, hindex, decide_eq_true hlow, Bool.true_and]
  refine ⟨x ^^^ BitVec.twoPow width (width - 1 - len), fun i hi => ?_, fun h => ?_⟩
  · rw [BitVec.getMsbD_xor, hbit i]
    simp [Nat.ne_of_lt hi]
  · have hflip := h len (Nat.lt_succ_self len)
    rw [BitVec.getMsbD_xor, hbit len] at hflip
    simp at hflip

/-- One block lies inside another. -/
theorem agreeOn_subset_iff {len len' : Nat} (hlen : len' ≤ width) {x y : BitVec width} :
    (∀ z, AgreeOn len x z → AgreeOn len' y z) ↔ len' ≤ len ∧ AgreeOn len' y x := by
  constructor
  · intro h
    have hself := h x (AgreeOn.refl len x)
    refine ⟨?_, hself⟩
    by_contra hlt
    obtain ⟨z, hagree, hdiffer⟩ := exists_agreeOn_not_succ (show len < width by omega) x
    apply hdiffer
    exact (hself.symm.trans (h z hagree)).mono (by omega)
  · rintro ⟨hle, hself⟩ z hz
    exact hself.trans (hz.mono hle)

end Liteway.Library
