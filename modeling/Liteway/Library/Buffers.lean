import Mathlib.Data.List.Basic
import Mathlib.Algebra.BigOperators.Group.List.Basic
import Mathlib.Algebra.GroupWithZero.Nat

/-!
# Chunked buffers and saturating counters

A message is cut into chunks of a fixed size, and the chunks are collected in
slots until none is empty.  Counters over such buffers use the saturating
arithmetic of 64-bit words.
-/

namespace Liteway.Library

/-! ## Saturating arithmetic -/

def wordMax : Nat := 2 ^ 64 - 1

def saturatingAdd (left right : Nat) : Nat := min (left + right) wordMax

def saturatingSub (left right : Nat) : Nat := left - right

def saturatingSum (values : List Nat) : Nat := values.foldl saturatingAdd 0

theorem saturatingAdd_eq {left right : Nat} (h : left + right ≤ wordMax) :
    saturatingAdd left right = left + right := Nat.min_eq_left h

private theorem foldl_saturatingAdd (values : List Nat) (start : Nat) :
    values.foldl saturatingAdd (min start wordMax) = min (start + values.sum) wordMax := by
  induction values generalizing start with
  | nil => simp
  | cons value rest ih =>
      have hstep : saturatingAdd (min start wordMax) value = min (start + value) wordMax := by
        unfold saturatingAdd
        omega
      rw [List.foldl_cons, hstep, ih, List.sum_cons, Nat.add_assoc]

/-- Saturation only shows in the end result. -/
theorem saturatingSum_eq (values : List Nat) :
    saturatingSum values = min values.sum wordMax := by
  have h := foldl_saturatingAdd values 0
  rwa [Nat.zero_min, Nat.zero_add] at h

/-! ## Chunks -/

section Chunks

variable {α : Type}

def divCeil (n size : Nat) : Nat := (n + size - 1) / size

/-- The chunk of `data` that starts at `index * size`. -/
def chunk (size : Nat) (data : List α) (index : Nat) : List α := (data.drop (index * size)).take size

def chunks (size : Nat) (data : List α) : List (List α) :=
  (List.range (divCeil data.length size)).map (chunk size data)

theorem le_divCeil_mul {n size : Nat} (hsize : 0 < size) : n ≤ divCeil n size * size := by
  unfold divCeil
  have hdiv := Nat.div_add_mod (n + size - 1) size
  have hmod := Nat.mod_lt (n + size - 1) hsize
  rw [Nat.mul_comm] at hdiv
  omega

/-- The number of chunks is at most `count` exactly if that many chunks hold everything. -/
theorem divCeil_le_iff {n size count : Nat} (hsize : 0 < size) :
    divCeil n size ≤ count ↔ n ≤ count * size := by
  constructor
  · intro h
    exact Nat.le_trans (le_divCeil_mul hsize) (Nat.mul_le_mul_right _ h)
  · intro h
    unfold divCeil
    apply Nat.le_of_lt_succ
    rw [Nat.div_lt_iff_lt_mul hsize, Nat.succ_mul]
    omega

theorem length_chunk_le (size : Nat) (data : List α) (index : Nat) :
    (chunk size data index).length ≤ size :=
  List.length_take_le _ _

theorem flatten_chunk_range (size : Nat) (data : List α) (count : Nat) :
    ((List.range count).map (chunk size data)).flatten = data.take (count * size) := by
  induction count with
  | zero => simp
  | succ count ih =>
      rw [List.range_succ, List.map_append, List.flatten_append, ih, Nat.succ_mul, List.take_add]
      simp [chunk]

theorem flatten_chunk_range_of_le {size : Nat} {data : List α} {count : Nat}
    (h : data.length ≤ count * size) :
    ((List.range count).map (chunk size data)).flatten = data := by
  rw [flatten_chunk_range, List.take_of_length_le h]

end Chunks

/-! ## Slots -/

section Slots

variable {α : Type}

abbrev Slots (α : Type) := List (Option (List α))

def slotLength (slots : Slots α) (index : Nat) : Nat := ((slots[index]?.join).map List.length).getD 0

def slotBytes (slots : Slots α) : Nat := (slots.map fun slot => (slot.map List.length).getD 0).sum

/-- The contents of the filled slots in order. -/
def assemble (slots : Slots α) : List α := (slots.filterMap id).flatten

theorem slotBytes_replicate_none (count : Nat) :
    slotBytes (List.replicate count (none : Option (List α))) = 0 := by
  simp [slotBytes]

theorem length_assemble (slots : Slots α) : (assemble slots).length = slotBytes slots := by
  induction slots with
  | nil => rfl
  | cons slot rest ih =>
      cases slot with
      | none => simpa [assemble, slotBytes] using ih
      | some content => simpa [assemble, slotBytes] using ih

theorem slotLength_le_slotBytes (slots : Slots α) (index : Nat) :
    slotLength slots index ≤ slotBytes slots := by
  induction slots generalizing index with
  | nil => simp [slotLength]
  | cons slot rest ih =>
      cases index with
      | zero => simp [slotLength, slotBytes]
      | succ index =>
          have hrest := ih index
          simp only [slotLength, slotBytes, List.getElem?_cons_succ, List.map_cons,
            List.sum_cons] at hrest ⊢
          omega

theorem slotBytes_set {slots : Slots α} {index : Nat} (hindex : index < slots.length)
    (content : List α) :
    slotBytes (slots.set index (some content)) + slotLength slots index =
      slotBytes slots + content.length := by
  induction slots generalizing index with
  | nil => exact absurd hindex (Nat.not_lt_zero _)
  | cons slot rest ih =>
      cases index with
      | zero =>
          simp only [slotBytes, slotLength, List.set_cons_zero, List.map_cons, List.sum_cons,
            Option.map_some, Option.getD_some, List.getElem?_cons_zero, Option.join_some]
          omega
      | succ index =>
          have hrest := ih (Nat.lt_of_succ_lt_succ hindex)
          simp only [slotBytes, slotLength, List.set_cons_succ, List.map_cons, List.sum_cons,
            List.getElem?_cons_succ] at hrest ⊢
          omega

end Slots

end Liteway.Library
