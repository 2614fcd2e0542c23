import Mathlib.Data.List.AList
import Mathlib.Algebra.BigOperators.Group.List.Basic
import Mathlib.Algebra.GroupWithZero.Nat

/-!
# Finite maps with totals

An unordered map is an association list whose keys are distinct.  `total` adds
up a weight over all entries; the rules below say how it changes under
insertion, removal and filtering, which is all that incremental counters need.
-/

namespace Liteway.Library

abbrev AssocMap (K V : Type) := AList (fun _ : K => V)

namespace AssocMap

variable {K V : Type}

/-- Keep the entries that satisfy `keep`. -/
def retain (keep : K → V → Bool) (map : AssocMap K V) : AssocMap K V :=
  ⟨map.entries.filter fun entry => keep entry.1 entry.2,
    map.nodupKeys.sublist (List.filter_sublist)⟩

/-- Rewrite every value in place. -/
def mapValues (f : K → V → V) (map : AssocMap K V) : AssocMap K V :=
  ⟨map.entries.map fun entry => ⟨entry.1, f entry.1 entry.2⟩, by
    simpa [List.NodupKeys, List.keys, Function.comp_def] using map.nodupKeys⟩

def any (p : K → V → Bool) (map : AssocMap K V) : Bool :=
  map.entries.any fun entry => p entry.1 entry.2

/-- The first value that satisfies `p`, in the order of the list. -/
def find? (p : V → Bool) (map : AssocMap K V) : Option V :=
  (map.entries.find? fun entry => p entry.2).map Sigma.snd

def size (map : AssocMap K V) : Nat := map.entries.length

/-- The sum of a weight over all entries. -/
def total (weight : K → V → Nat) (map : AssocMap K V) : Nat :=
  (map.entries.map fun entry => weight entry.1 entry.2).sum

section Lookup

variable [DecidableEq K]

theorem lookup_eq_some_iff {map : AssocMap K V} {key : K} {value : V} :
    map.lookup key = some value ↔ (⟨key, value⟩ : Sigma fun _ : K => V) ∈ map.entries :=
  AList.mem_lookup_iff

theorem replace_of_lookup {map : AssocMap K V} {key : K} {value : V}
    (h : map.lookup key = some value) : map.replace key value = map :=
  AList.ext (List.kreplace_self map.nodupKeys (lookup_eq_some_iff.mp h))

theorem any_eq_true_iff {p : K → V → Bool} {map : AssocMap K V} :
    any p map = true ↔ ∃ key value, map.lookup key = some value ∧ p key value = true := by
  simp only [any, List.any_eq_true, lookup_eq_some_iff]
  constructor
  · rintro ⟨⟨key, value⟩, hmem, hp⟩
    exact ⟨key, value, hmem, hp⟩
  · rintro ⟨key, value, hmem, hp⟩
    exact ⟨⟨key, value⟩, hmem, hp⟩

theorem find?_eq_some {p : V → Bool} {map : AssocMap K V} {value : V}
    (h : find? p map = some value) : ∃ key, map.lookup key = some value ∧ p value = true := by
  obtain ⟨⟨key, found⟩, hfind, rfl⟩ := Option.map_eq_some_iff.mp h
  have hp := List.find?_some hfind
  exact ⟨key, lookup_eq_some_iff.mpr (List.mem_of_find?_eq_some hfind), hp⟩

theorem find?_eq_none_iff {p : V → Bool} {map : AssocMap K V} :
    find? p map = none ↔ ∀ key value, map.lookup key = some value → p value = false := by
  simp only [find?, Option.map_eq_none_iff, List.find?_eq_none, lookup_eq_some_iff]
  constructor
  · intro h key value hmem
    simpa using h ⟨key, value⟩ hmem
  · rintro h ⟨key, value⟩ hmem
    simpa using h key value hmem

theorem lookup_retain {keep : K → V → Bool} {map : AssocMap K V} {key : K} {value : V} :
    (retain keep map).lookup key = some value ↔
      map.lookup key = some value ∧ keep key value = true := by
  simp only [lookup_eq_some_iff, retain, List.mem_filter]

theorem lookup_mapValues {f : K → V → V} {map : AssocMap K V} (key : K) :
    (mapValues f map).lookup key = (map.lookup key).map (f key) := by
  ext value
  simp only [Option.map_eq_some_iff, lookup_eq_some_iff, mapValues, List.mem_map]
  constructor
  · rintro ⟨⟨found, old⟩, hmem, heq⟩
    simp only [Sigma.mk.injEq, heq_eq_eq] at heq
    obtain ⟨rfl, rfl⟩ := heq
    exact ⟨old, hmem, rfl⟩
  · rintro ⟨old, hmem, rfl⟩
    exact ⟨⟨key, old⟩, hmem, rfl⟩

theorem lookup_insert_eq (key other : K) (value : V) (map : AssocMap K V) :
    (map.insert key value).lookup other = if other = key then some value else map.lookup other := by
  by_cases h : other = key
  · subst other
    simp
  · simp [h, AList.lookup_insert_ne h]

theorem lookup_erase_eq (key other : K) (map : AssocMap K V) :
    (map.erase key).lookup other = if other = key then none else map.lookup other := by
  by_cases h : other = key
  · subst other
    simp
  · simp [h, AList.lookup_erase_ne h]

end Lookup

/-! ## Totals -/

section Totals

variable {weight : K → V → Nat}

@[simp] theorem total_insert [DecidableEq K] (key : K) (value : V) (map : AssocMap K V) :
    total weight (map.insert key value) = weight key value + total weight (map.erase key) := by
  have hentries : (map.insert key value).entries = ⟨key, value⟩ :: (map.erase key).entries := rfl
  unfold total
  rw [hentries, List.map_cons, List.sum_cons]

theorem erase_of_lookup_none [DecidableEq K] {map : AssocMap K V} {key : K} (h : map.lookup key = none) :
    map.erase key = map := by
  apply AList.ext
  exact List.kerase_of_notMem_keys (AList.lookup_eq_none.mp h)

theorem total_of_lookup_none [DecidableEq K] {map : AssocMap K V}
    (h : ∀ key, map.lookup key = none) : total weight map = 0 := by
  have hentries : map.entries = [] := by
    rw [List.eq_nil_iff_forall_not_mem]
    rintro ⟨key, value⟩ hmem
    have hsome := lookup_eq_some_iff.mpr hmem
    rw [h key] at hsome
    exact absurd hsome (by simp)
  simp [total, hentries]

theorem total_of_lookup [DecidableEq K] {map : AssocMap K V} {key : K} {value : V}
    (h : map.lookup key = some value) :
    total weight map = weight key value + total weight (map.erase key) := by
  have hmem : key ∈ map.entries.keys := AList.lookup_isSome.mp (by rw [h]; rfl)
  obtain ⟨found, before, after, -, hentries, herase⟩ := List.exists_of_kerase hmem
  have hfound : found = value := by
    have hlookup : map.lookup key = some found :=
      lookup_eq_some_iff.mpr (by rw [hentries]; simp)
    exact Option.some.inj (hlookup.symm.trans h)
  subst found
  have hrest : (map.erase key).entries = before ++ after := herase
  unfold total
  rw [hrest, hentries]
  simp only [List.map_append, List.map_cons, List.sum_append, List.sum_cons]
  omega

/-- A weight that counts only some entries is a sum over a filter. -/
theorem total_ite (weight : K → V → Nat) (p : K → V → Prop) [∀ key value, Decidable (p key value)] (map : AssocMap K V) :
    total (fun key value => if p key value then weight key value else 0) map =
      ((map.entries.filter fun entry => p entry.1 entry.2).map
        fun entry => weight entry.1 entry.2).sum := by
  unfold total
  induction map.entries with
  | nil => rfl
  | cons entry rest ih =>
      by_cases hp : p entry.1 entry.2
      · simp only [List.map_cons, List.sum_cons, hp, ↓reduceIte, ih, decide_true,
          List.filter_cons_of_pos]
      · simp only [List.map_cons, List.sum_cons, hp, ↓reduceIte, ih, Nat.zero_add, decide_false,
          Bool.false_eq_true, not_false_eq_true, List.filter_cons_of_neg]

theorem size_eq_total (map : AssocMap K V) : map.size = total (fun _ _ => 1) map := by
  simp [size, total]

theorem size_insert_le [DecidableEq K] (key : K) (value : V) (map : AssocMap K V) :
    size (map.insert key value) ≤ size map + 1 := by
  have hentries : (map.insert key value).entries = ⟨key, value⟩ :: (map.erase key).entries := rfl
  have hle : (map.erase key).entries.length ≤ map.entries.length :=
    (List.kerase_sublist key map.entries).length_le
  unfold size
  rw [hentries, List.length_cons]
  exact Nat.succ_le_succ hle

private theorem sum_filter_add_sum (keep : K → V → Bool) (entries : List (Sigma fun _ : K => V)) :
    ((entries.filter fun entry => keep entry.1 entry.2).map
        fun entry => weight entry.1 entry.2).sum +
      (entries.map fun entry => if keep entry.1 entry.2 then 0 else weight entry.1 entry.2).sum =
      (entries.map fun entry => weight entry.1 entry.2).sum := by
  induction entries with
  | nil => rfl
  | cons entry rest ih =>
      by_cases hkeep : keep entry.1 entry.2 = true
      · simp only [List.filter_cons, hkeep, ↓reduceIte, List.map_cons, List.sum_cons]
        omega
      · simp only [List.filter_cons, hkeep, Bool.false_eq_true, ↓reduceIte, List.map_cons,
          List.sum_cons]
        omega

theorem total_retain (weight : K → V → Nat) (keep : K → V → Bool) (map : AssocMap K V) :
    total weight (retain keep map) +
      total (fun key value => if keep key value then 0 else weight key value) map =
      total weight map :=
  sum_filter_add_sum keep map.entries

theorem total_retain_le (keep : K → V → Bool) (map : AssocMap K V) :
    total weight (retain keep map) ≤ total weight map := by
  rw [← total_retain weight keep map]
  exact Nat.le_add_right _ _

end Totals

end AssocMap

end Liteway.Library
