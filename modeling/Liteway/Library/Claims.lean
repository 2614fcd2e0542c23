import Mathlib.Data.Set.BooleanAlgebra
import Mathlib.Order.CompletePartialOrder

/-!
# Owners and the keys they claim

Owners come and go, each with a set of keys it claims.  Two records of the claims
are kept beside them: a table that names one owner for a key and forgets the one
it replaces, and a plain set of keys without a count of who wants them.  For each
record this says which changes leave it in agreement with the claims.
-/

namespace Liteway.Library

variable {Owner Key Point : Type}

/-- The keys every owner claims. -/
abbrev Claims (Owner Key : Type) := Owner → Set Key

/-! ## Tables with one owner for a key -/

section Tables

abbrev OwnerTable (Key Owner : Type) := List (Key × Owner)

namespace OwnerTable

/-- The key passes to the owner, whoever had it. -/
def assign [DecidableEq Key] (table : OwnerTable Key Owner) (key : Key) (owner : Owner) :
    OwnerTable Key Owner :=
  table.filter (fun entry => entry.1 ≠ key) ++ [(key, owner)]

def assignAll [DecidableEq Key] (table : OwnerTable Key Owner) (keys : List Key)
    (owner : Owner) : OwnerTable Key Owner :=
  keys.foldl (fun table key => table.assign key owner) table

def release [DecidableEq Owner] (table : OwnerTable Key Owner) (owner : Owner) :
    OwnerTable Key Owner :=
  table.filter fun entry => entry.2 ≠ owner

theorem mem_assign [DecidableEq Key] {table : OwnerTable Key Owner} {key key' : Key}
    {owner owner' : Owner} :
    (key', owner') ∈ table.assign key owner ↔
      (key' = key ∧ owner' = owner) ∨ (key' ≠ key ∧ (key', owner') ∈ table) := by
  simp only [assign, List.mem_append, List.mem_filter, List.mem_singleton, decide_eq_true_eq,
    Prod.mk.injEq]
  exact or_comm.trans (or_congr_right and_comm)

theorem mem_assignAll [DecidableEq Key] {table : OwnerTable Key Owner} {keys : List Key}
    {key' : Key} {owner owner' : Owner} :
    (key', owner') ∈ table.assignAll keys owner ↔
      (key' ∈ keys ∧ owner' = owner) ∨ (key' ∉ keys ∧ (key', owner') ∈ table) := by
  induction keys generalizing table with
  | nil => simp [assignAll]
  | cons key keys ih =>
      have hrest : (key', owner') ∈ table.assignAll (key :: keys) owner ↔
          (key', owner') ∈ (table.assign key owner).assignAll keys owner := Iff.rfl
      rw [hrest, ih, mem_assign, List.mem_cons]
      by_cases hkey : key' = key
      · subst key'
        by_cases hmem : key ∈ keys <;> simp [hmem]
      · simp [hkey]

theorem mem_release [DecidableEq Owner] {table : OwnerTable Key Owner} {key : Key}
    {owner owner' : Owner} :
    (key, owner') ∈ table.release owner ↔ (key, owner') ∈ table ∧ owner' ≠ owner := by
  simp [release]

/-- Every entry is covered by a claim of its owner. -/
def Sound (table : OwnerTable Key Owner) (claims : Claims Owner Key) : Prop :=
  ∀ key owner, (key, owner) ∈ table → key ∈ claims owner

/-- An owner may change its claims if it still claims what the table says is its. -/
theorem sound_assignAll_iff [DecidableEq Owner] [DecidableEq Key] {table : OwnerTable Key Owner}
    {claims : Claims Owner Key} (h : table.Sound claims) (keys : List Key) (owner : Owner) :
    (table.assignAll keys owner).Sound (Function.update claims owner {key | key ∈ keys}) ↔
      ∀ key, (key, owner) ∈ table → key ∈ keys := by
  constructor
  · intro hsound key hmem
    by_contra hkey
    have hclaim := hsound key owner (mem_assignAll.mpr (Or.inr ⟨hkey, hmem⟩))
    rw [Function.update_self] at hclaim
    exact hkey hclaim
  · intro hkept key owner' hmem
    obtain ⟨hkey, rfl⟩ | ⟨hkey, hmem⟩ := mem_assignAll.mp hmem
    · rw [Function.update_self]
      exact hkey
    · by_cases howner : owner' = owner
      · subst owner'
        exact absurd (hkept key hmem) hkey
      · rw [Function.update_of_ne howner]
        exact h key owner' hmem

theorem sound_release [DecidableEq Owner] {table : OwnerTable Key Owner}
    {claims : Claims Owner Key} (h : table.Sound claims) (owner : Owner) (keys : Set Key) :
    (table.release owner).Sound (Function.update claims owner keys) := by
  intro key owner' hmem
  obtain ⟨hmem, hne⟩ := mem_release.mp hmem
  rw [Function.update_of_ne hne]
  exact h key owner' hmem

/-- Some entry reaches the point. -/
def Covers (table : OwnerTable Key Owner) (reach : Key → Set Point) (point : Point) : Prop :=
  ∃ key owner, (key, owner) ∈ table ∧ point ∈ reach key

/-- Only entries of the given owner reach the point. -/
def CoversOnlyBy (table : OwnerTable Key Owner) (reach : Key → Set Point) (owner : Owner)
    (point : Point) : Prop :=
  ∀ key owner', (key, owner') ∈ table → point ∈ reach key → owner' = owner

/-- Every point that somebody claims is covered. -/
def Complete (table : OwnerTable Key Owner) (claims : Claims Owner Key) (reach : Key → Set Point) :
    Prop :=
  ∀ owner key point, key ∈ claims owner → point ∈ reach key → table.Covers reach point

theorem covers_assignAll [DecidableEq Key] {table : OwnerTable Key Owner}
    {reach : Key → Set Point} {point : Point} {keys : List Key} {owner : Owner}
    (h : table.Covers reach point ∨ ∃ key ∈ keys, point ∈ reach key) :
    (table.assignAll keys owner).Covers reach point := by
  obtain ⟨key, owner', hmem, hpoint⟩ | ⟨key, hkey, hpoint⟩ := h
  · by_cases hkey : key ∈ keys
    · exact ⟨key, owner, mem_assignAll.mpr (Or.inl ⟨hkey, rfl⟩), hpoint⟩
    · exact ⟨key, owner', mem_assignAll.mpr (Or.inr ⟨hkey, hmem⟩), hpoint⟩
  · exact ⟨key, owner, mem_assignAll.mpr (Or.inl ⟨hkey, rfl⟩), hpoint⟩

theorem complete_assignAll [DecidableEq Owner] [DecidableEq Key] {table : OwnerTable Key Owner}
    {claims : Claims Owner Key} {reach : Key → Set Point} (h : table.Complete claims reach)
    (keys : List Key) (owner : Owner) :
    (table.assignAll keys owner).Complete (Function.update claims owner {key | key ∈ keys})
      reach := by
  intro owner' key point hkey hpoint
  apply covers_assignAll
  by_cases howner : owner' = owner
  · subst owner'
    rw [Function.update_self] at hkey
    exact Or.inr ⟨key, hkey, hpoint⟩
  · rw [Function.update_of_ne howner] at hkey
    exact Or.inl (h owner' key point hkey hpoint)

/-- An owner can leave without loss exactly if nobody else claims a point that it
alone covers. -/
theorem complete_release_iff [DecidableEq Owner] {table : OwnerTable Key Owner}
    {claims : Claims Owner Key} {reach : Key → Set Point} (owner : Owner) :
    (table.release owner).Complete (Function.update claims owner ∅) reach ↔
      ∀ other key point, other ≠ owner → key ∈ claims other → point ∈ reach key →
        ¬ table.CoversOnlyBy reach owner point := by
  constructor
  · intro hcomplete other key point hother hkey hpoint honly
    rw [← Function.update_of_ne hother ∅ claims] at hkey
    obtain ⟨key', owner', hmem, hpoint'⟩ := hcomplete other key point hkey hpoint
    obtain ⟨hmem, hne⟩ := mem_release.mp hmem
    exact hne (honly key' owner' hmem hpoint')
  · intro hshared other key point hkey hpoint
    by_cases hother : other = owner
    · subst other
      rw [Function.update_self] at hkey
      exact hkey.elim
    · rw [Function.update_of_ne hother] at hkey
      have hmore := hshared other key point hother hkey hpoint
      simp only [CoversOnlyBy, not_forall] at hmore
      obtain ⟨key', owner', hmem, hpoint', hne⟩ := hmore
      exact ⟨key', owner', mem_release.mpr ⟨hmem, hne⟩, hpoint'⟩

end OwnerTable

end Tables

/-! ## Sets of keys -/

section Sets

variable [DecidableEq Owner]

/-- A set that holds a base and everything that is claimed. -/
structure HoldsClaims (held base : Set Key) (claims : Claims Owner Key) : Prop where
  base_subset : base ⊆ held
  claims_subset : ∀ owner, claims owner ⊆ held

theorem HoldsClaims.add {held base : Set Key} {claims : Claims Owner Key}
    (h : HoldsClaims held base claims) (owner : Owner) (keys : Set Key) :
    HoldsClaims (held ∪ keys) base (Function.update claims owner keys) where
  base_subset := h.base_subset.trans Set.subset_union_left
  claims_subset := by
    intro other
    by_cases hother : other = owner
    · subst other
      rw [Function.update_self]
      exact Set.subset_union_right
    · rw [Function.update_of_ne hother]
      exact (h.claims_subset other).trans Set.subset_union_left

/-- Taking an owner's keys out is safe exactly if nobody else needs one of them. -/
theorem HoldsClaims.remove_iff {held base : Set Key} {claims : Claims Owner Key}
    (h : HoldsClaims held base claims) (owner : Owner) :
    HoldsClaims (held \ claims owner) base (Function.update claims owner ∅) ↔
      Disjoint base (claims owner) ∧
        ∀ other, other ≠ owner → Disjoint (claims other) (claims owner) := by
  constructor
  · intro hholds
    refine ⟨(Set.subset_sdiff.mp hholds.base_subset).2, fun other hother => ?_⟩
    have hsubset := hholds.claims_subset other
    rw [Function.update_of_ne hother] at hsubset
    exact (Set.subset_sdiff.mp hsubset).2
  · rintro ⟨hbase, hothers⟩
    refine ⟨Set.subset_sdiff.mpr ⟨h.base_subset, hbase⟩, fun other => ?_⟩
    by_cases hother : other = owner
    · subst other
      rw [Function.update_self]
      exact Set.empty_subset _
    · rw [Function.update_of_ne hother]
      exact Set.subset_sdiff.mpr ⟨h.claims_subset other, hothers other hother⟩

end Sets

end Liteway.Library
