import Liteway.Library.Claims
import Liteway.Library.Runs
import Mathlib.Data.List.Induction

/-!
# Owner tables against their history

A table with one owner for a key, seen from the calls that built it.  An entry is
there exactly if its assignment has been neither replaced nor released since, and
the entries stand in the order of their assignments.
-/

namespace Liteway.Library

variable {Key Owner : Type}

namespace OwnerTable

inductive Call (Key Owner : Type) where
  | assign (key : Key) (owner : Owner)
  | release (owner : Owner)

/-- Whether the call ends an earlier assignment of the key to the owner. -/
def Call.Ends : Call Key Owner → Key → Owner → Prop
  | .assign key _, key', _ => key = key'
  | .release owner, _, owner' => owner = owner'

/-- The assignment was made by the call at the index and nothing has ended it. -/
def Survives (calls : List (Call Key Owner)) (index : Nat) (key : Key) (owner : Owner) : Prop :=
  calls[index]? = some (.assign key owner) ∧
    ∀ later call, index < later → calls[later]? = some call → ¬ call.Ends key owner

theorem Survives.lt_length {calls : List (Call Key Owner)} {index : Nat} {key : Key}
    {owner : Owner} (h : Survives calls index key owner) : index < calls.length :=
  (List.getElem?_eq_some_iff.mp h.1).1

theorem Survives.eq_of_index {calls : List (Call Key Owner)} {index : Nat} {key key' : Key}
    {owner owner' : Owner} (h : Survives calls index key owner)
    (h' : Survives calls index key' owner') : key' = key ∧ owner' = owner := by
  have hcall := h'.1.symm.trans h.1
  injection hcall with hcall
  injection hcall with hkey howner
  exact ⟨hkey, howner⟩

theorem survives_append {calls : List (Call Key Owner)} {call : Call Key Owner} {index : Nat}
    {key : Key} {owner : Owner} :
    Survives (calls ++ [call]) index key owner ↔
      (Survives calls index key owner ∧ ¬ call.Ends key owner) ∨
        (index = calls.length ∧ call = .assign key owner) := by
  have hlast : (calls ++ [call])[calls.length]? = some call := by simp
  constructor
  · intro h
    have hlt := h.lt_length
    rw [List.length_append, List.length_singleton] at hlt
    by_cases hindex : index = calls.length
    · right
      subst hindex
      have hcall := h.1
      rw [hlast] at hcall
      exact ⟨rfl, Option.some.inj hcall⟩
    · left
      have hindex : index < calls.length := by omega
      refine ⟨⟨?_, ?_⟩, h.2 calls.length call hindex hlast⟩
      · rw [← List.getElem?_append_left hindex]
        exact h.1
      · intro later next hlater hnext
        have hbound := (List.getElem?_eq_some_iff.mp hnext).1
        apply h.2 later next hlater
        rw [List.getElem?_append_left hbound]
        exact hnext
  · intro h
    obtain ⟨hold, hkept⟩ | ⟨rfl, rfl⟩ := h
    · refine ⟨?_, ?_⟩
      · rw [List.getElem?_append_left hold.lt_length]
        exact hold.1
      · intro later next hlater hnext
        have hbound := (List.getElem?_eq_some_iff.mp hnext).1
        rw [List.length_append, List.length_singleton] at hbound
        by_cases hlast' : later = calls.length
        · subst hlast'
          rw [hlast] at hnext
          cases hnext
          exact hkept
        · rw [List.getElem?_append_left (by omega)] at hnext
          exact hold.2 later next hlater hnext
    · refine ⟨hlast, ?_⟩
      intro later next hlater hnext
      have hbound := (List.getElem?_eq_some_iff.mp hnext).1
      rw [List.length_append, List.length_singleton] at hbound
      omega

/-- The entries of a table beside the indices of their assignments. -/
structure Indexed (calls : List (Call Key Owner)) (table : OwnerTable Key Owner)
    (indexed : List (Nat × Key × Owner)) : Prop where
  entries : indexed.map Prod.snd = table
  ordered : indexed.Pairwise fun first second => first.1 < second.1
  mem_iff : ∀ index key owner, (index, key, owner) ∈ indexed ↔ Survives calls index key owner

private theorem Indexed.filter {calls : List (Call Key Owner)} {table : OwnerTable Key Owner}
    {indexed : List (Nat × Key × Owner)} (h : Indexed calls table indexed)
    (keep : Key × Owner → Bool) :
    (indexed.filter fun entry => keep entry.2).map Prod.snd = table.filter keep ∧
      (indexed.filter fun entry => keep entry.2).Pairwise fun first second => first.1 < second.1 := by
  refine ⟨?_, h.ordered.sublist List.filter_sublist⟩
  rw [← h.entries, List.filter_map]
  rfl

section Tables

variable [DecidableEq Key] [DecidableEq Owner]

def call (table : OwnerTable Key Owner) : Call Key Owner → OwnerTable Key Owner
  | .assign key owner => table.assign key owner
  | .release owner => table.release owner

theorem exists_indexed (calls : List (Call Key Owner)) :
    ∃ indexed, Indexed calls (runAll call ([] : OwnerTable Key Owner) calls) indexed := by
  induction calls using List.reverseRecOn with
  | nil =>
      refine ⟨[], rfl, List.Pairwise.nil, ?_⟩
      intro index key owner
      simp [Survives]
  | append_singleton calls last ih =>
      obtain ⟨indexed, h⟩ := ih
      rw [runAll_append]
      cases last with
      | assign key owner =>
          obtain ⟨hentries, hordered⟩ := h.filter fun entry => entry.1 ≠ key
          refine ⟨(indexed.filter fun entry => entry.2.1 ≠ key) ++ [(calls.length, key, owner)],
            ?_, ?_, ?_⟩
          · rw [List.map_append]
            exact congrArg (· ++ [(key, owner)]) hentries
          · rw [List.pairwise_append]
            refine ⟨hordered, List.pairwise_singleton _ _, ?_⟩
            rintro ⟨index, key', owner'⟩ hmem last hlast
            rw [List.mem_singleton.mp hlast]
            exact ((h.mem_iff _ _ _).mp (List.mem_filter.mp hmem).1).lt_length
          · intro index key' owner'
            rw [survives_append, ← h.mem_iff, List.mem_append, List.mem_filter, List.mem_singleton]
            simp only [decide_eq_true_eq, Prod.mk.injEq, Call.Ends, Call.assign.injEq]
            grind
      | release owner =>
          obtain ⟨hentries, hordered⟩ := h.filter fun entry => entry.2 ≠ owner
          refine ⟨indexed.filter fun entry => entry.2.2 ≠ owner, hentries, hordered, ?_⟩
          intro index key' owner'
          rw [survives_append, ← h.mem_iff, List.mem_filter]
          simp only [decide_eq_true_eq, Call.Ends, reduceCtorEq, and_false, or_false]
          grind

/-- No key occurs twice: the later of two assignments has ended the earlier one. -/
theorem nodup_keys_of_history (calls : List (Call Key Owner)) :
    ((runAll call ([] : OwnerTable Key Owner) calls).map Prod.fst).Nodup := by
  obtain ⟨indexed, h⟩ := exists_indexed calls
  rw [← h.entries, List.map_map, List.Nodup, List.pairwise_map]
  apply List.Pairwise.imp_of_mem _ h.ordered
  rintro ⟨index, key, owner⟩ ⟨index', key', owner'⟩ hmem hmem' hlt
  have hfirst := (h.mem_iff _ _ _).mp hmem
  have hsecond := (h.mem_iff _ _ _).mp hmem'
  intro hkey
  exact hfirst.2 index' _ hlt hsecond.1 hkey.symm

end Tables

end OwnerTable

/-! ## The last of the best -/

section Best

variable {Value : Type} (rank : Value → Nat)

/-- A later candidate replaces one that is no better. -/
def keepBest (best : Option Value) (next : Value) : Option Value :=
  match best with
  | none => some next
  | some found => if rank next ≥ rank found then some next else some found

variable {rank} {values : List Value}

theorem foldl_keepBest_eq_none_iff : values.foldl (keepBest rank) none = none ↔ values = [] := by
  induction values using List.reverseRecOn with
  | nil => simp
  | append_singleton values last ih =>
      rw [List.foldl_append, List.foldl_cons, List.foldl_nil]
      unfold keepBest
      split
      · simp
      · split <;> simp

/-- What is kept is nowhere beaten, and not even equalled by what comes after it. -/
theorem exists_split_of_foldl_keepBest {found : Value}
    (h : values.foldl (keepBest rank) none = some found) :
    ∃ before after, values = before ++ found :: after ∧
      (∀ other ∈ before, rank other ≤ rank found) ∧ ∀ other ∈ after, rank other < rank found := by
  induction values using List.reverseRecOn generalizing found with
  | nil => contradiction
  | append_singleton values last ih =>
      rw [List.foldl_append, List.foldl_cons, List.foldl_nil] at h
      cases hbest : values.foldl (keepBest rank) none with
      | none =>
          rw [hbest] at h
          cases h
          rw [foldl_keepBest_eq_none_iff.mp hbest]
          exact ⟨[], [], rfl, by simp, by simp⟩
      | some best =>
          rw [hbest] at h
          obtain ⟨before, after, rfl, hbefore, hafter⟩ := ih hbest
          simp only [keepBest] at h
          split at h
          · rename_i hrank
            cases h
            refine ⟨before ++ best :: after, [], by simp, ?_, by simp⟩
            intro other hother
            obtain hother | hother := List.mem_append.mp hother
            · exact Nat.le_trans (hbefore other hother) hrank
            · obtain rfl | hother := List.mem_cons.mp hother
              · exact hrank
              · exact Nat.le_trans (Nat.le_of_lt (hafter other hother)) hrank
          · rename_i hrank
            cases h
            refine ⟨before, after ++ [last], by simp, hbefore, ?_⟩
            intro other hother
            obtain hother | hother := List.mem_append.mp hother
            · exact hafter other hother
            · rw [List.mem_singleton.mp hother]
              exact Nat.lt_of_not_le hrank

end Best

end Liteway.Library
