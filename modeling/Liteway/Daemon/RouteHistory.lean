import Liteway.Daemon.Routes
import Liteway.Library.OwnerHistory

/-!
# Lookups against the history of the route table

The route table is a list that calls filter and append to.  What a lookup answers is
stated on the calls alone: of the insertions that are still in force and match, the
longest prefix, and among equally long ones the latest.
-/

namespace Liteway.Daemon

open Liteway.Library Liteway.Core

/-- An insertion of a network for a peer, or the removal of a peer. -/
abbrev RouteCall := OwnerTable.Call IpNetwork UInt32

namespace RouteTable

def call (table : RouteTable) : RouteCall → RouteTable
  | .assign network peerId => table.insert network peerId
  | .release peerId => table.removePeer peerId

def after (calls : List RouteCall) : RouteTable := runAll call new calls

theorem routes_runAll_call (table : RouteTable) (calls : List RouteCall) :
    (runAll call table calls).routes = runAll OwnerTable.call table.routes calls := by
  induction calls generalizing table with
  | nil => rfl
  | cons next calls ih =>
      rw [runAll_cons, runAll_cons, ih]
      cases next <;> rfl

theorem lookup_eq_keepBest (table : RouteTable) (ip : IpAddr) :
    table.lookup ip =
      ((table.routes.filter fun route => route.1.contains ip).foldl
        (keepBest fun route => route.1.prefixLen) none).map Prod.snd := by
  unfold lookup
  dsimp only
  congr 2
  funext best route
  cases best <;> rfl

end RouteTable

/-! ## The answer of the history -/

section Reference

variable (calls : List RouteCall) (ip : IpAddr)

/-- An insertion that is still in force, for a network with the address. -/
def Matching (index : Nat) (network : IpNetwork) (peerId : UInt32) : Prop :=
  OwnerTable.Survives calls index network peerId ∧ network.contains ip = true

/-- No matching insertion is preferred to the given one. -/
def Preferred (index : Nat) (network : IpNetwork) : Prop :=
  ∀ index' network' peerId', Matching calls ip index' network' peerId' →
    network'.prefixLen < network.prefixLen ∨
      network'.prefixLen = network.prefixLen ∧ index' ≤ index

/-- The answer for the address, read off the history. -/
def ReferenceAnswer : Option UInt32 → Prop
  | none => ∀ index network peerId, ¬ Matching calls ip index network peerId
  | some peerId => ∃ index network, Matching calls ip index network peerId ∧
      Preferred calls ip index network

variable {calls ip}

theorem referenceAnswer_unique {answer answer' : Option UInt32}
    (h : ReferenceAnswer calls ip answer) (h' : ReferenceAnswer calls ip answer') :
    answer = answer' := by
  cases answer with
  | none =>
      cases answer' with
      | none => rfl
      | some peerId' =>
          obtain ⟨index', network', hmatching', -⟩ := h'
          exact absurd hmatching' (h index' network' peerId')
  | some peerId =>
      obtain ⟨index, network, hmatching, hpreferred⟩ := h
      cases answer' with
      | none => exact absurd hmatching (h' index network peerId)
      | some peerId' =>
          obtain ⟨index', network', hmatching', hpreferred'⟩ := h'
          have hle := hpreferred' index network peerId hmatching
          have hle' := hpreferred index' network' peerId' hmatching'
          have hindex : index' = index := by omega
          subst hindex
          rw [(hmatching.1.eq_of_index hmatching'.1).2]

theorem referenceAnswer_lookup :
    ReferenceAnswer calls ip ((RouteTable.after calls).lookup ip) := by
  obtain ⟨indexed, hindexed⟩ := OwnerTable.exists_indexed calls
  have hroutes : (RouteTable.after calls).routes = indexed.map Prod.snd := by
    rw [hindexed.entries, RouteTable.after, RouteTable.routes_runAll_call]
    rfl
  have hmem : ∀ index network peerId,
      (index, network, peerId) ∈ indexed.filter (fun entry => entry.2.1.contains ip) ↔
        Matching calls ip index network peerId := by
    intro index network peerId
    rw [List.mem_filter, hindexed.mem_iff]
    rfl
  rw [RouteTable.lookup_eq_keepBest, hroutes, List.filter_map]
  cases hbest : ((indexed.filter ((fun route => route.1.contains ip) ∘ Prod.snd)).map Prod.snd).foldl
      (keepBest fun route => route.1.prefixLen) none with
  | none =>
      have hnone := List.map_eq_nil_iff.mp (foldl_keepBest_eq_none_iff.mp hbest)
      intro index network peerId hmatching
      have hentry := (hmem index network peerId).mpr hmatching
      exact List.ne_nil_of_mem hentry hnone
  | some found =>
      obtain ⟨before, after, hsplit, hbefore, hafter⟩ := exists_split_of_foldl_keepBest hbest
      obtain ⟨before, rest, hfilter, rfl, hrest⟩ := List.map_eq_append_iff.mp hsplit
      obtain ⟨⟨index, network, peerId⟩, after, rfl, rfl, rfl⟩ := List.map_eq_cons_iff.mp hrest
      have hordered := hindexed.ordered.sublist
        (@List.filter_sublist _ ((fun route => route.1.contains ip) ∘ Prod.snd) indexed)
      rw [hfilter, List.pairwise_append] at hordered
      refine ⟨index, network, ?_, ?_⟩
      · rw [← hmem]
        have hself : (index, network, peerId) ∈ before ++ (index, network, peerId) :: after := by
          simp
        rw [← hfilter] at hself
        exact hself
      · intro index' network' peerId' hmatching
        have hother : (index', network', peerId') ∈ before ++ (index, network, peerId) :: after := by
          rw [← hfilter]
          exact (hmem index' network' peerId').mpr hmatching
        obtain hother | hother := List.mem_append.mp hother
        · have hlt := hordered.2.2 _ hother _ List.mem_cons_self
          have hle := hbefore _ (List.mem_map_of_mem hother)
          dsimp only at hlt hle
          omega
        · obtain hself | hother := List.mem_cons.mp hother
          · cases hself
            exact Or.inr ⟨rfl, le_refl _⟩
          · exact Or.inl (hafter _ (List.mem_map_of_mem hother))

end Reference

/-- After any calls a lookup gives the answer of the history, and no network is in
the table twice. -/
theorem lookup_after_iff_referenceAnswer (calls : List RouteCall) :
    (∀ ip answer, (RouteTable.after calls).lookup ip = answer ↔ ReferenceAnswer calls ip answer) ∧
      ((RouteTable.after calls).routes.map Prod.fst).Nodup := by
  refine ⟨?_, ?_⟩
  · intro ip answer
    constructor
    · intro h
      rw [← h]
      exact referenceAnswer_lookup
    · intro h
      exact referenceAnswer_unique referenceAnswer_lookup h
  · rw [RouteTable.after, RouteTable.routes_runAll_call]
    exact OwnerTable.nodup_keys_of_history calls

end Liteway.Daemon
