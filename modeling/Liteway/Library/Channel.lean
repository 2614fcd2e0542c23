import Liteway.Library.Runs
import Mathlib.Data.List.Nodup
import Mathlib.Data.List.Perm.Subperm
import Mathlib.Logic.Relation

/-!
# Channels that deliver at most once

Numbered items go in at one end and come out at the other, in any order, some
of them never.  Each number comes out at most once, and only with an item that
went in under it.  A system implements the channel when its runs are simulated
by moves of the channel.
-/

namespace Liteway.Library

/-! ## Forward simulation -/

/-- If every guarded step keeps an invariant and is matched by moves of the
abstract system, then so is every guarded run. -/
theorem guarded_simulation {State Event Abstract : Type} {step : State → Event → State}
    {guard : State → Event → Prop} {Inv : State → Prop} {abs : State → Abstract}
    {Moves : Abstract → Abstract → Prop}
    (hstep : ∀ state event, Inv state → guard state event →
      Inv (step state event) ∧
        Relation.ReflTransGen Moves (abs state) (abs (step state event)))
    {start : State} {events : List Event} (hstart : Inv start)
    (hguard : Guarded step guard start events) :
    Inv (runAll step start events) ∧
      Relation.ReflTransGen Moves (abs start) (abs (runAll step start events)) := by
  induction events generalizing start with
  | nil => exact ⟨hstart, .refl⟩
  | cons event rest ih =>
      obtain ⟨hnext, hmoves⟩ := hstep start event hstart hguard.1
      obtain ⟨hinv, hrest⟩ := ih hnext hguard.2
      exact ⟨hinv, hmoves.trans hrest⟩

/-! ## The channel -/

/-- What went into a channel and what came out of it, in order. -/
structure Channel (Tag Item : Type) where
  sent : List (Tag × Item)
  delivered : List (Tag × Item)

namespace Channel

variable {Tag Item : Type}

def empty : Channel Tag Item := ⟨[], []⟩

def send (channel : Channel Tag Item) (entries : List (Tag × Item)) : Channel Tag Item :=
  { channel with sent := channel.sent ++ entries }

def deliver (channel : Channel Tag Item) (entries : List (Tag × Item)) : Channel Tag Item :=
  { channel with delivered := channel.delivered ++ entries }

/-- Anything may be sent.  What was sent may be delivered, unless something was
delivered under its number. -/
inductive Moves : Channel Tag Item → Channel Tag Item → Prop
  | send (channel : Channel Tag Item) (entry : Tag × Item) : Moves channel (channel.send [entry])
  | deliver (channel : Channel Tag Item) (entry : Tag × Item) (hsent : entry ∈ channel.sent)
      (hfirst : entry.1 ∉ channel.delivered.map Prod.fst) : Moves channel (channel.deliver [entry])

/-- A channel that its own moves can reach from the empty one. -/
def Reachable (channel : Channel Tag Item) : Prop := Relation.ReflTransGen Moves empty channel

/-- Whatever came out went in, and no number came out twice. -/
structure Sound (channel : Channel Tag Item) : Prop where
  subset : channel.delivered ⊆ channel.sent
  nodup : (channel.delivered.map Prod.fst).Nodup

theorem sound_empty : Sound (empty : Channel Tag Item) := ⟨List.Subset.refl _, List.nodup_nil⟩

theorem Sound.moves {channel after : Channel Tag Item} (h : channel.Sound)
    (hmoves : Moves channel after) : after.Sound := by
  cases hmoves with
  | send entry => exact ⟨List.Subset.trans h.subset (List.subset_append_left _ _), h.nodup⟩
  | deliver entry hsent hfirst =>
      have hentry : [entry] ⊆ channel.sent := by simpa using hsent
      refine ⟨List.append_subset.mpr ⟨h.subset, hentry⟩, ?_⟩
      unfold deliver
      rw [List.map_append]
      exact h.nodup.append (List.nodup_singleton _) (List.disjoint_singleton.mpr hfirst)

theorem Reachable.sound {channel : Channel Tag Item} (h : channel.Reachable) : channel.Sound := by
  induction h with
  | refl => exact sound_empty
  | tail _ hmoves ih => exact ih.moves hmoves

/-- No item comes out more often than it went in. -/
theorem Reachable.subperm {channel : Channel Tag Item} (h : channel.Reachable) :
    (channel.delivered.map Prod.snd).Subperm (channel.sent.map Prod.snd) := by
  obtain ⟨hsubset, hnodup⟩ := h.sound
  have hentries : channel.delivered.Nodup := List.Nodup.of_map Prod.fst hnodup
  obtain ⟨drawn, hperm, hsublist⟩ := List.Nodup.subperm hentries hsubset
  exact ⟨drawn.map Prod.snd, hperm.map _, hsublist.map _⟩

end Channel

end Liteway.Library
