import Liteway.Daemon.Maintenance

/-!
# One handshake through the ticks

What `retransmit_handshakes` makes of one pending handshake, whatever else the node
is waiting for.
-/

namespace Liteway.Daemon

open Liteway.Library Liteway.Core

def maintenanceTickInterval : Duration := millis 250

def connectedRelays (st : NodeState) : List (UInt32 × SocketAddr) :=
  (st.peers.entries.filter fun entry => entry.2.isRelay).map fun entry => (entry.1, entry.2.addr)

def firstRelay (st : NodeState) (target : UInt32) : Option (UInt32 × SocketAddr) :=
  (connectedRelays st).find? fun relay => some relay.1 ≠ some target

theorem mem_forEach_send {α : Type} (send : Nat → α → List Effect) {xs : List α} {x : α}
    (hx : x ∈ xs) (i : Nat) (st : NodeState) :
    ∃ j, ∀ effect ∈ send j x, effect ∈ (forEach (fun i x st => (st, send i x)) i xs st).2 := by
  induction xs generalizing i st with
  | nil => contradiction
  | cons first xs ih =>
      obtain rfl | hrest := List.mem_cons.mp hx
      · exact ⟨i, fun effect heffect => List.mem_append_left _ heffect⟩
      · obtain ⟨j, hj⟩ := ih hrest (i + 1) st
        exact ⟨j, fun effect heffect => List.mem_append_right _ (hj effect heffect)⟩

theorem withRelayFallback_eq (now : Instant) (timings : Timings)
    (relays : List (UInt32 × SocketAddr)) (handshake : PendingHandshake) :
    withRelayFallback now timings relays handshake = { handshake with
      relayAddr := (withRelayFallback now timings relays handshake).relayAddr } := by
  unfold withRelayFallback
  split
  · split <;> rfl
  · rfl

@[simp] theorem retransmitDue_withRelayFallback (now : Instant) (timings : Timings)
    (relays : List (UInt32 × SocketAddr)) (handshake : PendingHandshake) :
    (withRelayFallback now timings relays handshake).retransmitDue now timings =
      handshake.retransmitDue now timings := by
  rw [withRelayFallback_eq]
  rfl

def afterTick (now : Instant) (timings : Timings) (relays : List (UInt32 × SocketAddr))
    (handshake : PendingHandshake) : PendingHandshake :=
  withAttempt now timings (withRelayFallback now timings relays handshake)

theorem afterTick_of_due {now : Instant} {timings : Timings} {handshake : PendingHandshake}
    (relays : List (UInt32 × SocketAddr)) (hdue : handshake.retransmitDue now timings = true) :
    afterTick now timings relays handshake =
      (withRelayFallback now timings relays handshake).recordAttempt now := by
  unfold afterTick withAttempt
  rw [if_pos (by rw [retransmitDue_withRelayFallback, hdue])]

theorem afterTick_of_not_due {now : Instant} {timings : Timings} {handshake : PendingHandshake}
    (relays : List (UInt32 × SocketAddr)) (hdue : handshake.retransmitDue now timings = false) :
    afterTick now timings relays handshake = withRelayFallback now timings relays handshake := by
  unfold afterTick withAttempt
  rw [retransmitDue_withRelayFallback, hdue]
  rfl

section Ticks

variable {lib : Primitives} (node : Node lib) (env : Env) (st : NodeState)

def routedHandshakes : AssocMap UInt32 PendingHandshake :=
  AssocMap.mapValues
    (fun _ handshake => withRelayFallback env.now node.timings (connectedRelays st) handshake)
    (AssocMap.retain (fun _ handshake => !handshake.expired env.now node.timings) st.pending)

def retransmissions : List (PendingHandshake × SocketAddr) :=
  ((routedHandshakes node env st).entries.filter fun entry =>
    entry.2.retransmitDue env.now node.timings).flatMap fun entry =>
      entry.2.targets.map fun target => (entry.2, target)

theorem retransmitHandshakes_eq :
    retransmitHandshakes node env st =
      forEach (fun i copy st =>
        (st, (sendMessageWithId node (env.part i) copy.1.initiate.msg copy.2 (copy.1.peerId.getD 0)
          copy.1.initiate.myRxSessionId).2)) 0 (retransmissions node env st)
        { st with
          pending := AssocMap.mapValues
            (fun _ handshake => withAttempt env.now node.timings handshake)
            (routedHandshakes node env st) } := rfl

variable {node env st} {key : UInt32} {handshake : PendingHandshake}

theorem lookup_routedHandshakes (hlookup : st.pending.lookup key = some handshake)
    (halive : handshake.expired env.now node.timings = false) :
    (routedHandshakes node env st).lookup key =
      some (withRelayFallback env.now node.timings (connectedRelays st) handshake) := by
  have hretain : (AssocMap.retain (fun _ handshake => !handshake.expired env.now node.timings)
      st.pending).lookup key = some handshake :=
    AssocMap.lookup_retain.mpr ⟨hlookup, by simp [halive]⟩
  unfold routedHandshakes
  rw [AssocMap.lookup_mapValues, hretain]
  rfl

theorem lookup_after_tick (hlookup : st.pending.lookup key = some handshake)
    (halive : handshake.expired env.now node.timings = false) :
    (retransmitHandshakes node env st).1.pending.lookup key =
      some (afterTick env.now node.timings (connectedRelays st) handshake) := by
  rw [retransmitHandshakes_eq, forEach_state (fun _ _ _ _ => rfl), AssocMap.lookup_mapValues,
    lookup_routedHandshakes hlookup halive]
  rfl

theorem mem_retransmissions (hlookup : st.pending.lookup key = some handshake)
    (halive : handshake.expired env.now node.timings = false)
    (hdue : handshake.retransmitDue env.now node.timings = true)
    {target : SocketAddr} (htarget : target ∈
      (withRelayFallback env.now node.timings (connectedRelays st) handshake).targets) :
    (withRelayFallback env.now node.timings (connectedRelays st) handshake, target) ∈
      retransmissions node env st := by
  have hrouted := AssocMap.lookup_eq_some_iff.mp
    (@lookup_routedHandshakes _ node env st key _ hlookup halive)
  have hdue' := (retransmitDue_withRelayFallback env.now node.timings (connectedRelays st)
    handshake).trans hdue
  exact List.mem_flatMap.mpr ⟨_, List.mem_filter.mpr ⟨hrouted, hdue'⟩,
    List.mem_map.mpr ⟨target, htarget, rfl⟩⟩

theorem exists_pending_of_mem_retransmissions {copy : PendingHandshake × SocketAddr}
    (h : copy ∈ retransmissions node env st) :
    ∃ key handshake, st.pending.lookup key = some handshake ∧
      handshake.retransmitDue env.now node.timings = true ∧
      copy.1 = withRelayFallback env.now node.timings (connectedRelays st) handshake ∧
      copy.2 ∈ copy.1.targets := by
  obtain ⟨entry, hentry, hcopy⟩ := List.mem_flatMap.mp h
  obtain ⟨hrouted, hdue⟩ := List.mem_filter.mp hentry
  obtain ⟨target, htarget, rfl⟩ := List.mem_map.mp hcopy
  have hlookup := AssocMap.lookup_eq_some_iff.mpr hrouted
  unfold routedHandshakes at hlookup
  rw [AssocMap.lookup_mapValues] at hlookup
  obtain ⟨handshake, hretained, heq⟩ := Option.map_eq_some_iff.mp hlookup
  rw [← heq, retransmitDue_withRelayFallback] at hdue
  exact ⟨entry.1, handshake, (AssocMap.lookup_retain.mp hretained).1, hdue, heq.symm, htarget⟩

theorem sends_of_mem_retransmissions {copy : PendingHandshake × SocketAddr}
    (h : copy ∈ retransmissions node env st) :
    ∃ i, ∀ effect ∈ (sendMessageWithId node (env.part i) copy.1.initiate.msg copy.2
      (copy.1.peerId.getD 0) copy.1.initiate.myRxSessionId).2,
      effect ∈ (retransmitHandshakes node env st).2 := by
  rw [retransmitHandshakes_eq]
  exact mem_forEach_send (fun i (copy : PendingHandshake × SocketAddr) =>
    (sendMessageWithId node (env.part i) copy.1.initiate.msg copy.2 (copy.1.peerId.getD 0)
      copy.1.initiate.myRxSessionId).2) h 0 _

end Ticks

/-! ## The relay fallback of a handshake -/

section Fallback

variable {now : Instant} {timings : Timings} {relays : List (UInt32 × SocketAddr)}
  {handshake : PendingHandshake}

theorem relayAddr_afterTick (now : Instant) (timings : Timings)
    (relays : List (UInt32 × SocketAddr)) (handshake : PendingHandshake) :
    (afterTick now timings relays handshake).relayAddr =
      (withRelayFallback now timings relays handshake).relayAddr := by
  unfold afterTick withAttempt
  split <;> rfl

theorem withRelayFallback_of_early
    (hearly : now.durationSince handshake.createdAt < timings.relayFallback) :
    withRelayFallback now timings relays handshake = handshake := by
  unfold withRelayFallback
  rw [if_neg]
  simp only [PendingHandshake.relayFallbackDue, ge_iff_le, Bool.and_eq_true, decide_eq_true_eq]
  exact fun hdue => absurd hdue.2 (Nat.not_le.mpr hearly)

theorem relayAddr_cases {target : UInt32} (htarget : handshake.peerId = some target)
    {addr : SocketAddr}
    (h : (withRelayFallback now timings relays handshake).relayAddr = some addr) :
    handshake.relayAddr = some addr ∨
      ∃ relay, relays.find? (fun relay => some relay.1 ≠ some target) = some relay ∧
        relay.2 = addr := by
  unfold withRelayFallback at h
  rw [htarget] at h
  split at h
  · split at h
    · rename_i relay hrelay
      exact Or.inr ⟨relay, hrelay, Option.some.inj h⟩
    · exact Or.inl h
  · exact Or.inl h

/-- Once the fallback is due there is a relay address, if a relay is connected. -/
theorem relayAddr_of_late {target : UInt32} (htarget : handshake.peerId = some target)
    (hlate : timings.relayFallback ≤ now.durationSince handshake.createdAt)
    (hrelay : (relays.find? fun relay => some relay.1 ≠ some target).isSome = true) :
    ∃ addr, (withRelayFallback now timings relays handshake).relayAddr = some addr := by
  cases haddr : handshake.relayAddr with
  | some addr =>
      refine ⟨addr, ?_⟩
      unfold withRelayFallback
      rw [if_neg (by simp [PendingHandshake.relayFallbackDue, haddr])]
      exact haddr
  | none =>
      obtain ⟨relay, hfound⟩ := Option.isSome_iff_exists.mp hrelay
      refine ⟨relay.2, ?_⟩
      unfold withRelayFallback
      rw [if_pos (by simp [PendingHandshake.relayFallbackDue, haddr, htarget, hlate]), htarget,
        hfound]

theorem mem_targets_of_relayAddr {addr : SocketAddr} (h : handshake.relayAddr = some addr) :
    addr ∈ handshake.targets := by
  unfold PendingHandshake.targets
  rw [h]
  simp only
  split
  · simp
  · rename_i hsame
    simp [not_not.mp hsame]

end Fallback

end Liteway.Daemon
