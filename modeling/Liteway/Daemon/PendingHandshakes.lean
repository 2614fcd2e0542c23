import Liteway.Daemon.AntiSpoofing
import Liteway.Daemon.Tables

/-!
# The handshakes under way

Whatever a node is sent and however its calls interleave, no handshake under way
counts as a duplicate of another, each goes through a bounded number of rounds of
sending, and each is given up in time.
-/

namespace Liteway.Daemon

open Liteway.Library Liteway.Core

/-- The same handshake after a tick. -/
structure Continues (before after : PendingHandshake) : Prop where
  initiate : after.initiate = before.initiate
  directAddr : after.directAddr = before.directAddr
  peerId : after.peerId = before.peerId
  createdAt : after.createdAt = before.createdAt
  attempts : before.attempts ≤ after.attempts
  bounded : before.attempts ≤ handshakeMaxAttempts → after.attempts ≤ handshakeMaxAttempts

theorem Continues.duplicates {before after : PendingHandshake} (h : Continues before after)
    (addr : SocketAddr) (peerId : Option UInt32) :
    duplicates addr peerId after = duplicates addr peerId before := by
  unfold Daemon.duplicates
  rw [h.peerId, h.directAddr]

theorem continues_afterTick (now : Instant) (timings : Timings) (relays : List (UInt32 × SocketAddr))
    (handshake : PendingHandshake) :
    Continues handshake (afterTick now timings relays handshake) := by
  have hrouted := withRelayFallback_eq now timings relays handshake
  cases hdue : handshake.retransmitDue now timings with
  | false =>
      rw [afterTick_of_not_due relays hdue, hrouted]
      exact ⟨rfl, rfl, rfl, rfl, Nat.le_refl _, id⟩
  | true =>
      have hfew : handshake.attempts < handshakeMaxAttempts := by
        simp only [PendingHandshake.retransmitDue, Bool.and_eq_true, decide_eq_true_eq] at hdue
        exact hdue.1.2
      rw [afterTick_of_due relays hdue, hrouted]
      exact ⟨rfl, rfl, rfl, rfl, Nat.le_succ _, fun _ => hfew⟩

/-! ## What one call leaves -/

section Table

variable {lib : Primitives} (node : Node lib)

/-- A request that the node made itself when it entered the handshake. -/
def MadeBy (handshake : PendingHandshake) : Prop :=
  ∃ env : Env, handshake.createdAt = env.now ∧
    handshake.initiate = createHandshake1 lib (env.rand []).initiator env.unixTime node.cert
      node.signingKey node.networkKey node.amRelay

/-- The handshakes are filed under the session ids that they offer, go through a bounded
number of rounds of sending, and none counts as a duplicate of another.  Two with known
peers may still be at one address. -/
structure PendingTable (pending : AssocMap UInt32 PendingHandshake) : Prop where
  filed : ∀ key handshake, pending.lookup key = some handshake →
    handshake.initiate.myRxSessionId = key
  made : ∀ key handshake, pending.lookup key = some handshake → MadeBy node handshake
  attempts : ∀ key handshake, pending.lookup key = some handshake →
    1 ≤ handshake.attempts ∧ handshake.attempts ≤ handshakeMaxAttempts
  apart : ∀ key handshake key' handshake', pending.lookup key = some handshake →
    pending.lookup key' = some handshake' → key ≠ key' →
    duplicates handshake.directAddr handshake.peerId handshake' = false

variable {node} {now : Instant} {pending pending' : AssocMap UInt32 PendingHandshake}

theorem duplicates_comm (handshake handshake' : PendingHandshake) :
    duplicates handshake.directAddr handshake.peerId handshake' =
      duplicates handshake'.directAddr handshake'.peerId handshake := by
  unfold duplicates
  cases handshake.peerId <;> cases handshake'.peerId <;> simp [eq_comm]

theorem pendingTable_empty : PendingTable node ∅ where
  filed := fun key handshake h => by simp at h
  made := fun key handshake h => by simp at h
  attempts := fun key handshake h => by simp at h
  apart := fun key handshake key' handshake' h => by simp at h

theorem lookup_repeated {relays : List (UInt32 × SocketAddr)} {key : UInt32}
    {handshake : PendingHandshake}
    (h : (repeated node now relays pending).lookup key = some handshake) :
    ∃ before, pending.lookup key = some before ∧ before.expired now node.timings = false ∧
      Continues before handshake := by
  unfold repeated at h
  rw [AssocMap.lookup_mapValues] at h
  obtain ⟨before, hretained, rfl⟩ := Option.map_eq_some_iff.mp h
  obtain ⟨hbefore, halive⟩ := AssocMap.lookup_retain.mp hretained
  exact ⟨before, hbefore, by simpa using halive, continues_afterTick _ _ _ _⟩

theorem PendingTable.started (h : PendingTable node pending) (env : Env) (addr : SocketAddr)
    (peerId : Option UInt32) (peerName : String)
    (hnew : AssocMap.any (fun _ pending => duplicates addr peerId pending) pending = false) :
    PendingTable node (pending.insert (dialled node env addr peerId peerName).initiate.myRxSessionId
      (dialled node env addr peerId peerName)) := by
  have hother : ∀ key handshake, pending.lookup key = some handshake →
      duplicates addr peerId handshake = false := by
    intro key handshake hlookup
    cases hdup : duplicates addr peerId handshake with
    | false => rfl
    | true =>
        have hany : AssocMap.any (fun _ pending => duplicates addr peerId pending) pending = true :=
          AssocMap.any_eq_true_iff.mpr ⟨key, handshake, hlookup, hdup⟩
        exact absurd (hnew.symm.trans hany) Bool.false_ne_true
  refine ⟨?_, ?_, ?_, ?_⟩
  · intro key handshake hlookup
    rw [AssocMap.lookup_insert_eq] at hlookup
    split at hlookup
    · rename_i hkey
      cases Option.some.inj hlookup
      exact hkey.symm
    · exact h.filed key handshake hlookup
  · intro key handshake hlookup
    rw [AssocMap.lookup_insert_eq] at hlookup
    split at hlookup
    · cases Option.some.inj hlookup
      exact ⟨env, rfl, rfl⟩
    · exact h.made key handshake hlookup
  · intro key handshake hlookup
    rw [AssocMap.lookup_insert_eq] at hlookup
    split at hlookup
    · cases Option.some.inj hlookup
      change 1 ≤ 1 ∧ 1 ≤ handshakeMaxAttempts
      decide
    · exact h.attempts key handshake hlookup
  · intro key handshake key' handshake' hlookup hlookup' hne
    rw [AssocMap.lookup_insert_eq] at hlookup hlookup'
    split at hlookup
    · rename_i hkey
      rw [if_neg fun hkey' => hne (hkey.trans hkey'.symm)] at hlookup'
      cases Option.some.inj hlookup
      exact hother key' handshake' hlookup'
    · split at hlookup'
      · cases Option.some.inj hlookup'
        rw [duplicates_comm]
        exact hother key handshake hlookup
      · exact h.apart key handshake key' handshake' hlookup hlookup' hne

theorem PendingTable.ofContinues (h : PendingTable node pending)
    (hrepeats : ∀ key after, pending'.lookup key = some after →
      ∃ before, pending.lookup key = some before ∧ Continues before after) :
    PendingTable node pending' where
  filed := by
    intro key after hafter
    obtain ⟨before, hbefore, hsame⟩ := hrepeats key after hafter
    rw [hsame.initiate]
    exact h.filed key before hbefore
  made := by
    intro key after hafter
    obtain ⟨before, hbefore, hsame⟩ := hrepeats key after hafter
    unfold MadeBy
    rw [hsame.initiate, hsame.createdAt]
    exact h.made key before hbefore
  attempts := by
    intro key after hafter
    obtain ⟨before, hbefore, hsame⟩ := hrepeats key after hafter
    obtain ⟨hone, hmax⟩ := h.attempts key before hbefore
    exact ⟨Nat.le_trans hone hsame.attempts, hsame.bounded hmax⟩
  apart := by
    intro key after key' after' hafter hafter' hne
    obtain ⟨before, hbefore, hsame⟩ := hrepeats key after hafter
    obtain ⟨before', hbefore', hsame'⟩ := hrepeats key' after' hafter'
    rw [hsame'.duplicates, hsame.directAddr, hsame.peerId]
    exact h.apart key before key' before' hbefore hbefore' hne

theorem Continues.refl (handshake : PendingHandshake) : Continues handshake handshake :=
  ⟨rfl, rfl, rfl, rfl, Nat.le_refl _, id⟩

theorem lookup_of_erase {key found : UInt32} {handshake : PendingHandshake}
    (h : (pending.erase key).lookup found = some handshake) :
    pending.lookup found = some handshake := by
  rw [AssocMap.lookup_erase_eq] at h
  split at h
  · contradiction
  · exact h

theorem PendingTable.move (h : PendingTable node pending)
    (hmove : PendingMove node now pending pending') : PendingTable node pending' := by
  cases hmove with
  | started env henv addr peerId peerName hnew => exact h.started env addr peerId peerName hnew
  | concluded sessionId =>
      exact h.ofContinues fun key after hafter => ⟨after, lookup_of_erase hafter, Continues.refl after⟩
  | ticked relays =>
      refine h.ofContinues fun key after hafter => ?_
      obtain ⟨before, hbefore, -, hsame⟩ := lookup_repeated hafter
      exact ⟨before, hbefore, hsame⟩

theorem PendingTable.moves (h : PendingTable node pending)
    (hmoves : PendingMoves node now pending pending') : PendingTable node pending' := by
  induction hmoves with
  | refl => exact h
  | tail _ hmove ih => exact ih.move hmove

theorem pendingTable_run (node : Node lib) (lighthouses : List LighthouseSlot) (events : List Event) :
    PendingTable node (run node lighthouses events).state.pending := by
  have hstep : ∀ (record : Record) (event : Event), PendingTable node record.state.pending →
      PendingTable node (record.step node event).state.pending :=
    fun record event h => h.moves (pending_step node record.state event)
  exact @runAll_invariant _ _ (Record.step node) (fun record => PendingTable node record.state.pending)
    hstep ⟨.initial lighthouses, []⟩ pendingTable_empty events

/-! ## How long a handshake is kept -/

/-- No handshake has been under way for the whole timeout at the time `now`. -/
def Young (node : Node lib) (now : Instant) (pending : AssocMap UInt32 PendingHandshake) : Prop :=
  ∀ key handshake, pending.lookup key = some handshake →
    now < handshake.createdAt + node.timings.handshakeTimeout

theorem Young.move {later : Instant} (h : Young node now pending) (hle : now ≤ later)
    (htimeout : 0 < node.timings.handshakeTimeout)
    (hmove : PendingMove node later pending pending') : Young node now pending' := by
  intro key handshake hlookup
  cases hmove with
  | started env henv addr peerId peerName hnew =>
      rw [AssocMap.lookup_insert_eq] at hlookup
      split at hlookup
      · cases Option.some.inj hlookup
        change now < env.now + node.timings.handshakeTimeout
        rw [henv]
        exact Nat.lt_of_le_of_lt hle (Nat.lt_add_of_pos_right htimeout)
      · exact h key handshake hlookup
  | concluded sessionId => exact h key handshake (lookup_of_erase hlookup)
  | ticked relays =>
      obtain ⟨before, hbefore, -, hsame⟩ := lookup_repeated hlookup
      rw [hsame.createdAt]
      exact h key before hbefore

theorem Young.moves {later : Instant} (h : Young node now pending) (hle : now ≤ later)
    (htimeout : 0 < node.timings.handshakeTimeout)
    (hmoves : PendingMoves node later pending pending') : Young node now pending' := by
  induction hmoves with
  | refl => exact h
  | tail _ hmove ih => exact ih.move hle htimeout hmove

theorem young_repeated (relays : List (UInt32 × SocketAddr)) :
    Young node now (repeated node now relays pending) := by
  intro key handshake hlookup
  obtain ⟨before, -, halive, hsame⟩ := lookup_repeated hlookup
  rw [hsame.createdAt]
  have hage : ¬ now - before.createdAt ≥ node.timings.handshakeTimeout :=
    of_decide_eq_false halive
  exact Nat.lt_of_not_le fun hle => hage (Nat.le_sub_of_add_le' hle)

theorem young_run {record : Record} {events : List Event} (h : Young node now record.state.pending)
    (htimeout : 0 < node.timings.handshakeTimeout) (hclock : ∀ event ∈ events, now ≤ event.now) :
    Young node now (runAll (Record.step node) record events).state.pending := by
  induction events generalizing record with
  | nil => exact h
  | cons event events ih =>
      obtain ⟨hle, hrest⟩ := List.forall_mem_cons.mp hclock
      exact @ih (record.step node event) (h.moves hle htimeout (pending_step node record.state event))
        hrest

/-- In every reachable state no handshake under way counts as a duplicate of another,
every request is one that the node made and goes through at most ten rounds of sending,
and whatever was under way for the whole timeout at some tick is given up. -/
theorem pending_handshakes (node : Node lib) (htimeout : 0 < node.timings.handshakeTimeout)
    (lighthouses : List LighthouseSlot) {events : List Event}
    (hclock : events.Pairwise fun earlier later => earlier.now ≤ later.now) :
    PendingTable node (run node lighthouses events).state.pending ∧
      ∀ env, Event.maintenance env ∈ events →
        Young node env.now (run node lighthouses events).state.pending := by
  refine ⟨pendingTable_run node lighthouses events, fun env hmem => ?_⟩
  obtain ⟨before, after, rfl⟩ := List.append_of_mem hmem
  have hlater := (List.pairwise_cons.mp (List.pairwise_append.mp hclock).2.1).1
  have htick : Young node env.now
      ((run node lighthouses before).step node (.maintenance env)).state.pending := by
    change Young node env.now (maintenanceTick node env (run node lighthouses before).state).1.pending
    rw [(maintenanceTick_tables node env _).1]
    exact young_repeated _
  unfold run
  rw [runAll_append, runAll_cons]
  exact young_run htick htimeout hlater

end Table

namespace Sample

def lookout : LighthouseSlot where
  name := "bob"
  configured := "bob:4242"
  address := Core.Sample.source
  peerId := none
  resolvedAt := 0

def dialsLookout : List Event :=
  [.punch (env 0 1 ⟨1, Core.Sample.one_ne⟩) fun _ => none,
    .maintenance (env 1 1 ⟨1, Core.Sample.one_ne⟩)]

end Sample

/-- Alice is not dialling the lighthouse for longer than ten seconds. -/
theorem alice_dials_lookout :
    PendingTable (Sample.node [] "alice" 1)
        (run (Sample.node [] "alice" 1) [Sample.lookout] Sample.dialsLookout).state.pending ∧
      Young (Sample.node [] "alice" 1) (Duration.fromSecs 1)
        (run (Sample.node [] "alice" 1) [Sample.lookout] Sample.dialsLookout).state.pending := by
  have hclock : Sample.dialsLookout.Pairwise fun earlier later => earlier.now ≤ later.now := by
    refine List.pairwise_pair.mpr ?_
    decide
  obtain ⟨htable, hyoung⟩ :=
    pending_handshakes (Sample.node [] "alice" 1) (by decide) [Sample.lookout] hclock
  exact ⟨htable, hyoung _ (List.mem_cons_of_mem _ (List.mem_singleton_self _))⟩

end Liteway.Daemon
