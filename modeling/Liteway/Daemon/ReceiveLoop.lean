import Liteway.Core.FragRefusal
import Liteway.Daemon.Tables

/-!
# The receive loop

One thread reads the socket and throws away old partial messages about once a
second.  What it does between the calls of the other threads is a run, and no partial
message outlives its limit by more than the pause between two sweeps.
-/

namespace Liteway.Daemon

open Liteway.Library Liteway.Core

/-! ## Ages in the assembler -/

section Ages

variable {asm asm' : FragmentAssembler} {swept : Instant}

/-- Nothing would be thrown away at the given time. -/
def Swept (swept : Instant) (asm : FragmentAssembler) : Prop :=
  ∀ key msg, asm.pending.lookup key = some msg → FragmentAssembler.keep swept msg = true

theorem Swept.erase (h : Swept swept asm) (key : FragmentKey) (bufferedBytes : Nat) :
    Swept swept { pending := asm.pending.erase key, bufferedBytes := bufferedBytes } := by
  intro other msg hlookup
  change (asm.pending.erase key).lookup other = some msg at hlookup
  rw [AssocMap.lookup_erase_eq] at hlookup
  split at hlookup
  · contradiction
  · exact h other msg hlookup

theorem Swept.insert (h : Swept swept asm) {key : FragmentKey} {msg : PendingMessage}
    (hkeep : FragmentAssembler.keep swept msg = true) (bufferedBytes : Nat) :
    Swept swept { pending := asm.pending.insert key msg, bufferedBytes := bufferedBytes } := by
  intro other found hlookup
  change (asm.pending.insert key msg).lookup other = some found at hlookup
  rw [AssocMap.lookup_insert_eq] at hlookup
  split at hlookup
  · cases Option.some.inj hlookup
    exact hkeep
  · exact h other found hlookup

theorem Swept.removePending (h : Swept swept asm) (key : FragmentKey) :
    Swept swept (asm.removePending key) := by
  unfold FragmentAssembler.removePending
  split
  · exact h
  · exact h.erase key _

theorem keep_of_le {now : Instant} (hnow : swept ≤ now) {msg : PendingMessage}
    (hstarted : msg.started = now) : FragmentAssembler.keep swept msg = true := by
  have hzero : Instant.durationSince swept now = 0 := Nat.sub_eq_zero_of_le hnow
  unfold FragmentAssembler.keep
  rw [hstarted, hzero]
  decide

theorem Swept.reserve (h : Swept swept asm) {now : Instant} (hnow : swept ≤ now)
    {key : FragmentKey} {total : Nat} (hreserve : asm.reserve now key total = some asm') :
    Swept swept asm' := by
  unfold FragmentAssembler.reserve at hreserve
  split at hreserve
  · cases Option.some.inj hreserve
    exact h
  split at hreserve
  · contradiction
  · cases Option.some.inj hreserve
    exact h.insert (keep_of_le hnow rfl) _

theorem Swept.accept (h : Swept swept asm) (key : FragmentKey) (fragment : Fragment) :
    Swept swept (asm.accept key fragment).2 := by
  unfold FragmentAssembler.accept
  split
  · exact h
  · next entry hentry =>
      split
      · exact h.removePending key
      dsimp only
      split
      · exact h.removePending key
      split
      · exact h
      · unfold FragmentAssembler.store
        dsimp only
        split
        · exact h.erase key _
        · refine h.insert ?_ _
          exact h key entry hentry

theorem Swept.feed (h : Swept swept asm) (lib : Primitives) {now : Instant} (hnow : swept ≤ now)
    (src : SocketAddr) (data : ByteString) (networkKey : NetworkKey) :
    Swept swept (asm.feed lib now src data networkKey).2 := by
  unfold FragmentAssembler.feed
  split
  · exact h
  unfold FragmentAssembler.feedFragment
  split
  · exact h
  split
  · exact h
  split
  · exact h
  · next hreserve => exact (h.reserve hnow hreserve).accept _ _

theorem swept_cleanup (asm : FragmentAssembler) (now : Instant) : Swept now (asm.cleanup now) :=
  fun _ _ hlookup => (AssocMap.lookup_retain.mp hlookup).2

end Ages

/-! ## The loop -/

/-- What the socket gives in one turn. -/
inductive Received where
  | datagram (src : SocketAddr) (data : ByteString)
  | timedOut
  | failed

/-- One turn of the loop, with the clock wherever it is read after the datagram was
handled. -/
structure ReceiveTurn where
  received : Received
  env : Env
  checked : Instant
  swept : Instant
  marked : Instant

structure ReceiveLoop where
  state : NodeState
  lastCleanup : Instant

def cleanupInterval : Duration := Duration.fromSecs 1

section Loop

variable {lib : Primitives} (node : Node lib)

def handleReceived (st : NodeState) (turn : ReceiveTurn) : NodeState × List Effect :=
  match turn.received with
  | .datagram src data =>
      if data.isEmpty then (st, []) else handleDatagram node turn.env st src data
  | .timedOut => (st, [])
  | .failed => (st, [])

/-- The body of `run_receiver`. -/
def receiveTurn (receiver : ReceiveLoop) (turn : ReceiveTurn) : ReceiveLoop × List Effect :=
  let out := handleReceived node receiver.state turn
  if Instant.durationSince turn.checked receiver.lastCleanup ≥ cleanupInterval then
    (⟨{ out.1 with assembler := out.1.assembler.cleanup turn.swept }, turn.marked⟩, out.2)
  else (⟨out.1, receiver.lastCleanup⟩, out.2)

def ReceiveTurn.arrival (turn : ReceiveTurn) : List Event :=
  match turn.received with
  | .datagram src data => if data.isEmpty then [] else [.datagram turn.env src data]
  | .timedOut => []
  | .failed => []

def ReceiveTurn.sweep (turn : ReceiveTurn) (receiver : ReceiveLoop) : List Event :=
  if Instant.durationSince turn.checked receiver.lastCleanup ≥ cleanupInterval then
    [.cleanup turn.swept]
  else []

theorem handleReceived_eq (st : NodeState) (turn : ReceiveTurn) :
    (handleReceived node st turn).1 =
      runAll (fun st event => (step node st event).1) st turn.arrival := by
  unfold handleReceived ReceiveTurn.arrival
  split
  · split <;> rfl
  · rfl
  · rfl

/-- A turn is at most two calls, one after the other. -/
theorem receiveTurn_eq (receiver : ReceiveLoop) (turn : ReceiveTurn) :
    (receiveTurn node receiver turn).1 =
      ⟨runAll (fun st event => (step node st event).1) receiver.state
          (turn.arrival ++ turn.sweep receiver),
        if Instant.durationSince turn.checked receiver.lastCleanup ≥ cleanupInterval then
          turn.marked
        else receiver.lastCleanup⟩ := by
  rw [runAll_append, ← handleReceived_eq]
  unfold receiveTurn ReceiveTurn.sweep
  split <;> rfl

/-! ## The loop among the other threads -/

/-- The calls that only the receive loop makes. -/
def Event.received : Event → Bool
  | .datagram .. => true
  | .cleanup _ => true
  | _ => false

inductive LoopMove where
  | turn (turn : ReceiveTurn)
  | other (event : Event) (h : event.received = false)

def ReceiveLoop.move (receiver : ReceiveLoop) : LoopMove → ReceiveLoop
  | .turn turn => (receiveTurn node receiver turn).1
  | .other event _ => ⟨(step node receiver.state event).1, receiver.lastCleanup⟩

/-- The loop starts at `begun`, when the node has nothing yet. -/
def receiveLoop (lighthouses : List LighthouseSlot) (begun : Instant) (moves : List LoopMove) :
    ReceiveLoop :=
  runAll (ReceiveLoop.move node) ⟨.initial lighthouses, begun⟩ moves

theorem state_runAll (record : Record) (events : List Event) :
    (runAll (Record.step node) record events).state =
      runAll (fun st event => (step node st event).1) record.state events := by
  induction events generalizing record with
  | nil => rfl
  | cons event events ih => exact ih (record.step node event)

theorem exists_events_of_move (receiver : ReceiveLoop) (move : LoopMove) :
    ∃ events, (receiver.move node move).state =
      runAll (fun st event => (step node st event).1) receiver.state events := by
  cases move with
  | turn turn => exact ⟨_, congrArg ReceiveLoop.state (receiveTurn_eq node receiver turn)⟩
  | other event h => exact ⟨[event], rfl⟩

theorem exists_run_of_receiveLoop (lighthouses : List LighthouseSlot) (begun : Instant)
    (moves : List LoopMove) :
    ∃ events,
      (receiveLoop node lighthouses begun moves).state = (run node lighthouses events).state := by
  have hmoves : ∀ (receiver : ReceiveLoop), ∃ events,
      (runAll (ReceiveLoop.move node) receiver moves).state =
        runAll (fun st event => (step node st event).1) receiver.state events := by
    induction moves with
    | nil => exact fun receiver => ⟨[], rfl⟩
    | cons move moves ih =>
        intro receiver
        obtain ⟨events, hmove⟩ := exists_events_of_move node receiver move
        obtain ⟨later, hlater⟩ := ih (receiver.move node move)
        exact ⟨events ++ later, by rw [runAll_cons, hlater, hmove, runAll_append]⟩
  obtain ⟨events, hevents⟩ := hmoves ⟨.initial lighthouses, begun⟩
  exact ⟨events, hevents.trans (state_runAll node ⟨.initial lighthouses, []⟩ events).symm⟩

/-! ## The clock of the loop -/

/-- The clock does not go back, and a sweep takes no longer than `pause`. -/
def Clocked (pause : Duration) : Instant → List LoopMove → Prop
  | _, [] => True
  | time, .turn turn :: moves =>
      time ≤ turn.env.now ∧ turn.env.now ≤ turn.checked ∧ turn.checked ≤ turn.swept ∧
        turn.swept ≤ turn.marked ∧ turn.marked ≤ turn.swept + pause ∧
        Clocked pause turn.marked moves
  | time, .other .. :: moves => Clocked pause time moves

theorem clocked_before {pause : Duration} {time : Instant} {moves later : List LoopMove}
    (h : Clocked pause time (moves ++ later)) : Clocked pause time moves := by
  induction moves generalizing time with
  | nil => exact trivial
  | cons move moves ih =>
      cases move with
      | turn turn =>
          obtain ⟨htime, hnow, hchecked, hswept, hmarked, hrest⟩ := h
          exact ⟨htime, hnow, hchecked, hswept, hmarked, ih hrest⟩
      | other event hother => exact @ih time h

/-- At the last sweep, or before, everything that is there was young. -/
def Cleaned (pause : Duration) (time : Instant) (receiver : ReceiveLoop) : Prop :=
  ∃ swept, swept ≤ time ∧ receiver.lastCleanup ≤ swept + pause ∧
    Swept swept receiver.state.assembler

variable {pause : Duration} {time : Instant} {receiver : ReceiveLoop}

theorem swept_datagram {swept : Instant} {st : NodeState} (h : Swept swept st.assembler) {env : Env}
    (hnow : swept ≤ env.now) (src : SocketAddr) (data : ByteString) :
    Swept swept (step node st (.datagram env src data)).1.assembler := by
  rw [assembler_step]
  change Swept swept (st.assembler.calls lib
    (if (relayTarget node data).isSome then [] else [.feed env.now src data node.networkKey]))
  split
  · exact h
  · exact h.feed lib hnow src data node.networkKey

theorem assembler_of_other (st : NodeState) {event : Event} (h : event.received = false) :
    (step node st event).1.assembler = st.assembler := by
  rw [assembler_step]
  cases event with
  | datagram env src data => contradiction
  | cleanup now => contradiction
  | maintenance env => rfl
  | punch env resolve => rfl
  | tunPacket env overlayNetworks ipPacket => rfl
  | shutdown env => rfl

theorem swept_handleReceived {swept : Instant} {st : NodeState} (h : Swept swept st.assembler)
    {turn : ReceiveTurn} (hnow : swept ≤ turn.env.now) :
    Swept swept (handleReceived node st turn).1.assembler := by
  unfold handleReceived
  split
  · next src data _ =>
      split
      · exact h
      · exact swept_datagram node h hnow src data
  · exact h
  · exact h

private theorem age_lt {checked last swept started pause interval age : Nat}
    (hlast : checked - last < interval) (hpause : last ≤ swept + pause)
    (hage : swept - started < age) : checked - started < age + interval + pause := by
  omega

private theorem age_of_swept {checked swept started pause interval age : Nat}
    (hle : checked ≤ swept) (hage : swept - started < age) :
    checked - started < age + interval + pause := by
  omega

private theorem lt_of_asSecs {duration : Nat} (h : duration / 1000000000 < 30) :
    duration < 30000000000 := by
  omega

theorem age_of_keep {now : Instant} {msg : PendingMessage}
    (h : FragmentAssembler.keep now msg = true) :
    Instant.durationSince now msg.started < Duration.fromSecs cleanupAgeSecs :=
  lt_of_asSecs (of_decide_eq_true h)

/-- What a turn leaves behind is at most as old as the limit, the time to the next sweep
and the time a sweep takes. -/
theorem Cleaned.turn (h : Cleaned pause time receiver) {turn : ReceiveTurn}
    (htime : time ≤ turn.env.now) (hnow : turn.env.now ≤ turn.checked)
    (hchecked : turn.checked ≤ turn.swept) (hswept : turn.swept ≤ turn.marked)
    (hmarked : turn.marked ≤ turn.swept + pause) :
    let after := (receiveTurn node receiver turn).1
    Cleaned pause turn.marked after ∧
      ∀ key msg, after.state.assembler.pending.lookup key = some msg →
        Instant.durationSince turn.checked msg.started <
          Duration.fromSecs cleanupAgeSecs + cleanupInterval + pause := by
  obtain ⟨swept, hbefore, hlast, hyoung⟩ := h
  have hhandled := swept_handleReceived node hyoung (Nat.le_trans hbefore htime)
  intro after
  unfold after receiveTurn
  dsimp only
  split
  · have hclean := swept_cleanup (handleReceived node receiver.state turn).1.assembler turn.swept
    refine ⟨⟨turn.swept, hswept, hmarked, hclean⟩, fun key msg hlookup => ?_⟩
    exact age_of_swept hchecked (age_of_keep (hclean key msg hlookup))
  · next hearly =>
      refine ⟨⟨swept, ?_, hlast, hhandled⟩, fun key msg hlookup => ?_⟩
      · exact hbefore.trans (htime.trans (hnow.trans (hchecked.trans hswept)))
      · exact age_lt (Nat.lt_of_not_le hearly) hlast (age_of_keep (hhandled key msg hlookup))

theorem cleaned_run {moves : List LoopMove} (h : Cleaned pause time receiver)
    (hclock : Clocked pause time moves) :
    ∃ time', Cleaned pause time' (runAll (ReceiveLoop.move node) receiver moves) ∧
      ∀ later, Clocked pause time (moves ++ later) → Clocked pause time' later := by
  induction moves generalizing time receiver with
  | nil => exact ⟨time, h, fun later hlater => hlater⟩
  | cons move moves ih =>
      cases move with
      | turn turn =>
          obtain ⟨htime, hnow, hchecked, hswept, hmarked, hrest⟩ := hclock
          obtain ⟨time', hcleaned, hlater⟩ :=
            ih (h.turn node htime hnow hchecked hswept hmarked).1 hrest
          exact ⟨time', hcleaned, fun later hclock => hlater later hclock.2.2.2.2.2⟩
      | other event hother =>
          obtain ⟨swept, hbefore, hlast, hyoung⟩ := h
          rw [← assembler_of_other node receiver.state hother] at hyoung
          exact ih ⟨swept, hbefore, hlast, hyoung⟩ hclock

theorem lookup_of_silent {key : FragmentKey} {msg : PendingMessage} {turn : ReceiveTurn}
    (h : receiver.state.assembler.pending.lookup key = some msg)
    (hsilent : turn.received = .timedOut) (hkeep : FragmentAssembler.keep turn.swept msg = true) :
    (receiveTurn node receiver turn).1.state.assembler.pending.lookup key = some msg := by
  unfold receiveTurn handleReceived
  rw [hsilent]
  dsimp only
  split
  · exact AssocMap.lookup_retain.mpr ⟨h, hkeep⟩
  · exact h

/-- What a turn left is still there after a call of another thread and a silent turn that
finds it young. -/
theorem lookup_of_young (lighthouses : List LighthouseSlot) (begun : Instant)
    {first last : ReceiveTurn} {key : FragmentKey} {msg : PendingMessage}
    (hfirst : (receiveTurn node ⟨.initial lighthouses, begun⟩ first).1.state.assembler.pending.lookup
      key = some msg) {event : Event} (hother : event.received = false)
    (hsilent : last.received = .timedOut) (hkeep : FragmentAssembler.keep last.swept msg = true) :
    (receiveLoop node lighthouses begun
      ([.turn first, .other event hother] ++ [.turn last])).state.assembler.pending.lookup key =
        some msg := by
  rw [← assembler_of_other node _ hother] at hfirst
  exact lookup_of_silent node hfirst hsilent hkeep

end Loop

/-- Among the calls of the other threads the receive loop goes through states of runs, and
after each of its turns no partial message is older than thirty-one seconds and the time
a sweep takes. -/
theorem partial_messages_expire {lib : Primitives} (node : Node lib)
    (lighthouses : List LighthouseSlot) {begun : Instant} {pause : Duration} {moves : List LoopMove}
    {last : ReceiveTurn} (hclock : Clocked pause begun (moves ++ [.turn last])) :
    let after := receiveLoop node lighthouses begun (moves ++ [.turn last])
    (∃ events, after.state = (run node lighthouses events).state) ∧
      ∀ key msg, after.state.assembler.pending.lookup key = some msg →
        Instant.durationSince last.checked msg.started < Duration.fromSecs 31 + pause := by
  have hstart : Cleaned pause begun ⟨.initial lighthouses, begun⟩ :=
    ⟨begun, Nat.le_refl _, Nat.le_add_right _ _, fun _ _ hlookup => absurd hlookup nofun⟩
  intro after
  refine ⟨exists_run_of_receiveLoop node lighthouses begun _, ?_⟩
  obtain ⟨time, hcleaned, hlater⟩ := cleaned_run node hstart (clocked_before hclock)
  obtain ⟨htime, hnow, hchecked, hswept, hmarked, -⟩ := hlater _ hclock
  have hturn := (hcleaned.turn node htime hnow hchecked hswept hmarked).2
  have hafter : after = (receiveTurn node
      (runAll (ReceiveLoop.move node) ⟨.initial lighthouses, begun⟩ moves) last).1 :=
    runAll_append _ _ moves [.turn last]
  rw [hafter]
  exact hturn

namespace Sample

def turn (secs : Nat) (received : Received) : ReceiveTurn where
  received := received
  env := env secs 1 ⟨1, Core.Sample.one_ne⟩
  checked := Duration.fromSecs secs
  swept := Duration.fromSecs secs
  marked := Duration.fromSecs secs

noncomputable def firstHalf : ByteString := Core.Sample.half 7 0 [1, 2, 3]

def halfMessage : PendingMessage where
  chunks := [some [1, 2, 3], none]
  started := 0
  bytes := 3

def tick : Event := .maintenance (env 1 1 ⟨1, Core.Sample.one_ne⟩)

theorem received_tick : tick.received = false := rfl

/-- The first half arrives, another thread ticks, and then the socket is silent. -/
noncomputable def turns (secs : Nat) : List LoopMove :=
  [.turn (turn 0 (.datagram Core.Sample.source firstHalf)), .other tick received_tick] ++
    [.turn (turn secs .timedOut)]

theorem clocked_turns (secs : Nat) : Clocked 0 0 (turns secs) := by
  simp only [turns, turn, Clocked, env, List.cons_append, List.nil_append, Nat.add_zero, le_refl,
    Nat.zero_le, true_and, and_true]
  exact Nat.mul_le_mul_right _ (Nat.zero_le secs)

theorem isEmpty_firstHalf : firstHalf.isEmpty = false := by
  have hlength := length_sealFragment (transparent_correct []).aead Core.Sample.sealing
    Core.Sample.networkKey 0 7 0 2 [1, 2, 3]
  rw [List.isEmpty_eq_false_iff_exists_mem]
  exact List.exists_mem_of_length_pos (hlength ▸ Nat.succ_pos _)

theorem relayTarget_firstHalf : relayTarget (node [] "alice" 1) firstHalf = none :=
  relayTarget_of_header
    (networkHeader_sealFragment (transparent_correct []).aead _ _ _ _ _ _ _) (.inl rfl)

theorem feed_firstHalf :
    (FragmentAssembler.new.feed (transparent []) 0 Core.Sample.source firstHalf
      Core.Sample.networkKey).2.pending.lookup (Core.Sample.source, 7) = some halfMessage := by
  have hopen := @Core.Sample.openFragment_half 7 0 (by decide) [1, 2, 3]
  have hfirst := @FragmentAssembler.feedFragment_first .new Core.Sample.source 7 [1, 2, 3] 0 rfl
    (by decide) (by decide) (by decide) (by decide) (by decide)
  unfold FragmentAssembler.feed firstHalf
  rw [hopen]
  dsimp only
  rw [show (0 : UInt8).toNat = 0 from rfl, hfirst]
  exact AList.lookup_insert _

theorem lookup_arrived :
    (receiveTurn (node [] "alice" 1) ⟨.initial [], 0⟩
      (turn 0 (.datagram Core.Sample.source firstHalf))).1.state.assembler.pending.lookup
        (Core.Sample.source, 7) = some halfMessage := by
  have harrival : (turn 0 (.datagram Core.Sample.source firstHalf)).arrival =
      [.datagram (env 0 1 ⟨1, Core.Sample.one_ne⟩) Core.Sample.source firstHalf] := by
    simp only [ReceiveTurn.arrival, turn, isEmpty_firstHalf, Bool.false_eq_true, if_false]
  have hsweep : (turn 0 (.datagram Core.Sample.source firstHalf)).sweep ⟨.initial [], 0⟩ = [] := rfl
  rw [receiveTurn_eq, harrival, hsweep]
  change (step (node [] "alice" 1) (.initial []) _).1.assembler.pending.lookup _ = _
  rw [assembler_step, fed, relayTarget_firstHalf]
  exact feed_firstHalf

theorem keep_halfMessage {secs : Nat} (hsecs : secs < 30) :
    FragmentAssembler.keep (Duration.fromSecs secs) halfMessage = true := by
  have hasSecs : (Duration.fromSecs secs - 0) / 1000000000 = secs :=
    Nat.mul_div_cancel secs (by decide)
  unfold FragmentAssembler.keep Duration.asSecs Instant.durationSince
  rw [show halfMessage.started = 0 from rfl, hasSecs]
  exact decide_eq_true hsecs

theorem lookup_turns {secs : Nat} (hsecs : secs < 30) :
    (receiveLoop (node [] "alice" 1) [] 0 (turns secs)).state.assembler.pending.lookup
      (Core.Sample.source, 7) = some halfMessage := by
  rw [turns]
  exact lookup_of_young _ _ _ lookup_arrived received_tick rfl (keep_halfMessage hsecs)

end Sample

/-- The first half of a message, and nothing more of it: after twenty-nine seconds it is
still there, and younger than the limit; after thirty-one it is gone. -/
theorem half_message_expires :
    let node := Sample.node [] "alice" 1
    let key := (Core.Sample.source, 7)
    let pending (secs : Nat) :=
      (receiveLoop node [] 0 (Sample.turns secs)).state.assembler.pending.lookup key
    pending 29 = some Sample.halfMessage ∧
      Instant.durationSince (Duration.fromSecs 29) Sample.halfMessage.started <
        Duration.fromSecs 31 + 0 ∧
      pending 31 ≠ some Sample.halfMessage := by
  intro node key pending
  have hthere : pending 29 = some Sample.halfMessage := Sample.lookup_turns (by decide)
  refine ⟨hthere, ?_, fun hlate => ?_⟩
  · exact (partial_messages_expire node [] (Sample.clocked_turns 29)).2 key _ hthere
  · have hage := (partial_messages_expire node [] (Sample.clocked_turns 31)).2 key _ hlate
    simp [Instant.durationSince, Sample.halfMessage] at hage
    exact Nat.lt_irrefl _ hage

end Liteway.Daemon
