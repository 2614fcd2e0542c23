import Liteway.Daemon.AntiSpoofing
import Liteway.Daemon.CachedAnswers
import Liteway.Daemon.Lighthouses
import Liteway.Daemon.Tables

/-!
# How often the lighthouses are asked

A packet without a route makes the node ask its lighthouses, but not more often
than every ten seconds.  The table of recent lookups is swept; that must not make
the node ask more often.
-/

namespace Liteway.Daemon

open Liteway.Library Liteway.Core

section Lookups

variable {lib : Primitives} (node : Node lib)

/-- What a run does to the table of lookups. -/
def askedIn : NodeState → List Event → List (ThrottleMove IpAddr)
  | _, [] => []
  | st, event :: events => asked node st event ++ askedIn (step node st event).1 events

def lookupsOf (st : NodeState) (events : List Event) : List (IpAddr × Instant) :=
  Throttle.grants discoveryRetry discoveryEntryTtl st.discoveryPending (askedIn node st events)

/-- The address was looked up less than `discoveryRetry` ago. -/
def LookedUpLately (log : List (IpAddr × Instant)) (ip : IpAddr) (now : Instant) : Prop :=
  ∃ time, (ip, time) ∈ log ∧ now < time + discoveryRetry

def askLighthouses (env : Env) (st : NodeState) (ip : IpAddr) : NodeState × List Effect :=
  forEach (fun i peerId st => sendLighthouseQuery node (env.part i) ip peerId st) 0
    (st.lighthouses.filterMap LighthouseSlot.peerId)
    { st with discoveryPending := st.discoveryPending.insert ip env.now }

theorem requestDiscovery_eq (env : Env) (st : NodeState) (ip : IpAddr) :
    requestDiscovery node env st ip =
      if Throttle.due discoveryRetry st.discoveryPending ip env.now then askLighthouses node env st ip
      else (st, []) := by
  have hdue : (!(st.discoveryPending.lookup ip).any fun last =>
      decide (env.now.durationSince last < discoveryRetry)) =
      Throttle.due discoveryRetry st.discoveryPending ip env.now := rfl
  unfold requestDiscovery
  rw [← hdue]
  cases (st.discoveryPending.lookup ip).any fun last =>
    decide (env.now.durationSince last < discoveryRetry) <;> rfl

/-! ## Runs -/

variable {node} {st : NodeState}

theorem now_of_mem_asked {event : Event} {move : ThrottleMove IpAddr}
    (h : move ∈ asked node st event) : move.now = event.now := by
  cases event with
  | maintenance env =>
      obtain haction | hforget := List.mem_append.mp h
      · obtain ⟨action, -, hmove⟩ := List.mem_flatMap.mp haction
        cases action with
        | send addr wire => exact absurd hmove (List.not_mem_nil)
        | lookup ip => rw [List.mem_singleton.mp hmove]; rfl
      · rw [List.mem_singleton.mp hforget]
        rfl
  | tunPacket env overlayNetworks ipPacket =>
      obtain ⟨ip, -, rfl⟩ := List.mem_map.mp h
      rfl
  | _ => contradiction

theorem mem_askedIn {events : List Event} {move : ThrottleMove IpAddr}
    (h : move ∈ askedIn node st events) : ∃ event ∈ events, move.now = event.now := by
  induction events generalizing st with
  | nil => contradiction
  | cons event events ih =>
      obtain hnow | hlater := List.mem_append.mp h
      · exact ⟨event, List.mem_cons_self, now_of_mem_asked hnow⟩
      · obtain ⟨later, hmem, hmove⟩ := ih hlater
        exact ⟨later, List.mem_cons_of_mem event hmem, hmove⟩

theorem pairwise_askedIn {events : List Event}
    (hclock : events.Pairwise fun earlier later => earlier.now ≤ later.now) :
    (askedIn node st events).Pairwise fun earlier later => earlier.now ≤ later.now := by
  induction events generalizing st with
  | nil => exact List.Pairwise.nil
  | cons event events ih =>
      obtain ⟨hhead, htail⟩ := List.pairwise_cons.mp hclock
      refine List.pairwise_append.mpr ⟨?_, ih htail, ?_⟩
      · refine List.pairwise_of_forall_mem_list fun move hmove move' hmove' => ?_
        rw [now_of_mem_asked hmove, now_of_mem_asked hmove']
      · intro move hmove move' hmove'
        obtain ⟨later, hlater, hnow⟩ := mem_askedIn hmove'
        rw [now_of_mem_asked hmove, hnow]
        exact hhead later hlater

theorem askedIn_append (st : NodeState) (trace : List Effect) (before after : List Event) :
    askedIn node st (before ++ after) = askedIn node st before ++
      askedIn node (runAll (Record.step node) ⟨st, trace⟩ before).state after := by
  induction before generalizing st trace with
  | nil => rfl
  | cons event before ih =>
      rw [List.cons_append, askedIn, askedIn, List.append_assoc, runAll_cons]
      exact congrArg _ (ih _ _)

theorem discoveryPending_run (st : NodeState) (trace : List Effect) (events : List Event) :
    (runAll (Record.step node) ⟨st, trace⟩ events).state.discoveryPending =
      runAll lookupStep st.discoveryPending (askedIn node st events) := by
  induction events generalizing st trace with
  | nil => rfl
  | cons event events ih =>
      rw [runAll_cons, askedIn, runAll_append, ← discoveryPending_step]
      exact ih _ _

variable {lighthouses : List LighthouseSlot} {events : List Event}

/-- The table of a node tells when each address was looked up last, as far as that
still matters. -/
theorem remembers_lookups (hclock : events.Pairwise fun earlier later => earlier.now ≤ later.now)
    {now : Instant} (hnow : ∀ event ∈ events, event.now ≤ now) :
    Throttle.Remembers discoveryEntryTtl (run node lighthouses events).state.discoveryPending
      (lookupsOf node (.initial lighthouses) events) now := by
  have hstart : Throttle.Remembers discoveryEntryTtl
      (NodeState.initial lighthouses).discoveryPending [] 0 := Throttle.Remembers.nothing
  have hfinish : ∀ move ∈ askedIn node (.initial lighthouses) events, move.now ≤ now := by
    intro move hmove
    obtain ⟨event, hmem, hevent⟩ := mem_askedIn hmove
    rw [hevent]
    exact hnow event hmem
  have hremembers := @Throttle.remembers_run _ _ discoveryRetry _ _ _ _ _ _ hstart
    (pairwise_askedIn hclock) (fun _ _ => Nat.zero_le _) hfinish (Nat.zero_le now)
  rw [List.nil_append] at hremembers
  unfold run
  rw [discoveryPending_run]
  exact hremembers

theorem due_iff_not_lately (hclock : events.Pairwise fun earlier later => earlier.now ≤ later.now)
    {now : Instant} (hnow : ∀ event ∈ events, event.now ≤ now) (ip : IpAddr) :
    Throttle.due discoveryRetry (run node lighthouses events).state.discoveryPending ip now = true ↔
      ¬ LookedUpLately (lookupsOf node (.initial lighthouses) events) ip now := by
  rw [(remembers_lookups hclock hnow).due_iff (by decide) ip]
  constructor
  · rintro hall ⟨time, hmem, hlate⟩
    exact Nat.not_lt.mpr (hall _ hmem rfl) hlate
  · rintro hnone ⟨_, time⟩ hmem rfl
    exact Nat.not_lt.mp fun hlate => hnone ⟨time, hmem, hlate⟩

theorem lookupsOf_snoc_packet (env : Env) {overlayNetworks : List IpNetwork} {ipPacket : ByteString}
    {ip : IpAddr}
    (hroute : unrouted (run node lighthouses events).state overlayNetworks ipPacket = some ip) :
    lookupsOf node (.initial lighthouses) (events ++ [.tunPacket env overlayNetworks ipPacket]) =
      lookupsOf node (.initial lighthouses) events ++
        if Throttle.due discoveryRetry (run node lighthouses events).state.discoveryPending ip env.now
        then [(ip, env.now)] else [] := by
  have hasked : askedIn node (run node lighthouses events).state
      [.tunPacket env overlayNetworks ipPacket] = [.ask ip env.now] := by
    simp only [askedIn, asked, hroute, Option.toList_some, List.map_cons, List.map_nil,
      List.append_nil]
  have htable : runAll lookupStep (NodeState.initial lighthouses).discoveryPending
      (askedIn node (.initial lighthouses) events) =
      (run node lighthouses events).state.discoveryPending := (discoveryPending_run _ _ _).symm
  unfold lookupsOf
  rw [askedIn_append _ [], Throttle.grants_append]
  change _ ++ Throttle.grants _ _ (runAll lookupStep _ _)
    (askedIn node (run node lighthouses events).state _) = _
  rw [hasked, htable]
  simp only [Throttle.grants, List.append_nil]

theorem step_of_unrouted {overlayNetworks : List IpNetwork} {ipPacket : ByteString} {ip : IpAddr}
    (hroute : unrouted st overlayNetworks ipPacket = some ip) (env : Env) :
    step node st (.tunPacket env overlayNetworks ipPacket) = requestDiscovery node env st ip :=
  sendToOverlay_of_unrouted node hroute env

/-- Lookups of one address are ten seconds apart, and a packet without a route leads
to one exactly if the last is that old; else nothing happens at all. -/
theorem lookups_throttled (node : Node lib) (lighthouses : List LighthouseSlot)
    (hclock : events.Pairwise fun earlier later => earlier.now ≤ later.now) :
    Throttle.Spaced discoveryRetry (lookupsOf node (.initial lighthouses) events) ∧
      ∀ (env : Env) (overlayNetworks : List IpNetwork) (ipPacket : ByteString) (ip : IpAddr),
        (∀ event ∈ events, event.now ≤ env.now) →
        unrouted (run node lighthouses events).state overlayNetworks ipPacket = some ip →
        let packet := Event.tunPacket env overlayNetworks ipPacket
        let log := lookupsOf node (.initial lighthouses) events
        (LookedUpLately log ip env.now →
          step node (run node lighthouses events).state packet =
              ((run node lighthouses events).state, []) ∧
            lookupsOf node (.initial lighthouses) (events ++ [packet]) = log) ∧
        (¬ LookedUpLately log ip env.now →
          step node (run node lighthouses events).state packet =
              askLighthouses node env (run node lighthouses events).state ip ∧
            lookupsOf node (.initial lighthouses) (events ++ [packet]) = log ++ [(ip, env.now)]) := by
  refine ⟨?_, ?_⟩
  · have hspaced := @Throttle.spaced_run _ _ discoveryRetry discoveryEntryTtl
      (NodeState.initial lighthouses).discoveryPending [] 0
      (askedIn node (.initial lighthouses) events) Throttle.Remembers.nothing (by decide)
      List.Pairwise.nil (pairwise_askedIn hclock) fun _ _ => Nat.zero_le _
    exact hspaced
  · intro env overlayNetworks ipPacket ip hnow hroute packet log
    have hstep : step node (run node lighthouses events).state packet =
        requestDiscovery node env (run node lighthouses events).state ip :=
      step_of_unrouted hroute env
    have hdue := @due_iff_not_lately _ node lighthouses _ hclock _ hnow ip
    have hsnoc := lookupsOf_snoc_packet env hroute
    rw [hstep, requestDiscovery_eq, hsnoc]
    refine ⟨fun hlate => ?_, fun hold => ?_⟩
    · rw [Bool.eq_false_iff.mpr fun h => hdue.mp h hlate]
      exact ⟨rfl, List.append_nil _⟩
    · rw [hdue.mpr hold]
      exact ⟨rfl, rfl⟩

/-! ## One lighthouse -/

theorem sendMessageWithId_ne_nil {env : Env} {msg : ByteString} (h : leaves node env msg = true)
    (addr : SocketAddr) (dstPeerId msgId : UInt32) :
    (sendMessageWithId node env msg addr dstPeerId msgId).2 ≠ [] := by
  obtain ⟨hfits, hsocket⟩ := leaves_iff.mp h
  have hcut := @sendFragmentedWithId_eq_ok lib (fun i => (env.rand [i]).sealing) msg
    node.networkKey node.maxDatagram dstPeerId msgId node.minDatagram_le
    (Nat.max_le.mpr ⟨hfits, by decide⟩)
  unfold sendMessageWithId
  rw [hcut]
  simp [hsocket, fragmentTotal]

theorem run_datagram (env : Env) (src : SocketAddr) (data : ByteString) :
    (run node lighthouses [.datagram env src data]).state =
      (handleDatagram node env (.initial lighthouses) src data).1 := rfl

theorem askLighthouses_of_one {env : Env} {id : UInt32} {entry : PeerState} (ip : IpAddr)
    (hbound : st.lighthouses.filterMap LighthouseSlot.peerId = [id])
    (hlive : st.peers.lookup id = some entry) :
    askLighthouses node env st ip =
      ({ st with
          discoveryPending := st.discoveryPending.insert ip env.now
          peers := st.peers.insert id entry.nextSeq.2 },
        (sendMessage node ((env.part 0).part 0) (serializePacket
          (encryptLighthouseQueryPacket lib ((env.part 0).rand []).sealing
            ((env.part 0).rand []).padding entry.nextSeq.1 id entry.txSessionId ip node.networkKey
            entry.txKey)) entry.addr id).2) := by
  unfold askLighthouses
  rw [hbound]
  simp only [forEach, sendLighthouseQuery, peerTx, hlive, List.append_nil]

end Lookups

namespace Sample

/-- A packet to an address of the network that nobody has a route for. -/
def strayPacket : ByteString :=
  [0x45, 0, 0, 0, 0, 0, 0, 0, 0, 0, 0, 0, 10, 0, 0, 2, 10, 0, 0, 9]

def strayIp : IpAddr := .v4 0x0A000009#32

def seeking (secs : Nat) : Event :=
  .tunPacket (env secs 2 ⟨1, Core.Sample.one_ne⟩) [] strayPacket

noncomputable def connecting : Event :=
  .datagram (env 0 2 ⟨2, Core.Sample.two_ne⟩) lighthouse.address
    (request relayNetwork "lighthouse" 1 ⟨1, Core.Sample.one_ne⟩ true).initiate.msg

theorem welcome_lighthouse :
    (request relayNetwork "lighthouse" 1 ⟨1, Core.Sample.one_ne⟩ true).Welcome
      (node relayNetwork "bob" 2) (env 0 2 ⟨2, Core.Sample.two_ne⟩).unixTime :=
  welcome_request "bob" 2
    (show Core.Sample.cert "lighthouse" 1 ∈ relayNetwork from List.mem_cons_self)
    (by decide) (by decide) ⟨1, Core.Sample.one_ne⟩ true
    (show timestampValid 1000 (env 0 2 ⟨2, Core.Sample.two_ne⟩).unixTime by decide) (by decide)
    (by decide)

/-- What bob has once the lighthouse has connected. -/
structure HasLighthouse (id : UInt32) (st : NodeState) : Prop where
  bound : st.lighthouses.filterMap LighthouseSlot.peerId = [id]
  live : ∃ entry, st.peers.lookup id = some entry
  routes : st.routes = RouteTable.new.insertAll [⟨.v4 (address 1), 32, Nat.le_refl 32⟩] id

theorem hasLighthouse_connected :
    HasLighthouse (nodeIdFromCert (transparent relayNetwork) (Core.Sample.cert "lighthouse" 1))
      (run (node relayNetwork "bob" 2) [lighthouse] [connecting]).state := by
  rw [connecting, run_datagram, opening_state (transparent_correct relayNetwork) welcome_lighthouse]
  refine ⟨rfl, ⟨_, AList.lookup_insert _⟩, ?_⟩
  exact congrArg (RouteTable.new.insertAll · _) (authorizedPeerRoutes_cert _ _ _)

section HasLighthouse

variable {id : UInt32} {st : NodeState}

theorem HasLighthouse.unrouted_stray (h : HasLighthouse id st) :
    unrouted st [] strayPacket = some strayIp := by
  have hnone : st.routes.lookup strayIp = none := by
    cases hlookup : st.routes.lookup strayIp with
    | none => rfl
    | some found =>
        rw [h.routes] at hlookup
        obtain ⟨network, hmem, hcontains⟩ := RouteTable.mem_of_lookup hlookup
        cases List.mem_singleton.mp hmem
        exact absurd hcontains (by decide)
  have hdest : parseDestIp strayPacket = some strayIp := by decide
  have hspecial : (strayIp.isMulticast || strayIp.isLinkLocal) = false := by decide
  have hbroadcast : isOverlayBroadcast strayIp [] = false := rfl
  simp only [unrouted, hdest, hspecial, hbroadcast, hnone, Option.isSome_none, Bool.false_eq_true,
    if_false]

theorem HasLighthouse.asked (h : HasLighthouse id st) (env : Env) (ip : IpAddr) :
    HasLighthouse id (askLighthouses (node relayNetwork "bob" 2) env st ip).1 := by
  obtain ⟨entry, hlive⟩ := h.live
  rw [askLighthouses_of_one ip h.bound hlive]
  exact ⟨h.bound, ⟨_, AList.lookup_insert _⟩, h.routes⟩

theorem HasLighthouse.asks (h : HasLighthouse id st) (secs : Nat) (n : UInt8)
    (rxSessionId : SessionId) (ip : IpAddr) :
    (askLighthouses (node relayNetwork "bob" 2) (env secs n rxSessionId) st ip).2 ≠ [] := by
  obtain ⟨entry, hlive⟩ := h.live
  rw [askLighthouses_of_one ip h.bound hlive]
  refine sendMessageWithId_ne_nil (leaves_of_default rfl rfl ?_) _ _ _
  have hlength := (transparent_correct relayNetwork).aead.encrypt_length
  rw [serializePacket_length]
  simp only [encryptLighthouseQueryPacket, encryptPacket, sealPacket, hlength, PacketBody.fields,
    List.length_cons, List.length_append, Vector.length_toList]
  change 36 + ((8 + (vecU32 "".toUTF8.data.toList).length + 0) + 1 + 16) ≤ 10000
  decide

end HasLighthouse

/-- The lighthouse connects, and then bob sends a packet without a route. -/
noncomputable def sought : List Event := [connecting] ++ [seeking 0]

theorem sought_clock : sought.Pairwise fun earlier later => earlier.now ≤ later.now :=
  List.pairwise_pair.mpr (Nat.le_refl _)

theorem now_of_mem_sought {event : Event} (h : event ∈ sought) : event.now = 0 := by
  simp only [sought, List.cons_append, List.nil_append, List.mem_cons, List.not_mem_nil,
    or_false] at h
  obtain rfl | rfl := h <;> exact Nat.zero_mul _

theorem hasLighthouse_sought :
    HasLighthouse (nodeIdFromCert (transparent relayNetwork) (Core.Sample.cert "lighthouse" 1))
        (run (node relayNetwork "bob" 2) [lighthouse] sought).state ∧
      lookupsOf (node relayNetwork "bob" 2) (.initial [lighthouse]) sought = [(strayIp, 0)] := by
  have hconnected := hasLighthouse_connected
  have hdue : Throttle.due discoveryRetry
      (run (node relayNetwork "bob" 2) [lighthouse] [connecting]).state.discoveryPending strayIp 0 =
        true := by
    rw [due_iff_not_lately (List.pairwise_singleton _ _) (fun event h => ?_)]
    · exact fun ⟨_, hmem, _⟩ => List.not_mem_nil hmem
    · rw [List.mem_singleton.mp h]
      exact Nat.le_refl 0
  have hlookups := @lookupsOf_snoc_packet _ _ _ [connecting]
    (env 0 2 ⟨1, Core.Sample.one_ne⟩) _ _ _ hconnected.unrouted_stray
  have hnow : (env 0 2 ⟨1, Core.Sample.one_ne⟩).now = 0 := Nat.zero_mul _
  rw [hnow, hdue] at hlookups
  rw [sought, state_run_snoc, seeking, step_of_unrouted hconnected.unrouted_stray,
    requestDiscovery_eq, hnow, if_pos hdue]
  exact ⟨hconnected.asked _ _, hlookups⟩

end Sample

/-- With a lighthouse to ask bob waits after nine seconds and asks again after ten. -/
theorem second_packet_waits :
    let bob := Sample.node Sample.relayNetwork "bob" 2
    let after := (run bob [Sample.lighthouse] Sample.sought).state
    step bob after (Sample.seeking 9) = (after, []) ∧
      (step bob after (Sample.seeking 10)).2 ≠ [] := by
  intro bob after
  obtain ⟨hlighthouse, hlog⟩ := Sample.hasLighthouse_sought
  have hpast : ∀ (secs : Nat), ∀ event ∈ Sample.sought,
      event.now ≤ (Sample.env secs 2 ⟨1, Core.Sample.one_ne⟩).now := fun secs event h =>
    (Sample.now_of_mem_sought h).le.trans (Nat.zero_le _)
  have hthrottled := fun secs =>
    (lookups_throttled bob [Sample.lighthouse] Sample.sought_clock).2 _ [] _ _ (hpast secs)
      hlighthouse.unrouted_stray
  rw [hlog] at hthrottled
  constructor
  · exact ((hthrottled 9).1 ⟨0, List.mem_singleton_self _, by decide⟩).1
  · have hold : ¬ LookedUpLately [(Sample.strayIp, 0)] Sample.strayIp (Duration.fromSecs 10) := by
      rintro ⟨time, hmem, hlate⟩
      cases List.mem_singleton.mp hmem
      exact absurd hlate (by decide)
    have hasks : step bob after (Sample.seeking 10) = _ := ((hthrottled 10).2 hold).1
    rw [hasks]
    exact hlighthouse.asks _ _ _ _

end Liteway.Daemon
