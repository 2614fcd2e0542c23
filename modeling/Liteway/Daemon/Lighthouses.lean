import Liteway.Daemon.Delivery

/-!
# Which peer stands for a lighthouse

A slot is bound to a peer by the name on its certificate or by the address its
session came from.  The address is that of the relay when the handshake came
through one, which the node itself cannot always tell, so the binding is right only
in the runs that the guard describes.
-/

namespace Liteway.Daemon

open Liteway.Library Liteway.Core

/-- An event, and whether a relay passed its datagram on.  The node cannot see that. -/
structure Arrival where
  event : Event
  forwarded : Bool

/-- A run so far, where the handshake behind each session came from, and whether a
relay passed it on. -/
structure Watched where
  record : Record
  origin : UInt32 → Option (SocketAddr × Bool)

/-- Every bound slot names a live peer that carries its name, or whose session
was established directly with its address. -/
def ProperlyBound (watched : Watched) : Prop :=
  ∀ slot ∈ watched.record.state.lighthouses, ∀ id, slot.peerId = some id →
    ∃ peer, watched.record.state.peers.lookup id = some peer ∧
      (peer.cert.body.info.name = slot.name ∨ watched.origin id = some (slot.address, false))

/-- A session whose handshake arrived so may stand for the slot. -/
def StandsFor (session : NewSession) (forwarded : Bool) (slot : LighthouseSlot) : Prop :=
  session.cert.body.info.name = slot.name ∨ forwarded = false ∧ session.addr = slot.address

section Binding

variable {lib : Primitives} (node : Node lib)

def Watched.step (watched : Watched) (arrival : Arrival) : Watched where
  record := watched.record.step node arrival.event
  origin :=
    match installedBy node watched.record.state arrival.event with
    | some session =>
        Function.update watched.origin session.id (some (session.addr, arrival.forwarded))
    | none => watched.origin

def watch (lighthouses : List LighthouseSlot) (arrivals : List Arrival) : Watched :=
  runAll (Watched.step node) ⟨⟨.initial lighthouses, []⟩, fun _ => none⟩ arrivals

/-- Watching changes nothing. -/
theorem record_watch (lighthouses : List LighthouseSlot) (arrivals : List Arrival) :
    (watch node lighthouses arrivals).record = run node lighthouses (arrivals.map Arrival.event) := by
  have hrecord : ∀ watched : Watched, (runAll (Watched.step node) watched arrivals).record =
      runAll (Record.step node) watched.record (arrivals.map Arrival.event) := by
    induction arrivals with
    | nil => exact fun watched => rfl
    | cons arrival arrivals ih => exact fun watched => ih (watched.step node arrival)
  exact hrecord _

/-- Whoever is accepted may stand for the slots with its address and for those
it is already bound to. -/
def BindsLighthouses (watched : Watched) (arrival : Arrival) : Prop :=
  ∀ session, installedBy node watched.record.state arrival.event = some session →
    ∀ slot ∈ watched.record.state.lighthouses,
      slot.address = session.addr ∨ slot.peerId = some session.id →
        StandsFor session arrival.forwarded slot

theorem properlyBound_routine {st : NodeState} {trace trace' : List Effect}
    {origin : UInt32 → Option (SocketAddr × Bool)} {out : NodeState × List Effect}
    (hinv : ProperlyBound ⟨⟨st, trace⟩, origin⟩) (h : Routine st out) :
    ProperlyBound ⟨⟨out.1, trace'⟩, origin⟩ := by
  intro slot hslot id hid
  obtain ⟨⟨old, hold, hid', hname, haddress⟩, hlive⟩ := h.bound slot hslot id hid
  obtain ⟨before, hbefore, hproper⟩ := hinv old hold id hid'
  obtain ⟨after, hafter⟩ := Option.isSome_iff_exists.mp (hlive (Option.isSome_of_eq_some hbefore))
  obtain ⟨before', hbefore', hsame⟩ := h.kept id after hafter
  cases Option.some.inj (hbefore.symm.trans hbefore')
  refine ⟨after, hafter, ?_⟩
  rw [hsame.cert, ← hname, ← haddress]
  exact hproper

theorem properlyBound_installs_iff {now : Instant} {st : NodeState} {session : NewSession}
    {trace trace' : List Effect} {origin : UInt32 → Option (SocketAddr × Bool)}
    {out : NodeState × List Effect} (hinv : ProperlyBound ⟨⟨st, trace⟩, origin⟩)
    (h : Installs node now st session out) (forwarded : Bool) :
    (∀ slot ∈ st.lighthouses, slot.address = session.addr ∨ slot.peerId = some session.id →
      StandsFor session forwarded slot) ↔
      ProperlyBound ⟨⟨out.1, trace'⟩,
        Function.update origin session.id (some (session.addr, forwarded))⟩ := by
  have hlookup : ∀ id, out.1.peers.lookup id = if id = session.id then
      some (newPeer node now session (st.peers.lookup session.id)) else st.peers.lookup id := by
    intro id
    rw [h.peers, AssocMap.lookup_insert_eq]
  have hslots : out.1.lighthouses = st.lighthouses.map fun slot =>
      if slot.address = session.addr ∨ slot.name = session.cert.body.info.name then
        { slot with peerId := some session.id } else slot := h.lighthouses
  -- what is asked of a slot that names the new session afterwards
  have hnew : ∀ slot : LighthouseSlot, (∃ peer, out.1.peers.lookup session.id = some peer ∧
      (peer.cert.body.info.name = slot.name ∨
        Function.update origin session.id (some (session.addr, forwarded)) session.id =
          some (slot.address, false))) ↔ StandsFor session forwarded slot := by
    intro slot
    rw [hlookup, if_pos rfl, Function.update_self]
    simp only [Option.some.injEq, exists_eq_left', Prod.mk.injEq, newPeer, StandsFor]
    rw [and_comm]
  constructor
  · intro hguard slot hslot id hid
    change slot ∈ out.1.lighthouses at hslot
    rw [hslots] at hslot
    obtain ⟨old, hold, rfl⟩ := List.mem_map.mp hslot
    split at hid
    · rename_i hmatch
      cases Option.some.inj hid
      rw [if_pos hmatch]
      refine (hnew _).mpr ?_
      obtain haddress | hname := hmatch
      · exact hguard old hold (Or.inl haddress)
      · exact Or.inl hname.symm
    · rename_i hmatch
      rw [if_neg hmatch]
      by_cases hself : id = session.id
      · subst hself
        exact (hnew old).mpr (hguard old hold (Or.inr hid))
      · obtain ⟨peer, hpeer, hproper⟩ := hinv old hold id hid
        refine ⟨peer, ?_, ?_⟩
        · change out.1.peers.lookup id = some peer
          rw [hlookup, if_neg hself]
          exact hpeer
        · change _ ∨ Function.update origin session.id _ id = _
          rw [Function.update_of_ne hself]
          exact hproper
  · intro hafter slot hslot hclaims
    by_cases hmatch : slot.address = session.addr ∨ slot.name = session.cert.body.info.name
    · have hmem : { slot with peerId := some session.id } ∈ out.1.lighthouses := by
        rw [hslots]
        exact List.mem_map.mpr ⟨slot, hslot, if_pos hmatch⟩
      exact (hnew { slot with peerId := some session.id }).mp (hafter _ hmem session.id rfl)
    · have hmem : slot ∈ out.1.lighthouses := by
        rw [hslots]
        exact List.mem_map.mpr ⟨slot, hslot, if_neg hmatch⟩
      have hid : slot.peerId = some session.id :=
        hclaims.resolve_left fun haddress => hmatch (Or.inl haddress)
      exact (hnew slot).mp (hafter slot hmem session.id hid)

theorem properlyBound_accepts (env : Env) {st : NodeState} (src : SocketAddr)
    {packet : ByteString} {peerId : UInt32} {peer : PeerState} {header : NetworkHeader}
    {body : PacketBody} {trace trace' : List Effect}
    {origin : UInt32 → Option (SocketAddr × Bool)} (hinv : ProperlyBound ⟨⟨st, trace⟩, origin⟩)
    (h : Accepts node st packet peerId peer header body) :
    ProperlyBound ⟨⟨afterAccept env st src peerId peer body, trace'⟩, origin⟩ := by
  intro slot hslot id hid
  obtain ⟨before, hbefore, hproper⟩ := hinv slot hslot id hid
  change ∃ after, (st.peers.insert peerId _).lookup id = some after ∧ _
  rw [AssocMap.lookup_insert_eq]
  split
  · rename_i hself
    subst hself
    cases Option.some.inj (hbefore.symm.trans h.live)
    refine ⟨_, rfl, ?_⟩
    rw [(SameSession.receive peer _ src env.now _ _).cert]
    exact hproper
  · exact ⟨before, hbefore, hproper⟩

theorem properlyBound_handleBody (env : Env) {st : NodeState} (src : SocketAddr) (peerId : UInt32)
    (body : PacketBody) {trace trace' : List Effect}
    {origin : UInt32 → Option (SocketAddr × Bool)} (hinv : ProperlyBound ⟨⟨st, trace⟩, origin⟩) :
    ProperlyBound ⟨⟨(handleBody node env st src peerId body).1, trace'⟩, origin⟩ := by
  obtain ⟨seq, ipPacket, rfl⟩ | hother := body_cases body
  · exact hinv
  · exact properlyBound_routine hinv (routine_handleBody node env st src peerId hother)

/-- The guard says exactly which steps keep the binding right. -/
theorem properlyBound_step_iff {watched : Watched} (arrival : Arrival)
    (hinv : ProperlyBound watched) :
    BindsLighthouses node watched arrival ↔ ProperlyBound (watched.step node arrival) := by
  obtain ⟨⟨st, trace⟩, origin⟩ := watched
  obtain ⟨event, forwarded⟩ := arrival
  unfold BindsLighthouses Watched.step Record.step
  have houtcome := outcome_step node st event
  cases hinstalled : installedBy node st event with
  | some session =>
      have hother : (∀ session', some session = some session' → ∀ slot ∈ st.lighthouses,
          slot.address = session'.addr ∨ slot.peerId = some session'.id →
            StandsFor session' forwarded slot) ↔
          ∀ slot ∈ st.lighthouses, slot.address = session.addr ∨ slot.peerId = some session.id →
            StandsFor session forwarded slot := by
        simp only [Option.some.injEq, forall_eq']
      obtain ⟨hoffer, haccept⟩ := offeredBy_of_installedBy node hinstalled
      cases event with
      | datagram env src data =>
          obtain ⟨packet, hpacket, hoffer⟩ := Option.bind_eq_some_iff.mp hoffer
          have hsettles := settles_handleDatagram hpacket hoffer
          unfold Settles at hsettles
          rw [if_pos haccept] at hsettles
          exact hother.trans (properlyBound_installs_iff node hinv hsettles forwarded)
      | _ => contradiction
  | none =>
      refine iff_of_true (fun session hsession => by contradiction) ?_
      generalize step node st event = out at houtcome
      cases houtcome with
      | routine h => exact properlyBound_routine hinv h
      | @installs env src data packet session _ hpacket hoffer h =>
          have hoffer' : offeredBy node st (.datagram env src data) = some session :=
            Option.bind_eq_some_iff.mpr ⟨packet, hpacket, hoffer⟩
          rw [installedBy_of_offeredBy node hoffer' h.accepted] at hinstalled
          contradiction
      | @accepts env src data packet peerId peer header body _ h =>
          have haccepts : Accepts node (afterFeed node env st src data) packet peerId peer header
              body := ⟨h.session, h.live, h.decrypted, h.fresh⟩
          have hfed : ProperlyBound ⟨⟨afterFeed node env st src data, trace⟩, origin⟩ := hinv
          exact properlyBound_handleBody node env src peerId body
            (@properlyBound_accepts _ node env _ src _ _ _ _ _ trace trace origin hfed haccepts)

theorem properlyBound_start (lighthouses : List LighthouseSlot) :
    ProperlyBound (watch node lighthouses []) := by
  intro slot hslot id hid
  obtain ⟨old, -, rfl⟩ := List.mem_map.mp hslot
  contradiction

/-- The binding is right in every state of a run exactly if every session that was
accepted may stand for the slots it takes or keeps. -/
theorem lighthouses_bound_iff (lighthouses : List LighthouseSlot) (arrivals : List Arrival) :
    Guarded (Watched.step node) (BindsLighthouses node) (watch node lighthouses []) arrivals ↔
      ∀ before, before <+: arrivals → ProperlyBound (watch node lighthouses before) :=
  guarded_iff_prefixes (fun _ arrival hinv => properlyBound_step_iff node arrival hinv)
    (properlyBound_start node lighthouses)

/-! ## A relay that is also a lighthouse -/

variable {node}

/-- A guest whose handshake comes through the relay takes over the slot of the
relay. -/
theorem not_properlyBound_after_guest (hlib : lib.Correct) {relay guest : Request lib}
    {env env' : Env} (hrelay : relay.Welcome node env.unixTime)
    (hguest : guest.Welcome node env'.unixTime)
    {slot : LighthouseSlot} (hname : relay.identity.cert.body.info.name = slot.name)
    (hname' : guest.identity.cert.body.info.name ≠ slot.name)
    (hdigest : lib.blake3Hash guest.initiate.msg ≠ lib.blake3Hash relay.initiate.msg)
    (hids : nodeIdFromCert lib guest.identity.cert ≠ nodeIdFromCert lib relay.identity.cert) :
    ¬ ProperlyBound (watch node [slot] [⟨.datagram env slot.address relay.initiate.msg, false⟩,
      ⟨.datagram env' slot.address guest.initiate.msg, true⟩]) := by
  -- the relay takes its own slot by name
  have hfirst : ProperlyBound
      (watch node [slot] [⟨.datagram env slot.address relay.initiate.msg, false⟩]) := by
    refine (properlyBound_step_iff node ⟨.datagram env slot.address relay.initiate.msg, false⟩
      (properlyBound_start node [slot])).mp ?_
    intro session hinstalled found hfound _
    obtain ⟨packet, hpacket, hoffer⟩ :=
      Option.bind_eq_some_iff.mp (offeredBy_of_installedBy node hinstalled).1
    cases Option.some.inj
      ((Request.wholePacket_initiate hlib hrelay env _ slot.address).symm.trans hpacket)
    cases Option.some.inj ((Request.offered_initiate hlib hrelay rfl slot.address).symm.trans hoffer)
    cases List.mem_singleton.mp hfound
    exact Or.inl hname
  have hstate : (watch node [slot]
      [⟨.datagram env slot.address relay.initiate.msg, false⟩]).record.state = _ :=
    opening_state hlib hrelay [slot] slot.address
  intro hbad
  have hguard := (properlyBound_step_iff node ⟨.datagram env' slot.address guest.initiate.msg, true⟩
    hfirst).mpr hbad
  generalize watch node [slot] [⟨.datagram env slot.address relay.initiate.msg, false⟩] = watched
    at hstate hguard
  have hcache : watched.record.state.handshakeCache.get (lib.blake3Hash guest.initiate.msg)
      env'.now = none := by
    rw [hstate]
    exact HandshakeCache.get_insert_of_ne _ _ _ _ hdigest rfl
  have habsent :
      watched.record.state.peers.lookup (nodeIdFromCert lib guest.identity.cert) = none := by
    rw [hstate, withSession_peers, AssocMap.lookup_insert_eq]
    exact if_neg hids
  have hslot : { slot with peerId := some (nodeIdFromCert lib relay.identity.cert) } ∈
      watched.record.state.lighthouses := by
    rw [hstate]
    exact List.mem_map.mpr ⟨{ slot with peerId := none }, List.mem_singleton_self _,
      if_pos (Or.inl rfl)⟩
  have hoffer := Option.bind_eq_some_iff.mpr ⟨_,
    Request.wholePacket_initiate hlib hguest env' watched.record.state slot.address,
    Request.offered_initiate hlib hguest hcache slot.address⟩
  obtain hnamed | ⟨hdirect, -⟩ := hguard _
    (installedBy_of_offeredBy node hoffer (acceptsSession_of_absent habsent)) _ hslot (Or.inl rfl)
  · exact hname' hnamed
  · contradiction

end Binding

namespace Sample

/-- The certificates of a relay that is also a lighthouse, of the node that uses
it, and of a third node. -/
noncomputable def relayNetwork : List Cert :=
  [Core.Sample.cert "lighthouse" 1, Core.Sample.cert "bob" 2, Core.Sample.cert "guest" 3]

def lighthouse : LighthouseSlot where
  name := "lighthouse"
  configured := "10.0.0.1:4242"
  address := Core.Sample.source
  peerId := none
  resolvedAt := 0

/-- The lighthouse connects, and then a guest through it. -/
noncomputable def guestThroughRelay : List Arrival :=
  [⟨.datagram (env 0 2 ⟨2, Core.Sample.two_ne⟩) lighthouse.address
      (request relayNetwork "lighthouse" 1 ⟨1, Core.Sample.one_ne⟩ true).initiate.msg, false⟩,
    ⟨.datagram (env 0 4 ⟨4, Core.Sample.four_ne⟩) lighthouse.address
      (request relayNetwork "guest" 3 ⟨3, Core.Sample.three_ne⟩ false).initiate.msg, true⟩]

end Sample

/-- The guest takes over the slot of the lighthouse. -/
theorem guest_takes_slot :
    (transparent Sample.relayNetwork).Correct ∧
      ¬ ProperlyBound (watch (Sample.node Sample.relayNetwork "bob" 2) [Sample.lighthouse]
        Sample.guestThroughRelay) := by
  have hlib := transparent_correct Sample.relayNetwork
  have hrelay := Sample.welcome_request "bob" 2
    (show Core.Sample.cert "lighthouse" 1 ∈ Sample.relayNetwork from List.mem_cons_self)
    (by decide) (by decide) ⟨1, by decide⟩ true
    (show timestampValid 1000 (Sample.env 0 2 ⟨2, by decide⟩).unixTime by decide) (by decide)
    (by decide)
  have hguest := Sample.welcome_request "bob" 2
    (show Core.Sample.cert "guest" 3 ∈ Sample.relayNetwork by simp [Sample.relayNetwork])
    (by decide) (by decide) ⟨3, by decide⟩ false
    (show timestampValid 1000 (Sample.env 0 4 ⟨4, by decide⟩).unixTime by decide) (by decide)
    (by decide)
  refine ⟨hlib, not_properlyBound_after_guest hlib hrelay hguest rfl ?_ ?_ ?_⟩
  · change "guest" ≠ "lighthouse"
    decide
  · exact Sample.digest_request_ne _ _ _ (by decide) _ _ _ _
  · change nodeIdFromCert _ (Core.Sample.cert "guest" 3) ≠
      nodeIdFromCert _ (Core.Sample.cert "lighthouse" 1)
    rw [Sample.nodeIdFromCert_cert, Sample.nodeIdFromCert_cert]
    decide

end Liteway.Daemon
