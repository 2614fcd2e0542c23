import Liteway.Daemon.Tunnel

/-!
# Copies that arrive in time

A session carries packets to the other end.  The network may copy and reorder
them: as long as none is overtaken by 64 others, the first copy of each is
written to the TUN device, and nothing else.
-/

namespace Liteway.Daemon

open Liteway.Library Liteway.Core

/-- A packet that the sender reads from its TUN device. -/
structure TunRead where
  env : Env
  overlayNetworks : List IpNetwork
  ipPacket : ByteString

def TunRead.event (read : TunRead) : Event :=
  .tunPacket read.env read.overlayNetworks read.ipPacket

/-- A copy of one of the datagrams that were sent. -/
structure Copy where
  env : Env
  src : SocketAddr
  index : Nat

def Copy.event (wires : List ByteString) (copy : Copy) : Event :=
  .datagram copy.env copy.src (wires.getD copy.index [])

def sentWires (effects : List Effect) : List ByteString :=
  effects.filterMap fun
    | .send _ wire => some wire
    | _ => none

section Copies

variable {lib : Primitives} {sender receiver : Node lib} {st : NodeState} {id : UInt32}
  {left right : PeerState}

/-- The packet goes to the receiver, which lets it through. -/
structure Passes (receiver : Node lib) (st : NodeState) (right : PeerState) (read : TunRead) : Prop where
  routed : overlayPeer st read.overlayNetworks read.ipPacket = some receiver.ourId
  short : read.ipPacket.length ≤ tunBufferLen
  source : peerAllowsIpPacketSource right read.ipPacket = true
  destination : acceptsDestination receiver read.ipPacket = true

def PeerState.advanced (peer : PeerState) (count : Nat) : PeerState :=
  { peer with txSeq := peer.txSeq + UInt64.ofNat count }

def wiresOf (sender receiver : Node lib) (left : PeerState) (reads : List TunRead) : List ByteString :=
  reads.mapIdx fun index read =>
    dataWire sender read.env receiver.ourId (left.advanced index) read.ipPacket

theorem advanced_nextSeq (peer : PeerState) (count : Nat) :
    peer.nextSeq.2.advanced count = peer.advanced (count + 1) := by
  unfold PeerState.advanced PeerState.nextSeq
  simp only [UInt64.ofNat_add, UInt64.add_assoc, UInt64.add_comm 1]
  rfl

theorem sentWires_reads {reads : List TunRead} (hleft : st.peers.lookup receiver.ourId = some left)
    (hreads : ∀ read ∈ reads, Passes receiver st right read) (trace : List Effect) :
    sentWires (runAll (Record.step sender) ⟨st, trace⟩ (reads.map TunRead.event)).trace =
      sentWires trace ++ wiresOf sender receiver left reads := by
  induction reads generalizing st left trace with
  | nil => simp [wiresOf]
  | cons read reads ih =>
      have hpasses := hreads read List.mem_cons_self
      have hstep : Record.step sender ⟨st, trace⟩ read.event =
          ⟨{ st with peers := st.peers.insert receiver.ourId left.nextSeq.2 },
            trace ++ [.send left.addr (dataWire sender read.env receiver.ourId left
              read.ipPacket)]⟩ := by
        unfold Record.step TunRead.event
        simp only [step, sendToOverlay_of_peer hpasses.routed hleft]
      rw [List.map_cons, runAll_cons, hstep, ih (AList.lookup_insert _) ?_]
      · have hfirst : left.advanced 0 = left := by simp [PeerState.advanced]
        simp only [sentWires, wiresOf, List.filterMap_append, List.mapIdx_cons, hfirst,
          advanced_nextSeq, List.append_assoc]
        rfl
      · intro other hother
        have hother := hreads other (List.mem_cons_of_mem _ hother)
        exact ⟨hother.routed, hother.short, hother.source, hother.destination⟩

def seqAt (left : PeerState) (index : Nat) : UInt64 := (left.advanced index).txSeq + 1

theorem toNat_seqAt {count index : Nat} (hcount : left.txSeq.toNat + count < 2 ^ 64)
    (hindex : index < count) : (seqAt left index).toNat = left.txSeq.toNat + index + 1 := by
  unfold seqAt PeerState.advanced
  simp only [UInt64.toNat_add, UInt64.toNat_ofNat', UInt64.toNat_one]
  omega

theorem fresh_seqAt_iff {log log' : List UInt64} {arrived : List Nat} {count index : Nat}
    (hcount : left.txSeq.toNat + count < 2 ^ 64) (hlog : ∀ seq ∈ log, seq ≤ left.txSeq)
    (hmem : ∀ seq, seq ∈ log' ↔ seq ∈ log ∨ ∃ i ∈ arrived, seq = seqAt left i)
    (harrived : ∀ i ∈ arrived, i < count) (hindex : index < count)
    (htimely : ∀ i ∈ arrived, i < index + 64) :
    ReplayWindow.Fresh log' (seqAt left index) ↔ index ∉ arrived := by
  have hseq := toNat_seqAt hcount hindex
  have hold : ∀ seq ∈ log, seq.toNat ≤ left.txSeq.toNat := fun seq hseq =>
    UInt64.le_iff_toNat_le.mp (hlog seq hseq)
  constructor
  · rintro ⟨hnew, -⟩ hagain
    exact hnew ((hmem _).mpr (Or.inr ⟨index, hagain, rfl⟩))
  · intro hfirst
    refine ⟨fun hagain => ?_, fun highest hhighest => ?_⟩
    · obtain hbefore | ⟨i, hi, heq⟩ := (hmem _).mp hagain
      · have := hold _ hbefore
        omega
      · have hi' := toNat_seqAt hcount (harrived i hi)
        rw [heq] at hseq
        have : i = index := by omega
        exact hfirst (this ▸ hi)
    · obtain ⟨seq, hseq', rfl⟩ := List.mem_map.mp (List.max?_eq_some_iff.mp hhighest).1
      obtain hbefore | ⟨i, hi, rfl⟩ := (hmem _).mp hseq'
      · have := hold _ hbefore
        omega
      · have hi' := toNat_seqAt hcount (harrived i hi)
        have := htimely i hi
        omega

theorem eraseDups_concat (arrived : List Nat) (index : Nat) :
    (arrived ++ [index]).eraseDups =
      if index ∈ arrived then arrived.eraseDups else arrived.eraseDups ++ [index] := by
  rw [List.eraseDups_append]
  split
  · rename_i hmem
    simp [List.removeAll, hmem]
  · rename_i hmem
    simp [List.removeAll, hmem, List.eraseDups_cons]

theorem arrived_concat {arrived : List Nat} {index : Nat} {seq : UInt64} :
    (∃ i ∈ arrived ++ [index], seq = seqAt left i) ↔
      (∃ i ∈ arrived, seq = seqAt left i) ∨ seq = seqAt left index := by
  simp only [List.mem_append, List.mem_singleton, or_and_right, exists_or, exists_eq_left]

/-- What the receiver has done once the copies have arrived. -/
theorem listens_run (hlib : lib.Correct) (hkey : left.txKey = right.rxKey)
    (hsession : left.txSessionId = right.rxSessionId)
    (hnetwork : sender.networkKey = receiver.networkKey) (htun : receiver.ifaceName.isSome = true)
    {reads : List TunRead} {st₀ : NodeState}
    (hreads : ∀ read ∈ reads, Passes receiver st₀ right read)
    (hcount : left.txSeq.toNat + reads.length < 2 ^ 64) {log : List UInt64}
    (hlog : ∀ seq ∈ log, seq ≤ left.txSeq) (hlistens : Listens id right log st)
    {copies : List Copy} (hindex : ∀ copy ∈ copies, copy.index < reads.length)
    (htimely : copies.Pairwise fun earlier later => earlier.index < later.index + 64) :
    ∀ reached, reached = runAll (Record.step receiver) ⟨st, []⟩
        (copies.map (Copy.event (wiresOf sender receiver left reads))) →
      (∃ log', Listens id right log' reached.state ∧
        ∀ seq, seq ∈ log' ↔ seq ∈ log ∨ ∃ i ∈ copies.map Copy.index, seq = seqAt left i) ∧
      tunWrites reached.trace =
        (copies.map Copy.index).eraseDups.filterMap fun i => reads[i]?.map TunRead.ipPacket := by
  rintro reached rfl
  induction copies using List.reverseRecOn with
  | nil => exact ⟨⟨log, hlistens, by simp⟩, rfl⟩
  | append_singleton copies copy ih =>
      obtain ⟨hbefore, -, hlast⟩ := List.pairwise_append.mp htimely
      obtain ⟨⟨log', hlistens', hmem⟩, hwritten⟩ :=
        ih (fun other hother => hindex other (List.mem_append_left _ hother)) hbefore
      have hcopy := hindex copy (by simp)
      have hpasses := hreads reads[copy.index] (List.getElem_mem hcopy)
      have harrived : ∀ i ∈ copies.map Copy.index, i < reads.length ∧ i < copy.index + 64 := by
        intro i hi
        obtain ⟨other, hother, rfl⟩ := List.mem_map.mp hi
        exact ⟨hindex other (List.mem_append_left _ hother), hlast other hother copy (by simp)⟩
      have hfresh := fresh_seqAt_iff hcount hlog hmem (fun i hi => (harrived i hi).1) hcopy
        (fun i hi => (harrived i hi).2)
      rw [List.map_append, List.map_singleton, runAll_append, runAll_cons, runAll_nil,
        List.map_append, List.map_singleton, eraseDups_concat]
      generalize runAll (Record.step receiver) ⟨st, []⟩
        (copies.map (Copy.event (wiresOf sender receiver left reads))) = record at hlistens' hwritten
      have hevent : copy.event (wiresOf sender receiver left reads) = .datagram copy.env copy.src
          (dataWire sender reads[copy.index].env receiver.ourId (left.advanced copy.index)
            reads[copy.index].ipPacket) := by
        simp [Copy.event, wiresOf, hcopy]
      obtain ⟨hnew, st', hstep, hlistens''⟩ | ⟨hold, hstep⟩ :=
        @listens_step _ _ _ _ _ (left.advanced copy.index) _ hlib _ hlistens' hkey hsession hnetwork
          htun copy.env reads[copy.index].env copy.src _ hpasses.short hpasses.source hpasses.destination
      · have hrecord : record.step receiver (copy.event (wiresOf sender receiver left reads)) =
            ⟨st', record.trace ++ [.accepted id (seqAt left copy.index),
              .tunWrite reads[copy.index].ipPacket]⟩ := by
          rw [hevent]
          unfold Record.step
          rw [hstep]
          rfl
        rw [hrecord, if_neg (hfresh.mp hnew)]
        refine ⟨⟨_, hlistens'', fun seq => ?_⟩, ?_⟩
        · rw [arrived_concat, List.mem_cons, hmem]
          exact or_left_comm.trans (or_congr_right or_comm)
        · simp only [tunWrites, List.filterMap_append] at hwritten ⊢
          rw [hwritten]
          simp [hcopy]
      · have hrecord : record.step receiver (copy.event (wiresOf sender receiver left reads)) =
            record := by
          rw [hevent]
          unfold Record.step
          rw [hstep]
          simp
        have hagain : copy.index ∈ copies.map Copy.index := by
          by_contra hfirst
          exact hold (hfresh.mpr hfirst)
        rw [hrecord, if_pos hagain]
        refine ⟨⟨log', hlistens', fun seq => ?_⟩, hwritten⟩
        rw [arrived_concat, hmem, ← or_assoc]
        refine (or_iff_left_of_imp ?_).symm
        rintro rfl
        exact Or.inr ⟨copy.index, hagain, rfl⟩

/-- The two ends of a session, and packets for one to read and the other to write.
The receiver may have accepted packets before. -/
structure Carrying (sender receiver : Node lib) (st st' : NodeState) (id : UInt32)
    (left right : PeerState) (reads : List TunRead) : Prop where
  network : sender.networkKey = receiver.networkKey
  tun : receiver.ifaceName.isSome = true
  leftLive : st.peers.lookup receiver.ourId = some left
  rightLive : st'.peers.lookup id = some right
  mirrored : Mirrored left right
  session : st'.rxSessions.lookup right.rxSessionId = some id
  window : ∃ log, right.rxReplay.Represents log ∧ ∀ seq ∈ log, seq ≤ left.txSeq
  passes : ∀ read ∈ reads, Passes receiver st right read
  counter : left.txSeq.toNat + reads.length < 2 ^ 64

/-- Between two ends that carry the packets, whatever the network copies and however it
reorders, as long as no datagram is overtaken by one that was sent 64 or more later: the
receiver writes the first copy of each packet when it arrives, byte for byte, and
nothing else. -/
theorem first_copies_are_written (hlib : lib.Correct) {st' : NodeState} {reads : List TunRead}
    (h : Carrying sender receiver st st' id left right reads) {copies : List Copy}
    (hindex : ∀ copy ∈ copies, copy.index < reads.length)
    (htimely : copies.Pairwise fun earlier later => earlier.index < later.index + 64) :
    ∀ wires, wires = sentWires
        (runAll (Record.step sender) ⟨st, []⟩ (reads.map TunRead.event)).trace →
      wires.length = reads.length ∧
      tunWrites (runAll (Record.step receiver) ⟨st', []⟩ (copies.map (Copy.event wires))).trace =
        (copies.map Copy.index).eraseDups.filterMap fun i => reads[i]?.map TunRead.ipPacket := by
  rintro wires rfl
  have hwires : sentWires (runAll (Record.step sender) ⟨st, []⟩ (reads.map TunRead.event)).trace =
      wiresOf sender receiver left reads :=
    sentWires_reads h.leftLive h.passes []
  obtain ⟨log, hwindow, hlog⟩ := h.window
  rw [hwires]
  refine ⟨by simp [wiresOf], ?_⟩
  exact (listens_run hlib h.mirrored.txKey h.mirrored.txSessionId h.network h.tun h.passes h.counter
    hlog ⟨h.session, right, h.rightLive, rfl, rfl, hwindow⟩ hindex htimely _ rfl).2

end Copies

namespace Sample

def longerPacket : ByteString := ipPacket ++ [7]

def readings : List TunRead := [⟨answering, [], ipPacket⟩, ⟨answering, [], longerPacket⟩]

/-- The second packet overtakes the first, and both arrive twice. -/
def mixedUp : List Copy :=
  [⟨answering, Core.Sample.source, 1⟩, ⟨answering, Core.Sample.source, 0⟩,
    ⟨answering, Core.Sample.source, 0⟩, ⟨answering, Core.Sample.source, 1⟩]

theorem carrying_readings :
    Carrying west east atWest atEast hailed.id eastPeer westPeer readings where
  network := rfl
  tun := rfl
  leftLive := AList.lookup_insert _
  rightLive := lookup_atEast
  mirrored := mirrored_call
  session := session_atEast
  window := ⟨[], ReplayWindow.represents_new, List.forall_mem_nil _⟩
  passes := by
    refine List.forall_mem_cons.mpr ⟨?_, List.forall_mem_singleton.mpr ?_⟩
    · exact ⟨overlayPeer_atWest rfl, by decide, source_west rfl, destination_east rfl⟩
    · exact ⟨overlayPeer_atWest rfl, by decide, source_west rfl, destination_east rfl⟩
  counter := by decide

end Sample

/-- Bob writes the two packets in the order in which they came. -/
theorem mixed_up_packets_written_once :
    ∃ wires, tunWrites (runAll (Record.step Sample.east) ⟨Sample.atEast, []⟩
        (Sample.mixedUp.map (Copy.event wires))).trace =
      [Sample.longerPacket, Sample.ipPacket] :=
  ⟨_, (@first_copies_are_written _ _ _ _ _ _ _ (transparent_correct Sample.pair) _ _
    Sample.carrying_readings Sample.mixedUp (by decide) (by decide) _ rfl).2⟩

end Liteway.Daemon
