import Liteway.Core.FragAccounting
import Liteway.Core.Fragmenter
import Mathlib.Algebra.Order.BigOperators.Group.List

/-!
# Lossy retransmissions reassemble

Fragments of one message may arrive from several attempts, in any order, with
losses and copies, among traffic of other messages.  As long as nothing expires
the message and no limit refuses its fragments, the last missing fragment hands
over exactly the message that was sent.
-/

namespace Liteway.Core

open Liteway.Library

/-- A message that the sender can cut into fragments, and where it goes. -/
structure FragmentedMessage where
  data : ByteString
  msgId : UInt32
  networkKey : NetworkKey
  src : SocketAddr
  maxDatagram : Nat
  minDatagram_le : minDatagram ≤ maxDatagram
  le_default : maxDatagram ≤ defaultMaxDatagram
  fits : divCeil data.length (maxDatagram - packetOverhead) ≤ 255

namespace FragmentedMessage

def key (msg : FragmentedMessage) : FragmentKey := (msg.src, msg.msgId)

def chunkSize (msg : FragmentedMessage) : Nat := msg.maxDatagram - packetOverhead

def total (msg : FragmentedMessage) : Nat := max (divCeil msg.data.length msg.chunkSize) 1

def chunkAt (msg : FragmentedMessage) (index : Nat) : ByteString :=
  chunk msg.chunkSize msg.data index

variable {lib : Primitives} {msg : FragmentedMessage}

theorem chunkSize_pos (msg : FragmentedMessage) : 0 < msg.chunkSize :=
  chunkSize_pos_of_le msg.minDatagram_le

theorem chunkSize_le (msg : FragmentedMessage) : msg.chunkSize ≤ 1200 := by
  have h := msg.le_default
  simp only [defaultMaxDatagram, chunkSize] at *
  omega

theorem total_pos (msg : FragmentedMessage) : 0 < msg.total :=
  Nat.le_max_right _ _

theorem total_le (msg : FragmentedMessage) : msg.total ≤ 255 :=
  Nat.max_le.mpr ⟨msg.fits, by decide⟩

theorem length_data_le (msg : FragmentedMessage) : msg.data.length ≤ msg.total * msg.chunkSize :=
  Nat.le_trans (le_divCeil_mul msg.chunkSize_pos)
    (Nat.mul_le_mul_right _ (Nat.le_max_left _ _))

/-! ## What an attempt puts on the wire -/

/-- The `index`-th datagram of an attempt. -/
def datagram (lib : Primitives) (msg : FragmentedMessage) (coins : Nat → SealCoins)
    (dstPeerId : UInt32) (index : Nat) : ByteString :=
  sealFragment lib (coins index) msg.networkKey dstPeerId msg.msgId (UInt8.ofNat index)
    (UInt8.ofNat msg.total) (msg.chunkAt index)

theorem sendFragmentedWithId_eq (coins : Nat → SealCoins) (dstPeerId : UInt32) :
    sendFragmentedWithId lib coins msg.data msg.networkKey msg.maxDatagram dstPeerId msg.msgId =
      .ok ((List.range msg.total).map (msg.datagram lib coins dstPeerId)) :=
  sendFragmentedWithId_eq_ok msg.minDatagram_le msg.total_le

/-- One fragment of the message coming in: it was produced by some attempt. -/
structure Arrival (lib : Primitives) (msg : FragmentedMessage) where
  now : Instant
  index : Nat
  datagram : ByteString
  sent : ∃ coins dstPeerId datagrams,
    sendFragmentedWithId lib coins msg.data msg.networkKey msg.maxDatagram dstPeerId msg.msgId =
      .ok datagrams ∧ datagrams[index]? = some datagram

def fragmentAt (msg : FragmentedMessage) (index : Nat) : Fragment :=
  { msgId := msg.msgId, index := index, total := msg.total, chunk := msg.chunkAt index }

theorem Arrival.exists_datagram (arrival : Arrival lib msg) :
    arrival.index < msg.total ∧
      ∃ coins dstPeerId, arrival.datagram = msg.datagram lib coins dstPeerId arrival.index := by
  obtain ⟨coins, dstPeerId, datagrams, hsend, hget⟩ := arrival.sent
  rw [sendFragmentedWithId_eq] at hsend
  cases Except.ok.inj hsend
  rw [List.getElem?_eq_some_iff] at hget
  obtain ⟨hlt, hget⟩ := hget
  refine ⟨by simpa using hlt, coins, dstPeerId, ?_⟩
  simpa using hget.symm

theorem Arrival.index_lt (arrival : Arrival lib msg) : arrival.index < msg.total :=
  arrival.exists_datagram.1

theorem Arrival.openFragment_eq (hlib : lib.Correct) (arrival : Arrival lib msg) :
    FragmentAssembler.openFragment lib msg.networkKey arrival.datagram =
      some (msg.fragmentAt arrival.index) := by
  obtain ⟨hlt, coins, dstPeerId, hdatagram⟩ := arrival.exists_datagram
  have htotal := msg.total_le
  have hindex : (UInt8.ofNat arrival.index).toNat = arrival.index := by
    simp only [UInt8.toNat_ofNat']
    omega
  have hcount : (UInt8.ofNat msg.total).toNat = msg.total := by
    simp only [UInt8.toNat_ofNat']
    omega
  have hless : UInt8.ofNat arrival.index < UInt8.ofNat msg.total := by
    rw [UInt8.lt_iff_toNat_lt, hindex, hcount]
    exact hlt
  rw [hdatagram, FragmentedMessage.datagram, openFragment_sealFragment hlib.aead _ _ _ _ _ hless, hindex, hcount]
  rfl

/-! ## The slots of the message -/

/-- The slots once exactly the fragments of `arrived` have come in. -/
def slotsOf (msg : FragmentedMessage) (arrived : List Nat) : Slots UInt8 :=
  (List.range msg.total).map fun i => if i ∈ arrived then some (msg.chunkAt i) else none

def AllArrived (msg : FragmentedMessage) (arrived : List Nat) : Prop :=
  ∀ i < msg.total, i ∈ arrived

instance (msg : FragmentedMessage) (arrived : List Nat) : Decidable (msg.AllArrived arrived) :=
  inferInstanceAs (Decidable (∀ i < msg.total, i ∈ arrived))

theorem slotsOf_nil (msg : FragmentedMessage) : msg.slotsOf [] = List.replicate msg.total none := by
  simp [slotsOf]

theorem length_slotsOf (msg : FragmentedMessage) (arrived : List Nat) :
    (msg.slotsOf arrived).length = msg.total := by
  simp [slotsOf]

theorem slotsOf_set (arrived : List Nat) (index : Nat) :
    (msg.slotsOf arrived).set index (some (msg.chunkAt index)) =
      msg.slotsOf (arrived ++ [index]) := by
  apply List.ext_getElem
  · simp [slotsOf]
  · intro i hleft hright
    simp only [slotsOf, List.getElem_set, List.getElem_map, List.getElem_range, List.mem_append,
      List.mem_singleton]
    by_cases hi : index = i
    · subst hi
      simp
    · simp [hi, Ne.symm hi]

theorem slotLength_slotsOf (msg : FragmentedMessage) (arrived : List Nat) {index : Nat} (hindex : index < msg.total) :
    slotLength (msg.slotsOf arrived) index =
      if index ∈ arrived then (msg.chunkAt index).length else 0 := by
  have hslot : (msg.slotsOf arrived)[index]? =
      some (if index ∈ arrived then some (msg.chunkAt index) else none) := by
    simp [slotsOf, hindex]
  unfold slotLength
  rw [hslot]
  split <;> rfl

theorem all_slotsOf_iff (arrived : List Nat) :
    (msg.slotsOf arrived).all Option.isSome = true ↔ msg.AllArrived arrived := by
  simp only [slotsOf, List.all_map, List.all_eq_true, List.mem_range, AllArrived, Function.comp]
  constructor
  · intro h i hi
    have hsome := h i hi
    by_contra hmissing
    simp [hmissing] at hsome
  · intro h i hi
    simp [h i hi]

theorem assemble_slotsOf {arrived : List Nat} (h : msg.AllArrived arrived) :
    assemble (msg.slotsOf arrived) = msg.data := by
  have hfull : msg.slotsOf arrived = (List.range msg.total).map fun i => some (msg.chunkAt i) := by
    apply List.map_congr_left
    intro i hi
    rw [if_pos (h i (List.mem_range.mp hi))]
  have hchunks : (msg.slotsOf arrived).filterMap id = (List.range msg.total).map msg.chunkAt := by
    rw [hfull, List.filterMap_map]
    exact congrFun List.filterMap_eq_map _
  unfold assemble
  rw [hchunks]
  exact flatten_chunk_range_of_le msg.length_data_le

theorem slotBytes_slotsOf_le (msg : FragmentedMessage) (arrived : List Nat) :
    slotBytes (msg.slotsOf arrived) ≤ msg.total * msg.chunkSize := by
  have hbound : ∀ n ∈ (msg.slotsOf arrived).map (fun slot => (slot.map List.length).getD 0),
      n ≤ msg.chunkSize := by
    intro n hn
    simp only [slotsOf, List.map_map, List.mem_map, Function.comp] at hn
    obtain ⟨i, -, rfl⟩ := hn
    split
    · exact length_chunk_le _ _ _
    · exact Nat.zero_le _
  have hsum := List.sum_le_card_nsmul _ _ hbound
  simpa [slotBytes, length_slotsOf] using hsum

theorem slotBytes_slotsOf_lt (msg : FragmentedMessage) (arrived : List Nat) :
    slotBytes (msg.slotsOf arrived) ≤ 306000 := by
  have hsize := msg.slotBytes_slotsOf_le arrived
  have hmul := Nat.mul_le_mul msg.total_le msg.chunkSize_le
  omega

theorem slotBytes_slotsOf_append (msg : FragmentedMessage) (arrived : List Nat) {index : Nat} (hindex : index < msg.total) :
    slotBytes (msg.slotsOf (arrived ++ [index])) = slotBytes (msg.slotsOf arrived) +
      ((msg.chunkAt index).length - slotLength (msg.slotsOf arrived) index) := by
  have hlt : index < (msg.slotsOf arrived).length := by rwa [length_slotsOf]
  have hset := slotBytes_set hlt (msg.chunkAt index)
  have hold : slotLength (msg.slotsOf arrived) index ≤ (msg.chunkAt index).length := by
    rw [slotLength_slotsOf _ _ hindex]
    split
    · exact Nat.le_refl _
    · exact Nat.zero_le _
  rw [slotsOf_set arrived index] at hset
  omega

/-! ## The message among other traffic -/

/-- The length of what the slot of a key already holds. -/
def pendingLength (asm : FragmentAssembler) (key : FragmentKey) (index : Nat) : Nat :=
  match asm.pending.lookup key with
  | none => 0
  | some entry => slotLength entry.chunks index

/-- No slot limit and no byte limit refuses the fragment in this state. -/
structure Admits (asm : FragmentAssembler) (key : FragmentKey) (fragment : Fragment) : Prop where
  slot : (asm.pending.lookup key).isSome = true ∨
    (asm.pending.size < maxPendingMessages ∧
      (asm.sourceUsage key.1).1 < maxPendingMessagesPerSource)
  buffered : saturatingAdd asm.bufferedBytes
    (saturatingSub fragment.chunk.length (pendingLength asm key fragment.index)) ≤ maxBufferedBytes
  source : saturatingAdd (asm.sourceUsage key.1).2
    (saturatingSub fragment.chunk.length (pendingLength asm key fragment.index)) ≤
      maxBufferedBytesPerSource

inductive Event (lib : Primitives) (msg : FragmentedMessage) where
  | arrival (arrival : Arrival lib msg)
  | other (call : FragmentCall)

def deliver (lib : Primitives) (msg : FragmentedMessage) (asm : FragmentAssembler)
    (arrival : Arrival lib msg) : FeedResult × FragmentAssembler :=
  asm.feed lib arrival.now msg.src arrival.datagram msg.networkKey

def step (lib : Primitives) (msg : FragmentedMessage) (asm : FragmentAssembler) :
    Event lib msg → FragmentAssembler
  | .arrival arrival => (msg.deliver lib asm arrival).2
  | .other call => asm.call lib call

/-- The conditions on the surrounding traffic: other datagrams belong to other
keys, cleanup does not expire the message and no limit refuses its fragments. -/
def Undisturbed (lib : Primitives) (msg : FragmentedMessage) (asm : FragmentAssembler) :
    Event lib msg → Prop
  | .arrival arrival => Admits asm msg.key (msg.fragmentAt arrival.index)
  | .other (.feed _ src data networkKey) =>
      ∀ fragment, FragmentAssembler.openFragment lib networkKey data = some fragment →
        (src, fragment.msgId) ≠ msg.key
  | .other (.cleanup now) =>
      ∀ entry, asm.pending.lookup msg.key = some entry → FragmentAssembler.keep now entry = true

/-- The indices that have come in, in order. -/
def arrivedIndices : List (Event lib msg) → List Nat
  | [] => []
  | .arrival arrival :: events => arrival.index :: arrivedIndices events
  | .other _ :: events => arrivedIndices events

/-- What the assembler holds of the message after the fragments of `arrived`. -/
def Progress (msg : FragmentedMessage) (asm : FragmentAssembler) (arrived : List Nat) : Prop :=
  match asm.pending.lookup msg.key with
  | none => arrived = []
  | some entry => entry.chunks = msg.slotsOf arrived ∧ entry.bytes = slotBytes (msg.slotsOf arrived)

theorem lookup_removePending_of_ne {asm : FragmentAssembler} {key other : FragmentKey}
    (hne : key ≠ other) : (asm.removePending other).pending.lookup key = asm.pending.lookup key := by
  unfold FragmentAssembler.removePending
  split
  · rfl
  · simp [hne]

theorem lookup_accept_of_ne {asm : FragmentAssembler} {key other : FragmentKey}
    (hne : key ≠ other) (fragment : Fragment) :
    (asm.accept other fragment).2.pending.lookup key = asm.pending.lookup key := by
  unfold FragmentAssembler.accept
  split
  · rfl
  split
  · exact lookup_removePending_of_ne hne
  simp only
  split
  · exact lookup_removePending_of_ne hne
  split
  · rfl
  unfold FragmentAssembler.store
  simp only
  split
  · simp [hne]
  · simp [hne]

theorem lookup_reserve_of_ne {asm reserved : FragmentAssembler} {key other : FragmentKey}
    (hne : key ≠ other) {now : Instant} {total : Nat}
    (hreserve : asm.reserve now other total = some reserved) :
    reserved.pending.lookup key = asm.pending.lookup key := by
  unfold FragmentAssembler.reserve at hreserve
  split at hreserve
  · cases Option.some.inj hreserve
    rfl
  split at hreserve
  · exact absurd hreserve (by simp)
  · cases Option.some.inj hreserve
    simp [hne]

theorem lookup_feed_of_ne {asm : FragmentAssembler} {key : FragmentKey} {now : Instant}
    {src : SocketAddr} {data : ByteString} {networkKey : NetworkKey}
    (hother : ∀ fragment, FragmentAssembler.openFragment lib networkKey data = some fragment →
      (src, fragment.msgId) ≠ key) :
    (asm.feed lib now src data networkKey).2.pending.lookup key = asm.pending.lookup key := by
  unfold FragmentAssembler.feed
  split
  · rfl
  rename_i fragment hopen
  have hne := (hother fragment hopen).symm
  unfold FragmentAssembler.feedFragment
  split
  · rfl
  split
  · rfl
  split
  · rfl
  · rename_i reserved hreserve
    rw [lookup_accept_of_ne hne, lookup_reserve_of_ne hne hreserve]

theorem lookup_cleanup {asm : FragmentAssembler} {key : FragmentKey} {now : Instant}
    (hkeep : ∀ entry, asm.pending.lookup key = some entry →
      FragmentAssembler.keep now entry = true) :
    (asm.cleanup now).pending.lookup key = asm.pending.lookup key := by
  ext entry
  have hiff : (asm.cleanup now).pending.lookup key = some entry ↔ _ := AssocMap.lookup_retain
  rw [hiff]
  exact ⟨And.left, fun h => ⟨h, hkeep entry h⟩⟩

theorem progress_other {asm : FragmentAssembler} {arrived : List Nat} {call : FragmentCall}
    (h : msg.Progress asm arrived) (hcall : msg.Undisturbed lib asm (.other call)) :
    msg.Progress (asm.call lib call) arrived := by
  have hlookup : (asm.call lib call).pending.lookup msg.key = asm.pending.lookup msg.key := by
    cases call with
    | feed now src data networkKey => exact lookup_feed_of_ne hcall
    | cleanup now => exact lookup_cleanup hcall
  unfold Progress
  rw [hlookup]
  exact h

/-! ## A fragment of the message -/

/-- The message has its slots, filled by the fragments of `arrived`. -/
def Holds (msg : FragmentedMessage) (asm : FragmentAssembler) (arrived : List Nat) : Prop :=
  ∃ entry, asm.pending.lookup msg.key = some entry ∧ entry.chunks = msg.slotsOf arrived ∧
    entry.bytes = slotBytes (msg.slotsOf arrived)

theorem Holds.progress {asm : FragmentAssembler} {arrived : List Nat} (h : msg.Holds asm arrived) :
    msg.Progress asm arrived := by
  obtain ⟨entry, hentry, hslots⟩ := h
  unfold Progress
  rw [hentry]
  exact hslots

theorem sourceBytes_reserve {asm : FragmentAssembler} {key : FragmentKey} (src : SocketAddr)
    (hnone : asm.pending.lookup key = none) (chunks : Slots UInt8) (started : Instant) :
    FragmentAssembler.sourceBytes { asm with
      pending := asm.pending.insert key { chunks := chunks, started := started, bytes := 0 } } src =
      asm.sourceBytes src := by
  simp [FragmentAssembler.sourceBytes, AssocMap.erase_of_lookup_none hnone]

theorem reserve_holds {asm : FragmentAssembler} {arrived : List Nat} (h : msg.Progress asm arrived)
    {index : Nat} (hindex : index < msg.total)
    (hroom : Admits asm msg.key (msg.fragmentAt index)) (now : Instant) :
    ∃ reserved, asm.reserve now msg.key msg.total = some reserved ∧ msg.Holds reserved arrived ∧
      Admits reserved msg.key (msg.fragmentAt index) := by
  unfold Progress at h
  unfold FragmentAssembler.reserve
  split at h
  · rename_i hnone
    subst h
    have hslot := hroom.slot
    simp only [hnone, Option.isSome_none, Bool.false_eq_true, false_or] at hslot
    rw [if_neg (by simp [hnone]), if_neg (by omega)]
    refine ⟨_, rfl, ⟨_, AList.lookup_insert _, ?_, ?_⟩, ?_⟩
    · exact msg.slotsOf_nil.symm
    · simp [slotsOf_nil, slotBytes_replicate_none]
    · have hzero : slotLength (List.replicate msg.total (none : Option ByteString)) index = 0 := by
        rw [← slotsOf_nil, slotLength_slotsOf _ _ hindex]
        rfl
      have hbuffered := hroom.buffered
      have hsource := hroom.source
      simp only [FragmentAssembler.sourceUsage_eq, pendingLength, hnone] at hbuffered hsource
      constructor
      · exact Or.inl (by simp)
      · simpa [pendingLength, fragmentAt, hzero] using hbuffered
      · simpa [pendingLength, fragmentAt, hzero, FragmentAssembler.sourceUsage_eq,
          sourceBytes_reserve _ hnone] using hsource
  · rename_i entry hentry
    rw [if_pos (by simp [hentry])]
    exact ⟨asm, rfl, ⟨entry, hentry, h⟩, hroom⟩

theorem accept_eq_store {asm : FragmentAssembler} {arrived : List Nat} {index : Nat}
    (hindex : index < msg.total) {entry : PendingMessage}
    (hentry : asm.pending.lookup msg.key = some entry)
    (hchunks : entry.chunks = msg.slotsOf arrived)
    (hbytes : entry.bytes = slotBytes (msg.slotsOf arrived))
    (hroom : Admits asm msg.key (msg.fragmentAt index)) :
    asm.accept msg.key (msg.fragmentAt index) =
      asm.store msg.key entry index (msg.chunkAt index) := by
  have hadd := msg.slotBytes_slotsOf_append arrived hindex
  have hlt := msg.slotBytes_slotsOf_lt (arrived ++ [index])
  have hbuffered := hroom.buffered
  have hsource := hroom.source
  simp only [pendingLength, hentry] at hbuffered hsource
  unfold FragmentAssembler.accept
  simp only [hentry, fragmentAt, hchunks, length_slotsOf] at hbuffered hsource ⊢
  rw [if_neg (by simp), if_neg, if_neg]
  · exact not_or.mpr ⟨Nat.not_lt.mpr hbuffered, Nat.not_lt.mpr hsource⟩
  · simp only [hbytes, saturatingAdd, saturatingSub, maxFragmentedMessageBytes]
    omega

theorem updateBytes_slotsOf (arrived : List Nat) {index : Nat} (hindex : index < msg.total) :
    FragmentAssembler.updateBytes (slotBytes (msg.slotsOf arrived))
        (slotLength (msg.slotsOf arrived) index) (msg.chunkAt index) =
      slotBytes (msg.slotsOf (arrived ++ [index])) := by
  have hadd := msg.slotBytes_slotsOf_append arrived hindex
  have hlt := msg.slotBytes_slotsOf_lt (arrived ++ [index])
  have hword : slotBytes (msg.slotsOf arrived) + ((msg.chunkAt index).length -
      slotLength (msg.slotsOf arrived) index) ≤ wordMax := by
    simp only [wordMax]
    omega
  have hupdate := FragmentAssembler.updateBytes_add
    (slotLength_le_slotBytes (msg.slotsOf arrived) index) hword
  have hold := msg.slotLength_slotsOf arrived hindex
  split at hold <;> omega

/-- One more fragment: the last missing one completes the message, any other is
kept. -/
theorem deliver_spec (hlib : lib.Correct) {asm : FragmentAssembler} {arrived : List Nat}
    (h : msg.Progress asm arrived) (arrival : Arrival lib msg)
    (hroom : Admits asm msg.key (msg.fragmentAt arrival.index)) :
    if msg.AllArrived (arrived ++ [arrival.index]) then
      (msg.deliver lib asm arrival).1 = .complete msg.data ∧
        (msg.deliver lib asm arrival).2.pending.lookup msg.key = none
    else
      (msg.deliver lib asm arrival).1 = .buffered ∧
        msg.Holds (msg.deliver lib asm arrival).2 (arrived ++ [arrival.index]) := by
  have hindex := arrival.index_lt
  obtain ⟨reserved, hreserve, ⟨entry, hentry, hchunks, hbytes⟩, hroom'⟩ :=
    reserve_holds h hindex hroom arrival.now
  have hlen : (msg.chunkAt arrival.index).length ≤ 1200 :=
    Nat.le_trans (length_chunk_le _ _ _) msg.chunkSize_le
  have hfeed : msg.deliver lib asm arrival =
      reserved.store msg.key entry arrival.index (msg.chunkAt arrival.index) := by
    have hreserve' : asm.reserve arrival.now
        (msg.src, (msg.fragmentAt arrival.index).msgId) (msg.fragmentAt arrival.index).total =
        some reserved := hreserve
    unfold deliver FragmentAssembler.feed FragmentAssembler.feedFragment
    simp only [arrival.openFragment_eq hlib]
    rw [if_neg, if_neg]
    · simp only [hreserve']
      exact accept_eq_store hindex hentry hchunks hbytes hroom'
    · simp only [fragmentAt, maxFragmentedMessageBytes]
      omega
    · simp only [fragmentAt]
      omega
  rw [hfeed]
  unfold FragmentAssembler.store
  simp only [hchunks, hbytes, slotsOf_set, updateBytes_slotsOf arrived hindex, all_slotsOf_iff]
  split
  · rename_i hall
    exact ⟨by rw [assemble_slotsOf hall], by simp⟩
  · exact ⟨rfl, _, AList.lookup_insert _, rfl, rfl⟩

/-! ## Whole runs -/

/-- As long as an index is missing the assembler holds what has come in. -/
theorem progress_run (hlib : lib.Correct) {asm : FragmentAssembler} {arrived : List Nat}
    (hstart : msg.Progress asm arrived) {events : List (Event lib msg)}
    (hrun : Guarded (msg.step lib) (msg.Undisturbed lib) asm events)
    (hmissing : ¬ msg.AllArrived (arrived ++ arrivedIndices events)) :
    msg.Progress (runAll (msg.step lib) asm events) (arrived ++ arrivedIndices events) := by
  induction events generalizing asm arrived with
  | nil => simpa [arrivedIndices] using hstart
  | cons event events ih =>
      obtain ⟨hevent, hrest⟩ := hrun
      cases event with
      | other call => exact ih (progress_other hstart hevent) hrest hmissing
      | arrival arrival =>
          have hshift : arrived ++ arrivedIndices (.arrival arrival :: events) =
              (arrived ++ [arrival.index]) ++ arrivedIndices events := by
            simp [arrivedIndices]
          rw [hshift] at hmissing ⊢
          have hopen : ¬ msg.AllArrived (arrived ++ [arrival.index]) := by
            intro hall
            exact hmissing fun i hi => List.mem_append_left _ (hall i hi)
          have hspec := deliver_spec hlib hstart arrival hevent
          rw [if_neg hopen] at hspec
          exact ih hspec.2.progress hrest hmissing

/-- Nothing but the message is pending. -/
def Alone (msg : FragmentedMessage) (asm : FragmentAssembler) : Prop :=
  ∀ key entry, asm.pending.lookup key = some entry → key = msg.key

theorem alone_entries {asm : FragmentAssembler} (halone : msg.Alone asm)
    (weight : FragmentKey → PendingMessage → Nat) :
    AssocMap.total weight asm.pending =
      match asm.pending.lookup msg.key with
      | none => 0
      | some entry => weight msg.key entry := by
  have hempty : AssocMap.total weight (asm.pending.erase msg.key) = 0 := by
    have hnone : ∀ key, (asm.pending.erase msg.key).lookup key = none := by
      intro key
      rw [AssocMap.lookup_erase_eq]
      split
      · rfl
      · rename_i hne
        by_contra hsome
        obtain ⟨entry, hentry⟩ := Option.ne_none_iff_exists'.mp hsome
        exact hne (halone key entry hentry)
    exact AssocMap.total_of_lookup_none hnone
  cases hlookup : asm.pending.lookup msg.key with
  | none => rw [← hempty, AssocMap.erase_of_lookup_none hlookup]
  | some entry => rw [AssocMap.total_of_lookup hlookup, hempty, Nat.add_zero]

theorem alone_deliver (hlib : lib.Correct) {asm : FragmentAssembler} (halone : msg.Alone asm)
    (arrival : Arrival lib msg) : msg.Alone (msg.deliver lib asm arrival).2 := by
  intro key entry hentry
  by_contra hne
  have hother : ∀ fragment, FragmentAssembler.openFragment lib msg.networkKey arrival.datagram =
      some fragment → (msg.src, fragment.msgId) ≠ key := by
    intro fragment hopen heq
    rw [arrival.openFragment_eq hlib] at hopen
    cases Option.some.inj hopen
    exact hne heq.symm
  have hsame : (msg.deliver lib asm arrival).2.pending.lookup key = asm.pending.lookup key :=
    lookup_feed_of_ne hother
  rw [hsame] at hentry
  exact hne (halone key entry hentry)

theorem admits_of_alone {asm : FragmentAssembler} {arrived : List Nat}
    (haccounted : asm.Accounted) (hprogress : msg.Progress asm arrived) (halone : msg.Alone asm)
    {index : Nat} (hindex : index < msg.total) : Admits asm msg.key (msg.fragmentAt index) := by
  have hsize := alone_entries halone (fun _ _ => 1)
  have hcount := alone_entries halone (fun key _ => if key.1 = msg.key.1 then 1 else 0)
  have htotal := alone_entries halone (fun _ entry => entry.bytes)
  have hsource := alone_entries halone
    (fun key entry => if key.1 = msg.key.1 then entry.bytes else 0)
  have hbuffered := haccounted.buffered_eq
  have hadd := msg.slotBytes_slotsOf_append arrived hindex
  have hlt := msg.slotBytes_slotsOf_lt (arrived ++ [index])
  have hchunk : (msg.chunkAt index).length ≤ 1200 :=
    Nat.le_trans (length_chunk_le _ _ _) msg.chunkSize_le
  unfold FragmentAssembler.totalBytes at hbuffered
  rw [← AssocMap.size_eq_total] at hsize
  unfold Progress at hprogress
  split at hprogress
  · rename_i hnone
    simp only [hnone] at hsize hcount htotal hsource
    constructor
    · right
      rw [FragmentAssembler.sourceUsage_eq]
      simp only [FragmentAssembler.sourceCount, hsize, hcount]
      decide
    · simp only [pendingLength, hnone, fragmentAt, saturatingAdd, saturatingSub, maxBufferedBytes]
      omega
    · rw [FragmentAssembler.sourceUsage_eq]
      simp only [FragmentAssembler.sourceBytes, hsource, pendingLength, hnone, fragmentAt,
        saturatingAdd, saturatingSub, maxBufferedBytesPerSource]
      omega
  · rename_i entry hentry
    obtain ⟨hchunks, hbytes⟩ := hprogress
    simp only [hentry, ↓reduceIte] at htotal hsource
    constructor
    · exact Or.inl (by simp [hentry])
    · simp only [pendingLength, hentry, hchunks, fragmentAt, saturatingAdd, saturatingSub,
        maxBufferedBytes]
      omega
    · rw [FragmentAssembler.sourceUsage_eq]
      simp only [FragmentAssembler.sourceBytes, hsource, pendingLength, hentry, hchunks, fragmentAt,
        saturatingAdd, saturatingSub, maxBufferedBytesPerSource]
      omega

theorem step_accounted {asm : FragmentAssembler} (h : asm.Accounted) (event : Event lib msg) :
    (msg.step lib asm event).Accounted := by
  cases event with
  | arrival arrival => exact FragmentAssembler.feed_accounted h lib _ _ _ _
  | other call => exact FragmentAssembler.call_accounted h lib call

/-- After any undisturbed run in which an index is still missing, the next
fragment of the message completes it exactly when it supplies the last missing
index; the limits cannot refuse it while nothing else is pending. -/
theorem retransmissions_reassemble (hlib : lib.Correct) (before : List FragmentCall)
    (hfresh : (FragmentAssembler.new.calls lib before).pending.lookup msg.key = none)
    (events : List (Event lib msg))
    (hrun : Guarded (msg.step lib) (msg.Undisturbed lib)
      (FragmentAssembler.new.calls lib before) events)
    (hmissing : ¬ msg.AllArrived (arrivedIndices events)) (arrival : Arrival lib msg) :
    let asm := runAll (msg.step lib) (FragmentAssembler.new.calls lib before) events
    (msg.Alone asm → Admits asm msg.key (msg.fragmentAt arrival.index)) ∧
      (Admits asm msg.key (msg.fragmentAt arrival.index) →
        (¬ msg.AllArrived (arrivedIndices events ++ [arrival.index]) →
          (msg.deliver lib asm arrival).1 = .buffered) ∧
        (msg.AllArrived (arrivedIndices events ++ [arrival.index]) →
          (msg.deliver lib asm arrival).1 = .complete msg.data ∧
            (msg.deliver lib asm arrival).2.pending.lookup msg.key = none)) := by
  intro asm
  have hstart : msg.Progress (FragmentAssembler.new.calls lib before) [] := by
    unfold Progress
    rw [hfresh]
  have hprogress : msg.Progress asm (arrivedIndices events) :=
    progress_run hlib hstart hrun hmissing
  have hstep : ∀ (asm : FragmentAssembler) (event : Event lib msg), asm.Accounted →
      (msg.step lib asm event).Accounted := fun _ event h => step_accounted h event
  have haccounted : asm.Accounted :=
    runAll_invariant hstep (FragmentAssembler.calls_new_accounted lib before) events
  constructor
  · intro halone
    exact admits_of_alone haccounted hprogress halone arrival.index_lt
  · intro hroom
    have hspec := deliver_spec hlib hprogress arrival hroom
    constructor
    · intro hopen
      rw [if_neg hopen] at hspec
      exact hspec.1
    · intro hall
      rwa [if_pos hall] at hspec

end FragmentedMessage

namespace Sample

/-- Two bytes, one to a fragment. -/
def message : FragmentedMessage where
  data := [1, 2]
  msgId := 7
  networkKey := networkKey
  src := source
  maxDatagram := 53
  minDatagram_le := by decide
  le_default := by decide
  fits := by decide

noncomputable def arrival (index : Nat) (hindex : index < 2) :
    FragmentedMessage.Arrival (transparent []) message where
  now := 0
  index := index
  datagram := message.datagram (transparent []) (fun _ => sealing) 0 index
  sent := ⟨fun _ => sealing, 0, _, FragmentedMessage.sendFragmentedWithId_eq _ _, by
    have htotal : message.total = 2 := by decide
    simp [htotal, hindex]⟩

end Sample

/-- The second fragment first: the first one then completes the message. -/
theorem reversed_fragments_reassemble :
    (Sample.message.deliver (transparent [])
      (runAll (Sample.message.step (transparent [])) FragmentAssembler.new
        [.arrival (Sample.arrival 1 (by decide))])
      (Sample.arrival 0 (by decide))).1 = .complete [1, 2] := by
  have hlib := transparent_correct []
  have hempty : Sample.message.Alone .new := fun _ _ h => absurd h (by simp [FragmentAssembler.new])
  have hroom : FragmentedMessage.Admits .new Sample.message.key (Sample.message.fragmentAt 1) :=
    FragmentedMessage.admits_of_alone FragmentAssembler.new_accounted
      (show Sample.message.Progress .new [] from rfl) hempty (by decide)
  have halone := FragmentedMessage.alone_deliver hlib hempty (Sample.arrival 1 (by decide))
  have hresult := FragmentedMessage.retransmissions_reassemble hlib [] rfl
    [.arrival (Sample.arrival 1 (by decide))] ⟨hroom, trivial⟩ (by decide)
    (Sample.arrival 0 (by decide))
  exact ((hresult.2 (hresult.1 halone)).2 (by decide)).1

end Liteway.Core
