import Liteway.Core.FragReassembly

/-!
# Fragments refused for their size

The byte limits of the assembler are looked at last, when a message that was not
known has already been given its slots.  A refused fragment of such a message
leaves the empty slots behind; one of a known message changes nothing.
-/

namespace Liteway.Core

open Liteway.Library

namespace FragmentAssembler

/-- How many bytes a fragment would add. -/
def growth (asm : FragmentAssembler) (key : FragmentKey) (fragment : Fragment) : Nat :=
  fragment.chunk.length - FragmentedMessage.pendingLength asm key fragment.index

/-- The fragment is in order, there is a place for its message and it would fit in
there, but the bytes held altogether, or those of its source, would be too many. -/
structure OverQuota (asm : FragmentAssembler) (src : SocketAddr) (fragment : Fragment) : Prop where
  index_lt : fragment.index < fragment.total
  chunk_le : fragment.chunk.length ≤ maxFragmentedMessageBytes
  slot : (asm.pending.lookup (src, fragment.msgId)).isSome = true ∨
    (asm.pending.size < maxPendingMessages ∧ asm.sourceCount src < maxPendingMessagesPerSource)
  fits : ∀ entry, asm.pending.lookup (src, fragment.msgId) = some entry →
    entry.chunks.length = fragment.total ∧
      entry.bytes + asm.growth (src, fragment.msgId) fragment ≤ maxFragmentedMessageBytes
  exceeds : maxBufferedBytes < asm.bufferedBytes + asm.growth (src, fragment.msgId) fragment ∨
    maxBufferedBytesPerSource < asm.sourceBytes src + asm.growth (src, fragment.msgId) fragment

/-- The state with the slots of a new message. -/
def withSlots (asm : FragmentAssembler) (now : Instant) (key : FragmentKey) (total : Nat) :
    FragmentAssembler :=
  { asm with
    pending := asm.pending.insert key
      { chunks := List.replicate total none, started := now, bytes := 0 } }

section Refusal

variable {asm : FragmentAssembler} {key : FragmentKey} {fragment : Fragment} {now : Instant}
  {src : SocketAddr}

theorem reserve_of_some (hknown : (asm.pending.lookup key).isSome = true) (total : Nat) :
    asm.reserve now key total = some asm := by
  unfold reserve
  rw [if_pos hknown]

theorem reserve_of_none (hnone : asm.pending.lookup key = none)
    (hsize : asm.pending.size < maxPendingMessages)
    (hcount : asm.sourceCount key.1 < maxPendingMessagesPerSource) (total : Nat) :
    asm.reserve now key total = some (asm.withSlots now key total) := by
  unfold reserve
  rw [if_neg (by simp [hnone]), sourceUsage_eq, if_neg (by simp only; omega)]
  rfl

theorem accept_of_over {entry : PendingMessage} (hentry : asm.pending.lookup key = some entry)
    (htotal : entry.chunks.length = fragment.total)
    (hmessage : entry.bytes + asm.growth key fragment ≤ maxFragmentedMessageBytes)
    (hover : maxBufferedBytes < asm.bufferedBytes + asm.growth key fragment ∨
      maxBufferedBytesPerSource < asm.sourceBytes key.1 + asm.growth key fragment) :
    asm.accept key fragment = (.buffered, asm) := by
  have hgrowth : saturatingSub fragment.chunk.length (slotLength entry.chunks fragment.index) =
      asm.growth key fragment := by
    simp only [growth, FragmentedMessage.pendingLength, hentry]
    rfl
  have hpasses : ¬ saturatingAdd entry.bytes (asm.growth key fragment) >
      maxFragmentedMessageBytes := by
    simp only [saturatingAdd]
    omega
  have hrefused : saturatingAdd asm.bufferedBytes (asm.growth key fragment) > maxBufferedBytes ∨
      saturatingAdd (min (asm.sourceBytes key.1) wordMax) (asm.growth key fragment) >
        maxBufferedBytesPerSource := by
    simp only [saturatingAdd, maxBufferedBytes, maxBufferedBytesPerSource, wordMax] at hover ⊢
    omega
  unfold accept
  simp only [hentry, htotal, ne_eq, not_true_eq_false, ↓reduceIte, hgrowth, sourceUsage_eq, hpasses,
    hrefused]

theorem feedFragment_eq_accept {reserved : FragmentAssembler}
    (hindex : fragment.index < fragment.total)
    (hchunk : fragment.chunk.length ≤ maxFragmentedMessageBytes)
    (hreserve : asm.reserve now (src, fragment.msgId) fragment.total = some reserved) :
    asm.feedFragment now src fragment = reserved.accept (src, fragment.msgId) fragment := by
  unfold feedFragment
  rw [if_neg (by omega), if_neg (by omega), hreserve]

theorem feedFragment_of_known (hover : OverQuota asm src fragment)
    (hknown : (asm.pending.lookup (src, fragment.msgId)).isSome = true) :
    asm.feedFragment now src fragment = (.buffered, asm) := by
  obtain ⟨entry, hentry⟩ := Option.isSome_iff_exists.mp hknown
  obtain ⟨htotal, hmessage⟩ := hover.fits entry hentry
  rw [feedFragment_eq_accept hover.index_lt hover.chunk_le (reserve_of_some hknown _)]
  exact accept_of_over hentry htotal hmessage hover.exceeds

theorem feedFragment_of_unknown (hover : OverQuota asm src fragment)
    (hnone : asm.pending.lookup (src, fragment.msgId) = none) :
    asm.feedFragment now src fragment =
      (.buffered, asm.withSlots now (src, fragment.msgId) fragment.total) := by
  have hslot := hover.slot
  simp only [hnone, Option.isSome_none, Bool.false_eq_true, false_or] at hslot
  have hentry : (asm.withSlots now (src, fragment.msgId) fragment.total).pending.lookup
      (src, fragment.msgId) =
      some { chunks := List.replicate fragment.total none, started := now, bytes := 0 } :=
    AList.lookup_insert _
  have hgrowth : asm.growth (src, fragment.msgId) fragment = fragment.chunk.length := by
    simp [growth, FragmentedMessage.pendingLength, hnone]
  have hgrowth' : (asm.withSlots now (src, fragment.msgId) fragment.total).growth
      (src, fragment.msgId) fragment = fragment.chunk.length := by
    simp [growth, FragmentedMessage.pendingLength, hentry, slotLength, hover.index_lt]
  have hsource : (asm.withSlots now (src, fragment.msgId) fragment.total).sourceBytes src =
      asm.sourceBytes src := FragmentedMessage.sourceBytes_reserve src hnone _ _
  have hover' := hover.exceeds
  rw [hgrowth] at hover'
  rw [feedFragment_eq_accept hover.index_lt hover.chunk_le
    (reserve_of_none hnone hslot.1 hslot.2 _)]
  apply accept_of_over hentry
  · simp
  · rw [hgrowth', Nat.zero_add]
    exact hover.chunk_le
  · rw [hgrowth', hsource]
    exact hover'

theorem size_withSlots (hnone : asm.pending.lookup key = none) (total : Nat) :
    (asm.withSlots now key total).pending.size = asm.pending.size + 1 := by
  rw [AssocMap.size_eq_total, AssocMap.size_eq_total]
  simp only [withSlots, AssocMap.total_insert, AssocMap.erase_of_lookup_none hnone]
  omega

end Refusal

/-- A fragment that a byte limit refuses leaves the state as it was, and takes up no
slot, exactly if its message was pending before. -/
theorem refused_fragment_traceless_iff (lib : Primitives) (calls : List FragmentCall) (now : Instant)
    (src : SocketAddr) (data : ByteString) (networkKey : NetworkKey) (fragment : Fragment)
    (hopen : openFragment lib networkKey data = some fragment)
    (hover : OverQuota (new.calls lib calls) src fragment) :
    let before := new.calls lib calls
    let after := (before.feed lib now src data networkKey).2
    (after = before ↔ (before.pending.lookup (src, fragment.msgId)).isSome = true) ∧
      (after.pending.size = before.pending.size ↔
        (before.pending.lookup (src, fragment.msgId)).isSome = true) := by
  intro before after
  have hafter : after = (before.feedFragment now src fragment).2 := by
    simp only [after, feed, hopen]
  cases hlookup : before.pending.lookup (src, fragment.msgId) with
  | some entry =>
      have hsame : after = before := by
        rw [hafter, feedFragment_of_known hover (by rw [hlookup]; rfl)]
      rw [hsame]
      simp
  | none =>
      have hslots : after = before.withSlots now (src, fragment.msgId) fragment.total := by
        rw [hafter, feedFragment_of_unknown hover hlookup]
      have hsize : after.pending.size = before.pending.size + 1 := by
        rw [hslots, size_withSlots hlookup]
      have hne : after ≠ before := by
        intro heq
        rw [heq] at hsize
        omega
      simp only [hne, hsize, Option.isSome_none, Bool.false_eq_true, iff_false, true_and]
      omega

/-! ## A source at its limit -/

theorem feedFragment_first {asm : FragmentAssembler} {src : SocketAddr} {msgId : UInt32}
    {chunk : ByteString} (now : Instant) (hnone : asm.pending.lookup (src, msgId) = none)
    (hsize : asm.pending.size < maxPendingMessages)
    (hcount : asm.sourceCount src < maxPendingMessagesPerSource)
    (hchunk : chunk.length ≤ maxFragmentedMessageBytes)
    (hbuffered : asm.bufferedBytes + chunk.length ≤ maxBufferedBytes)
    (hsource : asm.sourceBytes src + chunk.length ≤ maxBufferedBytesPerSource) :
    (asm.feedFragment now src { msgId := msgId, index := 0, total := 2, chunk := chunk }).2 =
      { pending := asm.pending.insert (src, msgId)
          { chunks := [some chunk, none], started := now, bytes := chunk.length }
        bufferedBytes := asm.bufferedBytes + chunk.length } := by
  have hentry : (asm.withSlots now (src, msgId) 2).pending.lookup (src, msgId) =
      some { chunks := [none, none], started := now, bytes := 0 } := AList.lookup_insert _
  have hslots : (asm.withSlots now (src, msgId) 2).sourceBytes src = asm.sourceBytes src :=
    FragmentedMessage.sourceBytes_reserve src hnone _ _
  have hword : asm.bufferedBytes + chunk.length ≤ wordMax := Nat.le_trans hbuffered (by decide)
  have hmessageWord : 0 + chunk.length ≤ wordMax :=
    Nat.le_trans (Nat.le_trans (Nat.zero_add _).le hchunk) (by decide)
  have haccept : (asm.withSlots now (src, msgId) 2).accept (src, msgId)
        { msgId := msgId, index := 0, total := 2, chunk := chunk } =
      (asm.withSlots now (src, msgId) 2).store (src, msgId)
        { chunks := [none, none], started := now, bytes := 0 } 0 chunk := by
    unfold accept
    simp only [hentry, sourceUsage_eq, hslots]
    rw [if_neg (by simp), if_neg, if_neg]
    · simp only [withSlots, saturatingAdd, saturatingSub, slotLength]
      omega
    · simp only [saturatingAdd, saturatingSub]
      omega
  rw [feedFragment_eq_accept Nat.two_pos hchunk (reserve_of_none hnone hsize hcount _), haccept]
  simp [store, withSlots, slotLength, updateBytes, saturatingSub, saturatingAdd_eq hword,
    saturatingAdd_eq hmessageWord, AList.insert_insert]

end FragmentAssembler

namespace Sample

/-- As much as fits into a UDP datagram with its overhead, in round numbers. -/
def bigChunk : ByteString := List.replicate 65440 0

def smallChunk : ByteString := List.replicate 1000 0

theorem length_bigChunk : bigChunk.length = 65440 := List.length_replicate

theorem length_smallChunk : smallChunk.length = 1000 := List.length_replicate

/-- One of the two fragments of a message. -/
noncomputable def half (msgId : UInt32) (index : UInt8) (chunk : ByteString) : ByteString :=
  sealFragment (transparent []) sealing networkKey 0 msgId index 2 chunk

theorem openFragment_half (msgId : UInt32) {index : UInt8} (hindex : index < 2)
    (chunk : ByteString) :
    FragmentAssembler.openFragment (transparent []) networkKey (half msgId index chunk) =
      some { msgId := msgId, index := index.toNat, total := 2, chunk := chunk } :=
  openFragment_sealFragment (transparent_correct []).aead _ _ _ _ _ hindex

/-- The first halves of so many messages. -/
noncomputable def firstHalves (chunk : ByteString) (count : Nat) : List FragmentCall :=
  (List.range count).map fun i => .feed 0 source (half (UInt32.ofNat i) 0 chunk) networkKey

end Sample

namespace FragmentAssembler

/-- What the first halves of `count` messages leave in the assembler. -/
structure Stocked (chunk : ByteString) (count : Nat) (asm : FragmentAssembler) : Prop where
  size_eq : asm.pending.size = count
  sourceCount_eq : asm.sourceCount Sample.source = count
  sourceBytes_eq : asm.sourceBytes Sample.source = count * chunk.length
  buffered_eq : asm.bufferedBytes = count * chunk.length
  lookup_eq : ∀ msgId : UInt32, asm.pending.lookup (Sample.source, msgId) =
    if msgId.toNat < count then
      some { chunks := [some chunk, none], started := 0, bytes := chunk.length }
    else none

section Stock

variable {chunk : ByteString}

theorem Stocked.next (hlen : chunk.length = 65440) {count : Nat} {asm : FragmentAssembler}
    (h : Stocked chunk count asm) (hcount : count < 8) :
    Stocked chunk (count + 1) (asm.call (transparent []) (.feed 0 Sample.source
      (Sample.half (UInt32.ofNat count) 0 chunk) Sample.networkKey)) := by
  have hid : (UInt32.ofNat count).toNat = count := UInt32.toNat_ofNat_of_lt' (by
    change count < 4294967296
    omega)
  have hnone : asm.pending.lookup (Sample.source, UInt32.ofNat count) = none := by
    rw [h.lookup_eq, hid, if_neg (Nat.lt_irrefl _)]
  have hsize := h.size_eq
  have hsourceCount := h.sourceCount_eq
  have hsourceBytes := h.sourceBytes_eq
  have hbuffered := h.buffered_eq
  have hfeed : asm.call (transparent []) (.feed 0 Sample.source
      (Sample.half (UInt32.ofNat count) 0 chunk) Sample.networkKey) =
      { pending := asm.pending.insert (Sample.source, UInt32.ofNat count)
          { chunks := [some chunk, none], started := 0, bytes := chunk.length }
        bufferedBytes := asm.bufferedBytes + chunk.length } := by
    simp only [call, feed, Sample.openFragment_half _ (show (0 : UInt8) < 2 by decide)]
    apply feedFragment_first 0 hnone
    · simp only [maxPendingMessages]
      omega
    · simp only [maxPendingMessagesPerSource]
      omega
    · simp only [maxFragmentedMessageBytes]
      omega
    · rw [hbuffered, hlen]
      simp only [maxBufferedBytes]
      omega
    · rw [hsourceBytes, hlen]
      simp only [maxBufferedBytesPerSource]
      omega
  rw [hfeed]
  constructor
  · rw [AssocMap.size_eq_total, AssocMap.total_insert, AssocMap.erase_of_lookup_none hnone,
      ← AssocMap.size_eq_total, hsize, Nat.add_comm]
  · simp only [sourceCount, AssocMap.total_insert, AssocMap.erase_of_lookup_none hnone,
      ↓reduceIte] at hsourceCount ⊢
    omega
  · simp only [sourceBytes, AssocMap.total_insert, AssocMap.erase_of_lookup_none hnone,
      ↓reduceIte] at hsourceBytes ⊢
    rw [hsourceBytes, Nat.succ_mul, Nat.add_comm]
  · change asm.bufferedBytes + chunk.length = (count + 1) * chunk.length
    rw [hbuffered, Nat.succ_mul]
  · intro msgId
    have hiff : msgId = UInt32.ofNat count ↔ msgId.toNat = count := by
      rw [← UInt32.toNat_inj, hid]
    rw [AssocMap.lookup_insert_eq, h.lookup_eq]
    simp only [Prod.mk.injEq, true_and, hiff]
    split_ifs <;> first | rfl | omega

theorem stocked_firstHalves (hlen : chunk.length = 65440) {count : Nat} (hcount : count ≤ 8) :
    Stocked chunk count (new.calls (transparent []) (Sample.firstHalves chunk count)) := by
  induction count with
  | zero =>
      constructor
      · rfl
      · rfl
      · exact (Nat.zero_mul _).symm
      · exact (Nat.zero_mul _).symm
      · intro msgId
        rfl
  | succ count ih =>
      have hrun : new.calls (transparent []) (Sample.firstHalves chunk (count + 1)) =
          (new.calls (transparent []) (Sample.firstHalves chunk count)).call (transparent [])
            (.feed 0 Sample.source (Sample.half (UInt32.ofNat count) 0 chunk)
              Sample.networkKey) := by
        simp only [calls, Sample.firstHalves, List.range_succ, List.map_append, List.map_cons,
          List.map_nil, runAll_append, runAll_cons, runAll_nil]
      rw [hrun]
      exact (ih (Nat.le_of_succ_le hcount)).next hlen (Nat.lt_of_succ_le hcount)

theorem overQuota_of_stocked (hlen : chunk.length = 65440) {asm : FragmentAssembler}
    (h : Stocked chunk 8 asm) {fragment : Fragment} (hindex : fragment.index < 2)
    (htotal : fragment.total = 2) (hsmall : fragment.chunk.length = 1000)
    (hnew : fragment.msgId.toNat < 8 → fragment.index = 1) :
    OverQuota asm Sample.source fragment := by
  have hgrowth : asm.growth (Sample.source, fragment.msgId) fragment = 1000 := by
    simp only [growth, FragmentedMessage.pendingLength, h.lookup_eq, hsmall]
    by_cases hknown : fragment.msgId.toNat < 8
    · simp [hknown, hnew hknown, slotLength]
    · simp [hknown]
  have hsize := h.size_eq
  have hcount := h.sourceCount_eq
  have hbytes := h.sourceBytes_eq
  constructor
  · omega
  · simp only [maxFragmentedMessageBytes]
    omega
  · right
    simp only [maxPendingMessages, maxPendingMessagesPerSource]
    omega
  · intro entry hentry
    rw [h.lookup_eq] at hentry
    split at hentry
    · cases Option.some.inj hentry
      rw [hgrowth, hlen]
      exact ⟨htotal.symm, show 65440 + 1000 ≤ maxFragmentedMessageBytes by decide⟩
    · exact absurd hentry (Option.some_ne_none entry).symm
  · right
    simp only [maxBufferedBytesPerSource]
    omega

end Stock

/-- The second half of a message that is pending is refused without a trace. -/
theorem second_half_refused :
    ((new.calls (transparent []) (Sample.firstHalves Sample.bigChunk 8)).feed (transparent []) 0 Sample.source
      (Sample.half 0 1 Sample.smallChunk) Sample.networkKey).2 =
        new.calls (transparent []) (Sample.firstHalves Sample.bigChunk 8) := by
  have h := stocked_firstHalves Sample.length_bigChunk (Nat.le_refl 8)
  apply ((refused_fragment_traceless_iff (transparent []) (Sample.firstHalves Sample.bigChunk 8) 0 Sample.source
    (Sample.half 0 1 Sample.smallChunk) Sample.networkKey _
    (Sample.openFragment_half 0 (by decide) _)
    (overQuota_of_stocked Sample.length_bigChunk h (by decide) rfl Sample.length_smallChunk
      (fun _ => rfl))).1).mpr
  rw [h.lookup_eq]
  rfl

/-- A ninth message is refused as well, but takes up one more slot. -/
theorem ninth_message_takes_slot :
    OverQuota (new.calls (transparent []) (Sample.firstHalves Sample.bigChunk 8)) Sample.source
        { msgId := 8, index := 0, total := 2, chunk := Sample.smallChunk } ∧
      ((new.calls (transparent []) (Sample.firstHalves Sample.bigChunk 8)).feed (transparent []) 0 Sample.source
        (Sample.half 8 0 Sample.smallChunk) Sample.networkKey).2 ≠
          new.calls (transparent []) (Sample.firstHalves Sample.bigChunk 8) ∧
      ((new.calls (transparent []) (Sample.firstHalves Sample.bigChunk 8)).feed (transparent []) 0 Sample.source
        (Sample.half 8 0 Sample.smallChunk) Sample.networkKey).2.pending.size = 9 := by
  have h := stocked_firstHalves Sample.length_bigChunk (Nat.le_refl 8)
  have hover : OverQuota (new.calls (transparent []) (Sample.firstHalves Sample.bigChunk 8)) Sample.source
      { msgId := 8, index := 0, total := 2, chunk := Sample.smallChunk } :=
    overQuota_of_stocked Sample.length_bigChunk h (by decide) rfl Sample.length_smallChunk
      (fun hlt => absurd hlt (by decide))
  have hnone : (new.calls (transparent []) (Sample.firstHalves Sample.bigChunk 8)).pending.lookup
      (Sample.source, 8) = none := by
    rw [h.lookup_eq]
    rfl
  have hafter : ((new.calls (transparent []) (Sample.firstHalves Sample.bigChunk 8)).feed (transparent []) 0
      Sample.source (Sample.half 8 0 Sample.smallChunk) Sample.networkKey).2 =
      (new.calls (transparent []) (Sample.firstHalves Sample.bigChunk 8)).withSlots 0 (Sample.source, 8) 2 := by
    simp only [feed, Sample.openFragment_half _ (show (0 : UInt8) < 2 by decide)]
    exact congrArg Prod.snd (feedFragment_of_unknown hover hnone)
  have hsize : ((new.calls (transparent []) (Sample.firstHalves Sample.bigChunk 8)).feed (transparent []) 0
      Sample.source (Sample.half 8 0 Sample.smallChunk) Sample.networkKey).2.pending.size = 9 := by
    rw [hafter, size_withSlots hnone, h.size_eq]
  refine ⟨hover, ?_, hsize⟩
  intro heq
  rw [heq, h.size_eq] at hsize
  exact absurd hsize (by decide)

end FragmentAssembler

end Liteway.Core
