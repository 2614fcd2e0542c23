import Liteway.Core.FragAccounting
import Liteway.Core.Machine

/-!
# Reassembly, with operations that can panic

The slot of a chunk is found with a byte of the fragment, and the messages of a
source are counted one by one.  Both stay in range because of what holds in every
state the assembler can reach.
-/

namespace Liteway.Core

open Liteway.Library

namespace Machine

def openFragment (lib : Primitives) (networkKey : NetworkKey) (data : ByteString) :
    OptionT Checked Fragment := do
  let plain ← openHandshake lib networkKey data
  let other ← Checked.or plain.isEmpty
    (do pure ((← Checked.get plain 0) != kindHandshakeFrag))
  if other then failure
  else if plain.length < 7 then failure
  else
    let msgId0 ← (Checked.get plain 1 : Checked UInt8)
    let msgId1 ← (Checked.get plain 2 : Checked UInt8)
    let msgId2 ← (Checked.get plain 3 : Checked UInt8)
    let msgId3 ← (Checked.get plain 4 : Checked UInt8)
    let index ← (Checked.get plain 5 : Checked UInt8)
    let total ← (Checked.get plain 6 : Checked UInt8)
    let chunk ← Checked.slice plain 7 plain.length
    pure {
      msgId := decodeU32BE #v[msgId0, msgId1, msgId2, msgId3]
      index := index.toNat
      total := total.toNat
      chunk := chunk }

/-- The step with which the messages of a source and their bytes are counted. -/
def countMessage (usage : Nat × Nat) (entry : (_ : FragmentKey) × PendingMessage) :
    Checked (Nat × Nat) := do
  let messages ← Checked.add usage.1 1
  pure (messages, saturatingAdd usage.2 entry.2.bytes)

def sourceUsage (asm : FragmentAssembler) (src : SocketAddr) : Checked (Nat × Nat) :=
  (asm.pending.entries.filter fun entry => entry.1.1 = src).foldlM countMessage (0, 0)

def reserve (asm : FragmentAssembler) (now : Instant) (key : FragmentKey) (total : Nat) :
    Checked (Option FragmentAssembler) :=
  if (asm.pending.lookup key).isSome then pure (some asm)
  else do
    let (sourceMessages, _) ← sourceUsage asm key.1
    if asm.pending.size ≥ maxPendingMessages ∨ sourceMessages ≥ maxPendingMessagesPerSource then
      pure none
    else
      pure (some { asm with
        pending := asm.pending.insert key
          { chunks := List.replicate total none, started := now, bytes := 0 } })

def updateBytes (counter oldLen : Nat) (chunk : ByteString) : Checked Nat :=
  if oldLen > chunk.length then do
    let removed ← Checked.sub oldLen chunk.length
    pure (saturatingSub counter removed)
  else
    pure (saturatingAdd counter (saturatingSub chunk.length oldLen))

def store (asm : FragmentAssembler) (key : FragmentKey) (entry : PendingMessage) (oldLen index : Nat)
    (chunk : ByteString) : Checked (FeedResult × FragmentAssembler) := do
  let bufferedBytes ← updateBytes asm.bufferedBytes oldLen chunk
  let bytes ← updateBytes entry.bytes oldLen chunk
  let chunks ← Checked.set entry.chunks index (some chunk)
  let entry := { entry with bytes := bytes, chunks := chunks }
  if entry.chunks.all Option.isSome then
    let assembled ← (entry.chunks.filterMap id).foldlM Checked.extendFromSlice []
    pure (.complete assembled,
      { pending := asm.pending.erase key
        bufferedBytes := saturatingSub bufferedBytes entry.bytes })
  else
    pure (.buffered, { pending := asm.pending.insert key entry, bufferedBytes := bufferedBytes })

def accept (asm : FragmentAssembler) (key : FragmentKey) (fragment : Fragment) :
    Checked (FeedResult × FragmentAssembler) :=
  match asm.pending.lookup key with
  | none => pure (.buffered, asm)
  | some entry =>
      if entry.chunks.length ≠ fragment.total then pure (.buffered, asm.removePending key)
      else do
        let slot ← Checked.get entry.chunks fragment.index
        let oldLen := (slot.map List.length).getD 0
        let delta := saturatingSub fragment.chunk.length oldLen
        if saturatingAdd entry.bytes delta > maxFragmentedMessageBytes then
          pure (.buffered, asm.removePending key)
        else
          let (_, sourceBytes) ← sourceUsage asm key.1
          if saturatingAdd asm.bufferedBytes delta > maxBufferedBytes ∨
              saturatingAdd sourceBytes delta > maxBufferedBytesPerSource then
            pure (.buffered, asm)
          else store asm key entry oldLen fragment.index fragment.chunk

def feedFragment (asm : FragmentAssembler) (now : Instant) (src : SocketAddr)
    (fragment : Fragment) : Checked (FeedResult × FragmentAssembler) :=
  if fragment.index ≥ fragment.total ∨ fragment.total = 0 then pure (.buffered, asm)
  else if fragment.chunk.length > maxFragmentedMessageBytes then pure (.buffered, asm)
  else do
    match ← reserve asm now (src, fragment.msgId) fragment.total with
    | none => pure (.buffered, asm)
    | some asm => accept asm (src, fragment.msgId) fragment

def feed (lib : Primitives) (asm : FragmentAssembler) (now : Instant) (src : SocketAddr)
    (data : ByteString) (networkKey : NetworkKey) : Checked (FeedResult × FragmentAssembler) := do
  match ← (openFragment lib networkKey data).run with
  | none => pure (.notFragment, asm)
  | some fragment => feedFragment asm now src fragment

/-! ## The same results -/

theorem toVector_eq_slice {plain : ByteString} (h : 7 ≤ plain.length) :
    #v[plain[1], plain[2], plain[3], plain[4]] = Bytes.slice plain 1 4 (by omega) := by
  match plain, h with
  | _ :: _ :: _ :: _ :: _ :: _, _ => rfl

theorem isOther_eq_ok (plain : ByteString) :
    Checked.or plain.isEmpty (do pure ((← Checked.get plain 0) != kindHandshakeFrag)) =
      .ok (decide (plain.isEmpty ∨ plain[0]? ≠ some kindHandshakeFrag)) := by
  cases plain with
  | nil => rfl
  | cons first rest =>
      change Except.ok (first != kindHandshakeFrag) = _
      congr 1
      by_cases hfirst : first = kindHandshakeFrag
      · simp [hfirst]
      · simp [hfirst]

theorem returns_openFragment {lib : Primitives} (hfits : lib.PlaintextFits)
    (networkKey : NetworkKey) (data : Slice) :
    Returns (openFragment lib networkKey data.bytes)
      (FragmentAssembler.openFragment lib networkKey data.bytes) := by
  have hopen := returns_openHandshake hfits networkKey data
  unfold openFragment FragmentAssembler.openFragment
  cases hplain : Core.openHandshake lib networkKey data.bytes with
  | none =>
      rw [hplain] at hopen
      exact hopen.bind_none _
  | some plain =>
      rw [hplain] at hopen
      apply hopen.bind_some
      apply Returns.step (isOther_eq_ok plain)
      simp only [decide_eq_true_eq]
      apply returns_ite
      · intro _
        exact returns_failure
      intro _
      by_cases hshort : plain.length < 7
      · rw [if_pos hshort, dif_pos hshort]
        exact returns_failure
      rw [if_neg hshort, dif_neg hshort]
      have hlen : 7 ≤ plain.length := Nat.not_lt.mp hshort
      apply Returns.step (Checked.get_eq_ok (by omega))
      apply Returns.step (Checked.get_eq_ok (by omega))
      apply Returns.step (Checked.get_eq_ok (by omega))
      apply Returns.step (Checked.get_eq_ok (by omega))
      apply Returns.step (Checked.get_eq_ok (by omega))
      apply Returns.step (Checked.get_eq_ok (by omega))
      apply Returns.step (Checked.slice_length_eq_ok hlen)
      rw [toVector_eq_slice hlen]
      exact returns_pure _

theorem foldlM_countMessage (entries : List ((_ : FragmentKey) × PendingMessage)) (messages bytes : Nat)
    (h : messages + entries.length ≤ wordMax) :
    entries.foldlM countMessage (messages, bytes) =
      .ok (messages + entries.length,
        (entries.map fun entry => entry.2.bytes).foldl saturatingAdd bytes) := by
  induction entries generalizing messages bytes with
  | nil => rfl
  | cons entry entries ih =>
      rw [List.length_cons] at h
      have hcount : countMessage (messages, bytes) entry =
          .ok (messages + 1, saturatingAdd bytes entry.2.bytes) :=
        Checked.step (Checked.add_eq_ok (by change messages + 1 ≤ wordMax; omega)) rfl
      rw [List.foldlM_cons]
      apply Checked.step hcount
      rw [ih _ _ (by omega), List.length_cons, List.map_cons, List.foldl_cons,
        Nat.add_right_comm, Nat.add_assoc]

section Assembler

variable {asm : FragmentAssembler} {key : FragmentKey}

theorem sourceUsage_eq_ok (h : asm.Accounted) (src : SocketAddr) :
    sourceUsage asm src = .ok (asm.sourceUsage src) := by
  have hlen : (asm.pending.entries.filter fun entry => decide (entry.1.1 = src)).length ≤ wordMax := by
    have hsize : asm.pending.entries.length ≤ maxPendingMessages := h.size_le
    have hfilter := List.length_filter_le (fun entry => decide (entry.1.1 = src)) asm.pending.entries
    have hword : maxPendingMessages ≤ wordMax := by decide
    omega
  unfold sourceUsage FragmentAssembler.sourceUsage
  rw [foldlM_countMessage _ _ _ (by omega), Nat.zero_add]
  rfl

theorem reserve_eq_ok (h : asm.Accounted) (now : Instant) (key : FragmentKey) (total : Nat) :
    reserve asm now key total = .ok (asm.reserve now key total) := by
  unfold reserve FragmentAssembler.reserve
  by_cases hknown : (asm.pending.lookup key).isSome = true
  · rw [if_pos hknown, if_pos hknown]
    rfl
  · rw [if_neg hknown, if_neg hknown]
    apply Checked.step (sourceUsage_eq_ok h key.1)
    exact (apply_ite Except.ok _ _ _).symm

theorem updateBytes_eq_ok (counter oldLen : Nat) (chunk : ByteString) :
    updateBytes counter oldLen chunk = .ok (FragmentAssembler.updateBytes counter oldLen chunk) := by
  unfold updateBytes FragmentAssembler.updateBytes
  by_cases hshrinks : oldLen > chunk.length
  · rw [if_pos hshrinks, if_pos hshrinks]
    exact Checked.step (Checked.sub_eq_ok (Nat.le_of_lt hshrinks)) rfl
  · rw [if_neg hshrinks, if_neg hshrinks]
    rfl

theorem assemble_set_le (h : asm.Accounted) {entry : PendingMessage}
    (hentry : asm.pending.lookup key = some entry) {index : Nat}
    (hindex : index < entry.chunks.length) {chunk : ByteString}
    (hchunk : chunk.length ≤ maxFragmentedMessageBytes) :
    (assemble (entry.chunks.set index (some chunk))).length ≤ isizeMax := by
  have hset := slotBytes_set hindex chunk
  have hmsg := h.message key entry hentry
  have hbytes := hmsg.bytes_le
  rw [hmsg.bytes_eq] at hbytes
  have hmax : maxFragmentedMessageBytes + maxFragmentedMessageBytes ≤ isizeMax := by decide
  rw [length_assemble]
  omega

theorem store_eq_ok (h : asm.Accounted) {entry : PendingMessage}
    (hentry : asm.pending.lookup key = some entry) {index : Nat}
    (hindex : index < entry.chunks.length) {chunk : ByteString}
    (hchunk : chunk.length ≤ maxFragmentedMessageBytes) :
    store asm key entry (slotLength entry.chunks index) index chunk =
      .ok (asm.store key entry index chunk) := by
  have hassembled := Checked.foldlM_extendFromSlice []
    ((entry.chunks.set index (some chunk)).filterMap id)
    (by rw [List.length_nil, Nat.zero_add]; exact assemble_set_le h hentry hindex hchunk)
  unfold store FragmentAssembler.store
  apply Checked.step (updateBytes_eq_ok _ _ _)
  apply Checked.step (updateBytes_eq_ok _ _ _)
  apply Checked.step (Checked.set_eq_ok hindex _)
  by_cases hcomplete : (entry.chunks.set index (some chunk)).all Option.isSome = true
  · rw [if_pos hcomplete, if_pos hcomplete]
    exact Checked.step hassembled rfl
  · rw [if_neg hcomplete, if_neg hcomplete]
    rfl

theorem accept_eq_ok (h : asm.Accounted) (key : FragmentKey) {fragment : Fragment}
    (hindex : fragment.index < fragment.total)
    (hchunk : fragment.chunk.length ≤ maxFragmentedMessageBytes) :
    accept asm key fragment = .ok (asm.accept key fragment) := by
  unfold accept FragmentAssembler.accept
  cases hentry : asm.pending.lookup key with
  | none => rfl
  | some entry =>
      by_cases htotal : entry.chunks.length ≠ fragment.total
      · simp only [if_pos htotal]
        rfl
      · simp only [if_neg htotal]
        have hslot : fragment.index < entry.chunks.length := by omega
        have hold : ((entry.chunks[fragment.index]).map List.length).getD 0 =
            slotLength entry.chunks fragment.index := by
          simp [slotLength, hslot]
        apply Checked.step (Checked.get_eq_ok hslot)
        simp only [hold]
        split
        · rfl
        apply Checked.step (sourceUsage_eq_ok h key.1)
        split
        · rfl
        exact store_eq_ok h hentry hslot hchunk

theorem feedFragment_eq_ok (h : asm.Accounted) (now : Instant) (src : SocketAddr)
    {fragment : Fragment} (htotal : fragment.total ≤ 255) :
    feedFragment asm now src fragment = .ok (asm.feedFragment now src fragment) := by
  unfold feedFragment FragmentAssembler.feedFragment
  by_cases hindex : fragment.index ≥ fragment.total ∨ fragment.total = 0
  · rw [if_pos hindex, if_pos hindex]
    rfl
  rw [if_neg hindex, if_neg hindex]
  by_cases hchunk : fragment.chunk.length > maxFragmentedMessageBytes
  · rw [if_pos hchunk, if_pos hchunk]
    rfl
  rw [if_neg hchunk, if_neg hchunk]
  apply Checked.step (reserve_eq_ok h now _ _)
  cases hreserve : asm.reserve now (src, fragment.msgId) fragment.total with
  | none => rfl
  | some reserved =>
      have hreserved := FragmentAssembler.reserve_accounted h (by omega) htotal hreserve
      exact accept_eq_ok hreserved _ (by omega) (by omega)

theorem feed_eq_ok {lib : Primitives} (hfits : lib.PlaintextFits) (h : asm.Accounted)
    (now : Instant) (src : SocketAddr) (data : Slice) (networkKey : NetworkKey) :
    feed lib asm now src data.bytes networkKey = .ok (asm.feed lib now src data.bytes networkKey) := by
  unfold feed FragmentAssembler.feed
  apply Checked.step (returns_openFragment hfits networkKey data)
  cases hopen : FragmentAssembler.openFragment lib networkKey data.bytes with
  | none => rfl
  | some fragment =>
      exact feedFragment_eq_ok h now src (FragmentAssembler.openFragment_total_le hopen)

end Assembler

end Machine

end Liteway.Core
