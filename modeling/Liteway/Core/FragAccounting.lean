import Liteway.Core.Sealing
import Liteway.Core.Transparent

/-!
# The assembler's accounts

The counters are updated incrementally with saturating arithmetic.  On every
state that feeding and cleanup can produce they equal the sums they stand for
and stay within the limits, and no counter is ever decreased below zero.
-/

namespace Liteway.Core

open Liteway.Library

structure PendingMessage.Accounted (msg : PendingMessage) : Prop where
  bytes_eq : msg.bytes = slotBytes msg.chunks
  slots_pos : 1 ≤ msg.chunks.length
  slots_le : msg.chunks.length ≤ 255
  hole : none ∈ msg.chunks
  bytes_le : msg.bytes ≤ maxFragmentedMessageBytes

namespace FragmentAssembler

def totalBytes (asm : FragmentAssembler) : Nat := AssocMap.total (fun _ msg => msg.bytes) asm.pending

def sourceCount (asm : FragmentAssembler) (src : SocketAddr) : Nat :=
  AssocMap.total (fun key _ => if key.1 = src then 1 else 0) asm.pending

def sourceBytes (asm : FragmentAssembler) (src : SocketAddr) : Nat :=
  AssocMap.total (fun key msg => if key.1 = src then msg.bytes else 0) asm.pending

structure Accounted (asm : FragmentAssembler) : Prop where
  buffered_eq : asm.bufferedBytes = asm.totalBytes
  message : ∀ key msg, asm.pending.lookup key = some msg → msg.Accounted
  size_le : asm.pending.size ≤ maxPendingMessages
  sourceCount_le : ∀ src, asm.sourceCount src ≤ maxPendingMessagesPerSource
  sourceBytes_le : ∀ src, asm.sourceBytes src ≤ maxBufferedBytesPerSource
  buffered_le : asm.bufferedBytes ≤ maxBufferedBytes

theorem sourceUsage_eq (asm : FragmentAssembler) (src : SocketAddr) :
    asm.sourceUsage src = (asm.sourceCount src, min (asm.sourceBytes src) wordMax) := by
  have hcount := AssocMap.total_ite (fun _ _ => 1)
    (fun (key : FragmentKey) (_ : PendingMessage) => key.1 = src) asm.pending
  have hbytes := AssocMap.total_ite (fun _ msg => msg.bytes)
    (fun (key : FragmentKey) (_ : PendingMessage) => key.1 = src) asm.pending
  simp only [sourceUsage, sourceCount, sourceBytes, saturatingSum_eq, hcount, hbytes]
  simp

theorem removedBytes_eq (asm : FragmentAssembler) (now : Instant) :
    asm.removedBytes now =
      min (AssocMap.total (fun _ msg => if keep now msg then 0 else msg.bytes) asm.pending)
        wordMax := by
  have hweight : (fun (_ : FragmentKey) (msg : PendingMessage) =>
      if keep now msg then 0 else msg.bytes) =
      fun _ msg => if (!keep now msg) = true then msg.bytes else 0 := by
    funext key msg
    cases keep now msg <;> rfl
  unfold removedBytes
  rw [saturatingSum_eq, hweight, AssocMap.total_ite (fun _ msg => msg.bytes) (fun _ msg => (!keep now msg) = true)]
  simp

/-! ## One message among the others -/

section Entry

variable {asm : FragmentAssembler} {key : FragmentKey} {msg : PendingMessage}

theorem bytes_le_totalBytes (hmsg : asm.pending.lookup key = some msg) :
    msg.bytes ≤ asm.totalBytes := by
  unfold totalBytes
  rw [AssocMap.total_of_lookup hmsg]
  exact Nat.le_add_right _ _

theorem Accounted.slotLength_le (h : asm.Accounted) (hmsg : asm.pending.lookup key = some msg)
    (index : Nat) : slotLength msg.chunks index ≤ msg.bytes := by
  rw [(h.message key msg hmsg).bytes_eq]
  exact slotLength_le_slotBytes _ _

theorem Accounted.erase (h : asm.Accounted) (hmsg : asm.pending.lookup key = some msg) :
    Accounted { pending := asm.pending.erase key, bufferedBytes := asm.bufferedBytes - msg.bytes } := by
  have htotal : asm.totalBytes = msg.bytes + AssocMap.total _ (asm.pending.erase key) :=
    AssocMap.total_of_lookup hmsg
  constructor
  · change asm.bufferedBytes - msg.bytes = AssocMap.total _ (asm.pending.erase key)
    rw [h.buffered_eq, htotal]
    exact Nat.add_sub_cancel_left _ _
  · intro other found hfound
    rw [AssocMap.lookup_erase_eq] at hfound
    split at hfound
    · exact absurd hfound (by simp)
    · exact h.message other found hfound
  · have hsize := h.size_le
    rw [AssocMap.size_eq_total, AssocMap.total_of_lookup hmsg] at hsize
    rw [AssocMap.size_eq_total]
    exact Nat.le_of_add_left_le hsize
  · intro src
    have hcount := h.sourceCount_le src
    unfold sourceCount at hcount ⊢
    rw [AssocMap.total_of_lookup hmsg] at hcount
    exact Nat.le_of_add_left_le hcount
  · intro src
    have hbytes := h.sourceBytes_le src
    unfold sourceBytes at hbytes ⊢
    rw [AssocMap.total_of_lookup hmsg] at hbytes
    exact Nat.le_of_add_left_le hbytes
  · exact Nat.le_trans (Nat.sub_le _ _) h.buffered_le

theorem Accounted.replace (h : asm.Accounted) (hmsg : asm.pending.lookup key = some msg)
    {msg' : PendingMessage} (hmsg' : msg'.Accounted) {bufferedBytes : Nat}
    (hbuffered : bufferedBytes + msg.bytes = asm.bufferedBytes + msg'.bytes)
    (hlimit : bufferedBytes ≤ maxBufferedBytes)
    (hsource : asm.sourceBytes key.1 + msg'.bytes ≤ maxBufferedBytesPerSource + msg.bytes) :
    Accounted { pending := asm.pending.insert key msg', bufferedBytes := bufferedBytes } := by
  constructor
  · have htotal := h.buffered_eq
    unfold totalBytes at htotal ⊢
    rw [AssocMap.total_of_lookup hmsg] at htotal
    rw [AssocMap.total_insert]
    change bufferedBytes = _
    omega
  · intro other found hfound
    rw [AssocMap.lookup_insert_eq] at hfound
    split at hfound
    · cases Option.some.inj hfound
      exact hmsg'
    · exact h.message other found hfound
  · have hsize := h.size_le
    rw [AssocMap.size_eq_total, AssocMap.total_of_lookup hmsg] at hsize
    rw [AssocMap.size_eq_total, AssocMap.total_insert]
    exact hsize
  · intro src
    have hcount := h.sourceCount_le src
    unfold sourceCount at hcount ⊢
    rw [AssocMap.total_of_lookup hmsg] at hcount
    rw [AssocMap.total_insert]
    exact hcount
  · intro src
    have hbytes := h.sourceBytes_le src
    unfold sourceBytes at hbytes hsource ⊢
    rw [AssocMap.total_of_lookup hmsg] at hbytes hsource
    rw [AssocMap.total_insert]
    by_cases hsrc : key.1 = src
    · subst hsrc
      simp only [↓reduceIte] at hsource ⊢
      omega
    · simpa only [hsrc, ↓reduceIte] using hbytes
  · exact hlimit

end Entry

theorem new_accounted : Accounted new := by
  constructor
  · rfl
  · intro key msg hmsg
    exact absurd hmsg (by simp [new])
  · exact Nat.zero_le _
  · intro src
    exact Nat.zero_le _
  · intro src
    exact Nat.zero_le _
  · exact Nat.zero_le _

/-! ## The steps of `feed` and `cleanup` -/

section Steps

variable {asm : FragmentAssembler} {key : FragmentKey}

theorem removePending_accounted (h : asm.Accounted) (key : FragmentKey) :
    (asm.removePending key).Accounted := by
  unfold removePending
  split
  · exact h
  · rename_i msg hmsg
    exact h.erase hmsg

theorem reserve_accounted (h : asm.Accounted) {now : Instant} {total : Nat} (hpos : 1 ≤ total)
    (hle : total ≤ 255) {reserved : FragmentAssembler}
    (hreserve : asm.reserve now key total = some reserved) : reserved.Accounted := by
  unfold reserve at hreserve
  split at hreserve
  · cases Option.some.inj hreserve
    exact h
  rename_i hnone
  split at hreserve
  · exact absurd hreserve (by simp)
  rename_i hlimit
  cases Option.some.inj hreserve
  have herase : asm.pending.erase key = asm.pending :=
    AssocMap.erase_of_lookup_none (by simpa using hnone)
  rw [sourceUsage_eq] at hlimit
  constructor
  · have htotal := h.buffered_eq
    unfold totalBytes at htotal ⊢
    rw [AssocMap.total_insert, herase]
    simpa using htotal
  · intro other found hfound
    rw [AssocMap.lookup_insert_eq] at hfound
    split at hfound
    · cases Option.some.inj hfound
      refine ⟨?_, ?_, ?_, ?_, ?_⟩
      · simp [slotBytes_replicate_none]
      · simpa using hpos
      · simpa using hle
      · rw [List.mem_replicate]
        exact ⟨by omega, rfl⟩
      · exact Nat.zero_le _
    · exact h.message other found hfound
  · rw [AssocMap.size_eq_total, AssocMap.total_insert, herase, ← AssocMap.size_eq_total]
    omega
  · intro src
    have hcount := h.sourceCount_le src
    unfold sourceCount at hcount ⊢
    rw [AssocMap.total_insert, herase]
    by_cases hsrc : key.1 = src
    · subst hsrc
      simp only [↓reduceIte]
      unfold sourceCount at hlimit
      omega
    · simpa only [hsrc, ↓reduceIte, Nat.zero_add] using hcount
  · intro src
    have hbytes := h.sourceBytes_le src
    unfold sourceBytes at hbytes ⊢
    rw [AssocMap.total_insert, herase]
    simpa using hbytes
  · exact h.buffered_le

theorem updateBytes_add {counter oldLen : Nat} {chunk : ByteString} (hold : oldLen ≤ counter)
    (hword : counter + (chunk.length - oldLen) ≤ wordMax) :
    updateBytes counter oldLen chunk + oldLen = counter + chunk.length := by
  unfold updateBytes
  split
  · unfold saturatingSub
    omega
  · unfold saturatingSub
    rw [saturatingAdd_eq hword]
    omega

theorem within_limits (h : asm.Accounted) {delta : Nat}
    (hlimit : ¬ (saturatingAdd asm.bufferedBytes delta > maxBufferedBytes ∨
      saturatingAdd (asm.sourceUsage key.1).2 delta > maxBufferedBytesPerSource)) :
    asm.bufferedBytes + delta ≤ maxBufferedBytes ∧
      asm.sourceBytes key.1 + delta ≤ maxBufferedBytesPerSource := by
  have hsource := h.sourceBytes_le key.1
  rw [sourceUsage_eq] at hlimit
  simp only [saturatingAdd, maxBufferedBytes, maxBufferedBytesPerSource, wordMax] at *
  omega

theorem message_limit {bytes delta : Nat}
    (hlimit : ¬ saturatingAdd bytes delta > maxFragmentedMessageBytes) :
    bytes + delta ≤ maxFragmentedMessageBytes := by
  simp only [saturatingAdd, maxFragmentedMessageBytes, wordMax] at *
  omega

theorem store_accounted (h : asm.Accounted) {entry : PendingMessage} {index : Nat}
    {chunk : ByteString} (hentry : asm.pending.lookup key = some entry)
    (hindex : index < entry.chunks.length)
    (hmessage : entry.bytes + (chunk.length - slotLength entry.chunks index) ≤
      maxFragmentedMessageBytes)
    (hbuffered : asm.bufferedBytes + (chunk.length - slotLength entry.chunks index) ≤
      maxBufferedBytes)
    (hsource : asm.sourceBytes key.1 + (chunk.length - slotLength entry.chunks index) ≤
      maxBufferedBytesPerSource) :
    (asm.store key entry index chunk).2.Accounted := by
  have hmsg := h.message key entry hentry
  have hold := h.slotLength_le hentry index
  have htotal : entry.bytes ≤ asm.bufferedBytes := by
    rw [h.buffered_eq]
    exact bytes_le_totalBytes hentry
  have hword : maxBufferedBytes ≤ wordMax := by decide
  have hmessageWord : maxFragmentedMessageBytes ≤ wordMax := by decide
  have hbytes' := updateBytes_add hold (Nat.le_trans hmessage hmessageWord)
  have hbuffered' := updateBytes_add (Nat.le_trans hold htotal) (Nat.le_trans hbuffered hword)
  unfold store
  simp only
  split
  · -- the completed message leaves with exactly the bytes it had before
    have hleft : saturatingSub
        (updateBytes asm.bufferedBytes (slotLength entry.chunks index) chunk)
        (updateBytes entry.bytes (slotLength entry.chunks index) chunk) =
        asm.bufferedBytes - entry.bytes := by
      unfold saturatingSub
      omega
    rw [hleft]
    exact h.erase hentry
  · rename_i hall
    apply h.replace hentry
    · refine ⟨?_, ?_, ?_, ?_, ?_⟩
      · have hset := slotBytes_set hindex chunk
        have hbytes := hmsg.bytes_eq
        change updateBytes entry.bytes _ chunk = slotBytes (entry.chunks.set index (some chunk))
        omega
      · simpa using hmsg.slots_pos
      · simpa using hmsg.slots_le
      · simp only [List.all_eq_true, not_forall] at hall
        obtain ⟨slot, hslot, hempty⟩ := hall
        cases slot with
        | none => exact hslot
        | some _ => exact absurd rfl hempty
      · change updateBytes entry.bytes _ chunk ≤ maxFragmentedMessageBytes
        omega
    · change updateBytes asm.bufferedBytes _ chunk + entry.bytes =
        asm.bufferedBytes + updateBytes entry.bytes _ chunk
      omega
    · omega
    · change asm.sourceBytes key.1 + updateBytes entry.bytes _ chunk ≤ _
      omega

theorem accept_accounted (h : asm.Accounted) (key : FragmentKey) {fragment : Fragment}
    (hindex : fragment.index < fragment.total) : (asm.accept key fragment).2.Accounted := by
  unfold accept
  split
  · exact h
  rename_i entry hentry
  split
  · exact removePending_accounted h key
  rename_i htotal
  simp only
  split
  · exact removePending_accounted h key
  rename_i hmessage
  split
  · exact h
  rename_i hlimit
  obtain ⟨hbuffered, hsource⟩ := within_limits h hlimit
  apply store_accounted h hentry
  · omega
  · exact message_limit hmessage
  · exact hbuffered
  · exact hsource

theorem feedFragment_accounted (h : asm.Accounted) (now : Instant) (src : SocketAddr)
    {fragment : Fragment} (htotal : fragment.total ≤ 255) :
    (asm.feedFragment now src fragment).2.Accounted := by
  unfold feedFragment
  split
  · exact h
  rename_i hindex
  split
  · exact h
  split
  · exact h
  · rename_i reserved hreserve
    exact accept_accounted (reserve_accounted h (by omega) htotal hreserve) _ (by omega)

theorem openFragment_total_le {lib : Primitives} {networkKey : NetworkKey} {data : ByteString}
    {fragment : Fragment} (hopen : openFragment lib networkKey data = some fragment) :
    fragment.total ≤ 255 := by
  unfold openFragment at hopen
  split at hopen
  · exact absurd hopen (by simp)
  split at hopen
  · exact absurd hopen (by simp)
  split at hopen
  · exact absurd hopen (by simp)
  · cases Option.some.inj hopen
    exact Nat.le_of_lt_succ (UInt8.toNat_lt _)

theorem feed_accounted (h : asm.Accounted) (lib : Primitives) (now : Instant) (src : SocketAddr)
    (data : ByteString) (networkKey : NetworkKey) :
    (asm.feed lib now src data networkKey).2.Accounted := by
  unfold feed
  split
  · exact h
  · rename_i fragment hopen
    exact feedFragment_accounted h now src (openFragment_total_le hopen)

theorem removedBytes_add (h : asm.Accounted) (now : Instant) :
    AssocMap.total (fun _ msg => msg.bytes)
        (AssocMap.retain (fun _ msg => keep now msg) asm.pending) + asm.removedBytes now =
      asm.bufferedBytes := by
  have hsplit := AssocMap.total_retain (fun _ msg => msg.bytes)
    (fun (_ : FragmentKey) (msg : PendingMessage) => keep now msg) asm.pending
  have hbuffered := h.buffered_eq
  have hlimit := h.buffered_le
  unfold totalBytes at hbuffered
  rw [removedBytes_eq, Nat.min_eq_left]
  · omega
  · simp only [maxBufferedBytes, wordMax] at *
    omega

theorem cleanup_accounted (h : asm.Accounted) (now : Instant) : (asm.cleanup now).Accounted := by
  have hremoved := removedBytes_add h now
  constructor
  · change saturatingSub asm.bufferedBytes (asm.removedBytes now) = _
    unfold saturatingSub
    rw [← hremoved, Nat.add_sub_cancel]
    rfl
  · intro key msg hmsg
    exact h.message key msg (AssocMap.lookup_retain.mp hmsg).1
  · have hsize := h.size_le
    simp only [AssocMap.size_eq_total, cleanup] at hsize ⊢
    exact Nat.le_trans (AssocMap.total_retain_le _ _) hsize
  · intro src
    simp only [sourceCount, cleanup]
    exact Nat.le_trans (AssocMap.total_retain_le _ _) (h.sourceCount_le src)
  · intro src
    simp only [sourceBytes, cleanup]
    exact Nat.le_trans (AssocMap.total_retain_le _ _) (h.sourceBytes_le src)
  · exact Nat.le_trans (Nat.sub_le _ _) h.buffered_le

end Steps

/-! ## The subtractions -/

/-- What a saturating subtraction is taken from. -/
inductive Counter where
  | chunkLen
  | bufferedBytes
  | messageBytes
deriving DecidableEq

/-- The operands of one saturating subtraction. -/
structure Subtraction where
  counter : Counter
  minuend : Nat
  subtrahend : Nat
deriving DecidableEq

def Subtraction.Saturates (sub : Subtraction) : Prop := sub.minuend < sub.subtrahend

def removePendingSubtractions (asm : FragmentAssembler) (key : FragmentKey) : List Subtraction :=
  match asm.pending.lookup key with
  | none => []
  | some msg => [⟨.bufferedBytes, asm.bufferedBytes, msg.bytes⟩]

def storeSubtractions (asm : FragmentAssembler) (entry : PendingMessage) (index : Nat)
    (chunk : ByteString) : List Subtraction :=
  let oldLen := slotLength entry.chunks index
  let shrink :=
    if oldLen > chunk.length then
      [⟨.bufferedBytes, asm.bufferedBytes, oldLen - chunk.length⟩,
        ⟨.messageBytes, entry.bytes, oldLen - chunk.length⟩]
    else []
  let complete :=
    if (entry.chunks.set index (some chunk)).all Option.isSome then
      [⟨.bufferedBytes, updateBytes asm.bufferedBytes oldLen chunk,
        updateBytes entry.bytes oldLen chunk⟩]
    else []
  shrink ++ complete

def acceptSubtractions (asm : FragmentAssembler) (key : FragmentKey) (fragment : Fragment) :
    List Subtraction :=
  match asm.pending.lookup key with
  | none => []
  | some entry =>
      if entry.chunks.length ≠ fragment.total then asm.removePendingSubtractions key
      else
        let oldLen := slotLength entry.chunks fragment.index
        let delta := saturatingSub fragment.chunk.length oldLen
        ⟨.chunkLen, fragment.chunk.length, oldLen⟩ ::
          (if saturatingAdd entry.bytes delta > maxFragmentedMessageBytes then
            asm.removePendingSubtractions key
          else if saturatingAdd asm.bufferedBytes delta > maxBufferedBytes ∨
              saturatingAdd (asm.sourceUsage key.1).2 delta > maxBufferedBytesPerSource then []
          else asm.storeSubtractions entry fragment.index fragment.chunk)

/-- Every saturating subtraction that a call carries out, in order. -/
def subtractions (lib : Primitives) (asm : FragmentAssembler) : FragmentCall → List Subtraction
  | .cleanup now => [⟨.bufferedBytes, asm.bufferedBytes, asm.removedBytes now⟩]
  | .feed now src data networkKey =>
      match openFragment lib networkKey data with
      | none => []
      | some fragment =>
          if fragment.index ≥ fragment.total ∨ fragment.total = 0 then []
          else if fragment.chunk.length > maxFragmentedMessageBytes then []
          else
            match asm.reserve now (src, fragment.msgId) fragment.total with
            | none => []
            | some asm => asm.acceptSubtractions (src, fragment.msgId) fragment

/-- No counter is decreased by more than it holds. -/
def CountersExact (subs : List Subtraction) : Prop :=
  ∀ sub ∈ subs, sub.counter ≠ .chunkLen → ¬ sub.Saturates

section Subtractions

variable {asm : FragmentAssembler} {key : FragmentKey}

theorem removePending_exact (h : asm.Accounted) (key : FragmentKey) :
    CountersExact (asm.removePendingSubtractions key) := by
  intro sub hsub _
  unfold removePendingSubtractions at hsub
  split at hsub
  · exact absurd hsub List.not_mem_nil
  · rename_i msg hmsg
    rw [List.mem_singleton] at hsub
    subst hsub
    apply Nat.not_lt.mpr
    rw [h.buffered_eq]
    exact bytes_le_totalBytes hmsg

theorem store_exact (h : asm.Accounted) {entry : PendingMessage}
    (hentry : asm.pending.lookup key = some entry) (index : Nat) {chunk : ByteString}
    (hmessage : entry.bytes + (chunk.length - slotLength entry.chunks index) ≤
      maxFragmentedMessageBytes)
    (hbuffered : asm.bufferedBytes + (chunk.length - slotLength entry.chunks index) ≤
      maxBufferedBytes) :
    CountersExact (asm.storeSubtractions entry index chunk) := by
  have hold := h.slotLength_le hentry index
  have htotal : entry.bytes ≤ asm.bufferedBytes := by
    rw [h.buffered_eq]
    exact bytes_le_totalBytes hentry
  have hword : maxBufferedBytes ≤ wordMax := by decide
  have hmessageWord : maxFragmentedMessageBytes ≤ wordMax := by decide
  have hbytes' := updateBytes_add hold (Nat.le_trans hmessage hmessageWord)
  have hbuffered' := updateBytes_add (Nat.le_trans hold htotal) (Nat.le_trans hbuffered hword)
  intro sub hsub _
  apply Nat.not_lt.mpr
  simp only [storeSubtractions, List.mem_append] at hsub
  obtain hsub | hsub := hsub
  · split at hsub
    · simp only [List.mem_cons, List.not_mem_nil, or_false] at hsub
      obtain rfl | rfl := hsub
      · change _ - _ ≤ asm.bufferedBytes
        omega
      · change _ - _ ≤ entry.bytes
        omega
    · exact absurd hsub List.not_mem_nil
  · split at hsub
    · rw [List.mem_singleton] at hsub
      subst hsub
      change updateBytes entry.bytes _ chunk ≤ updateBytes asm.bufferedBytes _ chunk
      omega
    · exact absurd hsub List.not_mem_nil

theorem accept_exact_counters (h : asm.Accounted) (key : FragmentKey) (fragment : Fragment) :
    CountersExact (asm.acceptSubtractions key fragment) := by
  unfold acceptSubtractions
  split
  · exact fun sub hsub => absurd hsub List.not_mem_nil
  rename_i entry hentry
  split
  · exact removePending_exact h key
  intro sub hsub hcounter
  simp only [List.mem_cons] at hsub
  obtain rfl | hsub := hsub
  · exact absurd rfl hcounter
  split at hsub
  · exact removePending_exact h key sub hsub hcounter
  rename_i hmessage
  split at hsub
  · exact absurd hsub List.not_mem_nil
  rename_i hlimit
  exact store_exact h hentry fragment.index (message_limit hmessage)
    (within_limits h hlimit).1 sub hsub hcounter

theorem subtractions_exact (h : asm.Accounted) (lib : Primitives) (call : FragmentCall) :
    CountersExact (asm.subtractions lib call) := by
  cases call with
  | cleanup now =>
      intro sub hsub _
      simp only [subtractions, List.mem_singleton] at hsub
      subst hsub
      apply Nat.not_lt.mpr
      have hremoved := removedBytes_add h now
      change asm.removedBytes now ≤ asm.bufferedBytes
      omega
  | feed now src data networkKey =>
      unfold subtractions
      simp only
      split
      · exact fun sub hsub => absurd hsub List.not_mem_nil
      rename_i fragment hopen
      split
      · exact fun sub hsub => absurd hsub List.not_mem_nil
      rename_i hindex
      split
      · exact fun sub hsub => absurd hsub List.not_mem_nil
      split
      · exact fun sub hsub => absurd hsub List.not_mem_nil
      · rename_i reserved hreserve
        exact accept_exact_counters (reserve_accounted h (by omega)
          (openFragment_total_le hopen) hreserve) _ _

end Subtractions

/-! ## Whole runs -/

theorem call_accounted {asm : FragmentAssembler} (h : asm.Accounted) (lib : Primitives)
    (call : FragmentCall) : (asm.call lib call).Accounted := by
  cases call with
  | feed now src data networkKey => exact feed_accounted h lib now src data networkKey
  | cleanup now => exact cleanup_accounted h now

/-- The invariant of every sequence of calls on a new assembler. -/
theorem calls_new_accounted (lib : Primitives) (calls : List FragmentCall) :
    (new.calls lib calls).Accounted := by
  have hstep : ∀ (asm : FragmentAssembler) call, asm.Accounted → (asm.call lib call).Accounted :=
    fun asm call h => call_accounted h lib call
  exact runAll_invariant hstep new_accounted calls

/-- Whatever is fed, the counters are exact and within the limits, and the next
call decreases no counter by more than it holds. -/
theorem calls_accounted_and_exact (lib : Primitives) (calls : List FragmentCall) :
    (new.calls lib calls).Accounted ∧
      ∀ call, CountersExact ((new.calls lib calls).subtractions lib call) :=
  ⟨calls_new_accounted lib calls,
    fun call => subtractions_exact (calls_new_accounted lib calls) lib call⟩

/-! The difference of the chunk lengths itself does saturate: a second copy of a
fragment may be shorter than the first. -/

/-- The first of two fragments of a message, with the given chunk. -/
noncomputable def firstFragment (chunk : ByteString) : FragmentCall :=
  .feed 0 Sample.source
    (sealFragment (transparent []) Sample.sealing Sample.networkKey 0 7 0 2 chunk) Sample.networkKey

private theorem openFragment_firstFragment (chunk : ByteString) :
    openFragment (transparent []) Sample.networkKey
        (sealFragment (transparent []) Sample.sealing Sample.networkKey 0 7 0 2 chunk) =
      some { msgId := 7, index := 0, total := 2, chunk := chunk } :=
  openFragment_sealFragment (transparent_correct []).aead _ _ _ _ _ (by decide)

private theorem calls_firstFragment (chunk : ByteString) :
    new.calls (transparent []) [firstFragment chunk] =
      (new.feedFragment 0 Sample.source
        { msgId := 7, index := 0, total := 2, chunk := chunk }).2 := by
  simp only [calls, runAll_cons, runAll_nil, call, firstFragment, feed, openFragment_firstFragment]

theorem chunkLen_subtraction_saturates :
    ∃ sub ∈ (new.calls (transparent []) [firstFragment [1, 2]]).subtractions (transparent [])
      (firstFragment [3]), sub.Saturates := by
  rw [calls_firstFragment]
  simp only [subtractions, firstFragment, openFragment_firstFragment]
  exact ⟨⟨.chunkLen, 1, 2⟩, by decide, Nat.lt_succ_self 1⟩

end FragmentAssembler

end Liteway.Core
