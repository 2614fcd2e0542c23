import Liteway.Daemon.Peer
import Liteway.Library.Runs
import Mathlib.Data.List.MinMax

/-!
# How long an answer stays in the handshake cache

Answers leave the cache when they are too old, when a cleanup or an insertion finds
them so, or when an insertion needs their place.  The map behind the cache has no
order of its own, so of several oldest entries any may be the one to go.
-/

namespace Liteway.Daemon

open Liteway.Library Liteway.Core

namespace HandshakeCache

/-! ## Making room -/

/-- What `insert` may leave of the cache before it puts the new entry in. -/
inductive MakesRoom (cache : HandshakeCache) (now : Instant) : HandshakeCache → Prop
  | unchanged (hsize : cache.entries.size < handshakeCacheMaxEntries) : MakesRoom cache now cache
  | cleaned (hsize : handshakeCacheMaxEntries ≤ cache.entries.size)
      (hroom : (cache.cleanup now).entries.size < handshakeCacheMaxEntries) :
      MakesRoom cache now (cache.cleanup now)
  | evicted {key : Bytes 32} {entry : CachedHandshake}
      (hsize : handshakeCacheMaxEntries ≤ cache.entries.size)
      (hfull : handshakeCacheMaxEntries ≤ (cache.cleanup now).entries.size)
      (hlookup : (cache.cleanup now).entries.lookup key = some entry)
      (holdest : ∀ other found, (cache.cleanup now).entries.lookup other = some found →
        entry.createdAt ≤ found.createdAt) :
      MakesRoom cache now ⟨(cache.cleanup now).entries.erase key⟩

theorem oldest_eq_argmin (cache : HandshakeCache) :
    cache.oldest = (cache.entries.entries.argmin fun entry => entry.2.createdAt).map Sigma.fst := by
  unfold oldest List.argmin List.argAux
  dsimp only
  congr 2
  funext best entry
  cases best <;> rfl

/-- The code takes the first of the oldest entries in the order of the map. -/
theorem makesRoom_makeRoom (cache : HandshakeCache) (now : Instant) :
    MakesRoom cache now (cache.makeRoom now) := by
  unfold makeRoom
  by_cases hsize : cache.entries.size ≥ handshakeCacheMaxEntries
  · simp only [if_pos hsize]
    by_cases hfull : (cache.cleanup now).entries.size ≥ handshakeCacheMaxEntries
    · rw [if_pos hfull, oldest_eq_argmin]
      cases hargmin : (cache.cleanup now).entries.entries.argmin fun entry => entry.2.createdAt with
      | none =>
          rw [List.argmin_eq_none] at hargmin
          rw [AssocMap.size, hargmin] at hfull
          exact absurd hfull (by decide)
      | some found =>
          obtain ⟨key, entry⟩ := found
          apply MakesRoom.evicted hsize hfull
          · exact AssocMap.lookup_eq_some_iff.mpr (List.argmin_mem hargmin)
          · intro other found hfound
            have hle := List.le_of_mem_argmin (AssocMap.lookup_eq_some_iff.mp hfound) hargmin
            exact hle
    · rw [if_neg hfull]
      exact MakesRoom.cleaned hsize (Nat.lt_of_not_le hfull)
  · simp only [if_neg hsize]
    exact MakesRoom.unchanged (Nat.lt_of_not_le hsize)

section Room

variable {cache room : HandshakeCache} {now : Instant}

theorem size_cleanup_le (cache : HandshakeCache) (now : Instant) :
    (cache.cleanup now).entries.size ≤ cache.entries.size :=
  List.length_filter_le _ _

theorem lookup_cleanup_of_size {key : Bytes 32} {entry : CachedHandshake}
    (hsize : cache.entries.size ≤ (cache.cleanup now).entries.size)
    (h : cache.entries.lookup key = some entry) :
    (cache.cleanup now).entries.lookup key = some entry := by
  have hall := List.length_filter_eq_length_iff.mp
    (Nat.le_antisymm (size_cleanup_le cache now) hsize)
  rw [AssocMap.lookup_eq_some_iff] at h
  exact AssocMap.lookup_retain.mpr ⟨AssocMap.lookup_eq_some_iff.mpr h, hall _ h⟩

theorem MakesRoom.lookup (h : MakesRoom cache now room) {key : Bytes 32} {entry : CachedHandshake}
    (hlookup : room.entries.lookup key = some entry) : cache.entries.lookup key = some entry := by
  cases h with
  | unchanged _ => exact hlookup
  | cleaned _ _ => exact lookup_cleanup hlookup
  | evicted _ _ _ _ =>
      rw [AssocMap.lookup_erase_eq] at hlookup
      split at hlookup
      · contradiction
      · exact lookup_cleanup hlookup

theorem MakesRoom.size_lt (h : MakesRoom cache now room)
    (hsize : cache.entries.size ≤ handshakeCacheMaxEntries) :
    room.entries.size < handshakeCacheMaxEntries := by
  cases h with
  | unchanged hroom => exact hroom
  | cleaned _ hroom => exact hroom
  | evicted _ _ hlookup _ =>
      have hle := size_cleanup_le cache now
      have htotal := @AssocMap.total_of_lookup _ _ (fun _ _ => 1) _ _ _ _ hlookup
      rw [← AssocMap.size_eq_total, ← AssocMap.size_eq_total] at htotal
      dsimp only
      omega

def FullSince (cache : HandshakeCache) (created : Instant) : Prop :=
  cache.entries.size = 256 ∧
    ∀ key entry, cache.entries.lookup key = some entry → created ≤ entry.createdAt

theorem MakesRoom.kept_or_lost (h : MakesRoom cache now room)
    (hsize : cache.entries.size ≤ handshakeCacheMaxEntries) {key : Bytes 32}
    {entry : CachedHandshake} (hlookup : cache.entries.lookup key = some entry) :
    room.entries.lookup key = some entry ∨ alive now entry = false ∨
      cache.FullSince entry.createdAt := by
  cases halive : alive now entry with
  | false => exact Or.inr (Or.inl rfl)
  | true =>
      have hcleaned : (cache.cleanup now).entries.lookup key = some entry :=
        AssocMap.lookup_retain.mpr ⟨hlookup, halive⟩
      cases h with
      | unchanged _ => exact Or.inl hlookup
      | cleaned _ _ => exact Or.inl hcleaned
      | @evicted evictedKey evictedEntry hmany hfull hevicted holdest =>
          by_cases hkey : key = evictedKey
          · subst hkey
            have hentry : evictedEntry = entry := Option.some.inj (hevicted.symm.trans hcleaned)
            subst hentry
            right
            right
            refine ⟨Nat.le_antisymm hsize hmany, ?_⟩
            intro other found hfound
            exact holdest other found
              (lookup_cleanup_of_size (Nat.le_trans hsize hfull) hfound)
          · left
            rw [AssocMap.lookup_erase_eq, if_neg hkey]
            exact hcleaned

end Room

end HandshakeCache

/-! ## Runs of the cache -/

inductive CacheCall where
  | insert (key : Bytes 32) (response : ByteString) (peerId : UInt32) (now : Instant)
  | get (key : Bytes 32) (now : Instant)
  | cleanup (now : Instant)

def CacheCall.now : CacheCall → Instant
  | .insert _ _ _ now => now
  | .get _ now => now
  | .cleanup now => now

namespace HandshakeCache

def Step (cache : HandshakeCache) : CacheCall → HandshakeCache → Prop
  | .insert key response peerId now, next =>
      ∃ room, MakesRoom cache now room ∧
        next = ⟨room.entries.insert key
          { response := response, peerId := peerId, createdAt := now }⟩
  | .get _ _, next => next = cache
  | .cleanup now, next => next = cache.cleanup now

def call (cache : HandshakeCache) : CacheCall → HandshakeCache
  | .insert key response peerId now => cache.insert key response peerId now
  | .get _ _ => cache
  | .cleanup now => cache.cleanup now

theorem step_call (cache : HandshakeCache) (call : CacheCall) :
    cache.Step call (cache.call call) := by
  cases call with
  | insert key response peerId now => exact ⟨_, makesRoom_makeRoom cache now, rfl⟩
  | get key now => rfl
  | cleanup now => rfl

end HandshakeCache

/-- A run of a new cache on a clock that does not go back; `caches index` is the
cache before the call at the index. -/
structure CacheRun (calls : List CacheCall) where
  caches : Nat → HandshakeCache
  start : caches 0 = HandshakeCache.new
  step : ∀ index call, calls[index]? = some call →
    (caches index).Step call (caches (index + 1))
  clock : calls.Pairwise fun earlier later => earlier.now ≤ later.now

def CacheRun.ofCalls {calls : List CacheCall}
    (hclock : calls.Pairwise fun earlier later => earlier.now ≤ later.now) : CacheRun calls where
  caches := fun index => runAll HandshakeCache.call HandshakeCache.new (calls.take index)
  start := rfl
  step := by
    intro index call hcall
    rw [List.take_add_one, hcall, Option.toList_some, runAll_append]
    exact HandshakeCache.step_call _ call
  clock := hclock

/-- The entry is what the call at `inserted` put in, and no call before `index` has
put in another one under the key. -/
def LatestInsert (calls : List CacheCall) (index : Nat) (key : Bytes 32) (inserted : Nat)
    (entry : CachedHandshake) : Prop :=
  inserted < index ∧
    calls[inserted]? = some (.insert key entry.response entry.peerId entry.createdAt) ∧
    ∀ between response peerId now, inserted < between → between < index →
      calls[between]? ≠ some (.insert key response peerId now)

section Retention

variable {calls : List CacheCall} {index inserted : Nat} {key : Bytes 32} {entry : CachedHandshake}

theorem latestInsert_succ_iff
    (hother : ∀ response peerId now, calls[index]? ≠ some (.insert key response peerId now)) :
    LatestInsert calls (index + 1) key inserted entry ↔
      LatestInsert calls index key inserted entry := by
  constructor
  · rintro ⟨hlt, hcall, hnone⟩
    refine ⟨?_, hcall, fun between response peerId now hlo hhi =>
      hnone between response peerId now hlo (Nat.lt_succ_of_lt hhi)⟩
    apply Nat.lt_of_le_of_ne (Nat.le_of_lt_succ hlt)
    intro heq
    subst heq
    exact hother _ _ _ hcall
  · rintro ⟨hlt, hcall, hnone⟩
    refine ⟨Nat.lt_succ_of_lt hlt, hcall, ?_⟩
    intro between response peerId now hlo hhi
    by_cases heq : between = index
    · subst heq
      exact hother response peerId now
    · exact hnone between response peerId now hlo (by omega)

theorem latestInsert_of_insert {response : ByteString} {peerId : UInt32} {now : Instant}
    (hcall : calls[index]? = some (.insert key response peerId now)) :
    LatestInsert calls (index + 1) key inserted entry ↔
      inserted = index ∧ entry = ⟨response, peerId, now⟩ := by
  constructor
  · rintro ⟨hlt, hinsert, hnone⟩
    have heq : inserted = index := by
      by_contra hne
      exact hnone index response peerId now (by omega) (Nat.lt_succ_self index) hcall
    subst heq
    rw [hcall] at hinsert
    cases hinsert
    exact ⟨rfl, rfl⟩
  · rintro ⟨rfl, rfl⟩
    refine ⟨Nat.lt_succ_self inserted, hcall, ?_⟩
    intro between _ _ _ hlo hhi
    omega

/-- Some call before the index found the entry too old. -/
def FoundOld (calls : List CacheCall) (index : Nat) (entry : CachedHandshake) : Prop :=
  ∃ earlier call, earlier < index ∧ calls[earlier]? = some call ∧
    HandshakeCache.alive call.now entry = false

/-- Between its insertion and the index the entry was in a full cache without an
older one. -/
def Crowded (caches : Nat → HandshakeCache) (index : Nat) (key : Bytes 32) (inserted : Nat)
    (entry : CachedHandshake) : Prop :=
  ∃ moment, inserted < moment ∧ moment < index ∧
    (caches moment).entries.lookup key = some entry ∧ (caches moment).FullSince entry.createdAt

theorem FoundOld.succ (h : FoundOld calls index entry) : FoundOld calls (index + 1) entry := by
  obtain ⟨earlier, call, hlt, hcall, hold⟩ := h
  exact ⟨earlier, call, Nat.lt_succ_of_lt hlt, hcall, hold⟩

theorem Crowded.succ {caches : Nat → HandshakeCache} (h : Crowded caches index key inserted entry) :
    Crowded caches (index + 1) key inserted entry := by
  obtain ⟨moment, hlo, hhi, hfull⟩ := h
  exact ⟨moment, hlo, Nat.lt_succ_of_lt hhi, hfull⟩

/-- Every entry before the call at the index is the latest one, and for every latest
one that is missing there is a reason. -/
structure AccountedFor (calls : List CacheCall) (caches : Nat → HandshakeCache) (index : Nat) :
    Prop where
  bounded : (caches index).entries.size ≤ handshakeCacheMaxEntries
  latest : ∀ key entry, (caches index).entries.lookup key = some entry →
    ∃ inserted, LatestInsert calls index key inserted entry
  missing : ∀ key inserted entry, LatestInsert calls index key inserted entry →
    (caches index).entries.lookup key = some entry ∨ FoundOld calls index entry ∨
      Crowded caches index key inserted entry

variable {caches : Nat → HandshakeCache}

private theorem AccountedFor.shrink {call : CacheCall} (h : AccountedFor calls caches index)
    (hother : ∀ key response peerId now, calls[index]? ≠ some (.insert key response peerId now))
    (hsize : (caches (index + 1)).entries.size ≤ (caches index).entries.size)
    (hlookup : ∀ key entry, (caches (index + 1)).entries.lookup key = some entry →
      (caches index).entries.lookup key = some entry)
    (hcall : calls[index]? = some call)
    (hkept : ∀ key entry, (caches index).entries.lookup key = some entry →
      (caches (index + 1)).entries.lookup key = some entry ∨
        HandshakeCache.alive call.now entry = false) :
    AccountedFor calls caches (index + 1) where
  bounded := Nat.le_trans hsize h.bounded
  latest := by
    intro key entry hentry
    obtain ⟨inserted, hlatest⟩ := h.latest key entry (hlookup key entry hentry)
    exact ⟨inserted, (latestInsert_succ_iff (hother key)).mpr hlatest⟩
  missing := by
    intro key inserted entry hlatest
    rw [latestInsert_succ_iff (hother key)] at hlatest
    obtain hentry | hold | hcrowded := h.missing key inserted entry hlatest
    · obtain hentry | hold := hkept key entry hentry
      · exact Or.inl hentry
      · exact Or.inr (Or.inl ⟨index, call, Nat.lt_succ_self index, hcall, hold⟩)
    · exact Or.inr (Or.inl hold.succ)
    · exact Or.inr (Or.inr hcrowded.succ)

private theorem AccountedFor.insert {key : Bytes 32} {response : ByteString} {peerId : UInt32}
    {now : Instant} {room : HandshakeCache} (h : AccountedFor calls caches index)
    (hcall : calls[index]? = some (.insert key response peerId now))
    (hroom : (caches index).MakesRoom now room)
    (hnext : caches (index + 1) = ⟨room.entries.insert key ⟨response, peerId, now⟩⟩) :
    AccountedFor calls caches (index + 1) := by
  have hother : ∀ other, other ≠ key → ∀ response' peerId' now',
      calls[index]? ≠ some (.insert other response' peerId' now') := by
    intro other hne response' peerId' now' hinsert
    rw [hcall] at hinsert
    cases hinsert
    exact hne rfl
  have hlookup : ∀ other, (caches (index + 1)).entries.lookup other =
      if other = key then some ⟨response, peerId, now⟩ else room.entries.lookup other := by
    intro other
    rw [hnext, AssocMap.lookup_insert_eq]
  refine ⟨?_, ?_, ?_⟩
  · rw [hnext]
    exact Nat.le_trans (AssocMap.size_insert_le _ _ _) (hroom.size_lt h.bounded)
  · intro other entry hentry
    rw [hlookup] at hentry
    split at hentry
    · rename_i heq
      subst heq
      cases hentry
      exact ⟨index, (latestInsert_of_insert hcall).mpr ⟨rfl, rfl⟩⟩
    · rename_i hne
      obtain ⟨inserted, hlatest⟩ := h.latest other entry (hroom.lookup hentry)
      exact ⟨inserted, (latestInsert_succ_iff (hother other hne)).mpr hlatest⟩
  · intro other inserted entry hlatest
    rw [hlookup]
    split
    · rename_i heq
      subst heq
      rw [latestInsert_of_insert hcall] at hlatest
      rw [hlatest.2]
      exact Or.inl rfl
    · rename_i hne
      rw [latestInsert_succ_iff (hother other hne)] at hlatest
      obtain hentry | hold | hcrowded := h.missing other inserted entry hlatest
      · obtain hkept | hold | hfull := hroom.kept_or_lost h.bounded hentry
        · exact Or.inl hkept
        · exact Or.inr (Or.inl ⟨index, _, Nat.lt_succ_self index, hcall, hold⟩)
        · exact Or.inr (Or.inr ⟨index, hlatest.1, Nat.lt_succ_self index, hentry, hfull⟩)
      · exact Or.inr (Or.inl hold.succ)
      · exact Or.inr (Or.inr hcrowded.succ)

theorem AccountedFor.step {call : CacheCall} (h : AccountedFor calls caches index)
    (hcall : calls[index]? = some call) (hstep : (caches index).Step call (caches (index + 1))) :
    AccountedFor calls caches (index + 1) := by
  cases call with
  | insert key response peerId now =>
      obtain ⟨room, hroom, hnext⟩ := hstep
      exact h.insert hcall hroom hnext
  | get key now =>
      have hnext : caches (index + 1) = caches index := hstep
      apply h.shrink _ _ _ hcall _
      · simp [hcall]
      · rw [hnext]
      · intro key entry hentry
        rw [← hnext]
        exact hentry
      · intro key entry hentry
        rw [hnext]
        exact Or.inl hentry
  | cleanup now =>
      have hnext : caches (index + 1) = (caches index).cleanup now := hstep
      apply h.shrink _ _ _ hcall _
      · simp [hcall]
      · rw [hnext]
        exact HandshakeCache.size_cleanup_le _ _
      · intro key entry hentry
        rw [hnext] at hentry
        exact HandshakeCache.lookup_cleanup hentry
      · intro key entry hentry
        rw [hnext]
        cases halive : HandshakeCache.alive now entry with
        | true => exact Or.inl (AssocMap.lookup_retain.mpr ⟨hentry, halive⟩)
        | false => exact Or.inr halive

theorem CacheRun.accountedFor (run : CacheRun calls) :
    ∀ index, index ≤ calls.length → AccountedFor calls run.caches index := by
  intro index
  induction index with
  | zero =>
      intro _
      refine ⟨?_, ?_, ?_⟩
      · rw [run.start]
        exact Nat.zero_le _
      · intro key entry hentry
        rw [run.start] at hentry
        contradiction
      · intro key inserted entry hlatest
        exact absurd hlatest.1 (Nat.not_lt_zero _)
  | succ index ih =>
      intro hindex
      have hcall : calls[index]? = some calls[index] := List.getElem?_eq_getElem hindex
      exact (ih (Nat.le_of_lt hindex)).step hcall (run.step index _ hcall)

/-- The cache holds at most 256 entries.  What `get` returns is the latest answer
under the key, less than a minute old; and a latest answer of less than a minute that
it does not return was last seen in a full cache without an older entry. -/
theorem CacheRun.retention (run : CacheRun calls) :
    (∀ index ≤ calls.length, (run.caches index).entries.size ≤ 256) ∧
      ∀ index key now, calls[index]? = some (.get key now) →
        (∀ entry, (run.caches index).get key now = some entry →
          (∃ inserted, LatestInsert calls index key inserted entry) ∧
            now.durationSince entry.createdAt < Duration.fromSecs 60) ∧
        ∀ inserted entry, LatestInsert calls index key inserted entry →
          now.durationSince entry.createdAt < Duration.fromSecs 60 →
          (run.caches index).get key now = none →
          ∃ moment, inserted < moment ∧ moment < index ∧
            (run.caches moment).entries.lookup key = some entry ∧
            (run.caches moment).FullSince entry.createdAt := by
  refine ⟨fun index hindex => (run.accountedFor index hindex).bounded, ?_⟩
  intro index key now hcall
  obtain ⟨hindex, hget⟩ := List.getElem?_eq_some_iff.mp hcall
  have h := run.accountedFor index (Nat.le_of_lt hindex)
  refine ⟨?_, ?_⟩
  · intro entry hentry
    obtain ⟨hlookup, halive⟩ := Option.filter_eq_some_iff.mp hentry
    exact ⟨h.latest key entry hlookup, of_decide_eq_true halive⟩
  · intro inserted entry hlatest hyoung hnone
    have halive : HandshakeCache.alive now entry = true := decide_eq_true hyoung
    obtain hlookup | ⟨earlier, call, hearlier, hcall', hold⟩ | hcrowded :=
      h.missing key inserted entry hlatest
    · have hfound : (run.caches index).get key now = some entry :=
        Option.filter_eq_some_iff.mpr ⟨hlookup, halive⟩
      rw [hfound] at hnone
      contradiction
    · -- what was too old for an earlier call is too old for this one
      have hle : call.now ≤ now := by
        obtain ⟨hbound, hcall'⟩ := List.getElem?_eq_some_iff.mp hcall'
        have hclock := List.pairwise_iff_getElem.mp run.clock earlier index hbound hindex hearlier
        rw [hcall', hget] at hclock
        exact hclock
      have hage : call.now - entry.createdAt ≤ now - entry.createdAt := Nat.sub_le_sub_right hle _
      have halive' : HandshakeCache.alive call.now entry = true :=
        decide_eq_true (Nat.lt_of_le_of_lt hage hyoung)
      rw [halive'] at hold
      contradiction
    · exact hcrowded

end Retention

end Liteway.Daemon
