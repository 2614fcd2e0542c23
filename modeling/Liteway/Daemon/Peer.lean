import Liteway.Core.Handshake
import Liteway.Daemon.ReplayWindow
import Liteway.Library.AssocMap

/-!
# Peer and handshake bookkeeping

State and the timing decisions taken on it, without the sockets: what a session
remembers, what a tick asks for, when a handshake is repeated or given up, and
which of two handshakes is kept.
-/

namespace Liteway.Daemon

open Liteway.Library Liteway.Core

def millis (n : Nat) : Duration := n * 1000000

def handshakeRetryBase : Duration := millis 500
def handshakeRetryMax : Duration := Duration.fromSecs 3
def handshakeMaxAttempts : Nat := 10
def peerExpiry : Duration := Duration.fromSecs 300
def handshakeCacheTtl : Duration := Duration.fromSecs 60
def handshakeCacheMaxEntries : Nat := 256
def directProbeMaxInterval : Duration := Duration.fromSecs 30
def keepaliveRetryMax : Duration := Duration.fromSecs 2

structure Timings where
  keepaliveInterval : Duration
  keepaliveTimeout : Duration
  directProbeInterval : Duration
  handshakeTimeout : Duration
  relayFallback : Duration
  peerExpiry : Duration
deriving DecidableEq

def Timings.fromSecs (keepaliveInterval keepaliveTimeout directProbeInterval handshakeTimeout
    relayFallback : Nat) : Timings where
  keepaliveInterval := Duration.fromSecs keepaliveInterval
  keepaliveTimeout := Duration.fromSecs keepaliveTimeout
  directProbeInterval := Duration.fromSecs directProbeInterval
  handshakeTimeout := Duration.fromSecs handshakeTimeout
  relayFallback := Duration.fromSecs relayFallback
  peerExpiry := Daemon.peerExpiry

/-! ## A session with a peer -/

structure KeepalivePending where
  token : UInt64
  firstSentAt : Instant
  lastSentAt : Instant
deriving DecidableEq

inductive DropReason where
  | keepaliveTimeout
  | expired
deriving DecidableEq

inductive PeerTick where
  | idle
  | keepalive (token : UInt64)
  | drop (reason : DropReason)
deriving DecidableEq

inductive KeepaliveAck where
  | keepalive
  | probe
  | unknown
deriving DecidableEq

inductive PathProbe where
  | none
  | punch (direct : SocketAddr) (token : UInt64)
  | lookup
deriving DecidableEq

structure PeerState where
  name : String
  cert : Cert
  txKey : SessionKey
  rxKey : SessionKey
  addr : SocketAddr
  directAddr : Option SocketAddr
  isRelay : Bool
  txSessionId : UInt32
  rxSessionId : UInt32
  txSeq : UInt64
  rxReplay : ReplayWindow
  lastSeen : Instant
  lastAck : Instant
  routes : List IpNetwork
  handshakeInitiatorId : UInt32
  keepalive : Option KeepalivePending
  relayed : Bool
  nextProbe : Option Instant
  probeInterval : Duration
  probeToken : Option UInt64

namespace PeerState

def nextSeq (peer : PeerState) : UInt64 × PeerState :=
  (peer.txSeq + 1, { peer with txSeq := peer.txSeq + 1 })

/-- The address that was left behind, when the peer moved. -/
def markSeen (peer : PeerState) (src : SocketAddr) (now : Instant) (srcIsRelay isKeepalive : Bool) :
    Option SocketAddr × PeerState :=
  let peer := { peer with lastSeen := now }
  let adopt :=
    let old := peer.addr
    let peer := { peer with addr := src }
    if srcIsRelay then (some old, peer)
    else
      (some old, { peer with
        directAddr := some src
        relayed := false
        nextProbe := none
        probeToken := none })
  if peer.addr = src then (none, peer)
  else if srcIsRelay then
    if !peer.relayed then (none, peer) else adopt
  else if peer.relayed && isKeepalive then
    if peer.directAddr ≠ some src then
      (none, { peer with directAddr := some src, nextProbe := none })
    else (none, peer)
  else adopt

def ackKeepalive (peer : PeerState) (token : UInt64) (now : Instant) : KeepaliveAck × PeerState :=
  if peer.keepalive.any fun pending => pending.token == token then
    (.keepalive, { peer with keepalive := none, lastAck := now })
  else if peer.probeToken = some token then
    (.probe, { peer with probeToken := none, lastAck := now })
  else (.unknown, peer)

def tick (peer : PeerState) (now : Instant) (timings : Timings) (token : UInt64) :
    PeerTick × PeerState :=
  match peer.keepalive with
  | some pending =>
      if now.durationSince pending.firstSentAt ≥ timings.keepaliveTimeout then
        (.drop .keepaliveTimeout, peer)
      else if now.durationSince pending.lastSentAt ≥
          min timings.keepaliveInterval keepaliveRetryMax then
        (.keepalive pending.token,
          { peer with keepalive := some { pending with lastSentAt := now } })
      else (.idle, peer)
  | none =>
      if now.durationSince peer.lastSeen ≥ timings.peerExpiry then (.drop .expired, peer)
      else if now.durationSince peer.lastAck ≥ timings.keepaliveInterval then
        (.keepalive token, { peer with
          keepalive := some { token := token, firstSentAt := now, lastSentAt := now } })
      else (.idle, peer)

def takePathProbe (peer : PeerState) (now : Instant) (timings : Timings) (token : UInt64) :
    PathProbe × PeerState :=
  if !peer.relayed then (.none, peer)
  else if peer.directAddr = some peer.addr then (.none, peer)
  else if peer.nextProbe.any fun next => now < next then (.none, peer)
  else
    let interval :=
      match peer.nextProbe with
      | none => timings.directProbeInterval
      | some _ => min (peer.probeInterval * 2) directProbeMaxInterval
    -- the clock has no end here, `Machine.takePathProbe` is for one that has
    let peer := { peer with probeInterval := interval, nextProbe := some (now + interval) }
    match peer.directAddr with
    | some direct => (.punch direct token, { peer with probeToken := some token })
    | none => (.lookup, peer)

end PeerState

/-! ## An outgoing handshake -/

structure PendingHandshake where
  initiate : HandshakeInitiate
  directAddr : SocketAddr
  relayAddr : Option SocketAddr
  peerId : Option UInt32
  peerName : String
  createdAt : Instant
  nextAttempt : Instant
  attempts : Nat
deriving DecidableEq

def retryDelay (attempts : Nat) : Duration :=
  let exponent := min (attempts - 1) 8
  min (handshakeRetryBase * 2 ^ min exponent 3) handshakeRetryMax

namespace PendingHandshake

def new (initiate : HandshakeInitiate) (directAddr : SocketAddr) (peerId : Option UInt32)
    (peerName : String) (now : Instant) : PendingHandshake where
  initiate := initiate
  directAddr := directAddr
  relayAddr := none
  peerId := peerId
  peerName := peerName
  createdAt := now
  nextAttempt := now + retryDelay 1
  attempts := 1

def expired (pending : PendingHandshake) (now : Instant) (timings : Timings) : Bool :=
  now.durationSince pending.createdAt ≥ timings.handshakeTimeout

def retransmitDue (pending : PendingHandshake) (now : Instant) (timings : Timings) : Bool :=
  !pending.expired now timings && pending.attempts < handshakeMaxAttempts &&
    now ≥ pending.nextAttempt

def recordAttempt (pending : PendingHandshake) (now : Instant) : PendingHandshake :=
  { pending with
    attempts := pending.attempts + 1
    nextAttempt := now + retryDelay (pending.attempts + 1) }

def relayFallbackDue (pending : PendingHandshake) (now : Instant) (timings : Timings) : Bool :=
  pending.relayAddr.isNone && pending.peerId.isSome &&
    now.durationSince pending.createdAt ≥ timings.relayFallback

def targets (pending : PendingHandshake) : List SocketAddr :=
  match pending.relayAddr with
  | none => [pending.directAddr]
  | some relay => if relay ≠ pending.directAddr then [pending.directAddr, relay]
      else [pending.directAddr]

end PendingHandshake

/-! ## Answers already given -/

structure CachedHandshake where
  response : ByteString
  peerId : UInt32
  createdAt : Instant
deriving DecidableEq

structure HandshakeCache where
  entries : AssocMap (Bytes 32) CachedHandshake

namespace HandshakeCache

def new : HandshakeCache := ⟨∅⟩

def alive (now : Instant) (entry : CachedHandshake) : Bool :=
  now.durationSince entry.createdAt < handshakeCacheTtl

def get (cache : HandshakeCache) (key : Bytes 32) (now : Instant) : Option CachedHandshake :=
  (cache.entries.lookup key).filter (alive now)

def cleanup (cache : HandshakeCache) (now : Instant) : HandshakeCache :=
  ⟨AssocMap.retain (fun _ entry => alive now entry) cache.entries⟩

/-- The entry with the least creation time, the first of several. -/
def oldest (cache : HandshakeCache) : Option (Bytes 32) :=
  let older (best : Option (Sigma fun _ : Bytes 32 => CachedHandshake))
      (entry : Sigma fun _ : Bytes 32 => CachedHandshake) :=
    match best with
    | none => some entry
    | some found => if entry.2.createdAt < found.2.createdAt then some entry else some found
  (cache.entries.entries.foldl older none).map Sigma.fst

def makeRoom (cache : HandshakeCache) (now : Instant) : HandshakeCache :=
  let cache :=
    if cache.entries.size ≥ handshakeCacheMaxEntries then cache.cleanup now else cache
  if cache.entries.size ≥ handshakeCacheMaxEntries then
    match cache.oldest with
    | none => cache
    | some key => ⟨cache.entries.erase key⟩
  else cache

def insert (cache : HandshakeCache) (key : Bytes 32) (response : ByteString) (peerId : UInt32)
    (now : Instant) : HandshakeCache :=
  ⟨(cache.makeRoom now).entries.insert key
    { response := response, peerId := peerId, createdAt := now }⟩

theorem lookup_cleanup {cache : HandshakeCache} {now : Instant} {key : Bytes 32}
    {entry : CachedHandshake} (h : (cache.cleanup now).entries.lookup key = some entry) :
    cache.entries.lookup key = some entry := (AssocMap.lookup_retain.mp h).1

theorem lookup_makeRoom {cache : HandshakeCache} {now : Instant} {key : Bytes 32}
    {entry : CachedHandshake} (h : (cache.makeRoom now).entries.lookup key = some entry) :
    cache.entries.lookup key = some entry := by
  have hcleaned : ∀ found, (if cache.entries.size ≥ handshakeCacheMaxEntries then
      cache.cleanup now else cache).entries.lookup key = some found →
      cache.entries.lookup key = some found := by
    intro found hfound
    split at hfound
    · exact lookup_cleanup hfound
    · exact hfound
  unfold makeRoom at h
  simp only at h
  generalize (if cache.entries.size ≥ handshakeCacheMaxEntries then cache.cleanup now
    else cache) = cleaned at h hcleaned
  split at h
  · split at h
    · exact hcleaned entry h
    · rw [AssocMap.lookup_erase_eq] at h
      split at h
      · contradiction
      · exact hcleaned entry h
  · exact hcleaned entry h

theorem get_insert_self (cache : HandshakeCache) (key : Bytes 32) (response : ByteString)
    (peerId : UInt32) (created now : Instant) :
    (cache.insert key response peerId created).get key now =
      if now.durationSince created < handshakeCacheTtl then
        some { response := response, peerId := peerId, createdAt := created }
      else none := by
  unfold get insert
  rw [AList.lookup_insert]
  simp only [Option.filter, alive, decide_eq_true_eq]

theorem get_insert_of_ne {cache : HandshakeCache} {key other : Bytes 32} (response : ByteString)
    (peerId : UInt32) (created now : Instant) (hne : other ≠ key) (h : cache.get other now = none) :
    (cache.insert key response peerId created).get other now = none := by
  unfold get insert
  rw [AssocMap.lookup_insert_eq, if_neg hne]
  cases hfound : (cache.makeRoom created).entries.lookup other with
  | none => rfl
  | some entry =>
      unfold get at h
      rw [lookup_makeRoom hfound] at h
      exact h

end HandshakeCache

/-! ## Lighthouses and the tie-break -/

structure LighthouseSlot where
  name : String
  configured : String
  address : SocketAddr
  peerId : Option UInt32
  resolvedAt : Instant
deriving DecidableEq

def acceptHandshakeSession (ourId peerId : UInt32) (existingInitiatorId : Option UInt32)
    (initiatorId : UInt32) (simultaneous : Bool) : Bool :=
  if !simultaneous then true
  else
    match existingInitiatorId with
    | none => true
    | some existing =>
        let preferredInitiator := min ourId peerId
        if initiatorId ≠ preferredInitiator then false
        else existing ≠ preferredInitiator

end Liteway.Daemon
