import Liteway.Core.Handshake
import Liteway.Library.AssocMap
import Liteway.Library.Buffers
import Liteway.Library.Runs

/-!
# Fragmented handshake messages

A handshake message is larger than a datagram.  The sender seals each chunk with
its index and the number of chunks; the receiver collects the chunks of a
`(source, message id)` pair under slot and byte limits.
-/

namespace Liteway.Core

open Liteway.Library

def defaultMaxDatagram : Nat := 1200
def minDatagram : Nat := packetOverhead + 1

theorem minDatagram_le_default : minDatagram ≤ defaultMaxDatagram := by decide

def cleanupAgeSecs : Nat := 30
def maxPendingMessages : Nat := 1024
def maxPendingMessagesPerSource : Nat := 32
def maxBufferedBytes : Nat := 4 * 1024 * 1024
def maxBufferedBytesPerSource : Nat := 512 * 1024
def maxFragmentedMessageBytes : Nat := 512 * 1024

/-! ## Sending -/

inductive SendError where
  | datagramTooSmall
  | tooManyChunks
deriving DecidableEq

def SendError.message : SendError → String
  | .datagramTooSmall => "fragment datagram limit is too small"
  | .tooManyChunks => "fragmented message exceeds 255 chunks"

section Send

variable (lib : Primitives)

/-- One fragment as it leaves the socket. -/
def sealFragment (coins : SealCoins) (networkKey : NetworkKey) (dstPeerId msgId : UInt32)
    (index total : UInt8) (chunk : ByteString) : ByteString :=
  let plain := kindHandshakeFrag :: ((u32BE msgId).toList ++ (index :: total :: chunk))
  sealHandshakeToPeer lib coins networkKey plain dstPeerId

/-- The datagrams handed to the socket, in order.  `coins i` are the random
choices of the `i`-th fragment. -/
def sendFragmentedWithId (coins : Nat → SealCoins) (data : ByteString) (networkKey : NetworkKey)
    (maxDatagram : Nat) (dstPeerId msgId : UInt32) : Except SendError (List ByteString) :=
  if maxDatagram < minDatagram then .error .datagramTooSmall
  else
    let chunkSize := maxDatagram - packetOverhead
    let total := max (divCeil data.length chunkSize) 1
    if total > 255 then .error .tooManyChunks
    else if data.isEmpty then .ok [sealFragment lib (coins 0) networkKey dstPeerId msgId 0 1 []]
    else
      .ok ((chunks chunkSize data).mapIdx fun i chunk =>
        sealFragment lib (coins i) networkKey dstPeerId msgId (UInt8.ofNat i) (UInt8.ofNat total)
          chunk)

/-- `send_fragmented_to_peer` draws the message id at random. -/
def sendFragmentedToPeer (coins : Nat → SealCoins) (data : ByteString) (networkKey : NetworkKey)
    (maxDatagram : Nat) (dstPeerId randomId : UInt32) : Except SendError (List ByteString) :=
  sendFragmentedWithId lib coins data networkKey maxDatagram dstPeerId randomId

def sendFragmented (coins : Nat → SealCoins) (data : ByteString) (networkKey : NetworkKey)
    (maxDatagram : Nat) (randomId : UInt32) : Except SendError (List ByteString) :=
  sendFragmentedToPeer lib coins data networkKey maxDatagram 0 randomId

end Send

/-! ## Reassembly -/

inductive FeedResult where
  | complete (assembled : ByteString)
  | buffered
  | notFragment
deriving DecidableEq

structure PendingMessage where
  chunks : Slots UInt8
  started : Instant
  bytes : Nat
deriving DecidableEq

abbrev FragmentKey := SocketAddr × UInt32

structure FragmentAssembler where
  pending : AssocMap FragmentKey PendingMessage
  bufferedBytes : Nat

/-- The fields of one opened fragment. -/
structure Fragment where
  msgId : UInt32
  index : Nat
  total : Nat
  chunk : ByteString
deriving DecidableEq

namespace FragmentAssembler

def new : FragmentAssembler := { pending := ∅, bufferedBytes := 0 }

/-- The pending messages of a source and the bytes they hold. -/
def sourceUsage (asm : FragmentAssembler) (src : SocketAddr) : Nat × Nat :=
  let entries := asm.pending.entries.filter fun entry => entry.1.1 = src
  (entries.length, saturatingSum (entries.map fun entry => entry.2.bytes))

def removePending (asm : FragmentAssembler) (key : FragmentKey) : FragmentAssembler :=
  match asm.pending.lookup key with
  | none => asm
  | some msg =>
      { pending := asm.pending.erase key
        bufferedBytes := saturatingSub asm.bufferedBytes msg.bytes }

/-- Make room for a new message, or refuse it when a slot limit is reached. -/
def reserve (asm : FragmentAssembler) (now : Instant) (key : FragmentKey) (total : Nat) :
    Option FragmentAssembler :=
  if (asm.pending.lookup key).isSome then some asm
  else if asm.pending.size ≥ maxPendingMessages ∨
      (asm.sourceUsage key.1).1 ≥ maxPendingMessagesPerSource then none
  else
    some { asm with
      pending := asm.pending.insert key
        { chunks := List.replicate total none, started := now, bytes := 0 } }

/-- The counters after `chunk` takes the place of `oldLen` bytes. -/
def updateBytes (counter oldLen : Nat) (chunk : ByteString) : Nat :=
  if oldLen > chunk.length then saturatingSub counter (oldLen - chunk.length)
  else saturatingAdd counter (saturatingSub chunk.length oldLen)

/-- Put a chunk into its slot and hand over the message when it was the last. -/
def store (asm : FragmentAssembler) (key : FragmentKey) (entry : PendingMessage) (index : Nat)
    (chunk : ByteString) : FeedResult × FragmentAssembler :=
  let oldLen := slotLength entry.chunks index
  let bufferedBytes := updateBytes asm.bufferedBytes oldLen chunk
  let entry :=
    { entry with
      bytes := updateBytes entry.bytes oldLen chunk
      chunks := entry.chunks.set index (some chunk) }
  if entry.chunks.all Option.isSome then
    (.complete (assemble entry.chunks),
      { pending := asm.pending.erase key
        bufferedBytes := saturatingSub bufferedBytes entry.bytes })
  else
    (.buffered, { pending := asm.pending.insert key entry, bufferedBytes := bufferedBytes })

/-- The byte limits, checked against the message the chunk belongs to. -/
def accept (asm : FragmentAssembler) (key : FragmentKey) (fragment : Fragment) :
    FeedResult × FragmentAssembler :=
  match asm.pending.lookup key with
  | none => (.buffered, asm)
  | some entry =>
      if entry.chunks.length ≠ fragment.total then (.buffered, asm.removePending key)
      else
        let delta := saturatingSub fragment.chunk.length (slotLength entry.chunks fragment.index)
        if saturatingAdd entry.bytes delta > maxFragmentedMessageBytes then
          (.buffered, asm.removePending key)
        else if saturatingAdd asm.bufferedBytes delta > maxBufferedBytes ∨
            saturatingAdd (asm.sourceUsage key.1).2 delta > maxBufferedBytesPerSource then
          (.buffered, asm)
        else asm.store key entry fragment.index fragment.chunk

/-- What `feed` does with a fragment once it is opened. -/
def feedFragment (asm : FragmentAssembler) (now : Instant) (src : SocketAddr)
    (fragment : Fragment) : FeedResult × FragmentAssembler :=
  if fragment.index ≥ fragment.total ∨ fragment.total = 0 then (.buffered, asm)
  else if fragment.chunk.length > maxFragmentedMessageBytes then (.buffered, asm)
  else
    match asm.reserve now (src, fragment.msgId) fragment.total with
    | none => (.buffered, asm)
    | some asm => asm.accept (src, fragment.msgId) fragment

def openFragment (lib : Primitives) (networkKey : NetworkKey) (data : ByteString) :
    Option Fragment :=
  match openHandshake lib networkKey data with
  | none => none
  | some plain =>
      if plain.isEmpty ∨ plain[0]? ≠ some kindHandshakeFrag then none
      else if h : plain.length < 7 then none
      else
        some {
          msgId := decodeU32BE (Bytes.slice plain 1 4 (by omega))
          index := plain[5].toNat
          total := plain[6].toNat
          chunk := plain.drop 7 }

def feed (lib : Primitives) (asm : FragmentAssembler) (now : Instant) (src : SocketAddr)
    (data : ByteString) (networkKey : NetworkKey) : FeedResult × FragmentAssembler :=
  match openFragment lib networkKey data with
  | none => (.notFragment, asm)
  | some fragment => asm.feedFragment now src fragment

/-- Whether a message is young enough to stay. -/
def keep (now : Instant) (msg : PendingMessage) : Bool :=
  (Instant.durationSince now msg.started).asSecs < cleanupAgeSecs

def removedBytes (asm : FragmentAssembler) (now : Instant) : Nat :=
  saturatingSum ((asm.pending.entries.filter fun entry => !keep now entry.2).map
    fun entry => entry.2.bytes)

def cleanup (asm : FragmentAssembler) (now : Instant) : FragmentAssembler :=
  { pending := AssocMap.retain (fun _ msg => keep now msg) asm.pending
    bufferedBytes := saturatingSub asm.bufferedBytes (asm.removedBytes now) }

end FragmentAssembler

/-! ## Calls on one assembler -/

inductive FragmentCall where
  | feed (now : Instant) (src : SocketAddr) (data : ByteString) (networkKey : NetworkKey)
  | cleanup (now : Instant)

namespace FragmentAssembler

def call (lib : Primitives) (asm : FragmentAssembler) : FragmentCall → FragmentAssembler
  | .feed now src data networkKey => (asm.feed lib now src data networkKey).2
  | .cleanup now => asm.cleanup now

/-- The state after any sequence of calls. -/
def calls (lib : Primitives) : FragmentAssembler → List FragmentCall → FragmentAssembler :=
  runAll (call lib)

end FragmentAssembler

end Liteway.Core
