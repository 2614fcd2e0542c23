import Liteway.Core.FragReassembly
import Liteway.Daemon.SessionRoundTrip
import Liteway.Daemon.SimultaneousOpen
import Liteway.Daemon.Tables

/-!
# Messages that cross the network in pieces

A message of several datagrams reaches the handlers of the other node as a whole,
however its pieces are lost, repeated and mixed with other traffic, provided that the
assembler has room for them, that no sweep finds the message too old and that nothing
else comes in under its source and id.  A handshake of which both messages are cut up
then ends as one that fits a datagram does.
-/

namespace Liteway.Daemon

open Liteway.Library Liteway.Core

/-! ## Pieces among other traffic -/

section Traffic

variable {lib : Primitives} {node : Node lib} {msg : FragmentedMessage}

/-- A datagram of some attempt to send the message to this node, or to whoever gets
it. -/
structure Piece (node : Node lib) (msg : FragmentedMessage) where
  env : Env
  index : Nat
  datagram : ByteString
  sent : ∃ coins dstPeerId datagrams, (dstPeerId = 0 ∨ dstPeerId = node.ourId) ∧
    sendFragmentedWithId lib coins msg.data msg.networkKey msg.maxDatagram dstPeerId msg.msgId =
      .ok datagrams ∧ datagrams[index]? = some datagram

namespace Piece

def event (piece : Piece node msg) : Event := .datagram piece.env msg.src piece.datagram

def arrival (piece : Piece node msg) : FragmentedMessage.Arrival lib msg where
  now := piece.env.now
  index := piece.index
  datagram := piece.datagram
  sent := by
    obtain ⟨coins, dstPeerId, datagrams, -, hsent⟩ := piece.sent
    exact ⟨coins, dstPeerId, datagrams, hsent⟩

theorem relayTarget_eq (hlib : lib.Correct) (hnetwork : msg.networkKey = node.networkKey)
    (piece : Piece node msg) : relayTarget node piece.datagram = none := by
  obtain ⟨coins, dstPeerId, datagrams, hdst, hsend, hget⟩ := piece.sent
  rw [FragmentedMessage.sendFragmentedWithId_eq] at hsend
  cases Except.ok.inj hsend
  obtain ⟨index, -, hdatagram⟩ := List.mem_map.mp (List.mem_of_getElem? hget)
  have hheader := networkHeader_sealFragment hlib.aead (coins index) msg.networkKey dstPeerId
    msg.msgId (UInt8.ofNat index) (UInt8.ofNat msg.total) (msg.chunkAt index)
  change networkHeader lib (msg.datagram lib coins dstPeerId index) msg.networkKey = _ at hheader
  rw [hdatagram, hnetwork] at hheader
  exact relayTarget_of_header hheader hdst

end Piece

/-- What happens at a node while it waits for the message. -/
inductive Traffic (node : Node lib) (msg : FragmentedMessage) where
  | piece (piece : Piece node msg)
  | other (event : Event)

namespace Traffic

def event : Traffic node msg → Event
  | .piece part => part.event
  | .other call => call

def fragments : Traffic node msg → List (FragmentedMessage.Event lib msg)
  | .piece part => [.arrival part.arrival]
  | .other call => (fed node call).map .other

def step (node : Node lib) (msg : FragmentedMessage) (st : NodeState) (traffic : Traffic node msg) :
    NodeState :=
  (Daemon.step node st traffic.event).1

/-- The assembler refuses no piece, and nothing else touches the message. -/
def Quiet (node : Node lib) (msg : FragmentedMessage) (st : NodeState)
    (traffic : Traffic node msg) : Prop :=
  Guarded (msg.step lib) (msg.Undisturbed lib) st.assembler traffic.fragments

def arrived (traffic : List (Traffic node msg)) : List Nat :=
  FragmentedMessage.arrivedIndices (traffic.flatMap fragments)

theorem runAll_other (calls : List FragmentCall) (asm : FragmentAssembler) :
    runAll (msg.step lib) asm (calls.map .other) = asm.calls lib calls := by
  induction calls generalizing asm with
  | nil => rfl
  | cons call calls ih => exact ih (asm.call lib call)

theorem assembler_eq (hlib : lib.Correct) (hnetwork : msg.networkKey = node.networkKey)
    (st : NodeState) (traffic : Traffic node msg) :
    (step node msg st traffic).assembler =
      runAll (msg.step lib) st.assembler traffic.fragments := by
  unfold step
  rw [assembler_step]
  cases traffic with
  | other call => exact (runAll_other (fed node call) st.assembler).symm
  | piece part =>
      have hfed : fed node part.event =
          [.feed part.env.now msg.src part.datagram msg.networkKey] := by
        have htarget := part.relayTarget_eq hlib hnetwork
        unfold Piece.event fed
        simp only [htarget, hnetwork, Option.isSome_none, Bool.false_eq_true, ↓reduceIte]
      simp only [event, hfed]
      rfl

theorem assembler_run (hlib : lib.Correct) (hnetwork : msg.networkKey = node.networkKey)
    {st : NodeState} {traffic : List (Traffic node msg)}
    (hquiet : Guarded (step node msg) (Quiet node msg) st traffic) :
    (runAll (step node msg) st traffic).assembler =
        runAll (msg.step lib) st.assembler (traffic.flatMap fragments) ∧
      Guarded (msg.step lib) (msg.Undisturbed lib) st.assembler (traffic.flatMap fragments) := by
  induction traffic generalizing st with
  | nil => exact ⟨rfl, trivial⟩
  | cons first rest ih =>
      obtain ⟨hassembler, hguarded⟩ := ih hquiet.2
      rw [assembler_eq hlib hnetwork] at hassembler hguarded
      rw [List.flatMap_cons, runAll_cons, runAll_append, guarded_append]
      exact ⟨hassembler, hquiet.1, hguarded⟩

end Traffic

/-- The message has not come in yet, and the last piece completes it. -/
structure Arrives (node : Node lib) (msg : FragmentedMessage) (st : NodeState)
    (traffic : List (Traffic node msg)) (last : Piece node msg) : Prop where
  network : msg.networkKey = node.networkKey
  nothing : st.assembler.pending.lookup msg.key = none
  quiet : Guarded (Traffic.step node msg) (Traffic.Quiet node msg) st traffic
  missing : ¬ msg.AllArrived (Traffic.arrived traffic)
  room : FragmentedMessage.Admits (runAll (Traffic.step node msg) st traffic).assembler msg.key
    (msg.fragmentAt last.index)
  complete : msg.AllArrived (Traffic.arrived traffic ++ [last.index])

theorem deliver_after (hlib : lib.Correct) (hnetwork : msg.networkKey = node.networkKey)
    {st : NodeState} (hnothing : st.assembler.pending.lookup msg.key = none)
    {traffic : List (Traffic node msg)}
    (hquiet : Guarded (Traffic.step node msg) (Traffic.Quiet node msg) st traffic)
    (hmissing : ¬ msg.AllArrived (Traffic.arrived traffic)) (piece : Piece node msg)
    (hroom : FragmentedMessage.Admits (runAll (Traffic.step node msg) st traffic).assembler msg.key
      (msg.fragmentAt piece.index)) :
    if msg.AllArrived (Traffic.arrived traffic ++ [piece.index]) then
      (msg.deliver lib (runAll (Traffic.step node msg) st traffic).assembler piece.arrival).1 =
        .complete msg.data
    else
      (msg.deliver lib (runAll (Traffic.step node msg) st traffic).assembler piece.arrival).1 =
        .buffered := by
  have hstart : msg.Progress st.assembler [] := by
    unfold FragmentedMessage.Progress
    rw [hnothing]
  obtain ⟨hassembler, hguarded⟩ := Traffic.assembler_run hlib hnetwork hquiet
  have hprogress := FragmentedMessage.progress_run hlib hstart hguarded hmissing
  rw [← hassembler] at hprogress
  have hspec := FragmentedMessage.deliver_spec hlib hprogress piece.arrival hroom
  rw [List.nil_append] at hspec
  by_cases hall : msg.AllArrived (Traffic.arrived traffic ++ [piece.index])
  · rw [if_pos hall]
    exact ((if_pos hall).mp hspec).1
  · rw [if_neg hall]
    exact ((if_neg hall).mp hspec).1

theorem Piece.deliver_eq (hnetwork : msg.networkKey = node.networkKey) (piece : Piece node msg)
    (asm : FragmentAssembler) :
    asm.feed lib piece.env.now msg.src piece.datagram node.networkKey =
      msg.deliver lib asm piece.arrival := by
  rw [← hnetwork]
  rfl

theorem step_of_buffered (hlib : lib.Correct) (hnetwork : msg.networkKey = node.networkKey)
    {st : NodeState} {piece : Piece node msg}
    (hkept : (msg.deliver lib st.assembler piece.arrival).1 = .buffered) :
    step node st piece.event =
      ({ st with assembler := (msg.deliver lib st.assembler piece.arrival).2 }, []) := by
  have htarget := piece.relayTarget_eq hlib hnetwork
  change handleDatagram node piece.env st msg.src piece.datagram = _
  unfold handleDatagram
  simp only [htarget, piece.deliver_eq hnetwork, hkept]

theorem step_of_complete (hlib : lib.Correct) (hnetwork : msg.networkKey = node.networkKey)
    {st : NodeState} {piece : Piece node msg} {message : ByteString}
    (hwhole : (msg.deliver lib st.assembler piece.arrival).1 = .complete message) :
    ∃ assembler, step node st piece.event =
      handlePacket node piece.env { st with assembler := assembler } msg.src message := by
  have htarget := piece.relayTarget_eq hlib hnetwork
  refine ⟨(msg.deliver lib st.assembler piece.arrival).2, ?_⟩
  change handleDatagram node piece.env st msg.src piece.datagram = _
  unfold handleDatagram
  simp only [htarget, piece.deliver_eq hnetwork, hwhole]

/-- The handlers see the message when its last piece comes in, in the state of that
moment. -/
theorem Arrives.handled (hlib : lib.Correct) {st : NodeState} {traffic : List (Traffic node msg)}
    {last : Piece node msg} (h : Arrives node msg st traffic last) :
    ∃ assembler, step node (runAll (Traffic.step node msg) st traffic) last.event =
      handlePacket node last.env
        { runAll (Traffic.step node msg) st traffic with assembler := assembler } msg.src
        msg.data := by
  have hdeliver := deliver_after hlib h.network h.nothing h.quiet h.missing last h.room
  rw [if_pos h.complete] at hdeliver
  exact step_of_complete hlib h.network hdeliver

/-- While the assembler has room for the message and nothing else touches it: as long as an
index is missing a piece changes the assembler only; the one that supplies the last index
hands the message over, byte for byte. -/
theorem pieces_deliver_message (hlib : lib.Correct) (hnetwork : msg.networkKey = node.networkKey)
    {st : NodeState} (hnothing : st.assembler.pending.lookup msg.key = none)
    {traffic : List (Traffic node msg)}
    (hquiet : Guarded (Traffic.step node msg) (Traffic.Quiet node msg) st traffic)
    (hmissing : ¬ msg.AllArrived (Traffic.arrived traffic)) (piece : Piece node msg)
    (hroom : FragmentedMessage.Admits (runAll (Traffic.step node msg) st traffic).assembler msg.key
      (msg.fragmentAt piece.index)) :
    ∃ assembler, step node (runAll (Traffic.step node msg) st traffic) piece.event =
      if msg.AllArrived (Traffic.arrived traffic ++ [piece.index]) then
        handlePacket node piece.env
          { runAll (Traffic.step node msg) st traffic with assembler := assembler } msg.src msg.data
      else ({ runAll (Traffic.step node msg) st traffic with assembler := assembler }, []) := by
  have hdeliver := deliver_after hlib hnetwork hnothing hquiet hmissing piece hroom
  split at hdeliver
  · rename_i hall
    simp only [if_pos hall]
    exact step_of_complete hlib hnetwork hdeliver
  · rename_i hopen
    simp only [if_neg hopen]
    exact ⟨_, step_of_buffered hlib hnetwork hdeliver⟩

/-! ## Pieces alone -/

theorem Traffic.arrived_pieces (pieces : List (Piece node msg)) :
    Traffic.arrived (pieces.map .piece) = pieces.map Piece.index := by
  induction pieces with
  | nil => rfl
  | cons piece pieces ih => exact congrArg (piece.index :: ·) ih

theorem quiet_pieces (hlib : lib.Correct) (hnetwork : msg.networkKey = node.networkKey)
    {st : NodeState} {arrived : List Nat} (haccounted : st.assembler.Accounted)
    (halone : msg.Alone st.assembler) (hprogress : msg.Progress st.assembler arrived)
    {pieces : List (Piece node msg)}
    (hmissing : ¬ msg.AllArrived (arrived ++ pieces.map Piece.index)) :
    Guarded (Traffic.step node msg) (Traffic.Quiet node msg) st (pieces.map .piece) ∧
      ∃ assembler, runAll (Traffic.step node msg) st (pieces.map .piece) =
          { st with assembler := assembler } ∧
        ∀ index, index < msg.total →
          FragmentedMessage.Admits assembler msg.key (msg.fragmentAt index) := by
  induction pieces generalizing st arrived with
  | nil =>
      exact ⟨trivial, st.assembler, rfl, fun index hindex =>
        FragmentedMessage.admits_of_alone haccounted hprogress halone hindex⟩
  | cons piece pieces ih =>
      have hroom :=
        FragmentedMessage.admits_of_alone haccounted hprogress halone piece.arrival.index_lt
      have hshift : arrived ++ (piece :: pieces).map Piece.index =
          arrived ++ [piece.index] ++ pieces.map Piece.index := by simp
      rw [hshift] at hmissing
      have hopen : ¬ msg.AllArrived (arrived ++ [piece.index]) :=
        fun hall => hmissing fun i hi => List.mem_append_left _ (hall i hi)
      obtain ⟨hbuffered, hholds⟩ :=
        (if_neg hopen).mp (FragmentedMessage.deliver_spec hlib hprogress piece.arrival hroom)
      have hstep : Traffic.step node msg st (.piece piece) =
          { st with assembler := (msg.deliver lib st.assembler piece.arrival).2 } :=
        congrArg Prod.fst (step_of_buffered hlib hnetwork hbuffered)
      have hquiet : Traffic.Quiet node msg st (.piece piece) := ⟨hroom, trivial⟩
      obtain ⟨hguarded, assembler, hrun, hadmits⟩ := @ih
        { st with assembler := (msg.deliver lib st.assembler piece.arrival).2 }
        (arrived ++ [piece.index]) (FragmentAssembler.feed_accounted haccounted lib _ _ _ _)
        (FragmentedMessage.alone_deliver hlib halone piece.arrival) hholds.progress hmissing
      rw [← hstep] at hguarded hrun
      exact ⟨⟨hquiet, hguarded⟩, assembler, hrun.trans (by rw [hstep]), hadmits⟩

theorem arrives_alone (hlib : lib.Correct) (hnetwork : msg.networkKey = node.networkKey)
    {st : NodeState} (hempty : st.assembler = .new) {pieces : List (Piece node msg)}
    {last : Piece node msg} (hmissing : ¬ msg.AllArrived (pieces.map Piece.index))
    (hcomplete : msg.AllArrived (pieces.map Piece.index ++ [last.index])) :
    Arrives node msg st (pieces.map .piece) last ∧
      ∃ assembler, runAll (Traffic.step node msg) st (pieces.map .piece) =
        { st with assembler := assembler } := by
  have hnothing : st.assembler.pending.lookup msg.key = none := by
    rw [hempty]
    rfl
  have haccounted : st.assembler.Accounted := by
    rw [hempty]
    exact FragmentAssembler.new_accounted
  have halone : msg.Alone st.assembler := by
    rw [hempty]
    exact fun _ _ h => absurd h (by simp [FragmentAssembler.new])
  have hprogress : msg.Progress st.assembler [] := by
    unfold FragmentedMessage.Progress
    rw [hnothing]
  obtain ⟨hquiet, assembler, hrun, hadmits⟩ :=
    quiet_pieces hlib hnetwork haccounted halone hprogress hmissing
  have hroom := hadmits last.index last.arrival.index_lt
  rw [← Traffic.arrived_pieces] at hmissing hcomplete
  refine ⟨⟨hnetwork, hnothing, hquiet, hmissing, ?_, hcomplete⟩, assembler, hrun⟩
  rw [hrun]
  exact hroom

def pieceAt (node : Node lib) (msg : FragmentedMessage) (env : Env) (coins : Nat → SealCoins)
    (index : Nat) (hindex : index < msg.total) : Piece node msg where
  env := env
  index := index
  datagram := msg.datagram lib coins node.ourId index
  sent := ⟨coins, node.ourId, _, Or.inr rfl, FragmentedMessage.sendFragmentedWithId_eq coins _,
    by simp [hindex]⟩

def firstPieces (node : Node lib) (msg : FragmentedMessage) (env : Env) (coins : Nat → SealCoins) :
    List (Piece node msg) :=
  (List.finRange (msg.total - 1)).map fun i : Fin (msg.total - 1) =>
    pieceAt node msg env coins i.val (Nat.lt_of_lt_of_le i.isLt (Nat.sub_le _ _))

def lastPiece (node : Node lib) (msg : FragmentedMessage) (env : Env) (coins : Nat → SealCoins) :
    Piece node msg :=
  pieceAt node msg env coins (msg.total - 1)
    (Nat.sub_lt (msg.total_pos) Nat.one_pos)

theorem arrives_in_order (hlib : lib.Correct) (hnetwork : msg.networkKey = node.networkKey)
    {st : NodeState} (hempty : st.assembler = .new) (env : Env) (coins : Nat → SealCoins) :
    Arrives node msg st ((firstPieces node msg env coins).map .piece) (lastPiece node msg env coins) ∧
      ∃ assembler, runAll (Traffic.step node msg) st ((firstPieces node msg env coins).map .piece) =
        { st with assembler := assembler } := by
  have hpos := msg.total_pos
  have hindices : (firstPieces node msg env coins).map Piece.index = List.range (msg.total - 1) := by
    unfold firstPieces
    rw [List.map_map]
    exact List.map_coe_finRange_eq_range
  apply arrives_alone hlib hnetwork hempty
  · rw [hindices]
    intro hall
    exact List.not_mem_range_self (hall (msg.total - 1) (Nat.sub_lt hpos Nat.one_pos))
  · rw [hindices]
    intro index hindex
    have hcases : index < msg.total - 1 ∨ index = msg.total - 1 := by omega
    obtain hlt | rfl := hcases
    · exact List.mem_append_left _ (List.mem_range.mpr hlt)
    · exact List.mem_append_right _ List.mem_cons_self

end Traffic

/-! ## A handshake in pieces -/

section Handshake

variable {lib : Primitives}

def cutUp (node : Node lib) (src : SocketAddr) (data : ByteString) (msgId : UInt32)
    (hfits : divCeil data.length (node.maxDatagram - packetOverhead) ≤ 255) : FragmentedMessage where
  data := data
  msgId := msgId
  networkKey := node.networkKey
  src := src
  maxDatagram := node.maxDatagram
  minDatagram_le := node.minDatagram_le
  le_default := node.maxDatagram_le
  fits := hfits

theorem sends_pieces {node : Node lib} {env : Env} {data : ByteString} {addr : SocketAddr}
    {dstPeerId msgId : UInt32} (hsent : (sendMessageWithId node env data addr dstPeerId msgId).1 = true)
    (src : SocketAddr) :
    ∃ hfits, (sendMessageWithId node env data addr dstPeerId msgId).2 =
      (List.range (cutUp node src data msgId hfits).total).map fun index => .send addr
        ((cutUp node src data msgId hfits).datagram lib (fun i => (env.rand [i]).sealing) dstPeerId
          index) := by
  obtain ⟨hfits, hsocket⟩ := leaves_iff.mp ((sendMessageWithId_sent _ _ _ _ _).symm.trans hsent)
  have hcut := @FragmentedMessage.sendFragmentedWithId_eq lib (cutUp node src data msgId hfits)
    (fun i => (env.rand [i]).sealing) dstPeerId
  change sendFragmentedWithId lib _ data node.networkKey node.maxDatagram dstPeerId msgId = _ at hcut
  refine ⟨hfits, ?_⟩
  unfold sendMessageWithId
  simp only [hcut, hsocket, ↓reduceIte, List.map_map, Function.comp_def]

variable {dial : Dial lib} {peer : Node lib}

/-- A new request comes in at a peer that accepts it: there is no session with the
node yet, or the peer is not dialling as well. -/
structure RequestArrives (dial : Dial lib) (peer : Node lib) {msg : FragmentedMessage}
    (st : NodeState) (traffic : List (Traffic peer msg)) (last : Piece peer msg) : Prop where
  arrives : Arrives peer msg st traffic last
  request : msg.data = dial.initiate.msg
  vouched : Dial.Vouched dial.node peer last.env.unixTime
  clock : timestampValid dial.env.unixTime last.env.unixTime
  foreign : dial.node.ourId ≠ peer.ourId
  unanswered : (runAll (Traffic.step peer msg) st traffic).handshakeCache.get
    (lib.blake3Hash dial.initiate.msg) last.env.now = none
  free : (runAll (Traffic.step peer msg) st traffic).peers.lookup dial.node.ourId = none ∨
    dialling (runAll (Traffic.step peer msg) st traffic) dial.node.ourId = false

/-- The answer to it comes in at the node while that is still dialling. -/
structure AnswerArrives (dial : Dial lib) (peer : Node lib) (env : Env) {msg : FragmentedMessage}
    (st : NodeState) (traffic : List (Traffic dial.node msg)) (last : Piece dial.node msg) : Prop where
  arrives : Arrives dial.node msg st traffic last
  answer : msg.data = (dial.answerBy peer env).msg
  vouched : Dial.Vouched peer dial.node last.env.unixTime
  clock : timestampValid env.unixTime last.env.unixTime
  pending : ∃ handshake, (runAll (Traffic.step dial.node msg) st traffic).pending.lookup
      dial.sessionId = some handshake ∧
    handshake.initiate = dial.initiate ∧ handshake.peerId = some peer.ourId
  free : ∀ entry, (runAll (Traffic.step dial.node msg) st traffic).peers.lookup peer.ourId =
    some entry → entry.handshakeInitiatorId = dial.node.ourId

theorem Dial.answered (hlib : lib.Correct) {env : Env} {st : NodeState} (src : SocketAddr)
    (h : Vouched dial.node peer env.unixTime) (hclock : timestampValid dial.env.unixTime env.unixTime)
    (hforeign : dial.node.ourId ≠ peer.ourId)
    (hnew : st.handshakeCache.get (lib.blake3Hash dial.initiate.msg) env.now = none)
    (hfree : st.peers.lookup dial.node.ourId = none ∨ dialling st dial.node.ourId = false) :
    (∃ entry, (handlePacket peer env st src dial.initiate.msg).1.peers.lookup dial.node.ourId =
        some entry ∧
      IsHalf peer dial.node.ourId (dial.answerBy peer env).sessionKey
        (dial.answerBy peer env).peerRxSessionId (dial.answerBy peer env).myRxSessionId entry) ∧
      ∀ effect ∈ (sendMessageWithId peer env (dial.answerBy peer env).msg src dial.node.ourId
        (responseMsgId (lib.blake3Hash dial.initiate.msg))).2,
        effect ∈ (handlePacket peer env st src dial.initiate.msg).2 := by
  have haccept : acceptsSession peer (responseSession lib st src (dial.answerBy peer env)) st.peers =
      true := by
    obtain habsent | hquiet := hfree
    · exact acceptsSession_of_absent habsent
    · exact acceptsSession_of_not_simultaneous hquiet
  have hid : nodeIdFromCert lib (dial.answerBy peer env).peerCert = dial.node.ourId := rfl
  have hentry := lookup_installResponse env (lib.blake3Hash dial.initiate.msg) haccept
  have hhalf := isHalf_newPeer peer env.now (responseSession lib st src (dial.answerBy peer env))
    (st.peers.lookup (nodeIdFromCert lib (dial.answerBy peer env).peerCert))
  rw [hid] at hentry hhalf
  rw [handlePacket_request_eq hlib src h hclock hforeign hnew]
  exact ⟨⟨_, hentry, hhalf⟩, fun effect heffect => List.mem_append_right _ heffect⟩

theorem Dial.concluded (hlib : lib.Correct) {env env' : Env} {st : NodeState} (src : SocketAddr)
    (hnetwork : dial.node.networkKey = peer.networkKey) (h : Vouched peer dial.node env'.unixTime)
    (hclock : timestampValid env.unixTime env'.unixTime) {handshake : PendingHandshake}
    (hpending : st.pending.lookup dial.sessionId = some handshake)
    (hinitiate : handshake.initiate = dial.initiate) (hpeer : handshake.peerId = some peer.ourId)
    (hfree : ∀ entry, st.peers.lookup peer.ourId = some entry →
      entry.handshakeInitiatorId = dial.node.ourId) :
    ∃ result entry, processHandshake2 lib env'.unixTime (dial.answerBy peer env).msg dial.initiate
        dial.node.networkKey dial.node.caVk = .ok result ∧
      (handlePacket dial.node env' st src (dial.answerBy peer env).msg).1.peers.lookup peer.ourId =
        some entry ∧
      IsHalf dial.node peer.ourId result.sessionKey result.peerRxSessionId result.myRxSessionId
        entry := by
  obtain ⟨result, hcert, hconcludes⟩ :=
    concludes_answer hlib hnetwork h hclock hpending hinitiate hpeer
  have hid : nodeIdFromCert lib result.peerCert = peer.ourId := congrArg (nodeIdFromCert lib) hcert
  have haccept : acceptsSession dial.node (resultSession dial.node st src handshake result)
      st.peers = true := by
    refine acceptsSession_of_not_simultaneous ?_
    change ((st.peers.lookup (nodeIdFromCert lib result.peerCert)).any fun existing =>
      decide (existing.handshakeInitiatorId ≠ dial.node.ourId)) = false
    rw [hid, Option.any_eq_false]
    intro entry hentry
    simpa using hfree entry hentry
  rw [handlePacket_of_concludes hconcludes]
  refine ⟨result, _, hinitiate ▸ hconcludes.verified,
    (lookup_addPeer _ _ _ _).trans (if_pos ⟨hid.symm, haccept⟩), ?_⟩
  rw [← hid]
  exact isHalf_newPeer dial.node env'.now (resultSession dial.node st src handshake result) _

theorem mirrored_of_isHalf {node : Node lib} {key key' : SessionKey} {left right left' right' : UInt32}
    {entry entry' : PeerState} (h : IsHalf node peer.ourId key left right entry)
    (h' : IsHalf peer node.ourId key' right' left' entry') (hkey : key = key')
    (hleft : left = left') (hright : right = right') : Mirrored entry entry' := by
  subst hkey hleft hright
  exact ⟨h.txKey.trans h'.rxKey.symm, h.rxKey.trans h'.txKey.symm,
    h.txSessionId.trans h'.rxSessionId.symm, h.rxSessionId.trans h'.txSessionId.symm⟩

theorem Dial.ends_mirrored (hlib : lib.Correct) {env env' : Env} {st st' : NodeState}
    (src src' : SocketAddr) (h : Vouched dial.node peer env.unixTime)
    (hclock : timestampValid dial.env.unixTime env.unixTime)
    (h' : Vouched peer dial.node env'.unixTime) (hclock' : timestampValid env.unixTime env'.unixTime)
    (hforeign : dial.node.ourId ≠ peer.ourId)
    (hnew : st.handshakeCache.get (lib.blake3Hash dial.initiate.msg) env.now = none)
    (hfree : st.peers.lookup dial.node.ourId = none ∨ dialling st dial.node.ourId = false)
    {handshake : PendingHandshake} (hpending : st'.pending.lookup dial.sessionId = some handshake)
    (hinitiate : handshake.initiate = dial.initiate) (hpeer : handshake.peerId = some peer.ourId)
    (hfree' : ∀ entry, st'.peers.lookup peer.ourId = some entry →
      entry.handshakeInitiatorId = dial.node.ourId) :
    ∃ left right,
      (handlePacket dial.node env' st' src' (dial.answerBy peer env).msg).1.peers.lookup peer.ourId =
          some left ∧
      (handlePacket peer env st src dial.initiate.msg).1.peers.lookup dial.node.ourId = some right ∧
      Mirrored left right := by
  have hnetwork := h.network
  obtain ⟨⟨right, hright, hhalf⟩, -⟩ := Dial.answered hlib src h hclock hforeign hnew hfree
  obtain ⟨result, left, hverified, hleft, hhalf'⟩ :=
    Dial.concluded hlib src' hnetwork h' hclock' hpending hinitiate hpeer hfree'
  have hprocess := Dial.processHandshake1_of_vouched hlib h hclock
  rw [← hnetwork] at hprocess
  obtain ⟨hkey, hrx, htx⟩ := processHandshake2_answer hlib hprocess hverified
  exact ⟨left, right, hleft, hright, mirrored_of_isHalf hhalf' hhalf hkey htx hrx⟩

theorem RequestArrives.sends_answer (hlib : lib.Correct) {msg : FragmentedMessage} {st : NodeState}
    {traffic : List (Traffic peer msg)} {last : Piece peer msg}
    (h : RequestArrives dial peer st traffic last)
    (hleaves : leaves peer last.env (dial.answerBy peer last.env).msg = true) (src : SocketAddr) :
    ∃ hfits, ∀ index, index < (cutUp peer src (dial.answerBy peer last.env).msg
        (responseMsgId (lib.blake3Hash dial.initiate.msg)) hfits).total →
      .send msg.src ((cutUp peer src (dial.answerBy peer last.env).msg
        (responseMsgId (lib.blake3Hash dial.initiate.msg)) hfits).datagram lib
        (fun i => (last.env.rand [i]).sealing) dial.node.ourId index) ∈
        (step peer (runAll (Traffic.step peer msg) st traffic) last.event).2 := by
  obtain ⟨assembler, hstep⟩ := h.arrives.handled hlib
  rw [h.request] at hstep
  obtain ⟨-, hanswer⟩ := @Dial.answered lib dial peer hlib last.env
    { runAll (Traffic.step peer msg) st traffic with assembler := assembler } msg.src
    h.vouched h.clock h.foreign h.unanswered h.free
  obtain ⟨hfits, hsends⟩ := @sends_pieces lib peer last.env (dial.answerBy peer last.env).msg msg.src
    dial.node.ourId (responseMsgId (lib.blake3Hash dial.initiate.msg))
    ((sendMessageWithId_sent _ _ _ _ _).trans hleaves) src
  refine ⟨hfits, fun index hindex => ?_⟩
  rw [hstep]
  apply hanswer
  rw [hsends]
  exact List.mem_map.mpr ⟨index, List.mem_range.mpr hindex, rfl⟩

/-- Whatever is lost and repeated: once the request has come in at a peer that accepts it,
and the answer at the node while it still waits for it, the two hold the two ends of one
session. -/
theorem dial_in_pieces (hlib : lib.Correct) {msg msg' : FragmentedMessage} {st st' : NodeState}
    {traffic : List (Traffic peer msg)} {last : Piece peer msg}
    (hrequest : RequestArrives dial peer st traffic last)
    {traffic' : List (Traffic dial.node msg')} {last' : Piece dial.node msg'}
    (hanswer : AnswerArrives dial peer last.env st' traffic' last') :
    ∃ left right,
      (step dial.node (runAll (Traffic.step dial.node msg') st' traffic') last'.event).1.peers.lookup
          peer.ourId = some left ∧
      (step peer (runAll (Traffic.step peer msg) st traffic) last.event).1.peers.lookup
          dial.node.ourId = some right ∧
      Mirrored left right := by
  obtain ⟨assembler, hstep⟩ := hrequest.arrives.handled hlib
  obtain ⟨assembler', hstep'⟩ := hanswer.arrives.handled hlib
  obtain ⟨handshake, hpending, hinitiate, hpeer⟩ := hanswer.pending
  rw [hstep, hstep', hrequest.request, hanswer.answer]
  exact @Dial.ends_mirrored lib dial peer hlib last.env last'.env
    { runAll (Traffic.step peer msg) st traffic with assembler := assembler }
    { runAll (Traffic.step dial.node msg') st' traffic' with assembler := assembler' } msg.src msg'.src
    hrequest.vouched hrequest.clock hanswer.vouched hanswer.clock hrequest.foreign hrequest.unanswered
    hrequest.free handshake hpending hinitiate hpeer hanswer.free

theorem honest_dial_arrives (hlib : lib.Correct) (hstarts : dial.Starts peer.ourId)
    (hempty : dial.before.assembler = .new) {st : NodeState} (hempty' : st.assembler = .new)
    {env env' : Env} (hvouched : Dial.Vouched dial.node peer env.unixTime)
    (hclock : timestampValid dial.env.unixTime env.unixTime)
    (hvouched' : Dial.Vouched peer dial.node env'.unixTime)
    (hclock' : timestampValid env.unixTime env'.unixTime) (hforeign : dial.node.ourId ≠ peer.ourId)
    (hnew : st.handshakeCache.get (lib.blake3Hash dial.initiate.msg) env.now = none)
    (habsent : st.peers.lookup dial.node.ourId = none)
    (hleaves : leaves peer env (dial.answerBy peer env).msg = true) (src src' : SocketAddr)
    (coins coins' : Nat → SealCoins) :
    ∃ msg msg', RequestArrives dial peer st ((firstPieces peer msg env coins).map .piece)
        (lastPiece peer msg env coins) ∧
      AnswerArrives dial peer env (dial.start peer.ourId).2.1
        ((firstPieces dial.node msg' env' coins').map .piece)
        (lastPiece dial.node msg' env' coins') := by
  have hsent : leaves dial.node (dial.env.part 0) dial.initiate.msg = true :=
    (sendMessageWithId_sent _ _ _ _ _).symm.trans (Dial.start_iff.mp hstarts.started).2
  have hpending := hstarts.lookup_pending
  have habsent' : (dial.start peer.ourId).2.1.peers.lookup peer.ourId = none := by
    rw [hstarts.state_eq]
    exact hstarts.absent
  have hempty : (dial.start peer.ourId).2.1.assembler = .new := by
    rw [hstarts.state_eq]
    exact hempty
  refine ⟨cutUp dial.node src dial.initiate.msg dial.sessionId (leaves_iff.mp hsent).1,
    cutUp peer src' (dial.answerBy peer env).msg
      (responseMsgId (lib.blake3Hash dial.initiate.msg)) (leaves_iff.mp hleaves).1, ?_, ?_⟩
  · obtain ⟨harrives, assembler, hrun⟩ := @arrives_in_order lib peer
      (cutUp dial.node src dial.initiate.msg dial.sessionId (leaves_iff.mp hsent).1) hlib
      hvouched.network st hempty' env coins
    refine ⟨harrives, rfl, hvouched, hclock, hforeign, ?_, ?_⟩
    · rw [hrun]
      exact hnew
    · rw [hrun]
      exact Or.inl habsent
  · obtain ⟨harrives, assembler, hrun⟩ := @arrives_in_order lib dial.node
      (cutUp peer src' (dial.answerBy peer env).msg
        (responseMsgId (lib.blake3Hash dial.initiate.msg)) (leaves_iff.mp hleaves).1) hlib
      hvouched'.network (dial.start peer.ourId).2.1 hempty env' coins'
    refine ⟨harrives, rfl, hvouched', hclock', ?_, ?_⟩
    · rw [hrun]
      exact ⟨_, hpending, rfl, rfl⟩
    · rw [hrun]
      intro entry hentry
      exact absurd (habsent'.symm.trans hentry) (by simp)

end Handshake

/-- Two pieces of one byte each are handled as one message. -/
theorem two_pieces_are_one_message :
    ∃ (node : Node (transparent [])) (env : Env) (first : List (Piece node Core.Sample.message))
      (last : Piece node Core.Sample.message) (assembler : FragmentAssembler),
      step node (runAll (Traffic.step node Core.Sample.message) (.initial []) (first.map .piece))
          last.event =
        handlePacket node env
          { runAll (Traffic.step node Core.Sample.message) (.initial []) (first.map .piece) with
            assembler := assembler } Core.Sample.source [1, 2] := by
  have hlib := transparent_correct []
  obtain ⟨h, -⟩ := @arrives_in_order _ (Sample.node [] "bob" 2) Core.Sample.message hlib rfl
    (.initial []) rfl (Sample.env 0 2 ⟨2, by decide⟩) fun _ => Core.Sample.sealing
  obtain ⟨assembler, hstep⟩ :=
    pieces_deliver_message hlib h.network h.nothing h.quiet h.missing _ h.room
  exact ⟨_, _, _, _, assembler, hstep.trans (if_pos h.complete)⟩

/-- Alice dials bob, and both messages of the handshake are cut up. -/
theorem alice_dials_bob_in_pieces :
    ∃ (lib : Primitives) (dial : Dial lib) (bob : Node lib) (msg msg' : FragmentedMessage)
      (st : NodeState) (traffic : List (Traffic bob msg)) (last : Piece bob msg)
      (traffic' : List (Traffic dial.node msg')) (last' : Piece dial.node msg')
      (left right : PeerState),
      msg.data = dial.initiate.msg ∧ msg'.data = (dial.answerBy bob last.env).msg ∧
        (step dial.node (runAll (Traffic.step dial.node msg') (dial.start bob.ourId).2.1 traffic')
          last'.event).1.peers.lookup bob.ourId = some left ∧
        (step bob (runAll (Traffic.step bob msg) st traffic) last.event).1.peers.lookup
          dial.node.ourId = some right ∧
        Mirrored left right := by
  have hlib := transparent_correct Sample.pair
  obtain ⟨dial, bob, env, hstarts, hempty, habsent, hvouched, hclock, hvouched', hclock', hforeign,
      hleaves⟩ : ∃ (dial : Dial (transparent Sample.pair)) (bob : Node (transparent Sample.pair))
      (env : Env), dial.Starts bob.ourId ∧ dial.before.assembler = .new ∧
      (NodeState.initial []).peers.lookup dial.node.ourId = none ∧
      Dial.Vouched dial.node bob env.unixTime ∧ timestampValid dial.env.unixTime env.unixTime ∧
      Dial.Vouched bob dial.node env.unixTime ∧ timestampValid env.unixTime env.unixTime ∧
      dial.node.ourId ≠ bob.ourId ∧ leaves bob env (dial.answerBy bob env).msg = true :=
    ⟨Sample.duel.lower, Sample.duel.higher.node, Sample.conditions.higher, Sample.duel_opens.lower,
      rfl, rfl, Sample.duel_fair.lower, Sample.duel_fair.lowerClock, Sample.duel_fair.higher,
      show timestampValid 1001 1001 by decide, UInt32.ne_of_lt Sample.duel_opens.ids,
      Sample.duel_fair.lowerLeaves⟩
  obtain ⟨msg, msg', hrequest, hanswer⟩ := @honest_dial_arrives _ dial bob hlib hstarts hempty
    (.initial []) rfl env env hvouched hclock hvouched' hclock' hforeign rfl habsent hleaves
    Core.Sample.source Core.Sample.source (fun _ => Core.Sample.sealing) fun _ => Core.Sample.sealing
  obtain ⟨left, right, hleft, hright, hmirrored⟩ := dial_in_pieces hlib hrequest hanswer
  exact ⟨_, dial, bob, msg, msg', _, _, _, _, _, left, right, hrequest.request, hanswer.answer, hleft,
    hright, hmirrored⟩

end Liteway.Daemon
