import Liteway.Daemon.HandshakeMessages

/-!
# Dialling a peer

What `start_handshake` leaves behind, how to tell that a node is still dialling,
and how the handshake goes when both ends are honest.
-/

namespace Liteway.Daemon

open Liteway.Library Liteway.Core

/-! ## Two dials -/

/-- The code asks this to tell whether both ends dialled. -/
def dialling (st : NodeState) (peerId : UInt32) : Bool :=
  (AssocMap.find? (fun pending => pending.peerId = some peerId) st.pending).isSome

theorem dialling_congr {st st' : NodeState} (h : st'.pending = st.pending) (peerId : UInt32) :
    dialling st' peerId = dialling st peerId := by
  unfold dialling
  rw [h]

structure Dial (lib : Primitives) where
  node : Node lib
  env : Env
  before : NodeState
  addr : SocketAddr
  peerName : String

namespace Dial

variable {lib : Primitives}

def initiate (dial : Dial lib) : HandshakeInitiate :=
  createHandshake1 lib (dial.env.rand []).initiator dial.env.unixTime dial.node.cert
    dial.node.signingKey dial.node.networkKey dial.node.amRelay

def sessionId (dial : Dial lib) : UInt32 := dial.initiate.myRxSessionId

def pending (dial : Dial lib) (peerId : UInt32) : PendingHandshake :=
  .new dial.initiate dial.addr (some peerId) dial.peerName dial.env.now

def start (dial : Dial lib) (peerId : UInt32) : Bool × NodeState × List Effect :=
  startHandshake dial.node dial.env dial.before dial.addr (some peerId) dial.peerName

def sending (dial : Dial lib) (peerId : UInt32) : Bool × List Effect :=
  sendMessageWithId dial.node (dial.env.part 0) dial.initiate.msg dial.addr peerId dial.sessionId

theorem start_eq (dial : Dial lib) (peerId : UInt32) :
    dial.start peerId =
      if AssocMap.any (fun _ pending => duplicates dial.addr (some peerId) pending)
          dial.before.pending then (false, dial.before, [])
      else if !(dial.sending peerId).1 then (false, dial.before, (dial.sending peerId).2)
      else (true, { dial.before with
          pending := dial.before.pending.insert dial.sessionId (dial.pending peerId) },
        (dial.sending peerId).2) := rfl

theorem start_iff {dial : Dial lib} {peerId : UInt32} :
    (dial.start peerId).1 = true ↔
      AssocMap.any (fun _ pending => duplicates dial.addr (some peerId) pending)
        dial.before.pending = false ∧ (dial.sending peerId).1 = true := by
  rw [start_eq]
  cases AssocMap.any (fun _ pending => duplicates dial.addr (some peerId) pending)
      dial.before.pending <;> cases (dial.sending peerId).1 <;> simp

/-- The handshake is started, and there is no session with the peer yet. -/
structure Starts (dial : Dial lib) (peerId : UInt32) : Prop where
  absent : dial.before.peers.lookup peerId = none
  started : (dial.start peerId).1 = true

namespace Starts

variable {dial : Dial lib} {peerId : UInt32}

theorem state_eq (h : dial.Starts peerId) :
    (dial.start peerId).2.1 = { dial.before with
      pending := dial.before.pending.insert dial.sessionId (dial.pending peerId) } := by
  obtain ⟨hnone, hsent⟩ := start_iff.mp h.started
  rw [start_eq, hnone, hsent]
  rfl

theorem short (hlib : lib.Correct) (h : dial.Starts peerId) :
    (lib.certToVec dial.node.cert).length < 2 ^ 32 := by
  have hfits := (leaves_iff.mp ((sendMessageWithId_sent _ _ _ _ _).symm.trans
    (start_iff.mp h.started).2)).1
  have hsize : 0 < dial.node.maxDatagram - packetOverhead :=
    Nat.sub_pos_of_lt dial.node.minDatagram_le
  have hmax : dial.node.maxDatagram ≤ 1200 := dial.node.maxDatagram_le
  have hbound : dial.initiate.msg.length ≤ 255 * 1200 :=
    calc dial.initiate.msg.length
      _ ≤ divCeil dial.initiate.msg.length (dial.node.maxDatagram - packetOverhead) *
          (dial.node.maxDatagram - packetOverhead) := le_divCeil_mul hsize
      _ ≤ 255 * 1200 := Nat.mul_le_mul hfits (by omega)
  unfold initiate at hbound
  rw [length_createHandshake1_msg hlib] at hbound
  omega

end Starts

/-- There is no handshake with the peer besides the one that was started. -/
structure Tracks (dial : Dial lib) (peerId : UInt32) (st : NodeState) : Prop where
  only : ∀ key pending, st.pending.lookup key = some pending → pending.peerId = some peerId →
    key = dial.sessionId
  own : ∀ pending, st.pending.lookup dial.sessionId = some pending → pending = dial.pending peerId

namespace Tracks

variable {dial : Dial lib} {peerId : UInt32} {st : NodeState}

theorem of_starts (h : dial.Starts peerId) : dial.Tracks peerId (dial.start peerId).2.1 := by
  have hnone := (start_iff.mp h.started).1
  rw [h.state_eq]
  constructor
  · intro key pending hlookup hpeer
    by_contra hne
    rw [AssocMap.lookup_insert_eq, if_neg hne] at hlookup
    refine Bool.eq_false_iff.mp hnone (AssocMap.any_eq_true_iff.mpr ⟨key, pending, hlookup, ?_⟩)
    unfold duplicates
    simp [hpeer]
  · intro pending hlookup
    rw [AList.lookup_insert] at hlookup
    exact (Option.some.inj hlookup).symm

theorem erase (h : dial.Tracks peerId st) (key : UInt32) :
    dial.Tracks peerId { st with pending := st.pending.erase key } := by
  have hkept : ∀ other pending, (st.pending.erase key).lookup other = some pending →
      st.pending.lookup other = some pending := by
    intro other pending hlookup
    rw [AssocMap.lookup_erase_eq] at hlookup
    split at hlookup
    · contradiction
    · exact hlookup
  exact ⟨fun other pending hlookup => h.only other pending (hkept _ _ hlookup),
    fun pending hlookup => h.own pending (hkept _ _ hlookup)⟩

theorem congr {st' : NodeState} (h : dial.Tracks peerId st) (hpending : st'.pending = st.pending) :
    dial.Tracks peerId st' := by
  obtain ⟨honly, hown⟩ := h
  rw [← hpending] at honly hown
  exact ⟨honly, hown⟩

theorem reply (h : dial.Tracks peerId st) {node : Node lib} {env : Env} {src : SocketAddr}
    {packet : ByteString} {sessionId : UInt32} {after : NodeState}
    (houtcome : ReplyOutcome node env st src packet sessionId after) :
    dial.Tracks peerId after := by
  cases houtcome with
  | dropped => exact h
  | concluded hpending hprocess hpeer => exact (h.erase sessionId).congr (addPeer_pending _ _ _)

theorem dialling_iff (h : dial.Tracks peerId st) :
    dialling st peerId = true ↔ st.pending.lookup dial.sessionId = some (dial.pending peerId) := by
  unfold dialling
  constructor
  · intro hfind
    obtain ⟨pending, hfind⟩ := Option.isSome_iff_exists.mp hfind
    obtain ⟨key, hlookup, hpeer⟩ := AssocMap.find?_eq_some hfind
    cases h.only key pending hlookup (by simpa using hpeer)
    rw [hlookup, h.own pending hlookup]
  · intro hlookup
    rw [Option.isSome_iff_ne_none]
    intro hfind
    have hfalse := AssocMap.find?_eq_none_iff.mp hfind _ _ hlookup
    simp [pending, PendingHandshake.new] at hfalse

theorem dialling_of_erase (h : dial.Tracks peerId st) {after : NodeState}
    (hpending : after.pending = st.pending.erase dial.sessionId) :
    dialling after peerId = false := by
  have htracks : dial.Tracks peerId after := (h.erase dial.sessionId).congr hpending
  rw [Bool.eq_false_iff, ne_eq, htracks.dialling_iff, hpending, AList.lookup_erase]
  simp

end Tracks

theorem Starts.lookup_pending {dial : Dial lib} {peerId : UInt32} (h : dial.Starts peerId) :
    (dial.start peerId).2.1.pending.lookup dial.sessionId = some (dial.pending peerId) := by
  rw [h.state_eq]
  exact AList.lookup_insert _

end Dial

/-! ## Honest dials -/

namespace Dial

variable {lib : Primitives} {dial : Dial lib} {peer : Node lib}

def answerBy (dial : Dial lib) (peer : Node lib) (env : Env) : HandshakeResponse :=
  respond lib (env.rand []).responder env.unixTime dial.initiate.msg peer.cert peer.signingKey
    peer.networkKey peer.amRelay
    (requestPlain lib (dial.env.rand []).initiator dial.node.cert dial.node.amRelay)

/-- At the given time, `peer` accepts what the node signs. -/
structure Vouched (node peer : Node lib) (now : UInt64) : Prop where
  network : node.networkKey = peer.networkKey
  issued : node.cert.verifyKey = node.signingKey.public lib
  certified : node.cert.verify lib peer.caVk now = true
  short : (lib.certToVec node.cert).length < 2 ^ 32

theorem processHandshake1_of_vouched (hlib : lib.Correct) {env : Env}
    (h : Vouched dial.node peer env.unixTime) (hclock : timestampValid dial.env.unixTime env.unixTime) :
    processHandshake1 lib (env.rand []).responder env.unixTime dial.initiate.msg peer.cert
      peer.signingKey peer.networkKey peer.caVk peer.amRelay = .ok (dial.answerBy peer env) := by
  unfold answerBy initiate
  rw [← h.network]
  exact processHandshake1_createHandshake1 hlib _ _ _ _ ⟨dial.node.cert, dial.node.signingKey,
    h.issued⟩ _ _ _ _ _ _ h.short hclock h.certified

theorem processHandshake2_of_vouched (hlib : lib.Correct) (env : Env) {now : UInt64}
    (hnetwork : dial.node.networkKey = peer.networkKey) (h : Vouched peer dial.node now)
    (hclock : timestampValid env.unixTime now) :
    ∃ result, processHandshake2 lib now (dial.answerBy peer env).msg dial.initiate
        dial.node.networkKey dial.node.caVk = .ok result ∧ result.peerCert = peer.cert := by
  rw [hnetwork]
  exact ⟨_, processHandshake2_respond hlib _ _ _ _ ⟨peer.cert, peer.signingKey, h.issued⟩ _ _ _ _
    h.short hclock h.certified, rfl⟩

theorem handlePacket_request_eq (hlib : lib.Correct) {env : Env} {st : NodeState} (src : SocketAddr)
    (h : Vouched dial.node peer env.unixTime) (hclock : timestampValid dial.env.unixTime env.unixTime)
    (hforeign : dial.node.ourId ≠ peer.ourId)
    (hnew : st.handshakeCache.get (lib.blake3Hash dial.initiate.msg) env.now = none) :
    handlePacket peer env st src dial.initiate.msg =
      installResponse peer env st src (lib.blake3Hash dial.initiate.msg) (dial.answerBy peer env) := by
  have hheader : networkHeader lib dial.initiate.msg peer.networkKey = some
      { kind := kindHandshake1, fragIndex := 0, fragTotal := 0, dstPeerId := 0,
        sessionId := dial.sessionId } := by
    rw [← h.network]
    exact networkHeader_createHandshake1 hlib _ _ _ _ _ _
  have hother : nodeIdFromCert lib (dial.answerBy peer env).peerCert ≠ peer.ourId := hforeign
  unfold handlePacket handleHandshake1
  simp only [hheader, ↓reduceIte, hnew, processHandshake1_of_vouched hlib h hclock]
  rw [if_neg hother]

theorem handlePacket_request (hlib : lib.Correct) {env : Env} {st : NodeState} (src : SocketAddr)
    (h : Vouched dial.node peer env.unixTime) (hclock : timestampValid dial.env.unixTime env.unixTime)
    (hforeign : dial.node.ourId ≠ peer.ourId)
    (hnew : st.handshakeCache.entries.lookup (lib.blake3Hash dial.initiate.msg) = none)
    (hleaves : leaves peer env (dial.answerBy peer env).msg = true) :
    (handlePacket peer env st src dial.initiate.msg).1 =
        (installResponse peer env st src (lib.blake3Hash dial.initiate.msg)
          (dial.answerBy peer env)).1 ∧
      sentAnswer peer env st dial.initiate.msg = [(dial.answerBy peer env).msg] := by
  have hheader : networkHeader lib dial.initiate.msg peer.networkKey = some
      { kind := kindHandshake1, fragIndex := 0, fragTotal := 0, dstPeerId := 0,
        sessionId := dial.sessionId } := by
    rw [← h.network]
    exact networkHeader_createHandshake1 hlib _ _ _ _ _ _
  have hcache : st.handshakeCache.get (lib.blake3Hash dial.initiate.msg) env.now = none := by
    unfold HandshakeCache.get
    rw [hnew]
    rfl
  have hprocess := processHandshake1_of_vouched hlib h hclock
  have hother : nodeIdFromCert lib (dial.answerBy peer env).peerCert ≠ peer.ourId := hforeign
  have hanswer : answerTo peer env st dial.initiate.msg = some (dial.answerBy peer env).msg := by
    unfold answerTo
    simp only [hheader, ↓reduceIte, hcache, hprocess]
    exact if_neg hother
  refine ⟨congrArg Prod.fst (handlePacket_request_eq hlib src h hclock hforeign hcache), ?_⟩
  unfold sentAnswer
  rw [hanswer, Option.filter_some_pos hleaves]
  rfl

theorem concludes_answer (hlib : lib.Correct) {env env' : Env} {st : NodeState}
    {handshake : PendingHandshake} (hnetwork : dial.node.networkKey = peer.networkKey)
    (h : Vouched peer dial.node env'.unixTime) (hclock : timestampValid env.unixTime env'.unixTime)
    (hpending : st.pending.lookup dial.sessionId = some handshake)
    (hinitiate : handshake.initiate = dial.initiate) (hpeer : handshake.peerId = some peer.ourId) :
    ∃ result, result.peerCert = peer.cert ∧
      Concludes dial.node env' st (dial.answerBy peer env).msg
        { kind := kindHandshake2, fragIndex := 0, fragTotal := 0, dstPeerId := 0,
          sessionId := dial.sessionId } handshake result := by
  obtain ⟨result, hprocess, hcert⟩ := processHandshake2_of_vouched hlib env hnetwork h hclock
  rw [← hinitiate] at hprocess
  refine ⟨result, hcert, ?_, rfl, hpending, hprocess, fun expected hexpected => ?_⟩
  · rw [hnetwork]
    exact networkHeader_respond hlib _ _ _ _ _ _ _ _
  · rw [hpeer] at hexpected
    cases Option.some.inj hexpected
    exact (congrArg (nodeIdFromCert lib) hcert).symm

theorem handlePacket_answer (hlib : lib.Correct) {env env' : Env} {st : NodeState}
    (src : SocketAddr) (hnetwork : dial.node.networkKey = peer.networkKey)
    (h : Vouched peer dial.node env'.unixTime)
    (hclock : timestampValid env.unixTime env'.unixTime)
    (hpending : st.pending.lookup dial.sessionId = some (dial.pending peer.ourId)) :
    ∃ result, nodeIdFromCert lib result.peerCert = peer.ourId ∧
      (handlePacket dial.node env' st src (dial.answerBy peer env).msg).1 =
        (addPeer dial.node env'.now { st with pending := st.pending.erase dial.sessionId }
          (resultSession dial.node st src (dial.pending peer.ourId) result)).2.1 ∧
      sentAnswer dial.node env' st (dial.answerBy peer env).msg = [] := by
  obtain ⟨result, hcert, hconcludes⟩ := concludes_answer hlib hnetwork h hclock hpending rfl rfl
  refine ⟨result, congrArg (nodeIdFromCert lib) hcert, ?_, sentAnswer_reply env' st hconcludes.decodes rfl⟩
  rw [handlePacket_of_concludes hconcludes]

end Dial

/-! ## Sample dials -/

namespace Sample

noncomputable def caller (name : String) (n : UInt8) (rxSessionId : SessionId) (peerName : String) :
    Dial (transparent pair) where
  node := node pair name n
  env := env 0 n rxSessionId
  before := .initial []
  addr := Core.Sample.source
  peerName := peerName

theorem leaves_initiate {lib : Primitives} (hlib : lib.Correct) {dial : Dial lib}
    (hmax : dial.node.maxDatagram = defaultMaxDatagram) (hsocket : dial.env.socketOk = true)
    (hcert : (lib.certToVec dial.node.cert).length ≤ 1000)
    (hpadding : (dial.env.rand []).initiator.padding.bytes.length ≤ 1000) :
    leaves dial.node (dial.env.part 0) dial.initiate.msg = true := by
  refine leaves_of_default hmax hsocket ?_
  unfold Dial.initiate
  rw [length_createHandshake1_msg hlib]
  simp only [packetOverhead, maskNonceLen, networkHeaderLen, nonceLen, aeadTagLen, mlkemPkLen,
    ed25519SigLen, mldsaSigLen]
  omega

theorem leaves_of_short (name : String) (n : UInt8) {env : Env} (hsocket : env.socketOk = true)
    {msg : ByteString} (hlen : msg.length ≤ 10000) : leaves (node pair name n) env msg = true :=
  leaves_of_default rfl hsocket hlen

section Caller

variable {name : String} {n : UInt8} (hknown : Core.Sample.cert name n ∈ pair)
  (hname : name.length ≤ 100)

include hknown hname

theorem starts_caller (rxSessionId : SessionId) (peerName : String) (peerId : UInt32) :
    (caller name n rxSessionId peerName).Starts peerId where
  absent := rfl
  started := by
    have hcert : ((transparent pair).certToVec (Core.Sample.cert name n)).length ≤
        2 + name.length := Core.Sample.length_certToVec_le hknown
    exact Dial.start_iff.mpr ⟨rfl, (sendMessageWithId_sent _ _ _ _ _).trans
      (leaves_initiate (transparent_correct pair) rfl rfl (hcert.trans (by omega)) (Nat.zero_le _))⟩

theorem vouched_node (name' : String) (n' : UInt8) :
    Dial.Vouched (node pair name n) (node pair name' n') 1001 where
  network := rfl
  issued := (Core.Sample.identity pair name n).verifyKey_eq
  certified := Core.Sample.verify_cert pair name n (show ¬ (1001 : UInt64).toInt64 < 0 by decide)
    (show ¬ (1001 : UInt64).toInt64 > 1000000 by decide)
  short := by
    have hcert : ((transparent pair).certToVec (Core.Sample.cert name n)).length ≤
        2 + name.length := Core.Sample.length_certToVec_le hknown
    change ((transparent pair).certToVec (Core.Sample.cert name n)).length < 2 ^ 32
    omega

theorem leaves_answerBy (dial : Dial (transparent pair)) (secs : Nat) (m : UInt8)
    (rxSessionId : SessionId) :
    leaves (node pair name n) (env secs m rxSessionId)
      (dial.answerBy (node pair name n) (env secs m rxSessionId)).msg = true := by
  have hcert : ((transparent pair).certToVec (Core.Sample.cert name n)).length ≤
      2 + name.length := Core.Sample.length_certToVec_le hknown
  have hlen := length_respond_msg (transparent_correct pair) (Core.Sample.responderCoins m
    rxSessionId) (1000 + UInt64.ofNat secs) dial.initiate.msg (Core.Sample.cert name n)
    (Core.Sample.signingKey n) Core.Sample.networkKey false
    (requestPlain (transparent pair) (dial.env.rand []).initiator dial.node.cert dial.node.amRelay)
  have hpadding : (Core.Sample.responderCoins m rxSessionId).padding.bytes.length = 0 := rfl
  refine leaves_of_short name n rfl (Nat.le_trans (Nat.le_of_eq hlen) ?_)
  simp only [packetOverhead, maskNonceLen, networkHeaderLen, nonceLen, aeadTagLen, mlkemCtLen,
    ed25519SigLen, mldsaSigLen]
  omega

end Caller

theorem alice_known : Core.Sample.cert "alice" 1 ∈ pair := List.mem_cons_self

theorem bob_known : Core.Sample.cert "bob" 2 ∈ pair := List.mem_cons_of_mem _ List.mem_cons_self

end Sample

end Liteway.Daemon
