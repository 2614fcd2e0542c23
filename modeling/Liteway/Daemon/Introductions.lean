import Liteway.Daemon.Dial
import Liteway.Daemon.Discovery
import Liteway.Daemon.LighthouseAnswers
import Liteway.Daemon.SessionRoundTrip

/-!
# Being introduced by a lighthouse

A query goes to the lighthouse, the answer goes back, and the node that was asked
for hears of the one that asked.  In the end both dial each other, each at the
address that the lighthouse sees.
-/

namespace Liteway.Daemon

open Liteway.Library Liteway.Core

variable {lib : Primitives}

/-! ## A packet to the other end of a session -/

/-- What `sender` seals for `receiver` under its entry for it. -/
def sealFor (sender receiver : Node lib) (entry : PeerState) (draw : Draw) (body : PacketBody) :
    ByteString :=
  serializePacket (encryptPacket lib draw.sealing draw.padding receiver.ourId entry.txSessionId
    sender.networkKey entry.txKey body)

/-- The receiver has the other end of the session that `left` is one end of, and has
seen no number beyond the last one that was used. -/
structure Awaits (sender receiver : Node lib) (left right : PeerState) (st : NodeState) : Prop where
  network : sender.networkKey = receiver.networkKey
  live : st.peers.lookup sender.ourId = some right
  session : st.rxSessions.lookup right.rxSessionId = some sender.ourId
  mirrored : Mirrored left right
  fresh : ∀ seq, left.txSeq < seq → (right.rxReplay.accept seq).1 = true

section Sessions

variable {sender receiver : Node lib} {left right : PeerState} {st : NodeState}

theorem Awaits.handlePacket_sealFor (hlib : lib.Correct) (h : Awaits sender receiver left right st)
    (env : Env) (src : SocketAddr) (draw : Draw) {body : PacketBody} (hshort : body.Short lib)
    (htexts : body.TextsReadBack lib) (hseq : left.txSeq < packetSeq body) :
    handlePacket receiver env st src (sealFor sender receiver left draw body) =
      ((handleBody receiver env (afterAccept env st src sender.ourId right body) src sender.ourId
          body).1,
        .accepted sender.ourId (packetSeq body) ::
          (handleBody receiver env (afterAccept env st src sender.ourId right body) src sender.ourId
            body).2) := by
  unfold sealFor
  rw [h.network, h.mirrored.txKey, h.mirrored.txSessionId]
  exact handlePacket_encryptPacket hlib env src draw.sealing draw.padding hshort htexts h.session
    h.live (h.fresh _ hseq)

/-- The effects send the message, if the socket works. -/
def Sends (node : Node lib) (env : Env) (msg : ByteString) (addr : SocketAddr) (dstPeerId : UInt32)
    (effects : List Effect) : Prop :=
  ∃ env', env'.socketOk = env.socketOk ∧
    ∀ effect ∈ (sendMessage node env' msg addr dstPeerId).2, effect ∈ effects

theorem peerTx_of_live {id : UInt32} {peer : PeerState} (h : st.peers.lookup id = some peer) :
    peerTx st id = some (⟨peer.addr, peer.txSeq + 1, peer.txSessionId, peer.txKey⟩,
      { st with peers := st.peers.insert id peer.nextSeq.2 }) := by
  unfold peerTx
  rw [h]
  rfl

theorem lt_next {seq : UInt64} (h : seq.toNat + 1 < 2 ^ 64) : seq < seq + 1 := by
  rw [UInt64.lt_iff_toNat_lt, UInt64.toNat_add]
  change seq.toNat < (seq.toNat + 1) % 2 ^ 64
  omega

end Sessions

/-! ## The query -/

section Query

variable {asker lighthouse : Node lib} {st : NodeState} {up : PeerState} {ip : IpAddr}

theorem lookup_sendLighthouseQuery_ne (node : Node lib) (env : Env) (ip : IpAddr)
    {id other : UInt32} (hne : id ≠ other) :
    (sendLighthouseQuery node env ip other st).1.peers.lookup id = st.peers.lookup id := by
  unfold sendLighthouseQuery
  split
  · rfl
  · rename_i htx
    unfold peerTx at htx
    split at htx
    · contradiction
    · cases Option.some.inj htx
      exact AList.lookup_insert_ne hne

theorem sends_first_query (env : Env) {targets : List UInt32} (hmem : lighthouse.ourId ∈ targets)
    (hup : st.peers.lookup lighthouse.ourId = some up) (i : Nat) :
    ∃ draw, Sends asker env (sealFor asker lighthouse up draw (.lighthouseQuery (up.txSeq + 1) ip))
      up.addr lighthouse.ourId (forEach (fun i peerId st =>
        sendLighthouseQuery asker (env.part i) ip peerId st) i targets st).2 := by
  induction targets generalizing st i with
  | nil => contradiction
  | cons target targets ih =>
      by_cases hself : lighthouse.ourId = target
      · subst hself
        refine ⟨(env.part i).rand [], (env.part i).part 0, rfl, fun effect heffect => ?_⟩
        refine List.mem_append_left _ ?_
        rw [peerTx_of_live hup]
        exact heffect
      · have hrest := List.mem_of_ne_of_mem hself hmem
        have hkept := (lookup_sendLighthouseQuery_ne asker (env.part i) ip hself).trans hup
        obtain ⟨draw, env', hsocket, hsends⟩ := ih hrest hkept (i + 1)
        exact ⟨draw, env', hsocket, fun effect heffect =>
          List.mem_append_right _ (hsends effect heffect)⟩

theorem sends_query (env : Env)
    (hbound : lighthouse.ourId ∈ st.lighthouses.filterMap LighthouseSlot.peerId)
    (hup : st.peers.lookup lighthouse.ourId = some up) :
    ∃ draw, Sends asker env (sealFor asker lighthouse up draw (.lighthouseQuery (up.txSeq + 1) ip))
      up.addr lighthouse.ourId (askLighthouses asker env st ip).2 :=
  @sends_first_query _ _ _ { st with discoveryPending := st.discoveryPending.insert ip env.now } _ ip
    env _ hbound hup 0

end Query

/-! ## The two answers -/

theorem PeerState.txSeq_receive (peer : PeerState) (window : ReplayWindow) (src : SocketAddr)
    (now : Instant) (viaRelay isKeepalive : Bool) :
    (peer.receive window src now viaRelay isKeepalive).txSeq = peer.txSeq := by
  unfold PeerState.receive PeerState.markSeen
  simp only
  repeat' split
  all_goals rfl

section Answers

variable {lighthouse : Node lib} {st : NodeState}

theorem introduce_of_live {recipient described : Node lib} {entry found : PeerState}
    (hlive : st.peers.lookup recipient.ourId = some entry) (env : Env) (ip : IpAddr) :
    introduce lighthouse env st recipient.ourId ip described.ourId found =
      ({ st with peers := st.peers.insert recipient.ourId entry.nextSeq.2 },
        (sendMessage lighthouse (env.part 0) (sealFor lighthouse recipient entry (env.rand [])
          (.lighthouseResponse (entry.txSeq + 1) ip described.ourId found.addr found.cert
            found.isRelay)) entry.addr recipient.ourId).2) := by
  unfold introduce
  rw [peerTx_of_live hlive]
  rfl

/-- The lighthouse has a session with both nodes, and a route to the one that is
asked for. -/
structure Knows (lighthouse asker target : Node lib) (asking found : PeerState) (ip askerIp : IpAddr)
    (st : NodeState) : Prop where
  mode : lighthouse.amLighthouse = true
  distinct : target.ourId ≠ asker.ourId
  hasAsker : st.peers.lookup asker.ourId = some asking
  hasTarget : st.peers.lookup target.ourId = some found
  route : st.routes.lookup ip = some target.ourId
  sameAsker : asking.cert = asker.cert
  sameTarget : found.cert = target.cert
  primary : primaryCertIp lib asker.cert = some askerIp

variable {asker target : Node lib} {asking found : PeerState} {ip askerIp : IpAddr}

theorem Knows.answers_eq (h : Knows lighthouse asker target asking found ip askerIp st) :
    lighthouseAnswers lighthouse st asker.ourId ip =
      [⟨asker.ourId, ip, target.ourId, found⟩, ⟨target.ourId, askerIp, asker.ourId, asking⟩] := by
  have hrouted : routedPeer st ip = some (target.ourId, found) := by
    simp [routedPeer, h.route, h.hasTarget]
  have hprimary : primaryCertIp lib asking.cert = some askerIp := h.sameAsker ▸ h.primary
  simp only [lighthouseAnswers, introductions, h.mode, h.hasAsker, hrouted, hprimary, h.distinct,
    Bool.not_true, Bool.false_eq_true, ↓reduceIte]

theorem Knows.afterAccept (h : Knows lighthouse asker target asking found ip askerIp st) (env : Env)
    (src : SocketAddr) (body : PacketBody) :
    ∃ seen, SameLink asking seen ∧ seen.txSeq = asking.txSeq ∧
      (seen.addr = asking.addr ∨ seen.addr = src) ∧
      Knows lighthouse asker target seen found ip askerIp
        (afterAccept env st src asker.ourId asking body) := by
  have hlink := SameLink.receive asking (asking.rxReplay.accept (packetSeq body)).2 src env.now
    (srcIsRelay st asker.ourId asking src) (PacketBody.isKeepalive body)
  exact ⟨_, hlink, PeerState.txSeq_receive _ _ _ _ _ _, PeerState.addr_receive _ _ _ _ _ _, h.mode,
    h.distinct, AList.lookup_insert _, (AList.lookup_insert_ne h.distinct).trans h.hasTarget, h.route,
    hlink.cert.trans h.sameAsker, h.sameTarget, h.primary⟩

theorem Knows.sends (h : Knows lighthouse asker target asking found ip askerIp st) (env : Env) :
    (handleLighthouseQuery lighthouse env st asker.ourId ip).1.peers.lookup asker.ourId =
        some asking.nextSeq.2 ∧
      ∃ draw draw',
        Sends lighthouse env (sealFor lighthouse asker asking draw (.lighthouseResponse
            (asking.txSeq + 1) ip target.ourId found.addr target.cert found.isRelay))
          asking.addr asker.ourId (handleLighthouseQuery lighthouse env st asker.ourId ip).2 ∧
        Sends lighthouse env (sealFor lighthouse target found draw' (.lighthouseResponse
            (found.txSeq + 1) askerIp asker.ourId asking.addr asker.cert asking.isRelay))
          found.addr target.ourId (handleLighthouseQuery lighthouse env st asker.ourId ip).2 := by
  have hquery := @handleLighthouseQuery_of_answers _ lighthouse env st asker.ourId ip
  rw [h.answers_eq] at hquery
  have hfound : (st.peers.insert asker.ourId asking.nextSeq.2).lookup target.ourId = some found :=
    (AList.lookup_insert_ne h.distinct).trans h.hasTarget
  have hfirst := @introduce_of_live _ lighthouse st asker target asking found h.hasAsker (env.part 0)
    ip
  have hsecond := @introduce_of_live _ lighthouse
    { st with peers := st.peers.insert asker.ourId asking.nextSeq.2 } target asker found asking hfound
    (env.part 1) askerIp
  rw [h.sameTarget] at hfirst
  rw [h.sameAsker] at hsecond
  rw [hquery (List.cons_ne_nil _ _)]
  simp only [forEach]
  rw [hfirst, hsecond]
  refine ⟨(AList.lookup_insert_ne h.distinct.symm).trans (AList.lookup_insert _),
    (env.part 0).rand [], (env.part 1).rand [],
    ⟨(env.part 0).part 0, rfl, fun effect heffect => List.mem_append_left _ heffect⟩,
    ⟨(env.part 1).part 0, rfl, fun effect heffect =>
      List.mem_append_right _ (List.mem_append_left _ heffect)⟩⟩

end Answers

/-! ## Two dials -/

/-- The address has a text form, and that stands for it. -/
structure IpAddr.Spelled (lib : Primitives) (ip : IpAddr) : Prop where
  reads : lib.ipAddrParse (lib.ipAddrToString ip) = some ip
  short : (lib.ipAddrToString ip).toUTF8.data.toList.length < 2 ^ 32

structure SocketAddr.Spelled (lib : Primitives) (addr : SocketAddr) : Prop where
  reads : lib.socketAddrParse (lib.socketAddrToString addr) = some addr
  short : (lib.socketAddrToString addr).toUTF8.data.toList.length < 2 ^ 32

theorem short_query {ip : IpAddr} (h : IpAddr.Spelled lib ip) (seq : UInt64) :
    (PacketBody.lighthouseQuery seq ip).Short lib :=
  List.forall_mem_singleton.mpr h.short

theorem short_response {ip : IpAddr} {addr : SocketAddr} {cert : Cert} (hip : IpAddr.Spelled lib ip)
    (haddr : SocketAddr.Spelled lib addr) (hcert : (lib.certToVec cert).length < 2 ^ 32)
    (seq : UInt64) (peerId : UInt32) (isRelay : Bool) :
    (PacketBody.lighthouseResponse seq ip peerId addr cert isRelay).Short lib :=
  List.forall_mem_cons.mpr ⟨hip.short, List.forall_mem_cons.mpr ⟨haddr.short,
    List.forall_mem_singleton.mpr hcert⟩⟩

/-- Nothing keeps the node from dialling the peer at the address: there is no session
and no handshake with it, its certificate is good, and the request leaves. -/
structure MayDial (node : Node lib) (env : Env) (st : NodeState) (peer : Node lib)
    (addr : SocketAddr) : Prop where
  absent : st.peers.lookup peer.ourId = none
  certified : peer.cert.verify lib node.caVk env.unixTime = true
  unsought : AssocMap.any (fun _ pending => duplicates addr (some peer.ourId) pending)
    st.pending = false
  sendable : leaves node (env.part 0) (createHandshake1 lib (env.rand []).initiator env.unixTime
    node.cert node.signingKey node.networkKey node.amRelay).msg = true

/-- A handshake with the peer at the address is started: it is pending, and the request
is sent. -/
def Dials (node : Node lib) (env : Env) (st : NodeState) (peer : Node lib) (addr : SocketAddr)
    (out : NodeState × List Effect) : Prop :=
  ∃ dial : Dial lib, dial.node = node ∧ dial.env = env ∧ dial.addr = addr ∧
    dial.Starts peer.ourId ∧ out.1 = (dial.start peer.ourId).2.1 ∧
    out.1.pending = st.pending.insert dial.sessionId (dial.pending peer.ourId) ∧
    ∀ effect ∈ (dial.sending peer.ourId).2, effect ∈ out.2

section Dials

variable {lighthouse node peer : Node lib} {left right found : PeerState} {st : NodeState} {ip : IpAddr}

theorem Awaits.congr {left' : PeerState} (h : Awaits lighthouse node left right st)
    (hlink : SameLink left left') (hseq : left'.txSeq = left.txSeq) :
    Awaits lighthouse node left' right st where
  network := h.network
  live := h.live
  session := h.session
  mirrored := ⟨hlink.txKey.trans h.mirrored.txKey, hlink.rxKey.trans h.mirrored.rxKey,
    hlink.txSessionId.trans h.mirrored.txSessionId, hlink.rxSessionId.trans h.mirrored.rxSessionId⟩
  fresh := hseq ▸ h.fresh

/-- A node that is told about another one dials it, if it may. -/
theorem Awaits.dials (hlib : lib.Correct) (h : Awaits lighthouse node left right st)
    (hroom : left.txSeq.toNat + 1 < 2 ^ 64) (hip : IpAddr.Spelled lib ip) {addr : SocketAddr}
    (haddr : SocketAddr.Spelled lib addr) (hcert : (lib.certToVec peer.cert).length < 2 ^ 32)
    (hother : peer.ourId ≠ node.ourId)
    (hauthorized : ∃ route ∈ authorizedPeerRoutes lib peer.cert, route.contains ip = true)
    {env : Env} (hmay : MayDial node env st peer addr) (src : SocketAddr) (draw : Draw)
    (isRelay : Bool) :
    Dials node env st peer addr (handlePacket node env st src (sealFor lighthouse node left draw
      (.lighthouseResponse (left.txSeq + 1) ip peer.ourId addr peer.cert isRelay))) := by
  have hne : peer.ourId ≠ lighthouse.ourId := by
    intro heq
    have habsent := hmay.absent
    rw [heq, h.live] at habsent
    contradiction
  have habsent' : ∀ body, (afterAccept env st src lighthouse.ourId right body).peers.lookup
      peer.ourId = none := fun body => (AList.lookup_insert_ne hne).trans hmay.absent
  have hpasses : PassesChecks node env
      ⟨node.ourId, ip, peer.ourId, { right with cert := peer.cert, addr := addr }⟩ :=
    ⟨hother, hmay.certified, rfl, hauthorized⟩
  have hhandled := h.handlePacket_sealFor hlib env src draw
    (short_response hip haddr hcert (left.txSeq + 1) peer.ourId isRelay) ⟨hip.reads, haddr.reads⟩
    (lt_next hroom)
  have hfollowed := handleLighthouseResponse_of_passes node env hpasses
    (afterAccept env st src lighthouse.ourId right
      (.lighthouseResponse (left.txSeq + 1) ip peer.ourId addr peer.cert isRelay))
  simp only [followResponse, habsent'] at hfollowed
  rw [hhandled]
  simp only [handleBody, hfollowed]
  let dial : Dial lib := ⟨node, env, afterAccept env st src lighthouse.ourId right
    (.lighthouseResponse (left.txSeq + 1) ip peer.ourId addr peer.cert isRelay), addr,
    peer.cert.body.info.name⟩
  have hstarts : dial.Starts peer.ourId := by
    refine ⟨habsent' _, Dial.start_iff.mpr ⟨hmay.unsought, ?_⟩⟩
    exact (sendMessageWithId_sent _ _ _ _ _).trans hmay.sendable
  have hsends : (dial.start peer.ourId).2.2 = (dial.sending peer.ourId).2 := by
    obtain ⟨hnone, hsent⟩ := Dial.start_iff.mp hstarts.started
    rw [Dial.start_eq, hnone, hsent]
    rfl
  refine ⟨dial, rfl, rfl, rfl, hstarts, rfl, congrArg NodeState.pending hstarts.state_eq, ?_⟩
  intro effect heffect
  rw [← hsends] at heffect
  exact List.mem_cons_of_mem _ heffect

end Dials

/-- What a lookup needs besides sessions: addresses and certificates that can be
written down, and sequence numbers that have not run out. -/
structure Presentable (asker target : Node lib) (up asking found : PeerState) (ip askerIp : IpAddr)
    (src : SocketAddr) : Prop where
  ip : IpAddr.Spelled lib ip
  askerIp : IpAddr.Spelled lib askerIp
  src : SocketAddr.Spelled lib src
  askerAddr : SocketAddr.Spelled lib asking.addr
  targetAddr : SocketAddr.Spelled lib found.addr
  askerCert : (lib.certToVec asker.cert).length < 2 ^ 32
  targetCert : (lib.certToVec target.cert).length < 2 ^ 32
  upRoom : up.txSeq.toNat + 1 < 2 ^ 64
  askingRoom : asking.txSeq.toNat + 1 < 2 ^ 64
  foundRoom : found.txSeq.toNat + 1 < 2 ^ 64

/-- A query, its answer and the introduction make two nodes that may dial each other do
so, each at the address at which the lighthouse sees the other. -/
theorem lighthouse_introduces (hlib : lib.Correct) {asker lighthouse target : Node lib}
    {st st' : NodeState} {up asking found : PeerState} {ip askerIp : IpAddr} (env env' : Env)
    {src : SocketAddr} (hshown : Presentable asker target up asking found ip askerIp src)
    (hbound : lighthouse.ourId ∈ st.lighthouses.filterMap LighthouseSlot.peerId)
    (hup : st.peers.lookup lighthouse.ourId = some up)
    (hawaits : Awaits asker lighthouse up asking st')
    (hknows : Knows lighthouse asker target asking found ip askerIp st')
    (hauthorized : ∃ route ∈ authorizedPeerRoutes lib target.cert, route.contains ip = true) :
    ∃ query answer introduction addr,
      Sends asker env query up.addr lighthouse.ourId (askLighthouses asker env st ip).2 ∧
      let out := handlePacket lighthouse env' st' src query
      (out.1.peers.lookup asker.ourId).map PeerState.addr = some addr ∧
      Sends lighthouse env' answer addr asker.ourId out.2 ∧
      Sends lighthouse env' introduction found.addr target.ourId out.2 ∧
      (∀ env'' src' right st'', Awaits lighthouse asker asking right st'' →
        MayDial asker env'' st'' target found.addr →
        Dials asker env'' st'' target found.addr
          (handlePacket asker env'' st'' src' answer)) ∧
      ∀ env'' src' right st'', Awaits lighthouse target found right st'' →
        MayDial target env'' st'' asker addr →
        Dials target env'' st'' asker addr
          (handlePacket target env'' st'' src' introduction) := by
  obtain ⟨draw, hquery⟩ := @sends_query _ asker lighthouse st up ip env hbound hup
  have hhandled := hawaits.handlePacket_sealFor hlib env' src draw
    (short_query hshown.ip (up.txSeq + 1)) hshown.ip.reads (lt_next hshown.upRoom)
  obtain ⟨seen, hlink, hseq, hseenAt, hknows'⟩ := hknows.afterAccept env' src
    (.lighthouseQuery (up.txSeq + 1) ip)
  obtain ⟨hseen, draw', draw'', hanswer, hintroduction⟩ := hknows'.sends env'
  have haddr : SocketAddr.Spelled lib seen.addr := by
    obtain hold | hnew := hseenAt
    · exact hold ▸ hshown.askerAddr
    · exact hnew ▸ hshown.src
  have hauthorized' := authorized_of_primaryCertIp hknows.primary
  refine ⟨_, sealFor lighthouse asker seen draw' (.lighthouseResponse (seen.txSeq + 1) ip
    target.ourId found.addr target.cert found.isRelay), sealFor lighthouse target found draw''
    (.lighthouseResponse (found.txSeq + 1) askerIp asker.ourId seen.addr asker.cert seen.isRelay),
    seen.addr, hquery, ?_⟩
  rw [hhandled]
  refine ⟨congrArg (Option.map PeerState.addr) hseen, ?_, ?_, ?_, ?_⟩
  · obtain ⟨sending, hsocket, hsends⟩ := hanswer
    exact ⟨sending, hsocket, fun effect heffect => List.mem_cons_of_mem _ (hsends effect heffect)⟩
  · obtain ⟨sending, hsocket, hsends⟩ := hintroduction
    exact ⟨sending, hsocket, fun effect heffect => List.mem_cons_of_mem _ (hsends effect heffect)⟩
  · intro env'' src' right st'' hready hmay
    exact (hready.congr hlink hseq).dials hlib (hseq ▸ hshown.askingRoom) hshown.ip
      hshown.targetAddr hshown.targetCert hknows.distinct hauthorized hmay src' draw' found.isRelay
  · intro env'' src' right st'' hready hmay
    exact hready.dials hlib hshown.foundRoom hshown.askerIp haddr hshown.askerCert
      hknows.distinct.symm hauthorized' hmay src' draw'' seen.isRelay

namespace Sample

noncomputable def spoken : Primitives :=
  { street with
    ipAddrToString := fun ip => if ip = bobIp then "10.0.0.2" else "10.0.0.1"
    ipAddrParse := fun text => if text = "10.0.0.2" then some bobIp else some (.v4 0x0A000001#32)
    socketAddrToString := fun _ => "10.0.0.1:4242"
    socketAddrParse := fun text => if text = "10.0.0.1:4242" then some Core.Sample.source else none }

theorem spoken_correct : spoken.Correct := street_correct.withTexts _ _ _ _ _

noncomputable def dweller (name : String) (n : UInt8) : Node spoken where
  cert := residentCert name n n
  signingKey := { ed25519 := Vector.replicate _ n, mlDsaSeed := Vector.replicate _ n }
  caVk := harbour.caVk
  networkKey := Core.Sample.networkKey
  maxDatagram := defaultMaxDatagram
  minDatagram_le := minDatagram_le_default
  maxDatagram_le := Nat.le_refl _
  amLighthouse := true
  amRelay := false
  keepaliveEnabled := true
  timings := Timings.fromSecs 5 15 1 10 3
  ifaceName := some "lw0"

theorem dweller_ids_ne (name name' : String) {n n' : UInt8}
    (hne : decodeU32BE (Vector.replicate 4 n) ≠ decodeU32BE (Vector.replicate 4 n')) :
    (dweller name n).ourId ≠ (dweller name' n').ourId :=
  resident_ids_ne name name' n n' hne

theorem verify_of_texts (lib : Primitives) (ipAddrToString : IpAddr → String)
    (ipAddrParse : String → Option IpAddr) (socketAddrToString : SocketAddr → String)
    (socketAddrParse : String → Option SocketAddr) (cert : Cert) (caVk : HybridVerifyKey)
    (unixTime : UInt64) :
    cert.verify { lib with
        ipAddrToString := ipAddrToString
        ipAddrParse := ipAddrParse
        socketAddrToString := socketAddrToString
        socketAddrParse := socketAddrParse } caVk unixTime = cert.verify lib caVk unixTime := rfl

theorem verify_dweller (name name' : String) (n n' : UInt8) :
    (dweller name n).cert.verify spoken (dweller name' n').caVk 1000 = true :=
  (verify_of_texts street _ _ _ _ _ _ _).trans (verify_resident name n n)

noncomputable def entryFor (peer : Node spoken) (tx rx : UInt8) : PeerState where
  name := peer.cert.body.info.name
  cert := peer.cert
  txKey := Vector.replicate _ tx
  rxKey := Vector.replicate _ rx
  addr := Core.Sample.source
  directAddr := none
  isRelay := false
  txSessionId := tx.toUInt32
  rxSessionId := rx.toUInt32
  txSeq := 0
  rxReplay := ReplayWindow.new
  lastSeen := 0
  lastAck := 0
  routes := authorizedPeerRoutes spoken peer.cert
  handshakeInitiatorId := peer.ourId
  keepalive := none
  relayed := false
  nextProbe := none
  probeInterval := Duration.fromSecs 1
  probeToken := none

noncomputable def atDweller (tx rx : UInt8) : NodeState :=
  { NodeState.initial [] with
    lighthouses := [{ name := "harbour", configured := "", address := Core.Sample.source,
                      peerId := some (dweller "harbour" 4).ourId, resolvedAt := 0 }]
    peers := (∅ : AssocMap UInt32 PeerState).insert (dweller "harbour" 4).ourId
      (entryFor (dweller "harbour" 4) tx rx)
    rxSessions := (∅ : AssocMap UInt32 UInt32).insert rx.toUInt32 (dweller "harbour" 4).ourId }

theorem bound_atDweller (tx rx : UInt8) :
    (dweller "harbour" 4).ourId ∈ (atDweller tx rx).lighthouses.filterMap LighthouseSlot.peerId :=
  List.mem_filterMap.mpr ⟨_, List.mem_singleton_self _, rfl⟩

noncomputable def atHarbour : NodeState :=
  { NodeState.initial [] with
    peers := ((∅ : AssocMap UInt32 PeerState).insert (dweller "alice" 1).ourId
        (entryFor (dweller "alice" 1) 12 11)).insert (dweller "bob" 2).ourId
      (entryFor (dweller "bob" 2) 22 21)
    rxSessions := (∅ : AssocMap UInt32 UInt32).insert 11 (dweller "alice" 1).ourId
    routes := RouteTable.new.insertAll [⟨bobIp, 32, Nat.le_refl 32⟩] (dweller "bob" 2).ourId }

theorem presentable_dwellers :
    Presentable (dweller "alice" 1) (dweller "bob" 2) (entryFor (dweller "harbour" 4) 11 12)
      (entryFor (dweller "alice" 1) 12 11) (entryFor (dweller "bob" 2) 22 21) bobIp
      (.v4 0x0A000001#32) Core.Sample.source where
  ip := ⟨rfl, by decide⟩
  askerIp := ⟨rfl, by decide⟩
  src := ⟨rfl, by decide⟩
  askerAddr := ⟨rfl, by decide⟩
  targetAddr := ⟨rfl, by decide⟩
  askerCert := length_resident_lt List.mem_cons_self (by decide)
  targetCert := length_resident_lt (List.mem_cons_of_mem _ List.mem_cons_self) (by decide)
  upRoom := by decide
  askingRoom := by decide
  foundRoom := by decide

theorem knows_dwellers :
    Knows (dweller "harbour" 4) (dweller "alice" 1) (dweller "bob" 2)
      (entryFor (dweller "alice" 1) 12 11) (entryFor (dweller "bob" 2) 22 21) bobIp
      (.v4 0x0A000001#32) atHarbour where
  mode := rfl
  distinct := dweller_ids_ne _ _ (by decide)
  hasAsker := (AList.lookup_insert_ne (dweller_ids_ne _ _ (by decide))).trans (AList.lookup_insert _)
  hasTarget := AList.lookup_insert _
  route := rfl
  sameAsker := rfl
  sameTarget := rfl
  primary := rfl

theorem awaits_dwellers {sender receiver : Node spoken} {tx rx : UInt8} {st : NodeState}
    (hlive : st.peers.lookup sender.ourId = some (entryFor sender rx tx))
    (hsession : st.rxSessions.lookup tx.toUInt32 = some sender.ourId)
    (hnetwork : sender.networkKey = receiver.networkKey) :
    Awaits sender receiver (entryFor receiver tx rx) (entryFor sender rx tx) st where
  network := hnetwork
  live := hlive
  session := hsession
  mirrored := ⟨rfl, rfl, rfl, rfl⟩
  fresh := fun _ _ => rfl

theorem awaits_harbour (name : String) (n : UInt8) (tx rx : UInt8) :
    Awaits (dweller "harbour" 4) (dweller name n) (entryFor (dweller name n) tx rx)
      (entryFor (dweller "harbour" 4) rx tx) (atDweller rx tx) :=
  awaits_dwellers (AList.lookup_insert _) (AList.lookup_insert _) rfl

theorem mayDial_dweller {name name' : String} {n n' tx rx m : UInt8} {rxSessionId : SessionId}
    (hknown : residentCert name n n ∈ residents) (hlen : name.length < 10)
    (hids : (dweller name' n').ourId ≠ (dweller "harbour" 4).ourId) (addr : SocketAddr) :
    MayDial (dweller name n) (env 0 m rxSessionId) (atDweller tx rx) (dweller name' n') addr where
  absent := AList.lookup_insert_ne hids
  certified := verify_dweller name' name n' n
  unsought := rfl
  sendable := by
    have hcert := (length_resident_le hknown hlen).trans (show 12 ≤ 1000 by decide)
    exact @leaves_initiate spoken spoken_correct ⟨dweller name n, env 0 m rxSessionId,
      atDweller tx rx, addr, name'⟩ rfl rfl hcert (Nat.zero_le _)

end Sample

/-- Alice looks up bob's address, and both dial. -/
theorem harbour_introduces_alice_and_bob :
    ∃ (lib : Primitives) (alice harbour bob : Node lib) (ip : IpAddr) (env env' : Env)
      (st st' atBob : NodeState) (src : SocketAddr) (query answer introduction : ByteString)
      (up found : PeerState) (addr : SocketAddr),
      Sends alice env query up.addr harbour.ourId (askLighthouses alice env st ip).2 ∧
        Sends harbour env' answer addr alice.ourId (handlePacket harbour env' st' src query).2 ∧
        Sends harbour env' introduction found.addr bob.ourId
          (handlePacket harbour env' st' src query).2 ∧
        Dials alice env st bob found.addr (handlePacket alice env st src answer) ∧
        Dials bob env atBob alice addr (handlePacket bob env atBob src introduction) := by
  have hasking : Awaits (Sample.dweller "alice" 1) (Sample.dweller "harbour" 4)
      (Sample.entryFor (Sample.dweller "harbour" 4) 11 12)
      (Sample.entryFor (Sample.dweller "alice" 1) 12 11) Sample.atHarbour :=
    Sample.awaits_dwellers Sample.knows_dwellers.hasAsker (AList.lookup_insert _) rfl
  obtain ⟨route, hroute, hcontains⟩ := Sample.bob_route
  obtain ⟨query, answer, introduction, addr, hquery, -, hanswer, hintroduction, halice, hbob⟩ :=
    lighthouse_introduces Sample.spoken_correct (Sample.env 0 1 ⟨5, by decide⟩)
      (Sample.env 0 2 ⟨6, by decide⟩) Sample.presentable_dwellers
      (Sample.bound_atDweller 11 12) (AList.lookup_insert _) hasking Sample.knows_dwellers
      ⟨route, hroute, hcontains⟩
  exact ⟨Sample.spoken, Sample.dweller "alice" 1, Sample.dweller "harbour" 4, Sample.dweller "bob" 2,
    Sample.bobIp, Sample.env 0 1 ⟨5, by decide⟩, Sample.env 0 2 ⟨6, by decide⟩, _, _,
    Sample.atDweller 21 22, Core.Sample.source, query, answer, introduction, _, _, addr, hquery,
    hanswer, hintroduction,
    halice _ _ _ _ (Sample.awaits_harbour "alice" 1 12 11)
      (Sample.mayDial_dweller List.mem_cons_self (by decide)
        (Sample.dweller_ids_ne _ _ (by decide)) _),
    hbob _ _ _ _ (Sample.awaits_harbour "bob" 2 22 21)
      (Sample.mayDial_dweller (List.mem_cons_of_mem _ List.mem_cons_self) (by decide)
        (Sample.dweller_ids_ne _ _ (by decide)) _)⟩

end Liteway.Daemon
