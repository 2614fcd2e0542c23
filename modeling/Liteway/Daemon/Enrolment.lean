import Liteway.Daemon.LighthouseAnswers
import Liteway.Daemon.Startup

/-!
# Nodes of one network

Two nodes that were issued by one authority and share a secret start, one dials
the other, and each ends up with its half of a session and a route to the other's
address.
-/

namespace Liteway.Daemon

open Liteway.Library Liteway.Core

/-! ## A table with one peer -/

theorem RouteTable.lookup_insertAll_new {routes : List IpNetwork} {peerId : UInt32} {ip : IpAddr}
    (h : ∃ route ∈ routes, route.contains ip = true) :
    (RouteTable.new.insertAll routes peerId).lookup ip = some peerId := by
  obtain ⟨route, hroute, hcontains⟩ := h
  have hmem : (route, peerId) ∈ (RouteTable.new.insertAll routes peerId).routes := by
    rw [RouteTable.routes_insertAll, OwnerTable.mem_assignAll]
    exact Or.inl ⟨hroute, rfl⟩
  obtain ⟨found, hfound⟩ := RouteTable.lookup_isSome_of_mem hmem hcontains
  obtain ⟨network, hnetwork, -⟩ := RouteTable.mem_of_lookup hfound
  obtain hold | rfl := RouteTable.mentions_insertAll ⟨_, hnetwork, rfl⟩
  · obtain ⟨_, hmem, -⟩ := hold
    contradiction
  · exact hfound

theorem routes_addPeer_of_absent {lib : Primitives} {node : Node lib} {now : Instant} {st : NodeState}
    {session : NewSession} (h : st.peers.lookup session.id = none) :
    (addPeer node now st session).2.1.routes =
      st.routes.insertAll (authorizedPeerRoutes lib session.cert) session.id := by
  rw [addPeer_of_accepts (acceptsSession_of_absent h)]
  rfl

/-! ## A first contact -/

structure Contact (lib : Primitives) where
  dial : Dial lib
  peer : Node lib
  before : NodeState
  answering : Env
  requestSrc : SocketAddr
  concluding : Env
  answerSrc : SocketAddr

namespace Contact

variable {lib : Primitives} {contact : Contact lib}

def answered (contact : Contact lib) : NodeState :=
  (handlePacket contact.peer contact.answering contact.before contact.requestSrc
    contact.dial.initiate.msg).1

def concluded (contact : Contact lib) : NodeState :=
  (handlePacket contact.dial.node contact.concluding
    (contact.dial.start contact.peer.ourId).2.1 contact.answerSrc
    (contact.dial.answerBy contact.peer contact.answering).msg).1

/-- The two nodes have just started, and accept what the other signs. -/
structure First (contact : Contact lib) : Prop where
  initial : ∃ lighthouses, contact.dial.before = .initial lighthouses
  initial' : ∃ lighthouses, contact.before = .initial lighthouses
  started : (contact.dial.start contact.peer.ourId).1 = true
  vouched : Dial.Vouched contact.dial.node contact.peer contact.answering.unixTime
  vouched' : Dial.Vouched contact.peer contact.dial.node contact.concluding.unixTime
  clock : timestampValid contact.dial.env.unixTime contact.answering.unixTime
  clock' : timestampValid contact.answering.unixTime contact.concluding.unixTime
  foreign : contact.dial.node.ourId ≠ contact.peer.ourId

namespace First

theorem starts (h : contact.First) : contact.dial.Starts contact.peer.ourId := by
  obtain ⟨lighthouses, hbefore⟩ := h.initial
  refine ⟨?_, h.started⟩
  rw [hbefore]
  rfl

theorem absent (h : contact.First) : (contact.dial.start contact.peer.ourId).2.1.peers = ∅ := by
  obtain ⟨lighthouses, hbefore⟩ := h.initial
  rw [h.starts.state_eq, hbefore]
  rfl

theorem mirrored (hlib : lib.Correct) (h : contact.First) :
    ∃ left right, contact.concluded.peers.lookup contact.peer.ourId = some left ∧
      contact.answered.peers.lookup contact.dial.node.ourId = some right ∧ Mirrored left right := by
  obtain ⟨lighthouses, hbefore⟩ := h.initial'
  have hnew : contact.before.handshakeCache.get (lib.blake3Hash contact.dial.initiate.msg)
      contact.answering.now = none := by
    rw [hbefore]
    rfl
  have habsent : contact.before.peers.lookup contact.dial.node.ourId = none := by
    rw [hbefore]
    rfl
  refine Dial.ends_mirrored hlib contact.requestSrc contact.answerSrc h.vouched h.clock h.vouched'
    h.clock' h.foreign hnew (Or.inl habsent) h.starts.lookup_pending rfl rfl fun entry hentry => ?_
  rw [h.absent] at hentry
  contradiction

theorem routes_answered (hlib : lib.Correct) (h : contact.First) :
    contact.answered.routes = RouteTable.new.insertAll
      (authorizedPeerRoutes lib contact.dial.node.cert) contact.dial.node.ourId := by
  obtain ⟨lighthouses, hbefore⟩ := h.initial'
  have haccept : acceptsSession contact.peer (responseSession lib (.initial lighthouses)
      contact.requestSrc (contact.dial.answerBy contact.peer contact.answering))
      (NodeState.initial lighthouses).peers = true := acceptsSession_of_absent rfl
  unfold answered
  rw [hbefore, Dial.handlePacket_request_eq hlib contact.requestSrc h.vouched h.clock h.foreign rfl,
    installResponse_of_accepts haccept]
  rfl

theorem routes_concluded (hlib : lib.Correct) (h : contact.First) :
    contact.concluded.routes = RouteTable.new.insertAll
      (authorizedPeerRoutes lib contact.peer.cert) contact.peer.ourId := by
  obtain ⟨lighthouses, hbefore⟩ := h.initial
  obtain ⟨result, hcert, hconcludes⟩ := Dial.concludes_answer hlib h.vouched.network h.vouched'
    h.clock' h.starts.lookup_pending rfl rfl
  have hroutes : (contact.dial.start contact.peer.ourId).2.1.routes = .new := by
    rw [h.starts.state_eq, hbefore]
    rfl
  unfold concluded
  rw [handlePacket_of_concludes hconcludes, routes_addPeer_of_absent]
  · change RouteTable.insertAll _ (authorizedPeerRoutes lib result.peerCert)
      (nodeIdFromCert lib result.peerCert) = _
    rw [hroutes, hcert]
    rfl
  · change (contact.dial.start contact.peer.ourId).2.1.peers.lookup _ = none
    rw [h.absent]
    rfl

end First

end Contact

/-! ## Two enrolled nodes -/

section Enrolled

variable {lib : Primitives} {calendar : Calendar} {hex : HexCodec} {ca : FullCaCert} {seed : Bytes 32}
  {alice bob : Enrolment lib calendar hex ca seed}

theorem Enrolment.vouched (hlib : lib.Correct) (hcalendar : calendar.Correct)
    (hca : ca.cert.verifyKey = ca.signingKey.public lib) {unixTime : UInt64}
    (hcurrent : alice.Current unixTime) (hshort : (lib.certToVec alice.cert).length < 2 ^ 32) :
    Dial.Vouched alice.node bob.node unixTime where
  network := rfl
  issued := (issued_of_genNode alice.issued).1.belongs
  certified := (alice.verify_iff hlib hcalendar hca unixTime).mpr hcurrent
  short := hshort

theorem Enrolment.authorized (enrolment : Enrolment lib calendar hex ca seed) :
    ∃ network, lib.ipNetworkParse enrolment.ip = some network ∧
      ∃ route ∈ authorizedPeerRoutes lib enrolment.cert, route.contains network.ip = true := by
  obtain ⟨hissued, hip⟩ := issued_of_genNode enrolment.issued
  obtain ⟨subnets, haddresses⟩ := hissued.address
  obtain ⟨-, network, hparse, -⟩ := (validateNodeIpCidr_eq_ok_iff lib).mp hip
  refine ⟨network, hparse, authorized_of_primaryCertIp ?_⟩
  unfold primaryCertIp
  rw [haddresses]
  simp only [Option.bind_eq_bind, Option.bind_some, hparse]
  rfl

/-- The contact is between the two nodes that have just started, while their
certificates are valid. -/
structure Contact.Between (contact : Contact lib) (alice bob : Enrolment lib calendar hex ca seed)
    (started started' : Started lib) : Prop where
  node : contact.dial.node = started.node
  before : contact.dial.before = started.state
  peer : contact.peer = started'.node
  peerBefore : contact.before = started'.state
  requestLeaves : (contact.dial.start contact.peer.ourId).1 = true
  answerShort : (lib.certToVec bob.cert).length < 2 ^ 32
  current : alice.Current contact.answering.unixTime
  current' : bob.Current contact.concluding.unixTime
  clock : timestampValid contact.dial.env.unixTime contact.answering.unixTime
  clock' : timestampValid contact.answering.unixTime contact.concluding.unixTime
  foreign : started.node.ourId ≠ started'.node.ourId

theorem Contact.Between.first (hlib : lib.Correct) (hcalendar : calendar.Correct)
    (hhex : hex.Correct) (hca : ca.cert.verifyKey = ca.signingKey.public lib)
    {started started' : Started lib} {unixTime unixTime' : UInt64} (hstarted : alice.start unixTime = .ok started)
    (hstarted' : bob.start unixTime' = .ok started') {contact : Contact lib}
    (h : contact.Between alice bob started started') : contact.First := by
  obtain ⟨lighthouses, rfl⟩ := Enrolment.eq_of_start hhex hstarted
  obtain ⟨lighthouses', rfl⟩ := Enrolment.eq_of_start hhex hstarted'
  have hstarts : contact.dial.Starts contact.peer.ourId := by
    refine ⟨?_, h.requestLeaves⟩
    rw [h.before]
    rfl
  have hshort := hstarts.short hlib
  rw [h.node] at hshort
  refine ⟨⟨lighthouses, h.before⟩, ⟨lighthouses', h.peerBefore⟩, h.requestLeaves, ?_, ?_, h.clock,
    h.clock', ?_⟩
  · rw [h.node, h.peer]
    exact Enrolment.vouched hlib hcalendar hca h.current hshort
  · rw [h.node, h.peer]
    exact Enrolment.vouched hlib hcalendar hca h.current' h.answerShort
  · rw [h.node, h.peer]
    exact h.foreign

end Enrolled

/-! ## A sample contact -/

namespace Sample

noncomputable def staff : List Cert :=
  [issuedCert "alice" "10.0.0.1/24" 1, issuedCert "bob" "10.0.0.2/24" 2]

noncomputable def aliceFiles : Enrolment (transparent staff) calendar hex authority seed :=
  enrolment staff "alice" "10.0.0.1/24" 1 (validate_aliceIp staff)

noncomputable def bobFiles : Enrolment (transparent staff) calendar hex authority seed :=
  enrolment staff "bob" "10.0.0.2/24" 2 (validate_bobIp staff)

theorem length_certToVec_staff {name ip : String} {n : UInt8} (hmem : issuedCert name ip n ∈ staff) :
    ((transparent staff).certToVec (issuedCert name ip n)).length ≤ 2 + name.length := by
  have hcode : certCode staff (issuedCert name ip n) < 2 := certCode_lt hmem
  rw [length_certToVec]
  change _ + 1 + name.length ≤ _
  omega

noncomputable def meeting (lighthouses lighthouses' : List LighthouseSlot) :
    Contact (transparent staff) where
  dial := ⟨aliceFiles.node, env 0 1 ⟨1, by decide⟩, .initial lighthouses, Core.Sample.source, "bob"⟩
  peer := bobFiles.node
  before := .initial lighthouses'
  answering := env 0 2 ⟨2, by decide⟩
  requestSrc := Core.Sample.source
  concluding := env 1 3 ⟨3, by decide⟩
  answerSrc := Core.Sample.source

theorem request_leaves (lighthouses lighthouses' : List LighthouseSlot) :
    ((meeting lighthouses lighthouses').dial.start bobFiles.node.ourId).1 = true := by
  have hcert : ((transparent staff).certToVec aliceFiles.cert).length ≤ 2 + 5 :=
    length_certToVec_staff List.mem_cons_self
  exact Dial.start_iff.mpr ⟨rfl, (sendMessageWithId_sent _ _ _ _ _).trans
    (leaves_initiate (transparent_correct staff) rfl rfl (hcert.trans (by decide)) (Nat.zero_le _))⟩

theorem meeting_between (lighthouses lighthouses' : List LighthouseSlot) :
    (meeting lighthouses lighthouses').Between aliceFiles bobFiles
      ⟨aliceFiles.node, aliceFiles.networks, .initial lighthouses⟩
      ⟨bobFiles.node, bobFiles.networks, .initial lighthouses'⟩ where
  node := rfl
  before := rfl
  peer := rfl
  peerBefore := rfl
  requestLeaves := request_leaves lighthouses lighthouses'
  answerShort := by
    have hcert : ((transparent staff).certToVec bobFiles.cert).length ≤ 2 + 3 :=
      length_certToVec_staff (List.mem_cons_of_mem _ List.mem_cons_self)
    omega
  current := (enrolment_current_iff _ _ _ _ _).mpr
    (show 0 ≤ (1000 : UInt64).toInt64 ∧ (1000 : UInt64).toInt64.toInt ≤ 31536000 by decide)
  current' := (enrolment_current_iff _ _ _ _ _).mpr
    (show 0 ≤ (1001 : UInt64).toInt64 ∧ (1001 : UInt64).toInt64.toInt ≤ 31536000 by decide)
  clock := show timestampValid 1000 1000 by decide
  clock' := show timestampValid 1000 1001 by decide
  foreign := by
    have halice : aliceFiles.node.ourId = decodeU32BE (Vector.replicate 4 1) :=
      nodeIdFromCert_of_spread staff rfl
    have hbob : bobFiles.node.ourId = decodeU32BE (Vector.replicate 4 2) :=
      nodeIdFromCert_of_spread staff rfl
    change aliceFiles.node.ourId ≠ bobFiles.node.ourId
    rw [halice, hbob]
    decide

end Sample

/-- Once the two messages have come in, two nodes that have just started hold the two
ends of one session, and each routes the address that the other was issued to it. -/
theorem enrolled_nodes_connect {lib : Primitives} {calendar : Calendar} {hex : HexCodec}
    (hlib : lib.Correct) (hcalendar : calendar.Correct) (hhex : hex.Correct)
    {caName : String} {years : Int64} {caGroups : List String} {caKeys : HybridSigningKey}
    {caTime : DateTime} {ca : FullCaCert}
    (hca : generateCa lib calendar caName years caGroups caKeys caTime = some ca) {seed : Bytes 32}
    {alice bob : Enrolment lib calendar hex ca seed} {unixTime unixTime' : UInt64}
    {started started' : Started lib} (hstarted : alice.start unixTime = .ok started)
    (hstarted' : bob.start unixTime' = .ok started') {contact : Contact lib}
    (h : contact.Between alice bob started started') :
    (∃ left right, contact.concluded.peers.lookup started'.node.ourId = some left ∧
      contact.answered.peers.lookup started.node.ourId = some right ∧ Mirrored left right) ∧
    (∃ network, lib.ipNetworkParse bob.ip = some network ∧
      contact.concluded.routes.lookup network.ip = some started'.node.ourId) ∧
    ∃ network, lib.ipNetworkParse alice.ip = some network ∧
      contact.answered.routes.lookup network.ip = some started.node.ourId := by
  have hfirst := h.first hlib hcalendar hhex (verifyKey_of_generateCa hca) hstarted hstarted'
  obtain ⟨lighthouses, rfl⟩ := Enrolment.eq_of_start hhex hstarted
  obtain ⟨lighthouses', rfl⟩ := Enrolment.eq_of_start hhex hstarted'
  refine ⟨?_, ?_, ?_⟩
  · have hmirrored := hfirst.mirrored hlib
    rw [h.node, h.peer] at hmirrored
    exact hmirrored
  · obtain ⟨network, hparse, hauthorized⟩ := bob.authorized
    refine ⟨network, hparse, ?_⟩
    rw [hfirst.routes_concluded hlib, h.peer]
    exact RouteTable.lookup_insertAll_new hauthorized
  · obtain ⟨network, hparse, hauthorized⟩ := alice.authorized
    refine ⟨network, hparse, ?_⟩
    rw [hfirst.routes_answered hlib, h.node]
    exact RouteTable.lookup_insertAll_new hauthorized

/-- Alice and bob start with what one authority issued, and alice dials bob. -/
theorem enrolled_alice_reaches_bob :
    ∃ (lib : Primitives) (calendar : Calendar) (hex : HexCodec) (ca : FullCaCert) (seed : Bytes 32)
      (alice bob : Enrolment lib calendar hex ca seed) (contact : Contact lib) (left right : PeerState)
      (network : IpNetwork),
      contact.concluded.peers.lookup bob.node.ourId = some left ∧
        contact.answered.peers.lookup alice.node.ourId = some right ∧ Mirrored left right ∧
        lib.ipNetworkParse bob.ip = some network ∧
        contact.concluded.routes.lookup network.ip = some bob.node.ourId := by
  have hlib := transparent_correct Sample.staff
  have hca := Sample.generateCa_authority Sample.staff
  have hcurrent : Sample.aliceFiles.Current 1000 ∧ Sample.bobFiles.Current 1000 :=
    ⟨(Sample.enrolment_current_iff _ _ _ _ _).mpr (by decide),
      (Sample.enrolment_current_iff _ _ _ _ _).mpr (by decide)⟩
  obtain ⟨lighthouses, hstarted⟩ := Enrolment.exists_start hlib Sample.calendar_correct
    Sample.hex_correct (verifyKey_of_generateCa hca) hcurrent.1
  obtain ⟨lighthouses', hstarted'⟩ := Enrolment.exists_start hlib Sample.calendar_correct
    Sample.hex_correct (verifyKey_of_generateCa hca) hcurrent.2
  obtain ⟨⟨left, right, hleft, hright, hmirrored⟩, ⟨network, hparse, hroute⟩, -⟩ :=
    enrolled_nodes_connect hlib Sample.calendar_correct Sample.hex_correct hca hstarted hstarted'
      (Sample.meeting_between lighthouses lighthouses')
  exact ⟨_, _, _, _, _, Sample.aliceFiles, Sample.bobFiles, _, left, right, network, hleft, hright,
    hmirrored, hparse, hroute⟩

end Liteway.Daemon
