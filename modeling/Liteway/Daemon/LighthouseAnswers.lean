import Liteway.Daemon.Joining
import Mathlib.Data.Fintype.Pigeonhole

/-!
# The answers of a lighthouse

The node that gets an answer checks it against the certificate it carries.  The two
agree as long as an id stands for one certificate only.
-/

namespace Liteway.Daemon

open Liteway.Library Liteway.Core

variable {lib : Primitives}

/-! ## Answers pass the checks -/

/-- No key pair has two certificates. -/
def CertifiedOnce (certs : List Cert) : Prop :=
  ∀ cert ∈ certs, ∀ cert' ∈ certs, cert.body.keys = cert'.body.keys → cert = cert'

/-- No two key pairs share an id. -/
def DistinctIds (lib : Primitives) (certs : List Cert) : Prop :=
  ∀ cert ∈ certs, ∀ cert' ∈ certs, nodeIdFromCert lib cert = nodeIdFromCert lib cert' →
    cert.body.keys = cert'.body.keys

/-- The states a run passes through: those between two events, and those in which
the body of an accepted packet is handled. -/
inductive Visited (node : Node lib) (lighthouses : List LighthouseSlot) (events : List Event) :
    NodeState → Prop
  | between : Visited node lighthouses events (run node lighthouses events).state
  | handling {env : Env} {src : SocketAddr} {data packet : ByteString} {peerId : UInt32}
      {peer : PeerState} {header : NetworkHeader} {body : PacketBody}
      (h : Accepts node (run node lighthouses events).state packet peerId peer header body) :
      Visited node lighthouses events (afterAccept env
        (afterFeed node env (run node lighthouses events).state src data) src peerId peer body)

def Cert.Expired (cert : Cert) (unixTime : UInt64) : Prop :=
  cert.body.info.notAfter.timestamp < unixTime.toInt64

section Answers

variable {node : Node lib} {lighthouses : List LighthouseSlot} {events : List Event} {st : NodeState}

theorem certified_visited (hst : Visited node lighthouses events st) :
    Certified lib (· ∈ admitted node (.initial lighthouses) events) st := by
  have hrun : Certified lib (· ∈ admitted node (.initial lighthouses) events)
      (run node lighthouses events).state := by
    apply certified_run node
    · refine ⟨fun id peer hpeer => ?_, fun network id hmem => ?_⟩
      · contradiction
      · contradiction
    · exact fun cert hcert => hcert
  cases hst with
  | between => exact hrun
  | @handling env src data packet peerId peer header body h =>
      have hlink := SameLink.receive peer (peer.rxReplay.accept (packetSeq body)).2 src env.now
        (srcIsRelay (afterFeed node env (run node lighthouses events).state src data) peerId peer
          src) (PacketBody.isKeepalive body)
      have hfed : Certified lib (· ∈ admitted node (.initial lighthouses) events)
          (afterFeed node env (run node lighthouses events).state src data) := hrun.congr rfl rfl
      exact hfed.retains (Retains.ofInsert h.live hlink)

theorem contains_hostRoute (ip : IpAddr) :
    (⟨ip, ip.width, Nat.le_refl _⟩ : IpNetwork).contains ip = true := by
  cases ip <;> simp [IpNetwork.contains]

theorem authorized_of_primaryCertIp {cert : Cert} {ip : IpAddr}
    (h : primaryCertIp lib cert = some ip) :
    ∃ route ∈ authorizedPeerRoutes lib cert, route.contains ip = true := by
  unfold primaryCertIp at h
  obtain ⟨addrs, haddrs, h⟩ := Option.bind_eq_some_iff.mp h
  obtain ⟨network, hparse, h⟩ := Option.bind_eq_some_iff.mp h
  cases h
  have hhost : hostRoute lib addrs.ip = some ⟨network.ip, network.ip.width, Nat.le_refl _⟩ := by
    simp [hostRoute, hparse, IpNetwork.new?]
  exact ⟨_, mem_authorizedPeerRoutes_iff.mpr ⟨addrs, haddrs, Or.inl hhost⟩,
    contains_hostRoute network.ip⟩

theorem mem_lighthouseAnswers {requesterId : UInt32} {targetIp : IpAddr} {answer : LighthouseAnswer}
    (h : answer ∈ lighthouseAnswers node st requesterId targetIp) :
    st.peers.lookup answer.peerId = some answer.described ∧
      (st.routes.lookup answer.targetIp = some answer.peerId ∨
        primaryCertIp lib answer.described.cert = some answer.targetIp) := by
  unfold lighthouseAnswers at h
  split at h
  · contradiction
  split at h
  · rename_i requester foundId found hrequester hfound
    obtain ⟨id, hroute, hpeer⟩ := Option.bind_eq_some_iff.mp hfound
    obtain ⟨peer, hpeer, htarget⟩ := Option.bind_eq_some_iff.mp hpeer
    cases htarget
    obtain rfl | hintroduction := List.mem_cons.mp h
    · exact ⟨hpeer, Or.inl hroute⟩
    unfold introductions at hintroduction
    split at hintroduction
    · contradiction
    split at hintroduction
    · contradiction
    rename_i requesterIp hprimary
    rw [List.mem_singleton.mp hintroduction]
    exact ⟨hrequester, Or.inr hprimary⟩
  · contradiction

theorem authorized_of_answer {certs : Cert → Prop} (hcertified : Certified lib certs st)
    (hone : ∀ cert cert', certs cert → certs cert' →
      nodeIdFromCert lib cert = nodeIdFromCert lib cert' → cert = cert')
    {requesterId : UInt32} {targetIp : IpAddr} {answer : LighthouseAnswer}
    (hanswer : answer ∈ lighthouseAnswers node st requesterId targetIp) :
    ∃ route ∈ authorizedPeerRoutes lib answer.described.cert,
      route.contains answer.targetIp = true := by
  obtain ⟨hpeer, hroute | hprimary⟩ := mem_lighthouseAnswers hanswer
  · obtain ⟨network, hmem, hcontains⟩ := RouteTable.mem_of_lookup hroute
    obtain ⟨cert, hcert, hid, hnetwork⟩ := hcertified.routes network answer.peerId hmem
    obtain ⟨hdescribed, hid'⟩ := hcertified.peers answer.peerId answer.described hpeer
    rw [hone cert answer.described.cert hcert hdescribed (hid.trans hid'.symm)] at hnetwork
    exact ⟨network, hnetwork, hcontains⟩
  · exact authorized_of_primaryCertIp hprimary

theorem verify_of_not_expired {cert : Cert} {caVk : HybridVerifyKey} {before now : UInt64}
    (h : cert.verify lib caVk before = true) (hle : before.toInt64 ≤ now.toInt64)
    (hexpired : ¬ Cert.Expired cert now) : cert.verify lib caVk now = true := by
  rw [Cert.verify_eq_true_iff] at h ⊢
  refine ⟨h.1, fun hearly => ?_, hexpired, h.2.2.2⟩
  exact h.2.1 (Int64.lt_of_le_of_lt hle hearly)

variable (node lighthouses events) in
/-- Every response to a query passes the checks of the node it is sent to, unless
it describes that node or its certificate has expired, if every id of the run
stands for one key pair and every key pair for one certificate. -/
theorem honest_answers_accepted
    (honce : CertifiedOnce (admitted node (.initial lighthouses) events))
    (hids : DistinctIds lib (admitted node (.initial lighthouses) events))
    (hst : Visited node lighthouses events st) (requesterId : UInt32) (targetIp : IpAddr)
    {answer : LighthouseAnswer} (hanswer : answer ∈ lighthouseAnswers node st requesterId targetIp)
    (recipient : Node lib) (hca : recipient.caVk = node.caVk) (env : Env)
    (hclock : ∀ env' src data, Event.datagram env' src data ∈ events →
      env'.unixTime.toInt64 ≤ env.unixTime.toInt64) :
    answer.peerId = recipient.ourId ∨ Cert.Expired answer.described.cert env.unixTime ∨
      (PassesChecks recipient env answer ∧ ∀ st',
        handleLighthouseResponse recipient env st' answer.targetIp answer.peerId
          answer.described.addr answer.described.cert =
          followResponse recipient env st' answer.peerId answer.described.addr
            answer.described.cert) := by
  have hcertified := certified_visited hst
  have hauthorized := authorized_of_answer hcertified (fun cert cert' hcert hcert' hid =>
    honce cert hcert cert' hcert' (hids cert hcert cert' hcert' hid)) hanswer
  obtain ⟨hdescribed, hid⟩ := hcertified.peers _ _ (mem_lighthouseAnswers hanswer).1
  obtain ⟨env', src, data, hmem, hverify⟩ := verify_of_admitted node hdescribed
  by_cases hself : answer.peerId = recipient.ourId
  · exact Or.inl hself
  by_cases hexpired : Cert.Expired answer.described.cert env.unixTime
  · exact Or.inr (Or.inl hexpired)
  have hchecks : PassesChecks recipient env answer := by
    refine ⟨hself, ?_, hid, hauthorized⟩
    rw [hca]
    exact verify_of_not_expired hverify (hclock env' src data hmem) hexpired
  exact Or.inr (Or.inr ⟨hchecks, handleLighthouseResponse_of_passes recipient env hchecks⟩)

end Answers

/-! ## An id shared by two key pairs -/

/-- Key pairs told apart by a number. -/
def numberedKeys (number : Nat) : KeyMaterial where
  ed25519Pk := ⟨(natBE 32 number).toArray, by simp⟩
  mlDsaPk := Vector.replicate _ 0

theorem numberedKeys_injOn {left right : Nat} (hleft : left < 256 ^ 32) (hright : right < 256 ^ 32)
    (h : numberedKeys left = numberedKeys right) : left = right := by
  have hbytes := congrArg (fun keys : KeyMaterial => decodeNatBE keys.ed25519Pk.toList) h
  change decodeNatBE (natBE 32 left) = decodeNatBE (natBE 32 right) at hbytes
  rw [decodeNatBE_natBE, decodeNatBE_natBE, Nat.mod_eq_of_lt hleft, Nat.mod_eq_of_lt hright]
    at hbytes
  exact hbytes

/-- Whatever the hash function, two key pairs share an id: ids have 32 bits. -/
theorem exists_shared_id (lib : Primitives) (cert : Cert) :
    ∃ keys keys' : KeyMaterial, keys ≠ keys' ∧
      nodeIdFromCert lib { cert with body := { cert.body with keys := keys } } =
        nodeIdFromCert lib { cert with body := { cert.body with keys := keys' } } := by
  let idOf (number : Fin (2 ^ 32 + 1)) : Fin (2 ^ 32) :=
    (nodeIdFromCert lib
      { cert with body := { cert.body with keys := numberedKeys number } }).toFin
  have hcard : Fintype.card (Fin (2 ^ 32)) < Fintype.card (Fin (2 ^ 32 + 1)) := by
    rw [Fintype.card_fin, Fintype.card_fin]
    exact Nat.lt_succ_self _
  obtain ⟨left, right, hne, hid⟩ := Fintype.exists_ne_map_eq_of_card_lt idOf hcard
  refine ⟨numberedKeys left, numberedKeys right, fun hkeys => hne ?_, UInt32.toFin_inj.mp hid⟩
  exact Fin.ext (numberedKeys_injOn (Nat.lt_trans left.isLt (by decide))
    (Nat.lt_trans right.isLt (by decide)) hkeys)

namespace Sample

def residentBody (name : String) (m n : UInt8) : CertBody :=
  { memberBody name m [] with
    keys := { ed25519Pk := Vector.replicate _ m, mlDsaPk := spread 1952 (Vector.replicate _ n) } }

noncomputable def residentCert (name : String) (m n : UInt8) : Cert where
  body := residentBody name m n
  signature := hybridSign routed Core.Sample.caKey (routed.certBodyToVec (residentBody name m n))

/-- Alice, and bob and carol who share an id. -/
noncomputable def residents : List Cert :=
  [residentCert "alice" 1 1, residentCert "bob" 2 2, residentCert "carol" 3 2]

noncomputable def street : Primitives :=
  { transparent residents with ipNetworkParse := routed.ipNetworkParse }

theorem street_correct : street.Correct := (transparent_correct residents).withTexts _ _ _ _ _

noncomputable def resident (name : String) (m n : UInt8) : Node street where
  cert := residentCert name m n
  signingKey := { ed25519 := Vector.replicate _ m, mlDsaSeed := Vector.replicate _ n }
  caVk := Core.Sample.caKey.public street
  networkKey := Core.Sample.networkKey
  maxDatagram := defaultMaxDatagram
  minDatagram_le := minDatagram_le_default
  maxDatagram_le := Nat.le_refl _
  amLighthouse := true
  amRelay := false
  keepaliveEnabled := true
  timings := Timings.fromSecs 5 15 1 10 3
  ifaceName := some "lw0"

noncomputable def harbour : Node street := resident "harbour" 4 4

noncomputable def joining (name : String) (m n : UInt8) : Request street where
  identity :=
    { cert := residentCert name m n
      signingKey := { ed25519 := Vector.replicate _ m, mlDsaSeed := Vector.replicate _ n }
      verifyKey_eq := rfl }
  networkKey := Core.Sample.networkKey
  coins := Core.Sample.initiatorCoins m ⟨1, Core.Sample.one_ne⟩
  created := 1000
  relayFlag := false

theorem nodeIdFromCert_resident (name : String) (m n : UInt8) :
    nodeIdFromCert street (residentCert name m n) = decodeU32BE (Vector.replicate 4 n) :=
  nodeIdFromCert_of_spread residents rfl

theorem length_resident_le {name : String} {m n : UInt8} (hknown : residentCert name m n ∈ residents)
    (hlen : name.length < 10) : (street.certToVec (residentCert name m n)).length ≤ 12 := by
  have hcode : certCode residents (residentCert name m n) < 3 := certCode_lt hknown
  have hlength : (street.certToVec (residentCert name m n)).length =
      certCode residents (residentCert name m n) + 1 + name.length :=
    length_certToVec residents (residentCert name m n)
  omega

theorem length_resident_lt {name : String} {m n : UInt8} (hknown : residentCert name m n ∈ residents)
    (hlen : name.length < 10) : (street.certToVec (residentCert name m n)).length < 2 ^ 32 :=
  Nat.lt_of_le_of_lt (length_resident_le hknown hlen) (by decide)

theorem verify_resident (name : String) (m n : UInt8) :
    (residentCert name m n).verify street harbour.caVk 1000 = true := by
  rw [Cert.verify_eq_true_iff]
  exact ⟨rfl, show ¬ (1000 : UInt64).toInt64 < 0 by decide,
    show ¬ (1000 : UInt64).toInt64 > 1000000 by decide,
    hybridVerify_hybridSign street_correct Core.Sample.caKey _⟩

theorem welcome_joining {name : String} {m n : UInt8} (hknown : residentCert name m n ∈ residents)
    (hlen : name.length < 10)
    (hforeign : decodeU32BE (Vector.replicate 4 n) ≠ decodeU32BE (Vector.replicate 4 4)) :
    (joining name m n).Welcome harbour 1000 where
  network := rfl
  short := length_resident_lt hknown hlen
  clock := by
    change timestampValid 1000 1000
    decide
  certified := verify_resident name m n
  foreign := by
    change nodeIdFromCert street (residentCert name m n) ≠
      nodeIdFromCert street (residentCert "harbour" 4 4)
    rw [nodeIdFromCert_resident, nodeIdFromCert_resident]
    exact hforeign

theorem canJoin_joining {name : String} {m n : UInt8} (hknown : residentCert name m n ∈ residents)
    (hlen : name.length < 10)
    (hforeign : decodeU32BE (Vector.replicate 4 n) ≠ decodeU32BE (Vector.replicate 4 4))
    (k : UInt8) (rxSessionId : SessionId) :
    CanJoin harbour (env 0 k rxSessionId) (.initial []) (joining name m n) :=
  ⟨welcome_joining hknown hlen hforeign, rfl, rfl⟩

theorem digest_joining_ne (name name' : String) {m m' : UInt8} (hne : m ≠ m') (n n' : UInt8) :
    street.blake3Hash (joining name m n).initiate.msg ≠
      street.blake3Hash (joining name' m' n').initiate.msg :=
  digest_initiate_ne rfl (maskNonce_sealingOf_ne hne)

theorem mem_authorizedPeerRoutes_resident {name : String} {m n : UInt8} {route : IpNetwork} :
    route ∈ authorizedPeerRoutes street (residentCert name m n) ↔
      hostRoute street (memberIp m) = some route := by
  have haddrs : (residentCert name m n).body.addresses =
      some { ip := memberIp m, subnets := [] } := rfl
  rw [mem_authorizedPeerRoutes_iff]
  simp [haddrs]

def bobIp : IpAddr := .v4 0x0A000002#32

theorem bob_route : ∃ route ∈ authorizedPeerRoutes street (residentCert "bob" 2 2),
    route.contains bobIp = true :=
  ⟨⟨bobIp, 32, Nat.le_refl 32⟩, mem_authorizedPeerRoutes_resident.mpr rfl, by decide⟩

theorem carol_route_ne : ∀ route ∈ authorizedPeerRoutes street (residentCert "carol" 3 2),
    route.contains bobIp = false := by
  intro route hroute
  have hhost : hostRoute street (memberIp 3) = some ⟨.v4 0x0A000003#32, 32, Nat.le_refl 32⟩ := rfl
  cases hhost.symm.trans (mem_authorizedPeerRoutes_resident.mp hroute)
  decide

theorem alice_route_ne : ∀ route ∈ authorizedPeerRoutes street (residentCert "alice" 1 1),
    route.contains bobIp = false := by
  intro route hroute
  have hhost : hostRoute street (memberIp 1) = some ⟨.v4 0x0A000001#32, 32, Nat.le_refl 32⟩ := rfl
  cases hhost.symm.trans (mem_authorizedPeerRoutes_resident.mp hroute)
  decide

noncomputable def arrival (name : String) (m n : UInt8) (rxSessionId : SessionId) : Event :=
  .datagram (env 0 m rxSessionId) Core.Sample.source (joining name m n).initiate.msg

noncomputable def arrivals : List Event :=
  [arrival "bob" 2 2 ⟨2, Core.Sample.two_ne⟩, arrival "carol" 3 2 ⟨3, Core.Sample.three_ne⟩,
    arrival "alice" 1 1 ⟨4, Core.Sample.four_ne⟩]

theorem canJoin_bob : CanJoin harbour (env 0 2 ⟨2, by decide⟩) (.initial []) (joining "bob" 2 2) :=
  canJoin_joining (List.mem_cons_of_mem _ List.mem_cons_self) (by decide) (by decide) _ _

theorem canJoin_carol :
    CanJoin harbour (env 0 3 ⟨3, by decide⟩) (.initial []) (joining "carol" 3 2) :=
  canJoin_joining (List.mem_cons_of_mem _ (List.mem_cons_of_mem _ List.mem_cons_self)) (by decide)
    (by decide) _ _

theorem canJoin_alice :
    CanJoin harbour (env 0 1 ⟨4, by decide⟩) (.initial []) (joining "alice" 1 1) :=
  canJoin_joining List.mem_cons_self (by decide) (by decide) _ _

noncomputable def crowded : NodeState :=
  joined harbour (env 0 1 ⟨4, Core.Sample.four_ne⟩)
    (joined harbour (env 0 3 ⟨3, Core.Sample.three_ne⟩)
      (joined harbour (env 0 2 ⟨2, Core.Sample.two_ne⟩) (.initial []) Core.Sample.source
        (joining "bob" 2 2))
      Core.Sample.source (joining "carol" 3 2))
    Core.Sample.source (joining "alice" 1 1)

theorem joined_arrivals : Joined harbour [] arrivals crowded
    [residentCert "bob" 2 2, residentCert "carol" 3 2, residentCert "alice" 1 1] := by
  have hcarol := @CanJoin.next _ _ _ _ Core.Sample.source _ _ _ canJoin_bob canJoin_carol
    (digest_joining_ne "carol" "bob" (by decide) 2 2)
  have halice := @CanJoin.next _ _ _ _ Core.Sample.source _ _ _ canJoin_bob canJoin_alice
    (digest_joining_ne "alice" "bob" (by decide) 1 2)
  have halice' := @CanJoin.next _ _ _ _ Core.Sample.source _ _ _ hcarol halice
    (digest_joining_ne "alice" "carol" (by decide) 1 2)
  have hstart : Joined harbour [] [] (.initial []) [] := ⟨rfl, rfl⟩
  exact ((hstart.snoc street_correct canJoin_bob Core.Sample.source).snoc street_correct hcarol
    Core.Sample.source).snoc street_correct halice' Core.Sample.source

theorem resident_keys_ne (name name' : String) {m m' : UInt8} (hne : m ≠ m') (n n' : UInt8) :
    (residentCert name m n).body.keys ≠ (residentCert name' m' n').body.keys := by
  intro hkeys
  have hbyte := congrArg (fun keys : KeyMaterial => keys.ed25519Pk[0]) hkeys
  exact hne (by simpa [residentCert, residentBody] using hbyte)

theorem resident_ids_ne (name name' : String) (m m' : UInt8) {n n' : UInt8}
    (hne : decodeU32BE (Vector.replicate 4 n) ≠ decodeU32BE (Vector.replicate 4 n')) :
    nodeIdFromCert street (residentCert name m n) ≠
      nodeIdFromCert street (residentCert name' m' n') := by
  rw [nodeIdFromCert_resident, nodeIdFromCert_resident]
  exact hne

theorem certifiedOnce_residents : CertifiedOnce
    [residentCert "bob" 2 2, residentCert "carol" 3 2, residentCert "alice" 1 1] := by
  intro cert hcert cert' hcert' hkeys
  simp only [List.mem_cons, List.not_mem_nil, or_false] at hcert hcert'
  obtain rfl | rfl | rfl := hcert <;> obtain rfl | rfl | rfl := hcert'
  all_goals first
    | rfl
    | exact absurd hkeys (resident_keys_ne _ _ (by decide) _ _)

theorem joined_bob_and_alice : Joined harbour []
    [arrival "bob" 2 2 ⟨2, by decide⟩, arrival "alice" 1 1 ⟨4, by decide⟩]
    (joined harbour (env 0 1 ⟨4, by decide⟩)
      (joined harbour (env 0 2 ⟨2, by decide⟩) (.initial []) Core.Sample.source (joining "bob" 2 2))
      Core.Sample.source (joining "alice" 1 1))
    [residentCert "bob" 2 2, residentCert "alice" 1 1] := by
  have halice := @CanJoin.next _ _ _ _ Core.Sample.source _ _ _ canJoin_bob canJoin_alice
    (digest_joining_ne "alice" "bob" (by decide) 1 2)
  have hstart : Joined harbour [] [] (.initial []) [] := ⟨rfl, rfl⟩
  exact (hstart.snoc street_correct canJoin_bob Core.Sample.source).snoc street_correct halice
    Core.Sample.source

theorem bob_ne_alice : nodeIdFromCert street (residentCert "bob" 2 2) ≠
    nodeIdFromCert street (residentCert "alice" 1 1) :=
  resident_ids_ne "bob" "alice" 2 1 (by decide)

theorem owned_by_bob :
    OwnedBy (joined harbour (env 0 2 ⟨2, by decide⟩) (.initial []) Core.Sample.source
      (joining "bob" 2 2)) bobIp (nodeIdFromCert street (residentCert "bob" 2 2)) := by
  obtain ⟨route, hroute, hcontains⟩ := bob_route
  exact ownedBy_joined hroute hcontains rfl

theorem carol_described : ∃ described : PeerState, described.cert = residentCert "carol" 3 2 ∧
    ⟨nodeIdFromCert street (residentCert "alice" 1 1), bobIp,
        nodeIdFromCert street (residentCert "bob" 2 2), described⟩ ∈
      lighthouseAnswers harbour crowded (nodeIdFromCert street (residentCert "alice" 1 1)) bobIp := by
  have hshared : nodeIdFromCert street (residentCert "carol" 3 2) =
      nodeIdFromCert street (residentCert "bob" 2 2) :=
    (nodeIdFromCert_resident _ _ _).trans (nodeIdFromCert_resident _ _ _).symm
  have hfound := @lookup_joined_self _ harbour (env 0 3 ⟨3, by decide⟩)
    (joined harbour (env 0 2 ⟨2, by decide⟩) (.initial []) Core.Sample.source (joining "bob" 2 2))
    Core.Sample.source (joining "carol" 3 2)
  change AList.lookup (nodeIdFromCert street (residentCert "carol" 3 2)) _ = _ at hfound
  rw [hshared] at hfound
  exact ⟨_, rfl, @mem_answers_of_ownedBy _ _ _ _ _ (joining "alice" 1 1) rfl _ _ _
    (owned_by_bob.joined carol_route_ne) hfound bob_ne_alice alice_route_ne⟩

end Sample

/-- Bob and carol have one id and a key pair and a certificate each.  The lighthouse
answers a query of alice for bob's address with carol's certificate, and alice
ignores the answer; that key pairs share ids no choice of the hash can avoid. -/
theorem shared_id_answer_refused :
    (∀ (lib : Primitives) (cert : Cert), ∃ keys keys' : KeyMaterial, keys ≠ keys' ∧
      nodeIdFromCert lib { cert with body := { cert.body with keys := keys } } =
        nodeIdFromCert lib { cert with body := { cert.body with keys := keys' } }) ∧
    CertifiedOnce (admitted Sample.harbour (.initial []) Sample.arrivals) ∧
    (Sample.resident "alice" 1 1).caVk = Sample.harbour.caVk ∧
    ∃ answer ∈ lighthouseAnswers Sample.harbour (run Sample.harbour [] Sample.arrivals).state
        (Sample.resident "alice" 1 1).ourId Sample.bobIp,
      answer.recipient = (Sample.resident "alice" 1 1).ourId ∧
      answer.peerId ≠ (Sample.resident "alice" 1 1).ourId ∧
      ¬ Cert.Expired answer.described.cert 1000 ∧
      ¬ PassesChecks (Sample.resident "alice" 1 1) (Sample.env 0 1 ⟨5, by decide⟩) answer ∧
      ∀ st, handleLighthouseResponse (Sample.resident "alice" 1 1) (Sample.env 0 1 ⟨5, by decide⟩)
        st answer.targetIp answer.peerId answer.described.addr answer.described.cert = (st, []) := by
  obtain ⟨described, hdescribed, hanswer⟩ := Sample.carol_described
  have hrefused : ∀ recipient peerId, ¬ PassesChecks (Sample.resident "alice" 1 1)
      (Sample.env 0 1 ⟨5, by decide⟩) ⟨recipient, Sample.bobIp, peerId, described⟩ := by
    intro recipient peerId h
    obtain ⟨route, hroute, hcontains⟩ := h.authorized
    change route ∈ authorizedPeerRoutes _ described.cert at hroute
    rw [hdescribed] at hroute
    exact Bool.false_ne_true ((Sample.carol_route_ne route hroute).symm.trans hcontains)
  refine ⟨exists_shared_id, ?_, rfl, ⟨(Sample.resident "alice" 1 1).ourId, Sample.bobIp,
    (Sample.resident "bob" 2 2).ourId, described⟩, ?_, rfl, Sample.bob_ne_alice, ?_, hrefused _ _,
    handleLighthouseResponse_of_refused _ _ (hrefused _ _)⟩
  · rw [Sample.joined_arrivals.certs]
    exact Sample.certifiedOnce_residents
  · rw [Sample.joined_arrivals.state]
    exact hanswer
  · rw [Cert.Expired, hdescribed]
    change ¬ (1000000 : Int64) < (1000 : UInt64).toInt64
    decide

/-- Of bob and alice every id is known for one certificate: alice's query for bob's
address is answered, and she follows the answer. -/
theorem alice_finds_bob :
    ∃ answer ∈ lighthouseAnswers Sample.harbour (run Sample.harbour []
        [Sample.arrival "bob" 2 2 ⟨2, by decide⟩, Sample.arrival "alice" 1 1 ⟨4, by decide⟩]).state
        (Sample.resident "alice" 1 1).ourId Sample.bobIp,
      PassesChecks (Sample.resident "alice" 1 1) (Sample.env 0 1 ⟨5, by decide⟩) answer := by
  have hjoined := Sample.joined_bob_and_alice
  have hkeys := Sample.resident_keys_ne "bob" "alice" (show (2 : UInt8) ≠ 1 by decide) 2 1
  have honce : CertifiedOnce (admitted Sample.harbour (.initial [])
      [Sample.arrival "bob" 2 2 ⟨2, by decide⟩, Sample.arrival "alice" 1 1 ⟨4, by decide⟩]) := by
    rw [hjoined.certs]
    intro cert hcert cert' hcert' hsame
    simp only [List.mem_cons, List.not_mem_nil, or_false] at hcert hcert'
    obtain rfl | rfl := hcert <;> obtain rfl | rfl := hcert'
    · rfl
    · exact absurd hsame hkeys
    · exact absurd hsame hkeys.symm
    · rfl
  have hids : DistinctIds Sample.street (admitted Sample.harbour (.initial [])
      [Sample.arrival "bob" 2 2 ⟨2, by decide⟩, Sample.arrival "alice" 1 1 ⟨4, by decide⟩]) := by
    rw [hjoined.certs]
    intro cert hcert cert' hcert' hsame
    simp only [List.mem_cons, List.not_mem_nil, or_false] at hcert hcert'
    obtain rfl | rfl := hcert <;> obtain rfl | rfl := hcert'
    · rfl
    · exact absurd hsame Sample.bob_ne_alice
    · exact absurd hsame Sample.bob_ne_alice.symm
    · rfl
  have hfound := @lookup_joined_self _ Sample.harbour (Sample.env 0 2 ⟨2, by decide⟩)
    (.initial []) Core.Sample.source (Sample.joining "bob" 2 2)
  have hanswer := @mem_answers_of_ownedBy _ Sample.harbour (Sample.env 0 1 ⟨4, by decide⟩) _
    Core.Sample.source (Sample.joining "alice" 1 1) rfl _ _ _ Sample.owned_by_bob hfound
    Sample.bob_ne_alice Sample.alice_route_ne
  rw [← hjoined.state] at hanswer
  have hclock : ∀ env' src data, Event.datagram env' src data ∈
      [Sample.arrival "bob" 2 2 ⟨2, by decide⟩, Sample.arrival "alice" 1 1 ⟨4, by decide⟩] →
      env'.unixTime.toInt64 ≤ (Sample.env 0 1 ⟨5, by decide⟩).unixTime.toInt64 := by
    intro env' src data hmem
    simp only [Sample.arrival, List.mem_cons, List.not_mem_nil, or_false, Event.datagram.injEq]
      at hmem
    obtain ⟨rfl, -⟩ | ⟨rfl, -⟩ := hmem <;> exact Int64.le_refl _
  refine ⟨_, hanswer, ?_⟩
  obtain hself | hexpired | ⟨hchecks, -⟩ := honest_answers_accepted Sample.harbour [] _ honce hids
    .between _ Sample.bobIp hanswer (Sample.resident "alice" 1 1) rfl _ hclock
  · exact absurd hself Sample.bob_ne_alice
  · exact absurd hexpired (show ¬ (1000000 : Int64) < (1000 : UInt64).toInt64 by decide)
  · exact hchecks

end Liteway.Daemon
