import Liteway.Core.Config
import Liteway.Core.Issuing
import Liteway.Daemon.FragmentedDelivery
import Liteway.Daemon.RelayFallback
import Liteway.Library.Hex

/-!
# How a node starts

What `main` checks before the node runs, as far as the operating system does what
it is asked.  What the certificate tool issues passes as long as it is valid.  How it
is written to files and read back is left out.
-/

namespace Liteway.Daemon

open Liteway.Library Liteway.Core

/-! ## The rest of the configuration -/

structure NodeConfig extends AppConfig where
  path : String
  listen : SocketAddr
  caCertPath : String
  nodeCertPath : String
  nodeKeyPath : String
  networkSecret : String
  amLighthouse : Bool
  amRelay : Bool
  keepalivePunch : Bool
deriving DecidableEq

def NodeConfig.default (path caCertPath nodeCertPath nodeKeyPath networkSecret : String) :
    NodeConfig where
  toAppConfig := AppConfig.default
  path := path
  listen := .v4 0 0
  caCertPath := caCertPath
  nodeCertPath := nodeCertPath
  nodeKeyPath := nodeKeyPath
  networkSecret := networkSecret
  amLighthouse := false
  amRelay := false
  keepalivePunch := true

inductive SecretError where
  | hex
  | length
deriving DecidableEq

/-- `AppConfig::network_secret`. -/
def NodeConfig.readNetworkSecret (hex : HexCodec) (config : NodeConfig) :
    Except SecretError (Bytes 32) := do
  let bytes ← orThrow SecretError.hex (hex.decode config.networkSecret)
  if h : bytes.length = 32 then .ok ⟨bytes.toArray, by simpa using h⟩ else .error .length

/-- `seed` is what is drawn. -/
def generateNetworkSecret (hex : HexCodec) (seed : Bytes 32) : String := hex.encode seed.toList

def ipUdpOverhead : SocketAddr → Nat
  | .v4 .. => 28
  | .v6 .. => 48

def udpPayloadLimit (config : AppConfig) (listen : SocketAddr) : Nat :=
  match config.interface with
  | none => defaultMaxDatagram
  | some iface => max minDatagram (min (iface.mtu.toNat - ipUdpOverhead listen) defaultMaxDatagram)

theorem udpPayloadLimit_bounds (config : AppConfig) (listen : SocketAddr) :
    minDatagram ≤ udpPayloadLimit config listen ∧
      udpPayloadLimit config listen ≤ defaultMaxDatagram := by
  unfold udpPayloadLimit
  split
  · exact ⟨minDatagram_le_default, Nat.le_refl _⟩
  · exact ⟨Nat.le_max_left _ _, Nat.max_le.mpr ⟨minDatagram_le_default, Nat.min_le_right _ _⟩⟩

/-! ## Starting -/

inductive StartError where
  | config (path : String) (error : ConfigError)
  | invalidCert (nodeCertPath caCertPath : String)
  | foreignKey (nodeKeyPath nodeCertPath : String)
  | networkSecret (error : SecretError)
  | interfaceAddress (ip : String)
  | breaksDiscovery (ip : String)
  | unresolved (name : String)
deriving DecidableEq

/-- `tunName` is the name the interface has got, `hexText` what the decoder of
hexadecimal text says. -/
def StartError.message (tunName hexText : String) : StartError → String
  | .config path _ => "validate config file '" ++ path ++ "'"
  | .invalidCert nodeCertPath caCertPath =>
      "node certificate '" ++ nodeCertPath ++ "' is not valid for CA '" ++ caCertPath ++
        "' (expired, not yet valid, or signed by another CA)"
  | .foreignKey nodeKeyPath nodeCertPath =>
      "node key '" ++ nodeKeyPath ++ "' does not belong to certificate '" ++ nodeCertPath ++ "'"
  | .networkSecret .hex => hexText
  | .networkSecret .length => "network_secret must be 32 bytes encoded as 64 hex characters"
  | .interfaceAddress ip => "set TUN interface '" ++ tunName ++ "' IP to " ++ ip
  | .breaksDiscovery ip =>
      "node IP " ++ ip ++ " breaks lighthouse discovery; use a mesh prefix like 10.0.0.1/24"
  | .unresolved name => "resolve lighthouse '" ++ name ++ "'"

/-- The `i`-th lighthouse is resolved at the time `clock i`. -/
def resolveLighthouses (resolve : String → Option SocketAddr) (clock : Nat → Instant)
    (lighthouses : List LighthouseConfig) : Except StartError (List LighthouseSlot) :=
  lighthouses.zipIdx.mapM fun (lighthouse, i) => do
    let address ← orThrow (.unresolved lighthouse.name) (resolve lighthouse.address)
    pure
      { name := lighthouse.name
        configured := lighthouse.address
        address := address
        peerId := none
        resolvedAt := clock i }

structure Started (lib : Primitives) where
  node : Node lib
  overlayNetworks : List IpNetwork
  state : NodeState

section Start

variable (lib : Primitives) (hex : HexCodec)

/-- With a tunnel interface the address must be one, and with lighthouses it must
span a mesh. -/
def checkInterface (config : AppConfig) (cert : Cert) : Except StartError Unit :=
  match config.interface, cert.body.addresses with
  | some _, some addrs => do
      let _ ← orThrow (.interfaceAddress addrs.ip) (lib.ipNetworkParse addrs.ip)
      ensure (¬ (discoveryRouteFromInterfaceAddr lib addrs.ip = some none ∧ config.lighthouses ≠ []))
        (.breaksDiscovery addrs.ip)
  | _, _ => .ok ()

/-- The networks that packets from the tunnel interface are checked against. -/
def startedNetworks (config : AppConfig) (cert : Cert) : List IpNetwork :=
  if config.interface.isSome then overlayNetworks lib cert else []

def startedNode (config : NodeConfig) (ca : CaCert) (cert : Cert) (key : NodeKeyFile)
    (networkSecret : Bytes 32) (listen : SocketAddr) : Node lib where
  cert := cert
  signingKey := key.signingSecretKey
  caVk := ca.verifyKey
  networkKey := deriveNetworkKey lib networkSecret.toList
  maxDatagram := udpPayloadLimit config.toAppConfig listen
  minDatagram_le := (udpPayloadLimit_bounds _ _).1
  maxDatagram_le := (udpPayloadLimit_bounds _ _).2
  amLighthouse := config.amLighthouse
  amRelay := config.amRelay
  keepaliveEnabled := config.keepalivePunch
  timings := configTimings config.toAppConfig
  ifaceName := config.interface.map InterfaceConfig.name

/-- `listen` is the address the socket is bound to in the end. -/
def startNode (config : NodeConfig) (ca : CaCert) (cert : Cert) (key : NodeKeyFile)
    (listen : SocketAddr) (resolve : String → Option SocketAddr) (clock : Nat → Instant)
    (unixTime : UInt64) : Except StartError (Started lib) := do
  config.toAppConfig.validate.mapError (StartError.config config.path)
  ensure (cert.verify lib ca.verifyKey unixTime = true)
    (StartError.invalidCert config.nodeCertPath config.caCertPath)
  ensure (lib.ed25519Public key.signingSecretKey.ed25519 = cert.body.keys.ed25519Pk)
    (StartError.foreignKey config.nodeKeyPath config.nodeCertPath)
  let networkSecret ← (config.readNetworkSecret hex).mapError StartError.networkSecret
  checkInterface lib config.toAppConfig cert
  let lighthouses ← resolveLighthouses resolve clock config.lighthouses
  pure
    { node := startedNode lib config ca cert key networkSecret listen
      overlayNetworks := startedNetworks lib config.toAppConfig cert
      state := .initial lighthouses }

end Start

section Starting

variable {lib : Primitives} {hex : HexCodec} {config : NodeConfig} {ca : CaCert} {cert : Cert}
  {key : NodeKeyFile} {listen : SocketAddr} {resolve : String → Option SocketAddr}
  {clock : Nat → Instant} {unixTime : UInt64}

theorem startNode_eq_ok_iff {started : Started lib} :
    startNode lib hex config ca cert key listen resolve clock unixTime = .ok started ↔
      config.toAppConfig.validate = .ok () ∧ cert.verify lib ca.verifyKey unixTime = true ∧
        lib.ed25519Public key.signingSecretKey.ed25519 = cert.body.keys.ed25519Pk ∧
        ∃ secret, config.readNetworkSecret hex = .ok secret ∧
          checkInterface lib config.toAppConfig cert = .ok () ∧
          ∃ lighthouses, resolveLighthouses resolve clock config.lighthouses = .ok lighthouses ∧
            started = ⟨startedNode lib config ca cert key secret listen,
              startedNetworks lib config.toAppConfig cert, .initial lighthouses⟩ := by
  unfold startNode
  simp only [bind_eq_ok_iff, mapError_eq_ok_iff, ensure_eq_ok_iff, pure, Except.pure,
    Except.ok.injEq]
  constructor
  · rintro ⟨_, hconfig, _, hverify, _, hkey, secret, hsecret, _, hinterface, lighthouses, hresolve,
      rfl⟩
    exact ⟨hconfig, hverify, hkey, secret, hsecret, hinterface, lighthouses, hresolve, rfl⟩
  · rintro ⟨hconfig, hverify, hkey, secret, hsecret, hinterface, lighthouses, hresolve, rfl⟩
    exact ⟨(), hconfig, (), hverify, (), hkey, secret, hsecret, (), hinterface, lighthouses, hresolve,
      rfl⟩

theorem startNode_of_not_verify (hconfig : config.toAppConfig.validate = .ok ())
    (hverify : ¬ cert.verify lib ca.verifyKey unixTime = true) :
    startNode lib hex config ca cert key listen resolve clock unixTime =
      .error (.invalidCert config.nodeCertPath config.caCertPath) := by
  unfold startNode
  rw [hconfig]
  exact ensure_bind_of_not hverify _

/-! ## What the certificate tool issues -/

/-- A secret is read from what is printed for it, in whatever case. -/
theorem readNetworkSecret_eq_ok_iff (hhex : hex.Correct) {seed : Bytes 32} :
    config.readNetworkSecret hex = .ok seed ↔
      config.networkSecret.toLower = generateNetworkSecret hex seed := by
  unfold NodeConfig.readNetworkSecret generateNetworkSecret
  rw [orThrow_bind_iff, ← hhex]
  constructor
  · rintro ⟨data, hdecode, h⟩
    split at h
    · cases Except.ok.inj h
      exact hdecode
    · contradiction
  · intro hdecode
    refine ⟨_, hdecode, ?_⟩
    rw [dif_pos seed.length_toList]
    rfl

theorem resolveLighthouses_of_isSome {lighthouses : List LighthouseConfig}
    (h : ∀ lighthouse ∈ lighthouses, (resolve lighthouse.address).isSome = true) :
    ∃ slots, resolveLighthouses resolve clock lighthouses = .ok slots := by
  apply exists_mapM_eq_ok
  rintro ⟨lighthouse, i⟩ hmem
  obtain ⟨address, haddress⟩ :=
    Option.isSome_iff_exists.mp (h lighthouse (List.fst_mem_of_mem_zipIdx hmem))
  refine ⟨⟨lighthouse.name, lighthouse.address, address, none, clock i⟩, ?_⟩
  simp only [haddress]
  rfl

theorem width_network (network : IpNetwork) : network.network.width = network.ip.width := by
  unfold IpNetwork.network
  cases network.ip <;> rfl

theorem discoveryRoute_of_validateNodeIpCidr {ip : String} (h : validateNodeIpCidr lib ip = .ok ()) :
    ∃ route, discoveryRouteFromInterfaceAddr lib ip = some (some route) := by
  obtain ⟨-, network, hparse, hpos, hlt⟩ := (validateNodeIpCidr_eq_ok_iff lib).mp h
  have hle : network.prefixLen ≤ network.network.width := by
    rw [width_network]
    exact network.prefixLen_le
  refine ⟨⟨network.network, network.prefixLen, hle⟩, ?_⟩
  unfold discoveryRouteFromInterfaceAddr
  rw [hparse]
  simp only [Option.bind_eq_bind, Option.bind_some]
  rw [if_neg (by omega), IpNetwork.new?, dif_pos hle]
  rfl

theorem checkInterface_of_validateNodeIpCidr {ip : String} {subnets : List String}
    (haddresses : cert.body.addresses = some { ip := ip, subnets := subnets })
    (h : validateNodeIpCidr lib ip = .ok ()) :
    checkInterface lib config.toAppConfig cert = .ok () := by
  obtain ⟨route, hroute⟩ := discoveryRoute_of_validateNodeIpCidr h
  obtain ⟨-, network, hparse, -⟩ := (validateNodeIpCidr_eq_ok_iff lib).mp h
  unfold checkInterface
  rw [haddresses]
  cases config.interface with
  | none => rfl
  | some iface =>
      dsimp only
      rw [orThrow_bind_iff]
      exact ⟨network, hparse, ensure_eq_ok_iff.mpr fun hbreaks => by simp [hroute] at hbreaks⟩

end Starting

/-! ## Issued nodes start -/

/-- What the certificate tool issues for a node of a network, and what its operator
adds. -/
structure Enrolment (lib : Primitives) (calendar : Calendar) (hex : HexCodec) (ca : FullCaCert)
    (seed : Bytes 32) where
  name : String
  ip : String
  subnets : List String
  groups : List String
  days : Int64
  keys : HybridSigningKey
  issuedAt : DateTime
  cert : Cert
  key : NodeKeyFile
  config : NodeConfig
  listen : SocketAddr
  resolve : String → Option SocketAddr
  clock : Nat → Instant
  issued : genNode lib calendar name ip subnets groups ca.signingKey days keys issuedAt =
    .ok (cert, key)
  secret : config.networkSecret.toLower = generateNetworkSecret hex seed
  validated : config.toAppConfig.validate = .ok ()
  resolved : ∀ lighthouse ∈ config.lighthouses, (resolve lighthouse.address).isSome = true

namespace Enrolment

variable {lib : Primitives} {calendar : Calendar} {hex : HexCodec} {ca : FullCaCert} {seed : Bytes 32}

def start (enrolment : Enrolment lib calendar hex ca seed) (unixTime : UInt64) :
    Except StartError (Started lib) :=
  startNode lib hex enrolment.config ca.cert enrolment.cert enrolment.key enrolment.listen
    enrolment.resolve enrolment.clock unixTime

/-- Not before the certificate was issued, and not after its days. -/
def Current (enrolment : Enrolment lib calendar hex ca seed) (unixTime : UInt64) : Prop :=
  enrolment.issuedAt.timestamp ≤ unixTime.toInt64 ∧
    unixTime.toInt64.toInt ≤ enrolment.issuedAt.timestamp.toInt + 86400 * enrolment.days.toInt

def node (enrolment : Enrolment lib calendar hex ca seed) : Node lib :=
  startedNode lib enrolment.config ca.cert enrolment.cert enrolment.key seed enrolment.listen

def networks (enrolment : Enrolment lib calendar hex ca seed) : List IpNetwork :=
  startedNetworks lib enrolment.config.toAppConfig enrolment.cert

theorem verify_iff (hlib : lib.Correct) (hcalendar : calendar.Correct)
    (hca : ca.cert.verifyKey = ca.signingKey.public lib) (enrolment : Enrolment lib calendar hex ca seed)
    (unixTime : UInt64) :
    enrolment.cert.verify lib ca.cert.verifyKey unixTime = true ↔ enrolment.Current unixTime := by
  rw [hca]
  exact (issued_of_genNode enrolment.issued).1.verify_iff hlib hcalendar unixTime

theorem exists_start (hlib : lib.Correct) (hcalendar : calendar.Correct) (hhex : hex.Correct)
    (hca : ca.cert.verifyKey = ca.signingKey.public lib) {enrolment : Enrolment lib calendar hex ca seed}
    {unixTime : UInt64} (hcurrent : enrolment.Current unixTime) :
    ∃ lighthouses, enrolment.start unixTime =
      .ok ⟨enrolment.node, enrolment.networks, .initial lighthouses⟩ := by
  obtain ⟨hissued, hip⟩ := issued_of_genNode enrolment.issued
  obtain ⟨subnets, haddresses⟩ := hissued.address
  obtain ⟨lighthouses, hlighthouses⟩ :=
    @resolveLighthouses_of_isSome enrolment.resolve enrolment.clock _ enrolment.resolved
  have hverify := (enrolment.verify_iff hlib hcalendar hca unixTime).mpr hcurrent
  have hkey := congrArg HybridVerifyKey.ed25519 hissued.belongs
  exact ⟨lighthouses, startNode_eq_ok_iff.mpr ⟨enrolment.validated, hverify, hkey.symm, seed,
    (readNetworkSecret_eq_ok_iff hhex).mpr enrolment.secret,
    checkInterface_of_validateNodeIpCidr haddresses hip, lighthouses, hlighthouses, rfl⟩⟩

theorem eq_of_start (hhex : hex.Correct) {enrolment : Enrolment lib calendar hex ca seed}
    {unixTime : UInt64} {started : Started lib} (h : enrolment.start unixTime = .ok started) :
    ∃ lighthouses, started = ⟨enrolment.node, enrolment.networks, .initial lighthouses⟩ := by
  obtain ⟨-, -, -, secret, hsecret, -, lighthouses, -, rfl⟩ := startNode_eq_ok_iff.mp h
  cases Except.ok.inj (hsecret.symm.trans ((readNetworkSecret_eq_ok_iff hhex).mpr enrolment.secret))
  exact ⟨lighthouses, rfl⟩

end Enrolment

/-- What the certificate tool issued is good for a node exactly as long as its certificate
is valid. -/
theorem issued_node_starts {lib : Primitives} {calendar : Calendar} {hex : HexCodec}
    (hlib : lib.Correct) (hcalendar : calendar.Correct) (hhex : hex.Correct)
    {caName : String} {years : Int64} {caGroups : List String} {caKeys : HybridSigningKey}
    {caTime : DateTime} {ca : FullCaCert}
    (hca : generateCa lib calendar caName years caGroups caKeys caTime = some ca) {seed : Bytes 32}
    (enrolment : Enrolment lib calendar hex ca seed) (unixTime : UInt64) :
    (enrolment.Current unixTime → ∃ lighthouses, enrolment.start unixTime =
      .ok ⟨enrolment.node, enrolment.networks, .initial lighthouses⟩) ∧
    (¬ enrolment.Current unixTime → enrolment.start unixTime =
      .error (.invalidCert enrolment.config.nodeCertPath enrolment.config.caCertPath)) := by
  have hkey := verifyKey_of_generateCa hca
  have hverify := enrolment.verify_iff hlib hcalendar hkey unixTime
  exact ⟨Enrolment.exists_start hlib hcalendar hhex hkey,
    fun hexpired => startNode_of_not_verify enrolment.validated (mt hverify.mp hexpired)⟩

/-! ## A sample enrolment -/

namespace Sample

def calendar : Calendar where
  addDays now days :=
    let later : DateTime := ⟨now.timestamp + 86400 * days, now.subsecNanos⟩
    if later.timestamp.toInt = now.timestamp.toInt + 86400 * days.toInt then some later else none

theorem calendar_correct : calendar.Correct := by
  intro now days later h
  unfold calendar at h
  dsimp only at h
  split at h
  · next hexact =>
      cases Option.some.inj h
      exact hexact
  · contradiction

/-- One codec that keeps to the law. -/
def hex : HexCodec := ⟨hexEncode, hexDecode⟩

theorem hex_correct : hex.Correct := fun _ _ => hexDecode_eq_some_iff

def authorityInfo : CertMeta :=
  { name := "liteway-ca", isCa := true, notBefore := ⟨0, 0⟩, notAfter := ⟨315360000, 0⟩, groups := [] }

noncomputable def authority : FullCaCert where
  cert := ⟨authorityInfo, Core.Sample.caVk⟩
  signingKey := Core.Sample.caKey

theorem generateCa_authority (known : List Cert) :
    generateCa (transparent known) calendar "liteway-ca" 10 [] Core.Sample.caKey ⟨0, 0⟩ =
      some authority := rfl

noncomputable def issuedCert (name ip : String) (n : UInt8) : Cert :=
  Cert.sign (transparent [])
    { info := ⟨name, false, ⟨0, 0⟩, ⟨31536000, 0⟩, []⟩
      keys := { ed25519Pk := Vector.replicate _ n, mlDsaPk := spread 1952 (Vector.replicate _ n) }
      addresses := some { ip := ip, subnets := [] } } Core.Sample.caKey

/-- Its node has a tunnel interface and knows one lighthouse. -/
def configFile (nodeCertPath nodeKeyPath : String) (seed : Bytes 32) : NodeConfig :=
  { NodeConfig.default "liteway.toml" "ca.toml" nodeCertPath nodeKeyPath
      (generateNetworkSecret hex seed) with
    interface := some ⟨"lw0", 1300⟩
    lighthouses := [⟨"harbour", "198.51.100.1:4242"⟩] }

def seed : Bytes 32 := Vector.replicate _ 7

section Enrol

variable (known : List Cert) (name ip : String) (n : UInt8)
  (hip : validateNodeIpCidr (transparent known) ip = .ok ())

noncomputable def enrolment : Enrolment (transparent known) calendar hex authority seed where
  name := name
  ip := ip
  subnets := []
  groups := []
  days := 365
  keys := Core.Sample.signingKey n
  issuedAt := ⟨0, 0⟩
  cert := issuedCert name ip n
  key := ⟨Core.Sample.signingKey n⟩
  config := configFile "cert.toml" "key.toml" seed
  listen := .v4 0 4242
  resolve := fun _ => some Core.Sample.source
  clock := fun _ => 0
  issued := genNode_eq_ok hip rfl
  secret := toLower_hexEncode _
  validated := by decide
  resolved := fun _ _ => rfl

theorem enrolment_current_iff {unixTime : UInt64} :
    (enrolment known name ip n hip).Current unixTime ↔
      0 ≤ unixTime.toInt64 ∧ unixTime.toInt64.toInt ≤ 31536000 := by
  have hlast : (0 : Int64).toInt + 86400 * (365 : Int64).toInt = 31536000 := by decide
  rw [← hlast]
  rfl

end Enrol

theorem validate_aliceIp (known : List Cert) :
    validateNodeIpCidr (transparent known) "10.0.0.1/24" = .ok () := rfl

theorem validate_bobIp (known : List Cert) :
    validateNodeIpCidr (transparent known) "10.0.0.2/24" = .ok () := rfl

end Sample

/-- What was issued for alice is good in its first year, and no longer. -/
theorem alice_starts_for_a_year :
    ∃ (lib : Primitives) (calendar : Calendar) (hex : HexCodec) (ca : FullCaCert) (seed : Bytes 32)
      (alice : Enrolment lib calendar hex ca seed),
      (∃ lighthouses, alice.start 1000 = .ok ⟨alice.node, alice.networks, .initial lighthouses⟩) ∧
        alice.start 31536001 = .error (.invalidCert "cert.toml" "ca.toml") := by
  have hstart := issued_node_starts (transparent_correct []) Sample.calendar_correct
    Sample.hex_correct (Sample.generateCa_authority [])
    (Sample.enrolment [] "alice" "10.0.0.1/24" 1 (Sample.validate_aliceIp []))
  have hyear : ¬ (31536001 : UInt64).toInt64.toInt ≤ 31536000 := by decide
  exact ⟨_, _, _, _, _, _,
    (hstart 1000).1 ((Sample.enrolment_current_iff _ _ _ _ _).mpr (by decide)),
    (hstart 31536001).2 fun hcurrent => hyear ((Sample.enrolment_current_iff _ _ _ _ _).mp hcurrent).2⟩

end Liteway.Daemon
