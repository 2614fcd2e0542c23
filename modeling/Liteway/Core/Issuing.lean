import Liteway.Core.Crypto
import Liteway.Library.Parsing

/-!
# Issuing certificates

What the certificate tool does: an authority makes its keys, and signs a
certificate for each node.
-/

namespace Liteway.Core

open Liteway.Library

/-- The calendar of the date library. -/
structure Calendar where
  /-- `now + Duration::days(days)`; nothing where the library panics. -/
  addDays : DateTime → Int64 → Option DateTime

/-- A day has 86400 seconds. -/
def Calendar.Correct (calendar : Calendar) : Prop :=
  ∀ now days later, calendar.addDays now days = some later →
    later.timestamp.toInt = now.timestamp.toInt + 86400 * days.toInt

/-- The library for hexadecimal text, which is not part of the repository. -/
structure HexCodec where
  encode : ByteString → String
  decode : String → Option ByteString

/-- It writes lower case and reads either case. -/
def HexCodec.Correct (hex : HexCodec) : Prop :=
  ∀ text data, hex.decode text = some data ↔ text.toLower = hex.encode data

structure CaCert where
  info : CertMeta
  verifyKey : HybridVerifyKey
deriving DecidableEq

structure FullCaCert where
  cert : CaCert
  signingKey : HybridSigningKey
deriving DecidableEq

structure NodeKeyFile where
  signingSecretKey : HybridSigningKey
deriving DecidableEq

section Issuing

variable (lib : Primitives) (calendar : Calendar)

def Cert.sign (body : CertBody) (caSigningKey : HybridSigningKey) : Cert where
  body := body
  signature := hybridSign lib caSigningKey (lib.certBodyToVec body)

/-- `keys` is the key pair that is drawn.  The product wraps, as in a release build. -/
def generateCa (name : String) (years : Int64) (groups : List String) (keys : HybridSigningKey)
    (now : DateTime) : Option FullCaCert := do
  let notAfter ← calendar.addDays now (years * 365)
  pure
    { cert :=
        { info :=
            { name := name
              isCa := true
              notBefore := now
              notAfter := notAfter
              groups := groups }
          verifyKey := keys.public lib }
      signingKey := keys }

def generateNode (name ip : String) (subnets groups : List String) (caSigningKey : HybridSigningKey)
    (days : Int64) (keys : HybridSigningKey) (now : DateTime) : Option (Cert × NodeKeyFile) := do
  let notAfter ← calendar.addDays now days
  let body : CertBody :=
    { info :=
        { name := name
          isCa := false
          notBefore := now
          notAfter := notAfter
          groups := groups }
      keys :=
        { ed25519Pk := (keys.public lib).ed25519
          mlDsaPk := (keys.public lib).mlDsa }
      addresses := some { ip := ip, subnets := subnets } }
  pure (Cert.sign lib body caSigningKey, { signingSecretKey := keys })

/-! ## The address of a node -/

inductive NodeIpError where
  | noPrefix
  | parse (ip : String)
  | breaksDiscovery (ip : String)
deriving DecidableEq

def NodeIpError.message : NodeIpError → String
  | .noPrefix => "node IP must include CIDR prefix, for example 10.0.0.1/24"
  | .parse ip => "parse node IP CIDR '" ++ ip ++ "'"
  | .breaksDiscovery ip =>
      "node IP " ++ ip ++ " breaks lighthouse discovery; use a mesh prefix like 10.0.0.1/24"

def validateNodeIpCidr (ip : String) : Except NodeIpError Unit := do
  ensure ('/' ∈ ip.toList) NodeIpError.noPrefix
  let network ← orThrow (.parse ip) (lib.ipNetworkParse ip)
  ensure (¬ (network.prefixLen = 0 ∨ network.prefixLen ≥ network.ip.width))
    (NodeIpError.breaksDiscovery ip)

theorem validateNodeIpCidr_eq_ok_iff {ip : String} :
    validateNodeIpCidr lib ip = .ok () ↔
      '/' ∈ ip.toList ∧ ∃ network, lib.ipNetworkParse ip = some network ∧
        network.prefixLen ≠ 0 ∧ network.prefixLen < network.ip.width := by
  unfold validateNodeIpCidr
  rw [ensure_bind_iff]
  simp only [bind_eq_ok_iff, orThrow_eq_ok_iff, ensure_eq_ok_iff, not_or, ge_iff_le,
    Nat.not_le, ne_eq]

inductive GenNodeError where
  | ip (error : NodeIpError)
  | date
deriving DecidableEq

/-- `gen-node`: the address is checked before anything is made. -/
def genNode (name ip : String) (subnets groups : List String) (caSigningKey : HybridSigningKey)
    (days : Int64) (keys : HybridSigningKey) (now : DateTime) :
    Except GenNodeError (Cert × NodeKeyFile) := do
  (validateNodeIpCidr lib ip).mapError GenNodeError.ip
  orThrow .date (generateNode lib calendar name ip subnets groups caSigningKey days keys now)

end Issuing

/-! ## What is issued -/

section Issued

variable {lib : Primitives} {calendar : Calendar} {name ip : String} {subnets groups : List String}
  {days : Int64} {keys caKeys : HybridSigningKey} {now : DateTime} {cert : Cert} {key : NodeKeyFile}

/-- A key pair and a certificate for it, valid for a number of days. -/
structure Issued (lib : Primitives) (calendar : Calendar) (caKeys : HybridSigningKey) (ip : String)
    (now : DateTime) (days : Int64) (cert : Cert) (key : NodeKeyFile) : Prop where
  isCa : cert.body.info.isCa = false
  notBefore : cert.body.info.notBefore = now
  notAfter : calendar.addDays now days = some cert.body.info.notAfter
  belongs : cert.verifyKey = key.signingSecretKey.public lib
  signed : cert.signature = hybridSign lib caKeys (lib.certBodyToVec cert.body)
  address : ∃ subnets, cert.body.addresses = some { ip := ip, subnets := subnets }

theorem verifyKey_of_generateCa {years : Int64} {ca : FullCaCert}
    (h : generateCa lib calendar name years groups keys now = some ca) :
    ca.cert.verifyKey = ca.signingKey.public lib := by
  unfold generateCa at h
  obtain ⟨notAfter, -, h⟩ := Option.bind_eq_some_iff.mp h
  cases Option.some.inj h
  rfl

theorem issued_of_generateNode
    (h : generateNode lib calendar name ip subnets groups caKeys days keys now = some (cert, key)) :
    Issued lib calendar caKeys ip now days cert key := by
  unfold generateNode at h
  obtain ⟨notAfter, hdate, h⟩ := Option.bind_eq_some_iff.mp h
  cases Option.some.inj h
  exact ⟨rfl, rfl, hdate, rfl, rfl, subnets, rfl⟩

theorem genNode_eq_ok (hip : validateNodeIpCidr lib ip = .ok ()) {notAfter : DateTime}
    (hdate : calendar.addDays now days = some notAfter) :
    genNode lib calendar name ip subnets groups caKeys days keys now =
      .ok (Cert.sign lib
        { info := ⟨name, false, now, notAfter, groups⟩
          keys := ⟨(keys.public lib).ed25519, (keys.public lib).mlDsa⟩
          addresses := some ⟨ip, subnets⟩ } caKeys, ⟨keys⟩) := by
  unfold genNode generateNode
  rw [hip, hdate]
  rfl

theorem issued_of_genNode
    (h : genNode lib calendar name ip subnets groups caKeys days keys now = .ok (cert, key)) :
    Issued lib calendar caKeys ip now days cert key ∧ validateNodeIpCidr lib ip = .ok () := by
  unfold genNode at h
  obtain ⟨done, hip, h⟩ := bind_eq_ok_iff.mp h
  refine ⟨issued_of_generateNode (orThrow_eq_ok_iff.mp h), ?_⟩
  cases hvalid : validateNodeIpCidr lib ip with
  | ok done => rfl
  | error e =>
      rw [hvalid] at hip
      contradiction

/-- An issued certificate verifies exactly while it is valid. -/
theorem Issued.verify_iff (hlib : lib.Correct) (hcalendar : calendar.Correct)
    (h : Issued lib calendar caKeys ip now days cert key) (unixTime : UInt64) :
    cert.verify lib (caKeys.public lib) unixTime = true ↔
      now.timestamp ≤ unixTime.toInt64 ∧
        unixTime.toInt64.toInt ≤ now.timestamp.toInt + 86400 * days.toInt := by
  have hsigned : hybridVerify lib (caKeys.public lib) (lib.certBodyToVec cert.body) cert.signature =
      true := h.signed ▸ hybridVerify_hybridSign hlib caKeys _
  have hlast := hcalendar _ _ _ h.notAfter
  rw [Cert.verify_eq_true_iff, h.isCa, h.notBefore, ← hlast, ← Int64.le_iff_toInt_le]
  simp only [hsigned, gt_iff_lt, Int64.not_lt, and_true, true_and]

end Issued

end Liteway.Core
