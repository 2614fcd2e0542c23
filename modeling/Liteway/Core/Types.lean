import Liteway.Library.Bytes

/-!
# Addresses, networks and certificates

The plain data that crosses module boundaries.  Times on a certificate are wall
clock times; the daemon's own timers run on a separate monotonic clock.
-/

namespace Liteway.Core

open Liteway.Library

/-- Monotonic time, in nanoseconds. -/
abbrev Instant := Nat

/-- Elapsed time, in nanoseconds. -/
abbrev Duration := Nat

def Duration.asSecs (duration : Duration) : Nat := duration / 1000000000

def Duration.fromSecs (secs : Nat) : Duration := secs * 1000000000

def Duration.max : Duration := Duration.fromSecs (2 ^ 64 - 1) + 999999999

/-- Zero when `earlier` is in fact later. -/
def Instant.durationSince (later earlier : Instant) : Duration := later - earlier

inductive IpAddr where
  | v4 (octets : BitVec 32)
  | v6 (octets : BitVec 128)
deriving DecidableEq, Repr

namespace IpAddr

/-- The longest prefix of the address family. -/
def width : IpAddr → Nat
  | .v4 _ => 32
  | .v6 _ => 128

/-- `224.0.0.0/4` and `ff00::/8`. -/
def isMulticast : IpAddr → Bool
  | .v4 octets => octets >>> 28 == 0xE#32
  | .v6 octets => octets >>> 120 == 0xFF#128

/-- `169.254.0.0/16` and `fe80::/10`. -/
def isLinkLocal : IpAddr → Bool
  | .v4 octets => octets >>> 16 == 0xA9FE#32
  | .v6 octets => octets >>> 118 == 0x3FA#128

end IpAddr

inductive SocketAddr where
  | v4 (ip : BitVec 32) (port : UInt16)
  | v6 (ip : BitVec 128) (port : UInt16) (flowinfo scopeId : UInt32)
deriving DecidableEq, Repr

/-- A network as written: the host bits of the address are kept. -/
structure IpNetwork where
  ip : IpAddr
  prefixLen : Nat
  prefixLen_le : prefixLen ≤ ip.width
deriving DecidableEq

namespace IpNetwork

/-- The `len` leading bits of a `width`-bit word. -/
def mask (width len : Nat) : BitVec width := ~~~(BitVec.allOnes width >>> len)

/-- Equality of the masked addresses, and false across address families. -/
def contains (network : IpNetwork) (ip : IpAddr) : Bool :=
  match network.ip, ip with
  | .v4 net, .v4 addr => net &&& mask 32 network.prefixLen == addr &&& mask 32 network.prefixLen
  | .v6 net, .v6 addr => net &&& mask 128 network.prefixLen == addr &&& mask 128 network.prefixLen
  | _, _ => false

/-- `IpNetwork::new`, which refuses a prefix longer than the address. -/
def new? (ip : IpAddr) (len : Nat) : Option IpNetwork :=
  if h : len ≤ ip.width then some ⟨ip, len, h⟩ else none

/-- The network address, with the host bits cleared. -/
def network (network : IpNetwork) : IpAddr :=
  match network.ip with
  | .v4 octets => .v4 (octets &&& mask 32 network.prefixLen)
  | .v6 octets => .v6 (octets &&& mask 128 network.prefixLen)

end IpNetwork

/-- An instant of the wall clock. -/
structure DateTime where
  timestamp : Int64
  subsecNanos : UInt32
deriving DecidableEq

structure CertMeta where
  name : String
  isCa : Bool
  notBefore : DateTime
  notAfter : DateTime
  groups : List String
deriving DecidableEq

structure KeyMaterial where
  ed25519Pk : Bytes 32
  mlDsaPk : Bytes 1952
deriving DecidableEq

structure NodeAddresses where
  ip : String
  subnets : List String
deriving DecidableEq

structure CertBody where
  info : CertMeta
  keys : KeyMaterial
  addresses : Option NodeAddresses
deriving DecidableEq

structure HybridSignature where
  ed25519 : Bytes 64
  mlDsa : Bytes 3309
deriving DecidableEq

structure Cert where
  body : CertBody
  signature : HybridSignature
deriving DecidableEq

structure HybridVerifyKey where
  ed25519 : Bytes 32
  mlDsa : Bytes 1952
deriving DecidableEq

/-- The secret half of a node's or an authority's signing key pair. -/
structure HybridSigningKey where
  ed25519 : Bytes 32
  mlDsaSeed : Bytes 32
deriving DecidableEq

end Liteway.Core
