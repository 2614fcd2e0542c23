import Liteway.Library.Parsing

/-!
# The configuration of a node

The part of a configuration file that is checked before a node starts, and the
checks in their order.
-/

namespace Liteway.Core

open Liteway.Library

structure LighthouseConfig where
  name : String
  address : String
deriving DecidableEq

structure InterfaceConfig where
  name : String
  mtu : UInt16
deriving DecidableEq

structure AppConfig where
  lighthouses : List LighthouseConfig
  interface : Option InterfaceConfig
  punchIntervalSecs : UInt64
  keepaliveTimeoutSecs : UInt64
  relayFallbackTimeoutSecs : UInt64
  handshakeTimeoutSecs : UInt64
  keepaliveIntervalSecs : UInt64
  directProbeIntervalSecs : UInt64
deriving DecidableEq

/-- What is left out of a configuration file. -/
def AppConfig.default : AppConfig where
  lighthouses := []
  interface := none
  punchIntervalSecs := 10
  keepaliveTimeoutSecs := 30
  relayFallbackTimeoutSecs := 5
  handshakeTimeoutSecs := 20
  keepaliveIntervalSecs := 10
  directProbeIntervalSecs := 5

/-! ## Checks -/

inductive ConfigError where
  | zero (name : String)
  | keepaliveTimeout (timeout interval : UInt64)
  | relayFallback (fallback timeout : UInt64)
  | mtu (value : UInt16)
  | emptyAddress (name : String)
deriving DecidableEq

def ConfigError.message : ConfigError → String
  | .zero name => name ++ " must be greater than 0"
  | .keepaliveTimeout timeout interval =>
      "keepalive_timeout_secs (" ++ toString timeout ++
        ") must be greater than keepalive_interval_secs (" ++ toString interval ++
        "), otherwise every session is torn down before its keepalive can be answered"
  | .relayFallback fallback timeout =>
      "relay_fallback_timeout_secs (" ++ toString fallback ++
        ") must be smaller than handshake_timeout_secs (" ++ toString timeout ++
        "), otherwise the relay is never tried"
  | .mtu value => "interface.mtu " ++ toString value ++ " is below the IPv4 minimum of 576"
  | .emptyAddress name => "lighthouse '" ++ name ++ "' has an empty address"

/-- The characters that `str::trim` takes away. -/
def isWhiteSpace (c : Char) : Bool :=
  (0x09 ≤ c.toNat && c.toNat ≤ 0x0D) || c.toNat == 0x20 || c.toNat == 0x85 || c.toNat == 0xA0 ||
    c.toNat == 0x1680 || (0x2000 ≤ c.toNat && c.toNat ≤ 0x200A) || c.toNat == 0x2028 ||
    c.toNat == 0x2029 || c.toNat == 0x202F || c.toNat == 0x205F || c.toNat == 0x3000

/-- Nothing is left of the text once it is trimmed. -/
def isBlank (text : String) : Bool := text.toList.all isWhiteSpace

namespace AppConfig

def zeroChecks (config : AppConfig) : List (String × UInt64) :=
  [("punch_interval_secs", config.punchIntervalSecs),
    ("keepalive_timeout_secs", config.keepaliveTimeoutSecs),
    ("keepalive_interval_secs", config.keepaliveIntervalSecs),
    ("handshake_timeout_secs", config.handshakeTimeoutSecs),
    ("direct_probe_interval_secs", config.directProbeIntervalSecs),
    ("relay_fallback_timeout_secs", config.relayFallbackTimeoutSecs)]

def validate (config : AppConfig) : Except ConfigError Unit := do
  config.zeroChecks.forM fun check => ensure (check.2 ≠ 0) (ConfigError.zero check.1)
  ensure (config.keepaliveIntervalSecs < config.keepaliveTimeoutSecs)
    (.keepaliveTimeout config.keepaliveTimeoutSecs config.keepaliveIntervalSecs)
  ensure (config.relayFallbackTimeoutSecs < config.handshakeTimeoutSecs)
    (.relayFallback config.relayFallbackTimeoutSecs config.handshakeTimeoutSecs)
  config.interface.toList.forM fun iface => ensure (576 ≤ iface.mtu) (ConfigError.mtu iface.mtu)
  config.lighthouses.forM fun lighthouse =>
    ensure (isBlank lighthouse.address = false) (ConfigError.emptyAddress lighthouse.name)

theorem validate_eq_ok_iff {config : AppConfig} :
    config.validate = .ok () ↔
      (∀ check ∈ config.zeroChecks, check.2 ≠ 0) ∧
      config.keepaliveIntervalSecs < config.keepaliveTimeoutSecs ∧
      config.relayFallbackTimeoutSecs < config.handshakeTimeoutSecs ∧
      (∀ iface, config.interface = some iface → 576 ≤ iface.mtu) ∧
      ∀ lighthouse ∈ config.lighthouses, isBlank lighthouse.address = false := by
  unfold validate
  simp only [bind_eq_ok_iff, forM_ensure_eq_ok_iff, ensure_eq_ok_iff, Option.mem_toList]
  constructor
  · rintro ⟨-, hzero, -, hkeepalive, -, hfallback, -, hmtu, haddresses⟩
    exact ⟨hzero, hkeepalive, hfallback, hmtu, haddresses⟩
  · rintro ⟨hzero, hkeepalive, hfallback, hmtu, haddresses⟩
    exact ⟨(), hzero, (), hkeepalive, (), hfallback, (), hmtu, haddresses⟩

example : AppConfig.default.validate = .ok () := by decide

end AppConfig

end Liteway.Core
