import Liteway.Core.Types

/-!
# Cryptographic and serialization primitives

The libraries the program is built on are a parameter.  `Primitives` lists the
functions that are called; `Primitives.Correct` is what their documentation
promises about honest use.  Nothing here limits an attacker: unforgeability and
collision freedom are stated where they are needed, about the messages of a run.
-/

namespace Liteway.Core

open Liteway.Library

abbrev kHeaderLen : Nat := 32
abbrev sessionKeyLen : Nat := 32
abbrev nonceLen : Nat := 12
abbrev aeadTagLen : Nat := 16
abbrev mlkemPkLen : Nat := 1184
abbrev mlkemSkLen : Nat := 64
abbrev mlkemCtLen : Nat := 1088
abbrev ed25519SigLen : Nat := 64
abbrev mldsaSigLen : Nat := 3309

abbrev NetworkKey := Bytes kHeaderLen
abbrev SessionKey := Bytes sessionKeyLen

structure Primitives where
  blake3Hash : ByteString → Bytes 32
  blake3KeyedHash : Bytes 32 → ByteString → Bytes 32
  blake3DeriveKey : String → ByteString → Bytes 32
  aeadEncrypt : Bytes kHeaderLen → Bytes nonceLen → ByteString → ByteString → ByteString
  aeadDecrypt : Bytes kHeaderLen → Bytes nonceLen → ByteString → ByteString → Option ByteString
  ed25519Public : Bytes 32 → Bytes 32
  ed25519Sign : Bytes 32 → ByteString → Bytes ed25519SigLen
  ed25519VerifyStrict : Bytes 32 → ByteString → Bytes ed25519SigLen → Bool
  mlDsaPublic : Bytes 32 → Bytes 1952
  mlDsaSign : Bytes 32 → ByteString → Bytes mldsaSigLen
  mlDsaVerify : Bytes 1952 → ByteString → Bytes mldsaSigLen → Bool
  x25519Public : Bytes 32 → Bytes 32
  x25519DiffieHellman : Bytes 32 → Bytes 32 → Bytes 32
  mlKemPublic : Bytes mlkemSkLen → Bytes mlkemPkLen
  /-- Whether `MlKemPublicKey::new_from_slice` accepts the encoded key. -/
  mlKemPublicValid : Bytes mlkemPkLen → Bool
  mlKemEncapsulate : Bytes mlkemPkLen → Bytes 32 → Bytes mlkemCtLen × Bytes 32
  mlKemDecapsulate : Bytes mlkemSkLen → Bytes mlkemCtLen → Bytes 32
  certBodyToVec : CertBody → ByteString
  certToVec : Cert → ByteString
  certFromSlice : ByteString → Option Cert
  ipAddrToString : IpAddr → String
  ipAddrParse : String → Option IpAddr
  socketAddrToString : SocketAddr → String
  socketAddrParse : String → Option SocketAddr
  ipNetworkParse : String → Option IpNetwork

/-- What honest use of the libraries relies on. -/
structure Primitives.Correct (lib : Primitives) : Prop where
  aead_decrypt_encrypt : ∀ key nonce plaintext aad,
    lib.aeadDecrypt key nonce (lib.aeadEncrypt key nonce plaintext aad) aad = some plaintext
  aead_encrypt_length : ∀ key nonce plaintext aad,
    (lib.aeadEncrypt key nonce plaintext aad).length = plaintext.length + aeadTagLen
  diffieHellman_comm : ∀ left right,
    lib.x25519DiffieHellman left (lib.x25519Public right) =
      lib.x25519DiffieHellman right (lib.x25519Public left)
  mlKem_public_valid : ∀ seed, lib.mlKemPublicValid (lib.mlKemPublic seed) = true
  mlKem_decapsulate_encapsulate : ∀ seed coins,
    lib.mlKemDecapsulate seed (lib.mlKemEncapsulate (lib.mlKemPublic seed) coins).1 =
      (lib.mlKemEncapsulate (lib.mlKemPublic seed) coins).2
  ed25519_verify_sign : ∀ sk msg,
    lib.ed25519VerifyStrict (lib.ed25519Public sk) msg (lib.ed25519Sign sk msg) = true
  mlDsa_verify_sign : ∀ seed msg,
    lib.mlDsaVerify (lib.mlDsaPublic seed) msg (lib.mlDsaSign seed msg) = true
  cert_fromSlice_toVec : ∀ cert, lib.certFromSlice (lib.certToVec cert) = some cert

/-- The part of it that sealing and opening rest on. -/
structure Primitives.AeadCorrect (lib : Primitives) : Prop where
  decrypt_encrypt : ∀ key nonce plaintext aad,
    lib.aeadDecrypt key nonce (lib.aeadEncrypt key nonce plaintext aad) aad = some plaintext
  encrypt_length : ∀ key nonce plaintext aad,
    (lib.aeadEncrypt key nonce plaintext aad).length = plaintext.length + aeadTagLen

theorem Primitives.Correct.aead {lib : Primitives} (hlib : lib.Correct) : lib.AeadCorrect :=
  ⟨hlib.aead_decrypt_encrypt, hlib.aead_encrypt_length⟩

theorem Primitives.Correct.withTexts {lib : Primitives} (hlib : lib.Correct)
    (ipAddrToString : IpAddr → String) (ipAddrParse : String → Option IpAddr)
    (socketAddrToString : SocketAddr → String) (socketAddrParse : String → Option SocketAddr)
    (ipNetworkParse : String → Option IpNetwork) :
    ({ lib with
      ipAddrToString := ipAddrToString
      ipAddrParse := ipAddrParse
      socketAddrToString := socketAddrToString
      socketAddrParse := socketAddrParse
      ipNetworkParse := ipNetworkParse }).Correct :=
  ⟨hlib.1, hlib.2, hlib.3, hlib.4, hlib.5, hlib.6, hlib.7, hlib.8⟩

section Wrappers

variable (lib : Primitives)

def hybridSign (sk : HybridSigningKey) (msg : ByteString) : HybridSignature :=
  { ed25519 := lib.ed25519Sign sk.ed25519 msg
    mlDsa := lib.mlDsaSign sk.mlDsaSeed msg }

/-- Both halves must verify. -/
def hybridVerify (vk : HybridVerifyKey) (msg : ByteString) (sig : HybridSignature) : Bool :=
  if !lib.ed25519VerifyStrict vk.ed25519 msg sig.ed25519 then false
  else lib.mlDsaVerify vk.mlDsa msg sig.mlDsa

def HybridSigningKey.public (sk : HybridSigningKey) : HybridVerifyKey :=
  { ed25519 := lib.ed25519Public sk.ed25519
    mlDsa := lib.mlDsaPublic sk.mlDsaSeed }

def deriveLabeledKey (context : String) (input : ByteString) : Bytes sessionKeyLen :=
  lib.blake3DeriveKey context input

def deriveNetworkKey (networkSecret : ByteString) : NetworkKey :=
  lib.blake3DeriveKey "liteway-network-key-v1" networkSecret

/-- The verification key a certificate speaks for. -/
def Cert.verifyKey (cert : Cert) : HybridVerifyKey :=
  { ed25519 := cert.body.keys.ed25519Pk
    mlDsa := cert.body.keys.mlDsaPk }

/-- `unixTime` is the reading of the wall clock, in seconds. -/
def Cert.verify (cert : Cert) (caVk : HybridVerifyKey) (unixTime : UInt64) : Bool :=
  if cert.body.info.isCa then false
  else
    let now := unixTime.toInt64
    if now < cert.body.info.notBefore.timestamp || now > cert.body.info.notAfter.timestamp then false
    else hybridVerify lib caVk (lib.certBodyToVec cert.body) cert.signature

end Wrappers

theorem Cert.verify_eq_true_iff {lib : Primitives} {cert : Cert} {caVk : HybridVerifyKey}
    {unixTime : UInt64} :
    cert.verify lib caVk unixTime = true ↔
      cert.body.info.isCa = false ∧ ¬ unixTime.toInt64 < cert.body.info.notBefore.timestamp ∧
        ¬ unixTime.toInt64 > cert.body.info.notAfter.timestamp ∧
        hybridVerify lib caVk (lib.certBodyToVec cert.body) cert.signature = true := by
  unfold Cert.verify
  cases cert.body.info.isCa <;> simp [and_assoc]

theorem hybridVerify_hybridSign {lib : Primitives} (hlib : lib.Correct) (sk : HybridSigningKey)
    (msg : ByteString) : hybridVerify lib (sk.public lib) msg (hybridSign lib sk msg) = true := by
  simp [hybridVerify, hybridSign, HybridSigningKey.public, hlib.ed25519_verify_sign,
    hlib.mlDsa_verify_sign]

end Liteway.Core
