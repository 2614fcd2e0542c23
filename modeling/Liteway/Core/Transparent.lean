import Liteway.Core.HandshakeRoundTrip
import Mathlib.Data.Countable.Basic
import Mathlib.Logic.Equiv.List

/-!
# Transparent primitives

A concrete choice of the primitives that satisfies `Primitives.Correct` and keeps
nothing secret: a ciphertext is its plaintext with a tag, a signature shows its
key and the digest of its message, and a digest is the start of its input.  The
encoding of a certificate ends with the name on it and is short for the
certificates of a given list.
-/

namespace Liteway.Core

open Liteway.Library

/-! ## Bytes and certificates -/

/-- The first `n` bytes, filled up with zeros. -/
def fit (n : Nat) (data : ByteString) : Bytes n := Vector.ofFn fun i => data[i.val]?.getD 0

instance countableUInt8 : Countable UInt8 := by
  apply Function.Injective.countable (f := UInt8.toNat)
  exact fun _ _ h => UInt8.toNat_inj.mp h

instance countableUInt32 : Countable UInt32 := by
  apply Function.Injective.countable (f := UInt32.toNat)
  exact fun _ _ h => UInt32.toNat_inj.mp h

instance countableInt64 : Countable Int64 := by
  apply Function.Injective.countable (f := Int64.toInt)
  exact fun _ _ h => Int64.toInt_inj.mp h

instance countableChar : Countable Char := by
  apply Function.Injective.countable (f := Char.toNat)
  exact fun _ _ h => Char.ext (UInt32.toNat_inj.mp h)

instance countableString : Countable String := by
  apply Function.Injective.countable (f := String.toList)
  exact fun _ _ h => String.toList_inj.mp h

instance countableBytes : Countable (Bytes n) := by
  apply Function.Injective.countable (f := Vector.toList)
  exact fun _ _ h => Vector.toList_inj.mp h

/-- All that a certificate consists of. -/
def Cert.fields (cert : Cert) :
    (String × Bool × (Int64 × UInt32) × (Int64 × UInt32) × List String) ×
      (Bytes 32 × Bytes 1952) × Option (String × List String) × (Bytes 64 × Bytes 3309) :=
  ((cert.body.info.name, cert.body.info.isCa,
      (cert.body.info.notBefore.timestamp, cert.body.info.notBefore.subsecNanos),
      (cert.body.info.notAfter.timestamp, cert.body.info.notAfter.subsecNanos),
      cert.body.info.groups),
    (cert.body.keys.ed25519Pk, cert.body.keys.mlDsaPk),
    cert.body.addresses.map (fun addresses => (addresses.ip, addresses.subnets)),
    (cert.signature.ed25519, cert.signature.mlDsa))

theorem Cert.fields_injective : Function.Injective Cert.fields := by
  rintro ⟨⟨⟨_, _, ⟨_, _⟩, ⟨_, _⟩, _⟩, ⟨_, _⟩, left⟩, ⟨_, _⟩⟩
    ⟨⟨⟨_, _, ⟨_, _⟩, ⟨_, _⟩, _⟩, ⟨_, _⟩, right⟩, ⟨_, _⟩⟩ h
  have haddresses : left = right := by
    apply Option.map_injective _ (congrArg (fun fields => fields.2.2.1) h)
    rintro ⟨_, _⟩ ⟨_, _⟩ heq
    simpa using heq
  subst haddresses
  simp only [Cert.fields, Prod.mk.injEq] at h
  obtain ⟨⟨rfl, rfl, ⟨rfl, rfl⟩, ⟨rfl, rfl⟩, rfl⟩, ⟨rfl, rfl⟩, -, rfl, rfl⟩ := h
  rfl

instance countableCert : Countable Cert := Cert.fields_injective.countable

/-- A number for every certificate, small for those of `known`. -/
noncomputable def certCode (known : List Cert) (cert : Cert) : Nat :=
  letI := Encodable.ofCountable Cert
  if cert ∈ known then known.idxOf cert else known.length + Encodable.encode cert

noncomputable def certOfCode (known : List Cert) (code : Nat) : Option Cert :=
  letI := Encodable.ofCountable Cert
  if code < known.length then known[code]? else Encodable.decode (code - known.length)

theorem certOfCode_certCode (known : List Cert) (cert : Cert) :
    certOfCode known (certCode known cert) = some cert := by
  unfold certOfCode certCode
  by_cases hmem : cert ∈ known
  · have hlt := List.idxOf_lt_length_of_mem hmem
    simp only [hmem, ↓reduceIte, hlt]
    rw [List.getElem?_eq_getElem hlt, List.getElem_idxOf]
  · simp [hmem]

theorem certCode_lt {known : List Cert} {cert : Cert} (hmem : cert ∈ known) :
    certCode known cert < known.length := by
  unfold certCode
  simp only [hmem, ↓reduceIte]
  exact List.idxOf_lt_length_of_mem hmem

theorem certCode_head (cert : Cert) (rest : List Cert) : certCode (cert :: rest) cert = 0 := by
  simp [certCode]

/-! ## The primitives -/

/-- The tag shows the key. -/
def tag (key : Bytes 32) : ByteString := key.toList.take 16

/-- The last 16 bytes, backwards, and then the first ones. -/
def digest (data : ByteString) : Bytes 32 := fit 32 (data.reverse.take 16 ++ data)

/-- A key repeated as often as it fits. -/
def spread (n : Nat) (seed : Bytes 32) : Bytes n :=
  Vector.ofFn fun i => seed[i.val % 32]

def signature (n : Nat) (pk msg : ByteString) : Bytes n := fit n ((digest msg).toList ++ pk)

/-- The network a text stands for, for the addresses of a given table. -/
def hostOf (table : List (String × BitVec 32)) (text : String) : Option IpNetwork :=
  (table.lookup text).map fun octets => ⟨.v4 octets, 24, by change 24 ≤ 32; decide⟩

noncomputable def transparent (known : List Cert) : Primitives where
  blake3Hash data := digest data
  blake3KeyedHash key data := digest (key.toList ++ data)
  blake3DeriveKey _ data := digest data
  aeadEncrypt key _ plaintext _ := plaintext ++ tag key
  aeadDecrypt key _ ciphertext _ :=
    if ciphertext.drop (ciphertext.length - 16) = tag key then
      some (ciphertext.take (ciphertext.length - 16))
    else none
  ed25519Public sk := sk
  ed25519Sign sk msg := signature 64 sk.toList msg
  ed25519VerifyStrict pk msg sig := sig = signature 64 pk.toList msg
  mlDsaPublic seed := spread 1952 seed
  mlDsaSign seed msg := signature 3309 (spread 1952 seed).toList msg
  mlDsaVerify pk msg sig := sig = signature 3309 pk.toList msg
  x25519Public sk := sk
  x25519DiffieHellman sk pk := Vector.zipWith (· + ·) sk pk
  mlKemPublic seed := fit mlkemPkLen seed.toList
  mlKemPublicValid _ := true
  mlKemEncapsulate _ coins := (fit mlkemCtLen coins.toList, coins)
  mlKemDecapsulate _ ct := fit 32 ct.toList
  certBodyToVec body := body.info.name.toList.map fun c => UInt8.ofNat c.toNat
  certToVec cert := List.replicate (certCode known cert) 0 ++
    (1 :: cert.body.info.name.toList.map fun c => UInt8.ofNat c.toNat)
  certFromSlice data :=
    if 1 ∈ data then certOfCode known (data.takeWhile (· == 0)).length else none
  ipAddrToString _ := ""
  ipAddrParse _ := none
  socketAddrToString _ := ""
  socketAddrParse _ := none
  ipNetworkParse := hostOf [("10.0.0.1/24", 0x0A000001#32), ("10.0.0.2/24", 0x0A000002#32)]

theorem transparent_correct (known : List Cert) : (transparent known).Correct := by
  constructor
  · intro key nonce plaintext aad
    have hlen : (plaintext ++ tag key).length - 16 = plaintext.length := by simp [tag]
    simp only [transparent, hlen, List.drop_left, List.take_left, ↓reduceIte]
  · intro key nonce plaintext aad
    simp [transparent, tag]
  · intro left right
    apply Vector.ext
    intro i hi
    simp [transparent, UInt8.add_comm]
  · intro seed
    rfl
  · intro seed coins
    apply Vector.ext
    intro i hi
    have hct : i < mlkemCtLen := Nat.lt_trans hi (by decide)
    simp [transparent, fit, hct]
  · intro sk msg
    simp [transparent]
  · intro seed msg
    simp [transparent]
  · intro cert
    have hzeros : (List.replicate (certCode known cert) (0 : UInt8) ++
        (1 :: cert.body.info.name.toList.map fun c => UInt8.ofNat c.toNat)).takeWhile (· == 0) =
        List.replicate (certCode known cert) 0 := by
      rw [List.takeWhile_append_of_pos (by simp)]
      simp
    simp only [transparent, hzeros, List.length_replicate, certOfCode_certCode]
    simp

/-! ## Digests that differ -/

theorem getElem_fit {n : Nat} {data : ByteString} {i : Nat} (hi : i < n) (hdata : i < data.length) :
    (fit n data)[i] = data[i] := by
  simp [fit, hdata]

theorem digest_start {data : ByteString} (hlen : 16 ≤ data.length) {i : Nat} (hi : i < 16) :
    (digest data)[16 + i] = data[i] := by
  have htake : (data.reverse.take 16).length = 16 := by simp [hlen]
  unfold digest
  rw [getElem_fit (by omega) (by simp; omega), List.getElem_append_right (by omega)]
  simp [htake]

theorem digest_end (data : ByteString) (last : Bytes n) {i : Nat} (hi : i < 16) (hn : 16 ≤ n) :
    (digest (data ++ last.toList))[i] = last[n - 1 - i] := by
  have htake : i < ((data ++ last.toList).reverse.take 16).length := by
    simp
    omega
  unfold digest
  rw [getElem_fit (by omega) (by rw [List.length_append]; omega), List.getElem_append_left htake]
  simp only [List.getElem_take, List.getElem_reverse]
  rw [List.getElem_append_right (by simp; omega)]
  simp only [List.length_append, Vector.length_toList, Vector.getElem_toList]
  congr 1
  omega

private theorem length_seal_ge {lib : Primitives} (coins : SealCoins) (networkKey : NetworkKey)
    (plaintext : ByteString) (dstPeerId sessionId : UInt32) :
    16 ≤ (sealHandshakeWithHeader lib coins networkKey plaintext dstPeerId sessionId).length := by
  simp only [sealHandshakeWithHeader, List.length_append, Vector.length_toList, maskNonceLen,
    networkHeaderLen]
  omega

theorem maskNonce_eq_of_digest {lib : Primitives} {coins coins' : SealCoins}
    {networkKey : NetworkKey} {plaintext plaintext' : ByteString}
    {dstPeerId dstPeerId' sessionId sessionId' : UInt32}
    (h : ∀ (i : Nat) (hi : i < 16),
      (digest (sealHandshakeWithHeader lib coins networkKey plaintext dstPeerId sessionId))[16 + i] =
      (digest (sealHandshakeWithHeader lib coins' networkKey plaintext' dstPeerId'
        sessionId'))[16 + i]) :
    coins.maskNonce = coins'.maskNonce := by
  apply Vector.ext
  intro i hi
  have hbyte := h i (Nat.lt_trans hi (by decide))
  rw [digest_start (length_seal_ge _ _ _ _ _) (Nat.lt_trans hi (by decide)),
    digest_start (length_seal_ge _ _ _ _ _) (Nat.lt_trans hi (by decide))] at hbyte
  simpa [sealHandshakeWithHeader, hi] using hbyte

theorem length_certToVec (known : List Cert) (cert : Cert) :
    ((transparent known).certToVec cert).length =
      certCode known cert + 1 + cert.body.info.name.length := by
  simp only [transparent, List.length_append, List.length_replicate, List.length_cons,
    List.length_map, String.length_toList]
  omega

/-! ## Sample values -/

namespace Sample

def source : SocketAddr := .v4 0x0A000001#32 4242

def networkKey : NetworkKey := Vector.replicate _ 0

/-- The random choices of a sealed packet, told apart by a byte. -/
def sealingOf (n : UInt8) : SealCoins :=
  { maskNonce := Vector.replicate _ n, nonce := Vector.replicate _ n }

def sealing : SealCoins := sealingOf 0

def padding : Padding := ⟨[], by decide⟩

/-! The session ids of the sample handshakes. -/

theorem one_ne : (1 : UInt32) ≠ 0 := by decide
theorem two_ne : (2 : UInt32) ≠ 0 := by decide
theorem three_ne : (3 : UInt32) ≠ 0 := by decide
theorem four_ne : (4 : UInt32) ≠ 0 := by decide

def initiatorCoins (n : UInt8) (rxSessionId : SessionId) : InitiatorCoins where
  ephX25519Sk := Vector.replicate _ n
  ephMlkemSeed := Vector.replicate _ n
  rxSessionId := rxSessionId
  random := Vector.replicate _ n
  padding := padding
  sealing := sealingOf n

def responderCoins (n : UInt8) (rxSessionId : SessionId) : ResponderCoins where
  rxSessionId := rxSessionId
  ephX25519Sk := Vector.replicate _ n
  encapsulation := Vector.replicate _ n
  random := Vector.replicate _ n
  padding := padding
  sealing := sealingOf n

/-- A signing key told apart by a byte. -/
def signingKey (n : UInt8) : HybridSigningKey :=
  { ed25519 := Vector.replicate _ n, mlDsaSeed := Vector.replicate _ n }

def caKey : HybridSigningKey := signingKey 0xCA

def certBody (name : String) (n : UInt8) : CertBody where
  info :=
    { name := name, isCa := false, notBefore := ⟨0, 0⟩, notAfter := ⟨1000000, 0⟩, groups := [] }
  keys := { ed25519Pk := Vector.replicate _ n, mlDsaPk := spread 1952 (Vector.replicate _ n) }
  addresses := some { ip := if n = 1 then "10.0.0.1/24" else "10.0.0.2/24", subnets := [] }

noncomputable def cert (name : String) (n : UInt8) : Cert where
  body := certBody name n
  signature := hybridSign (transparent []) caKey ((transparent []).certBodyToVec (certBody name n))

noncomputable def identity (known : List Cert) (name : String) (n : UInt8) :
    Identity (transparent known) where
  cert := cert name n
  signingKey := signingKey n
  verifyKey_eq := rfl

noncomputable def caVk : HybridVerifyKey := caKey.public (transparent [])

theorem length_certToVec_head (name : String) (rest : List Cert) :
    ((transparent (cert name 1 :: rest)).certToVec (cert name 1)).length = name.length + 1 := by
  rw [length_certToVec, certCode_head]
  change 0 + 1 + name.length = name.length + 1
  omega

theorem length_certToVec_le {known : List Cert} {name : String} {n : UInt8}
    (hknown : cert name n ∈ known) :
    ((transparent known).certToVec (cert name n)).length ≤ known.length + name.length := by
  have hcode := certCode_lt hknown
  rw [length_certToVec]
  change _ + 1 + name.length ≤ _
  omega

theorem length_certToVec_lt {known : List Cert} {name : String} {n : UInt8}
    (hknown : cert name n ∈ known) (hlen : known.length + name.length < 2 ^ 31) :
    ((transparent known).certToVec (cert name n)).length < 2 ^ 32 := by
  have hle := length_certToVec_le hknown
  omega

theorem verify_cert (known : List Cert) (name : String) (n : UInt8) {now : UInt64}
    (hbegun : ¬ now.toInt64 < 0) (hvalid : ¬ now.toInt64 > 1000000) :
    (cert name n).verify (transparent known) caVk now = true := by
  rw [Cert.verify_eq_true_iff]
  exact ⟨rfl, hbegun, hvalid, hybridVerify_hybridSign (transparent_correct known) caKey _⟩

/-- A node of the given name dials bob. -/
noncomputable def exchange (name : String) : Exchange (transparent [cert name 1, cert "bob" 2]) where
  initiator := identity _ name 1
  responder := identity _ "bob" 2
  networkKey := networkKey
  caVk := caVk
  initiatorRelay := false
  responderRelay := false
  coins := initiatorCoins 1 ⟨1, one_ne⟩
  reply := responderCoins 2 ⟨2, two_ne⟩
  created := 1000
  answered := 1000
  concluded := 1000

theorem exchange_honest (name : String) : (exchange name).Honest where
  initiator_cert :=
    verify_cert _ name 1 (show ¬ (1000 : UInt64).toInt64 < 0 by decide)
      (show ¬ (1000 : UInt64).toInt64 > 1000000 by decide)
  responder_cert :=
    verify_cert _ "bob" 2 (show ¬ (1000 : UInt64).toInt64 < 0 by decide)
      (show ¬ (1000 : UInt64).toInt64 > 1000000 by decide)
  request_clock := by
    change ClocksAgree 1000 1000
    decide
  reply_clock := by
    change ClocksAgree 1000 1000
    decide

theorem exchange_valid (name : String) (hname : name.length < 2 ^ 30) : (exchange name).Valid where
  toHonest := exchange_honest name
  initiator_len := by
    apply length_certToVec_lt List.mem_cons_self
    simp only [List.length_cons, List.length_nil]
    omega
  responder_len := length_certToVec_lt (List.mem_cons_of_mem _ List.mem_cons_self) (by
    simp only [List.length_cons, List.length_nil]
    decide)

/-- Alice dials bob. -/
noncomputable def dial : Exchange (transparent [cert "alice" 1, cert "bob" 2]) := exchange "alice"

theorem dial_valid : dial.Valid := exchange_valid "alice" (by decide)

end Sample

end Liteway.Core
