import Liteway.Core.FragMachine
import Liteway.Daemon.Routes

/-!
# A received datagram cannot stop the daemon

On the way from the socket to the TUN device a datagram meets fixed offsets,
lengths it chooses itself and a slot number it brings along.  All of them stay in
range, whatever the bytes are and whatever was received before.
-/

namespace Liteway.Daemon

open Liteway.Library Liteway.Core

/-! ## IP packets -/

namespace Machine

def parseIpAt (v4Start v6Start : Nat) (packet : ByteString) : OptionT Checked IpAddr := do
  let first ← ofOption packet.head?
  if first >>> 4 = 4 ∧ 20 ≤ packet.length then
    let octets ← Checked.toArray 4 (← Checked.slice packet v4Start (v4Start + 4))
    pure (.v4 (BitVec.ofNat 32 (decodeNatBE octets.toList)))
  else if first >>> 4 = 6 ∧ 40 ≤ packet.length then
    let octets ← Checked.toArray 16 (← Checked.slice packet v6Start (v6Start + 16))
    pure (.v6 (BitVec.ofNat 128 (decodeNatBE octets.toList)))
  else
    failure

def parseSourceIp : ByteString → OptionT Checked IpAddr := parseIpAt 12 8

def parseDestIp : ByteString → OptionT Checked IpAddr := parseIpAt 16 24

end Machine

theorem returns_parseIpAt {v4Start v6Start : Nat} (hv4 : v4Start + 4 ≤ 20)
    (hv6 : v6Start + 16 ≤ 40) (packet : ByteString) :
    Returns (Machine.parseIpAt v4Start v6Start packet)
      (parseIpAt v4Start v6Start hv4 hv6 packet) := by
  unfold Machine.parseIpAt parseIpAt
  cases packet.head? with
  | none => exact returns_failure
  | some first =>
      apply (returns_ofOption (some first)).bind_some
      by_cases h4 : first >>> 4 = 4 ∧ 20 ≤ packet.length
      · simp only [if_pos h4, dif_pos h4]
        exact Returns.field (Nat.le_trans hv4 h4.2) (returns_pure _)
      simp only [if_neg h4, dif_neg h4]
      by_cases h6 : first >>> 4 = 6 ∧ 40 ≤ packet.length
      · simp only [if_pos h6, dif_pos h6]
        exact Returns.field (Nat.le_trans hv6 h6.2) (returns_pure _)
      simp only [if_neg h6, dif_neg h6]
      exact returns_failure

/-! ## The receive path -/

/-- No operation on the received bytes panics, and every function returns what the
model says. -/
structure ReceivesSafely (lib : Primitives) (asm : FragmentAssembler) (data : Slice) : Prop where
  header : ∀ networkKey, Returns (Core.Machine.networkHeader lib data.bytes networkKey)
    (networkHeader lib data.bytes networkKey)
  packet : Returns (Core.Machine.deserializePacket data.bytes) (deserializePacket data.bytes)
  opened : ∀ networkKey, Returns (Core.Machine.openHandshake lib networkKey data.bytes)
    (openHandshake lib networkKey data.bytes)
  fed : ∀ now src networkKey, Core.Machine.feed lib asm now src data.bytes networkKey =
    .ok (asm.feed lib now src data.bytes networkKey)
  decrypted : ∀ networkKey sessionKey,
    Returns (Core.Machine.decryptPacket lib data.bytes networkKey sessionKey)
      (decryptPacket lib data.bytes networkKey sessionKey)
  request : ∀ caVk now, Results (Core.Machine.parseHandshake1 lib data.bytes caVk now)
    (parseHandshake1 lib data.bytes caVk now)
  reply : ∀ expectedHs1Msg caVk now,
    Results (Core.Machine.parseHandshake2 lib data.bytes expectedHs1Msg caVk now)
      (parseHandshake2 lib data.bytes expectedHs1Msg caVk now)
  source : Returns (Machine.parseSourceIp data.bytes) (parseSourceIp data.bytes)
  destination : Returns (Machine.parseDestIp data.bytes) (parseDestIp data.bytes)

/-- Bytes that end too early, fields that reach beyond the end and slot numbers
beyond the number of slots are turned away. -/
structure RejectsMalformed (lib : Primitives) (asm : FragmentAssembler) (data : Slice) : Prop where
  datagram : data.bytes.length < minPacketLen → ∀ networkKey,
    networkHeader lib data.bytes networkKey = none ∧ deserializePacket data.bytes = none ∧
      openHandshake lib networkKey data.bytes = none ∧
      (∀ sessionKey, decryptPacket lib data.bytes networkKey sessionKey = none) ∧
      ∀ now src, asm.feed lib now src data.bytes networkKey = (.notFragment, asm)
  field : ∀ (rd : Cursor) (len : Nat), rd.data = data.bytes → len ≤ isizeMax →
    data.bytes.length < rd.pos + len → Returns ((Reader.of rd).bytes len) none
  index : ∀ now src (fragment : Fragment), fragment.total ≤ fragment.index →
    Core.Machine.feedFragment asm now src fragment = .ok (.buffered, asm)
  handshake1 :
    data.bytes.length < 1 + 1 + 2 + 8 + 16 + 4 + 32 + mlkemPkLen + 4 + ed25519SigLen + mldsaSigLen →
      ∀ caVk now, parseHandshake1 lib data.bytes caVk now = .error .tooShort1
  handshake2 :
    data.bytes.length <
        1 + 1 + 2 + 8 + 16 + 4 + 32 + mlkemCtLen + 32 + 4 + ed25519SigLen + mldsaSigLen →
      ∀ expectedHs1Msg caVk now,
        parseHandshake2 lib data.bytes expectedHs1Msg caVk now = .error .tooShort2
  ipHeader : data.bytes.length < 20 →
    parseSourceIp data.bytes = none ∧ parseDestIp data.bytes = none

theorem receivesSafely {lib : Primitives} (hfits : lib.PlaintextFits) {asm : FragmentAssembler}
    (hasm : asm.Accounted) (data : Slice) : ReceivesSafely lib asm data where
  header networkKey := Core.Machine.returns_networkHeader lib data.bytes networkKey
  packet := Core.Machine.returns_deserializePacket data.bytes
  opened networkKey := Core.Machine.returns_openHandshake hfits networkKey data
  fed now src networkKey := Core.Machine.feed_eq_ok hfits hasm now src data networkKey
  decrypted networkKey sessionKey :=
    Core.Machine.returns_decryptPacket hfits data networkKey sessionKey
  request caVk now := Core.Machine.results_parseHandshake1 lib data caVk now
  reply expectedHs1Msg caVk now :=
    Core.Machine.results_parseHandshake2 lib data expectedHs1Msg caVk now
  source := returns_parseIpAt (by decide) (by decide) data.bytes
  destination := returns_parseIpAt (by decide) (by decide) data.bytes

theorem parseIpAt_of_short {v4Start v6Start : Nat} (hv4 : v4Start + 4 ≤ 20)
    (hv6 : v6Start + 16 ≤ 40) {packet : ByteString} (h : packet.length < 20) :
    parseIpAt v4Start v6Start hv4 hv6 packet = none := by
  unfold parseIpAt
  cases packet.head? with
  | none => rfl
  | some first =>
      have h4 : ¬ (first >>> 4 = 4 ∧ 20 ≤ packet.length) := by omega
      have h6 : ¬ (first >>> 4 = 6 ∧ 40 ≤ packet.length) := by omega
      simp only [dif_neg h4, dif_neg h6]

theorem rejectsMalformed (lib : Primitives) (asm : FragmentAssembler) (data : Slice) :
    RejectsMalformed lib asm data where
  datagram hshort networkKey := by
    have hpacket : deserializePacket data.bytes = none := dif_pos hshort
    have hopened : openHandshake lib networkKey data.bytes = none := by
      unfold openHandshake
      rw [hpacket]
      rfl
    refine ⟨dif_pos hshort, hpacket, hopened, ?_, ?_⟩
    · intro sessionKey
      unfold decryptPacket
      rw [hpacket]
      rfl
    · intro now src
      unfold FragmentAssembler.feed FragmentAssembler.openFragment
      rw [hopened]
  field rd len hrd hlen hbeyond := by
    have hnone : rd.bytes len = none := dif_neg (by rw [hrd]; omega)
    have hreads := (reads_bytes hrd hlen).returns
    rw [hnone] at hreads
    exact hreads
  index now src fragment h := if_pos (.inl h)
  handshake1 hshort caVk now := by
    unfold parseHandshake1
    exact ensure_bind_of_not (Nat.not_le.mpr hshort) _
  handshake2 hshort expectedHs1Msg caVk now := by
    unfold parseHandshake2
    exact ensure_bind_of_not (Nat.not_le.mpr hshort) _
  ipHeader h := ⟨parseIpAt_of_short _ _ h, parseIpAt_of_short _ _ h⟩

/-- Whatever was received before, the next bytes do not make the daemon panic. -/
theorem receive_path_never_panics {lib : Primitives} (hfits : lib.PlaintextFits)
    (calls : List FragmentCall) (data : Slice) :
    ReceivesSafely lib (FragmentAssembler.new.calls lib calls) data ∧
      RejectsMalformed lib (FragmentAssembler.new.calls lib calls) data :=
  ⟨receivesSafely hfits (FragmentAssembler.calls_new_accounted lib calls) data,
    rejectsMalformed lib _ data⟩

theorem transparent_plaintextFits (known : List Cert) : (transparent known).PlaintextFits := by
  intro key nonce ciphertext aad plaintext h
  simp only [transparent] at h
  split at h
  · cases h
    exact List.length_take_le' _ _
  · contradiction

/-- A fragment that waits for its second half, and then sixty bytes of nothing. -/
theorem zeros_after_a_fragment :
    (transparent []).PlaintextFits ∧
      ReceivesSafely (transparent [])
        (FragmentAssembler.new.calls (transparent []) [FragmentAssembler.firstFragment [1, 2]])
        ⟨List.replicate 60 0, by decide⟩ ∧
      RejectsMalformed (transparent [])
        (FragmentAssembler.new.calls (transparent []) [FragmentAssembler.firstFragment [1, 2]])
        ⟨List.replicate 60 0, by decide⟩ :=
  ⟨transparent_plaintextFits [], receive_path_never_panics (transparent_plaintextFits []) _ _⟩

end Liteway.Daemon
