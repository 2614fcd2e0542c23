import Liteway.Library.Bytes

/-!
# Hexadecimal text

A codec that writes bytes with two lower-case digits each and reads them whatever the
case, as an instance of that law.
-/

namespace Liteway.Library

def hexDigit (n : Nat) : Char := Char.ofNat (if n < 10 then 48 + n else 87 + n)

def hexValue? (c : Char) : Option Nat :=
  if 48 ≤ c.toNat ∧ c.toNat ≤ 57 then some (c.toNat - 48)
  else if 65 ≤ c.toNat ∧ c.toNat ≤ 70 then some (c.toNat - 55)
  else if 97 ≤ c.toNat ∧ c.toNat ≤ 102 then some (c.toNat - 87)
  else none

def hexChars (data : ByteString) : List Char :=
  data.flatMap fun byte => [hexDigit (byte.toNat / 16), hexDigit (byte.toNat % 16)]

def hexEncode (data : ByteString) : String := String.ofList (hexChars data)

def decodeHexChars : List Char → Option ByteString
  | [] => some []
  | [_] => none
  | high :: low :: rest => do
      let high ← hexValue? high
      let low ← hexValue? low
      let rest ← decodeHexChars rest
      pure (UInt8.ofNat (16 * high + low) :: rest)

def hexDecode (text : String) : Option ByteString := decodeHexChars text.toList

/-! ## Digits -/

theorem hexValue?_lt {c : Char} {n : Nat} (h : hexValue? c = some n) : n < 16 ∧ c.toNat < 103 := by
  unfold hexValue? at h
  split at h
  · cases h
    omega
  split at h
  · cases h
    omega
  split at h
  · cases h
    omega
  · contradiction

private theorem toNat_le_toLower (c : Char) : c.toNat ≤ c.toLower.toNat := by
  unfold Char.toLower
  split
  · next h =>
      have hle : c.val.toNat ≤ 90 := h.2
      change c.val.toNat ≤ (c.val + 32).toNat
      rw [UInt32.toNat_add]
      have hsmall : c.val.toNat + 32 < 2 ^ 32 := by omega
      change c.val.toNat ≤ (c.val.toNat + 32) % 2 ^ 32
      rw [Nat.mod_eq_of_lt hsmall]
      exact Nat.le_add_right _ _
  · exact Nat.le_refl _

private theorem hexDigit_lt : ∀ n < 16, (hexDigit n).toNat < 103 := by decide

private theorem toLower_of_code : ∀ code < 103, ∀ n < 16,
    hexValue? (Char.ofNat code) = some n ↔ (Char.ofNat code).toLower = hexDigit n := by
  decide +kernel

theorem hexValue?_eq_some_iff {c : Char} {n : Nat} :
    hexValue? c = some n ↔ n < 16 ∧ c.toLower = hexDigit n := by
  have hcode (hlt : c.toNat < 103) (hn : n < 16) := toLower_of_code c.toNat hlt n hn
  rw [Char.ofNat_toNat] at hcode
  constructor
  · intro h
    obtain ⟨hn, hlt⟩ := hexValue?_lt h
    exact ⟨hn, (hcode hlt hn).mp h⟩
  · rintro ⟨hn, h⟩
    have hlt := Nat.lt_of_le_of_lt (h ▸ toNat_le_toLower c) (hexDigit_lt n hn)
    exact (hcode hlt hn).mpr h

/-! ## Texts -/

theorem hexChars_cons (byte : UInt8) (data : ByteString) :
    hexChars (byte :: data) =
      hexDigit (byte.toNat / 16) :: hexDigit (byte.toNat % 16) :: hexChars data := rfl

/-- What is read is what is written, whatever the case. -/
theorem decodeHexChars_eq_some_iff {text : List Char} {data : ByteString} :
    decodeHexChars text = some data ↔ text.map Char.toLower = hexChars data := by
  fun_induction decodeHexChars text generalizing data with
  | case1 =>
      cases data with
      | nil => exact ⟨fun _ => rfl, fun _ => rfl⟩
      | cons byte data => simp [hexChars_cons]
  | case2 c =>
      cases data with
      | nil => simp [hexChars]
      | cons byte data => simp [hexChars_cons]
  | case3 high low rest ih =>
      simp only [Option.bind_eq_bind, Option.bind_eq_some_iff, Option.pure_def, Option.some.injEq,
        hexValue?_eq_some_iff, ih]
      constructor
      · rintro ⟨left, ⟨hleft, hhigh⟩, right, ⟨hright, hlow⟩, tail, htail, rfl⟩
        have hvalue : (UInt8.ofNat (16 * left + right)).toNat = 16 * left + right :=
          UInt8.toNat_ofNat_of_lt' (show 16 * left + right < 2 ^ 8 by omega)
        rw [List.map_cons, List.map_cons, hexChars_cons, hvalue, hhigh, hlow, htail,
          show (16 * left + right) / 16 = left by omega,
          show (16 * left + right) % 16 = right by omega]
      · intro h
        cases data with
        | nil => contradiction
        | cons byte data =>
            have hbyte := byte.toNat_lt
            have hvalue : 16 * (byte.toNat / 16) + byte.toNat % 16 = byte.toNat := by omega
            rw [List.map_cons, List.map_cons, hexChars_cons] at h
            injection h with hhigh h
            injection h with hlow hrest
            refine ⟨_, ⟨by omega, hhigh⟩, _, ⟨by omega, hlow⟩, data, hrest, ?_⟩
            rw [hvalue, UInt8.ofNat_toNat]

theorem toList_toLower (text : String) : text.toLower.toList = text.toList.map Char.toLower :=
  String.toList_map

theorem hexDecode_eq_some_iff {text : String} {data : ByteString} :
    hexDecode text = some data ↔ text.toLower = hexEncode data := by
  unfold hexDecode hexEncode
  rw [decodeHexChars_eq_some_iff, ← String.toList_inj, toList_toLower, String.toList_ofList]

private theorem toLower_hexDigit : ∀ n < 16, (hexDigit n).toLower = hexDigit n := by decide

theorem map_toLower_hexChars (data : ByteString) :
    (hexChars data).map Char.toLower = hexChars data := by
  induction data with
  | nil => rfl
  | cons byte data ih =>
      have hbyte := byte.toNat_lt
      rw [hexChars_cons, List.map_cons, List.map_cons, toLower_hexDigit _ (by omega),
        toLower_hexDigit _ (by omega), ih]

@[simp] theorem toLower_hexEncode (data : ByteString) : (hexEncode data).toLower = hexEncode data := by
  unfold hexEncode
  rw [← String.toList_inj, toList_toLower, String.toList_ofList, map_toLower_hexChars]

end Liteway.Library
