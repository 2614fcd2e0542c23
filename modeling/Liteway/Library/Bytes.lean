import Mathlib.Data.Vector.Basic
import Mathlib.Tactic.Ring

/-!
# Byte strings and big-endian integers

A variable-length byte string is a list.  A fixed-size array carries its length
in its type, so a field of a record can never have the wrong size.
-/

namespace Liteway.Library

abbrev ByteString := List UInt8
abbrev Bytes (n : Nat) := Vector UInt8 n

namespace Bytes

/-- Read exactly the first `n` bytes of a string, if it has that many. -/
def ofPrefix? (n : Nat) (data : ByteString) : Option (Bytes n) :=
  if h : n ≤ data.length then
    some ⟨(data.take n).toArray, by simpa using h⟩
  else
    none

theorem ofPrefix?_eq_some_iff {data : ByteString} {value : Bytes n} :
    ofPrefix? n data = some value ↔ ∃ rest, data = value.toList ++ rest := by
  constructor
  · intro h
    unfold ofPrefix? at h
    split at h
    · simp only [Option.some.injEq] at h
      subst value
      exact ⟨data.drop n, by simp⟩
    · contradiction
  · rintro ⟨rest, rfl⟩
    unfold ofPrefix?
    rw [dif_pos (by simp)]
    congr 1
    apply Vector.toList_inj.mp
    simp

@[simp] theorem ofPrefix?_append (value : Bytes n) (rest : ByteString) :
    ofPrefix? n (value.toList ++ rest) = some value :=
  ofPrefix?_eq_some_iff.mpr ⟨rest, rfl⟩

@[simp] theorem ofPrefix?_toList (value : Bytes n) :
    ofPrefix? n value.toList = some value := by
  simpa using ofPrefix?_append value []

/-- The `n` bytes from position `start` on.  The bound is part of the call, so a
slice outside the string cannot be written. -/
def slice (data : ByteString) (start n : Nat) (h : start + n ≤ data.length) : Bytes n :=
  ⟨((data.drop start).take n).toArray, by simp; omega⟩

@[simp] theorem toList_slice (data : ByteString) (start n : Nat) (h : start + n ≤ data.length) :
    (slice data start n h).toList = (data.drop start).take n := by
  simp [slice]

theorem slice_eq {data before rest : ByteString} {value : Bytes n} {start : Nat}
    (h : start + n ≤ data.length) (hdata : data = before ++ (value.toList ++ rest))
    (hstart : before.length = start) : slice data start n h = value := by
  apply Vector.toList_inj.mp
  subst data start
  simp

theorem toList_append_inj {left right : Bytes n} {x y : ByteString}
    (h : left.toList ++ x = right.toList ++ y) : left = right ∧ x = y := by
  have hlen : left.toList.length = right.toList.length := by simp
  obtain ⟨hleft, hrest⟩ := List.append_inj h hlen
  exact ⟨Vector.toList_inj.mp hleft, hrest⟩

/-- Pointwise byte XOR. -/
def xor (left right : Bytes n) : Bytes n :=
  Vector.zipWith (· ^^^ ·) left right

theorem xor_cancel_right (left right : Bytes n) :
    xor (xor left right) right = left := by
  apply Vector.ext
  intro i hi
  simp only [xor, Vector.getElem_zipWith]
  rw [UInt8.xor_assoc]
  simp

end Bytes

/-- The `width` low-order bytes of `value`, most significant first. -/
def natBE : (width : Nat) → (value : Nat) → ByteString
  | 0, _ => []
  | width + 1, value => UInt8.ofNat (value / 256 ^ width) :: natBE width value

def decodeNatBE : ByteString → Nat
  | [] => 0
  | byte :: rest => byte.toNat * 256 ^ rest.length + decodeNatBE rest

@[simp] theorem natBE_length (width value : Nat) :
    (natBE width value).length = width := by
  induction width with
  | zero => rfl
  | succ width ih => simp [natBE, ih]

theorem decodeNatBE_natBE (width value : Nat) :
    decodeNatBE (natBE width value) = value % 256 ^ width := by
  induction width with
  | zero => simp [natBE, decodeNatBE, Nat.mod_one]
  | succ width ih =>
      rw [natBE, decodeNatBE, natBE_length, ih, pow_succ, Nat.mod_mul]
      simp only [UInt8.toNat_ofNat']
      ring

theorem decodeNatBE_lt (data : ByteString) :
    decodeNatBE data < 256 ^ data.length := by
  induction data with
  | nil => simp [decodeNatBE]
  | cons byte rest ih =>
      have hbyte : byte.toNat ≤ 255 := Nat.le_of_lt_succ byte.toNat_lt
      have hhigh : byte.toNat * 256 ^ rest.length ≤ 255 * 256 ^ rest.length :=
        Nat.mul_le_mul_right _ hbyte
      rw [decodeNatBE, List.length_cons, pow_succ]
      omega

private theorem natBE_add_mul (width low high : Nat) :
    natBE width (high * 256 ^ width + low) = natBE width low := by
  induction width generalizing high with
  | zero => rfl
  | succ width ih =>
      have hsplit : high * 256 ^ (width + 1) = high * 256 * 256 ^ width := by ring
      rw [natBE, natBE, hsplit, ih]
      congr 1
      rw [Nat.add_comm, Nat.add_mul_div_right _ _ (Nat.pow_pos (by decide))]
      apply UInt8.toNat_inj.mp
      simp [UInt8.toNat_ofNat']

theorem natBE_decodeNatBE (data : ByteString) :
    natBE data.length (decodeNatBE data) = data := by
  induction data with
  | nil => rfl
  | cons byte rest ih =>
      rw [List.length_cons, natBE, decodeNatBE, natBE_add_mul, ih]
      congr 1
      rw [Nat.add_comm, Nat.add_mul_div_right _ _ (Nat.pow_pos (by decide)),
        Nat.div_eq_of_lt (decodeNatBE_lt rest)]
      simp

def u16BE (value : UInt16) : Bytes 2 := ⟨(natBE 2 value.toNat).toArray, by simp⟩
def u32BE (value : UInt32) : Bytes 4 := ⟨(natBE 4 value.toNat).toArray, by simp⟩
def u64BE (value : UInt64) : Bytes 8 := ⟨(natBE 8 value.toNat).toArray, by simp⟩

def decodeU16BE (bytes : Bytes 2) : UInt16 := UInt16.ofNat (decodeNatBE bytes.toList)
def decodeU32BE (bytes : Bytes 4) : UInt32 := UInt32.ofNat (decodeNatBE bytes.toList)
def decodeU64BE (bytes : Bytes 8) : UInt64 := UInt64.ofNat (decodeNatBE bytes.toList)

@[simp] theorem decodeU16BE_u16BE (value : UInt16) : decodeU16BE (u16BE value) = value := by
  simp [decodeU16BE, u16BE, decodeNatBE_natBE]

@[simp] theorem decodeU32BE_u32BE (value : UInt32) : decodeU32BE (u32BE value) = value := by
  simp [decodeU32BE, u32BE, decodeNatBE_natBE]

@[simp] theorem decodeU64BE_u64BE (value : UInt64) : decodeU64BE (u64BE value) = value := by
  simp [decodeU64BE, u64BE, decodeNatBE_natBE]

private theorem natBE_decodeNatBE_mod {width : Nat} (bytes : Bytes width) :
    natBE width (decodeNatBE bytes.toList % 256 ^ width) = bytes.toList := by
  have hlt : decodeNatBE bytes.toList < 256 ^ width := by
    simpa using decodeNatBE_lt bytes.toList
  have hround := natBE_decodeNatBE bytes.toList
  rw [Vector.length_toList] at hround
  rw [Nat.mod_eq_of_lt hlt, hround]

@[simp] theorem u16BE_decodeU16BE (bytes : Bytes 2) : u16BE (decodeU16BE bytes) = bytes :=
  Vector.toList_inj.mp (natBE_decodeNatBE_mod bytes)

@[simp] theorem u32BE_decodeU32BE (bytes : Bytes 4) : u32BE (decodeU32BE bytes) = bytes :=
  Vector.toList_inj.mp (natBE_decodeNatBE_mod bytes)

@[simp] theorem u64BE_decodeU64BE (bytes : Bytes 8) : u64BE (decodeU64BE bytes) = bytes :=
  Vector.toList_inj.mp (natBE_decodeNatBE_mod bytes)

theorem u16BE_injective : Function.Injective u16BE :=
  Function.LeftInverse.injective decodeU16BE_u16BE

theorem u64BE_injective : Function.Injective u64BE :=
  Function.LeftInverse.injective decodeU64BE_u64BE

theorem u32BE_injective : Function.Injective u32BE :=
  Function.LeftInverse.injective decodeU32BE_u32BE

end Liteway.Library
