import Liteway.Library.Bytes

/-!
# A reading position inside a byte string

Every read checks that the field lies inside the string before it moves the
position.  Proofs look at a cursor as the bytes already consumed followed by
the bytes still ahead, and each read has one rule in that form.
-/

namespace Liteway.Library

structure Cursor where
  data : ByteString
  pos : Nat
  pos_le : pos ≤ data.length
deriving DecidableEq

namespace Cursor

def start (data : ByteString) : Cursor := ⟨data, 0, by simp⟩

/-- The cursor that has consumed `before` and has `rest` ahead of it. -/
def split (before rest : ByteString) : Cursor := ⟨before ++ rest, before.length, by simp⟩

/-- The bytes read so far. -/
def consumed (cursor : Cursor) : ByteString := cursor.data.take cursor.pos

def bytes (len : Nat) (cursor : Cursor) : Option (ByteString × Cursor) :=
  if h : cursor.pos + len ≤ cursor.data.length then
    some (cursor.data.extract cursor.pos (cursor.pos + len), ⟨cursor.data, cursor.pos + len, h⟩)
  else
    none

def array (n : Nat) (cursor : Cursor) : Option (Bytes n × Cursor) := do
  let (chunk, cursor) ← cursor.bytes n
  let value ← Bytes.ofPrefix? n chunk
  pure (value, cursor)

def u8 (cursor : Cursor) : Option (UInt8 × Cursor) := do
  let (chunk, cursor) ← cursor.bytes 1
  let value ← chunk[0]?
  pure (value, cursor)

def u16 (cursor : Cursor) : Option (UInt16 × Cursor) := do
  let (value, cursor) ← cursor.array 2
  pure (decodeU16BE value, cursor)

def u32 (cursor : Cursor) : Option (UInt32 × Cursor) := do
  let (value, cursor) ← cursor.array 4
  pure (decodeU32BE value, cursor)

def u64 (cursor : Cursor) : Option (UInt64 × Cursor) := do
  let (value, cursor) ← cursor.array 8
  pure (decodeU64BE value, cursor)

/-- A byte string preceded by its length. -/
def vecU32 (cursor : Cursor) : Option (ByteString × Cursor) := do
  let (len, cursor) ← cursor.u32
  cursor.bytes len.toNat

@[simp] theorem consumed_split (before rest : ByteString) :
    (split before rest).consumed = before := by
  simp [consumed, split]

theorem start_eq_split (data : ByteString) : start data = split [] data := rfl

theorem bytes_split_eq_some_iff {before rest chunk : ByteString} {len : Nat} {next : Cursor} :
    (split before rest).bytes len = some (chunk, next) ↔
      chunk.length = len ∧ ∃ tail, rest = chunk ++ tail ∧ next = split (before ++ chunk) tail := by
  constructor
  · intro h
    unfold bytes at h
    split at h
    · rename_i hlen
      simp only [Cursor.split, List.length_append] at hlen
      simp only [Option.some.injEq, Prod.mk.injEq] at h
      obtain ⟨rfl, rfl⟩ := h
      have hchunk : (Cursor.split before rest).data.extract before.length (before.length + len) =
          rest.take len := by
        simp [Cursor.split, List.extract_eq_take_drop]
      refine ⟨?_, rest.drop len, ?_, ?_⟩
      · change (List.extract _ before.length (before.length + len)).length = len
        rw [hchunk, List.length_take]
        omega
      · change rest = List.extract _ before.length (before.length + len) ++ _
        rw [hchunk, List.take_append_drop]
      · change _ = Cursor.split (before ++ List.extract _ before.length (before.length + len)) _
        simp only [hchunk]
        simp [Cursor.split, Cursor.mk.injEq]
        omega
    · contradiction
  · rintro ⟨rfl, tail, rfl, rfl⟩
    unfold bytes
    rw [dif_pos (by simp [Cursor.split])]
    simp [Cursor.split, List.extract_eq_take_drop]

@[simp] theorem bytes_split_append (before chunk tail : ByteString) :
    (split before (chunk ++ tail)).bytes chunk.length =
      some (chunk, split (before ++ chunk) tail) := by
  rw [bytes_split_eq_some_iff]
  exact ⟨rfl, tail, rfl, rfl⟩

theorem array_split_eq_some_iff {before rest : ByteString} {value : Bytes n} {next : Cursor} :
    (split before rest).array n = some (value, next) ↔
      ∃ tail, rest = value.toList ++ tail ∧ next = split (before ++ value.toList) tail := by
  constructor
  · intro h
    obtain ⟨⟨chunk, cursor⟩, hbytes, h⟩ := Option.bind_eq_some_iff.mp h
    obtain ⟨read, hread, h⟩ := Option.bind_eq_some_iff.mp h
    simp only [Option.pure_def, Option.some.injEq, Prod.mk.injEq] at h
    obtain ⟨rfl, rfl⟩ := h
    rw [bytes_split_eq_some_iff] at hbytes
    obtain ⟨hlen, tail, rfl, rfl⟩ := hbytes
    obtain ⟨extra, rfl⟩ := Bytes.ofPrefix?_eq_some_iff.mp hread
    have hextra : extra = [] := by
      simpa using hlen
    subst extra
    exact ⟨tail, by simp, by simp⟩
  · rintro ⟨tail, rfl, rfl⟩
    have hbytes := bytes_split_append before value.toList tail
    rw [Vector.length_toList] at hbytes
    simp [array, hbytes]

theorem u8_split_eq_some_iff {before rest : ByteString} {value : UInt8} {next : Cursor} :
    (split before rest).u8 = some (value, next) ↔
      ∃ tail, rest = value :: tail ∧ next = split (before ++ [value]) tail := by
  constructor
  · intro h
    obtain ⟨⟨chunk, cursor⟩, hbytes, h⟩ := Option.bind_eq_some_iff.mp h
    obtain ⟨read, hread, h⟩ := Option.bind_eq_some_iff.mp h
    simp only [Option.pure_def, Option.some.injEq, Prod.mk.injEq] at h
    obtain ⟨rfl, rfl⟩ := h
    rw [bytes_split_eq_some_iff] at hbytes
    obtain ⟨hlen, tail, rfl, rfl⟩ := hbytes
    obtain ⟨byte, rfl⟩ := List.length_eq_one_iff.mp hlen
    simp only [List.getElem?_cons_zero, Option.some.injEq] at hread
    subst byte
    exact ⟨tail, by simp, rfl⟩
  · rintro ⟨tail, rfl, rfl⟩
    have hbytes := bytes_split_append before [value] tail
    simp only [List.length_singleton, List.singleton_append] at hbytes
    simp [u8, hbytes]

@[simp] theorem u8_split_cons (before tail : ByteString) (value : UInt8) :
    (split before (value :: tail)).u8 = some (value, split (before ++ [value]) tail) := by
  rw [u8_split_eq_some_iff]
  exact ⟨tail, rfl, rfl⟩

theorem u16_split_eq_some_iff {before rest : ByteString} {value : UInt16} {next : Cursor} :
    (split before rest).u16 = some (value, next) ↔
      ∃ tail, rest = (u16BE value).toList ++ tail ∧
        next = split (before ++ (u16BE value).toList) tail := by
  constructor
  · intro h
    obtain ⟨⟨read, cursor⟩, hread, h⟩ := Option.bind_eq_some_iff.mp h
    simp only [Option.pure_def, Option.some.injEq, Prod.mk.injEq] at h
    obtain ⟨rfl, rfl⟩ := h
    rw [array_split_eq_some_iff] at hread
    simpa using hread
  · intro h
    rw [← array_split_eq_some_iff] at h
    simp [u16, h]

theorem u32_split_eq_some_iff {before rest : ByteString} {value : UInt32} {next : Cursor} :
    (split before rest).u32 = some (value, next) ↔
      ∃ tail, rest = (u32BE value).toList ++ tail ∧
        next = split (before ++ (u32BE value).toList) tail := by
  constructor
  · intro h
    obtain ⟨⟨read, cursor⟩, hread, h⟩ := Option.bind_eq_some_iff.mp h
    simp only [Option.pure_def, Option.some.injEq, Prod.mk.injEq] at h
    obtain ⟨rfl, rfl⟩ := h
    rw [array_split_eq_some_iff] at hread
    simpa using hread
  · intro h
    rw [← array_split_eq_some_iff] at h
    simp [u32, h]

@[simp] theorem u32_split_append (before tail : ByteString) (value : UInt32) :
    (split before ((u32BE value).toList ++ tail)).u32 =
      some (value, split (before ++ (u32BE value).toList) tail) := by
  rw [u32_split_eq_some_iff]
  exact ⟨tail, rfl, rfl⟩

theorem u64_split_eq_some_iff {before rest : ByteString} {value : UInt64} {next : Cursor} :
    (split before rest).u64 = some (value, next) ↔
      ∃ tail, rest = (u64BE value).toList ++ tail ∧
        next = split (before ++ (u64BE value).toList) tail := by
  constructor
  · intro h
    obtain ⟨⟨read, cursor⟩, hread, h⟩ := Option.bind_eq_some_iff.mp h
    simp only [Option.pure_def, Option.some.injEq, Prod.mk.injEq] at h
    obtain ⟨rfl, rfl⟩ := h
    rw [array_split_eq_some_iff] at hread
    simpa using hread
  · intro h
    rw [← array_split_eq_some_iff] at h
    simp [u64, h]

@[simp] theorem u64_split_append (before tail : ByteString) (value : UInt64) :
    (split before ((u64BE value).toList ++ tail)).u64 =
      some (value, split (before ++ (u64BE value).toList) tail) := by
  rw [u64_split_eq_some_iff]
  exact ⟨tail, rfl, rfl⟩

theorem vecU32_split_eq_some_iff {before rest chunk : ByteString} {next : Cursor} :
    (split before rest).vecU32 = some (chunk, next) ↔
      chunk.length < 2 ^ 32 ∧ ∃ tail,
        rest = (u32BE (UInt32.ofNat chunk.length)).toList ++ (chunk ++ tail) ∧
        next = split (before ++ (u32BE (UInt32.ofNat chunk.length)).toList ++ chunk) tail := by
  constructor
  · intro h
    obtain ⟨⟨len, cursor⟩, hread, h⟩ := Option.bind_eq_some_iff.mp h
    rw [u32_split_eq_some_iff] at hread
    obtain ⟨rest, rfl, rfl⟩ := hread
    rw [bytes_split_eq_some_iff] at h
    obtain ⟨hlen, tail, rfl, rfl⟩ := h
    have heq : UInt32.ofNat chunk.length = len := by
      rw [hlen]
      exact UInt32.ofNat_toNat
    rw [heq]
    exact ⟨hlen ▸ len.toNat_lt, tail, rfl, rfl⟩
  · rintro ⟨hlen, tail, rfl, rfl⟩
    unfold vecU32
    rw [u32_split_append]
    change (split _ _).bytes _ = _
    rw [UInt32.toNat_ofNat', Nat.mod_eq_of_lt hlen, bytes_split_append]

end Cursor

end Liteway.Library
