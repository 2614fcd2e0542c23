import Liteway.Library.Cursor

/-!
# Checked parsing

A parser that reports errors is a chain of reads and checks.  Each rule below
turns one link of a successful chain into the bytes it consumed, so that a whole
parser unfolds into the layout it accepts.
-/

namespace Liteway.Library

/-- Fail with `error` unless the condition holds. -/
def ensure {ε : Type} (condition : Prop) [Decidable condition] (error : ε) : Except ε Unit :=
  if condition then .ok () else .error error

def orThrow {ε α : Type} (error : ε) : Option α → Except ε α
  | some value => .ok value
  | none => .error error

section Rules

variable {ε α β : Type} {error : ε} {result : β}

theorem bind_eq_ok_iff {x : Except ε α} {f : α → Except ε β} :
    (x >>= f) = .ok result ↔ ∃ value, x = .ok value ∧ f value = .ok result := by
  cases x with
  | error e => simp [bind, Except.bind]
  | ok value => simp [bind, Except.bind]

theorem orThrow_eq_ok_iff {x : Option α} {value : α} :
    orThrow error x = .ok value ↔ x = some value := by
  cases x with
  | none => simp [orThrow]
  | some found => simp [orThrow]

theorem mapError_eq_ok_iff {ε' : Type} {x : Except ε α} {f : ε → ε'} {value : α} :
    x.mapError f = .ok value ↔ x = .ok value := by
  cases x with
  | error e => simp [Except.mapError]
  | ok found => simp [Except.mapError]

theorem ensure_eq_ok_iff {condition : Prop} [Decidable condition] {done : Unit} :
    ensure condition error = .ok done ↔ condition := by
  unfold ensure
  split <;> simp_all

theorem ensure_bind_iff {condition : Prop} [Decidable condition] {f : Unit → Except ε β} :
    (ensure condition error >>= f) = .ok result ↔ condition ∧ f () = .ok result := by
  rw [bind_eq_ok_iff]
  simp only [ensure_eq_ok_iff]
  exact ⟨fun ⟨_, hcondition, h⟩ => ⟨hcondition, h⟩, fun ⟨hcondition, h⟩ => ⟨(), hcondition, h⟩⟩

theorem ensure_bind_of_not {condition : Prop} [Decidable condition] (h : ¬ condition)
    (f : Unit → Except ε β) : (ensure condition error >>= f) = .error error := by
  unfold ensure
  rw [if_neg h]
  rfl

theorem forM_ensure_eq_ok_iff {condition : α → Prop} [DecidablePred condition] {failure : α → ε}
    {items : List α} {done : Unit} :
    items.forM (fun item => ensure (condition item) (failure item)) = .ok done ↔
      ∀ item ∈ items, condition item := by
  induction items with
  | nil => simp [pure, Except.pure]
  | cons item items ih =>
      change (ensure (condition item) (failure item) >>= fun _ =>
        items.forM fun item => ensure (condition item) (failure item)) = .ok done ↔ _
      rw [ensure_bind_iff, ih, List.forall_mem_cons]

theorem exists_mapM_eq_ok {f : α → Except ε β} {items : List α}
    (h : ∀ item ∈ items, ∃ value, f item = .ok value) : ∃ values, items.mapM f = .ok values := by
  induction items with
  | nil => exact ⟨[], rfl⟩
  | cons item items ih =>
      obtain ⟨hitem, hitems⟩ := List.forall_mem_cons.mp h
      obtain ⟨value, hvalue⟩ := hitem
      obtain ⟨values, hvalues⟩ := ih hitems
      refine ⟨value :: values, ?_⟩
      rw [List.mapM_cons, hvalue, hvalues]
      rfl

theorem orThrow_bind_iff {x : Option α} {f : α → Except ε β} :
    (orThrow error x >>= f) = .ok result ↔ ∃ value, x = some value ∧ f value = .ok result := by
  rw [bind_eq_ok_iff]
  simp [orThrow_eq_ok_iff]

/-! ## Reads -/

variable {before rest : ByteString}

/-- The rule every fixed-format read follows: what was read, written back, is
what stood at the front. -/
theorem bind_read_iff {read : Option (α × Cursor)} {write : α → ByteString}
    (hread : ∀ value next, read = some (value, next) ↔
      ∃ tail, rest = write value ++ tail ∧ next = Cursor.split (before ++ write value) tail)
    {f : α × Cursor → Except ε β} :
    (orThrow error read >>= f) = .ok result ↔
      ∃ value tail, rest = write value ++ tail ∧
        f (value, Cursor.split (before ++ write value) tail) = .ok result := by
  rw [orThrow_bind_iff]
  simp only [Prod.exists, hread]
  constructor
  · rintro ⟨value, next, ⟨tail, hrest, rfl⟩, h⟩
    exact ⟨value, tail, hrest, h⟩
  · rintro ⟨value, tail, hrest, h⟩
    exact ⟨value, _, ⟨tail, hrest, rfl⟩, h⟩

theorem bind_u8_iff {f : UInt8 × Cursor → Except ε β} :
    (orThrow error (Cursor.split before rest).u8 >>= f) = .ok result ↔
      ∃ value tail, rest = [value] ++ tail ∧
        f (value, Cursor.split (before ++ [value]) tail) = .ok result :=
  bind_read_iff fun _ _ => Cursor.u8_split_eq_some_iff

theorem bind_u16_iff {f : UInt16 × Cursor → Except ε β} :
    (orThrow error (Cursor.split before rest).u16 >>= f) = .ok result ↔
      ∃ value tail, rest = (u16BE value).toList ++ tail ∧
        f (value, Cursor.split (before ++ (u16BE value).toList) tail) = .ok result :=
  bind_read_iff fun _ _ => Cursor.u16_split_eq_some_iff

theorem bind_u32_iff {f : UInt32 × Cursor → Except ε β} :
    (orThrow error (Cursor.split before rest).u32 >>= f) = .ok result ↔
      ∃ value tail, rest = (u32BE value).toList ++ tail ∧
        f (value, Cursor.split (before ++ (u32BE value).toList) tail) = .ok result :=
  bind_read_iff fun _ _ => Cursor.u32_split_eq_some_iff

theorem bind_u64_iff {f : UInt64 × Cursor → Except ε β} :
    (orThrow error (Cursor.split before rest).u64 >>= f) = .ok result ↔
      ∃ value tail, rest = (u64BE value).toList ++ tail ∧
        f (value, Cursor.split (before ++ (u64BE value).toList) tail) = .ok result :=
  bind_read_iff fun _ _ => Cursor.u64_split_eq_some_iff

theorem bind_array_iff {n : Nat} {f : Bytes n × Cursor → Except ε β} :
    (orThrow error ((Cursor.split before rest).array n) >>= f) = .ok result ↔
      ∃ value : Bytes n, ∃ tail, rest = value.toList ++ tail ∧
        f (value, Cursor.split (before ++ value.toList) tail) = .ok result :=
  bind_read_iff fun _ _ => Cursor.array_split_eq_some_iff

theorem bind_bytes_iff {n : Nat} {f : ByteString × Cursor → Except ε β} :
    (orThrow error ((Cursor.split before rest).bytes n) >>= f) = .ok result ↔
      ∃ value : Bytes n, ∃ tail, rest = value.toList ++ tail ∧
        f (value.toList, Cursor.split (before ++ value.toList) tail) = .ok result := by
  rw [orThrow_bind_iff]
  simp only [Prod.exists, Cursor.bytes_split_eq_some_iff]
  constructor
  · rintro ⟨chunk, next, ⟨rfl, tail, rfl, rfl⟩, h⟩
    exact ⟨⟨chunk.toArray, rfl⟩, tail, rfl, h⟩
  · rintro ⟨value, tail, rfl, h⟩
    exact ⟨value.toList, _, ⟨by simp, tail, rfl, rfl⟩, h⟩

theorem bind_vecU32_iff {f : ByteString × Cursor → Except ε β} :
    (orThrow error (Cursor.split before rest).vecU32 >>= f) = .ok result ↔
      ∃ chunk tail, chunk.length < 2 ^ 32 ∧
        rest = (u32BE (UInt32.ofNat chunk.length)).toList ++ (chunk ++ tail) ∧
        f (chunk, Cursor.split
          (before ++ (u32BE (UInt32.ofNat chunk.length)).toList ++ chunk) tail) = .ok result := by
  rw [orThrow_bind_iff]
  simp only [Prod.exists, Cursor.vecU32_split_eq_some_iff]
  constructor
  · rintro ⟨chunk, cursor, ⟨hlen, tail, rfl, rfl⟩, h⟩
    exact ⟨chunk, tail, hlen, rfl, h⟩
  · rintro ⟨chunk, tail, hlen, rfl, h⟩
    exact ⟨chunk, _, ⟨hlen, tail, rfl, rfl⟩, h⟩

end Rules

end Liteway.Library
