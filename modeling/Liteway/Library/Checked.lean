import Liteway.Library.Buffers
import Liteway.Library.Parsing

/-!
# Computations that may panic

Indexing, slicing, copying and the arithmetic of 64-bit words stop a program when
they go wrong.  Here they are operations that either return or panic.  A function
written with them is compared with one that cannot go wrong: it returns the same,
and so never panics.
-/

namespace Liteway.Library

inductive Panic where
  | indexOutOfRange
  | sliceOutOfRange
  | overflow
  | lengthMismatch
  | capacityOverflow
  | unwrapNone
deriving DecidableEq

abbrev Checked := Except Panic

/-- No object in memory is longer. -/
def isizeMax : Nat := 2 ^ 63 - 1

/-- Bytes that are in memory. -/
structure Slice where
  bytes : ByteString
  length_le : bytes.length ≤ isizeMax

namespace Checked

section Operations

variable {α : Type}

def get (data : List α) (index : Nat) : Checked α :=
  match data[index]? with
  | some value => .ok value
  | none => .error .indexOutOfRange

def set (data : List α) (index : Nat) (value : α) : Checked (List α) :=
  if index < data.length then .ok (data.set index value) else .error .indexOutOfRange

/-- `data[start..stop]` -/
def slice (data : List α) (start stop : Nat) : Checked (List α) :=
  if start ≤ stop ∧ stop ≤ data.length then .ok (data.extract start stop)
  else .error .sliceOutOfRange

/-- Sum of two `usize`. -/
def add (left right : Nat) : Checked Nat :=
  if left + right ≤ wordMax then .ok (left + right) else .error .overflow

def sub (left right : Nat) : Checked Nat :=
  if right ≤ left then .ok (left - right) else .error .overflow

/-- A value of a type that ends at `limit`. -/
def upTo (limit value : Nat) : Checked Nat :=
  if value ≤ limit then .ok value else .error .overflow

def withCapacity (capacity : Nat) : Checked Unit :=
  if capacity ≤ isizeMax then .ok () else .error .capacityOverflow

def unwrap : Option α → Checked α
  | some value => .ok value
  | none => .error .unwrapNone

/-- `data[start..stop].copy_from_slice(src)` -/
def copyFromSlice (data : List α) (start stop : Nat) (src : List α) : Checked (List α) :=
  if start ≤ stop ∧ stop ≤ data.length then
    if src.length = stop - start then .ok (data.take start ++ src ++ data.drop stop)
    else .error .lengthMismatch
  else .error .sliceOutOfRange

/-- `out.extend_from_slice(src)` on a vector -/
def extendFromSlice (out src : List α) : Checked (List α) := do
  let len ← add out.length src.length
  withCapacity len
  pure (out ++ src)

/-- `left || right`: the right side is only looked at when it matters. -/
def or (left : Bool) (right : Checked Bool) : Checked Bool :=
  if left then .ok true else right

end Operations

/-- A whole array filled with `copy_from_slice`. -/
def toArray (n : Nat) (src : ByteString) : Checked (Bytes n) :=
  if h : src.length = n then .ok ⟨src.toArray, h⟩ else .error .lengthMismatch

section Rules

variable {α : Type}

theorem step {β : Type} {x : Checked α} {value : α} {f : α → Checked β} {outcome : Checked β}
    (hx : x = .ok value) (hf : f value = outcome) : (x >>= f) = outcome := by
  subst hx
  exact hf

theorem get_eq_ok {data : List α} {index : Nat} (h : index < data.length) :
    get data index = .ok data[index] := by
  simp [get, h]

theorem set_eq_ok {data : List α} {index : Nat} (h : index < data.length) (value : α) :
    set data index value = .ok (data.set index value) := if_pos h

theorem slice_eq_ok {data : List α} {start stop : Nat} (h : start ≤ stop) (h' : stop ≤ data.length) :
    slice data start stop = .ok (data.extract start stop) := if_pos ⟨h, h'⟩

theorem slice_length_eq_ok {data : List α} {start : Nat} (h : start ≤ data.length) :
    slice data start data.length = .ok (data.drop start) := by
  rw [slice_eq_ok h (Nat.le_refl _), List.extract_eq_take_drop, ← List.length_drop,
    List.take_length]

theorem add_eq_ok {left right : Nat} (h : left + right ≤ wordMax) :
    add left right = .ok (left + right) := if_pos h

theorem sub_eq_ok {left right : Nat} (h : right ≤ left) : sub left right = .ok (left - right) :=
  if_pos h

theorem upTo_eq_ok {limit value : Nat} (h : value ≤ limit) : upTo limit value = .ok value := if_pos h

theorem le_of_upTo_bind {limit value : Nat} {f : Nat → Checked α} {result : α}
    (h : (upTo limit value >>= f) = .ok result) : value ≤ limit ∧ f value = .ok result := by
  by_cases hle : value ≤ limit
  · rw [upTo_eq_ok hle] at h
    exact ⟨hle, h⟩
  · unfold upTo at h
    rw [if_neg hle] at h
    contradiction

theorem withCapacity_eq_ok {capacity : Nat} (h : capacity ≤ isizeMax) :
    withCapacity capacity = .ok () := if_pos h

theorem unwrap_eq_ok (value : α) : unwrap (some value) = .ok value := rfl

theorem copyFromSlice_eq_ok {data src : List α} {start stop : Nat} (h : start ≤ stop)
    (h' : stop ≤ data.length) (hlen : src.length = stop - start) :
    copyFromSlice data start stop src = .ok (data.take start ++ src ++ data.drop stop) := by
  unfold copyFromSlice
  rw [if_pos ⟨h, h'⟩, if_pos hlen]

theorem extendFromSlice_eq_ok {out src : List α} (h : out.length + src.length ≤ isizeMax) :
    extendFromSlice out src = .ok (out ++ src) := by
  have hword : out.length + src.length ≤ wordMax := Nat.le_trans h (by decide)
  unfold extendFromSlice
  apply step (add_eq_ok hword)
  exact step (withCapacity_eq_ok h) rfl

theorem foldlM_extendFromSlice (out : List α) (srcs : List (List α))
    (h : out.length + srcs.flatten.length ≤ isizeMax) :
    srcs.foldlM extendFromSlice out = .ok (out ++ srcs.flatten) := by
  induction srcs generalizing out with
  | nil => simp [pure, Except.pure]
  | cons src srcs ih =>
      rw [List.flatten_cons, List.length_append] at h
      rw [List.foldlM_cons, List.flatten_cons, ← List.append_assoc]
      apply step (extendFromSlice_eq_ok (by omega))
      exact ih (out ++ src) (by rw [List.length_append]; omega)

theorem or_eq_ok {left value : Bool} {right : Checked Bool}
    (h : left = false → right = .ok value) : or left right = .ok (left || value) := by
  cases left with
  | true => rfl
  | false => exact h rfl

theorem toArray_toList (value : Bytes n) : toArray n value.toList = .ok value := by
  unfold toArray
  rw [dif_pos (by simp)]
  rfl

theorem toArray_extract {data : ByteString} {start n : Nat} (h : start + n ≤ data.length) :
    toArray n (data.extract start (start + n)) = .ok (Bytes.slice data start n h) := by
  have hlist : data.extract start (start + n) = (Bytes.slice data start n h).toList := by
    simp [List.extract_eq_take_drop]
  rw [hlist, toArray_toList]

end Rules

end Checked

/-- `try_into` on a slice. -/
def tryInto (n : Nat) (src : ByteString) : Option (Bytes n) :=
  if h : src.length = n then some ⟨src.toArray, h⟩ else none

theorem tryInto_toList (value : Bytes n) : tryInto n value.toList = some value := by
  unfold tryInto
  rw [dif_pos (by simp)]
  rfl

theorem tryInto_extract {data : ByteString} {start n : Nat} (h : start + n ≤ data.length) :
    tryInto n (data.extract start (start + n)) = some (Bytes.slice data start n h) := by
  have hlist : data.extract start (start + n) = (Bytes.slice data start n h).toList := by
    simp [List.extract_eq_take_drop]
  rw [hlist, tryInto_toList]

/-! ## Early returns

A function that ends early with `None` or an error is a computation in a
transformer over `Checked`.  It is compared with a function of the same shape that
does not panic, step by step. -/

/-- A library call that returns an `Option`. -/
def ofOption {α : Type} (value : Option α) : OptionT Checked α := OptionT.mk (.ok value)

/-- A check that ends with an error. -/
def ofResult {ε α : Type} (value : Except ε α) : ExceptT ε Checked α := ExceptT.mk (.ok value)

/-- The error with which a missing value is reported. -/
def orBail {ε α : Type} (error : ε) (x : OptionT Checked α) : ExceptT ε Checked α :=
  ExceptT.mk (x.run.map (orThrow error))

section Returns

variable {ε α β : Type}

/-- Nothing panics, and the outcome is the given one. -/
def Returns (x : OptionT Checked α) (outcome : Option α) : Prop := x.run = .ok outcome

def Results (x : ExceptT ε Checked α) (outcome : Except ε α) : Prop := x.run = .ok outcome

theorem returns_pure (value : α) : Returns (pure value) (some value) := rfl

theorem returns_failure : Returns (failure : OptionT Checked α) none := rfl

theorem returns_ofOption (value : Option α) : Returns (ofOption value) value := rfl

theorem returns_ite {condition : Prop} [Decidable condition] {x y : OptionT Checked α}
    {left right : Option α} (hx : condition → Returns x left)
    (hy : ¬ condition → Returns y right) :
    Returns (if condition then x else y) (if condition then left else right) := by
  by_cases h : condition
  · rw [if_pos h, if_pos h]
    exact hx h
  · rw [if_neg h, if_neg h]
    exact hy h

theorem Returns.bind {x : OptionT Checked α} {f : α → OptionT Checked β} {outcome : Option α}
    {g : α → Option β} (hx : Returns x outcome)
    (hf : ∀ value, outcome = some value → Returns (f value) (g value)) :
    Returns (x >>= f) (outcome >>= g) := by
  have hbind : (x >>= f).run = x.run >>= fun found =>
      match found with
      | some value => (f value).run
      | none => pure none := rfl
  unfold Returns at hx hf ⊢
  rw [hbind, hx]
  cases outcome with
  | none => rfl
  | some value => exact hf value rfl

theorem Returns.bind_none {x : OptionT Checked α} (hx : Returns x none)
    (f : α → OptionT Checked β) : Returns (x >>= f) none :=
  hx.bind (g := fun _ => none) (by simp)

theorem Returns.bind_some {x : OptionT Checked α} {value : α} (hx : Returns x (some value))
    {f : α → OptionT Checked β} {outcome : Option β} (hf : Returns (f value) outcome) :
    Returns (x >>= f) outcome := by
  refine hx.bind (g := fun _ => outcome) ?_
  intro found hfound
  cases hfound
  exact hf

theorem Returns.step {x : Checked α} {value : α} {f : α → OptionT Checked β} {outcome : Option β}
    (hx : x = .ok value) (hf : Returns (f value) outcome) :
    Returns ((liftM x : OptionT Checked α) >>= f) outcome := by
  subst hx
  exact hf

/-- A field at a fixed place, copied into an array of its own. -/
theorem Returns.field {data : ByteString} {start n : Nat} (h : start + n ≤ data.length)
    {f : Bytes n → OptionT Checked β} {outcome : Option β}
    (hf : Returns (f (Bytes.slice data start n h)) outcome) :
    Returns (do
        let value ← Checked.toArray n (← Checked.slice data start (start + n))
        f value) outcome := by
  apply Returns.step (Checked.slice_eq_ok (Nat.le_add_right _ _) h)
  exact Returns.step (Checked.toArray_extract h) hf

theorem returns_liftM {x : Checked α} {value : α} (hx : x = .ok value) :
    Returns (liftM x : OptionT Checked α) (some value) := by
  subst hx
  rfl

theorem results_pure (value : α) : Results (pure value : ExceptT ε Checked α) (.ok value) := rfl

theorem results_ofResult (value : Except ε α) : Results (ofResult value) value := rfl

theorem Results.bind {x : ExceptT ε Checked α} {f : α → ExceptT ε Checked β}
    {outcome : Except ε α} {g : α → Except ε β} (hx : Results x outcome)
    (hf : ∀ value, outcome = .ok value → Results (f value) (g value)) :
    Results (x >>= f) (outcome >>= g) := by
  have hbind : (x >>= f).run = x.run >>= fun found =>
      match found with
      | .ok value => (f value).run
      | .error error => pure (.error error) := rfl
  unfold Results at hx hf ⊢
  rw [hbind, hx]
  cases outcome with
  | error error => rfl
  | ok value => exact hf value rfl

theorem Results.step {x : Checked α} {value : α} {f : α → ExceptT ε Checked β}
    {outcome : Except ε β} (hx : x = .ok value) (hf : Results (f value) outcome) :
    Results ((liftM x : ExceptT ε Checked α) >>= f) outcome := by
  subst hx
  exact hf

theorem results_orBail {error : ε} {x : OptionT Checked α} {outcome : Option α}
    (hx : Returns x outcome) : Results (orBail error x) (orThrow error outcome) := by
  unfold Returns at hx
  unfold Results orBail
  rw [ExceptT.run_mk, hx]
  rfl

end Returns

/-! ## Reading -/

/-- A reading position about which nothing is known. -/
structure Reader where
  data : ByteString
  pos : Nat
deriving DecidableEq

namespace Reader

def start (data : ByteString) : Reader := ⟨data, 0⟩

def bytes (len : Nat) (rd : Reader) : OptionT Checked (ByteString × Reader) := do
  let stop ← Checked.add rd.pos len
  if stop > rd.data.length then failure
  else
    let stop ← Checked.add rd.pos len
    let bytes ← Checked.slice rd.data rd.pos stop
    let pos ← Checked.add rd.pos len
    pure (bytes, { rd with pos := pos })

def u8 (rd : Reader) : OptionT Checked (UInt8 × Reader) := do
  let (bytes, rd) ← rd.bytes 1
  let value ← (Checked.get bytes 0 : Checked UInt8)
  pure (value, rd)

def array (n : Nat) (rd : Reader) : OptionT Checked (Bytes n × Reader) := do
  let (bytes, rd) ← rd.bytes n
  let value ← ofOption (tryInto n bytes)
  pure (value, rd)

def u16 (rd : Reader) : OptionT Checked (UInt16 × Reader) := do
  let (value, rd) ← rd.array 2
  pure (decodeU16BE value, rd)

def u32 (rd : Reader) : OptionT Checked (UInt32 × Reader) := do
  let (value, rd) ← rd.array 4
  pure (decodeU32BE value, rd)

def u64 (rd : Reader) : OptionT Checked (UInt64 × Reader) := do
  let (value, rd) ← rd.array 8
  pure (decodeU64BE value, rd)

def vecU32 (rd : Reader) : OptionT Checked (ByteString × Reader) := do
  let (len, rd) ← rd.u32
  rd.bytes len.toNat

/-- The position of a cursor. -/
def of (cursor : Cursor) : Reader := ⟨cursor.data, cursor.pos⟩

end Reader

/-- A read that returns what the cursor reads, and stays in the same data. -/
structure Reads {α : Type} (data : Slice) (x : OptionT Checked (α × Reader))
    (outcome : Option (α × Cursor)) : Prop where
  returns : Returns x (outcome.map fun found => (found.1, Reader.of found.2))
  same : ∀ value next, outcome = some (value, next) → next.data = data.bytes

section Reading

variable {ε α β : Type} {data : Slice} {x : OptionT Checked (α × Reader)}
  {outcome : Option (α × Cursor)}

/-- What follows a read goes on from the cursor. -/
theorem Reads.bind (hx : Reads data x outcome) {f : α × Reader → OptionT Checked β}
    {g : α × Cursor → Option β}
    (hf : ∀ value next, outcome = some (value, next) → next.data = data.bytes →
      Returns (f (value, Reader.of next)) (g (value, next))) :
    Returns (x >>= f) (outcome >>= g) := by
  have hbind := hx.returns.bind (f := f) (g := fun found => (outcome >>= g)) (by
    intro found hfound
    obtain ⟨⟨value, next⟩, houtcome, rfl⟩ := Option.map_eq_some_iff.mp hfound
    rw [houtcome]
    exact hf value next houtcome (hx.same value next houtcome))
  cases outcome with
  | none => exact hbind
  | some found => exact hbind

theorem Reads.results (hx : Reads data x outcome) {error : ε}
    {f : α × Reader → ExceptT ε Checked β} {g : α × Cursor → Except ε β}
    (hf : ∀ value next, next.data = data.bytes →
      Results (f (value, Reader.of next)) (g (value, next))) :
    Results (orBail error x >>= f) (orThrow error outcome >>= g) := by
  have hread : Results (orBail error x) _ := results_orBail hx.returns
  have hbind := hread.bind (f := f) (g := fun found => (orThrow error outcome >>= g)) (by
      intro found hfound
      obtain ⟨⟨value, next⟩, houtcome, rfl⟩ :=
        Option.map_eq_some_iff.mp (orThrow_eq_ok_iff.mp hfound)
      rw [houtcome]
      exact hf value next (hx.same value next houtcome))
  cases outcome with
  | none => exact hbind
  | some found => exact hbind

theorem Reads.andThen (hx : Reads data x outcome) {f : α × Reader → OptionT Checked (β × Reader)}
    {g : α × Cursor → Option (β × Cursor)}
    (hf : ∀ value next, outcome = some (value, next) → next.data = data.bytes →
      Reads data (f (value, Reader.of next)) (g (value, next))) :
    Reads data (x >>= f) (outcome >>= g) := by
  constructor
  · have hmap : (outcome >>= g).map (fun found => (found.1, Reader.of found.2)) =
        outcome >>= fun found => (g found).map fun found => (found.1, Reader.of found.2) :=
      Option.map_bind
    rw [hmap]
    apply hx.bind
    intro value next houtcome hnext
    exact (hf value next houtcome hnext).returns
  · intro read last h
    obtain ⟨⟨value, next⟩, houtcome, h⟩ := Option.bind_eq_some_iff.mp h
    exact (hf value next houtcome (hx.same value next houtcome)).same read last h

theorem Reads.map (hx : Reads data x outcome) {f : α → OptionT Checked β} {g : α → Option β}
    (hf : ∀ value next, outcome = some (value, next) → Returns (f value) (g value)) :
    Reads data (x >>= fun found => f found.1 >>= fun value => pure (value, found.2))
      (outcome >>= fun found => g found.1 >>= fun value => pure (value, found.2)) := by
  apply hx.andThen
  intro value next houtcome hnext
  constructor
  · have hmap : (g value >>= fun read => pure (read, next)).map
        (fun found => (found.1, Reader.of found.2)) =
        g value >>= fun read => pure (read, Reader.of next) := Option.map_bind
    rw [hmap]
    exact (hf value next houtcome).bind fun read _ => returns_pure _
  · intro read last h
    obtain ⟨found, -, h⟩ := Option.bind_eq_some_iff.mp h
    cases h
    exact hnext

end Reading

section Cursors

variable {data : Slice} {cursor : Cursor}

theorem length_of_bytes {len : Nat} {chunk : ByteString} {next : Cursor}
    (h : cursor.bytes len = some (chunk, next)) : chunk.length = len := by
  unfold Cursor.bytes at h
  split at h
  · cases h
    simp only [List.extract_eq_take_drop, List.length_take, List.length_drop]
    omega
  · contradiction

theorem reads_bytes (hcursor : cursor.data = data.bytes) {len : Nat} (hlen : len ≤ isizeMax) :
    Reads data ((Reader.of cursor).bytes len) (cursor.bytes len) := by
  have hpos := cursor.pos_le
  have hlength := data.length_le
  rw [← hcursor] at hlength
  have hadd : Checked.add (Reader.of cursor).pos len = .ok (cursor.pos + len) := by
    apply Checked.add_eq_ok
    change cursor.pos + len ≤ wordMax
    simp only [isizeMax, wordMax] at *
    omega
  unfold Reader.bytes Cursor.bytes
  constructor
  · apply Returns.step hadd
    by_cases hfits : cursor.pos + len ≤ cursor.data.length
    · have hstop : ¬ cursor.pos + len > (Reader.of cursor).data.length := Nat.not_lt.mpr hfits
      rw [if_neg hstop, dif_pos hfits]
      apply Returns.step hadd
      apply Returns.step (Checked.slice_eq_ok (Nat.le_add_right _ _) hfits)
      apply Returns.step hadd
      exact returns_pure _
    · have hstop : cursor.pos + len > (Reader.of cursor).data.length := Nat.not_le.mp hfits
      rw [if_pos hstop, dif_neg hfits]
      exact returns_failure
  · intro chunk next h
    split at h
    · cases h
      exact hcursor
    · contradiction

theorem reads_u8 (hcursor : cursor.data = data.bytes) :
    Reads data (Reader.of cursor).u8 cursor.u8 := by
  refine (reads_bytes hcursor (by decide)).map
    (f := fun chunk => (liftM (Checked.get chunk 0 : Checked UInt8) : OptionT Checked UInt8))
    (g := fun chunk => chunk[0]?) ?_
  intro chunk next h
  have hlen := length_of_bytes h
  have hget : Checked.get chunk 0 = .ok chunk[0] := Checked.get_eq_ok (by omega)
  change Except.map some (Checked.get chunk 0) = .ok chunk[0]?
  rw [hget, List.getElem?_eq_getElem (by omega)]
  rfl

theorem reads_array (hcursor : cursor.data = data.bytes) {n : Nat} (hn : n ≤ isizeMax) :
    Reads data ((Reader.of cursor).array n) (cursor.array n) := by
  refine (reads_bytes hcursor hn).map (f := fun chunk => ofOption (tryInto n chunk))
    (g := Bytes.ofPrefix? n) ?_
  intro chunk next h
  have hlen := length_of_bytes h
  have hsame : tryInto n chunk = Bytes.ofPrefix? n chunk := by
    subst hlen
    simp [tryInto, Bytes.ofPrefix?]
  rw [← hsame]
  exact returns_ofOption _

theorem reads_u16 (hcursor : cursor.data = data.bytes) :
    Reads data (Reader.of cursor).u16 cursor.u16 :=
  (reads_array hcursor (by decide)).map fun _ _ _ => returns_pure _

theorem reads_u32 (hcursor : cursor.data = data.bytes) :
    Reads data (Reader.of cursor).u32 cursor.u32 :=
  (reads_array hcursor (by decide)).map fun _ _ _ => returns_pure _

theorem reads_u64 (hcursor : cursor.data = data.bytes) :
    Reads data (Reader.of cursor).u64 cursor.u64 :=
  (reads_array hcursor (by decide)).map fun _ _ _ => returns_pure _

/-- A length of 32 bits cannot take the position beyond a word. -/
theorem reads_vecU32 (hcursor : cursor.data = data.bytes) :
    Reads data (Reader.of cursor).vecU32 cursor.vecU32 := by
  apply (reads_u32 hcursor).andThen
  intro len next _ hnext
  have hlen : len.toNat ≤ isizeMax := Nat.le_trans (Nat.le_of_lt len.toNat_lt) (by decide)
  exact reads_bytes hnext hlen

end Cursors

end Liteway.Library
