import SwitchboardOnDemand.Int128
import Mathlib.Logic.Equiv.Defs

/-!
# Plain old data

A type is plain old data when its values are the byte strings of one size: every
value has its bytes, and every string of that size is the bytes of one value.
Pairs, arrays and records of such types are again plain old data. `repr(C)` puts
the fields of a struct at multiples of their alignments; where their sizes add
up to such multiples anyway there is no padding, and the struct lies in memory
as the sequence of its fields (`reprC_of_packed`). Sizes are the same for every
machine, alignments are not.
-/

namespace Rust

/-- What a build is for: the virtual machine of the chain, or the host of a client. -/
inductive Target where
  | sbf
  | host
  deriving Repr, DecidableEq

/-- A type whose values are the byte strings of a size. -/
structure Pod (α : Type) where
  size : Nat
  align : Target → Nat
  toBytes : α → FixedBytes size
  ofBytes : FixedBytes size → α
  ofBytes_toBytes : ∀ value, ofBytes (toBytes value) = value
  toBytes_ofBytes : ∀ bytes, toBytes (ofBytes bytes) = bytes

namespace Pod

variable {α β : Type}

/-! ## Numbers and arrays of bytes -/

def u8 : Pod UInt8 where
  size := 1
  align _ := 1
  toBytes value := ⟨[value], rfl⟩
  ofBytes bytes := byteAt bytes.val 0
  ofBytes_toBytes _ := rfl
  toBytes_ofBytes bytes := by
    have whole := window_one (show 0 < bytes.val.length by rw [bytes.property]; decide)
    exact Subtype.ext (whole.symm.trans (window_full bytes.property))

/-- A type whose values are the numbers below a power of 256. -/
def ofNumbers (width align : Nat) (toNat : α → Nat) (ofNat : Nat → α) (ofNat_toNat : ∀ a, ofNat (toNat a) = a)
    (toNat_lt : ∀ a, toNat a < 256 ^ width) (toNat_ofNat : ∀ n < 256 ^ width, toNat (ofNat n) = n) : Pod α where
  size := width
  align _ := align
  toBytes value := ⟨leBytes width (toNat value), length_leBytes width _⟩
  ofBytes bytes := ofNat (leNat bytes.val)
  ofBytes_toBytes value := by rw [leNat_leBytes_of_lt (toNat_lt value), ofNat_toNat]
  toBytes_ofBytes bytes := by
    have bound := leNat_lt bytes.val
    rw [bytes.property] at bound
    apply Subtype.ext
    simp only [toNat_ofNat _ bound]
    exact leNat_injective ((length_leBytes width _).trans bytes.property.symm) (leNat_leBytes_of_lt bound)

def u16 : Pod UInt16 :=
  ofNumbers 2 2 UInt16.toNat UInt16.ofNat (fun _ => UInt16.ofNat_toNat) (fun a => a.toNat_lt)
    fun n bound => by rw [UInt16.toNat_ofNat', Nat.mod_eq_of_lt (by omega)]

def u32 : Pod UInt32 :=
  ofNumbers 4 4 UInt32.toNat UInt32.ofNat (fun _ => UInt32.ofNat_toNat) (fun a => a.toNat_lt)
    fun n bound => by rw [UInt32.toNat_ofNat', Nat.mod_eq_of_lt (by omega)]

def u64 : Pod UInt64 :=
  ofNumbers 8 8 UInt64.toNat UInt64.ofNat (fun _ => UInt64.ofNat_toNat) (fun a => a.toNat_lt)
    fun n bound => by rw [UInt64.toNat_ofNat', Nat.mod_eq_of_lt (by omega)]

def i64 : Pod Int64 :=
  ofNumbers 8 8 (fun a => a.toUInt64.toNat) (fun n => (UInt64.ofNat n).toInt64)
    (fun a => by rw [UInt64.ofNat_toNat]; rfl) (fun a => a.toUInt64.toNat_lt)
    fun n bound => by
      show (UInt64.ofNat n).toNat = n
      rw [UInt64.toNat_ofNat', Nat.mod_eq_of_lt (by omega)]

/-- The virtual machine has 128-bit numbers at multiples of 8, hosts at multiples of 16. -/
def i128 : Pod I128 where
  size := 16
  align
    | .sbf => 8
    | .host => 16
  toBytes := I128.toLE
  ofBytes := I128.ofLE
  ofBytes_toBytes := I128.ofLE_toLE
  toBytes_ofBytes := I128.toLE_ofLE

/-- `[u8; n]`. -/
def bytes (n : Nat) : Pod (FixedBytes n) where
  size := n
  align _ := 1
  toBytes := id
  ofBytes := id
  ofBytes_toBytes _ := rfl
  toBytes_ofBytes _ := rfl

/-! ## Sequences -/

/-- The first bytes of an array and the ones behind them. -/
theorem append_fixedAt {m n : Nat} (bytes : FixedBytes (m + n)) :
    window bytes.val 0 m ++ window bytes.val m n = bytes.val := by
  have split := window_add bytes.val 0 m n
  rw [Nat.zero_add, window_full bytes.property] at split
  exact split.symm

/-- One value behind another. -/
def pair (p : Pod α) (q : Pod β) : Pod (α × β) where
  size := p.size + q.size
  align target := max (p.align target) (q.align target)
  toBytes value := ⟨(p.toBytes value.1).val ++ (q.toBytes value.2).val, by
    rw [List.length_append, (p.toBytes _).property, (q.toBytes _).property]⟩
  ofBytes bytes := (p.ofBytes (fixedAt bytes.val 0 p.size (by rw [bytes.property]; omega)),
    q.ofBytes (fixedAt bytes.val p.size q.size (by rw [bytes.property])))
  ofBytes_toBytes value := by
    have first := (p.toBytes value.1).property
    have second := (q.toBytes value.2).property
    refine Prod.ext ?_ ?_
    · refine Eq.trans (congrArg p.ofBytes (Subtype.ext ?_)) (p.ofBytes_toBytes value.1)
      rw [fixedAt_val, window_append_left (by omega), window_full first]
    · refine Eq.trans (congrArg q.ofBytes (Subtype.ext ?_)) (q.ofBytes_toBytes value.2)
      rw [fixedAt_val, window_append_right first.le, first, Nat.sub_self, window_full second]
  toBytes_ofBytes bytes := by
    apply Subtype.ext
    simp only [p.toBytes_ofBytes, q.toBytes_ofBytes, fixedAt_val]
    exact append_fixedAt bytes

theorem each_toBytes (p : Pod α) (values : List α) :
    ∀ chunk ∈ values.map fun value => (p.toBytes value).val, chunk.length = p.size := by
  intro chunk member
  obtain ⟨value, _, rfl⟩ := List.mem_map.mp member
  exact (p.toBytes value).property

/-- Windows of one width, one after the other, are the whole. -/
theorem flatten_windows (bytes : Bytes) (width n : Nat) :
    ((List.range n).map fun i => window bytes (width * i) width).flatten = window bytes 0 (width * n) := by
  induction n with
  | zero => simp [window]
  | succ n ih =>
    rw [List.range_succ, List.map_append, List.flatten_append, ih, Nat.mul_succ, window_add]
    simp

theorem chunk_inside (width : Nat) {n i : Nat} (inside : i < n) : width * i + width ≤ width * n := by
  rw [← Nat.mul_succ]
  exact Nat.mul_le_mul_left width inside

/-- `[T; n]`. -/
def array (p : Pod α) (n : Nat) : Pod (Vector α n) where
  size := p.size * n
  align := p.align
  toBytes values := ⟨(values.toList.map fun value => (p.toBytes value).val).flatten, by
    rw [length_flatten (each_toBytes p _), List.length_map, Vector.length_toList]⟩
  ofBytes bytes := Vector.ofFn fun i => p.ofBytes
    (fixedAt bytes.val (p.size * i) p.size (le_of_le_of_eq (chunk_inside p.size i.isLt) bytes.property.symm))
  ofBytes_toBytes values := by
    ext1 i inside
    rw [Vector.getElem_ofFn]
    refine Eq.trans (congrArg p.ofBytes (Subtype.ext ?_)) (p.ofBytes_toBytes values[i])
    rw [fixedAt_val, window_flatten (each_toBytes p _) (by simpa using inside), List.getElem_map, Vector.getElem_toList]
  toBytes_ofBytes bytes := by
    apply Subtype.ext
    refine Eq.trans (congrArg List.flatten ?_)
      ((flatten_windows bytes.val p.size n).trans (window_full bytes.property))
    apply List.ext_getElem (by simp)
    intro i insideA insideB
    simp [p.toBytes_ofBytes]

/-- The same bytes for a type in bijection. -/
@[reducible] def iso (p : Pod α) (same : β ≃ α) : Pod β where
  size := p.size
  align := p.align
  toBytes value := p.toBytes (same value)
  ofBytes bytes := same.symm (p.ofBytes bytes)
  ofBytes_toBytes value := by rw [p.ofBytes_toBytes, same.symm_apply_apply]
  toBytes_ofBytes bytes := by rw [same.apply_symm_apply, p.toBytes_ofBytes]

/-- The value of the bytes from `start` on. -/
def ofWindow (p : Pod α) (data : Bytes) (start : Nat) (inside : start + p.size ≤ data.length) : α :=
  p.ofBytes (fixedAt data start p.size inside)

theorem ofBytes_eq_ofWindow (p : Pod α) (bytes : FixedBytes p.size) :
    p.ofBytes bytes = p.ofWindow bytes.val 0 (by rw [bytes.property]; omega) :=
  congrArg p.ofBytes (Subtype.ext (window_full bytes.property).symm)

theorem toNat_u32_ofWindow {data : Bytes} {start : Nat} (inside : start + 4 ≤ data.length) :
    (u32.ofWindow data start inside).toNat = leNat (window data start 4) := by
  have bound := leNat_lt (window data start 4)
  rw [length_window_of_le inside] at bound
  show (UInt32.ofNat (leNat (window data start 4))).toNat = _
  rw [UInt32.toNat_ofNat', Nat.mod_eq_of_lt (by omega)]

theorem ofWindow_pair (p : Pod α) (q : Pod β) {data : Bytes} {start : Nat}
    (inside : start + (p.pair q).size ≤ data.length) :
    (p.pair q).ofWindow data start inside =
      (p.ofWindow data start (le_trans (Nat.add_le_add_left (Nat.le_add_right _ _) _) inside),
        q.ofWindow data (start + p.size) (le_of_eq_of_le (Nat.add_assoc _ _ _) inside)) := by
  refine Prod.ext ?_ ?_
  · refine congrArg p.ofBytes (Subtype.ext ?_)
    exact window_window (le_of_eq_of_le (Nat.zero_add _) (Nat.le_add_right _ _))
  · refine congrArg q.ofBytes (Subtype.ext ?_)
    exact window_window (le_refl _)

theorem ofWindow_array (p : Pod α) (n : Nat) {data : Bytes} {start : Nat}
    (inside : start + (p.array n).size ≤ data.length) :
    (p.array n).ofWindow data start inside = Vector.ofFn fun i => p.ofWindow data (start + p.size * i)
      (le_trans (le_of_eq_of_le (Nat.add_assoc _ _ _) (Nat.add_le_add_left (chunk_inside p.size i.isLt) _)) inside) := by
  ext1 i member
  rw [Vector.getElem_ofFn]
  refine Eq.trans (Vector.getElem_ofFn member) (congrArg p.ofBytes (Subtype.ext ?_))
  exact window_window (chunk_inside p.size member)

theorem ofWindow_iso (p : Pod α) (same : β ≃ α) {data : Bytes} {start : Nat}
    (inside : start + (p.iso same).size ≤ data.length) :
    (p.iso same).ofWindow data start inside = same.symm (p.ofWindow data start inside) := rfl

end Pod

/-! ## Structs -/

/-- The size and the alignment of a field. -/
structure Field where
  size : Nat
  align : Target → Nat

/-- The next multiple of an alignment. -/
def alignUp (n align : Nat) : Nat := n + (align - n % align) % align

section
variable (target : Target)

/-- Where `repr(C)` puts fields: each at the next multiple of its alignment. -/
def placed : Nat → List Field → List Nat
  | _, [] => []
  | start, field :: rest =>
    alignUp start (field.align target) :: placed (alignUp start (field.align target) + field.size) rest

/-- Where the last of them ends. -/
def placedEnd : Nat → List Field → Nat
  | start, [] => start
  | start, field :: rest => placedEnd (alignUp start (field.align target) + field.size) rest

/-- `align_of` of a `repr(C)` struct. -/
def structAlign (fields : List Field) : Nat := fields.foldr (fun field align => max (field.align target) align) 1

/-- `size_of` of a `repr(C)` struct. -/
def structSize (fields : List Field) : Nat := alignUp (placedEnd target 0 fields) (structAlign target fields)

end

/-- Where fields start that follow each other without padding. -/
def offsets : Nat → List Field → List Nat
  | _, [] => []
  | start, field :: rest => start :: offsets (start + field.size) rest

def totalSize (fields : List Field) : Nat := (fields.map Field.size).sum

section
variable (target : Target)

/-- Without padding, each field starts at a multiple of its alignment. -/
def AlignedFrom : Nat → List Field → Prop
  | _, [] => True
  | start, field :: rest => start % field.align target = 0 ∧ AlignedFrom (start + field.size) rest

instance decidableAlignedFrom : (start : Nat) → (fields : List Field) → Decidable (AlignedFrom target start fields)
  | _, [] => .isTrue trivial
  | start, field :: rest =>
    have := decidableAlignedFrom (start + field.size) rest
    inferInstanceAs (Decidable (_ ∧ _))

/-- A struct with these fields needs no padding. -/
def Packed (fields : List Field) : Prop :=
  AlignedFrom target 0 fields ∧ totalSize fields % structAlign target fields = 0

instance (fields : List Field) : Decidable (Packed target fields) := inferInstanceAs (Decidable (_ ∧ _))

end

theorem alignUp_of_multiple {n align : Nat} (multiple : n % align = 0) : alignUp n align = n := by
  simp [alignUp, multiple]

theorem placed_of_aligned {target : Target} {start : Nat} {fields : List Field}
    (aligned : AlignedFrom target start fields) :
    placed target start fields = offsets start fields ∧ placedEnd target start fields = start + totalSize fields := by
  induction fields generalizing start with
  | nil => exact ⟨rfl, rfl⟩
  | cons field rest ih =>
    obtain ⟨here, later⟩ := aligned
    obtain ⟨places, ends⟩ := ih later
    rw [placed, placedEnd, offsets, alignUp_of_multiple here, places, ends]
    exact ⟨rfl, by simp [totalSize, Nat.add_assoc]⟩

/-- Where no padding is needed, `repr(C)` puts the fields one behind the other. -/
theorem reprC_of_packed {target : Target} {fields : List Field} (packed : Packed target fields) :
    placed target 0 fields = offsets 0 fields ∧ structSize target fields = totalSize fields := by
  obtain ⟨places, ends⟩ := placed_of_aligned packed.1
  refine ⟨places, ?_⟩
  rw [structSize, ends, Nat.zero_add, alignUp_of_multiple packed.2]

/-- A struct: its fields in order, and what they make of its bytes. -/
structure Layout (α : Type) where
  pod : Pod α
  fields : List Field
  total : pod.size = totalSize fields

namespace Layout

variable {α β : Type}

def last (p : Pod α) : Layout α := ⟨p, [⟨p.size, p.align⟩], by simp [totalSize]⟩

def cons (p : Pod α) (rest : Layout β) : Layout (α × β) :=
  ⟨p.pair rest.pod, ⟨p.size, p.align⟩ :: rest.fields, by
    have tail := rest.total
    simp only [Pod.pair, totalSize, List.map_cons, List.sum_cons] at tail ⊢
    rw [tail]⟩

theorem ofWindow_cons (p : Pod α) (rest : Layout β) {data : Bytes} {start : Nat}
    (inside : start + (cons p rest).pod.size ≤ data.length) :
    (cons p rest).pod.ofWindow data start inside =
      (p.ofWindow data start (le_trans (Nat.add_le_add_left (Nat.le_add_right _ _) _) inside),
        rest.pod.ofWindow data (start + p.size) (le_of_eq_of_le (Nat.add_assoc _ _ _) inside)) :=
  p.ofWindow_pair rest.pod inside

/-- The struct with these fields. -/
@[reducible] def struct (fields : Layout α) (same : β ≃ α) : Layout β := ⟨fields.pod.iso same, fields.fields, fields.total⟩

end Layout

end Rust
