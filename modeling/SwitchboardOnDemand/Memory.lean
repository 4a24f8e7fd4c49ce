import SwitchboardOnDemand.Outcome
import SwitchboardOnDemand.Bytes

/-!
# Raw pointers and slices

A raw pointer is an address in an allocation, and a read through it is defined
while it stays inside that allocation; `*p` also needs the alignment of its type,
which `read_unaligned` does not. A slice is a pointer with a length. Code
that builds a slice out of raw parts may give it any length, so that a slice
lies inside its allocation (`InBounds`) is a property, not part of the type;
`SafeSlice` carries it.
-/

namespace Rust

variable {ε : Type}

/-- A raw pointer: an allocation and an address in it. Addresses count from a
    multiple of eight, where the runtime puts the data of an account; what lies
    elsewhere has other bytes of its allocation before it. -/
structure Ptr where
  alloc : Bytes
  addr : Nat
  deriving Repr, DecidableEq

namespace Ptr

def add (p : Ptr) (count : Nat) : Ptr := { p with addr := p.addr + count }

def null : Ptr := ⟨[], 0⟩

/-- The bytes from a pointer to the end of its allocation. -/
def rest (p : Ptr) : Bytes := p.alloc.drop p.addr

def read (p : Ptr) (n : Nat) : Exec ε (FixedBytes n) :=
  if inside : 0 + n ≤ p.rest.length then .ok (fixedAt p.rest 0 n inside) else .fault

/-- The address suits a type of this alignment. -/
def Aligned (p : Ptr) (align : Nat) : Prop := p.addr % align = 0

instance (p : Ptr) (align : Nat) : Decidable (p.Aligned align) := inferInstanceAs (Decidable (_ = _))

/-- `*p` for a type of `n` bytes. -/
def deref (p : Ptr) (align n : Nat) : Exec ε (FixedBytes n) := if p.Aligned align then p.read n else .fault

def read_u8 (p : Ptr) : Exec ε UInt8 := (fun b => byteAt b.val 0) <$> p.read 1
/-- `read_unaligned(p as *const u16) as usize`. -/
def read_u16 (p : Ptr) : Exec ε Nat := (fun b => leNat b.val) <$> p.read 2
/-- `read_unaligned(p as *const u64)`. -/
def read_u64 (p : Ptr) : Exec ε UInt64 := (fun b => leU64 b.val) <$> p.read 8

@[simp] theorem rest_add (p : Ptr) (count : Nat) : (p.add count).rest = p.rest.drop count := by
  simp [rest, add]

@[simp] theorem add_add (p : Ptr) (a b : Nat) : (p.add a).add b = p.add (a + b) := by
  simp [add, Nat.add_assoc]

@[simp] theorem add_zero (p : Ptr) : p.add 0 = p := rfl

theorem aligned_add {p : Ptr} {align count : Nat} (multiple : count % align = 0) :
    (p.add count).Aligned align ↔ p.Aligned align := by
  unfold Aligned add
  rw [Nat.add_mod, multiple, Nat.add_zero, Nat.mod_mod]

theorem deref_aligned {p : Ptr} {align : Nat} (n : Nat) (aligned : p.Aligned align) :
    (p.deref align n : Exec ε _) = p.read n := if_pos aligned

theorem deref_misaligned {p : Ptr} {align : Nat} (n : Nat) (misaligned : ¬ p.Aligned align) :
    (p.deref align n : Exec ε _) = .fault := if_neg misaligned

theorem read_of_le {p : Ptr} {n : Nat} (inside : n ≤ p.rest.length) :
    (p.read n : Exec ε _) = .ok (fixedAt p.rest 0 n (by omega)) := dif_pos (by omega)

theorem read_add {p : Ptr} {offset n : Nat} (inside : offset + n ≤ p.rest.length) :
    ((p.add offset).read n : Exec ε _) = .ok (fixedAt p.rest offset n inside) := by
  rw [read_of_le (by simp; omega)]
  simp [fixedAt]

theorem read_add_outside {p : Ptr} {offset n : Nat} (outside : ¬ offset + n ≤ p.rest.length) (some : 0 < n) :
    ((p.add offset).read n : Exec ε _) = .fault :=
  dif_neg (by simp; omega)

theorem read_add_eq_ok {p : Ptr} {offset n : Nat} {b : FixedBytes n} (some : 0 < n) :
    ((p.add offset).read n : Exec ε _) = .ok b ↔ offset + n ≤ p.rest.length ∧ b.val = window p.rest offset n := by
  by_cases inside : offset + n ≤ p.rest.length
  · rw [read_add inside]
    simp [inside, Subtype.ext_iff, eq_comm]
  · rw [read_add_outside inside some]
    simp [inside]

theorem read_u16_add {p : Ptr} {offset : Nat} (inside : offset + 2 ≤ p.rest.length) :
    ((p.add offset).read_u16 : Exec ε _) = .ok (leNat (window p.rest offset 2)) := by
  simp [read_u16, read_add inside]

theorem read_u16_lt {p : Ptr} {n : Nat} (done : (p.read_u16 : Exec ε _) = .ok n) : n < 65536 := by
  obtain ⟨bytes, _, rfl⟩ := Exec.map_eq_ok.mp done
  have bound := leNat_lt bytes.val
  rwa [bytes.property] at bound

theorem read_u64_add {p : Ptr} {offset : Nat} (inside : offset + 8 ≤ p.rest.length) :
    ((p.add offset).read_u64 : Exec ε _) = .ok (leU64 (window p.rest offset 8)) := by
  simp [read_u64, read_add inside]

theorem read_u64_add_outside {p : Ptr} {offset : Nat} (outside : ¬ offset + 8 ≤ p.rest.length) :
    ((p.add offset).read_u64 : Exec ε _) = .fault := by
  simp [read_u64, read_add_outside outside]

theorem read_u8_add {p : Ptr} {offset : Nat} (inside : offset + 1 ≤ p.rest.length) :
    ((p.add offset).read_u8 : Exec ε _) = .ok (byteAt p.rest offset) := by
  simp [read_u8, read_add inside, window_one inside, byteAt]

end Ptr

/-- A pointer to the first byte of an object of its own. -/
def addrOf (bytes : Bytes) : Ptr := ⟨bytes, 0⟩

@[simp] theorem addrOf_rest (bytes : Bytes) : (addrOf bytes).rest = bytes := rfl

/-- A byte slice: where it starts and how many bytes it claims. -/
structure Slice where
  ptr : Ptr
  len : Nat
  deriving Repr, DecidableEq

namespace Slice

def of (bytes : Bytes) : Slice := ⟨addrOf bytes, bytes.length⟩

/-- The slice lies inside its allocation. -/
def InBounds (s : Slice) : Prop := s.len ≤ s.ptr.rest.length

def bytes (s : Slice) : Bytes := s.ptr.rest.take s.len

/-- `&s[i]`. -/
def indexRef (s : Slice) (i : Nat) : Exec ε Ptr := do
  Exec.assert (i < s.len) s!"index out of bounds: the len is {s.len} but the index is {i}"
  pure (s.ptr.add i)

/-- `s[i]`. -/
def index (s : Slice) (i : Nat) : Exec ε UInt8 := do
  let p ← s.indexRef i
  p.read_u8

/-- `&s[start..]`. -/
def sliceFrom (s : Slice) (start : Nat) : Exec ε Slice := do
  Exec.assert (start ≤ s.len) s!"range start index {start} out of range for slice of length {s.len}"
  pure ⟨s.ptr.add start, s.len - start⟩

/-- `&s[..stop]`. -/
def sliceTo (s : Slice) (stop : Nat) : Exec ε Slice := do
  Exec.assert (stop ≤ s.len) s!"range end index {stop} out of range for slice of length {s.len}"
  pure ⟨s.ptr, stop⟩

/-- `&s[start..stop]`. -/
def sliceRange (s : Slice) (start stop : Nat) : Exec ε Slice := do
  Exec.assert (start ≤ stop) s!"slice index starts at {start} but ends at {stop}"
  Exec.assert (stop ≤ s.len) s!"range end index {stop} out of range for slice of length {s.len}"
  pure ⟨s.ptr.add start, stop - start⟩

@[simp] theorem of_ptr_rest (b : Bytes) : (of b).ptr.rest = b := rfl
@[simp] theorem of_len (b : Bytes) : (of b).len = b.length := rfl

theorem of_inBounds (b : Bytes) : (of b).InBounds := Nat.le_refl _

@[simp] theorem of_bytes (b : Bytes) : (of b).bytes = b := List.take_length

theorem length_bytes {s : Slice} (inside : s.InBounds) : s.bytes.length = s.len := by
  rw [bytes, List.length_take, Nat.min_eq_left inside]

/-- Inside a slice, the bytes from its start on are the bytes of the slice. -/
theorem window_rest {s : Slice} {offset n : Nat} (inside : offset + n ≤ s.len) :
    window s.ptr.rest offset n = window s.bytes offset n := (window_take inside).symm

theorem sliceFrom_of_le {s : Slice} {start : Nat} (le : start ≤ s.len) :
    (s.sliceFrom start : Exec ε _) = .ok ⟨s.ptr.add start, s.len - start⟩ := by
  simp [sliceFrom, Exec.assert_true _ le]

theorem sliceTo_of_le {s : Slice} {stop : Nat} (le : stop ≤ s.len) :
    (s.sliceTo stop : Exec ε _) = .ok ⟨s.ptr, stop⟩ := by
  simp [sliceTo, Exec.assert_true _ le]

theorem sliceRange_of_le {s : Slice} {start stop : Nat} (order : start ≤ stop) (le : stop ≤ s.len) :
    (s.sliceRange start stop : Exec ε _) = .ok ⟨s.ptr.add start, stop - start⟩ := by
  simp [sliceRange, Exec.assert_true _ order, Exec.assert_true _ le]

theorem indexRef_of_lt {s : Slice} {i : Nat} (lt : i < s.len) :
    (s.indexRef i : Exec ε _) = .ok (s.ptr.add i) := by
  simp [indexRef, Exec.assert_true _ lt]

theorem index_of_lt {s : Slice} {i : Nat} (inside : s.InBounds) (lt : i < s.len) :
    (s.index i : Exec ε _) = .ok (byteAt s.ptr.rest i) := by
  simp only [index, indexRef_of_lt lt, Exec.ok_bind]
  exact Ptr.read_u8_add (Nat.lt_of_lt_of_le lt inside)

end Slice

/-- A slice that lies inside its allocation, as every `&[u8]` of safe code does. -/
structure SafeSlice extends Slice where
  inside : toSlice.InBounds

namespace SafeSlice

def of (bytes : Bytes) : SafeSlice := ⟨Slice.of bytes, Slice.of_inBounds bytes⟩

/-- Bytes that lie behind others. -/
def behind (front bytes : Bytes) : SafeSlice where
  ptr := ⟨front ++ bytes, front.length⟩
  len := bytes.length
  inside := by simp [Slice.InBounds, Ptr.rest]

@[simp] theorem behind_bytes (front bytes : Bytes) : (behind front bytes).bytes = bytes := by
  simp [behind, Slice.bytes, Ptr.rest]

end SafeSlice

end Rust
