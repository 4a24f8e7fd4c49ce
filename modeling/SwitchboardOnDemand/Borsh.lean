import SwitchboardOnDemand.Pod

/-!
# The Borsh format

A format writes a value and reads it back from the front of some bytes. Reading
undoes writing whatever comes behind (`reads`). Numbers and arrays of bytes are
written as they lie in memory, an option behind a byte, a sequence behind its
length.
-/

namespace Rust

structure Borsh (α : Type) where
  /-- Nothing where `borsh::to_vec` gives an error. -/
  serialize : α → Option Bytes
  /-- The value at the front, and what is behind it. -/
  deserialize : Bytes → Option (α × Bytes)
  reads : ∀ data value rest,
    deserialize data = some (value, rest) ↔ ∃ bytes, serialize value = some bytes ∧ data = bytes ++ rest

namespace Borsh

variable {α β : Type}

theorem deserialize_serialize (f : Borsh α) {value : α} {bytes : Bytes} (written : f.serialize value = some bytes)
    (rest : Bytes) : f.deserialize (bytes ++ rest) = some (value, rest) :=
  (f.reads _ value rest).mpr ⟨bytes, written, rfl⟩

/-! ## Values of one size -/

/-- No fields. -/
def unit : Borsh Unit where
  serialize _ := some []
  deserialize data := some ((), data)
  reads data value rest := by simp

/-- The front of some bytes as a value in memory. -/
def readPod (p : Pod α) (data : Bytes) : Option (α × Bytes) :=
  if long : p.size ≤ data.length then
    some (p.ofBytes (fixedAt data 0 p.size ((Nat.zero_add p.size).le.trans long)), data.drop p.size)
  else none

theorem readPod_eq_some (p : Pod α) (data : Bytes) (value : α) (rest : Bytes) :
    readPod p data = some (value, rest) ↔ ∃ bytes, some (p.toBytes value).val = some bytes ∧ data = bytes ++ rest := by
  have width := (p.toBytes value).property
  constructor
  · intro read
    unfold readPod at read
    by_cases long : p.size ≤ data.length
    · rw [dif_pos long, Option.some.injEq, Prod.mk.injEq] at read
      obtain ⟨rfl, rfl⟩ := read
      refine ⟨_, rfl, ?_⟩
      rw [p.toBytes_ofBytes, fixedAt_val, window, List.drop_zero, List.take_append_drop]
    · rw [dif_neg long] at read
      cases read
  · rintro ⟨bytes, ⟨⟩, rfl⟩
    have long : p.size ≤ ((p.toBytes value).val ++ rest).length := by rw [List.length_append]; omega
    rw [readPod, dif_pos long, Option.some.injEq, Prod.mk.injEq]
    refine ⟨(congrArg p.ofBytes (Subtype.ext ?_)).trans (p.ofBytes_toBytes value), List.drop_left' width⟩
    rw [fixedAt_val, window_append_left (by omega), window_full width]

/-- A type that is written as it lies in memory. -/
def ofPod (p : Pod α) : Borsh α where
  serialize value := some (p.toBytes value).val
  deserialize := readPod p
  reads := readPod_eq_some p

def u8 : Borsh UInt8 := ofPod .u8
def u32 : Borsh UInt32 := ofPod .u32
def u64 : Borsh UInt64 := ofPod .u64
def i64 : Borsh Int64 := ofPod .i64

/-- `[u8; n]`. -/
def bytes (n : Nat) : Borsh (FixedBytes n) := ofPod (.bytes n)

/-! ## Composed values -/

/-- One value behind another. -/
def pair (f : Borsh α) (g : Borsh β) : Borsh (α × β) where
  serialize value := (f.serialize value.1).bind fun first => (g.serialize value.2).map fun second => first ++ second
  deserialize data := (f.deserialize data).bind fun (first, behind) =>
    (g.deserialize behind).map fun (second, rest) => ((first, second), rest)
  reads data value rest := by
    obtain ⟨a, b⟩ := value
    simp only [Option.bind_eq_some_iff, Option.map_eq_some_iff, Prod.mk.injEq, Prod.exists]
    constructor
    · rintro ⟨a', behind, readA, b', rest', readB, ⟨rfl, rfl⟩, rfl⟩
      obtain ⟨first, writtenA, rfl⟩ := (f.reads _ _ _).mp readA
      obtain ⟨second, writtenB, rfl⟩ := (g.reads _ _ _).mp readB
      exact ⟨first ++ second, ⟨first, writtenA, second, writtenB, rfl⟩, (List.append_assoc _ _ _).symm⟩
    · rintro ⟨_, ⟨first, writtenA, second, writtenB, rfl⟩, rfl⟩
      refine ⟨a, second ++ rest, ?_, b, rest, g.deserialize_serialize writtenB rest, ⟨rfl, rfl⟩, rfl⟩
      rw [List.append_assoc]
      exact f.deserialize_serialize writtenA (second ++ rest)

theorem pair_serialize_eq_some {f : Borsh α} {g : Borsh β} {value : α × β} {bytes : Bytes} :
    (pair f g).serialize value = some bytes ↔
      ∃ first, f.serialize value.1 = some first ∧ ∃ second, g.serialize value.2 = some second ∧ first ++ second = bytes := by
  simp only [pair, Option.bind_eq_some_iff, Option.map_eq_some_iff]

/-- A type in bijection: a struct and the sequence of its fields. -/
def iso (f : Borsh α) (same : β ≃ α) : Borsh β where
  serialize value := f.serialize (same value)
  deserialize data := (f.deserialize data).map fun (value, rest) => (same.symm value, rest)
  reads data value rest := by
    simp only [Option.map_eq_some_iff, Prod.mk.injEq, Prod.exists]
    constructor
    · rintro ⟨a, _, read, rfl, rfl⟩
      rw [same.apply_symm_apply]
      exact (f.reads _ _ _).mp read
    · intro written
      exact ⟨same value, rest, (f.reads _ _ _).mpr written, same.symm_apply_apply value, rfl⟩

/-- A value behind a byte for its variant, of which there are two. -/
def either (f : Borsh α) (g : Borsh β) : Borsh (α ⊕ β) where
  serialize
    | .inl value => (f.serialize value).map fun bytes => 0 :: bytes
    | .inr value => (g.serialize value).map fun bytes => 1 :: bytes
  deserialize
    | 0 :: data => (f.deserialize data).map fun (value, rest) => (.inl value, rest)
    | 1 :: data => (g.deserialize data).map fun (value, rest) => (.inr value, rest)
    | _ => none
  reads data value rest := by
    constructor
    · intro read
      split at read
      · rename_i data
        obtain ⟨⟨a, behind⟩, readA, same⟩ := Option.map_eq_some_iff.mp read
        obtain ⟨rfl, rfl⟩ := Prod.mk.injEq .. ▸ same
        obtain ⟨bytes, written, rfl⟩ := (f.reads _ _ _).mp readA
        exact ⟨0 :: bytes, Option.map_eq_some_iff.mpr ⟨bytes, written, rfl⟩, rfl⟩
      · rename_i data
        obtain ⟨⟨b, behind⟩, readB, same⟩ := Option.map_eq_some_iff.mp read
        obtain ⟨rfl, rfl⟩ := Prod.mk.injEq .. ▸ same
        obtain ⟨bytes, written, rfl⟩ := (g.reads _ _ _).mp readB
        exact ⟨1 :: bytes, Option.map_eq_some_iff.mpr ⟨bytes, written, rfl⟩, rfl⟩
      · cases read
    · rintro ⟨bytes, written, rfl⟩
      cases value with
      | inl a =>
        obtain ⟨behind, writtenA, rfl⟩ := Option.map_eq_some_iff.mp written
        exact Option.map_eq_some_iff.mpr ⟨(a, rest), f.deserialize_serialize writtenA rest, rfl⟩
      | inr b =>
        obtain ⟨behind, writtenB, rfl⟩ := Option.map_eq_some_iff.mp written
        exact Option.map_eq_some_iff.mpr ⟨(b, rest), g.deserialize_serialize writtenB rest, rfl⟩

def bool : Borsh Bool :=
  (either unit unit).iso
    ⟨fun value => if value then .inr () else .inl (), Sum.isRight, fun value => by cases value <;> rfl,
      fun value => by rcases value with _ | _ <;> rfl⟩

def option (f : Borsh α) : Borsh (Option α) :=
  (either unit f).iso
    ⟨fun value => value.elim (.inl ()) .inr, Sum.getRight?, fun value => by cases value <;> rfl,
      fun value => by rcases value with _ | _ <;> rfl⟩

/-! ## Sequences -/

/-- Values one behind the other. -/
def serializeAll (f : Borsh α) : List α → Option Bytes
  | [] => some []
  | value :: rest => (f.serialize value).bind fun first => (serializeAll f rest).map fun second => first ++ second

def deserializeAll (f : Borsh α) : Nat → Bytes → Option (List α × Bytes)
  | 0, data => some ([], data)
  | n + 1, data => (f.deserialize data).bind fun (first, behind) =>
      (deserializeAll f n behind).map fun (values, rest) => (first :: values, rest)

theorem reads_all (f : Borsh α) (n : Nat) (data : Bytes) (values : List α) (rest : Bytes) :
    f.deserializeAll n data = some (values, rest) ↔
      values.length = n ∧ ∃ bytes, f.serializeAll values = some bytes ∧ data = bytes ++ rest := by
  induction n generalizing data values with
  | zero =>
    simp only [deserializeAll, Option.some.injEq, Prod.mk.injEq, List.length_eq_zero_iff]
    constructor
    · rintro ⟨rfl, rfl⟩
      exact ⟨rfl, [], rfl, rfl⟩
    · rintro ⟨rfl, _, ⟨⟩, rfl⟩
      exact ⟨rfl, rfl⟩
  | succ n ih =>
    simp only [deserializeAll, Option.bind_eq_some_iff, Option.map_eq_some_iff, Prod.mk.injEq, Prod.exists]
    constructor
    · rintro ⟨first, behind, read, others, rest', readAll, rfl, rfl⟩
      obtain ⟨bytes, written, rfl⟩ := (f.reads _ _ _).mp read
      obtain ⟨rfl, bytesAll, writtenAll, rfl⟩ := (ih _ _).mp readAll
      refine ⟨rfl, bytes ++ bytesAll, ?_, (List.append_assoc _ _ _).symm⟩
      simp [serializeAll, written, writtenAll]
    · rintro ⟨length, bytes, written, rfl⟩
      cases values with
      | nil => cases length
      | cons first others =>
        simp only [serializeAll, Option.bind_eq_some_iff, Option.map_eq_some_iff] at written
        obtain ⟨x, writtenFirst, y, writtenOthers, rfl⟩ := written
        refine ⟨first, y ++ rest, ?_, others, rest, ?_, rfl, rfl⟩
        · rw [List.append_assoc]
          exact f.deserialize_serialize writtenFirst (y ++ rest)
        · exact (ih _ _).mpr ⟨Nat.succ_injective length, y, writtenOthers, rfl⟩

/-- `Vec<T>`: the length as a `u32`, which a longer sequence does not have. -/
def vec (f : Borsh α) : Borsh (List α) where
  serialize values :=
    if values.length < 2 ^ 32 then
      (f.serializeAll values).map fun elements => leBytes 4 values.length ++ elements
    else none
  deserialize data := (u32.deserialize data).bind fun (length, behind) => f.deserializeAll length.toNat behind
  reads data values rest := by
    simp only [Option.bind_eq_some_iff, Prod.exists, f.reads_all]
    constructor
    · rintro ⟨length, behind, read, same, bytes, written, rfl⟩
      obtain ⟨_, ⟨⟩, rfl⟩ := (u32.reads _ _ _).mp read
      have few : values.length < 2 ^ 32 := same ▸ length.toNat_lt
      refine ⟨leBytes 4 values.length ++ bytes, ?_, ?_⟩
      · rw [if_pos few, written, Option.map_some]
      · rw [same, List.append_assoc]
        rfl
    · rintro ⟨bytes, written, rfl⟩
      split at written
      · rename_i few
        obtain ⟨elements, writtenAll, rfl⟩ := Option.map_eq_some_iff.mp written
        have length : (UInt32.ofNat values.length).toNat = values.length := UInt32.toNat_ofNat_of_lt' few
        refine ⟨UInt32.ofNat values.length, elements ++ rest, ?_, length.symm, elements, writtenAll, rfl⟩
        refine (u32.reads _ _ _).mpr ⟨leBytes 4 values.length, ?_, List.append_assoc _ _ _⟩
        show some (leBytes 4 (UInt32.ofNat values.length).toNat) = _
        rw [length]
      · cases written

/-! ## What can be written -/

/-- `borsh::to_vec` gives bytes. -/
def Writes (f : Borsh α) (value : α) : Prop := ∃ bytes, f.serialize value = some bytes

@[simp] theorem writes_unit (value : Unit) : unit.Writes value := ⟨[], rfl⟩

@[simp] theorem writes_ofPod (p : Pod α) (value : α) : (ofPod p).Writes value := ⟨_, rfl⟩

@[simp] theorem writes_u8 (value : UInt8) : u8.Writes value := ⟨_, rfl⟩
@[simp] theorem writes_u32 (value : UInt32) : u32.Writes value := ⟨_, rfl⟩
@[simp] theorem writes_u64 (value : UInt64) : u64.Writes value := ⟨_, rfl⟩
@[simp] theorem writes_i64 (value : Int64) : i64.Writes value := ⟨_, rfl⟩
@[simp] theorem writes_bytes (n : Nat) (value : FixedBytes n) : (bytes n).Writes value := ⟨_, rfl⟩

@[simp] theorem writes_pair (f : Borsh α) (g : Borsh β) (value : α × β) :
    (f.pair g).Writes value ↔ f.Writes value.1 ∧ g.Writes value.2 := by
  simp [Writes, pair, Option.bind_eq_some_iff]

@[simp] theorem writes_iso (f : Borsh α) (same : β ≃ α) (value : β) : (f.iso same).Writes value ↔ f.Writes (same value) :=
  Iff.rfl

@[simp] theorem writes_inl (f : Borsh α) (g : Borsh β) (value : α) :
    (f.either g).Writes (.inl value) ↔ f.Writes value := by
  simp [Writes, either]

@[simp] theorem writes_inr (f : Borsh α) (g : Borsh β) (value : β) :
    (f.either g).Writes (.inr value) ↔ g.Writes value := by
  simp [Writes, either]

@[simp] theorem writes_bool (value : Bool) : bool.Writes value := by
  cases value with
  | false => exact (writes_inl unit unit ()).mpr (writes_unit ())
  | true => exact (writes_inr unit unit ()).mpr (writes_unit ())

theorem writes_option (f : Borsh α) (value : Option α) : (option f).Writes value ↔ ∀ a, value = some a → f.Writes a := by
  cases value with
  | none =>
    have written : (option f).Writes none := (writes_inl unit f ()).mpr (writes_unit ())
    exact iff_of_true written fun a same => nomatch same
  | some a =>
    have inside : (option f).Writes (some a) ↔ f.Writes a := writes_inr unit f a
    rw [inside]
    exact ⟨fun written b same => Option.some.inj same ▸ written, fun all => all a rfl⟩

theorem writes_all (f : Borsh α) (values : List α) :
    (∃ bytes, f.serializeAll values = some bytes) ↔ ∀ value ∈ values, f.Writes value := by
  induction values with
  | nil => simp [serializeAll]
  | cons value rest ih =>
    rw [List.forall_mem_cons, ← ih]
    simp [serializeAll, Writes, Option.bind_eq_some_iff]

/-- A sequence is written when its length fits and its elements are. -/
theorem writes_vec (f : Borsh α) (values : List α) :
    (vec f).Writes values ↔ values.length < 2 ^ 32 ∧ ∀ value ∈ values, f.Writes value := by
  rw [← writes_all]
  have format : (vec f).serialize values = if values.length < 2 ^ 32 then
      (f.serializeAll values).map fun elements => leBytes 4 values.length ++ elements
    else none := rfl
  rw [Writes, format]
  split
  · rename_i few
    rw [and_iff_right few]
    simp
  · rename_i many
    exact iff_of_false (by simp) fun both => many both.1

end Borsh

end Rust
