import Mathlib.Data.Nat.Digits.Lemmas
import Mathlib.Tactic.Ring

/-!
# Byte strings

Little-endian numbers, windows of a byte string, strings of a fixed length and
the UTF-8 bytes of a text. A number is read with Mathlib's `Nat.ofDigits`, so its
bound and its injectivity are Mathlib's.
-/

namespace Rust

abbrev Bytes := List UInt8

/-- A byte array `[u8; n]`. -/
abbrev FixedBytes (n : Nat) := { bytes : Bytes // bytes.length = n }

/-- The array `[byte; n]`. -/
def repeated (byte : UInt8) (n : Nat) : FixedBytes n := ⟨List.replicate n byte, List.length_replicate⟩

/-! ## Little-endian numbers -/

/-- The number whose little-endian bytes are given. -/
def leNat : Bytes → Nat
  | [] => 0
  | byte :: rest => byte.toNat + 256 * leNat rest

/-- The `width` little-endian bytes of a number; higher bits are dropped. -/
def leBytes : Nat → Nat → Bytes
  | 0, _ => []
  | width + 1, n => UInt8.ofNat n :: leBytes width (n / 256)

theorem leNat_eq_ofDigits (bytes : Bytes) : leNat bytes = Nat.ofDigits 256 (bytes.map UInt8.toNat) := by
  induction bytes with
  | nil => rfl
  | cons byte rest ih => simp [leNat, Nat.ofDigits_cons, ih]

private theorem digit_lt (bytes : Bytes) : ∀ d ∈ bytes.map UInt8.toNat, d < 256 := by
  intro d member
  obtain ⟨byte, _, rfl⟩ := List.mem_map.mp member
  exact byte.toNat_lt

theorem leNat_lt (bytes : Bytes) : leNat bytes < 256 ^ bytes.length := by
  rw [leNat_eq_ofDigits]
  simpa using Nat.ofDigits_lt_base_pow_length (by decide) (digit_lt bytes)

theorem leNat_injective {a b : Bytes} (sameLength : a.length = b.length) (same : leNat a = leNat b) : a = b := by
  rw [leNat_eq_ofDigits, leNat_eq_ofDigits] at same
  have digits := Nat.ofDigits_inj_of_len_eq (by decide) (by simpa using sameLength) (digit_lt a) (digit_lt b) same
  exact (List.map_inj_right fun _ _ => UInt8.toNat_inj.mp).mp digits

@[simp] theorem length_leBytes (width n : Nat) : (leBytes width n).length = width := by
  induction width generalizing n with
  | zero => rfl
  | succ width ih => simp [leBytes, ih]

theorem leNat_leBytes (width n : Nat) : leNat (leBytes width n) = n % 256 ^ width := by
  induction width generalizing n with
  | zero => simp [leBytes, leNat, Nat.mod_one]
  | succ width ih =>
    rw [leBytes, leNat, ih, pow_succ', Nat.mod_mul]
    simp

theorem leNat_leBytes_of_lt {width n : Nat} (fits : n < 256 ^ width) : leNat (leBytes width n) = n := by
  rw [leNat_leBytes, Nat.mod_eq_of_lt fits]

theorem leBytes_injective {width a b : Nat} (fitsA : a < 256 ^ width) (fitsB : b < 256 ^ width)
    (same : leBytes width a = leBytes width b) : a = b := by
  rw [← leNat_leBytes_of_lt fitsA, same, leNat_leBytes_of_lt fitsB]

theorem leBytes_leNat (bytes : Bytes) : leBytes bytes.length (leNat bytes) = bytes :=
  leNat_injective (by simp) (leNat_leBytes_of_lt (leNat_lt bytes))

theorem leNat_replicate_zero (n : Nat) : leNat (List.replicate n 0) = 0 := by
  induction n with
  | zero => rfl
  | succ n ih => rw [List.replicate_succ, leNat, ih]; rfl

def leU64 (bytes : Bytes) : UInt64 := UInt64.ofNat (leNat bytes)

theorem leU64_toNat {bytes : Bytes} (width : bytes.length = 8) : (leU64 bytes).toNat = leNat bytes := by
  have bound := leNat_lt bytes
  rw [width] at bound
  rw [leU64, UInt64.toNat_ofNat']
  exact Nat.mod_eq_of_lt (by simpa using bound)

@[simp] theorem leU64_leBytes (n : UInt64) : leU64 (leBytes 8 n.toNat) = n := by
  apply UInt64.toNat_inj.mp
  rw [leU64_toNat (length_leBytes 8 _), leNat_leBytes_of_lt]
  simpa using n.toNat_lt

theorem leU64_injective {a b : Bytes} (widthA : a.length = 8) (widthB : b.length = 8) (same : leU64 a = leU64 b) :
    a = b := by
  refine leNat_injective (widthA.trans widthB.symm) ?_
  rw [← leU64_toNat widthA, ← leU64_toNat widthB, same]

/-! ## Windows -/

/-- The `width` bytes from `start` on, or as many of them as there are. -/
def window (bytes : Bytes) (start width : Nat) : Bytes := (bytes.drop start).take width

theorem length_window (bytes : Bytes) (start width : Nat) :
    (window bytes start width).length = min width (bytes.length - start) := by
  simp [window]

theorem length_window_of_le {bytes : Bytes} {start width : Nat} (inside : start + width ≤ bytes.length) :
    (window bytes start width).length = width := by
  rw [length_window]; omega

@[simp] theorem window_drop (bytes : Bytes) (skip start width : Nat) :
    window (bytes.drop skip) start width = window bytes (skip + start) width := by
  simp [window]

theorem window_take {bytes : Bytes} {stop start width : Nat} (inside : start + width ≤ stop) :
    window (bytes.take stop) start width = window bytes start width := by
  rw [window, window, List.drop_take, List.take_take, Nat.min_eq_left (by omega)]

theorem window_append_left {a b : Bytes} {start width : Nat} (inside : start + width ≤ a.length) :
    window (a ++ b) start width = window a start width := by
  rw [window, window, List.drop_append_of_le_length (by omega), List.take_append_of_le_length (by simp; omega)]

theorem window_append_right {a b : Bytes} {start width : Nat} (after : a.length ≤ start) :
    window (a ++ b) start width = window b (start - a.length) width := by
  rw [window, window, List.drop_append, List.drop_eq_nil_of_le after, List.nil_append]

theorem window_middle {a b c : Bytes} {start width : Nat} (after : a.length = start) (wide : b.length = width) :
    window (a ++ b ++ c) start width = b := by
  rw [window_append_left (by rw [List.length_append]; omega), window_append_right (by omega), after, Nat.sub_self,
    window, List.drop_zero, ← wide, List.take_length]

theorem window_full {bytes : Bytes} {n : Nat} (length : bytes.length = n) : window bytes 0 n = bytes := by
  simp [window, ← length]

theorem window_add (bytes : Bytes) (start first second : Nat) :
    window bytes start (first + second) = window bytes start first ++ window bytes (start + first) second := by
  rw [window, window, window, List.take_add, List.drop_drop]

theorem window_window {bytes : Bytes} {outer size start width : Nat} (inside : start + width ≤ size) :
    window (window bytes outer size) start width = window bytes (outer + start) width := by
  rw [window.eq_def bytes outer size, window_take inside, window_drop]

theorem window_flatten {chunks : List Bytes} {width : Nat} (each : ∀ chunk ∈ chunks, chunk.length = width) {i : Nat}
    (inside : i < chunks.length) : window chunks.flatten (width * i) width = chunks[i] := by
  induction chunks generalizing i with
  | nil => simp at inside
  | cons chunk rest ih =>
    have first : chunk.length = width := each chunk List.mem_cons_self
    cases i with
    | zero =>
      rw [List.flatten_cons, Nat.mul_zero, window_append_left (by omega), window_full first]
      rfl
    | succ i =>
      rw [List.flatten_cons, window_append_right (by rw [first]; exact Nat.le_mul_of_pos_right _ (Nat.succ_pos i)),
        first, Nat.mul_succ, Nat.add_sub_cancel, ih (fun c member => each c (List.mem_cons_of_mem _ member))
          (by simpa using inside)]
      rfl

theorem length_flatten {chunks : List Bytes} {width : Nat} (each : ∀ chunk ∈ chunks, chunk.length = width) :
    chunks.flatten.length = width * chunks.length := by
  induction chunks with
  | nil => rfl
  | cons chunk rest ih =>
    rw [List.flatten_cons, List.length_append, ih fun c member => each c (List.mem_cons_of_mem _ member),
      each chunk List.mem_cons_self, List.length_cons, Nat.mul_succ, Nat.add_comm]

theorem drop_flatten_take (chunks : List Bytes) (k : Nat) :
    chunks.flatten.drop (chunks.take k).flatten.length = (chunks.drop k).flatten := by
  have split : chunks.flatten = (chunks.take k).flatten ++ (chunks.drop k).flatten := by
    rw [← List.flatten_append, List.take_append_drop]
  rw [split, List.drop_left]

/-- The byte at an index, zero behind the end. -/
def byteAt (bytes : Bytes) (i : Nat) : UInt8 := bytes[i]?.getD 0

theorem byteAt_of_lt {bytes : Bytes} {i : Nat} (inside : i < bytes.length) : byteAt bytes i = bytes[i] := by
  simp [byteAt, inside]

@[simp] theorem byteAt_drop (bytes : Bytes) (skip i : Nat) : byteAt (bytes.drop skip) i = byteAt bytes (skip + i) := by
  simp [byteAt]

theorem byteAt_take {bytes : Bytes} {stop i : Nat} (inside : i < stop) :
    byteAt (bytes.take stop) i = byteAt bytes i := by
  simp [byteAt, inside]

theorem window_one {bytes : Bytes} {i : Nat} (inside : i < bytes.length) : window bytes i 1 = [byteAt bytes i] := by
  rw [window, List.drop_eq_getElem_cons inside, byteAt_of_lt inside]
  rfl

/-- The array of the `n` bytes from `start` on. -/
def fixedAt (bytes : Bytes) (start n : Nat) (inside : start + n ≤ bytes.length) : FixedBytes n :=
  ⟨window bytes start n, length_window_of_le inside⟩

@[simp] theorem fixedAt_val (bytes : Bytes) (start n : Nat) (inside : start + n ≤ bytes.length) :
    (fixedAt bytes start n inside).val = window bytes start n := rfl

/-! ## Text -/

/-- The UTF-8 bytes of a text (`as_bytes`). -/
def utf8 (text : String) : Bytes := text.toUTF8.data.toList

theorem utf8_injective {a b : String} (same : utf8 a = utf8 b) : a = b :=
  String.toByteArray_inj.mp (ByteArray.ext (Array.toList_inj.mp same))

theorem utf8_append (a b : String) : utf8 (a ++ b) = utf8 a ++ utf8 b := by
  simp [utf8]

/-- What follows the bytes of a text in those of another one are the bytes of a
    text again. -/
theorem utf8_prefix {a b : String} {rest : Bytes} (starts : utf8 a ++ rest = utf8 b) :
    ∃ text, b = a ++ text ∧ rest = utf8 text := by
  have encoded : a.toList.utf8Encode ++ ⟨rest.toArray⟩ = b.toList.utf8Encode := by
    apply ByteArray.ext
    apply Array.toList_inj.mp
    simpa [utf8] using starts
  obtain ⟨chars, split⟩ := List.isPrefix_of_utf8Encode_append_eq_utf8Encode _ encoded
  have continues : b = a ++ String.ofList chars := by
    apply String.toList_injective
    rw [String.toList_append, String.toList_ofList, split]
  refine ⟨String.ofList chars, continues, ?_⟩
  rw [continues, utf8_append] at starts
  exact List.append_cancel_left starts

/-! ## Overwriting -/

def overwrite (bytes : Bytes) (start : Nat) (new : Bytes) : Bytes :=
  bytes.take start ++ new ++ bytes.drop (start + new.length)

end Rust
