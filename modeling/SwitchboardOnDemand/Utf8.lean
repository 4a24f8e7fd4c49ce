import SwitchboardOnDemand.Bytes

/-!
# Lossy decoding of UTF-8

Bytes become text one after the other. Where they leave UTF-8, what came of the
character so far is replaced by U+FFFD, and the byte that left it starts a new one.
Text comes back from its bytes (`decode_utf8`), and bytes come back from their text
unless something was replaced (`utf8_decode`). A byte below 128 is a character of its
own wherever it stands (`decode_ascii`).
-/

namespace Utf8
open Rust

/-- The least and the greatest byte that may come next in a character. -/
structure Range where
  least : Nat
  greatest : Nat
  /-- Bytes below 128 are characters of their own. -/
  high : 0x80 ≤ least

def Range.Has (range : Range) (byte : UInt8) : Prop := range.least ≤ byte.toNat ∧ byte.toNat ≤ range.greatest

instance (range : Range) (byte : UInt8) : Decidable (range.Has byte) :=
  inferInstanceAs (Decidable (_ ∧ _))

def tail : Range := ⟨0x80, 0xBF, by decide⟩

/-- Behind 0xE0, where lower bytes would spell a number that two bytes spell. -/
def tailE0 : Range := ⟨0xA0, 0xBF, by decide⟩

/-- Behind 0xED, where higher bytes would spell a surrogate. -/
def tailED : Range := ⟨0x80, 0x9F, by decide⟩

/-- Behind 0xF0, where lower bytes would spell a number that three bytes spell. -/
def tailF0 : Range := ⟨0x90, 0xBF, by decide⟩

/-- Behind 0xF4, where higher bytes would spell a number above 0x10FFFF. -/
def tailF4 : Range := ⟨0x80, 0x8F, by decide⟩

/-- The bits of a first byte, and the ranges of the bytes behind it. -/
def first (b : Nat) : Option (Nat × List Range) :=
  if b < 0x80 then some (b, [])
  else if b < 0xC2 then none
  else if b < 0xE0 then some (b - 0xC0, [tail])
  else if b = 0xE0 then some (0, [tailE0, tail])
  else if b = 0xED then some (0xD, [tailED, tail])
  else if b < 0xF0 then some (b - 0xE0, [tail, tail])
  else if b = 0xF0 then some (0, [tailF0, tail, tail])
  else if b < 0xF4 then some (b - 0xF0, [tail, tail, tail])
  else if b = 0xF4 then some (4, [tailF4, tail, tail])
  else none

/-- The bits with those of one more byte. -/
def more (bits : Nat) (byte : UInt8) : Nat := bits * 64 + byte.toNat % 64

/-! ### The decoder -/

inductive State where
  | between
  /-- In a character, with its bits so far. -/
  | within (next : Range) (later : List Range) (bits : Nat)

/-- U+FFFD. -/
def replacement : Char := Char.ofNat 0xFFFD

/-- The state with some bits and the ranges that are still to come, and the
    character when there are none. -/
def after (bits : Nat) : List Range → State × List Char
  | [] => (.between, [Char.ofNat bits])
  | next :: later => (.within next later bits, [])

def start (byte : UInt8) : State × List Char :=
  match first byte.toNat with
  | none => (.between, [replacement])
  | some (bits, ranges) => after bits ranges

/-- What is left of a character that does not go on. -/
def State.broken : State → List Char
  | between => []
  | within _ _ _ => [replacement]

def State.step (state : State) (byte : UInt8) : State × List Char :=
  match state with
  | between => start byte
  | within next later bits =>
    if next.Has byte then after (more bits byte) later
    else ((start byte).1, replacement :: (start byte).2)

def State.decode : State → Bytes → List Char
  | state, [] => state.broken
  | state, byte :: bytes => (state.step byte).2 ++ (state.step byte).1.decode bytes

/-- `String::from_utf8_lossy`, as its characters. -/
def decode (bytes : Bytes) : List Char := State.between.decode bytes

/-! ### Bytes below 128 -/

theorem start_ascii {byte : UInt8} (ascii : byte.toNat < 0x80) :
    start byte = (.between, [Char.ofNat byte.toNat]) := by
  simp [start, first, ascii, after]

theorem step_ascii (state : State) {byte : UInt8} (ascii : byte.toNat < 0x80) :
    state.step byte = (.between, state.broken ++ [Char.ofNat byte.toNat]) := by
  cases state with
  | between => exact start_ascii ascii
  | within next later bits =>
    have outside : ¬ next.Has byte := by
      intro inside
      have high := next.high
      have least := inside.1
      omega
    simp [State.step, outside, start_ascii ascii, State.broken]

/-- A byte below 128 ends the character in front of it and is one itself. -/
theorem decode_ascii (state : State) (front : Bytes) {byte : UInt8} (ascii : byte.toNat < 0x80) (back : Bytes) :
    state.decode (front ++ byte :: back) = state.decode front ++ Char.ofNat byte.toNat :: decode back := by
  induction front generalizing state with
  | nil => simp [State.decode, step_ascii state ascii, decode]
  | cons other front ih => simp [State.decode, ih]

example : decode [0x61, 0xF1, 0x80, 0x80, 0xE1, 0x80, 0xC2, 0x62, 0x80, 0x63, 0x80, 0xBF, 0x64] =
    ['a', replacement, replacement, replacement, 'b', replacement, 'c', replacement, replacement, 'd'] := by decide

/-! ### Text comes back from its bytes -/

/-- Bytes in their ranges. -/
abbrev Follow (ranges : List Range) (bytes : Bytes) : Prop := List.Forall₂ Range.Has ranges bytes

theorem decode_after {ranges : List Range} {bytes : Bytes} (follow : Follow ranges bytes) (bits : Nat) (rest : Bytes) :
    (after bits ranges).2 ++ (after bits ranges).1.decode (bytes ++ rest) =
      Char.ofNat (bytes.foldl more bits) :: decode rest := by
  induction follow generalizing bits with
  | nil => rfl
  | @cons range byte ranges bytes inside _ ih =>
    have stepped : (State.within range ranges bits).step byte = after (more bits byte) ranges := by
      simp [State.step, inside]
    simp only [after, List.nil_append, List.cons_append, State.decode, stepped, List.foldl_cons]
    exact ih (more bits byte)

/-- A character is spelled by its first byte and the bytes in the ranges behind it. -/
structure Spells (c : Char) (byte : UInt8) (bytes : Bytes) (bits : Nat) (ranges : List Range) : Prop where
  starts : first byte.toNat = some (bits, ranges)
  follow : Follow ranges bytes
  number : bytes.foldl more bits = c.toNat

theorem toNat_tail (n : Nat) : (UInt8.ofNat (n % 64 + 0x80)).toNat = n % 64 + 0x80 := by
  rw [UInt8.toNat_ofNat']
  omega

theorem tail_has (n : Nat) : tail.Has (UInt8.ofNat (n % 64 + 0x80)) := by
  simp only [Range.Has, tail, toNat_tail]
  omega

@[simp] theorem more_tail (bits n : Nat) : more bits (UInt8.ofNat (n % 64 + 0x80)) = bits * 64 + n % 64 := by
  simp only [more, toNat_tail]
  omega

theorem tail_range_has {range : Range} {n : Nat} (above : range.least ≤ n % 64 + 0x80)
    (below : n % 64 + 0x80 ≤ range.greatest) : range.Has (UInt8.ofNat (n % 64 + 0x80)) := by
  simp only [Range.Has, toNat_tail]
  exact ⟨above, below⟩

theorem spelled_three {c : Char} {v : Nat} (number : c.toNat = v) (valid : v.isValidChar) (long : 0x800 ≤ v)
    (short : v < 0x10000) :
    ∃ bits ranges, Spells c (UInt8.ofNat (v / 4096 % 0x10 + 0xE0))
      [UInt8.ofNat (v / 64 % 64 + 0x80), UInt8.ofNat (v % 64 + 0x80)] bits ranges := by
  have byte : (UInt8.ofNat (v / 4096 % 0x10 + 0xE0)).toNat = v / 4096 + 0xE0 := by
    rw [UInt8.toNat_ofNat']
    omega
  have spells (range : Range) (starts : first (v / 4096 + 0xE0) = some (v / 4096, [range, tail]))
      (has : range.Has (UInt8.ofNat (v / 64 % 64 + 0x80))) : ∃ bits ranges, Spells c
        (UInt8.ofNat (v / 4096 % 0x10 + 0xE0)) [UInt8.ofNat (v / 64 % 64 + 0x80), UInt8.ofNat (v % 64 + 0x80)]
        bits ranges := by
    refine ⟨v / 4096, [range, tail], by rw [byte, starts], .cons has (.cons (tail_has v) .nil), ?_⟩
    simp only [List.foldl_cons, List.foldl_nil, more_tail]
    omega
  unfold Nat.isValidChar at valid
  by_cases zero : v / 4096 = 0
  · refine spells tailE0 (by rw [zero]; rfl) (tail_range_has ?_ ?_) <;> simp only [tailE0] <;> omega
  by_cases surrogates : v / 4096 = 13
  · refine spells tailED (by rw [surrogates]; rfl) (tail_range_has ?_ ?_) <;> simp only [tailED] <;> omega
  · refine spells tail ?_ (tail_has _)
    rw [first, if_neg (by omega), if_neg (by omega), if_neg (by omega), if_neg (by omega), if_neg (by omega),
      if_pos (by omega), Nat.add_sub_cancel]

theorem spelled_four {c : Char} {v : Nat} (number : c.toNat = v) (valid : v.isValidChar) (long : 0x10000 ≤ v) :
    ∃ bits ranges, Spells c (UInt8.ofNat (v / 262144 % 8 + 0xF0))
      [UInt8.ofNat (v / 4096 % 64 + 0x80), UInt8.ofNat (v / 64 % 64 + 0x80), UInt8.ofNat (v % 64 + 0x80)] bits
      ranges := by
  unfold Nat.isValidChar at valid
  have byte : (UInt8.ofNat (v / 262144 % 8 + 0xF0)).toNat = v / 262144 + 0xF0 := by
    rw [UInt8.toNat_ofNat']
    omega
  have spells (range : Range)
      (starts : first (v / 262144 + 0xF0) = some (v / 262144, [range, tail, tail]))
      (has : range.Has (UInt8.ofNat (v / 4096 % 64 + 0x80))) : ∃ bits ranges, Spells c
        (UInt8.ofNat (v / 262144 % 8 + 0xF0))
        [UInt8.ofNat (v / 4096 % 64 + 0x80), UInt8.ofNat (v / 64 % 64 + 0x80), UInt8.ofNat (v % 64 + 0x80)] bits
        ranges := by
    have follow : Follow [range, tail, tail] _ := .cons has (.cons (tail_has (v / 64)) (.cons (tail_has v) .nil))
    refine ⟨v / 262144, [range, tail, tail], by rw [byte, starts], follow, ?_⟩
    simp only [List.foldl_cons, List.foldl_nil, more_tail]
    omega
  by_cases zero : v / 262144 = 0
  · refine spells tailF0 (by rw [zero]; rfl) (tail_range_has ?_ ?_) <;> simp only [tailF0] <;> omega
  by_cases last : v / 262144 = 4
  · refine spells tailF4 (by rw [last]; rfl) (tail_range_has ?_ ?_) <;> simp only [tailF4] <;> omega
  · refine spells tail ?_ (tail_has _)
    rw [first, if_neg (by omega), if_neg (by omega), if_neg (by omega), if_neg (by omega), if_neg (by omega),
      if_neg (by omega), if_neg (by omega), if_pos (by omega), Nat.add_sub_cancel]

theorem spelled (c : Char) :
    ∃ byte bytes bits ranges, String.utf8EncodeChar c = byte :: bytes ∧ Spells c byte bytes bits ranges := by
  have valid : c.val.toNat.isValidChar := c.valid
  have number : c.toNat = c.val.toNat := rfl
  unfold String.utf8EncodeChar
  generalize c.val.toNat = v at valid number
  dsimp only
  split_ifs with one two three
  · have byte : (UInt8.ofNat v).toNat = v := by
      rw [UInt8.toNat_ofNat']
      omega
    exact ⟨_, _, v, [], rfl, by rw [byte, first, if_pos (by omega)], .nil, number.symm⟩
  · have byte : (UInt8.ofNat (v / 64 % 0x20 + 0xC0)).toNat = v / 64 + 0xC0 := by
      rw [UInt8.toNat_ofNat']
      omega
    refine ⟨_, _, v / 64, [tail], rfl, ?_, .cons (tail_has v) .nil, ?_⟩
    · rw [byte, first, if_neg (by omega), if_neg (by omega), if_pos (by omega), Nat.add_sub_cancel]
    · simp only [List.foldl_cons, List.foldl_nil, more_tail]
      omega
  · obtain ⟨bits, ranges, spells⟩ := spelled_three number valid (by omega) (by omega)
    exact ⟨_, _, bits, ranges, rfl, spells⟩
  · obtain ⟨bits, ranges, spells⟩ := spelled_four number valid (by omega)
    exact ⟨_, _, bits, ranges, rfl, spells⟩

theorem decode_encoded (c : Char) (rest : Bytes) : decode (String.utf8EncodeChar c ++ rest) = c :: decode rest := by
  obtain ⟨byte, bytes, bits, ranges, encoded, spells⟩ := spelled c
  have stepped : State.between.step byte = after bits ranges := by simp [State.step, start, spells.starts]
  rw [encoded, List.cons_append, decode, State.decode, stepped, decode_after spells.follow, spells.number,
    Char.ofNat_toNat]

theorem utf8_eq (text : String) : utf8 text = text.toList.flatMap String.utf8EncodeChar := by
  have encoded : text.toUTF8 = text.toList.utf8Encode := String.utf8Encode_toList.symm
  rw [utf8, encoded, List.utf8Encode, List.data_toByteArray]

theorem decode_utf8_append (text : String) (rest : Bytes) :
    decode (utf8 text ++ rest) = text.toList ++ decode rest := by
  rw [utf8_eq]
  generalize text.toList = chars
  induction chars with
  | nil => rfl
  | cons c chars ih => rw [List.flatMap_cons, List.append_assoc, decode_encoded, ih, List.cons_append]

/-- Text comes back from its bytes. -/
theorem decode_utf8 (text : String) : decode (utf8 text) = text.toList := by
  have none : decode [] = [] := rfl
  rw [← List.append_nil (utf8 text), decode_utf8_append, none, List.append_nil]

/-! ### Bytes come back from their text -/

/-- However the bytes in the ranges go on behind some bytes, they spell the
    character with these bits. -/
def Whole (seen : Bytes) (bits : Nat) : List Range → Prop
  | [] => String.utf8EncodeChar (Char.ofNat bits) = seen
  | next :: later => ∀ byte, next.Has byte → Whole (seen ++ [byte]) (more bits byte) later

/-- The bytes of the character that is under way. -/
def State.Seen (seen : Bytes) : State → Prop
  | between => seen = []
  | within next later bits => seen ≠ [] ∧ Whole seen bits (next :: later)

theorem toNat_ofNat {n : Nat} (valid : n.isValidChar) : (Char.ofNat n).val.toNat = n := by
  rw [Char.ofNat, dif_pos valid]
  rfl

theorem encoded_ofNat {n : Nat} (valid : n.isValidChar) :
    String.utf8EncodeChar (Char.ofNat n) =
      if n ≤ 0x7F then [UInt8.ofNat n]
      else if n ≤ 0x7FF then [UInt8.ofNat (n / 64 % 0x20 + 0xC0), UInt8.ofNat (n % 0x40 + 0x80)]
      else if n ≤ 0xFFFF then
        [UInt8.ofNat (n / 4096 % 0x10 + 0xE0), UInt8.ofNat (n / 64 % 0x40 + 0x80), UInt8.ofNat (n % 0x40 + 0x80)]
      else
        [UInt8.ofNat (n / 262144 % 8 + 0xF0), UInt8.ofNat (n / 4096 % 0x40 + 0x80), UInt8.ofNat (n / 64 % 0x40 + 0x80),
          UInt8.ofNat (n % 0x40 + 0x80)] := by
  rw [String.utf8EncodeChar, toNat_ofNat valid]

theorem ofNat_eq (byte : UInt8) {n : Nat} (same : n = byte.toNat) : UInt8.ofNat n = byte := by
  rw [same, UInt8.ofNat_toNat]

theorem whole_one {byte : UInt8} (ascii : byte.toNat < 0x80) : Whole [byte] byte.toNat [] := by
  have valid : byte.toNat.isValidChar := by
    unfold Nat.isValidChar
    omega
  rw [Whole, encoded_ofNat valid, if_pos (by omega), ofNat_eq byte rfl]

theorem whole_two {byte : UInt8} (least : 0xC2 ≤ byte.toNat) (greatest : byte.toNat < 0xE0) :
    Whole [byte] (byte.toNat - 0xC0) [tail] := by
  intro second has
  simp only [Range.Has, tail] at has
  unfold Whole
  generalize value : more (byte.toNat - 0xC0) second = v
  unfold more at value
  have valid : v.isValidChar := by
    unfold Nat.isValidChar
    omega
  rw [encoded_ofNat valid, if_neg (by omega), if_pos (by omega), ofNat_eq byte (by omega), ofNat_eq second (by omega)]
  rfl

/-- The second byte is in the range that belongs to the first one. -/
theorem whole_three {byte : UInt8} {range : Range} (least : 0xE0 ≤ byte.toNat) (greatest : byte.toNat < 0xF0)
    (kept : ∀ second, range.Has second → second.toNat ≤ 0xBF ∧ (byte.toNat = 0xE0 → 0xA0 ≤ second.toNat) ∧
      (byte.toNat = 0xED → second.toNat < 0xA0)) : Whole [byte] (byte.toNat - 0xE0) [range, tail] := by
  intro second has third last
  have high := range.high
  have within := has.1
  obtain ⟨low, long, noSurrogate⟩ := kept second has
  simp only [Range.Has, tail] at last
  unfold Whole
  generalize value : more (more (byte.toNat - 0xE0) second) third = v
  unfold more at value
  have valid : v.isValidChar := by
    unfold Nat.isValidChar
    omega
  rw [encoded_ofNat valid, if_neg (by omega), if_neg (by omega), if_pos (by omega), ofNat_eq byte (by omega),
    ofNat_eq second (by omega), ofNat_eq third (by omega)]
  rfl

theorem whole_four {byte : UInt8} {range : Range} (least : 0xF0 ≤ byte.toNat) (greatest : byte.toNat < 0xF5)
    (kept : ∀ second, range.Has second → second.toNat ≤ 0xBF ∧ (byte.toNat = 0xF0 → 0x90 ≤ second.toNat) ∧
      (byte.toNat = 0xF4 → second.toNat < 0x90)) : Whole [byte] (byte.toNat - 0xF0) [range, tail, tail] := by
  intro second has third middle fourth last
  have high := range.high
  have within := has.1
  obtain ⟨low, long, inside⟩ := kept second has
  simp only [Range.Has, tail] at middle last
  unfold Whole
  generalize value : more (more (more (byte.toNat - 0xF0) second) third) fourth = v
  unfold more at value
  have valid : v.isValidChar := by
    unfold Nat.isValidChar
    omega
  rw [encoded_ofNat valid, if_neg (by omega), if_neg (by omega), if_neg (by omega), ofNat_eq byte (by omega),
    ofNat_eq second (by omega), ofNat_eq third (by omega), ofNat_eq fourth (by omega)]
  rfl

theorem whole_first {byte : UInt8} {bits : Nat} {ranges : List Range}
    (starts : first byte.toNat = some (bits, ranges)) : Whole [byte] bits ranges := by
  unfold first at starts
  split_ifs at starts with one early two e0 ed three f0 four f4
  all_goals
    obtain ⟨rfl, rfl⟩ := Prod.mk.inj (Option.some.inj starts)
  · exact whole_one one
  · exact whole_two (by omega) two
  · have whole : Whole [byte] (byte.toNat - 0xE0) [tailE0, tail] :=
      whole_three (by omega) (by omega) fun second has => by simp only [Range.Has, tailE0] at has; omega
    simpa [e0] using whole
  · have whole : Whole [byte] (byte.toNat - 0xE0) [tailED, tail] :=
      whole_three (by omega) (by omega) fun second has => by simp only [Range.Has, tailED] at has; omega
    simpa [ed] using whole
  · exact whole_three (by omega) three fun second has => by simp only [Range.Has, tail] at has; omega
  · have whole : Whole [byte] (byte.toNat - 0xF0) [tailF0, tail, tail] :=
      whole_four (by omega) (by omega) fun second has => by simp only [Range.Has, tailF0] at has; omega
    simpa [f0] using whole
  · exact whole_four (by omega) (by omega) fun second has => by simp only [Range.Has, tail] at has; omega
  · have whole : Whole [byte] (byte.toNat - 0xF0) [tailF4, tail, tail] :=
      whole_four (by omega) (by omega) fun second has => by simp only [Range.Has, tailF4] at has; omega
    simpa [f4] using whole

/-- What a byte makes of the bytes seen so far: the next state has seen some of them,
    and where nothing is replaced the characters are spelled by the others. -/
structure Reads (seen : Bytes) (byte : UInt8) (result : State × List Char) (now : Bytes) : Prop where
  sees : result.1.Seen now
  spelled : replacement ∉ result.2 → result.2.flatMap String.utf8EncodeChar ++ now = seen ++ [byte]
  zero : Char.ofNat 0 ∈ result.2 → byte = 0

theorem after_reads {seen : Bytes} {byte : UInt8} {bits : Nat} {ranges : List Range}
    (whole : Whole (seen ++ [byte]) bits ranges) : ∃ now, Reads seen byte (after bits ranges) now := by
  cases ranges with
  | nil =>
    refine ⟨[], rfl, fun _ => by simpa [after, Whole] using whole, fun zero => ?_⟩
    have same := List.mem_singleton.mp zero
    have spells : [0] = seen ++ [byte] := by rw [← whole, ← same]; rfl
    have last := congrArg List.getLast? spells
    simpa using last.symm
  | cons next later =>
    exact ⟨seen ++ [byte], ⟨by simp, whole⟩, fun _ => by simp [after], fun zero => by simp [after] at zero⟩

theorem start_reads (byte : UInt8) : ∃ now, Reads [] byte (start byte) now := by
  unfold start
  cases starts : first byte.toNat with
  | none => exact ⟨[], rfl, fun kept => by simp at kept, fun zero => absurd zero (by decide)⟩
  | some sequence => exact after_reads (whole_first starts)

theorem step_reads {state : State} {seen : Bytes} (sees : state.Seen seen) (byte : UInt8) :
    ∃ now, Reads seen byte (state.step byte) now := by
  cases state with
  | between =>
    obtain rfl : seen = [] := sees
    exact start_reads byte
  | within next later bits =>
    obtain ⟨some, whole⟩ := sees
    by_cases inside : next.Has byte
    · rw [State.step, if_pos inside]
      exact after_reads (whole byte inside)
    · rw [State.step, if_neg inside]
      obtain ⟨now, reads⟩ := start_reads byte
      refine ⟨now, reads.sees, fun kept => absurd List.mem_cons_self kept, fun zero => ?_⟩
      rcases List.mem_cons.mp zero with wrong | zero
      · exact absurd wrong (by decide)
      · exact reads.zero zero

/-- Where nothing is replaced, the text is spelled by the bytes. -/
theorem decode_spelled {state : State} {seen : Bytes} (sees : state.Seen seen) {bytes : Bytes}
    (kept : replacement ∉ state.decode bytes) :
    (state.decode bytes).flatMap String.utf8EncodeChar = seen ++ bytes := by
  induction bytes generalizing state seen with
  | nil =>
    cases state with
    | between =>
      obtain rfl : seen = [] := sees
      rfl
    | within next later bits => exact absurd (List.mem_singleton_self _) kept
  | cons byte bytes ih =>
    rw [State.decode, List.mem_append, not_or] at kept
    obtain ⟨now, reads⟩ := step_reads sees byte
    rw [State.decode, List.flatMap_append, ih reads.sees kept.2, ← List.append_assoc, reads.spelled kept.1,
      List.append_assoc, List.singleton_append]

/-- Only a zero is decoded to the character zero. -/
theorem zero_mem_decode {state : State} {seen : Bytes} (sees : state.Seen seen) {bytes : Bytes}
    (zero : Char.ofNat 0 ∈ state.decode bytes) : 0 ∈ bytes := by
  induction bytes generalizing state seen with
  | nil =>
    cases state with
    | between => cases zero
    | within next later bits => exact absurd (List.mem_singleton.mp zero) (by decide)
  | cons byte bytes ih =>
    obtain ⟨now, reads⟩ := step_reads sees byte
    rw [State.decode, List.mem_append] at zero
    rcases zero with here | later
    · rw [reads.zero here]
      exact List.mem_cons_self
    · exact List.mem_cons_of_mem _ (ih reads.sees later)

/-- Bytes come back from their text unless something was replaced. -/
theorem utf8_decode {bytes : Bytes} (kept : replacement ∉ decode bytes) :
    utf8 (String.ofList (decode bytes)) = bytes := by
  have between : State.between.Seen [] := rfl
  rw [utf8_eq, String.toList_ofList]
  exact decode_spelled between kept

/-! ### Lengths -/

theorem length_after (bits : Nat) (ranges : List Range) :
    (after bits ranges).2.length + (after bits ranges).1.broken.length = 1 := by
  cases ranges <;> rfl

theorem length_start (byte : UInt8) : (start byte).2.length + (start byte).1.broken.length = 1 := by
  unfold start
  cases first byte.toNat with
  | none => rfl
  | some sequence => exact length_after _ _

theorem length_step (state : State) (byte : UInt8) :
    (state.step byte).2.length + (state.step byte).1.broken.length ≤ state.broken.length + 1 := by
  cases state with
  | between => exact (length_start byte).le
  | within next later bits =>
    by_cases inside : next.Has byte
    · rw [State.step, if_pos inside, length_after]
      omega
    · have started := length_start byte
      have broken : (State.within next later bits).broken.length = 1 := rfl
      simp only [State.step, if_neg inside, List.length_cons, broken]
      omega

/-- No byte becomes two characters. -/
theorem length_decode_le (state : State) (bytes : Bytes) :
    (state.decode bytes).length ≤ state.broken.length + bytes.length := by
  induction bytes generalizing state with
  | nil => exact le_rfl
  | cons byte bytes ih =>
    have here := length_step state byte
    have later := ih (state.step byte).1
    simp only [State.decode, List.length_append, List.length_cons]
    omega

end Utf8
