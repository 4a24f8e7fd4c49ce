import SwitchboardOnDemand.Ed25519Sysvar

/-!
# Ranges that leave the data

`parse_instruction` compares no offset with the length of the data. It names
only bytes it was given exactly when the ranges fit, or when one of its
comparisons turns the data down first: that of the count and length anywhere, and
those of sizes and indexes at an even address (`names_given_bytes_iff`).
-/

namespace SwitchboardOnDemand.ParserBounds
open Rust SwitchboardOnDemand.Utils SwitchboardOnDemand.FeedInfo SwitchboardOnDemand.Ed25519Sysvar

variable {ε : Type}

/-- The length of the data in front of the oracle indexes, slot, version and
    discriminator. -/
def messagePart (data : Slice) : Nat := data.len - sigCount data - 13

/-- Accepted data names records, keys, signatures and messages inside its message
    part only, and data that names others gets an error. -/
def NamesGivenBytes (data : Slice) : Prop :=
  (∀ parsed, parse_instruction data = .ok parsed →
    RangesInside data.ptr.rest (sigCount data) (messagePart data)) ∧
  (¬ RangesInside data.ptr.rest (sigCount data) (messagePart data) →
    ∃ error, parse_instruction data = .err error)

/-- The parser names only bytes it was given exactly on data whose ranges fit
    and on data that its format checks reject. -/
theorem names_given_bytes_iff (data : SafeSlice) :
    NamesGivenBytes data.toSlice ↔
      RangesInside data.ptr.rest (sigCount data.toSlice) (messagePart data.toSlice) ∨ Rejected data.toSlice := by
  rw [← parse_instruction_err_iff]
  constructor
  · rintro ⟨_, outside⟩
    by_cases inside : RangesInside data.ptr.rest (sigCount data.toSlice) (messagePart data.toSlice)
    · exact .inl inside
    · exact .inr (outside inside)
  · rintro (inside | ⟨error, rejected⟩)
    · exact ⟨fun _ _ => inside, fun outside => absurd inside outside⟩
    · refine ⟨fun parsed accepted => ?_, fun _ => ⟨error, rejected⟩⟩
      rw [rejected] at accepted
      cases accepted

/-- One signature and no feeds; the record places the key at offset 60000 of 62
    bytes. -/
def farKey : Bytes :=
  [1, 0] ++ leBytes 2 0 ++ leBytes 2 0 ++ leBytes 2 60000 ++ leBytes 2 0 ++ leBytes 2 16 ++ leBytes 2 32 ++
    leBytes 2 0 ++ List.replicate 32 7 ++ [0] ++ leBytes 8 5 ++ [1] ++ [83, 66, 79, 68]

private theorem farKey_header : HeaderOk (Slice.of farKey) := by
  unfold HeaderOk; decide

private theorem farKey_record : recordAt farKey 0 = ⟨0, 0, 60000, 0, 16, 32, 0⟩ := by decide

/-- The parser accepts `farKey` and names 32 bytes that it was not given. -/
theorem farKey_names_missing_bytes : ¬ NamesGivenBytes (Slice.of farKey) := by
  have one : sigCount (Slice.of farKey) = 1 := by decide
  have accepted : Accepted (Slice.of farKey) := by
    refine ⟨evenAddress_of farKey, farKey_header, ?_, ⟨0, by decide, by rw [Slice.of_ptr_rest, farKey_record]⟩, ?_⟩
    · intro i counted
      have : i = 0 := by omega
      subst this
      decide
    · intro i later counted
      omega
  rintro ⟨named, _⟩
  have ranges := named _ ((parse_instruction_ok_iff (SafeSlice.of farKey) _).mpr ⟨accepted, rfl⟩)
  have far := (ranges.2 0 (by decide)).1
  rw [Slice.of_ptr_rest, farKey_record] at far
  revert far
  decide

end SwitchboardOnDemand.ParserBounds
