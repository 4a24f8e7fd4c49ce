import SwitchboardOnDemand.Error
import SwitchboardOnDemand.Bytes

/-!
Reading a zero-copy account: an 8-byte discriminator and the bytes of the record
behind it. `new_from_bytes` of queues and of oracles is this reading at their
discriminators and sizes.
-/

namespace SwitchboardOnDemand.AccountData
open Rust SwitchboardOnDemand.Error

variable {α : Type}

/-- The checks of `new_from_bytes` in their order, around a cast of the bytes. -/
def new_from_bytes (discriminator : Bytes) (size : Nat) (try_from_bytes : Bytes → Except String α) (data : Bytes) :
    Except OnDemandError α :=
  if data.length < discriminator.length then .error .InvalidDiscriminator
  else
    let disc_bytes := window data 0 8
    if disc_bytes ≠ discriminator then .error .InvalidDiscriminator
    else
      let expected_size := size + 8
      if data.length < expected_size then .error .InvalidData
      else
        let slice_to_parse := window data 8 (expected_size - 8)
        if slice_to_parse.length ≠ size then .error .InvalidData
        else
          match try_from_bytes slice_to_parse with
          | .ok account => .ok account
          | .error _ => .error .AccountDeserializeError

/-- An account is read from at least as many bytes as it has, behind its
    discriminator. -/
theorem new_from_bytes_ok_iff {discriminator : Bytes} (eight : discriminator.length = 8) (size : Nat)
    (try_from_bytes : Bytes → Except String α) (data : Bytes) (account : α) :
    new_from_bytes discriminator size try_from_bytes data = .ok account ↔
      size + 8 ≤ data.length ∧ window data 0 8 = discriminator ∧
        try_from_bytes (window data 8 size) = .ok account := by
  by_cases long : size + 8 ≤ data.length
  · have notShort : ¬ data.length < discriminator.length := by omega
    have exact : (window data 8 size).length = size := length_window_of_le (by omega)
    simp only [new_from_bytes, notShort, Nat.not_lt.mpr long, Nat.add_sub_cancel, exact, if_false, long, true_and,
      ne_eq, not_true_eq_false]
    by_cases same : window data 0 8 = discriminator
    · cases cast : try_from_bytes (window data 8 size) with
      | ok read => simp [same]
      | error message => simp [same]
    · simp [same]
  · constructor
    · intro read
      simp only [new_from_bytes, Nat.not_le.mp long, if_true] at read
      split_ifs at read
    · rintro ⟨enough, _⟩
      exact absurd enough long

end SwitchboardOnDemand.AccountData
