import SwitchboardOnDemand.Bytes

/-!
# Hashing

A hasher is fed byte strings and digests what it was fed, one after the other.
The digest is a parameter: equal digests come from equal strings or are a
collision.
-/

namespace Rust

/-- A hasher with the bytes that it was fed. -/
structure Hasher where
  fed : Bytes
  deriving Repr, DecidableEq

namespace Hasher

def new : Hasher := ⟨[]⟩

def update (hasher : Hasher) (data : Bytes) : Hasher := ⟨hasher.fed ++ data⟩

def finalize {δ : Type} (digest : Bytes → δ) (hasher : Hasher) : δ := digest hasher.fed

@[simp] theorem fed_new : new.fed = [] := rfl
@[simp] theorem fed_update (hasher : Hasher) (data : Bytes) : (hasher.update data).fed = hasher.fed ++ data := rfl

end Hasher

/-- Two different strings with one digest. -/
def Collision {δ : Type} (digest : Bytes → δ) (x y : Bytes) : Prop := x ≠ y ∧ digest x = digest y

theorem digest_eq_iff {δ : Type} (digest : Bytes → δ) (x y : Bytes) :
    digest x = digest y ↔ x = y ∨ Collision digest x y := by
  constructor
  · intro same
    by_cases equal : x = y
    · exact .inl equal
    · exact .inr ⟨equal, same⟩
  · rintro (rfl | collision)
    · rfl
    · exact collision.2

end Rust
