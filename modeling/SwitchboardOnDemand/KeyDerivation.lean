import SwitchboardOnDemand.Error
import SwitchboardOnDemand.Outcome
import SwitchboardOnDemand.Utils

/-!
# Keys from a base seed

A key pair is derived from the digest of a text, a secret of 32 bytes, more bytes
and a program id, one after the other. The program id stands at the end and is
bound; so are the others as long as the text has one length. A longer text may
take over the first bytes of the secret (`seed_eq_iff`).
-/

namespace SwitchboardOnDemand.KeyDerivation
open Rust SwitchboardOnDemand.Error SwitchboardOnDemand.Utils

/-- The parts of the SDK and of the environment that the derivation uses. -/
structure KeyApi where
  sha256 : Bytes → FixedBytes 32
  Keypair : Type
  /-- The key pair of a seed, or the message of an error. -/
  keypair_from_seed : Bytes → Except String Keypair
  /-- The program id of the network that the environment names. -/
  get_switchboard_on_demand_program_id : Pubkey

/-- The bytes that are digested. -/
def base_seed (api : KeyApi) (base : String) (secret_key : Bytes) (more_bytes : Option Bytes)
    (program_id : Option Pubkey) : Bytes :=
  let seed := utf8 base
  let seed := seed ++ secret_key
  let seed :=
    match more_bytes with
    | some bytes => seed ++ bytes
    | none => seed
  match program_id with
  | some program_id => seed ++ program_id.val
  | none => seed ++ api.get_switchboard_on_demand_program_id.val

def keypair_from_base_seed (api : KeyApi) (base : String) (secret_key : Bytes) (more_bytes : Option Bytes)
    (program_id : Option Pubkey) : Exec OnDemandError api.Keypair := do
  Exec.bailIf (secret_key.length ≠ 32) .InvalidSecretKey
  match api.keypair_from_seed (api.sha256 (base_seed api base secret_key more_bytes program_id)).val with
  | .ok keypair => pure keypair
  | .error _ => .err .KeyDerivationFailed

/-! ### Calls -/

/-- A call with a secret of 32 bytes and a program id. -/
structure SeedCall where
  base : String
  secret_key : FixedBytes 32
  more_bytes : Option Bytes
  program_id : Pubkey
  deriving Repr, DecidableEq

/-- The bytes that the call digests. -/
def SeedCall.seed (api : KeyApi) (call : SeedCall) : Bytes :=
  base_seed api call.base call.secret_key.val call.more_bytes (some call.program_id)

def SeedCall.keypair (api : KeyApi) (call : SeedCall) : Exec OnDemandError api.Keypair :=
  keypair_from_base_seed api call.base call.secret_key.val call.more_bytes (some call.program_id)

/-- The bytes that are given in addition, none when they are absent. -/
def SeedCall.more (call : SeedCall) : Bytes := call.more_bytes.getD []

/-- The same base, secret and additional bytes. -/
structure SameArguments (a b : SeedCall) : Prop where
  base : a.base = b.base
  secret_key : a.secret_key = b.secret_key
  more : a.more = b.more

/-- The second base is the first one with a text behind it, which the first
    secret and the bytes after it start with; the rest of them are the second
    ones. -/
def Continues (a b : SeedCall) : Prop :=
  ∃ text, text ≠ "" ∧ b.base = a.base ++ text ∧
    a.secret_key.val ++ a.more = utf8 text ++ (b.secret_key.val ++ b.more)

/-! ### Where the bytes of two calls are the same -/

variable {api : KeyApi} {a b : SeedCall}

theorem seed_eq (api : KeyApi) (call : SeedCall) :
    call.seed api = utf8 call.base ++ (call.secret_key.val ++ call.more) ++ call.program_id.val := by
  obtain ⟨base, secret_key, more_bytes, program_id⟩ := call
  cases more_bytes with
  | none => simp [SeedCall.seed, SeedCall.more, base_seed]
  | some bytes => simp [SeedCall.seed, SeedCall.more, base_seed]

/-- The program id is bound: it is the last 32 bytes. -/
theorem seed_eq_seed_iff : a.seed api = b.seed api ↔ a.program_id = b.program_id ∧
    utf8 a.base ++ (a.secret_key.val ++ a.more) = utf8 b.base ++ (b.secret_key.val ++ b.more) := by
  rw [seed_eq, seed_eq]
  constructor
  · intro same
    obtain ⟨front, ids⟩ := List.append_inj' same (a.program_id.property.trans b.program_id.property.symm)
    exact ⟨Subtype.ext ids, front⟩
  · rintro ⟨ids, front⟩
    rw [ids, front]

/-- With equal bases the secrets and the bytes after them are equal, too. -/
theorem sameArguments_iff : SameArguments a b ↔
    a.base = b.base ∧ a.secret_key.val ++ a.more = b.secret_key.val ++ b.more := by
  constructor
  · intro same
    rw [same.base, same.secret_key, same.more]
    exact ⟨rfl, rfl⟩
  · rintro ⟨base, rest⟩
    obtain ⟨secret, more⟩ := List.append_inj rest (a.secret_key.property.trans b.secret_key.property.symm)
    exact ⟨base, Subtype.ext secret, more⟩

theorem front_of_continues (continues : Continues a b) :
    utf8 a.base ++ (a.secret_key.val ++ a.more) = utf8 b.base ++ (b.secret_key.val ++ b.more) := by
  obtain ⟨text, _, base, rest⟩ := continues
  rw [base, utf8_append, rest, List.append_assoc]

/-- A longer base takes over the first bytes of the secret. -/
theorem sameArguments_or_continues {taken : Bytes} (base : utf8 b.base = utf8 a.base ++ taken)
    (rest : a.secret_key.val ++ a.more = taken ++ (b.secret_key.val ++ b.more)) :
    SameArguments a b ∨ Continues a b := by
  obtain ⟨text, continued, bytes⟩ := utf8_prefix base.symm
  by_cases empty : text = ""
  · refine .inl (sameArguments_iff.mpr ⟨?_, ?_⟩)
    · rw [continued, empty, String.append_empty]
    · rw [rest, bytes, empty]
      rfl
  · exact .inr ⟨text, empty, continued, bytes ▸ rest⟩

theorem front_eq_iff : utf8 a.base ++ (a.secret_key.val ++ a.more) = utf8 b.base ++ (b.secret_key.val ++ b.more) ↔
    SameArguments a b ∨ Continues a b ∨ Continues b a := by
  constructor
  · intro same
    rcases List.append_eq_append_iff.mp same with ⟨taken, base, rest⟩ | ⟨taken, base, rest⟩
    · exact (sameArguments_or_continues base rest).imp_right .inl
    · rcases sameArguments_or_continues base rest with equal | continues
      · exact .inl ⟨equal.base.symm, equal.secret_key.symm, equal.more.symm⟩
      · exact .inr (.inr continues)
  · rintro (same | continues | continues)
    · rw [same.base, same.secret_key, same.more]
    · exact front_of_continues continues
    · exact (front_of_continues continues).symm

/-- Bases of one length do not continue each other. -/
theorem not_continues_of_length (length : (utf8 a.base).length = (utf8 b.base).length) : ¬ Continues a b := by
  rintro ⟨text, some, base, _⟩
  rw [base, utf8_append, List.length_append] at length
  have none : utf8 text = [] := List.eq_nil_of_length_eq_zero (by omega)
  exact some (utf8_injective (none.trans rfl))

/-- Two calls digest the same bytes exactly when they have one program id and
    either the same other arguments or bases of which one continues the other
    into its secret. With bases of one length only the first is left. -/
theorem seed_eq_iff (api : KeyApi) (a b : SeedCall) :
    (a.seed api = b.seed api ↔
      a.program_id = b.program_id ∧ (SameArguments a b ∨ Continues a b ∨ Continues b a)) ∧
    (a.seed api = b.seed api ∧ (utf8 a.base).length = (utf8 b.base).length ↔
      a.program_id = b.program_id ∧ SameArguments a b) := by
  have all : a.seed api = b.seed api ↔
      a.program_id = b.program_id ∧ (SameArguments a b ∨ Continues a b ∨ Continues b a) := by
    rw [seed_eq_seed_iff, front_eq_iff]
  refine ⟨all, ?_⟩
  rw [all]
  constructor
  · rintro ⟨⟨ids, same | continues | continues⟩, length⟩
    · exact ⟨ids, same⟩
    · exact absurd continues (not_continues_of_length length)
    · exact absurd continues (not_continues_of_length length.symm)
  · rintro ⟨ids, same⟩
    exact ⟨⟨ids, .inl same⟩, by rw [same.base]⟩

/-- The digested bytes decide the key pair. -/
theorem keypair_congr (same : a.seed api = b.seed api) : a.keypair api = b.keypair api := by
  unfold SeedCall.seed at same
  rw [SeedCall.keypair, SeedCall.keypair, keypair_from_base_seed, keypair_from_base_seed, same,
    a.secret_key.property, b.secret_key.property]

/-- A secret of 32 letters "a", with one more letter behind it. -/
def shortBase : SeedCall where
  base := "oracle"
  secret_key := repeated 97 32
  more_bytes := some [97]
  program_id := repeated 7 32

/-- The letter at the end of the base. -/
def longBase : SeedCall := { shortBase with base := "oraclea", more_bytes := none }

theorem shortBase_continues : Continues shortBase longBase :=
  ⟨"a", by decide, rfl, rfl⟩

/-- The two calls digest the same bytes and have one key pair. -/
theorem shortBase_collides : shortBase.base ≠ longBase.base ∧ shortBase.more ≠ longBase.more ∧
    ∀ api : KeyApi, shortBase.seed api = longBase.seed api ∧ shortBase.keypair api = longBase.keypair api := by
  refine ⟨by decide, by decide, fun api => ?_⟩
  have same : shortBase.seed api = longBase.seed api :=
    seed_eq_seed_iff.mpr ⟨rfl, front_of_continues shortBase_continues⟩
  exact ⟨same, keypair_congr same⟩

end SwitchboardOnDemand.KeyDerivation
