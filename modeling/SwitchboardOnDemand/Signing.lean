import SwitchboardOnDemand.Transactions

/-!
# When a transaction can be signed

A message needs the signatures of its payer and of every marked account. The
builder hands on signers for the marked accounts only, so signing fails for a
payer that no instruction marks: as an error for a legacy transaction and as a
panic for a versioned one. With a marked payer, or where the builder gives up
before signing, both come out as they should (`signsWhenComplete_iff`).
-/

namespace SwitchboardOnDemand.Signing
open Rust SwitchboardOnDemand.Error SwitchboardOnDemand.Utils SwitchboardOnDemand.Transactions

variable {sdk : SolanaSdk}

/-! ### What is assumed of the SDK -/

/-- The keys whose signatures a message needs. -/
def Needed (payer : Pubkey) (ixs : List Instruction) (key : Pubkey) : Prop := key = payer ∨ Marked ixs key

/-- Signing with signers of different keys succeeds exactly when their keys are
    those that the message needs. -/
structure SignsExactly (sdk : SolanaSdk) : Prop where
  legacy : ∀ payer ixs tx (signers : List sdk.Signer) hash, sdk.new_with_payer ixs payer = .ok tx →
    (signers.map sdk.pubkey).Nodup →
      ((∃ signed, sdk.try_sign tx signers hash = .ok signed) ↔
        ∀ key, key ∈ signers.map sdk.pubkey ↔ Needed payer ixs key)
  v0 : ∀ payer ixs tables hash message (signers : List sdk.Signer),
    sdk.try_compile payer ixs tables hash = .ok message → (signers.map sdk.pubkey).Nodup →
      ((∃ signed, sdk.try_new message signers = .ok signed) ↔
        ∀ key, key ∈ signers.map sdk.pubkey ↔ Needed payer ixs key)

/-- The compute-budget instructions name no accounts. -/
structure BudgetWithoutAccounts (sdk : SolanaSdk) : Prop where
  limit : ∀ units, (sdk.set_compute_unit_limit units).accounts = []
  price : ∀ fees, (sdk.set_compute_unit_price fees).accounts = []

/-- The messages of a builder can be compiled. -/
structure Compiles (builder : TransactionBuilder sdk) : Prop where
  legacy : ∃ tx, sdk.new_with_payer (pre_ixs builder ++ builder.ixs) builder.payer = .ok tx
  v0 : ∃ message, sdk.try_compile builder.payer (pre_ixs builder ++ builder.ixs) builder.address_lookup_tables
    (blockhash builder) = .ok message

/-! ### When it should succeed -/

/-- There are one to ten instructions, with those for the budget, and a stored
    signer for the payer and for every marked account. -/
structure Complete (builder : TransactionBuilder sdk) : Prop where
  some : builder.ixs ≠ []
  few : (pre_ixs builder ++ builder.ixs).length ≤ 10
  payer : HasSigner builder builder.payer
  marked : ∀ key, Marked builder.ixs key → HasSigner builder key

/-- A transaction for a complete builder and an error for every other one. -/
structure OkWhenComplete {α : Type} (builder : TransactionBuilder sdk) (outcome : Exec OnDemandError α) : Prop where
  ok : Complete builder → ∃ tx, outcome = .ok tx
  err : ¬ Complete builder → ∃ error, outcome = .err error

/-- Both formats are signed exactly when all signers are there. -/
def SignsWhenComplete (self : TransactionBuilder sdk) : Prop :=
  OkWhenComplete self (to_legacy_tx self) ∧ OkWhenComplete self (to_v0_tx self)

/-- An instruction marks the payer, or the builder gives up before signing: it has
    no instructions or too many, or a marked account without a signer. -/
def PayerMarkedOrRejected (self : TransactionBuilder sdk) : Prop :=
  Marked self.ixs self.payer ∨ self.ixs = [] ∨ 10 < (pre_ixs self ++ self.ixs).length ∨
    ∃ key, Marked self.ixs key ∧ ¬ HasSigner self key

/-! ### The instructions and signers handed on -/

theorem marked_append (a b : List Instruction) (key : Pubkey) : Marked (a ++ b) key ↔ Marked a key ∨ Marked b key := by
  simp only [Marked, List.mem_append, or_and_right, exists_or]

theorem marked_with_budget (budget : BudgetWithoutAccounts sdk) (self : TransactionBuilder sdk) (key : Pubkey) :
    Marked (pre_ixs self ++ self.ixs) key ↔ Marked self.ixs key := by
  have none : ¬ Marked (pre_ixs self) key := by
    rintro ⟨ix, member, account, inside, _⟩
    rcases List.mem_append.mp member with limit | price
    · obtain ⟨units, _, rfl⟩ := List.mem_map.mp limit
      rw [budget.limit] at inside
      cases inside
    · obtain ⟨fees, _, rfl⟩ := List.mem_map.mp price
      rw [budget.price] at inside
      cases inside
  rw [marked_append, or_iff_right none]

/-- The required signers are those that the message needs exactly when the payer
    is one of them. -/
theorem required_needed_iff (budget : BudgetWithoutAccounts sdk) (self : TransactionBuilder sdk) :
    (∀ key, key ∈ required_signers self ↔ Needed self.payer (pre_ixs self ++ self.ixs) key) ↔
      Marked self.ixs self.payer := by
  simp only [mem_required_signers, Needed, marked_with_budget budget]
  constructor
  · intro same
    exact (same self.payer).mpr (.inl rfl)
  · intro marked key
    constructor
    · exact .inr
    · rintro (rfl | other)
      · exact marked
      · exact other

theorem ixs_cases (self : TransactionBuilder sdk) :
    (self.ixs ≠ [] ∧ (pre_ixs self ++ self.ixs).length ≤ 10 ∧ ixs self = .ok (pre_ixs self ++ self.ixs)) ∨
      (self.ixs = [] ∨ 10 < (pre_ixs self ++ self.ixs).length) ∧ ∃ error, ixs self = .err error := by
  by_cases empty : self.ixs = []
  · have zero : self.ixs.length = 0 := by rw [empty, List.length_nil]
    refine .inr ⟨.inl empty, .SolanaInstructionsEmpty, ?_⟩
    simp only [ixs, Exec.bailIf_true _ zero, Exec.err_bind]
  · have some : ¬ self.ixs.length = 0 := fun zero => empty (List.eq_nil_of_length_eq_zero zero)
    by_cases many : (pre_ixs self ++ self.ixs).length > 10
    · refine .inr ⟨.inr many, .SolanaInstructionOverflow, ?_⟩
      simp only [ixs, Exec.bailIf_false _ some, Exec.ok_bind, Exec.bailIf_true _ many, Exec.err_bind]
    · refine .inl ⟨empty, Nat.not_lt.mp many, ?_⟩
      simp only [ixs, Exec.bailIf_false _ some, Exec.ok_bind, Exec.bailIf_false _ many, Exec.pure_eq]

theorem signers_cases (self : TransactionBuilder sdk) :
    ((∀ key, Marked self.ixs key → HasSigner self key) ∧
      ∃ given, signers self = .ok given ∧ given.map sdk.pubkey = required_signers self) ∨
    (∃ key, Marked self.ixs key ∧ ¬ HasSigner self key) ∧ ∃ error, signers self = .err error := by
  have keys := signers_keys self
  by_cases stored : ∀ key ∈ required_signers self, HasSigner self key
  · rw [if_pos stored] at keys
    obtain ⟨given, run, same⟩ := Exec.map_eq_ok.mp keys
    refine .inl ⟨fun key marked => stored key ?_, given, run, same⟩
    exact (mem_required_signers self key).mpr marked
  · rw [if_neg stored] at keys
    push Not at stored
    obtain ⟨key, required, missing⟩ := stored
    exact .inr ⟨⟨key, (mem_required_signers self key).mp required, missing⟩, _, Exec.map_eq_err.mp keys⟩

/-- A builder without its instructions or without its signers gives an error. -/
theorem rejected_err {self : TransactionBuilder sdk}
    (rejected : (∃ error, ixs self = .err error) ∨ ∃ given error, ixs self = .ok given ∧ signers self = .err error) :
    (∃ error, to_legacy_tx self = .err error) ∧ ∃ error, to_v0_tx self = .err error := by
  constructor
  · by_cases payer : has_payer self = true
    · rw [to_legacy_tx, Exec.bailIf_false _ (not_not.mpr payer), Exec.ok_bind]
      rcases rejected with ⟨error, failed⟩ | ⟨given, error, run, failed⟩
      · exact ⟨error, by rw [failed, Exec.err_bind]⟩
      · exact ⟨error, by rw [run, Exec.ok_bind, failed, Exec.err_bind]⟩
    · rw [to_legacy_tx, Exec.bailIf_true _ payer]
      exact ⟨_, rfl⟩
  · rw [to_v0_tx]
    rcases rejected with ⟨error, failed⟩ | ⟨given, error, run, failed⟩
    · exact ⟨error, by rw [failed, Exec.err_bind]⟩
    · exact ⟨error, by rw [run, Exec.ok_bind, failed, Exec.err_bind]⟩

/-! ### Signing -/

variable {self : TransactionBuilder sdk} {given : List sdk.Signer}

/-- Signers with the required keys sign a legacy transaction exactly when the
    payer is marked. -/
theorem build_legacy_tx_iff (exact : SignsExactly sdk) (budget : BudgetWithoutAccounts sdk)
    (compiles : ∃ tx, sdk.new_with_payer (pre_ixs self ++ self.ixs) self.payer = .ok tx)
    (keys : given.map sdk.pubkey = required_signers self) (hash : sdk.Hash) :
    (∃ tx, build_legacy_tx self.payer (pre_ixs self ++ self.ixs) given hash = .ok tx) ↔
      Marked self.ixs self.payer := by
  obtain ⟨tx, compiled⟩ := compiles
  have signs := exact.legacy _ _ tx given hash compiled (by rw [keys]; exact nodup_required_signers self)
  rw [keys, required_needed_iff budget] at signs
  rw [← signs, build_legacy_tx, compiled, orPanic, Exec.ok_bind]
  cases sdk.try_sign tx given hash with
  | ok signed => simp
  | error message => simp

/-- With a marked payer they sign a versioned transaction, and else its signing
    panics. -/
theorem build_v0_tx_cases (exact : SignsExactly sdk) (budget : BudgetWithoutAccounts sdk) (compiles : Compiles self)
    (keys : given.map sdk.pubkey = required_signers self) :
    let built := build_v0_tx self.payer (pre_ixs self ++ self.ixs) given self.address_lookup_tables (blockhash self)
    Marked self.ixs self.payer ∧ (∃ tx, built = .ok tx) ∨
      ¬ Marked self.ixs self.payer ∧ ∃ message, built = .panic message := by
  obtain ⟨message, compiled⟩ := compiles.v0
  have signs := exact.v0 _ _ _ _ message given compiled (by rw [keys]; exact nodup_required_signers self)
  rw [keys, required_needed_iff budget] at signs
  rw [← signs, build_v0_tx, compiled, unwrap, Exec.ok_bind]
  cases sdk.try_new message given with
  | ok signed => simp [unwrap]
  | error message => simp [unwrap]

theorem to_legacy_tx_handedOn {instructions : List Instruction} (payer : HasSigner self self.payer)
    (handed : ixs self = .ok instructions) (run : signers self = .ok given) :
    to_legacy_tx self = build_legacy_tx self.payer instructions given (blockhash self) := by
  have present : ¬ ¬ has_payer self = true := not_not.mpr ((has_signer_iff self self.payer).mpr payer)
  rw [to_legacy_tx, Exec.bailIf_false _ present, Exec.ok_bind, handed, Exec.ok_bind, run, Exec.ok_bind]

theorem to_v0_tx_handedOn {instructions : List Instruction} (handed : ixs self = .ok instructions)
    (run : signers self = .ok given) :
    to_v0_tx self = build_v0_tx self.payer instructions given self.address_lookup_tables (blockhash self) := by
  rw [to_v0_tx, handed, Exec.ok_bind, run, Exec.ok_bind]

/-- A builder whose instructions and signers are handed on: both formats come out
    as they should exactly when the payer is marked. -/
theorem signsWhenComplete_handedOn_iff (exact : SignsExactly sdk) (budget : BudgetWithoutAccounts sdk)
    (compiles : Compiles self) (some : self.ixs ≠ []) (few : (pre_ixs self ++ self.ixs).length ≤ 10)
    (instructions : ixs self = .ok (pre_ixs self ++ self.ixs))
    (stored : ∀ key, Marked self.ixs key → HasSigner self key) (run : signers self = .ok given)
    (keys : given.map sdk.pubkey = required_signers self) : SignsWhenComplete self ↔ Marked self.ixs self.payer := by
  have v0 := to_v0_tx_handedOn instructions run
  rcases build_v0_tx_cases exact budget compiles keys with ⟨marked, versioned⟩ | ⟨unmarked, message, panics⟩
  · rw [← v0] at versioned
    refine ⟨fun _ => marked, fun _ => ?_⟩
    have payer := stored _ marked
    have complete : Complete self := ⟨some, few, payer, stored⟩
    have legacy := to_legacy_tx_handedOn payer instructions run
    have signed := (build_legacy_tx_iff exact budget compiles.legacy keys (blockhash self)).mpr marked
    rw [← legacy] at signed
    exact ⟨⟨fun _ => signed, fun incomplete => absurd complete incomplete⟩,
      ⟨fun _ => versioned, fun incomplete => absurd complete incomplete⟩⟩
  · rw [← v0] at panics
    constructor
    · rintro ⟨_, outcome⟩
      by_cases complete : Complete self
      · obtain ⟨tx, done⟩ := outcome.ok complete
        rw [panics] at done
        cases done
      · obtain ⟨error, failed⟩ := outcome.err complete
        rw [panics] at failed
        cases failed
    · intro marked
      exact absurd marked unmarked

theorem signsWhenComplete_of_rejected (incomplete : ¬ Complete self)
    (rejected : (∃ error, ixs self = .err error) ∨ ∃ given error, ixs self = .ok given ∧ signers self = .err error) :
    SignsWhenComplete self := by
  obtain ⟨legacy, versioned⟩ := rejected_err rejected
  exact ⟨⟨fun complete => absurd complete incomplete, fun _ => legacy⟩,
    ⟨fun complete => absurd complete incomplete, fun _ => versioned⟩⟩

theorem signsWhenComplete_iff_of (exact : SignsExactly sdk) (budget : BudgetWithoutAccounts sdk)
    (compiles : Compiles self) : SignsWhenComplete self ↔ PayerMarkedOrRejected self := by
  unfold PayerMarkedOrRejected
  rcases ixs_cases self with ⟨some, few, instructions⟩ | ⟨rejected, failed⟩
  · rcases signers_cases self with ⟨stored, given, run, keys⟩ | ⟨⟨key, marked, missing⟩, error, failed⟩
    · rw [signsWhenComplete_handedOn_iff exact budget compiles some few instructions stored run keys]
      have noneMissing : ¬ ∃ key, Marked self.ixs key ∧ ¬ HasSigner self key := by
        rintro ⟨key, marked, missing⟩
        exact missing (stored key marked)
      simp only [some, Nat.not_lt.mpr few, noneMissing, or_false]
    · have incomplete : ¬ Complete self := fun complete => missing (complete.marked key marked)
      have signs := signsWhenComplete_of_rejected incomplete (.inr ⟨_, error, instructions, failed⟩)
      exact ⟨fun _ => .inr (.inr (.inr ⟨key, marked, missing⟩)), fun _ => signs⟩
  · have incomplete : ¬ Complete self := by
      intro complete
      rcases rejected with empty | many
      · exact complete.some empty
      · exact absurd complete.few (Nat.not_le.mpr many)
    have signs := signsWhenComplete_of_rejected incomplete (.inl failed)
    refine ⟨fun _ => .inr ?_, fun _ => signs⟩
    rcases rejected with empty | many
    · exact .inl empty
    · exact .inr (.inl many)

/-- However the builder is built, its transactions are signed exactly when all
    signers are there, provided that and only when an instruction marks the payer
    or the builder gives up before signing. -/
theorem signsWhenComplete_iff (start : Constructor sdk) (calls : List (Method sdk)) (exact : SignsExactly sdk)
    (budget : BudgetWithoutAccounts sdk) (compiles : Compiles (built start calls)) :
    SignsWhenComplete (built start calls) ↔ PayerMarkedOrRejected (built start calls) :=
  signsWhenComplete_iff_of exact budget compiles

/-! ### When it does succeed -/

/-- Neither too few nor too many instructions, a stored signer for every marked
    account, and the payer among these. -/
structure Signable (builder : TransactionBuilder sdk) : Prop where
  some : builder.ixs ≠ []
  few : (pre_ixs builder ++ builder.ixs).length ≤ 10
  stored : ∀ key, Marked builder.ixs key → HasSigner builder key
  payer : Marked builder.ixs builder.payer

/-- What comes before the signing succeeds. -/
theorem handedOn_of_signable (signable : Signable self) :
    ixs self = .ok (pre_ixs self ++ self.ixs) ∧
      ∃ given, signers self = .ok given ∧ given.map sdk.pubkey = required_signers self := by
  rcases ixs_cases self with ⟨_, _, instructions⟩ | ⟨empty | many, _⟩
  · rcases signers_cases self with ⟨_, handed⟩ | ⟨⟨key, marked, missing⟩, _⟩
    · exact ⟨instructions, handed⟩
    · exact absurd (signable.stored key marked) missing
  · exact absurd empty signable.some
  · exact absurd signable.few (Nat.not_le.mpr many)

/-- What comes before the signing succeeded. -/
theorem handedOn_of_signed (signed : (∃ tx, to_legacy_tx self = .ok tx) ∨ ∃ tx, to_v0_tx self = .ok tx) :
    (self.ixs ≠ [] ∧ (pre_ixs self ++ self.ixs).length ≤ 10 ∧ ixs self = .ok (pre_ixs self ++ self.ixs)) ∧
      (∀ key, Marked self.ixs key → HasSigner self key) ∧
      ∃ given, signers self = .ok given ∧ given.map sdk.pubkey = required_signers self := by
  have notRejected : ¬ ((∃ error, ixs self = .err error) ∨
      ∃ given error, ixs self = .ok given ∧ signers self = .err error) := by
    intro rejected
    obtain ⟨⟨legacy, failed⟩, other, failedOther⟩ := rejected_err rejected
    rcases signed with ⟨tx, done⟩ | ⟨tx, done⟩
    · rw [failed] at done
      cases done
    · rw [failedOther] at done
      cases done
  rcases ixs_cases self with instructions | ⟨_, failed⟩
  · rcases signers_cases self with handed | ⟨_, error, failed⟩
    · exact ⟨instructions, handed.1, handed.2⟩
    · exact absurd (.inr ⟨_, error, instructions.2.2, failed⟩) notRejected
  · exact absurd (.inl failed) notRejected

/-- The legacy transaction is signed exactly when the builder is signable. -/
theorem legacy_signed_iff (exact : SignsExactly sdk) (budget : BudgetWithoutAccounts sdk)
    (compiles : ∃ tx, sdk.new_with_payer (pre_ixs self ++ self.ixs) self.payer = .ok tx) :
    (∃ tx, to_legacy_tx self = .ok tx) ↔ Signable self := by
  constructor
  · intro signed
    obtain ⟨⟨some, few, instructions⟩, stored, given, run, keys⟩ := handedOn_of_signed (.inl signed)
    refine ⟨some, few, stored, ?_⟩
    rw [← build_legacy_tx_iff exact budget compiles keys (blockhash self)]
    obtain ⟨tx, done⟩ := signed
    obtain ⟨_, _, done⟩ := Exec.bind_eq_ok.mp done
    rw [instructions, Exec.ok_bind, run, Exec.ok_bind] at done
    exact ⟨tx, done⟩
  · intro signable
    obtain ⟨instructions, given, run, keys⟩ := handedOn_of_signable signable
    rw [to_legacy_tx_handedOn (signable.stored _ signable.payer) instructions run]
    exact (build_legacy_tx_iff exact budget compiles keys _).mpr signable.payer

/-- A transaction of either format is signed exactly when the builder is
    signable. -/
theorem signed_iff (exact : SignsExactly sdk) (budget : BudgetWithoutAccounts sdk) (compiles : Compiles self) :
    ((∃ tx, to_legacy_tx self = .ok tx) ↔ Signable self) ∧ ((∃ tx, to_v0_tx self = .ok tx) ↔ Signable self) := by
  refine ⟨legacy_signed_iff exact budget compiles.legacy, ?_, ?_⟩
  · intro signed
    obtain ⟨⟨some, few, instructions⟩, stored, given, run, keys⟩ := handedOn_of_signed (.inr signed)
    rcases build_v0_tx_cases exact budget compiles keys with ⟨marked, _⟩ | ⟨_, message, panics⟩
    · exact ⟨some, few, stored, marked⟩
    · obtain ⟨tx, done⟩ := signed
      rw [to_v0_tx, instructions, Exec.ok_bind, run, Exec.ok_bind, panics] at done
      cases done
  · intro signable
    obtain ⟨instructions, given, run, keys⟩ := handedOn_of_signable signable
    rw [to_v0_tx_handedOn instructions run]
    rcases build_v0_tx_cases exact budget compiles keys with ⟨_, signed⟩ | ⟨unmarked, _⟩
    · exact signed
    · exact absurd signable.payer unmarked

/-! ### An SDK of keys -/

/-- A message with its payer and instructions, and the keys that signed it. -/
structure KeyTransaction where
  payer : Pubkey
  ixs : List Instruction
  signed_by : List Pubkey
  deriving Repr, DecidableEq

/-- The payer and the marked keys, each once. -/
def neededKeys (payer : Pubkey) (ixs : List Instruction) : List Pubkey :=
  ixs.foldl (fun signers_required ixn => ixn.accounts.foldl add_required signers_required) [payer]

/-- Signs with exactly the needed keys. -/
def signWith (tx : KeyTransaction) (signers : List Pubkey) : Except String KeyTransaction :=
  if ! signers.all (fun key => (neededKeys tx.payer tx.ixs).contains key) then .error "KeypairPubkeyMismatch"
  else if ! (neededKeys tx.payer tx.ixs).all (fun key => signers.contains key) then .error "NotEnoughSigners"
  else .ok { tx with signed_by := neededKeys tx.payer tx.ixs }

/-- ComputeBudget111111111111111111111111111111 -/
def COMPUTE_BUDGET_ID : Pubkey :=
  ⟨[3, 6, 70, 111, 229, 33, 23, 50, 255, 236, 173, 186, 114, 195, 155, 231, 188, 140, 229, 187, 197, 247, 18, 107, 44,
    67, 155, 58, 64, 0, 0, 0], by decide⟩

/-- The SDK with keys for signers and without hashes and lookup tables. -/
abbrev keySdk : SolanaSdk where
  Signer := Pubkey
  pubkey key := key
  Hash := Unit
  default_hash := ()
  AddressLookupTableAccount := Unit
  set_compute_unit_limit units := ⟨COMPUTE_BUDGET_ID, [], 2 :: leBytes 4 units.toNat⟩
  set_compute_unit_price fees := ⟨COMPUTE_BUDGET_ID, [], 3 :: leBytes 8 fees.toNat⟩
  Transaction := KeyTransaction
  new_with_payer ixs payer := .ok ⟨payer, ixs, []⟩
  try_sign tx signers _ := signWith tx signers
  Message := KeyTransaction
  try_compile payer ixs _ _ := .ok ⟨payer, ixs, []⟩
  VersionedTransaction := KeyTransaction
  try_new message signers := signWith message signers

theorem mem_neededKeys (payer : Pubkey) (ixs : List Instruction) (key : Pubkey) :
    key ∈ neededKeys payer ixs ↔ Needed payer ixs key := by
  rw [neededKeys, mem_instructions, List.mem_singleton, Needed]

/-- A list with a key outside of another one is not within it. -/
theorem differ_of_not_all {a b : List Pubkey} (foreign : (!a.all fun key => b.contains key) = true) :
    ¬ ∀ key, key ∈ a → key ∈ b := by
  intro within
  have all : (a.all fun key => b.contains key) = true :=
    List.all_eq_true.mpr fun key member => List.contains_iff_mem.mpr (within key member)
  rw [all] at foreign
  cases foreign

theorem signWith_ok_iff (tx : KeyTransaction) (signers : List Pubkey) :
    (∃ signed, signWith tx signers = .ok signed) ↔ ∀ key, key ∈ signers ↔ Needed tx.payer tx.ixs key := by
  simp only [← mem_neededKeys, signWith]
  split
  · rename_i foreign
    constructor
    · rintro ⟨signed, done⟩
      cases done
    · intro same
      exact absurd (fun key => (same key).mp) (differ_of_not_all foreign)
  · rename_i known
    split
    · rename_i lacking
      constructor
      · rintro ⟨signed, done⟩
        cases done
      · intro same
        exact absurd (fun key => (same key).mpr) (differ_of_not_all lacking)
    · rename_i complete
      simp only [Bool.not_eq_true', Bool.not_eq_false, List.all_eq_true, List.contains_iff_mem] at known complete
      exact ⟨fun _ key => ⟨known key, complete key⟩, fun _ => ⟨_, rfl⟩⟩

/-- A message that is compiled without further ado is signed by just its keys. -/
theorem signWith_compiled {payer : Pubkey} {ixs : List Instruction} {message : KeyTransaction}
    (compiled : (.ok ⟨payer, ixs, []⟩ : Except String KeyTransaction) = .ok message) (signers : List Pubkey) :
    (∃ signed, signWith message signers = .ok signed) ↔
      ∀ key, key ∈ signers.map (fun key => key) ↔ Needed payer ixs key := by
  cases compiled
  rw [List.map_id']
  exact signWith_ok_iff _ signers

theorem signsExactly_keySdk : SignsExactly keySdk where
  legacy _ _ _ signers _ compiled _ := signWith_compiled compiled signers
  v0 _ _ _ _ _ signers compiled _ := signWith_compiled compiled signers

theorem budgetWithoutAccounts_keySdk : BudgetWithoutAccounts keySdk := ⟨fun _ => rfl, fun _ => rfl⟩

theorem compiles_keySdk (builder : TransactionBuilder keySdk) : Compiles builder := ⟨⟨_, rfl⟩, ⟨_, rfl⟩⟩

def payerKey : Pubkey := ⟨List.replicate 32 7, List.length_replicate⟩

/-- An instruction of the compute-budget program with the given accounts. -/
def withAccounts (accounts : List AccountMeta) : Instruction := ⟨COMPUTE_BUDGET_ID, accounts, [0]⟩

/-- An instruction that marks the payer. -/
def marksPayer : List (Method keySdk) := [.add_ix (withAccounts [⟨payerKey, true, true⟩])]

theorem signsWhenComplete_iff_marked : SignsWhenComplete (built (.new_with_payer payerKey) marksPayer) := by
  have exactly := signsWhenComplete_iff (.new_with_payer payerKey) marksPayer signsExactly_keySdk
    budgetWithoutAccounts_keySdk (compiles_keySdk _)
  refine exactly.mpr (.inl ?_)
  exact ⟨_, List.mem_singleton_self _, _, List.mem_singleton_self _, rfl, rfl⟩

/-- A builder with its payer and an instruction without accounts. -/
def unmarkedPayer : TransactionBuilder keySdk := built (.new_with_payer payerKey) [.add_ix (withAccounts [])]

/-- It is complete; its legacy transaction is an error, and its versioned one
    panics. -/
theorem unmarkedPayer_not_signed :
    Complete unmarkedPayer ∧ to_legacy_tx unmarkedPayer = .err .SolanaSignError ∧
      to_v0_tx unmarkedPayer = .panic "called `Result::unwrap()` on an `Err` value: NotEnoughSigners" ∧
      ¬ SignsWhenComplete unmarkedPayer := by
  have complete : Complete unmarkedPayer := by
    refine ⟨List.cons_ne_nil _ _, by decide, List.mem_singleton_self _, ?_⟩
    rintro key ⟨ix, member, account, inside, _⟩
    rw [List.mem_singleton.mp member] at inside
    cases inside
  have versioned : to_v0_tx unmarkedPayer =
      .panic "called `Result::unwrap()` on an `Err` value: NotEnoughSigners" := by rfl
  refine ⟨complete, by rfl, versioned, ?_⟩
  rintro ⟨_, outcome⟩
  obtain ⟨tx, done⟩ := outcome.ok complete
  rw [versioned] at done
  cases done

end SwitchboardOnDemand.Signing
