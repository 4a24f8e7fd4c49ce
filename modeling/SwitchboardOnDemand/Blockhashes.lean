import SwitchboardOnDemand.LatePayer

/-!
# A blockhash that is given with the call

`to_legacy_tx_with_payer_and_blockhash` signs the blockhash of the call, and the
stored one only without it. `to_legacy_tx_with_blockhash` takes the stored one
first. They agree as long as there is one blockhash to choose, or nothing is
signed (`blockhashesAgree_iff`).
-/

namespace SwitchboardOnDemand.Blockhashes
open Rust SwitchboardOnDemand.Error SwitchboardOnDemand.Utils SwitchboardOnDemand.Transactions
open SwitchboardOnDemand.Signing SwitchboardOnDemand.LatePayer

variable {sdk : SolanaSdk}

/-- A signed transaction holds the blockhash that it was signed with. -/
def SignsBlockhash (sdk : SolanaSdk) (signed_blockhash : sdk.Transaction → sdk.Hash) : Prop :=
  ∀ tx (signers : List sdk.Signer) hash signed, sdk.try_sign tx signers hash = .ok signed →
    signed_blockhash signed = hash

/-- The payer given with the call and the payer added first come to the same
    result, and sign the blockhash of the call. -/
structure BlockhashesAgree (signed_blockhash : sdk.Transaction → sdk.Hash) (builder : TransactionBuilder sdk)
    (payer : sdk.Signer) (recent_blockhash : Option sdk.Hash) : Prop where
  same : to_legacy_tx_with_payer_and_blockhash builder payer recent_blockhash =
    to_legacy_tx_with_blockhash (add_signer builder payer) recent_blockhash
  late : ∀ hash tx, recent_blockhash = some hash →
    to_legacy_tx_with_payer_and_blockhash builder payer recent_blockhash = .ok tx → signed_blockhash tx = hash
  added : ∀ hash tx, recent_blockhash = some hash →
    to_legacy_tx_with_blockhash (add_signer builder payer) recent_blockhash = .ok tx → signed_blockhash tx = hash

/-- No blockhash is stored, none is given, or they are the same. -/
def OneBlockhash (self : TransactionBuilder sdk) (recent_blockhash : Option sdk.Hash) : Prop :=
  ∀ stored given, self.recent_blockhash = some stored → recent_blockhash = some given → stored = given

/-- The instructions mark the payer, there are at most ten of them, all other
    marked accounts have a stored signer, and the message can be compiled. -/
structure Signable (builder : TransactionBuilder sdk) : Prop where
  payer : Marked builder.ixs builder.payer
  few : (pre_ixs builder ++ builder.ixs).length ≤ 10
  others : ∀ key, Marked builder.ixs key → key = builder.payer ∨ HasSigner builder key
  compiles : ∃ tx, sdk.new_with_payer (pre_ixs builder ++ builder.ixs) builder.payer = .ok tx

/-! ### One call with two blockhashes -/

/-- What both calls come to, for the blockhash that they choose. -/
def signed_with (self : TransactionBuilder sdk) (payer : sdk.Signer) (hash : sdk.Hash) :
    Exec OnDemandError sdk.Transaction := do
  let ixs ← ixs self
  let signers ← signers_with_payer self payer
  build_legacy_tx self.payer ixs signers hash

variable (self : TransactionBuilder sdk) {payer : sdk.Signer} (recent_blockhash : Option sdk.Hash)

theorem late_eq (isPayer : sdk.pubkey payer = self.payer) :
    to_legacy_tx_with_payer_and_blockhash self payer recent_blockhash =
      signed_with self payer (recent_blockhash.getD (blockhash self)) := by
  rw [to_legacy_tx_with_payer_and_blockhash, Exec.bailIf_false _ (not_not.mpr isPayer), Exec.ok_bind]
  rfl

theorem added_eq (equally : SignEqually sdk) (isPayer : sdk.pubkey payer = self.payer) :
    to_legacy_tx_with_blockhash (add_signer self payer) recent_blockhash =
      signed_with self payer (self.recent_blockhash.getD (recent_blockhash.getD sdk.default_hash)) := by
  have same : (add_signer self payer).payer = self.payer ∧
      (add_signer self payer).recent_blockhash = self.recent_blockhash := by
    rw [add_signer_eq]
    exact ⟨rfl, rfl⟩
  rw [to_legacy_tx_with_blockhash, signed_with, ixs_add_signer, same.1, same.2]
  refine bind_congr fun ixs => ?_
  exact (Exec.bind_congr_map (signers_same_keys self payer isPayer) fun a b keys =>
    build_legacy_tx_congr self equally ixs _ keys).symm

/-- The two calls choose one blockhash exactly when there is only one. -/
theorem chosen_eq_iff : recent_blockhash.getD (blockhash self) =
    self.recent_blockhash.getD (recent_blockhash.getD sdk.default_hash) ↔ OneBlockhash self recent_blockhash := by
  unfold OneBlockhash blockhash
  cases stored : self.recent_blockhash with
  | none => simp
  | some old =>
    cases recent_blockhash with
    | none => simp
    | some new => simp [eq_comm]

/-! ### When a transaction is signed -/

variable {self}

/-- The signers that are handed on with the payer, or the error. -/
theorem signers_with_payer_cases (isPayer : sdk.pubkey payer = self.payer) :
    ((∀ key, Marked self.ixs key → key = self.payer ∨ HasSigner self key) ∧
      ∃ given, signers_with_payer self payer = .ok given ∧ given.map sdk.pubkey = required_signers self) ∨
    (∃ key, Marked self.ixs key ∧ ¬ (key = self.payer ∨ HasSigner self key)) ∧
      ∃ error, signers_with_payer self payer = .err error := by
  have keys := signers_with_payer_keys self isPayer
  by_cases others : ∀ key ∈ required_signers self, key = self.payer ∨ HasSigner self key
  · rw [if_pos others] at keys
    obtain ⟨given, run, same⟩ := Exec.map_eq_ok.mp keys
    refine .inl ⟨fun key marked => others key ?_, given, run, same⟩
    exact (mem_required_signers self key).mpr marked
  · rw [if_neg others] at keys
    obtain ⟨key, rest⟩ := not_forall.mp others
    obtain ⟨required, missing⟩ := Classical.not_imp.mp rest
    exact .inr ⟨⟨key, (mem_required_signers self key).mp required, missing⟩, _, Exec.map_eq_err.mp keys⟩

section
variable {signed_blockhash : sdk.Transaction → sdk.Hash} (hashes : SignsBlockhash sdk signed_blockhash)
include hashes

/-- A compiled message is signed with the blockhash, or signing it fails. -/
theorem build_legacy_tx_cases {payer : Pubkey} {ixs : List Instruction} {unsigned : sdk.Transaction}
    (compiled : sdk.new_with_payer ixs payer = .ok unsigned) (given : List sdk.Signer) (hash : sdk.Hash) :
    (∃ tx, build_legacy_tx payer ixs given hash = .ok tx ∧ signed_blockhash tx = hash) ∨
      build_legacy_tx payer ixs given hash = .err .SolanaSignError := by
  rw [build_legacy_tx, compiled, orPanic, Exec.ok_bind]
  cases signing : sdk.try_sign unsigned given hash with
  | ok signed => exact .inl ⟨signed, rfl, hashes _ _ _ _ signing⟩
  | error message => exact .inr rfl

/-- With the required signers it is signed for every blockhash or for none. -/
theorem build_legacy_tx_every_or_none (exact : SignsExactly sdk) (budget : BudgetWithoutAccounts sdk)
    {unsigned : sdk.Transaction} (compiled : sdk.new_with_payer (pre_ixs self ++ self.ixs) self.payer = .ok unsigned)
    {given : List sdk.Signer} (keys : given.map sdk.pubkey = required_signers self) :
    let built := build_legacy_tx self.payer (pre_ixs self ++ self.ixs) given
    Marked self.ixs self.payer ∧ (∀ hash, ∃ tx, built hash = .ok tx ∧ signed_blockhash tx = hash) ∨
      ¬ Marked self.ixs self.payer ∧ ∀ hash, built hash = .err .SolanaSignError := by
  have signs := build_legacy_tx_iff exact budget ⟨unsigned, compiled⟩ keys
  by_cases marked : Marked self.ixs self.payer
  · refine .inl ⟨marked, ?_⟩
    intro hash
    rcases build_legacy_tx_cases hashes compiled given hash with signed | refused
    · exact signed
    · obtain ⟨tx, done⟩ := (signs hash).mpr marked
      rw [refused] at done
      cases done
  · refine .inr ⟨marked, ?_⟩
    intro hash
    rcases build_legacy_tx_cases hashes compiled given hash with ⟨tx, done, _⟩ | refused
    · exact absurd ((signs hash).mp ⟨tx, done⟩) marked
    · exact refused

/-- A transaction for every blockhash, or one failure for all of them. -/
theorem signed_with_cases (exact : SignsExactly sdk) (budget : BudgetWithoutAccounts sdk)
    (isPayer : sdk.pubkey payer = self.payer) :
    (Signable self ∧ ∀ hash, ∃ tx, signed_with self payer hash = .ok tx ∧ signed_blockhash tx = hash) ∨
    (¬ Signable self ∧ ∃ failure, (∀ tx, failure ≠ .ok tx) ∧ ∀ hash, signed_with self payer hash = failure) := by
  rcases ixs_cases self with ⟨some, few, instructions⟩ | ⟨rejected, error, failed⟩
  · rcases signers_with_payer_cases isPayer with ⟨others, given, run, keys⟩ | ⟨⟨key, marked, missing⟩, error, failed⟩
    · have handedOn : ∀ hash, signed_with self payer hash =
          build_legacy_tx self.payer (pre_ixs self ++ self.ixs) given hash := by
        intro hash
        rw [signed_with, instructions, Exec.ok_bind, run, Exec.ok_bind]
      simp only [handedOn]
      cases compiled : sdk.new_with_payer (pre_ixs self ++ self.ixs) self.payer with
      | error message =>
        refine .inr ⟨?_, .panic message, by rintro tx ⟨⟩, ?_⟩
        · intro signable
          obtain ⟨tx, done⟩ := signable.compiles
          rw [compiled] at done
          cases done
        · intro hash
          rw [build_legacy_tx, compiled, orPanic, Exec.panic_bind]
      | ok unsigned =>
        rcases build_legacy_tx_every_or_none hashes exact budget compiled keys with
          ⟨marked, signed⟩ | ⟨unmarked, refused⟩
        · exact .inl ⟨⟨marked, few, others, unsigned, compiled⟩, signed⟩
        · exact .inr ⟨fun signable => unmarked signable.payer, .err .SolanaSignError, by rintro tx ⟨⟩, refused⟩
    · refine .inr ⟨fun signable => missing (signable.others key marked), .err error, by rintro tx ⟨⟩, ?_⟩
      intro hash
      rw [signed_with, instructions, Exec.ok_bind, failed, Exec.err_bind]
  · refine .inr ⟨?_, .err error, by rintro tx ⟨⟩, ?_⟩
    · intro signable
      rcases rejected with empty | many
      · obtain ⟨ix, member, _⟩ := signable.payer
        rw [empty] at member
        cases member
      · exact absurd signable.few (Nat.not_le.mpr many)
    · intro hash
      rw [signed_with, failed, Exec.err_bind]

end

/-! ### When the two calls agree -/

/-- The two calls agree exactly when there is one blockhash to choose or no
    transaction can be signed. -/
theorem blockhashesAgree_iff (signed_blockhash : sdk.Transaction → sdk.Hash) (builder : TransactionBuilder sdk)
    (payer : sdk.Signer) (recent_blockhash : Option sdk.Hash) (isPayer : sdk.pubkey payer = builder.payer)
    (exact : SignsExactly sdk) (equally : SignEqually sdk) (budget : BudgetWithoutAccounts sdk)
    (hashes : SignsBlockhash sdk signed_blockhash) :
    BlockhashesAgree signed_blockhash builder payer recent_blockhash ↔
      OneBlockhash builder recent_blockhash ∨ ¬ Signable builder := by
  have late := late_eq builder recent_blockhash isPayer
  have added := added_eq builder recent_blockhash equally isPayer
  rcases signed_with_cases hashes exact budget isPayer with ⟨signable, signs⟩ | ⟨unsignable, failure, fails, all⟩
  · rw [or_iff_left (not_not.mpr signable), ← chosen_eq_iff]
    obtain ⟨lateTx, lateDone, lateHash⟩ := signs (recent_blockhash.getD (blockhash builder))
    rw [← late] at lateDone
    constructor
    · intro agree
      obtain ⟨addedTx, addedDone, addedHash⟩ :=
        signs (builder.recent_blockhash.getD (recent_blockhash.getD sdk.default_hash))
      rw [← added, ← agree.same, lateDone] at addedDone
      rw [← lateHash, ← addedHash, Exec.ok.inj addedDone]
    · intro one
      have same : to_legacy_tx_with_payer_and_blockhash builder payer recent_blockhash =
          to_legacy_tx_with_blockhash (add_signer builder payer) recent_blockhash := by
        rw [late, added, one]
      have given : ∀ hash tx, recent_blockhash = some hash →
          to_legacy_tx_with_payer_and_blockhash builder payer recent_blockhash = .ok tx →
            signed_blockhash tx = hash := by
        rintro hash tx rfl done
        rw [lateDone] at done
        rw [← Exec.ok.inj done, lateHash]
        rfl
      exact ⟨same, given, fun hash tx some done => given hash tx some (same.trans done)⟩
  · refine iff_of_true ⟨?_, ?_, ?_⟩ (.inr unsignable)
    · rw [late, added, all, all]
    · intro hash tx _ done
      rw [late, all] at done
      exact absurd done (fails tx)
    · intro hash tx _ done
      rw [added, all] at done
      exact absurd done (fails tx)

/-! ### Keys with blockhashes -/

/-- The SDK of keys, with a blockhash in every transaction. -/
abbrev blockhashSdk : SolanaSdk where
  Signer := Pubkey
  pubkey key := key
  Hash := FixedBytes 32
  default_hash := repeated 0 32
  AddressLookupTableAccount := Unit
  set_compute_unit_limit := keySdk.set_compute_unit_limit
  set_compute_unit_price := keySdk.set_compute_unit_price
  Transaction := KeyTransaction × FixedBytes 32
  new_with_payer ixs payer := .ok (⟨payer, ixs, []⟩, repeated 0 32)
  try_sign tx signers hash := (signWith tx.1 signers).map fun signed => (signed, hash)
  Message := KeyTransaction
  try_compile payer ixs _ _ := .ok ⟨payer, ixs, []⟩
  VersionedTransaction := KeyTransaction
  try_new message signers := signWith message signers

theorem map_ok_iff {ε α β : Type} {f : α → β} {outcome : Except ε α} :
    (∃ image, outcome.map f = .ok image) ↔ ∃ value, outcome = .ok value := by
  cases outcome with
  | ok value => exact iff_of_true ⟨_, rfl⟩ ⟨_, rfl⟩
  | error error => simp [Except.map]

theorem signsExactly_blockhashSdk : SignsExactly blockhashSdk where
  legacy payer ixs tx signers hash compiled _ := by
    cases compiled
    rw [map_ok_iff]
    exact signWith_compiled rfl signers
  v0 _ _ _ _ _ signers compiled _ := signWith_compiled compiled signers

theorem signsBlockhash_blockhashSdk : SignsBlockhash blockhashSdk Prod.snd := by
  intro tx signers hash signed done
  simp only [Except.map] at done
  split at done
  · cases done
  · cases done
    rfl

def oldBlockhash : FixedBytes 32 := repeated 1 32

def newBlockhash : FixedBytes 32 := repeated 2 32

/-- A builder with a stored blockhash and an instruction that marks the payer. -/
def storedBuilder : TransactionBuilder blockhashSdk :=
  built (.new payerKey) [.add_ix (withAccounts [⟨payerKey, true, true⟩]), .set_recent_blockhash oldBlockhash]

theorem blockhashesAgree_iff_stored : BlockhashesAgree Prod.snd storedBuilder payerKey none := by
  have agree := blockhashesAgree_iff Prod.snd storedBuilder payerKey none rfl signsExactly_blockhashSdk
    (signEqually_of_injective Function.injective_id) ⟨fun _ => rfl, fun _ => rfl⟩ signsBlockhash_blockhashSdk
  refine agree.mpr (.inl ?_)
  intro stored given _ none
  cases none

/-- A blockhash that is given to `to_legacy_tx_with_blockhash` is not signed when
    another one is stored. -/
theorem storedBuilder_disagrees :
    (∃ tx, to_legacy_tx_with_payer_and_blockhash storedBuilder payerKey (some newBlockhash) = .ok (tx, newBlockhash)) ∧
      (∃ tx, to_legacy_tx_with_blockhash (add_signer storedBuilder payerKey) (some newBlockhash) =
        .ok (tx, oldBlockhash)) ∧
      ¬ BlockhashesAgree Prod.snd storedBuilder payerKey (some newBlockhash) := by
  have added : to_legacy_tx_with_blockhash (add_signer storedBuilder payerKey) (some newBlockhash) =
      .ok (⟨payerKey, storedBuilder.ixs, [payerKey]⟩, oldBlockhash) := by rfl
  refine ⟨⟨⟨payerKey, storedBuilder.ixs, [payerKey]⟩, by rfl⟩, ⟨_, added⟩, ?_⟩
  intro agree
  have signed := agree.added _ _ rfl added
  exact absurd signed (by decide)

end SwitchboardOnDemand.Blockhashes
