import SwitchboardOnDemand.Signing

/-!
# A payer that is given late

`to_legacy_tx_with_payer` and `to_v0_tx_with_payer` take the payer's signer with
the call. They come to the same result as adding that signer first, for signers
that sign alike when their keys are equal (`late_payer`): the signers handed on
have the required keys in both cases.
-/

namespace SwitchboardOnDemand.LatePayer
open Rust SwitchboardOnDemand.Error SwitchboardOnDemand.Utils SwitchboardOnDemand.Transactions
open SwitchboardOnDemand.Signing

variable {sdk : SolanaSdk}

/-- Signers with equal keys sign equally. -/
structure SignEqually (sdk : SolanaSdk) : Prop where
  legacy : ∀ tx (a b : List sdk.Signer) hash, a.map sdk.pubkey = b.map sdk.pubkey →
    sdk.try_sign tx a hash = sdk.try_sign tx b hash
  v0 : ∀ message (a b : List sdk.Signer), a.map sdk.pubkey = b.map sdk.pubkey →
    sdk.try_new message a = sdk.try_new message b

/-- The signers have the required keys in their order, each once. -/
def HandsOnRequired (self : TransactionBuilder sdk) (outcome : Exec OnDemandError (List sdk.Signer)) : Prop :=
  ∀ given, outcome = .ok given →
    given.map sdk.pubkey = required_signers self ∧ (given.map sdk.pubkey).Nodup

/-! ### Adding a signer -/

variable (self : TransactionBuilder sdk) (payer : sdk.Signer)

/-- Only the stored signers change. -/
theorem add_signer_eq : add_signer self payer = { self with signers := (add_signer self payer).signers } := by
  unfold add_signer
  split <;> rfl

theorem hasSigner_add_signer (key : Pubkey) :
    HasSigner (add_signer self payer) key ↔ key = sdk.pubkey payer ∨ HasSigner self key := by
  have stored := find_signer_isSome_iff self.signers (sdk.pubkey payer)
  unfold add_signer
  split
  · simp only [HasSigner, List.map_append, List.map_singleton, List.mem_append, List.mem_singleton, or_comm]
  · rename_i signer found
    rw [found] at stored
    constructor
    · exact .inr
    · rintro (rfl | member)
      · exact stored.mp rfl
      · exact member

theorem required_signers_add_signer : required_signers (add_signer self payer) = required_signers self := by
  rw [add_signer_eq]
  rfl

theorem ixs_add_signer : ixs (add_signer self payer) = ixs self := by
  rw [add_signer_eq]
  rfl

/-! ### The signers handed on -/

theorem handsOnRequired_of_keys {outcome : Exec OnDemandError (List sdk.Signer)} {holds : Prop} [Decidable holds]
    {error : OnDemandError} (keys : List.map sdk.pubkey <$> outcome =
      if holds then .ok (required_signers self) else .err error) : HandsOnRequired self outcome := by
  intro given run
  rw [run, Exec.map_ok] at keys
  split at keys
  · have same := Exec.ok.inj keys
    exact ⟨same, same ▸ nodup_required_signers self⟩
  · cases keys

theorem signers_handsOnRequired : HandsOnRequired self (signers self) :=
  handsOnRequired_of_keys self (signers_keys self)

theorem signers_with_payer_handsOnRequired : HandsOnRequired self (signers_with_payer self payer) := by
  by_cases isPayer : sdk.pubkey payer = self.payer
  · exact handsOnRequired_of_keys self (signers_with_payer_keys self isPayer)
  · intro given run
    rw [signers_with_payer, Exec.bailIf_true _ isPayer, Exec.err_bind] at run
    cases run

/-- The payer given late and the payer added first are handed on under the same
    keys. -/
theorem signers_same_keys (isPayer : sdk.pubkey payer = self.payer) :
    List.map sdk.pubkey <$> signers_with_payer self payer =
      List.map sdk.pubkey <$> signers (add_signer self payer) := by
  rw [signers_with_payer_keys self isPayer, signers_keys, required_signers_add_signer]
  simp only [hasSigner_add_signer, isPayer]

/-! ### The transactions -/

theorem build_legacy_tx_congr (equally : SignEqually sdk) (ixs : List Instruction) (hash : sdk.Hash)
    {a b : List sdk.Signer} (same : a.map sdk.pubkey = b.map sdk.pubkey) :
    build_legacy_tx self.payer ixs a hash = build_legacy_tx self.payer ixs b hash := by
  unfold build_legacy_tx
  simp only [equally.legacy _ a b hash same]

theorem build_v0_tx_congr (equally : SignEqually sdk) (ixs : List Instruction)
    (tables : List sdk.AddressLookupTableAccount) (hash : sdk.Hash) {a b : List sdk.Signer}
    (same : a.map sdk.pubkey = b.map sdk.pubkey) :
    build_v0_tx self.payer ixs a tables hash = build_v0_tx self.payer ixs b tables hash := by
  unfold build_v0_tx
  simp only [equally.v0 _ a b same]

theorem has_payer_add_signer {payer : sdk.Signer} (isPayer : sdk.pubkey payer = self.payer) :
    has_payer (add_signer self payer) = true := by
  have same : (add_signer self payer).payer = self.payer := by rw [add_signer_eq]
  rw [has_payer, same, has_signer_iff, hasSigner_add_signer]
  exact .inl isPayer.symm

theorem to_legacy_tx_late (equally : SignEqually sdk) {payer : sdk.Signer} (isPayer : sdk.pubkey payer = self.payer) :
    to_legacy_tx_with_payer self payer = to_legacy_tx (add_signer self payer) := by
  have same : (add_signer self payer).payer = self.payer ∧ blockhash (add_signer self payer) = blockhash self := by
    rw [add_signer_eq]
    exact ⟨rfl, rfl⟩
  rw [to_legacy_tx_with_payer, to_legacy_tx, Exec.bailIf_false _ (not_not.mpr isPayer),
    Exec.bailIf_false _ (not_not.mpr (has_payer_add_signer self isPayer)), ixs_add_signer, same.1, same.2]
  refine bind_congr fun _ => bind_congr fun ixs => ?_
  exact Exec.bind_congr_map (signers_same_keys self payer isPayer) fun a b keys =>
    build_legacy_tx_congr self equally ixs (blockhash self) keys

theorem to_v0_tx_late (equally : SignEqually sdk) {payer : sdk.Signer} (isPayer : sdk.pubkey payer = self.payer) :
    to_v0_tx_with_payer self payer = to_v0_tx (add_signer self payer) := by
  have same : (add_signer self payer).payer = self.payer ∧ blockhash (add_signer self payer) = blockhash self ∧
      (add_signer self payer).address_lookup_tables = self.address_lookup_tables := by
    rw [add_signer_eq]
    exact ⟨rfl, rfl, rfl⟩
  rw [to_v0_tx_with_payer, to_v0_tx, Exec.bailIf_false _ (not_not.mpr isPayer), Exec.ok_bind, ixs_add_signer, same.1,
    same.2.1, same.2.2]
  refine bind_congr fun ixs => ?_
  exact Exec.bind_congr_map (signers_same_keys self payer isPayer) fun a b keys =>
    build_v0_tx_congr self equally ixs self.address_lookup_tables (blockhash self) keys

/-- However the builder is built, giving the payer with the call comes to the same
    as adding it first, and what is handed to the signing step are the required
    keys, each once. -/
theorem late_payer (start : Constructor sdk) (calls : List (Method sdk)) (payer : sdk.Signer)
    (isPayer : sdk.pubkey payer = (built start calls).payer) (equally : SignEqually sdk) :
    to_legacy_tx_with_payer (built start calls) payer = to_legacy_tx (add_signer (built start calls) payer) ∧
    to_v0_tx_with_payer (built start calls) payer = to_v0_tx (add_signer (built start calls) payer) ∧
    HandsOnRequired (built start calls) (signers (built start calls)) ∧
    HandsOnRequired (built start calls) (signers_with_payer (built start calls) payer) :=
  ⟨to_legacy_tx_late _ equally isPayer, to_v0_tx_late _ equally isPayer, signers_handsOnRequired _,
    signers_with_payer_handsOnRequired _ payer⟩

/-- Where no two signers have one key, signers with the same keys are the same. -/
theorem signEqually_of_injective (injective : Function.Injective sdk.pubkey) : SignEqually sdk where
  legacy tx a b hash same := by rw [injective.list_map same]
  v0 message a b same := by rw [injective.list_map same]

theorem late_payer_marked :
    ∃ tx, to_legacy_tx_with_payer (built (.new payerKey) marksPayer) payerKey = .ok tx ∧
      to_legacy_tx (add_signer (built (.new payerKey) marksPayer) payerKey) = .ok tx := by
  obtain ⟨legacy, _⟩ := late_payer (.new payerKey) marksPayer payerKey rfl
    (signEqually_of_injective Function.injective_id)
  rw [legacy]
  exact ⟨_, rfl, rfl⟩

end SwitchboardOnDemand.LatePayer
