import SwitchboardOnDemand.Authenticity
import SwitchboardOnDemand.StoredPath
import SwitchboardOnDemand.Runs

/-!
# Custody of a quote account

A program keeps quotes in an account of its own: transaction after transaction
calls `write_from_ix`, and one that panics is rolled back. The account is then a
register that holds the data of the last transaction that stored
(`account_is_register`). Since the runtime runs a transaction only when the
Ed25519 program accepts its instructions, every quote that the verifier takes
from the account, however long after its transaction, is signed (`custody`).
-/

namespace SwitchboardOnDemand.Custody
open Rust Runs SwitchboardOnDemand.Utils SwitchboardOnDemand.Ed25519Sysvar SwitchboardOnDemand.IxSysvar
open SwitchboardOnDemand.SlothashSysvar SwitchboardOnDemand.Queue SwitchboardOnDemand.Quote
open SwitchboardOnDemand.QuoteStore SwitchboardOnDemand.Verifier SwitchboardOnDemand.Placement
open SwitchboardOnDemand.FeedInfo SwitchboardOnDemand.Encoding SwitchboardOnDemand.Authenticity SwitchboardOnDemand.StoredPath

/-- A transaction that stores one of its instructions in the account. -/
structure StoreTransaction where
  sysvar : InstructionsSysvar
  clock_slot : UInt64
  instruction_index : Nat

def StoreTransaction.datas (tx : StoreTransaction) : List Bytes := tx.sysvar.instructions.map Instruction.data

/-- The native program accepts every instruction of the transaction that is its own. -/
def StoreTransaction.PassesNative (valid : Valid) (tx : StoreTransaction) : Prop :=
  ∀ k, (inside : k < tx.sysvar.instructions.length) → tx.sysvar.instructions[k].program_id = ED25519_PROGRAM_ID →
    NativeAccepts valid tx.datas k

def storeIn (account : AccountInfo) (tx : StoreTransaction) : Exec AnyError AccountInfo :=
  write_from_ix tx.sysvar.account account tx.clock_slot tx.instruction_index

def step (account : AccountInfo) (tx : StoreTransaction) : AccountInfo :=
  match storeIn account tx with
  | .ok after => after
  | _ => account

/-- The transaction is not rolled back. -/
def Stores (account : AccountInfo) (tx : StoreTransaction) : Prop := ∃ after, storeIn account tx = .ok after

def zeroed (key : Pubkey) (size : Nat) : AccountInfo := ⟨key, List.replicate size 0⟩

/-! ### One transaction -/

/-- The data that a transaction stores, and what it leaves of an account. -/
structure StoresData (account : AccountInfo) (tx : StoreTransaction) (data : Bytes) (after : AccountInfo) : Prop where
  here : tx.datas[tx.instruction_index]? = some data
  program : ∃ inside : tx.instruction_index < tx.sysvar.instructions.length,
    tx.sysvar.instructions[tx.instruction_index].program_id = ED25519_PROGRAM_ID
  names : FirstRecordNames data tx.instruction_index
  narrow : data.length < 65536
  fits : data.length + 10 ≤ account.data.length
  slot : backSlot data < tx.clock_slot
  after : after = ⟨account.key, stored data account.data⟩

theorem storesData_of_ok {account after : AccountInfo} {tx : StoreTransaction} (done : storeIn account tx = .ok after) :
    ∃ data, StoresData account tx data after := by
  obtain ⟨source, found, written⟩ := Exec.bind_eq_ok.mp done
  have narrow := extract_ix_data_len found
  obtain ⟨inside, program, _, names, rfl⟩ := (extract_ix_data_ok_iff tx.sysvar _ source).mp found
  obtain ⟨inBounds, bytes⟩ := instructionSlice_bytes tx.sysvar inside
  have length := Slice.length_bytes inBounds
  obtain ⟨_, fits, slot, _, rfl⟩ := (write_ok_iff inBounds tx.clock_slot account after).mp written
  rw [← length] at narrow fits
  rw [bytes] at narrow fits slot
  refine ⟨tx.sysvar.instructions[tx.instruction_index].data, ?_, ⟨inside, program⟩, names, narrow, fits, slot, ?_⟩
  · rw [StoreTransaction.datas, List.getElem?_map, List.getElem?_eq_getElem inside, Option.map_some]
  · rw [bytes]

theorem step_stores {account : AccountInfo} {tx : StoreTransaction} (stores : Stores account tx) :
    ∃ data, StoresData account tx data (step account tx) := by
  obtain ⟨after, done⟩ := stores
  have now : step account tx = after := by
    unfold step
    rw [done]
  exact now ▸ storesData_of_ok done

theorem step_quiet (account : AccountInfo) (tx : StoreTransaction) (rolledBack : ¬ Stores account tx) :
    step account tx = account := by
  unfold step
  split
  · rename_i after done
    exact absurd ⟨after, done⟩ rolledBack
  · rfl

/-- Neither the key nor the size of the account changes. -/
def SameShape (a b : AccountInfo) : Prop := a.key = b.key ∧ a.data.length = b.data.length

theorem step_sameShape (account : AccountInfo) (tx : StoreTransaction) : SameShape (step account tx) account := by
  by_cases stores : Stores account tx
  · obtain ⟨data, holds⟩ := step_stores stores
    rw [holds.after]
    exact ⟨rfl, length_stored holds.fits⟩
  · rw [step_quiet account tx stores]
    exact ⟨rfl, rfl⟩

theorem run_sameShape (start : AccountInfo) (txs : List StoreTransaction) : SameShape (run step start txs) start := by
  have kept : ∀ account tx, SameShape account start → SameShape (step account tx) start := by
    intro account tx same
    have here := step_sameShape account tx
    exact ⟨here.1.trans same.1, here.2.trans same.2⟩
  exact run_invariant kept ⟨rfl, rfl⟩ txs

/-! ### What the account holds -/

section
variable {account after : AccountInfo} {tx : StoreTransaction} {data : Bytes} (holds : StoresData account tx data after)
include holds

theorem StoresData.held_inBounds : (heldData after).InBounds := by
  have fits := holds.fits
  rw [holds.after]
  apply heldData_inBounds
  rw [heldLength_stored holds.narrow, length_stored fits]
  omega

theorem StoresData.held_bytes : (heldData after).bytes = data := by
  rw [holds.after]
  exact heldData_stored holds.narrow account.key

theorem StoresData.verify_account_eq (checks : OverflowChecks) (verifier : QuoteVerifier) :
    verify_account checks verifier after = verify checks verifier (heldData after) := by
  rw [holds.after]
  exact verify_account_stored holds.fits holds.narrow account.key checks verifier

end

theorem verify_account_zeroed (checks : OverflowChecks) (verifier : QuoteVerifier) (key : Pubkey) (size : Nat) :
    verify_account checks verifier (zeroed key size) =
      .err (if size < 8 then s!"Oracle account too small: {size} bytes, expected at least 8"
        else "Invalid oracle account discriminator") := by
  have length : (zeroed key size).data.length = size := List.length_replicate
  by_cases small : size < 8
  · rw [verify_account, Exec.bailIf_true _ (by rwa [Slice.of_len, length]), Exec.err_bind, if_pos small, Slice.of_len,
      length]
  · have wrong : window (zeroed key size).data 0 8 ≠ QUOTE_DISCRIMINATOR := by
      rw [zeroed, window, List.drop_zero, List.take_replicate, Nat.min_eq_left (by omega)]
      decide
    rw [verify_account_large (by omega), if_pos wrong, if_neg small]

/-! ### Runs -/

/-- Transaction `i` is the last one of the run that stores, and `data` is what it stores. -/
def LastStored (start : AccountInfo) (txs : List StoreTransaction) (i : Nat) (inside : i < txs.length)
    (data : Bytes) : Prop :=
  StoresData (run step start (txs.take i)) txs[i] data (run step start txs) ∧
    ∀ j, i < j → (later : j < txs.length) → ¬ Stores (run step start (txs.take j)) txs[j]

theorem run_cases (start : AccountInfo) (txs : List StoreTransaction) :
    ((∀ k, (inside : k < txs.length) → ¬ Stores (run step start (txs.take k)) txs[k]) ∧ run step start txs = start) ∨
      ∃ i inside data, LastStored start txs i inside data := by
  rcases run_last step_quiet start txs with rolledBack | ⟨i, inside, stores, last, ends⟩
  · exact .inl rolledBack
  · obtain ⟨data, holds⟩ := step_stores stores
    exact .inr ⟨i, inside, data, ends ▸ holds, last⟩

/-- What a run leaves in an account of zeros, for a verifier: nothing before the
    first transaction that stores, and then the data of the last one. -/
inductive Register (checks : OverflowChecks) (verifier : QuoteVerifier) (key : Pubkey) (size : Nat)
    (txs : List StoreTransaction) : Prop where
  | empty (rolledBack : ∀ k, (inside : k < txs.length) → ¬ Stores (run step (zeroed key size) (txs.take k)) txs[k])
      (rejected : verify_account checks verifier (run step (zeroed key size) txs) =
        .err (if size < 8 then s!"Oracle account too small: {size} bytes, expected at least 8"
          else "Invalid oracle account discriminator"))
  | holds (i : Nat) (inside : i < txs.length) (data : Bytes) (last : LastStored (zeroed key size) txs i inside data)
      (verifies : OffsetsInside data → EndAlike (backSlot data)
        (verify_account checks verifier (run step (zeroed key size) txs))
        (verify checks verifier (SafeSlice.of data).toSlice))

/-- After any run of transactions the account has its key and size, and the
    verifier ends on it as on the data of the last transaction that stored. -/
theorem account_is_register (checks : OverflowChecks) (verifier : QuoteVerifier) (key : Pubkey) (size : Nat)
    (txs : List StoreTransaction) :
    SameShape (run step (zeroed key size) txs) (zeroed key size) ∧ Register checks verifier key size txs := by
  refine ⟨run_sameShape _ txs, ?_⟩
  rcases run_cases (zeroed key size) txs with ⟨rolledBack, stays⟩ | ⟨i, inside, data, last⟩
  · exact .empty rolledBack (by rw [stays, verify_account_zeroed])
  · refine .holds i inside data last fun offsets => ?_
    rw [last.1.verify_account_eq checks verifier]
    have bytes : (SafeSlice.of data).bytes = data := Slice.of_bytes data
    let held : SafeSlice := ⟨heldData (run step (zeroed key size) txs), last.1.held_inBounds⟩
    have same : held.bytes = (SafeSlice.of data).bytes := last.1.held_bytes.trans bytes.symm
    have inside : OffsetsInside (SafeSlice.of data).bytes := bytes.symm ▸ offsets
    have alike := (verify_same_bytes checks verifier (evenAddress_heldData _) same inside).mpr (.inl (evenAddress_of data))
    rwa [bytes] at alike

/-- The quote is the data of the instruction that the transaction stores; its slot
    is below the clock of the transaction, and the keys of the verifier's queue
    have signed its header and feeds. -/
structure SignedIn (valid : Valid) (tx : StoreTransaction) (verifier : QuoteVerifier) (quote : OracleQuote) : Prop where
  raw_data : ∃ raw, quote.raw_data = some raw ∧ tx.datas[tx.instruction_index]? = some raw.bytes
  slot : quote.recent_slot < tx.clock_slot
  signed : ∃ account queue, verifier.queue = some account ∧ IsQueue account queue ∧ Signed valid queue quote

theorem StoresData.signedIn {valid : Valid} {account after : AccountInfo} {tx : StoreTransaction} {data : Bytes}
    (holds : StoresData account tx data after) (native : tx.PassesNative valid) {checks : OverflowChecks}
    {verifier : QuoteVerifier} {quote : OracleQuote} (verified : verify_account checks verifier after = .ok quote) :
    SignedIn valid tx verifier quote := by
  let held : SafeSlice := ⟨heldData after, holds.held_inBounds⟩
  have bytes : held.bytes = data := holds.held_bytes
  have here : tx.datas[tx.instruction_index]? = some held.bytes := bytes ▸ holds.here
  have first : NamesOnly (recordAt held.bytes 0) tx.instruction_index := by
    rw [bytes]
    exact (firstRecordNames_iff _ _).mp holds.names
  obtain ⟨inside, program⟩ := holds.program
  rw [holds.verify_account_eq] at verified
  obtain ⟨⟨queue, slothashes, clock, hash, verifies⟩, rfl⟩ := (verify_ok_iff checks verifier held quote).mp verified
  obtain ⟨queueAccount, queueSet, isQueue⟩ := verifies.queueSet
  refine ⟨⟨_, rfl, here⟩, ?_, queueAccount, queue, queueSet, isQueue,
    signed_of_verifies here verifies.accepted first (native _ inside program) verifies⟩
  have slot : (quoteOf held.toSlice).recent_slot = backSlot data :=
    (recentSlot_of_bytes verifies.accepted.header).trans (congrArg backSlot bytes)
  exact slot ▸ holds.slot

theorem not_verified_zeroed {checks : OverflowChecks} {verifier : QuoteVerifier} {key : Pubkey} {size : Nat}
    {quote : OracleQuote} : verify_account checks verifier (zeroed key size) ≠ .ok quote := by
  rw [verify_account_zeroed]
  rintro ⟨⟩

/-- Custody: after any run of transactions that the native program accepts, a quote
    that the verifier takes from the account is signed, in the last transaction
    of the run that stored. -/
theorem custody (valid : Valid) (checks : OverflowChecks) (verifier : QuoteVerifier) (key : Pubkey) (size : Nat)
    (txs : List StoreTransaction) (quote : OracleQuote) (native : ∀ tx ∈ txs, tx.PassesNative valid)
    (verified : verify_account checks verifier (run step (zeroed key size) txs) = .ok quote) :
    ∃ i, ∃ inside : i < txs.length, SignedIn valid txs[i] verifier quote ∧
      ∀ j, i < j → (later : j < txs.length) → ¬ Stores (run step (zeroed key size) (txs.take j)) txs[j] := by
  rcases run_cases (zeroed key size) txs with ⟨_, stays⟩ | ⟨i, inside, data, last⟩
  · exact absurd (stays ▸ verified) not_verified_zeroed
  · exact ⟨i, inside, last.1.signedIn (native _ (List.getElem_mem inside)) verified, last.2⟩

/-! ### Looking up the feeds -/

/-- The lookups of a quote are in feeds that its oracles have signed, behind its
    header: `feed` gives the first one with an id, or says that there is none. -/
structure LooksUp (valid : Valid) (queue : QueueAccountData) (quote : OracleQuote) (header : PackedQuoteHeader)
    (feeds : List PackedFeedInfo) : Prop where
  headerRead : (quote.header : Exec AnyError _) = .ok header
  feed : ∀ feed_id, quote.feed feed_id =
    Exec.okOr "Switchboard On-Demand FeedNotFound" (feeds.find? fun info => info.feed_id = feed_id)
  len : quote.len = feeds.length
  is_empty : quote.is_empty = feeds.isEmpty
  signed : ∀ i < quote.oracle_count, ∃ idx signature, quote.oracle_index i = .ok idx ∧
    valid queue.ed25519_oracle_signing_keys[idx.toNat % 30]
      (header.signed_slothash.val ++ (feeds.map PackedFeedInfo.toBytes).flatten) signature

theorem looksUp_of_signed {valid : Valid} {queue : QueueAccountData} {quote : OracleQuote}
    (signed : Signed valid queue quote) : ∃ header feeds, LooksUp valid queue quote header feeds := by
  obtain ⟨header, feeds, headerRead, feedsRead, each⟩ := signed
  have len : quote.len = feeds.length := OracleQuote.len_of_feeds feedsRead
  refine ⟨header, feeds, headerRead, fun feed_id => OracleQuote.feed_of_feeds feed_id feedsRead, len, ?_, ?_⟩
  · rw [OracleQuote.is_empty, show quote.feed_count = feeds.length from len]
    cases feeds with
    | nil => rfl
    | cons first rest => rfl
  · intro i counted
    obtain ⟨idx, signature, read, isValid⟩ := each i counted
    exact ⟨idx, signature, by rw [OracleQuote.oracle_index, if_pos counted, read], isValid⟩

/-- After any run of transactions that the native program accepts, all lookups of
    a quote from the account are in feeds that its oracles have signed. -/
theorem lookups_in_custody (valid : Valid) (checks : OverflowChecks) (verifier : QuoteVerifier) (key : Pubkey)
    (size : Nat) (txs : List StoreTransaction) (quote : OracleQuote) (native : ∀ tx ∈ txs, tx.PassesNative valid)
    (verified : verify_account checks verifier (run step (zeroed key size) txs) = .ok quote) :
    ∃ account queue header feeds, verifier.queue = some account ∧ IsQueue account queue ∧
      LooksUp valid queue quote header feeds := by
  rcases run_cases (zeroed key size) txs with ⟨_, stays⟩ | ⟨i, inside, data, last⟩
  · exact absurd (stays ▸ verified) not_verified_zeroed
  · have signedIn := last.1.signedIn (native _ (List.getElem_mem inside)) verified
    obtain ⟨account, queue, queueSet, isQueue, signed⟩ := signedIn.signed
    obtain ⟨header, feeds, looksUp⟩ := looksUp_of_signed signed
    exact ⟨account, queue, header, feeds, queueSet, isQueue, looksUp⟩

/-! ### A run with a signed quote -/

def storesSigned : StoreTransaction := ⟨signedTransaction zeroOnce, 2001, 0⟩

/-- The same transaction before the quote's slot: it is rolled back. -/
def storesEarly : StoreTransaction := ⟨signedTransaction zeroOnce, 0, 0⟩

theorem not_stores_early (account : AccountInfo) : ¬ Stores account storesEarly := by
  rintro ⟨after, done⟩
  obtain ⟨data, holds⟩ := storesData_of_ok done
  exact UInt64.not_lt_zero holds.slot

theorem stores_signed (key : Pubkey) : Stores (zeroed key 217) storesSigned := by
  obtain ⟨source, found, bytes, _⟩ := extract_signedTransaction zeroOnce
  obtain ⟨after, written⟩ := write_quoteIn key bytes
  exact ⟨after, Exec.bind_eq_ok.mpr ⟨_, found, written⟩⟩

theorem passesNative_signed : storesSigned.PassesNative signedOnce := by
  intro k inside _
  obtain rfl : k = 0 := Nat.lt_one_iff.mp inside
  exact nativeAccepts_oneSigner (signedQuote zeroOnce) rfl ⟨rfl, rfl, rfl⟩

theorem passesNative_both : ∀ tx ∈ [storesSigned, storesEarly], tx.PassesNative signedOnce := by
  intro tx member
  rcases List.mem_pair.mp member with rfl | rfl
  · exact passesNative_signed
  · exact passesNative_signed

/-- Behind a store and a transaction that is rolled back the account verifies. -/
theorem verify_after_both : ∃ quote,
    verify_account .on verifierAt2000 (run step (zeroed slot_hashes_ID 217) [storesSigned, storesEarly]) =
      .ok quote := by
  obtain ⟨data, holds⟩ := step_stores (stores_signed slot_hashes_ID)
  have ends : run step (zeroed slot_hashes_ID 217) [storesSigned, storesEarly] =
      step (zeroed slot_hashes_ID 217) storesSigned := by
    simp only [run, List.foldl_cons, List.foldl_nil]
    exact step_quiet _ _ (not_stores_early _)
  have isData : data = (signedQuote zeroOnce).data := Option.some.inj (holds.here.symm.trans rfl)
  have zero : NamePlaceZero zeroOnce := by decide
  let held : SafeSlice := ⟨_, holds.held_inBounds⟩
  have bytes : held.bytes = (signedQuote zeroOnce).data := holds.held_bytes.trans isData
  have done := verify_quoteIn .on 0 zero bytes (evenAddress_heldData _)
  rw [ends, holds.verify_account_eq]
  exact ⟨_, done⟩

theorem custody_signedQuote :
    let txs := [storesSigned, storesEarly]
    ∃ quote i, ∃ inside : i < txs.length, SignedIn signedOnce txs[i] verifierAt2000 quote := by
  obtain ⟨quote, verified⟩ := verify_after_both
  obtain ⟨i, inside, signed, _⟩ :=
    custody signedOnce .on verifierAt2000 slot_hashes_ID 217 _ quote passesNative_both verified
  exact ⟨quote, i, inside, signed⟩

theorem lookups_in_custody_signedQuote :
    ∃ queue quote header feeds, LooksUp signedOnce queue quote header feeds := by
  obtain ⟨quote, verified⟩ := verify_after_both
  obtain ⟨_, queue, header, feeds, _, _, looksUp⟩ :=
    lookups_in_custody signedOnce .on verifierAt2000 slot_hashes_ID 217 _ quote passesNative_both verified
  exact ⟨queue, quote, header, feeds, looksUp⟩

end SwitchboardOnDemand.Custody
