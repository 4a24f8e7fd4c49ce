import SwitchboardOnDemand.Encoding

/-!
# The stored path and the instruction path

A quote reaches the verifier in two ways: out of the instructions sysvar, or out
of the account that `write_from_ix` has copied it to. The copy has the bytes of
the instruction behind its discriminator and length (`heldData_stored`), at an even
address. The two ways end alike exactly when the instruction has its data at an
even address too, or the verifier turns the bytes down (`stored_path_agrees_iff`).
-/

namespace SwitchboardOnDemand.StoredPath
open Rust SwitchboardOnDemand.Utils SwitchboardOnDemand.Ed25519Sysvar SwitchboardOnDemand.IxSysvar
open SwitchboardOnDemand.SlothashSysvar SwitchboardOnDemand.Queue SwitchboardOnDemand.Quote
open SwitchboardOnDemand.QuoteStore SwitchboardOnDemand.Verifier SwitchboardOnDemand.Placement
open SwitchboardOnDemand.Encoding

/-- Both calls give a quote, and the two quotes say the same and have the slot
    `slot`, or neither call gives one. -/
inductive EndAlike (slot : UInt64) (first second : Exec AnyError OracleQuote) : Prop where
  | verified (a b : OracleQuote) (view : QuoteView) (firstOk : first = .ok a) (secondOk : second = .ok b)
      (firstView : (a.view : Exec AnyError _) = .ok view) (secondView : (b.view : Exec AnyError _) = .ok view)
      (recent : view.recent_slot = slot)
  | failed (firstFails : ∀ quote, first ≠ .ok quote) (secondFails : ∀ quote, second ≠ .ok quote)

/-- The verifier takes data with these bytes where it can read the records. -/
def AdmitsBytes (checks : OverflowChecks) (self : QuoteVerifier) (bytes : Bytes) : Prop :=
  ∃ queue sysvar clock hash, Verifies checks self (Slice.of bytes) queue sysvar clock hash

section
variable {checks : OverflowChecks} {self : QuoteVerifier}

/-- A quote comes from data at an even address whose bytes the verifier takes. -/
theorem verify_ok_iff_admitsBytes {data : SafeSlice} (inside : OffsetsInside data.bytes) (quote : OracleQuote) :
    verify checks self data.toSlice = .ok quote ↔
      (EvenAddress data.toSlice ∧ AdmitsBytes checks self data.bytes) ∧ quote = quoteOf data.toSlice := by
  rw [verify_ok_iff]
  refine and_congr_left fun _ => ?_
  simp only [verifies_of_bytes inside, exists_and_left, AdmitsBytes]

theorem view_of_verified {data : SafeSlice} (inside : OffsetsInside data.bytes) {quote : OracleQuote}
    (verified : verify checks self data.toSlice = .ok quote) :
    ∃ view, (viewFrom data.bytes : Exec AnyError _) = .ok view ∧ (quote.view : Exec AnyError _) = .ok view ∧
      view.recent_slot = backSlot data.bytes := by
  obtain ⟨⟨_, _, _, _, verifies⟩, rfl⟩ := (verify_ok_iff checks self data quote).mp verified
  obtain ⟨view, read, recent⟩ : ∃ view, (viewFrom data.bytes : Exec AnyError _) = .ok view ∧
    view.recent_slot = backSlot data.bytes := view_ok inside verifies.accepted
  exact ⟨view, read, (view_of_bytes inside verifies.accepted).trans read, recent⟩

/-- Two data with the same bytes, the first at an even address, are verified alike
    exactly when the second one is at an even address too, or its bytes are turned
    down. -/
theorem verify_same_bytes (checks : OverflowChecks) (self : QuoteVerifier) {a b : SafeSlice}
    (even : EvenAddress a.toSlice) (same : a.bytes = b.bytes) (inside : OffsetsInside b.bytes) :
    EndAlike (backSlot b.bytes) (verify checks self a.toSlice) (verify checks self b.toSlice) ↔
      EvenAddress b.toSlice ∨ ¬ AdmitsBytes checks self b.bytes := by
  have insideA : OffsetsInside a.bytes := same ▸ inside
  constructor
  · intro alike
    by_contra neither
    obtain ⟨odd, admits⟩ := not_or.mp neither
    rcases alike with ⟨_, quote, _, _, verified, _, _, _⟩ | ⟨fails, _⟩
    · exact odd ((verify_ok_iff_admitsBytes inside quote).mp verified).1.1
    · exact fails _ ((verify_ok_iff_admitsBytes insideA _).mpr ⟨⟨even, same ▸ not_not.mp admits⟩, rfl⟩)
  · intro condition
    by_cases admits : AdmitsBytes checks self b.bytes
    · have evenB := condition.resolve_right (not_not_intro admits)
      have first := (verify_ok_iff_admitsBytes insideA _).mpr ⟨⟨even, same ▸ admits⟩, rfl⟩
      have second := (verify_ok_iff_admitsBytes inside _).mpr ⟨⟨evenB, admits⟩, rfl⟩
      obtain ⟨view, read, firstView, _⟩ := view_of_verified insideA first
      obtain ⟨other, readB, secondView, recent⟩ := view_of_verified inside second
      obtain rfl : view = other := Exec.ok.inj (read.symm.trans (same ▸ readB))
      exact .verified _ _ view first second firstView secondView recent
    · refine .failed (fun quote done => ?_) (fun quote done => ?_)
      · exact admits (same ▸ ((verify_ok_iff_admitsBytes insideA quote).mp done).1.2)
      · exact admits ((verify_ok_iff_admitsBytes inside quote).mp done).1.2

end

/-! ### What the account holds behind a write -/

section
variable {source data : Bytes} (fits : source.length + 10 ≤ data.length) (narrow : source.length < 65536)
  (key : Pubkey)

theorem window_discriminator_stored : window (stored source data) 0 8 = QUOTE_DISCRIMINATOR := by
  have eight : QUOTE_DISCRIMINATOR.length = 8 := rfl
  rw [stored, window_append_left eight.ge, window_full eight]

include narrow in
theorem heldLength_stored : heldLength ⟨key, stored source data⟩ = source.length := by
  have split : stored source data = QUOTE_DISCRIMINATOR ++ leBytes 2 (source.length % 65536) ++
      (source ++ (data.drop 8).drop (2 + source.length)) := by
    simp only [stored, delimited, List.append_assoc]
  have eight : QUOTE_DISCRIMINATOR.length = 8 := rfl
  have bytes : window (stored source data) 8 2 = leBytes 2 source.length := by
    rw [split, window_middle eight (length_leBytes 2 _), Nat.mod_eq_of_lt narrow]
  rw [heldLength, bytes, leNat_leBytes_of_lt (by simpa using narrow)]

include narrow in
theorem heldData_stored : (heldData ⟨key, stored source data⟩).bytes = source := by
  have split : stored source data = (QUOTE_DISCRIMINATOR ++ leBytes 2 (source.length % 65536)) ++ source ++
      (data.drop 8).drop (2 + source.length) := by
    simp only [stored, delimited, List.append_assoc]
  have head : (QUOTE_DISCRIMINATOR ++ leBytes 2 (source.length % 65536)).length = 10 := by
    rw [List.length_append, length_leBytes]
    rfl
  have bytes : window (stored source data) 10 source.length = source := by
    rw [split]
    exact window_middle head rfl
  rw [heldData, heldLength_stored narrow key]
  exact bytes

include fits narrow in
theorem verify_account_stored (checks : OverflowChecks) (self : QuoteVerifier) :
    verify_account checks self ⟨key, stored source data⟩ =
      verify checks self (heldData ⟨key, stored source data⟩) := by
  have size := length_stored fits
  have held : heldLength ⟨key, stored source data⟩ = source.length := heldLength_stored narrow key
  rw [verify_account_large (by rw [size]; omega), if_neg (not_not.mpr window_discriminator_stored),
    verify_delimited_fits (by rw [held, size]; omega)]

end

/-- Behind a write, the two ways verify the same bytes, which lie at an even address
    of the account. -/
theorem paths_of_written (checks : OverflowChecks) (self : QuoteVerifier) {ix_sysvar account after : AccountInfo}
    {clock_slot : UInt64} {k : Int64} (ixSet : self.ix_sysvar = some ix_sysvar)
    (written : (write_from_ix ix_sysvar account clock_slot k.toUInt64.toNat : Exec AnyError _) = .ok after) :
    ∃ source held : SafeSlice, (extract_ix_data ix_sysvar k.toUInt64.toNat : Exec AnyError _) = .ok source.toSlice ∧
      (slot_from_back source.toSlice : Exec AnyError _) = .ok (backSlot source.bytes) ∧
      held.bytes = source.bytes ∧ EvenAddress held.toSlice ∧
      verify_account checks self after = verify checks self held.toSlice ∧
      verify_instruction_at checks self k = verify checks self source.toSlice := by
  obtain ⟨source, found, written⟩ := Exec.bind_eq_ok.mp written
  have inside := write_inBounds written
  obtain ⟨long, fits, _, _, rfl⟩ := (write_ok_iff inside clock_slot account after).mp written
  have length := Slice.length_bytes inside
  have narrow : source.bytes.length < 65536 := length ▸ extract_ix_data_len found
  rw [← length] at fits
  have held : (heldData ⟨account.key, stored source.bytes account.data⟩).InBounds :=
    heldData_inBounds (by rw [heldLength_stored narrow, length_stored fits]; omega)
  exact ⟨⟨source, inside⟩, ⟨_, held⟩, found, slot_from_back_eq inside long, heldData_stored narrow account.key,
    evenAddress_heldData _, verify_account_stored fits narrow account.key checks self,
    verify_instruction_at_eq ixSet found⟩

/-- The verifier ends alike on the account that `write_from_ix` leaves and on the
    instruction, and a quote has the slot that the write compared with the clock,
    exactly when the data of the instruction lies at an even address of the sysvar
    or the verifier turns its bytes down. -/
theorem stored_path_agrees_iff (checks : OverflowChecks) (self : QuoteVerifier) (ix_sysvar account after : AccountInfo)
    (clock_slot : UInt64) (k : Int64) (ixSet : self.ix_sysvar = some ix_sysvar)
    (written : (write_from_ix ix_sysvar account clock_slot k.toUInt64.toNat : Exec AnyError _) = .ok after)
    (offsetsInside : ∀ source, (extract_ix_data ix_sysvar k.toUInt64.toNat : Exec AnyError _) = .ok source →
      OffsetsInside source.bytes) :
    ∃ source slot, (extract_ix_data ix_sysvar k.toUInt64.toNat : Exec AnyError _) = .ok source ∧
      (slot_from_back source : Exec AnyError _) = .ok slot ∧
      (EndAlike slot (verify_account checks self after) (verify_instruction_at checks self k) ↔
        EvenAddress source ∨ ¬ AdmitsBytes checks self source.bytes) := by
  obtain ⟨source, held, found, compared, same, even, account_eq, instruction_eq⟩ :=
    paths_of_written checks self ixSet written
  refine ⟨source.toSlice, backSlot source.bytes, found, compared, ?_⟩
  rw [account_eq, instruction_eq]
  exact verify_same_bytes checks self even same (offsetsInside _ found)

/-- An account of 217 zero bytes, just large enough for the signed quote, stores it
    one slot later. -/
theorem write_quoteIn (key : Pubkey) {instruction : Fin 65536} {source : SafeSlice}
    (bytes : source.bytes = (quoteIn instruction zeroOnce).data) :
    ∃ after, (write 2001 source.toSlice ⟨key, List.replicate 217 0⟩ : Exec AnyError _) = .ok after := by
  have size : source.len = 207 := by
    rw [← Slice.length_bytes source.inside, bytes]
    exact length_quoteIn instruction zeroOnce
  have slot : backSlot (quoteIn instruction zeroOnce).data = 2000 := (quoteIn instruction zeroOnce).backSlot_data
  have empty : backSlot (List.replicate 217 0) = 0 := backSlot_zeros 217
  refine ⟨_, (write_ok_iff source.inside 2001 _ _).mpr ⟨by omega, ?_, ?_, ?_, rfl⟩⟩
  · rw [size, List.length_replicate]
  · rw [bytes, slot]
    decide
  · rw [bytes, slot, empty]
    decide

def emptyAccount : AccountInfo := ⟨slot_hashes_ID, List.replicate 217 0⟩

theorem stored_path_agrees_iff_signedQuote :
    let ix_sysvar := (signedTransaction zeroOnce).account
    let verifier := verifierWith ix_sysvar
    ∃ after source slot,
      (write_from_ix ix_sysvar emptyAccount 2001 0 : Exec AnyError _) = .ok after ∧
      (extract_ix_data ix_sysvar 0 : Exec AnyError _) = .ok source ∧
      (slot_from_back source : Exec AnyError _) = .ok slot ∧
      EndAlike slot (verify_account .on verifier after) (verify_instruction_at .on verifier 0) := by
  intro ix_sysvar verifier
  obtain ⟨source, found, bytes, even⟩ := extract_signedTransaction zeroOnce
  obtain ⟨after, written⟩ := write_quoteIn slot_hashes_ID bytes
  have writtenFromIx : (write_from_ix ix_sysvar emptyAccount 2001
      (0 : Int64).toUInt64.toNat : Exec AnyError _) = .ok after := Exec.bind_eq_ok.mpr ⟨_, found, written⟩
  obtain ⟨extracted, slot, extractedOk, compared, alike⟩ := stored_path_agrees_iff .on verifier ix_sysvar _ after 2001 0
    rfl writtenFromIx fun other also => by
      obtain rfl := Exec.ok.inj (found.symm.trans also)
      exact bytes ▸ (signedQuote zeroOnce).offsetsInside
  obtain rfl := Exec.ok.inj (found.symm.trans extractedOk)
  exact ⟨after, _, slot, writtenFromIx, found, compared, alike.mpr (.inl even)⟩

/-- MemoSq4gqABAXKb96qnH8TysNcWxMyWCqXgDLGmfcHr -/
def MEMO_ID : Pubkey :=
  ⟨[5, 74, 83, 90, 153, 41, 33, 6, 77, 36, 232, 113, 96, 218, 56, 124, 124, 53, 181, 221, 188, 146, 187, 129, 228, 31,
    168, 64, 65, 5, 68, 141], by decide⟩

/-- The signed quote for the second instruction of a transaction. -/
abbrev secondQuote : OneSigner := quoteIn ⟨1, by decide⟩ zeroOnce

/-- A memo of one byte, and the signed quote. -/
def memoInstructions : List Instruction :=
  [⟨[], MEMO_ID, [33]⟩, ⟨[], ED25519_PROGRAM_ID, secondQuote.data⟩]

theorem fits_memoInstructions : Fits memoInstructions := by
  have short : secondQuote.data.length < 65536 := by
    rw [length_quoteIn]
    decide
  refine ⟨by decide, fun idx inside => ?_, by simp [memoInstructions], by simpa [memoInstructions] using short⟩
  have two : idx < 2 := inside
  obtain rfl | rfl : idx = 0 ∨ idx = 1 := by omega
  · simp [memoInstructions, startOffset]
  · simp [memoInstructions, startOffset, Instruction.toBytes, Instruction.length_head]

/-- The quote starts at byte 79. -/
def memoTransaction : InstructionsSysvar where
  instructions := memoInstructions
  fits := fits_memoInstructions
  trailing := [1, 0]

/-- Its data is stored and the account verifies, but the instruction path does not
    come back from the odd address. -/
theorem memoTransaction_paths_differ :
    let ix_sysvar := memoTransaction.account
    let verifier := verifierWith ix_sysvar
    ∃ after source,
      (write_from_ix ix_sysvar emptyAccount 2001 1 : Exec AnyError _) = .ok after ∧
      (extract_ix_data ix_sysvar 1 : Exec AnyError _) = .ok source ∧ OffsetsInside source.bytes ∧
      (∃ quote, verify_account .on verifier after = .ok quote) ∧ verify_instruction_at .on verifier 1 = .fault ∧
      ∀ slot, ¬ EndAlike slot (verify_account .on verifier after) (verify_instruction_at .on verifier 1) := by
  intro ix_sysvar verifier
  obtain ⟨source, found, bytes, parity⟩ := secondQuote.extract_data memoTransaction rfl
  obtain ⟨after, written⟩ := write_quoteIn slot_hashes_ID bytes
  have writtenFromIx : (write_from_ix ix_sysvar emptyAccount 2001
      (1 : Int64).toUInt64.toNat : Exec AnyError _) = .ok after := Exec.bind_eq_ok.mpr ⟨_, found, written⟩
  have odd : ¬ EvenAddress source.toSlice := mt parity.mp (by decide)
  have inside : OffsetsInside source.bytes := bytes ▸ secondQuote.offsetsInside
  have header : HeaderOk source.toSlice :=
    (headerOk_of_bytes inside).mpr (bytes ▸ secondQuote.headerOk)
  obtain ⟨same, held, foundSame, _, heldBytes, even, account_eq, instruction_eq⟩ :=
    paths_of_written .on verifier rfl writtenFromIx
  have sameBytes : same.bytes = source.bytes := congrArg Slice.bytes (Exec.ok.inj (foundSame.symm.trans found))
  have stored : verify_account .on verifier after = _ := account_eq.trans
    (verify_quoteIn .on ⟨1, by decide⟩ (by decide : NamePlaceZero zeroOnce) (heldBytes.trans (sameBytes.trans bytes)) even)
  have answer : verify_instruction_at .on verifier 1 = verify .on verifier source.toSlice :=
    verify_instruction_at_eq rfl found
  have stuck := answer.trans (verify_odd .on verifier odd header)
  refine ⟨after, source.toSlice, writtenFromIx, found, inside, ⟨_, stored⟩, stuck, ?_⟩
  rintro slot (⟨_, _, _, _, second, _, _, _⟩ | ⟨fails, _⟩)
  · rw [stuck] at second
    cases second
  · exact fails _ stored

end SwitchboardOnDemand.StoredPath
