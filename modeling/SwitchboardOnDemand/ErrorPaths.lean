import SwitchboardOnDemand.Encoding

/-!
# Stored quotes that do not verify

A stored quote that does not verify should be an error. `verify_account` gives
one for a small account, for another discriminator and for whatever the parser
and the clock turn down. A length that runs past the account, a slot newer than
the sysvar, another hash and another key end the program instead, and an account
without room for the length is read past its end (`verify_account_returns_iff`).
-/

namespace SwitchboardOnDemand.ErrorPaths
open Rust SwitchboardOnDemand.Utils SwitchboardOnDemand.SlothashSysvar SwitchboardOnDemand.Queue
open SwitchboardOnDemand.QuoteStore SwitchboardOnDemand.Verifier SwitchboardOnDemand.Encoding

/-- `verify_account` comes back exactly for an account that is too small, one with
    another discriminator, and one whose length fits and whose data lets `verify`
    come back. -/
theorem verify_account_returns_iff (checks : OverflowChecks) (self : QuoteVerifier) (queue : QueueAccount)
    (sysvar : SlotHashesSysvar) (account : AccountInfo) (queueSet : self.queue = some queue.account)
    (sysvarSet : self.slothash_sysvar = some sysvar.account) :
    (verify_account checks self account).Returns ↔
      account.data.length < 8 ∨ window account.data 0 8 ≠ QUOTE_DISCRIMINATOR ∨
        (10 ≤ account.data.length ∧ 10 + heldLength account ≤ account.data.length ∧
          ComesBack checks self queue.queue sysvar (heldData account)) := by
  by_cases small : account.data.length < 8
  · obtain ⟨error, answer⟩ : ∃ error, verify_account checks self account = .err error := verify_account_small small
    rw [answer]
    exact iff_of_true trivial (.inl small)
  · rw [verify_account_large (Nat.not_lt.mp small)]
    by_cases wrong : window account.data 0 8 ≠ QUOTE_DISCRIMINATOR
    · rw [if_pos wrong]
      exact iff_of_true trivial (.inr (.inl wrong))
    · rw [if_neg wrong]
      by_cases fits : 10 ≤ account.data.length ∧ 10 + heldLength account ≤ account.data.length
      · have held := verify_returns_iff checks self ⟨heldData account, heldData_inBounds fits.2⟩ queue sysvar queueSet
          sysvarSet
        rw [verify_delimited_fits fits.2, held]
        constructor
        · exact fun back => .inr (.inr ⟨fits.1, fits.2, back⟩)
        · rintro (isSmall | isWrong | ⟨_, _, back⟩)
          · exact absurd isSmall small
          · exact absurd isWrong wrong
          · exact back
      · refine iff_of_false (verify_delimited_short fits) ?_
        rintro (isSmall | isWrong | ⟨two, room, _⟩)
        · exact small isSmall
        · exact wrong isWrong
        · exact fits ⟨two, room⟩

/-- An account with the discriminator and a length of 5, and nothing behind. -/
def lengthOnly : AccountInfo := ⟨slot_hashes_ID, QUOTE_DISCRIMINATOR ++ [5, 0]⟩

theorem verify_account_returns_iff_lengthOnly : ¬ (verify_account .on verifierAt2000 lengthOnly).Returns := by
  refine (verify_account_returns_iff .on verifierAt2000 oneOracleQueue everyOtherSlot.toSlotHashesSysvar lengthOnly rfl
    rfl).not.mpr ?_
  rintro (small | wrong | ⟨_, room, _⟩)
  · exact absurd small (by decide)
  · exact wrong (by decide)
  · exact absurd room (by decide)

/-- An account with the discriminator and half of a length. -/
def nineBytes : AccountInfo := ⟨slot_hashes_ID, QUOTE_DISCRIMINATOR ++ [0]⟩

/-- On nine bytes the length is read past the account. -/
theorem nineBytes_does_not_return : ¬ (verify_account .on verifierAt2000 nineBytes).Returns := by
  have right : ¬ window nineBytes.data 0 8 ≠ QUOTE_DISCRIMINATOR := by decide
  rw [verify_account_large (by decide), if_neg right]
  exact verify_delimited_short (by decide)

end SwitchboardOnDemand.ErrorPaths
