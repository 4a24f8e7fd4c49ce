/-!
The errors of the crate's accounts, feeds and transactions: those that the
modelled functions give.
-/

namespace SwitchboardOnDemand.Error

inductive OnDemandError where
  | InvalidData
  | InvalidDiscriminator
  | NetworkError
  | SolanaMissingSigner
  | SolanaPayerSignerMissing
  | SolanaPayerMismatch
  | SolanaInstructionOverflow
  | SolanaInstructionsEmpty
  | SolanaSignError
  | AccountDeserializeError
  | NotEnoughSamples
  | IllegalFeedValue
  | StaleResult
  | DecimalConversionError
  | InvalidSecretKey
  | KeyDerivationFailed
  deriving Repr, DecidableEq

end SwitchboardOnDemand.Error
