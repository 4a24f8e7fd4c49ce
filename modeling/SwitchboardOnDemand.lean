import SwitchboardOnDemand.SlothashSysvar
import SwitchboardOnDemand.ParserBounds
import SwitchboardOnDemand.QuoteStore
import SwitchboardOnDemand.Runs
import SwitchboardOnDemand.Queue
import SwitchboardOnDemand.SlotSearch
import SwitchboardOnDemand.Verifier
import SwitchboardOnDemand.Encoding
import SwitchboardOnDemand.Signers
import SwitchboardOnDemand.Freshness
import SwitchboardOnDemand.ErrorPaths
import SwitchboardOnDemand.Replay
import SwitchboardOnDemand.Placement
import SwitchboardOnDemand.StoredPath
import SwitchboardOnDemand.Authenticity
import SwitchboardOnDemand.PullFeed
import SwitchboardOnDemand.ParserFormat
import SwitchboardOnDemand.SlotSuffix
import SwitchboardOnDemand.StoreRoundTrip
import SwitchboardOnDemand.QueueDecoding
import SwitchboardOnDemand.OracleAccounts
import SwitchboardOnDemand.Staleness
import SwitchboardOnDemand.LowerMedian
import SwitchboardOnDemand.Transactions
import SwitchboardOnDemand.Signing
import SwitchboardOnDemand.LatePayer
import SwitchboardOnDemand.Blockhashes
import SwitchboardOnDemand.FeedValues
import SwitchboardOnDemand.SwitchboardDecimals
import SwitchboardOnDemand.Rescaling
import SwitchboardOnDemand.DecimalOrder
import SwitchboardOnDemand.Hashing
import SwitchboardOnDemand.Checksums
import SwitchboardOnDemand.KeyDerivation
import SwitchboardOnDemand.Custody
import SwitchboardOnDemand.Footprint
import SwitchboardOnDemand.Pod
import SwitchboardOnDemand.AccountLayouts
import SwitchboardOnDemand.ZeroCopy
import SwitchboardOnDemand.AccountMethods
import SwitchboardOnDemand.Addresses
import SwitchboardOnDemand.Borsh
import SwitchboardOnDemand.LookupTables
import SwitchboardOnDemand.InstructionData
import SwitchboardOnDemand.Instructions
import SwitchboardOnDemand.Builders
import SwitchboardOnDemand.ClientTransactions
import SwitchboardOnDemand.VerifierSetup
import SwitchboardOnDemand.Fetching
import SwitchboardOnDemand.DecimalPaths
import SwitchboardOnDemand.Bundles
import SwitchboardOnDemand.SampleChanges
import SwitchboardOnDemand.GatewayUri
import SwitchboardOnDemand.Discriminators
