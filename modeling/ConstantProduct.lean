import ConstantProduct.Binary64
import ConstantProduct.Curve
import ConstantProduct.Decimal
import ConstantProduct.Error
import ConstantProduct.Event
import ConstantProduct.Fee
import ConstantProduct.FeeTier
import ConstantProduct.FixedPoint
import ConstantProduct.Json.Codec
import ConstantProduct.Json.Reader
import ConstantProduct.Json.Schema
import ConstantProduct.Ledger
import ConstantProduct.Log.Filter
import ConstantProduct.Log.Start
import ConstantProduct.Oracle.Observation
import ConstantProduct.Oracle.Ring
import ConstantProduct.Pool
import ConstantProduct.PoolId
import ConstantProduct.Proofs.Atomicity
import ConstantProduct.Proofs.Booking
import ConstantProduct.Proofs.Collecting
import ConstantProduct.Proofs.Conservation
import ConstantProduct.Proofs.Consistency
import ConstantProduct.Proofs.Counters
import ConstantProduct.Proofs.Creation
import ConstantProduct.Proofs.Decoding
import ConstantProduct.Proofs.Definedness
import ConstantProduct.Proofs.Digits
import ConstantProduct.Proofs.ExactBooking
import ConstantProduct.Proofs.ExactQuotient
import ConstantProduct.Proofs.Fee
import ConstantProduct.Proofs.FeeAgreement
import ConstantProduct.Proofs.FeeBounds
import ConstantProduct.Proofs.HalfEven
import ConstantProduct.Proofs.Isolation
import ConstantProduct.Proofs.Journal
import ConstantProduct.Proofs.LeastCost
import ConstantProduct.Proofs.Liquidity
import ConstantProduct.Proofs.MeanPrice
import ConstantProduct.Proofs.Monotonicity
import ConstantProduct.Proofs.NearestDecimal
import ConstantProduct.Proofs.NoFreeLunch
import ConstantProduct.Proofs.Persistence
import ConstantProduct.Proofs.PoolIdText
import ConstantProduct.Proofs.PriceHistory
import ConstantProduct.Proofs.PriceMovement
import ConstantProduct.Proofs.Pricing
import ConstantProduct.Proofs.ProviderYield
import ConstantProduct.Proofs.QuotedText
import ConstantProduct.Proofs.Quotient
import ConstantProduct.Proofs.Quoting
import ConstantProduct.Proofs.RecordFilter
import ConstantProduct.Proofs.Recording
import ConstantProduct.Proofs.Records
import ConstantProduct.Proofs.Refusals
import ConstantProduct.Proofs.RegistryRuns
import ConstantProduct.Proofs.Relabelling
import ConstantProduct.Proofs.Rendering
import ConstantProduct.Proofs.RingList
import ConstantProduct.Proofs.RoundTrip
import ConstantProduct.Proofs.Runs
import ConstantProduct.Proofs.SettingsText
import ConstantProduct.Proofs.Soundness
import ConstantProduct.Proofs.Splitting
import ConstantProduct.Proofs.SpotPrice
import ConstantProduct.Proofs.Staging
import ConstantProduct.Proofs.Startup
import ConstantProduct.Proofs.SwapCriterion
import ConstantProduct.Proofs.SwapTimes
import ConstantProduct.Proofs.TierUpdates
import ConstantProduct.Proofs.Tightness
import ConstantProduct.Proofs.TomlLines
import ConstantProduct.Proofs.TomlTables
import ConstantProduct.Proofs.Turnover
import ConstantProduct.Proofs.Window
import ConstantProduct.Proofs.Words
import ConstantProduct.Quote
import ConstantProduct.Registry
import ConstantProduct.Settings.Basic
import ConstantProduct.Settings.Document
import ConstantProduct.Settings.Environment
import ConstantProduct.Settings.Expansion
import ConstantProduct.Settings.KeyPath
import ConstantProduct.Settings.Tree
import ConstantProduct.Settings.Workspace
import ConstantProduct.Text.Basic
import ConstantProduct.Text.Quoted
import ConstantProduct.Token
import ConstantProduct.Toml.Document
import ConstantProduct.Toml.Moment
import ConstantProduct.Toml.Quoted
import ConstantProduct.Toml.Scalar
import ConstantProduct.Toml.Value
import ConstantProduct.Word
