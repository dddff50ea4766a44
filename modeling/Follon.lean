import Follon.Accounting.AggregationPermutations
import Follon.Accounting.LotSplits
import Follon.Accounting.Statement
import Follon.Backtest.AdvancedLots
import Follon.Backtest.AdvancedRefusals
import Follon.Backtest.PeakDrawdown
import Follon.Backtest.ResearchEvidence
import Follon.Backtest.RunnerBooks
import Follon.Backtest.Universe
import Follon.Commercial.DocumentEncodings
import Follon.Commercial.FailedWrites
import Follon.Commercial.HeldData
import Follon.Commercial.TenantIsolation
import Follon.ControlPlane.BarLiquidity
import Follon.ControlPlane.CapsuleRoundTrip
import Follon.ControlPlane.FillPrices
import Follon.ControlPlane.Provenance
import Follon.Domain.PriceCollar
import Follon.Execution.Iceberg
import Follon.Execution.Offsets
import Follon.Execution.OptionCombo
import Follon.Execution.PassivePlans
import Follon.Execution.RouteEvidence
import Follon.Execution.RouteListing
import Follon.Execution.TrailingStops
import Follon.Fx.Pricing
import Follon.Ibkr.FinishedOrders
import Follon.Ibkr.ReadableRuns
import Follon.Ibkr.RejectionRuns
import Follon.Ibkr.Requests
import Follon.Identity.Base32
import Follon.Identity.Challenges
import Follon.Instruments.Registry
import Follon.Live.CanaryEnvelope
import Follon.MarketData.BarConstruction
import Follon.MarketData.FeedQuality
import Follon.MarketData.GapRepair
import Follon.MarketData.QuoteFiles
import Follon.News.FeedCausality
import Follon.News.ReplayTime
import Follon.Operations.ParameterBinding
import Follon.Operations.Schedules
import Follon.Options.Settlement
import Follon.Paper.Agreement
import Follon.Paper.AmbiguousSubmissions
import Follon.Paper.AttributedRisk
import Follon.Paper.CorporateActions
import Follon.Paper.EvidenceRecord
import Follon.Paper.JournalIntegrity
import Follon.Paper.Recovery
import Follon.Paper.Reductions
import Follon.Persistence.Outbox
import Follon.Risk.WorkingBounds
