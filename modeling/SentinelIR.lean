import SentinelIR.Alerts.Runs
import SentinelIR.Collector.RoundTrip
import SentinelIR.Collector.Runs
import SentinelIR.Common.CircuitHistory
import SentinelIR.Common.ClientOutcomes
import SentinelIR.Common.Service
import SentinelIR.Console.Neighbourhood
import SentinelIR.Console.SocApi
import SentinelIR.Gateway.FileLog
import SentinelIR.Loader.AcceptedLines
import SentinelIR.Loader.ArrivalOrder
import SentinelIR.Loader.Complete
import SentinelIR.Loader.DegradedLookups
import SentinelIR.Loader.Endpoints
import SentinelIR.Loader.GraphModel
import SentinelIR.Loader.IncidentNodes
import SentinelIR.Loader.LiveSource
import SentinelIR.Loader.SameAlerts
import SentinelIR.Platform.Headers
import SentinelIR.Platform.Refusals
import SentinelIR.Platform.RequestRate
import SentinelIR.Rag.Answers
import SentinelIR.Rag.Linkage
import SentinelIR.Rag.LoadedAnswers
import SentinelIR.Rag.LoadedThreats
import SentinelIR.Rules.ClientAddresses
import SentinelIR.Rules.DeclaredInputs
import SentinelIR.Services.AccountLife
import SentinelIR.Services.AssetReads
import SentinelIR.Services.FailureCounts
import SentinelIR.Services.IncidentRouter
import SentinelIR.Services.IncidentUpdates
import SentinelIR.Services.Login
import SentinelIR.Services.PasswordService
import SentinelIR.Services.SeverityRaces
