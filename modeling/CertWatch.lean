import CertWatch.AtLeastOnce
import CertWatch.Lib.Logged
import CertWatch.RetryLaw
import CertWatch.StatusEffects
import CertWatch.ReplayIsolation
import CertWatch.Quarantine
import CertWatch.ReplayOrphans
import CertWatch.ReplayOrder
import CertWatch.NetBoxSync
import CertWatch.Lib.EventLog
import CertWatch.SyncSystem
import CertWatch.InventoryFrame
import CertWatch.FreshestView
import CertWatch.InventoryAgreement
import CertWatch.Certificate
import CertWatch.Lib.Outcome
import CertWatch.CaCategory
import CertWatch.CertCheck
import CertWatch.CertCheckWithDiscovery
import CertWatch.CheckPayload
import CertWatch.CheckOutcomes
import CertWatch.DiscoveryStatus
import CertWatch.PresentedCertificates
import CertWatch.PayloadInvariants
import CertWatch.CheckThread
import CertWatch.CheckEscapes
import CertWatch.CheckResults
import CertWatch.CycleBatching
import CertWatch.CycleRuns
import CertWatch.CycleCoverage
import CertWatch.CycleResults
import CertWatch.AuthHandling
import CertWatch.ExitCodes
import CertWatch.Signals
import CertWatch.FirstSync
import CertWatch.DeliveredActions
import CertWatch.OnDemandChecks
import CertWatch.ActionSnapshots
import CertWatch.IdentityStability
import CertWatch.AcceptedConfigs
import CertWatch.ConfigSources
import CertWatch.BootstrapView
import CertWatch.StartupTable
import CertWatch.HostnameRule
import CertWatch.StageTwo
import CertWatch.TimestampOrder
import CertWatch.AtomicWrites
import CertWatch.NetBoxFilter
import CertWatch.BootstrapContract
import CertWatch.StartupLabel
import CertWatch.WorkerPool
import CertWatch.ReportTexts
import CertWatch.LoggingSetup
import CertWatch.ParallelChecks
import CertWatch.LocalConfig
import CertWatch.LocalRuns
import CertWatch.Cadence
