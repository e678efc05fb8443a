import Micboard.LibraryRun
import Micboard.LibraryTable
import Micboard.LibraryDictionary
import Micboard.LibraryText
import Micboard.LibraryAddress
import Micboard.LibraryAddressFormat
import Micboard.LibraryIndex
import Micboard.LibraryTransaction
import Micboard.LibrarySavepoint
import Micboard.LibraryCache
import Micboard.LibrarySha256
import Micboard.LibraryFraming
import Micboard.LibraryBudget
import Micboard.LibraryRotation
import Micboard.IdentityMac
import Micboard.ChassisModel
import Micboard.ChassisLifecycle
import Micboard.ChassisCoherence
import Micboard.HardwarePayload
import Micboard.IdentityCheck
import Micboard.IdentityClassify
import Micboard.IdentitySoundness
import Micboard.ChassisPersistence
import Micboard.PersistenceEffect
import Micboard.SyncInventory
import Micboard.SyncEffect
import Micboard.IndexInvariant
import Micboard.IndexAgreement
import Micboard.SyncIndexed
import Micboard.SyncPolling
import Micboard.PollingEffect
import Micboard.PollingAgreement
import Micboard.ApprovalInventory
import Micboard.ApprovalResolution
import Micboard.ApprovalPlan
import Micboard.ApprovalService
import Micboard.ApprovalAccepted
import Micboard.ApprovalPersist
import Micboard.ApprovalRun
import Micboard.DiscoveryClaim
import Micboard.RealtimeRouting
import Micboard.RealtimeBroadcast
import Micboard.RealtimeConsumer
import Micboard.DiscoveryScheduling
import Micboard.DiscoveryTriggers
import Micboard.DiscoveryDispatch
import Micboard.IpOwnership
import Micboard.IpExclusion
import Micboard.OrganizationQuota
import Micboard.QuotaDiscipline
import Micboard.QuotaRun
import Micboard.DiscoverySources
import Micboard.DiscoveryReconciliation
import Micboard.ShureDiscovery
import Micboard.DiscoveryCompleteness
import Micboard.DiscoveryFullSync
import Micboard.AlertFanout
import Micboard.AlertEvaluation
import Micboard.RealtimeSupervisor
import Micboard.CircularPages
import Micboard.DeviceSnapshot
import Micboard.AlertCoverage
import Micboard.AlertReach
import Micboard.AlertLifecycle
import Micboard.AlertInterval
import Micboard.ChargerPolling
import Micboard.ChargerRefinement
import Micboard.ChargerCycle
import Micboard.SettingsRegistry
import Micboard.SettingsCoherence
import Micboard.SettingsRun
import Micboard.TenantScope
import Micboard.AssignmentService
import Micboard.AssignmentAuthority
import Micboard.LibraryPeriods
import Micboard.ChassisUptime
import Micboard.SyncServiced
import Micboard.PollingSnapshot
import Micboard.SyncIsolation
import Micboard.ChannelEnablement
import Micboard.LibraryTransition
import Micboard.VendorTransform
import Micboard.UnitTelemetry
import Micboard.PayloadNormalization
import Micboard.DevicePromotion
import Micboard.PromotionAgreement
import Micboard.QueueNormalization
import Micboard.QueueStaging
import Micboard.ApprovalSingle
import Micboard.QueueFixpoint
import Micboard.ChassisProfile
import Micboard.SyncProfile
import Micboard.DeviceImport
import Micboard.ImportEffect
import Micboard.RefreshPaths
import Micboard.RefreshTransformed
import Micboard.RefreshSynced
import Micboard.RefreshImported
import Micboard.LibraryInterval
import Micboard.RegulatoryCoverage
import Micboard.QueueMetadata
import Micboard.SecretRedaction
import Micboard.SecretRestoration
import Micboard.DeviceSpecs
import Micboard.BandPlans
import Micboard.BandPlanDetection
import Micboard.ChassisCapacity
import Micboard.CapacityAgreement
import Micboard.LibraryQuery
import Micboard.SettingsManagement
import Micboard.RealtimeConnection
import Micboard.LibraryProbing
import Micboard.UnitSlots
import Micboard.MacSpelling
import Micboard.LibraryLines
import Micboard.SseLines
import Micboard.HttpClient
import Micboard.CircuitOpening
import Micboard.LibraryWindow
import Micboard.RateLimiting
import Micboard.LibraryFairShare
import Micboard.ScanFairness
import Micboard.DiscoveryFairness
import Micboard.BatteryWarnings
import Micboard.LibrarySchedule
import Micboard.SubscriptionRound
import Micboard.LibraryHoare
import Micboard.LibraryRollback
import Micboard.ApprovalBatch
import Micboard.ApprovalImport
import Micboard.ApprovalIdentity
import Micboard.ApprovalAccounting
import Micboard.ApprovalSafety
import Micboard.SerialWrites
import Micboard.SerialOwnership
import Micboard.SerialAmbiguity
import Micboard.AlertBudget
import Micboard.ChargerFingerprint
import Micboard.LibraryRanking
import Micboard.DisplayModel
import Micboard.KioskProjection
import Micboard.KioskSoundness
import Micboard.ChargerDashboard
import Micboard.KioskHealth
import Micboard.AccessPolicy
import Micboard.AccessBoundary
import Micboard.ChassisRefresh
import Micboard.RefreshIsolation
import Micboard.RealtimeUpdate
import Micboard.ShureWebsocket
import Micboard.WebsocketSafety
import Micboard.LibraryCsv
import Micboard.AuditArchive
import Micboard.AuditRetention
import Micboard.ApiServers
import Micboard.ManagedPolling
import Micboard.LibrarySource
import Micboard.ManufacturerPolling
import Micboard.SyncAccounting
import Micboard.PollAccounting
import Micboard.BoundedTransport
