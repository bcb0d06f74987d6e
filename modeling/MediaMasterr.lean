import MediaMasterr.RuleEngine.Agreement
import MediaMasterr.Protections.ManagedProtections
import MediaMasterr.Sync.VersionMirror
import MediaMasterr.Sync.EpisodeSurvival
import MediaMasterr.Sync.SoftDelete
import MediaMasterr.Candidates.AutoDelete
import MediaMasterr.Deletion.Instances
import MediaMasterr.Deletion.SeriesRecords
import MediaMasterr.Deletion.FallbackSwitch
import MediaMasterr.Deletion.RadarrRouting
import MediaMasterr.Deletion.VersionRows
import MediaMasterr.Deletion.UnmonitoredMovies
import MediaMasterr.Deletion.Counts
import MediaMasterr.Candidates.LiveTags
import MediaMasterr.Foundations.Transactions
import MediaMasterr.Jobs.ActiveJobs
import MediaMasterr.Jobs.SingleRun
import MediaMasterr.Requests.ReviewedOnce
import MediaMasterr.Candidates.Reconcile
import MediaMasterr.Database.Shrinking
import MediaMasterr.Deletion.GoneMedia
import MediaMasterr.Foundations.Doubles
import MediaMasterr.Jobs.CandidateFileOps
import MediaMasterr.Jobs.ExecutedRequests
import MediaMasterr.Jobs.TruthfulResults
import MediaMasterr.Jobs.TaskTracking
import MediaMasterr.Requests.ProtectionRequests
import MediaMasterr.Requests.RequestScopes
import MediaMasterr.Foundations.BestScore
import MediaMasterr.Media.DecisionEngine
import MediaMasterr.Media.StatusAgreement
import MediaMasterr.Mie.DownloadsInUse
import MediaMasterr.Candidates.LazyFetching
import MediaMasterr.Candidates.Monitoring
import MediaMasterr.Foundations.FloatOrder
import MediaMasterr.RuleEngine.Complements
import MediaMasterr.RuleEngine.Explanations
import MediaMasterr.RuleEngine.TextEquality
import MediaMasterr.Mie.OperationsExecution
import MediaMasterr.Foundations.StableSort
import MediaMasterr.Mie.ExecutionAccounts
import MediaMasterr.Mie.OperationsService
import MediaMasterr.Mie.ProtectedRecommendations
import MediaMasterr.Migration.Plan
import MediaMasterr.Migration.PlanAccounts
import MediaMasterr.Foundations.SelectStatements
import MediaMasterr.Media.DecisionFilter
import MediaMasterr.Media.PagedTotals
import MediaMasterr.Foundations.Accumulators
import MediaMasterr.Foundations.Joins
import MediaMasterr.Foundations.Ranks
import MediaMasterr.Foundations.Maxima
import MediaMasterr.Candidates.RetentionRanks
import MediaMasterr.Candidates.CollectionSiblings
import MediaMasterr.Candidates.Mirror
import MediaMasterr.Candidates.RequesterWatch
import MediaMasterr.Candidates.ManagedTags
import MediaMasterr.Sync.ArrDates
import MediaMasterr.Sync.SeasonReports
import MediaMasterr.Playback.History
import MediaMasterr.Playback.Conservation
import MediaMasterr.Playback.Coverage
import MediaMasterr.Filesystem.MappingAgreement
import MediaMasterr.Candidates.Collectors
import MediaMasterr.Candidates.ProtectedScans
import MediaMasterr.Candidates.ScopeRuns
import MediaMasterr.Candidates.NamedRows
import MediaMasterr.Candidates.KeptScopes
import MediaMasterr.Foundations.Forests
import MediaMasterr.Foundations.Upserts
import MediaMasterr.Foundations.FileTrees
import MediaMasterr.RuleEngine.Validation
import MediaMasterr.RuleEngine.Answers
import MediaMasterr.RuleEngine.LibraryScope
import MediaMasterr.Rules.PathValidation
import MediaMasterr.Rules.RuleActions
import MediaMasterr.Rules.PathTree
import MediaMasterr.Candidates.SeerrSnapshots
import MediaMasterr.Candidates.SeerrResolver
import MediaMasterr.Playback.Ledger
import MediaMasterr.Playback.ImportLaws
import MediaMasterr.Sync.Gathering
import MediaMasterr.Filesystem.Siblings
import MediaMasterr.Deletion.SonarrAnswers
import MediaMasterr.Deletion.EmptySeries
import MediaMasterr.Deletion.OtherVersions
import MediaMasterr.Foundations.LikePatterns
import MediaMasterr.Media.FilterMeaning
import MediaMasterr.Media.ImportedUnion
import MediaMasterr.Media.FilterSync
import MediaMasterr.Deletion.SeasonFolders
import MediaMasterr.Media.CandidatePages
import MediaMasterr.Snapshots.FavoritesMirror
import MediaMasterr.Playback.SupplementalMerge
import MediaMasterr.Snapshots.WatchRuns
import MediaMasterr.Mie.WorkflowAssets
import MediaMasterr.Mie.OverviewCounts
import MediaMasterr.Mie.PlanTitles
import MediaMasterr.Mie.DownloadTotals
import MediaMasterr.Mie.FileOwners
import MediaMasterr.Mie.CanonicalProviders
import MediaMasterr.Foundations.WordPatterns
import MediaMasterr.Correlation.TorrentNames
import MediaMasterr.Correlation.EpisodeNames
import MediaMasterr.Correlation.TorrentMatch
import MediaMasterr.Correlation.TorrentOwners
import MediaMasterr.Protections.ProtectionStatistics
import MediaMasterr.Mie.CanonicalFolder
import MediaMasterr.Foundations.LongestMatch
import MediaMasterr.Foundations.FallibleSort
import MediaMasterr.Requests.CoveredRequests
import MediaMasterr.Migration.RootMappings
import MediaMasterr.RuleEngine.DiskStats
import MediaMasterr.Media.RulePreview
import MediaMasterr.Accounts.SessionGrants
import MediaMasterr.Accounts.Administrators
import MediaMasterr.Services.MainServer
