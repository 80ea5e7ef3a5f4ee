import RequestFilter.Main
import RequestFilter.Tester.Manager
import RequestFilter.Proofs.LiteralRules
import RequestFilter.Proofs.WildcardRules
import RequestFilter.Proofs.AnchoredRules
import RequestFilter.Proofs.Recall
import RequestFilter.Proofs.Recompiling
import RequestFilter.Proofs.RepeatedLoads
import RequestFilter.Proofs.Refetch
import RequestFilter.Proofs.CachedBlocks
import RequestFilter.Proofs.Engine
import RequestFilter.Proofs.SharedKeys
import RequestFilter.Proofs.Representation
import RequestFilter.Proofs.IndependentLists
import RequestFilter.Proofs.Fetches
import RequestFilter.Proofs.EndedFetches
import RequestFilter.Proofs.Directories
import RequestFilter.Proofs.Reloads
import RequestFilter.Proofs.Accounts
import RequestFilter.Proofs.SplitLists
import RequestFilter.Proofs.Places
import RequestFilter.Proofs.Confinement
import RequestFilter.Proofs.OwnLists
import RequestFilter.Proofs.CheckedRequests
import RequestFilter.Proofs.WrittenText
import RequestFilter.Proofs.SavedLists
import RequestFilter.Proofs.Outcomes
import RequestFilter.Proofs.Draining
import RequestFilter.Proofs.StaleSources
import RequestFilter.Proofs.HiddenPlaces
import RequestFilter.Proofs.UnsavedLists
import RequestFilter.Proofs.GlobFiling
import RequestFilter.Proofs.Evaluations
import RequestFilter.Proofs.QuietGlobs
import RequestFilter.Proofs.IdleLines
import RequestFilter.Proofs.BracketedColons
import RequestFilter.Proofs.SpacedDomains
import RequestFilter.Proofs.Stylesheets
import RequestFilter.Proofs.BareLines
import RequestFilter.Proofs.RuleFlags
import RequestFilter.Proofs.LineEnds
import RequestFilter.Proofs.BenchmarkCounts
import RequestFilter.Proofs.WrittenConfigs
import RequestFilter.Proofs.WindowPositions
import RequestFilter.Proofs.LiteralCuts
