import BadgeEngine.Proofs.OncePerWindow
import BadgeEngine.Rehearsal.Run
import BadgeEngine.Document
import BadgeEngine.Settings
import BadgeEngine.Proofs.AwardCap
import BadgeEngine.Proofs.Calendar
import BadgeEngine.Proofs.InstantText
import BadgeEngine.Proofs.Entries
import BadgeEngine.Proofs.Order
import BadgeEngine.Proofs.Reload
import BadgeEngine.Proofs.CounterKey
import BadgeEngine.Proofs.Standing
import BadgeEngine.Proofs.LifecycleRuns
import BadgeEngine.Proofs.Repetition
import BadgeEngine.Proofs.Forgiving
import BadgeEngine.Proofs.Frames
import BadgeEngine.Proofs.Evolution
import BadgeEngine.Proofs.Rollovers
import BadgeEngine.Proofs.Settling
import BadgeEngine.Proofs.Survival
import BadgeEngine.Proofs.ProfileStore
import BadgeEngine.Proofs.SavedStarts
import BadgeEngine.Proofs.Refusals
import BadgeEngine.Proofs.Outline
import BadgeEngine.Proofs.Twins
import BadgeEngine.Proofs.Reentrancy
import BadgeEngine.Proofs.FailingRules
import BadgeEngine.Proofs.Restarts
import BadgeEngine.Proofs.RuleOrder
import BadgeEngine.Proofs.Convergence
import BadgeEngine.Proofs.ClockChanges
import BadgeEngine.Proofs.Buckets
import BadgeEngine.Proofs.Stays
import BadgeEngine.Proofs.KeyOrder
import BadgeEngine.Proofs.Trackers
import BadgeEngine.Proofs.Marks
import BadgeEngine.Proofs.Queries
import BadgeEngine.Proofs.Warnings
import BadgeEngine.Proofs.Tidying
import BadgeEngine.Proofs.Vocabulary
import BadgeEngine.Proofs.InstantOrder
import BadgeEngine.Proofs.PropertySums
import BadgeEngine.Proofs.RuleSets
import BadgeEngine.Proofs.Provenance
import BadgeEngine.Proofs.Counters
