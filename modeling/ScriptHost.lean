import ScriptHost.Custody.Trial
import ScriptHost.Readiness.Trial
import ScriptHost.Session.Scenario
import ScriptHost.Ticks.Trial
import ScriptHost.Proofs.Deeds
import ScriptHost.Proofs.Operations
import ScriptHost.Proofs.Turns
import ScriptHost.Proofs.Course
import ScriptHost.Proofs.Firings
import ScriptHost.Proofs.Jobs
import ScriptHost.Proofs.NextTick
import ScriptHost.Proofs.Ownership
import ScriptHost.Proofs.Partition
import ScriptHost.Proofs.Pending
import ScriptHost.Proofs.Shutdown
import ScriptHost.Proofs.Wakes
import ScriptHost.Proofs.Aftermath
import ScriptHost.Proofs.Announcement
import ScriptHost.Proofs.Happenings
import ScriptHost.Proofs.Moments
import ScriptHost.Proofs.Discipline
import ScriptHost.Proofs.Cancellation
import ScriptHost.Proofs.Deliveries
import ScriptHost.Proofs.Mending
import ScriptHost.Proofs.Carried
import ScriptHost.Proofs.Recorded
import ScriptHost.Proofs.Contained
import ScriptHost.Proofs.Undisturbed
import ScriptHost.Proofs.Hosted
import ScriptHost.Proofs.Independence
import ScriptHost.Proofs.Chronicle
import ScriptHost.Proofs.Upheld
import ScriptHost.Proofs.Chronicled
import ScriptHost.Proofs.Lifecycle
import ScriptHost.Proofs.Pausing
import ScriptHost.Proofs.Closing
import ScriptHost.Proofs.Waiting
import ScriptHost.Proofs.Calls
import ScriptHost.Proofs.Accounts
import ScriptHost.Proofs.Answers
import ScriptHost.Proofs.Strokes
import ScriptHost.Proofs.OnSchedule
import ScriptHost.Proofs.Bare
import ScriptHost.Proofs.Seen
import ScriptHost.Proofs.Discreet
import ScriptHost.Proofs.InStep
import ScriptHost.Proofs.Lockstep
import ScriptHost.Proofs.Even
import ScriptHost.Proofs.Bounds
import ScriptHost.Proofs.Charts
import ScriptHost.Proofs.Poised
import ScriptHost.Proofs.Abreast
import ScriptHost.Proofs.FirstInstant
import ScriptHost.Proofs.Intermissions
import ScriptHost.Proofs.Custodian
import ScriptHost.Proofs.Observers
import ScriptHost.Proofs.LastWork
import ScriptHost.Proofs.Turnover
import ScriptHost.Proofs.LastMessage
import ScriptHost.Proofs.Enrolment
import ScriptHost.Proofs.Modules
import ScriptHost.Proofs.Registration
import ScriptHost.Proofs.Graveyard
import ScriptHost.Proofs.Watched
import ScriptHost.Proofs.InTurn
import ScriptHost.Proofs.Unlocked
import ScriptHost.Proofs.Dispatch
import ScriptHost.Proofs.Counting
import ScriptHost.Proofs.Preparation
import ScriptHost.Proofs.Tags
import ScriptHost.Proofs.ReadBack
import ScriptHost.Proofs.Restitution
import ScriptHost.Proofs.OneByOne
