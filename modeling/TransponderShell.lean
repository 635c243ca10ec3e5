import TransponderShell.Command.Lemmas
import TransponderShell.Completion.Lemmas
import TransponderShell.Daemon.FeedLemmas
import TransponderShell.Main
import TransponderShell.Shell.Tab
import TransponderShell.Simulator.Lemmas
import TransponderShell.Text.Lemmas
import TransponderShell.Text.NumeralLemmas
import TransponderShell.Proofs.Completion.PartialWord
import TransponderShell.Proofs.Command.Offered
import TransponderShell.Proofs.Command.Expansion
import TransponderShell.Proofs.Daemon.Effect
import TransponderShell.Proofs.Simulator.Slots
import TransponderShell.Proofs.Simulator.Sound
import TransponderShell.Proofs.Simulator.Requests
import TransponderShell.Proofs.Daemon.Calls
import TransponderShell.Proofs.Simulator.Runs
import TransponderShell.Proofs.Command.Answers
import TransponderShell.Proofs.Daemon.Ids
import TransponderShell.Proofs.Shell.Execute
import TransponderShell.Proofs.Simulator.Freshness
import TransponderShell.Proofs.Simulator.Questions
import TransponderShell.Proofs.Shell.Removing
import TransponderShell.Proofs.Shell.Calls
import TransponderShell.Proofs.Shell.Contexts
import TransponderShell.Proofs.Shell.Sessions
import TransponderShell.Proofs.Shell.Stack
import TransponderShell.Proofs.Completion.Arguments
import TransponderShell.Proofs.Command.Arguments
import TransponderShell.Proofs.Command.Resolved
import TransponderShell.Proofs.Command.Abbreviation
import TransponderShell.Proofs.Shell.Opened
import TransponderShell.Proofs.Shell.WriteErrors
import TransponderShell.Proofs.Shell.Output
import TransponderShell.Proofs.Shell.Tabs
import TransponderShell.Proofs.Simulator.Catalogue
import TransponderShell.Proofs.Shell.Writing
import TransponderShell.Proofs.Daemon.Failing
import TransponderShell.Proofs.Shell.Related
import TransponderShell.Proofs.Shell.Failing
import TransponderShell.Proofs.Daemon.Lockstep
import TransponderShell.Proofs.Shell.Observed
import TransponderShell.Proofs.Shell.Spellings
import TransponderShell.Proofs.Shell.Recorded
import TransponderShell.Proofs.Shell.Usages
import TransponderShell.Proofs.Command.Unasked
import TransponderShell.Proofs.Shell.Guarded
import TransponderShell.Proofs.Simulator.Furnishing
import TransponderShell.Proofs.Simulator.Atomic
import TransponderShell.Proofs.Simulator.Seeding
import TransponderShell.Proofs.Text.ByteOrder
import TransponderShell.Proofs.Simulator.Fixtures
import TransponderShell.Proofs.Simulator.Objects
import TransponderShell.Proofs.Simulator.Stored
import TransponderShell.Proofs.Simulator.Constants
import TransponderShell.Proofs.Shell.Reading
import TransponderShell.Proofs.Shell.RoundTrip
import TransponderShell.Proofs.Command.Added
import TransponderShell.Proofs.Shell.Edited
import TransponderShell.Proofs.Text.Encoding
import TransponderShell.Proofs.Shell.FrontEnds
import TransponderShell.Proofs.Simulator.Created
import TransponderShell.Proofs.Simulator.Undone
import TransponderShell.Proofs.Shell.Followed
import TransponderShell.Proofs.Json.Printed
import TransponderShell.Proofs.Json.RoundTrip
import TransponderShell.Proofs.Shell.JsonValues
import TransponderShell.Proofs.Command.Replaced
import TransponderShell.Proofs.Shell.Spliced
import TransponderShell.Proofs.Command.Help
import TransponderShell.Proofs.Shell.Aligned
