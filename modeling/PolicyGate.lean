import PolicyGate.Interleaving.Program
import PolicyGate.Interleaving.RelyGuarantee
import PolicyGate.Interleaving.Guest
import PolicyGate.Time
import PolicyGate.Decision
import PolicyGate.Config
import PolicyGate.Entry.Word
import PolicyGate.Entry.Snapshot
import PolicyGate.Entry.Log
import PolicyGate.Data.Lru
import PolicyGate.Gate.State
import PolicyGate.Gate.Entry
import PolicyGate.Gate.SubjectMap
import PolicyGate.Gate.Operations
import PolicyGate.Gate.Admit
import PolicyGate.Gate.Watcher
import PolicyGate.Gate.System
import PolicyGate.Interleaving.Debts
import PolicyGate.Gate.Aborts
import PolicyGate.Gate.Prompt
import PolicyGate.Gate.Invariant
import PolicyGate.Gate.Solo
import PolicyGate.Data.Related
import PolicyGate.Gate.Rely
import PolicyGate.Preservation.Allocation
import PolicyGate.Preservation.Cells
import PolicyGate.Preservation.Flights
import PolicyGate.Preservation.Map
import PolicyGate.Preservation.Periphery
import PolicyGate.Preservation.Publications
import PolicyGate.Preservation.Slots
import PolicyGate.Preservation.Transfer
import PolicyGate.Preservation.Watch
import PolicyGate.Preservation.Queue
import PolicyGate.Specs.Knowledge
import PolicyGate.Specs.Publish
import PolicyGate.Specs.Fetch
import PolicyGate.Specs.Lookup
import PolicyGate.Specs.Access
import PolicyGate.Specs.Admit
import PolicyGate.Specs.Session
import PolicyGate.Specs.Watcher
import PolicyGate.Specs.Calls
import PolicyGate.Specs.Guest
import PolicyGate.Stream.Body
import PolicyGate.Stream.Record
import PolicyGate.Stream.Knowledge
import PolicyGate.Stream.Specs
import PolicyGate.Stream.Calls
import PolicyGate.Stream.Runs
import PolicyGate.Layer.Middleware
import PolicyGate.Layer.Specs
import PolicyGate.Properties.Lifetimes
import PolicyGate.Properties.Announcements
import PolicyGate.Properties.Recency
import PolicyGate.Properties.Runs
import PolicyGate.Properties.Agreement
import PolicyGate.Properties.Sessions
import PolicyGate.Properties.Removal
import PolicyGate.Properties.FastPath
import PolicyGate.Properties.Freshness
import PolicyGate.Interleaving.Frame
import PolicyGate.Properties.Refreshes
import PolicyGate.Properties.Streams
import PolicyGate.Properties.Middleware
import PolicyGate.Interleaving.Alone
import PolicyGate.Interleaving.Record
import PolicyGate.Properties.Deadlines
import PolicyGate.Watcher.Steady
import PolicyGate.Watcher.Record
import PolicyGate.Watcher.Laws
import PolicyGate.Watcher.Specs
import PolicyGate.Properties.Outages
import PolicyGate.TonicSource
import PolicyGate.Properties.Wire
import PolicyGate.Properties.Overflow
import PolicyGate.Properties.Acceptance
import PolicyGate.Entry.Lifecycle
import PolicyGate.Properties.Lifecycles
import PolicyGate.Properties.Lookups
import PolicyGate.Properties.CriticalSections
import PolicyGate.Properties.Answers
import PolicyGate.Properties.RefreshQueue
import PolicyGate.Properties.Shutdown
import PolicyGate.Properties.Cooldowns
