import Boxing.Arena.Basic
import Boxing.Arena.Config
import Boxing.Arena.History
import Boxing.Binary64.Basic
import Boxing.Binary64.Order
import Boxing.Binary64.Round
import Boxing.Decimal.Layout
import Boxing.Decimal.Shortest
import Boxing.Exchange
import Boxing.Fault
import Boxing.Report.Outline
import Boxing.Report.State
import Boxing.Session.Answer
import Boxing.Session.Runs
import Boxing.Session.Script
import Boxing.Session.World
import Boxing.Storage.Page
import Boxing.Storage.Race
import Boxing.Storage.Store
import Boxing.Text.Outline
import Boxing.Text.Printable
import Boxing.Text.Quoted
import Boxing.Value.Basic
import Boxing.Value.Preload
import Boxing.Workload.Basic
import Boxing.Workload.KeyStream
import Boxing.Workload.Tally
import Boxing.Proofs.Binary64.Exact
import Boxing.Proofs.Binary64.Integral
import Boxing.Proofs.Preload.Decision
import Boxing.Proofs.Action
import Boxing.Proofs.Storage.Growth
import Boxing.Proofs.Storage.Race
import Boxing.Proofs.Preload.Fill
import Boxing.Proofs.Arena.Fresh
import Boxing.Proofs.World.Call
import Boxing.Proofs.World.Ledger
import Boxing.Proofs.World.Provenance
import Boxing.Proofs.World.Lookup
import Boxing.Proofs.Arena.Layout
import Boxing.Proofs.Arena.Respond
import Boxing.Proofs.World.Act
import Boxing.Proofs.World.Tenure
import Boxing.Proofs.Arena.Replay
import Boxing.Proofs.World.Faults
import Boxing.Proofs.Arena.Twin
import Boxing.Proofs.World.Apart
import Boxing.Proofs.Storage.Bounded
import Boxing.Proofs.Arena.Loop
import Boxing.Proofs.World.Construction
import Boxing.Proofs.Arena.FastPath
import Boxing.Proofs.Binary64.Sum
import Boxing.Proofs.Preload.Aligned
import Boxing.Proofs.Workload.Words
import Boxing.Proofs.Workload.Mixed
import Boxing.Proofs.Workload.Boxed
import Boxing.Proofs.Exchange.Parcels
import Boxing.Proofs.Exchange.Crew
import Boxing.Proofs.Exchange.ClosedForm
