import Boxing.Exchange
import Boxing.Report.State
import Boxing.Session.Script
import Boxing.Storage.Race
import Boxing.Workload.Tally

/-!
# Runs on their own

Each run starts from a new world and answers a report: looking numbers up, reading part of the
table, boxing a workload, an exchange between producers and a reader, and a race for one page.
-/

set_option autoImplicit false

namespace Boxing

namespace Runs

/-- The memory of a run. -/
def memory : Memory := Session.memory false

/-- What looking numbers up shows. -/
def lookups (ns : List Binary64) : WorldM (List (Option Hit)) := do
  let table := (← EStateM.get).table
  World.observe fun s => ns.mapM (table.hit? s)

/-- The entries of a half of the table between two positions. -/
def tableRows (h : Half) (start stop : Nat) : WorldM (List Hit) := do
  let table := (← EStateM.get).table
  World.observe fun s => table.rows s h start stop

/-- An arena error ends a run. -/
def orFail {α : Type} (answer : Except ArenaError α) : WorldM α :=
  match answer with
  | .ok a => return a
  | .error e => throw (.arena e)

/-- Boxes a workload in a new arena; answers the tally and the arena's state. -/
def boxWorkload (w : Workload) (len : Nat) (seed : UInt64) (pageCapacity : Nat) :
    WorldM (Tally × ArenaState) := do
  let table := (← EStateM.get).table
  let (t, a) ← orFail
    (← World.onStore (Tally.runNew table memory ⟨pageCapacity⟩ (w.ofSeed len seed)))
  return (t, ← World.observe a.state)

/-- What came of an exchange. -/
structure ExchangeReport where
  /-- Parcels that read back as they were boxed. -/
  intact : Nat
  /-- Parcels that share a preloaded entry. -/
  shared : Nat
  /-- The arenas of the producers that have not finished. -/
  states : List ArenaState

/-- An exchange in which the producers take turns. The configuration is checked beforehand. -/
def exchange (producers quota pageCapacity : Nat) : WorldM ExchangeReport := do
  orFail (ArenaConfig.validate ⟨pageCapacity⟩)
  let table := (← EStateM.get).table
  let e ← World.onStore do
    (← Exchange.start producers quota pageCapacity) |>
      Exchange.run table memory (Exchange.inTurns producers quota)
  let s := (← EStateM.get).store
  let arenas := e.producers.toList.filterMap Producer.arena?
  let states ← World.observe fun s => arenas.mapM (·.state s)
  return ⟨e.intact s, e.shared table, states⟩

/-- A race in which the writers take turns; answers the slots handed out and the page's state. -/
def race (writers pushes : Nat) (capacity : UInt32) : Except Fault (List Nat × PageState) :=
  let numbers := List.replicate writers (List.replicate pushes Binary64.zero)
  match Race.run (Race.inTurns writers pushes) (Race.start capacity numbers) with
  | .ok () r => return (r.slotsAnswered, ← r.page.state)
  | .error f _ => .error f

end Runs

end Boxing
