import Boxing.Arena.Basic

/-!
# Producers and a reader

Several producers box numbers, each in an arena of its own, and send the references through a
channel to one reader. A producer that has boxed all its numbers may finish, which leaves the
counters of its arena and nothing else of it. All this happens in any order; the channel delivers
each reference once, in whatever order. `Exchange.step` makes one event happen and `Exchange.run` a
whole sequence of them. The reader compares what it reads with what was boxed (`Exchange.intact`)
and with the preloaded integers (`Exchange.shared`).

Even positions carry small integers, which are preloaded, and odd ones half steps, which are not.
-/

set_option autoImplicit false

namespace Boxing

/-- A reference on its way, with its producer and its position in that producer's sequence. -/
structure Parcel where
  producer : Nat
  position : Nat
  ref : NumberRef
  deriving DecidableEq, Repr

/-- The number that a producer boxes at a position: a small integer at even positions, and at odd
ones a half step from a range of a million that belongs to the producer. -/
def Parcel.number (producer position : Nat) : Binary64 :=
  if position % 2 = 0 then Binary64.ofNat (position % 200)
  else (((Binary64.ofNat producer).mul (.ofNat 1000000)).add (.ofNat position)).add .half

def Parcel.expected (p : Parcel) : Binary64 := Parcel.number p.producer p.position

/-- One of the producers. -/
inductive Producer where
  /-- It has an arena, in which it has boxed the first `made` of its numbers. -/
  | working (arena : Arena) (made : Nat)
  /-- It has boxed all its numbers, and its arena is gone. -/
  | finished (stats : ArenaStats)
  deriving DecidableEq, Repr

namespace Producer

def arena? : Producer → Option Arena
  | working arena _ => some arena
  | finished _ => none

/-- The counters of the arena, those at the end if it is gone. -/
def stats (s : Store) : Producer → ArenaStats
  | working arena _ => arena.stats s
  | finished stats => stats

/-- How many of `quota` numbers have been boxed. -/
def made (quota : Nat) : Producer → Nat
  | working _ made => made
  | finished _ => quota

end Producer

/-- Producers, channel and reader. -/
structure Exchange where
  /-- How many numbers each producer boxes. -/
  quota : Nat
  producers : Array Producer
  /-- Parcels that were sent and not yet delivered. -/
  channel : List Parcel
  /-- Parcels that the reader has, the last one first. -/
  received : List Parcel
  deriving DecidableEq, Repr

inductive Event where
  /-- A producer boxes its next number and sends it; nothing if it has boxed all. -/
  | box (producer : Nat)
  /-- A producer that has boxed all its numbers lets go of its arena; nothing if it has not. -/
  | finish (producer : Nat)
  /-- The parcel at a position in the channel reaches the reader; nothing if there is none. -/
  | deliver (position : Nat)
  deriving DecidableEq, Repr

namespace Exchange

def newProducers (pageCapacity : Nat) : Nat → StoreM (List Producer)
  | 0 => return []
  | count + 1 => do
    let arena ← Arena.new pageCapacity
    return .working arena 0 :: (← newProducers pageCapacity count)

def start (count quota pageCapacity : Nat) : StoreM Exchange := do
  return ⟨quota, (← newProducers pageCapacity count).toArray, [], []⟩

/-- One event. A producer cannot go on without a page, so a refusal is a fault. -/
def step (table : PreloadTable) (memory : Memory) (e : Exchange) : Event → StoreM Exchange
  | .box producer => do
    match e.producers[producer]? with
    | some (.working arena made) =>
      if made < e.quota then
        match ← arena.box table memory (Parcel.number producer made) with
        | (.error error, _) => throw (.arena error)
        | (.ok ref, arena) =>
          return { e with
            producers := e.producers.setIfInBounds producer (.working arena (made + 1))
            channel := e.channel ++ [⟨producer, made, ref⟩] }
      else return e
    | _ => return e
  | .finish producer => do
    match e.producers[producer]? with
    | some (.working arena made) =>
      if made = e.quota then
        let stats := arena.stats (← EStateM.get)
        return { e with producers := e.producers.setIfInBounds producer (.finished stats) }
      else return e
    | _ => return e
  | .deliver position =>
    match e.channel[position]? with
    | some parcel =>
      return { e with
        channel := e.channel.eraseIdx position
        received := parcel :: e.received }
    | none => return e

def run (table : PreloadTable) (memory : Memory) : List Event → Exchange → StoreM Exchange
  | [], e => return e
  | event :: rest, e => do run table memory rest (← e.step table memory event)

/-- Every number has been boxed and delivered. -/
def isDone (e : Exchange) : Bool :=
  e.channel.isEmpty && e.producers.all fun p => p.made e.quota == e.quota

/-- A parcel whose number reads back as it was boxed. -/
def reads (s : Store) (p : Parcel) : Bool :=
  match p.ref.get s with
  | .ok n => n == p.expected
  | .error _ => false

/-- A parcel that shares the preloaded entry of its number. -/
def sharesEntry (table : PreloadTable) (p : Parcel) : Bool :=
  match table.get? p.expected with
  | .ok (some entry) => p.ref.aliases entry
  | _ => false

def intact (s : Store) (e : Exchange) : Nat := e.received.countP (reads s)

def shared (table : PreloadTable) (e : Exchange) : Nat := e.received.countP (sharesEntry table)

/-- A sequence of events in which the producers take turns and each parcel is delivered at once. -/
def inTurns (count quota : Nat) : List Event :=
  (List.range quota).flatMap fun _ => (List.range count).flatMap fun p => [.box p, .deliver 0]

end Exchange

end Boxing
