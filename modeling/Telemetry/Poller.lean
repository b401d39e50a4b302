import Telemetry.Registry

namespace Telemetry

/-- A binding, and when it was last read. -/
structure Slot where
  binding : Binding
  lastRead : Option Int := none
deriving DecidableEq, Repr

namespace Slot

def isDue (slot : Slot) (now : Int) : Bool :=
  match slot.lastRead with
  | none => true
  | some last => decide (last + slot.binding.refresh ≤ now)

def stamped (slot : Slot) (now : Int) : Slot :=
  if slot.isDue now then { slot with lastRead := some now } else slot

end Slot

structure Publication where
  binding : Binding
  reading : Reading
deriving DecidableEq, Repr

/-- A poller: its bindings by position, because their names need not differ. -/
structure Poller where
  slots : List Slot
deriving DecidableEq, Repr

namespace Poller

def ofBindings (bindings : List Binding) : Poller :=
  ⟨bindings.map fun binding => { binding }⟩

def due (poller : Poller) (now : Int) : List Binding :=
  (poller.slots.filter (·.isDue now)).map (·.binding)

/-- Adds a binding to those of its server; servers stand in the order in which they first occur. -/
def addTo (byServer : Keyed String (List Binding)) (binding : Binding) :
    Keyed String (List Binding) :=
  byServer.put binding.server ((byServer.lookup binding.server).getD [] ++ [binding])

def byServer (bindings : List Binding) : Keyed String (List Binding) :=
  bindings.foldl addTo []

/-- Reads a binding. That there is no value is reported. -/
def readBinding (registry : Registry) (binding : Binding) :
    Online (Registry × List Publication) := do
  let (registry, reading) ← registry.reading (.text binding.server) binding.channel binding.kind
  match reading with
  | some reading => pure (registry, [⟨binding, reading⟩])
  | none =>
    Online.note ⟨.debug, .poller, "No update for " ++ binding.name ++ " this tick"⟩
    pure (registry, [])

def readBindings (registry : Registry) : List Binding → Online (Registry × List Publication)
  | [] => pure (registry, [])
  | binding :: bindings => do
    let (registry, first) ← readBinding registry binding
    let (registry, rest) ← readBindings registry bindings
    pure (registry, first ++ rest)

def stamped (poller : Poller) (now : Int) : Poller :=
  ⟨poller.slots.map (·.stamped now)⟩

/-- The bindings to read at a tick, in the order in which they are read. -/
def agenda (poller : Poller) (now : Int) : List Binding :=
  (byServer (poller.due now)).flatMap Prod.snd

/-- Reads every binding that is due, and gives the values to publish. -/
def tick (poller : Poller) (registry : Registry) :
    Online ((Poller × Registry) × List Publication) := do
  let now ← Online.now
  let (registry, published) ← readBindings registry (poller.agenda now)
  pure ((poller.stamped now, registry), published)

/-- What a run leaves: the poller and the registry, what was published, how long each wait was in
seconds, and the fault that ended it early if there was one. -/
structure Run where
  poller : Poller
  registry : Registry
  published : List Publication := []
  waits : List Binary64 := []
  fault : Option Fault := none

/-- How far a wait of some seconds moves the clock. -/
def waitMillis (seconds : Binary64) : Int :=
  (seconds.mul .thousand).truncate?.getD 0

/-- Ticks and waits in turn. A time that is too long to wait ends the run. -/
def run (granularity : Int) : (ticks : Nat) → Run → Online Run
  | 0, state => pure state
  | ticks + 1, state => do
    let ((poller, registry), published) ← state.poller.tick state.registry
    let state := { state with poller, registry, published := state.published ++ published }
    match seconds granularity with
    | .error fault => pure { state with fault := some fault }
    | .ok seconds =>
      Online.wait (waitMillis seconds)
      run granularity ticks { state with waits := state.waits ++ [seconds] }

end Poller

end Telemetry
