import Telemetry.Binary64.Printer
import Telemetry.Log

namespace Telemetry

/-- What a request meets: a page or a failure, after a while. -/
structure Answer where
  page : Option String
  delay : Int
deriving DecidableEq, Repr

namespace Answer

def failed : Answer := ⟨none, 0⟩

end Answer

/-- A request for a page, with its timeout in milliseconds. -/
structure Request where
  url : String
  timeout : Int
deriving DecidableEq, Repr

/-- An attempt to reach a server, with its timeout in seconds. -/
structure Ping where
  host : String
  port : Int
  seconds : Binary64
deriving DecidableEq, Repr

/-- The network and what has been done with it. -/
structure Network where
  /-- The time in milliseconds. -/
  now : Int
  /-- What a request for a url meets, given the number of requests made before it. -/
  answer : Nat → String → Answer
  /-- Can a server be reached at a port? -/
  reaches : String → Int → Bool
  /-- How far the clock moves on its own before it is read, given the number of readings made before. -/
  drift : Nat → Int := fun _ => 0
  /-- How often the clock has been read so far. -/
  readings : Nat := 0
  /-- The requests so far. -/
  requests : List Request := []
  /-- The servers that were tried so far. -/
  pings : List Ping := []
  /-- What has been reported so far. -/
  journal : Log.Journal := []

abbrev Online := StateM Network

namespace Network

/-- A network of which nothing has been asked yet, at a given time. -/
def quiet (network : Network) : Network :=
  { network with readings := 0, requests := [], pings := [], journal := [] }

/-- What the clock shows when it is read next. -/
def reading (network : Network) : Int :=
  network.now + network.drift network.readings

def read (network : Network) : Network :=
  { network with now := network.reading, readings := network.readings + 1 }

/-- The network after the clock was read, where it had to be. -/
def readIf (network : Network) (needed : Bool) : Network :=
  if needed then network.read else network

/-- What a request for a url meets when it is made next. -/
def answerFor (network : Network) (url : String) : Answer :=
  network.answer network.requests.length url

def asked (network : Network) (url : String) (timeout : Int) : Network :=
  { network with
    now := network.now + (network.answerFor url).delay
    requests := network.requests ++ [⟨url, timeout⟩] }

/-- The network after some more was reported. -/
def reported (network : Network) (journal : Log.Journal) : Network :=
  { network with journal }

/-- Does what a request meets depend on its url alone? -/
def IsSteady (network : Network) : Prop :=
  ∀ earlier later url, network.answer earlier url = network.answer later url

end Network

namespace Online

def noting {α : Type} (act : Log.Noting α) : Online α := fun network =>
  let (result, journal) := act.run network.journal
  (result, network.reported journal)

instance : MonadLift Log.Noting Online where
  monadLift := noting

def note (entry : Log.Entry) : Online Unit :=
  modify fun network => network.reported (network.journal ++ [entry])

def now : Online Int := fun network =>
  (network.reading, network.read)

/-- Requests a page. The clock moves before the answer is there. -/
def fetch (url : String) (timeout : Int) : Online (Option String) := fun network =>
  ((network.answerFor url).page, network.asked url timeout)

def ping (host : String) (port : Int) (seconds : Binary64) : Online Bool := fun network =>
  (network.reaches host port, { network with pings := network.pings ++ [⟨host, port, seconds⟩] })

def wait (millis : Int) : Online Unit :=
  modify fun network => { network with now := network.now + millis }

@[simp] theorem run_pure {α : Type} (value : α) (network : Network) :
    (pure value : Online α).run network = (value, network) :=
  (rfl)

@[simp] theorem run_bind {α β : Type} (act : Online α) (next : α → Online β) (network : Network) :
    (act >>= next).run network = (next (act.run network).1).run (act.run network).2 :=
  (rfl)

@[simp] theorem run_map {α β : Type} (f : α → β) (act : Online α) (network : Network) :
    (f <$> act).run network = (f (act.run network).1, (act.run network).2) :=
  (rfl)

@[simp] theorem run_noting {α : Type} (act : Log.Noting α) (network : Network) :
    (noting act).run network =
      ((act.run network.journal).1, network.reported (act.run network.journal).2) :=
  (rfl)

@[simp] theorem run_liftM {α : Type} (act : Log.Noting α) (network : Network) :
    (liftM act : Online α).run network =
      ((act.run network.journal).1, network.reported (act.run network.journal).2) :=
  (rfl)

@[simp] theorem run_note (entry : Log.Entry) (network : Network) :
    (note entry).run network = ((), network.reported (network.journal ++ [entry])) :=
  (rfl)

@[simp] theorem run_now (network : Network) : now.run network = (network.reading, network.read) :=
  (rfl)

@[simp] theorem run_fetch (url : String) (timeout : Int) (network : Network) :
    (fetch url timeout).run network = ((network.answerFor url).page, network.asked url timeout) :=
  (rfl)

end Online

end Telemetry
