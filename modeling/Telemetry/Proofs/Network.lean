import Telemetry.Network

namespace Telemetry.Network

/-- The page that the first request between two states of the network brought, if one was made and
did not fail. -/
def firstPage (before after : Network) : Option String :=
  after.requests[before.requests.length]?.bind fun request => (before.answerFor request.url).page

theorem firstPage_of_requests_eq {before after : Network}
    (hrequests : after.requests = before.requests) : before.firstPage after = none := by
  simp [firstPage, hrequests]

@[simp] theorem answerFor_readIf (network : Network) (needed : Bool) (url : String) :
    (network.readIf needed).answerFor url = network.answerFor url := by
  cases needed with
  | false => rfl
  | true => rfl

@[simp] theorem requests_readIf (network : Network) (needed : Bool) :
    (network.readIf needed).requests = network.requests := by
  cases needed with
  | false => rfl
  | true => rfl

@[simp] theorem requests_reported (network : Network) (journal : Log.Journal) :
    (network.reported journal).requests = network.requests :=
  rfl

@[simp] theorem requests_asked (network : Network) (url : String) (timeout : Int) :
    (network.asked url timeout).requests = network.requests ++ [⟨url, timeout⟩] :=
  rfl

theorem firstPage_reported (network : Network) (needed : Bool) (journal : Log.Journal) :
    network.firstPage ((network.readIf needed).reported journal) = none :=
  firstPage_of_requests_eq (by simp)

theorem firstPage_asked {before after : Network} {needed : Bool} {url : String} {timeout : Int}
    (hrequests : after.requests = ((before.readIf needed).asked url timeout).requests) :
    before.firstPage after = (before.answerFor url).page := by
  simp [firstPage, hrequests]

end Telemetry.Network
