namespace Telemetry.Text

def sorted (texts : List String) : List String :=
  texts.mergeSort fun a b => decide (a ≤ b)

/-- The texts in ascending order, each of them once. -/
def sortedSet (texts : List String) : List String :=
  sorted texts.eraseDups

end Telemetry.Text
