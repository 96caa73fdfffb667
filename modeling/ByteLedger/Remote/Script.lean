import ByteLedger.Remote.Basic

set_option autoImplicit false

/-!
# Scripted remotes

A script answers each request with the next of its lines, whatever is asked for, and
keeps the requests. When the lines have run out every fetch fails.
-/

namespace ByteLedger

/-- One line of a script. -/
structure ScriptLine where
  /-- The nanoseconds until the delivery; none if it never comes. -/
  delay : Option Nat := some 0
  outcome : Except SyncError Response

/-- A remote that answers from a fixed list. -/
structure Script where
  /-- The lines that are left. -/
  lines : List ScriptLine := []
  /-- The requests received, in order. -/
  requests : List Request := []

namespace Script

/-- The answer to one more request. -/
def next (s : Script) (request : Request) : Delivery Script :=
  match s.lines with
  | [] =>
    { outcome := .error (.transport "script exhausted")
      remote := { s with requests := s.requests ++ [request] } }
  | line :: rest =>
    { delay := line.delay
      outcome := line.outcome
      remote := { lines := rest, requests := s.requests ++ [request] } }

instance : Remote Script where
  fetch := next

end Script

end ByteLedger
