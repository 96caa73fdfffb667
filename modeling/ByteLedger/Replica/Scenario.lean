import ByteLedger.Remote.InProcess
import ByteLedger.Replica.Basic
import ByteLedger.Storage.Buffer

set_option autoImplicit false

/-!
# Catching up

The scenario for which replicas are made: a ledger holds the first bytes of another that
begins at the same offset, and follows it.
-/

namespace ByteLedger

/-- A ledger that holds a part of what a remote holds. -/
structure Scenario where
  /-- Where both data partitions begin. -/
  dataStart : Offset
  /-- All that the remote holds. -/
  contents : Bytes
  /-- How many of these bytes are held here. -/
  held : Nat
  /-- The window size of the remote. -/
  window : Offset
  deriving DecidableEq, Repr, Inhabited

namespace Scenario

/-- The bytes that are held here at first. -/
def heldContents (s : Scenario) : Bytes := s.contents.take s.held

/-- The remote. -/
def remote (s : Scenario) : Hosted BufferLedger where
  storage := (BufferLedger.ofContents s.dataStart 0 s.contents).refresh
  options := { limit := s.window }

/-- The replica before its first sync. -/
def replica (s : Scenario) : Replica BufferLedger (Hosted BufferLedger) where
  storage := (BufferLedger.ofContents s.dataStart 0 s.heldContents).refresh
  remote := s.remote

end Scenario

end ByteLedger
