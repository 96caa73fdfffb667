import ByteLedger.Storage.Buffer
import ByteLedger.Storage.Paged

set_option autoImplicit false

/-!
# Ledgers of either kind

Where the kind of a ledger is chosen at run time it is a `Ledger`: one in a buffer or
one in pages. Each operation is that of the kind.
-/

namespace ByteLedger

/-- A ledger of either kind. -/
inductive Ledger where
  | buffer (l : BufferLedger)
  | paged (l : PagedLedger)
  deriving Repr, Inhabited

namespace Ledger

instance : Storage Ledger where
  dataStart
    | buffer l => Storage.dataStart l
    | paged l => Storage.dataStart l
  capacity
    | buffer l => Storage.capacity l
    | paged l => Storage.capacity l
  nextWrite
    | buffer l => Storage.nextWrite l
    | paged l => Storage.nextWrite l
  read
    | buffer l => Storage.read l
    | paged l => Storage.read l
  write
    | buffer l, offset, data =>
      let (result, l) := Storage.write l offset data
      (result, buffer l)
    | paged l, offset, data =>
      let (result, l) := Storage.write l offset data
      (result, paged l)
  refresh
    | buffer l =>
      let (result, l) := Storage.refresh l
      (result, buffer l)
    | paged l =>
      let (result, l) := Storage.refresh l
      (result, paged l)

end Ledger

end ByteLedger
