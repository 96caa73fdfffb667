import ByteLedger.Storage.Basic

set_option autoImplicit false

/-!
# Journaled storage

A storage that counts its refreshes and notes the offset of each write, also of writes
and refreshes that fail. The journal begins when the storage is ready for use.
-/

namespace ByteLedger

/-- A storage with a journal of what is done to it. -/
structure Journaled (σ : Type) where
  storage : σ
  /-- The offsets of the writes, in order. -/
  writes : List Offset := []
  /-- The number of refreshes. -/
  refreshes : Nat := 0
  deriving Repr, Inhabited

namespace Journaled

variable {σ : Type} [Storage σ]

instance : Storage (Journaled σ) where
  dataStart j := Storage.dataStart j.storage
  capacity j := Storage.capacity j.storage
  nextWrite j := Storage.nextWrite j.storage
  read j := Storage.read j.storage
  write j offset data :=
    let (result, storage) := Storage.write j.storage offset data
    (result, { j with storage, writes := j.writes ++ [offset] })
  refresh j :=
    let (result, storage) := Storage.refresh j.storage
    (result, { j with storage, refreshes := j.refreshes + 1 })

/-- Makes a storage ready for use and begins its journal. -/
def ofStorage (s : σ) : Except StorageError (Journaled σ) :=
  match Storage.load s with
  | .error e => .error e
  | .ok storage => .ok { storage }

end Journaled

end ByteLedger
