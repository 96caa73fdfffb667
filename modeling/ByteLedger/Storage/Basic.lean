import ByteLedger.Bytes
import ByteLedger.Geometry.Basic
import ByteLedger.Storage.Error

set_option autoImplicit false

/-!
# Storage

What a ledger's bytes are kept in. Everything that syncs or serves a ledger talks to
its storage through the class `Storage`, and so works with every kind of it.

A write is readable at once, but the first free offset that a storage reports is the
one of its last refresh. A write past the capacity makes the storage grow. Operations
that may change a storage give it back also where they fail.
-/

namespace ByteLedger

/-- The operations of a ledger's storage. -/
class Storage (σ : Type) where
  /-- Where the data partition begins. -/
  dataStart : σ → Except StorageError Offset
  /-- The number of bytes that the storage has. -/
  capacity : σ → Except StorageError Offset
  /-- The first free offset as of the last refresh. -/
  nextWrite : σ → Except StorageError Offset
  /-- The `len` bytes from `offset` on; bytes that were never written are zero. -/
  read : σ → (offset len : Offset) → Except StorageError Bytes
  /-- Writes `data` at `offset` and grows if needed. -/
  write : σ → (offset : Offset) → (data : Bytes) → Except StorageError Unit × σ
  /-- Makes `nextWrite` count every completed write. -/
  refresh : σ → Except StorageError Unit × σ

namespace Storage

variable {σ : Type} [Storage σ]

/-- The geometry of a storage: its three extents, asked for one after the other. -/
def geometry (s : σ) : Except StorageError Geometry :=
  match dataStart s with
  | .error e => .error e
  | .ok dataStart =>
    match capacity s with
    | .error e => .error e
    | .ok capacity =>
      match nextWrite s with
      | .error e => .error e
      | .ok nextWrite => .ok { dataStart, capacity, nextWrite }

/-- A write followed by a refresh, so that the write counts at once. -/
def append (s : σ) (offset : Offset) (data : Bytes) : Except StorageError Unit × σ :=
  match write s offset data with
  | (.ok (), s) => refresh s
  | (.error e, s) => (.error e, s)

/-- Makes a storage ready for use: refreshes it and sees that its geometry can be read. -/
def load (s : σ) : Except StorageError σ :=
  match refresh s with
  | (.error e, _) => .error e
  | (.ok (), s) =>
    match geometry s with
    | .error e => .error e
    | .ok _ => .ok s

end Storage

/-- A failed change of a storage leaves it as it was. -/
def Storage.orKeep {σ : Type} (s : σ) : Except StorageError σ → Except StorageError Unit × σ
  | .ok s => (.ok (), s)
  | .error e => (.error e, s)

end ByteLedger
