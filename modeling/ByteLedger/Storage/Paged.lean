import ByteLedger.Storage.Database

set_option autoImplicit false

/-!
# Ledgers in pages

A `PagedLedger` keeps its bytes in the pages of a database. A range is read and written
page by page; the index of an offset's page is its quotient by the page size, its place
in the page the remainder. A write either stores all its pages and extents or nothing:
the tables of a failed write are dropped.

The first free offset is not stored. It is computed from the stored extents by a refresh
and kept beside the database.
-/

namespace ByteLedger

namespace Tables

/-- The bytes of a page. -/
def page (t : Tables) (index : Nat) : Except StorageError Bytes :=
  match t.pages.get? index with
  | none => .ok (Bytes.zeros pageSize)
  | some p => if p.length = pageSize then .ok p else .error (.wrongPageLength index p.length)

/-- The number of bytes from `pos` up to the end of its page. -/
def room (pos : Nat) : Nat := pageSize - pos % pageSize

theorem room_pos (pos : Nat) : 0 < room pos := by
  have : pos % pageSize < pageSize := Nat.mod_lt _ (by decide)
  unfold room
  omega

/-- The `len` bytes from `pos` on. -/
def readPages (t : Tables) (pos len : Nat) : Except StorageError Bytes :=
  if _h : len = 0 then .ok []
  else
    match t.page (pos / pageSize) with
    | .error e => .error e
    | .ok p =>
      match readPages t (pos + room pos) (len - room pos) with
      | .error e => .error e
      | .ok rest => .ok (p.slice (pos % pageSize) (min len (room pos)) ++ rest)
termination_by len
decreasing_by
  have := room_pos pos
  omega

/-- The tables with `data` stored from `pos` on. -/
def writePages (t : Tables) (pos : Nat) (data : Bytes) : Except StorageError Tables :=
  if _h : data = [] then .ok t
  else
    match t.page (pos / pageSize) with
    | .error e => .error e
    | .ok p =>
      writePages
        { t with
          pages := t.pages.put (pos / pageSize)
            (p.overlay (pos % pageSize) (data.take (room pos))) }
        (pos + room pos) (data.drop (room pos))
termination_by data.length
decreasing_by
  have := room_pos pos
  have := List.length_pos_iff.2 _h
  simp only [List.length_drop]
  omega

/-- The tables with a capacity of whole pages that reach `stop`. -/
def growTo (t : Tables) (capacity stop : Offset) : Except StorageError Tables :=
  if capacity < stop then t.setExtent .capacity stop.roundUpToPage else .ok t

/-- The tables in which everything before `stop` counts as written. -/
def markWritten (t : Tables) (stop : Offset) : Except StorageError Tables :=
  match t.extent .writtenEnd with
  | .error e => .error e
  | .ok writtenEnd => if writtenEnd < stop then t.setExtent .writtenEnd stop else .ok t

end Tables

/-- A ledger whose bytes are held in the pages of a database. -/
structure PagedLedger where
  /-- The applied versions of the schema. -/
  versions : List Int64
  /-- The tables of the ledger. -/
  tables : Tables
  /-- The first free offset as of the last refresh. -/
  nextWrite : Offset
  deriving Repr, Inhabited

namespace PagedLedger

/-- The database that holds the ledger. -/
def database (l : PagedLedger) : Database where
  versions := l.versions
  tables := some l.tables

/-- Opens the ledger in a database, after making the database ready to hold one. The
ledger still has to be refreshed. The database is given back as it is left. -/
def ofDatabase (db : Database) (options : LedgerOptions) :
    Except StorageError PagedLedger × Database :=
  match db.prepare options with
  | (.error e, db) => (.error e, db)
  | (.ok tables, db) => (.ok { versions := db.versions, tables, nextWrite := 0 }, db)

/-- The bytes of a range within the capacity. -/
def read (l : PagedLedger) (offset len : Offset) : Except StorageError Bytes :=
  match l.tables.extent .capacity with
  | .error e => .error e
  | .ok capacity =>
    if offset.toNat + len.toNat ≤ capacity.toNat then l.tables.readPages offset.toNat len.toNat
    else .error (.outOfRange offset (offset.advance len.toNat) capacity)

/-- The tables after a write: its pages are stored, then the capacity grows to whole
pages if the write passes it, and the end of what was written is raised. -/
def writeTables (t : Tables) (offset : Offset) (data : Bytes) : Except StorageError Tables :=
  match t.extent .dataStart with
  | .error e => .error e
  | .ok dataStart =>
    if offset < dataStart then .error (.belowPartition offset dataStart)
    else
      match t.extent .capacity with
      | .error e => .error e
      | .ok capacity =>
        match offset.advance? data.length with
        | none => .error (.outOfRange offset Offset.last capacity)
        | some stop =>
          match t.writePages offset.toNat data with
          | .error e => .error e
          | .ok t =>
            match t.growTo capacity stop with
            | .error e => .error e
            | .ok t => t.markWritten stop

/-- A write into the data partition. -/
def write (l : PagedLedger) (offset : Offset) (data : Bytes) : Except StorageError PagedLedger :=
  match writeTables l.tables offset data with
  | .error e => .error e
  | .ok tables => .ok { l with tables }

/-- Counts every write. The first free offset is never before the data partition. -/
def refresh (l : PagedLedger) : Except StorageError PagedLedger :=
  match l.tables.extent .dataStart with
  | .error e => .error e
  | .ok dataStart =>
    match l.tables.extent .writtenEnd with
    | .error e => .error e
    | .ok writtenEnd => .ok { l with nextWrite := max writtenEnd dataStart }

instance : Storage PagedLedger where
  dataStart l := l.tables.extent .dataStart
  capacity l := l.tables.extent .capacity
  nextWrite l := .ok l.nextWrite
  read := read
  write l offset data := Storage.orKeep l (l.write offset data)
  refresh l := Storage.orKeep l l.refresh

end PagedLedger

end ByteLedger
