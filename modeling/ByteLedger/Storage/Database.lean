import ByteLedger.Storage.Basic
import ByteLedger.Storage.Rows

set_option autoImplicit false

/-!
# The database of a paged ledger

A database holds the versions of the schema that were applied to it and, once there is
a schema, two tables: three named numbers that give the extents of the ledger, and its
bytes in pages of fixed size. Its numbers are signed, so an offset from `2^63` on does
not fit, and a negative number is no offset.

`Database.prepare` makes a database ready to hold a ledger. It runs the schema change if
no version was applied, and then adds those of the three numbers that are missing; what
exists is never replaced.
-/

namespace ByteLedger

/-- The names of the stored extents. -/
inductive Extent where
  | dataStart
  | capacity
  | writtenEnd
  deriving DecidableEq, Repr, Inhabited

namespace Extent

/-- The key of the row that stores an extent. -/
def key : Extent → String
  | dataStart => "data_start"
  | capacity => "capacity"
  | writtenEnd => "written_end"

/-- The three extents, in the order in which they are stored. -/
def all : List Extent := [dataStart, capacity, writtenEnd]

/-- The extent stored under a key. -/
def ofKey? (s : String) : Option Extent := all.find? (·.key == s)

end Extent

namespace StorageError

/-- An offset is too great for a stored number. -/
def tooGreat (o : Offset) : StorageError :=
  invalidData ("offset " ++ Decimal.text o ++ " exceeds SQLite range")

/-- An extent has no row. -/
def missingExtent (x : Extent) : StorageError :=
  invalidData ("missing ledger metadata: " ++ x.key)

/-- The row of an extent holds a negative number. -/
def negativeExtent (x : Extent) (value : Int64) : StorageError :=
  invalidData ("negative ledger metadata " ++ x.key ++ ": " ++ toString value.toInt)

/-- A page row has the wrong number of bytes. -/
def wrongPageLength (index length : Nat) : StorageError :=
  invalidData ("page " ++ toString index ++ " has " ++ toString length ++ " bytes, expected "
    ++ toString pageSize)

/-- The schema has a version that is not known. -/
def newerSchema (version supported : Nat) : StorageError :=
  migration ("database schema version " ++ toString version
    ++ " is newer than supported version " ++ toString supported)

end StorageError

/-- An offset as a stored number. -/
def Offset.toStored (o : Offset) : Except StorageError Int64 :=
  if o.toNat < 2 ^ 63 then .ok o.toInt64 else .error (.tooGreat o)

theorem Offset.toInt64_nonneg {o : Offset} (h : o.toNat < 2 ^ 63) : ¬ o.toInt64 < 0 := by
  rw [Int64.lt_iff_toInt_lt, UInt64.toInt64, Int64.toInt]
  have : (Int64.ofUInt64 o).toBitVec.toInt = o.toNat := by
    rw [BitVec.toInt_eq_toNat_of_lt]
    · rfl
    · change 2 * o.toNat < 2 ^ 64
      omega
  simp [this]

/-- The two tables of a ledger. The rows hold values of the declared column types only. The schema
does not enforce them (its tables are not STRICT): a text or a real number in a column of integers,
or anything but a blob in a page, makes every access to that row fail with an error of the
database, and there are no such rows here. -/
structure Tables where
  /-- The stored extents. -/
  extents : Rows Extent Int64 := []
  /-- The stored pages by their index; a page without a row holds zeros. -/
  pages : Rows Nat Bytes := []
  deriving Repr, Inhabited

namespace Tables

/-- The offset that is stored for an extent. -/
def extent (t : Tables) (x : Extent) : Except StorageError Offset :=
  match t.extents.get? x with
  | none => .error (.missingExtent x)
  | some value => if value < 0 then .error (.negativeExtent x value) else .ok value.toUInt64

/-- The tables with an offset stored for an extent. -/
def setExtent (t : Tables) (x : Extent) (o : Offset) : Except StorageError Tables :=
  match o.toStored with
  | .error e => .error e
  | .ok value => .ok { t with extents := t.extents.put x value }

/-- A stored extent reads back, and the others stay. -/
theorem extent_setExtent {t t' : Tables} {x : Extent} {o : Offset}
    (h : t.setExtent x o = .ok t') (y : Extent) :
    t'.extent y = if x = y then .ok o else t.extent y := by
  unfold setExtent Offset.toStored at h
  split at h
  · cases h
  · rename_i v hv
    split at hv
    · rename_i ho
      cases hv
      cases h
      unfold extent
      rw [Rows.get?_put]
      by_cases hy : x = y
      · simp [hy, Offset.toInt64_nonneg ho]
      · simp [hy]
    · cases hv

/-- The tables with an offset stored for an extent, unless one is stored. It has to fit
in either case. -/
def addExtent (t : Tables) (x : Extent) (o : Offset) : Except StorageError Tables :=
  match o.toStored with
  | .error e => .error e
  | .ok value => .ok { t with extents := t.extents.putIfMissing x value }

/-- Adds extents one by one, up to the first that does not fit. -/
def addExtents (t : Tables) : List (Extent × Offset) → Except StorageError Unit × Tables
  | [] => (.ok (), t)
  | (x, o) :: rest =>
    match t.addExtent x o with
    | .error e => (.error e, t)
    | .ok t => addExtents t rest

end Tables

/-- A database: the applied versions of the schema, and the tables once they exist. -/
structure Database where
  versions : List Int64 := []
  tables : Option Tables := none
  deriving Repr, Inhabited

/-- What a new ledger in a database is to look like. A ledger that exists keeps its own
extents. -/
structure LedgerOptions where
  /-- Where the data partition begins. -/
  dataStart : Offset := 0
  /-- The capacity, which is rounded up to whole pages. -/
  capacity : Offset := 0
  deriving DecidableEq, Repr, Inhabited

namespace LedgerOptions

/-- The capacity of a new ledger: whole pages that reach the data partition at least. -/
def pagedCapacity (o : LedgerOptions) : Offset := (max o.capacity o.dataStart).roundUpToPage

/-- The extents of a new ledger, in the order in which they are stored. -/
def extents (o : LedgerOptions) : List (Extent × Offset) :=
  [(.dataStart, o.dataStart), (.capacity, o.pagedCapacity), (.writtenEnd, 0)]

end LedgerOptions

namespace Database

/-- The version of the schema that this library works with. -/
def supportedVersion : Nat := 1

/-- The greatest applied version, zero if there is none. -/
def version (db : Database) : Int64 :=
  match db.versions with
  | [] => 0
  | v :: rest => rest.foldl max v

/-- The database with the schema that this library works with. A version that is no
32-bit number is refused by the engine, and so are tables that exist already. -/
def migrate (db : Database) : Except StorageError Database :=
  let current := db.version.toInt
  if current < 0 ∨ 2 ^ 32 ≤ current then
    .error (.database ("Integer " ++ toString current ++ " out of range at index 0"))
  else if supportedVersion < current.toNat then
    .error (.newerSchema current.toNat supportedVersion)
  else if current.toNat < supportedVersion then
    match db.tables with
    | some _ => .error (.database "table ledger_meta already exists")
    | none => .ok { versions := db.versions ++ [1], tables := some {} }
  else .ok db

/-- Makes a database ready to hold a ledger, and gives back the tables. The database is
given back as it is left in either case: extents that were added before one that does
not fit stay. -/
def prepare (db : Database) (options : LedgerOptions) : Except StorageError Tables × Database :=
  match db.migrate with
  | .error e => (.error e, db)
  | .ok db =>
    match db.tables with
    | none => (.error (.database "no such table: ledger_meta"), db)
    | some t =>
      match t.addExtents options.extents with
      | (.error e, t) => (.error e, { db with tables := some t })
      | (.ok (), t) => (.ok t, { db with tables := some t })

end Database

end ByteLedger
