import ByteLedger.Proofs.Reopening

set_option autoImplicit false

/-!
# Opening keeps what is stored

The tables of a database may hold rows that no ledger put there: numbers under other names,
negative numbers, pages of any length under any index, and any versions of the schema. An
`Image` has all of these rows, and `Image.database` is what a ledger sees of them.

Opening a ledger only ever adds rows, one by one, and it can end before each of them: the schema
is not the right one, an offset does not fit, or the engine refuses a statement. So what one
insertion keeps is stated first, and then what is kept wherever an open ends
(`Image.openLedger_keeps`).
-/

namespace ByteLedger

namespace Rows

variable {κ ν : Type} [DecidableEq κ]

/-- Those of the given rows whose key has no row yet. -/
def missing (rows given : Rows κ ν) : Rows κ ν :=
  given.filter fun row => (rows.get? row.1).isNone

/-- What one insertion does: no row is replaced, and the given one is added if it is missing. -/
theorem putIfMissing_eq (rows : Rows κ ν) (key : κ) (value : ν) :
    rows.putIfMissing key value = rows ++ rows.missing [(key, value)] := by
  cases h : rows.get? key with
  | none => rw [putIfMissing_of_none h, missing, List.filter_cons_of_pos (by simp [h]),
      List.filter_nil]
  | some old => rw [putIfMissing_of_some h, missing,
      List.filter_cons_of_neg (by simp [h]), List.filter_nil, List.append_nil]

/-- An insertion under another key makes no difference to which rows are missing. -/
theorem missing_putIfMissing {rows given : Rows κ ν} {key : κ} (value : ν)
    (h : ∀ row ∈ given, key ≠ row.1) :
    (rows.putIfMissing key value).missing given = rows.missing given := by
  apply List.filter_congr
  intro row hrow
  rw [get?_putIfMissing, if_neg (h row hrow)]

end Rows

namespace Extent

theorem ofKey?_eq_some_iff {s : String} {x : Extent} : ofKey? s = some x ↔ x.key = s := by
  constructor
  · intro h
    rw [ofKey?] at h
    exact eq_of_beq (List.find?_some (p := fun y : Extent => y.key == s) h)
  · rintro rfl
    cases x <;> decide

theorem key_injective {x y : Extent} (h : x.key = y.key) : x = y := by
  have hx := ofKey?_eq_some_iff.2 h
  rw [ofKey?_eq_some_iff.2 rfl] at hx
  cases hx
  rfl

/-- The row that stores an extent. -/
def row (x : Extent × Offset) : String × Int64 := (x.1.key, x.2.toInt64)

end Extent

/-! ## Inserting the extents -/

/-- Inserts extents under their keys one by one, up to the first that does not fit or that the
engine refuses to store. -/
def Rows.insertExtents (refuses : Extent → Option StorageError) (numbers : Rows String Int64) :
    List (Extent × Offset) → Except StorageError Unit × Rows String Int64
  | [] => (.ok (), numbers)
  | (x, o) :: rest =>
    match o.toStored, refuses x with
    | .error e, _ => (.error e, numbers)
    | .ok _, some e => (.error e, numbers)
    | .ok value, none => (numbers.putIfMissing x.key value).insertExtents refuses rest

/-- The rows that store the extents of a new ledger. -/
def LedgerOptions.rows (options : LedgerOptions) : Rows String Int64 :=
  options.extents.map Extent.row

theorem LedgerOptions.nodup_extents (options : LedgerOptions) :
    (options.extents.map Prod.fst).Nodup := by
  change [Extent.dataStart, .capacity, .writtenEnd].Nodup
  decide

/-- The numbers that a ledger looks at. -/
def Rows.extents (numbers : Rows String Int64) : Rows Extent Int64 :=
  numbers.filterMap fun number => (Extent.ofKey? number.1).map (·, number.2)

namespace Rows

variable {refuses : Extent → Option StorageError} {numbers numbers' : Rows String Int64}

/-- The first of some extents is inserted, and then the others; or nothing is, because it does not
fit or is refused. -/
theorem insertExtents_cons (refuses : Extent → Option StorageError)
    (numbers : Rows String Int64) (x : Extent) (o : Offset) (rest : List (Extent × Offset)) :
    ((o.toNat < 2 ^ 63 ∧ refuses x = none)
        ∧ numbers.insertExtents refuses ((x, o) :: rest)
          = (numbers.putIfMissing x.key o.toInt64).insertExtents refuses rest)
      ∨ ¬ (o.toNat < 2 ^ 63 ∧ refuses x = none)
        ∧ ∃ e, numbers.insertExtents refuses ((x, o) :: rest) = (.error e, numbers) := by
  rw [insertExtents, Offset.toStored]
  by_cases hfits : o.toNat < 2 ^ 63
  · rw [if_pos hfits]
    cases refuses x with
    | none => exact Or.inl ⟨⟨hfits, rfl⟩, rfl⟩
    | some e =>
      refine Or.inr ⟨?_, e, rfl⟩
      rintro ⟨_, hnone⟩
      cases hnone
  · rw [if_neg hfits]
    exact Or.inr ⟨fun h => hfits h.1, _, rfl⟩

/-- Extents can be inserted if all of them fit and none is refused. -/
theorem insertExtents_ok_iff (numbers : Rows String Int64) {xs : List (Extent × Offset)} :
    (numbers.insertExtents refuses xs).1 = .ok ()
      ↔ ∀ x ∈ xs, x.2.toNat < 2 ^ 63 ∧ refuses x.1 = none := by
  induction xs generalizing numbers with
  | nil => exact iff_of_true rfl fun x hx => absurd hx List.not_mem_nil
  | cons first rest ih =>
    obtain ⟨x, o⟩ := first
    rw [List.forall_mem_cons]
    rcases insertExtents_cons refuses numbers x o rest with ⟨hfirst, heq⟩ | ⟨hfirst, e, heq⟩
    · rw [heq, ih]
      exact (and_iff_right hfirst).symm
    · rw [heq]
      exact iff_of_false (fun h => nomatch h) fun h => hfirst h.1

/-- Wherever the insertions end, all rows are as they were, and those of the first few extents
that were missing are added; those of all extents, if they do not end early. -/
theorem exists_insertExtents_eq (refuses : Extent → Option StorageError)
    (numbers : Rows String Int64) {xs : List (Extent × Offset)}
    (hxs : (xs.map Prod.fst).Nodup) :
    ∃ n, (numbers.insertExtents refuses xs).2
        = numbers ++ numbers.missing ((xs.map Extent.row).take n)
      ∧ ((numbers.insertExtents refuses xs).1 = .ok () → xs.length ≤ n) := by
  induction xs generalizing numbers with
  | nil => exact ⟨0, (List.append_nil _).symm, fun _ => Nat.le_refl _⟩
  | cons first rest ih =>
    obtain ⟨x, o⟩ := first
    rw [List.map_cons, List.nodup_cons] at hxs
    rcases insertExtents_cons refuses numbers x o rest with ⟨_, heq⟩ | ⟨_, e, heq⟩
    · obtain ⟨n, hn, hall⟩ := ih (numbers.putIfMissing x.key o.toInt64) hxs.2
      have hother : ∀ number ∈ (rest.map Extent.row).take n, x.key ≠ number.1 := by
        intro number hnumber hkey
        obtain ⟨y, hy, rfl⟩ := List.mem_map.1 (List.mem_of_mem_take hnumber)
        exact hxs.1 (List.mem_map.2 ⟨y, hy, (Extent.key_injective hkey).symm⟩)
      rw [heq]
      refine ⟨n + 1, ?_, fun h => Nat.succ_le_succ (hall h)⟩
      rw [hn, missing_putIfMissing _ hother, putIfMissing_eq, List.append_assoc,
        List.map_cons, List.take_succ_cons, missing, missing, missing, ← List.filter_append]
      rfl
    · rw [heq]
      exact ⟨0, (List.append_nil _).symm, fun h => nomatch h⟩

/-- A row that is there stays. -/
theorem isSome_get?_insertExtents (refuses : Extent → Option StorageError) {key : String}
    (h : (numbers.get? key).isSome) (xs : List (Extent × Offset)) :
    ((numbers.insertExtents refuses xs).2.get? key).isSome := by
  induction xs generalizing numbers with
  | nil => exact h
  | cons first rest ih =>
    obtain ⟨x, o⟩ := first
    rcases insertExtents_cons refuses numbers x o rest with ⟨_, heq⟩ | ⟨_, e, heq⟩
    · rw [heq]
      apply ih
      rw [get?_putIfMissing]
      split
      · rfl
      · exact h
    · rw [heq]
      exact h

/-- Extents that could all be inserted have a row then. -/
theorem stored_of_insertExtents {xs : List (Extent × Offset)}
    (h : numbers.insertExtents refuses xs = (.ok (), numbers')) :
    ∀ x ∈ xs, (numbers'.get? x.1.key).isSome := by
  induction xs generalizing numbers with
  | nil => exact fun x hx => absurd hx List.not_mem_nil
  | cons first rest ih =>
    obtain ⟨x, o⟩ := first
    rcases insertExtents_cons refuses numbers x o rest with ⟨_, heq⟩ | ⟨_, e, heq⟩
    · rw [heq] at h
      refine List.forall_mem_cons.2 ⟨?_, ih h⟩
      have hrow : ((numbers.putIfMissing x.key o.toInt64).get? x.key).isSome := by
        rw [get?_putIfMissing, if_pos rfl]
        rfl
      have hlater := isSome_get?_insertExtents refuses hrow rest
      rw [h] at hlater
      exact hlater
    · rw [heq] at h
      cases h

/-- Where all extents have a row, nothing is changed. -/
theorem insertExtents_of_stored (refuses : Extent → Option StorageError)
    {xs : List (Extent × Offset)} (h : ∀ x ∈ xs, (numbers.get? x.1.key).isSome) :
    (numbers.insertExtents refuses xs).2 = numbers := by
  induction xs with
  | nil => rfl
  | cons first rest ih =>
    obtain ⟨x, o⟩ := first
    rcases insertExtents_cons refuses numbers x o rest with ⟨_, heq⟩ | ⟨_, e, heq⟩
    · obtain ⟨old, hold⟩ := Option.isSome_iff_exists.1 (h (x, o) List.mem_cons_self)
      rw [heq, putIfMissing_of_some hold]
      exact ih fun y hy => h y (List.mem_cons_of_mem _ hy)
    · rw [heq]

/-- What could be inserted once can be inserted again, where the engine refuses nothing, and then
nothing is changed. -/
theorem insertExtents_again {xs : List (Extent × Offset)}
    (h : numbers.insertExtents refuses xs = (.ok (), numbers')) :
    numbers'.insertExtents (fun _ => none) xs = (.ok (), numbers') := by
  have hfits : ∀ x ∈ xs, x.2.toNat < 2 ^ 63 ∧ refuses x.1 = none :=
    (insertExtents_ok_iff numbers).1 (congrArg Prod.fst h)
  have hok : (numbers'.insertExtents (fun _ => none) xs).1 = .ok () :=
    (insertExtents_ok_iff numbers').2 fun x hx => ⟨(hfits x hx).1, rfl⟩
  exact Prod.ext hok (insertExtents_of_stored _ (stored_of_insertExtents h))

/-! ### What a ledger sees of it -/

theorem get?_extents (numbers : Rows String Int64) (x : Extent) :
    numbers.extents.get? x = numbers.get? x.key := by
  induction numbers with
  | nil => rfl
  | cons number rest ih =>
    obtain ⟨s, value⟩ := number
    unfold extents at ih ⊢
    rw [get?, List.filterMap_cons]
    cases hs : Extent.ofKey? s with
    | none =>
      have hne : s ≠ x.key := by
        intro h
        rw [Extent.ofKey?_eq_some_iff.2 h.symm] at hs
        cases hs
      rw [if_neg hne]
      exact ih
    | some y =>
      obtain rfl := Extent.ofKey?_eq_some_iff.1 hs
      rw [Option.map_some]
      simp only [get?]
      by_cases hy : y = x
      · rw [if_pos hy, if_pos (congrArg Extent.key hy)]
      · rw [if_neg hy, if_neg fun h => hy (Extent.key_injective h), ih]

/-- An extent that is inserted under its key is inserted. -/
theorem extents_putIfMissing (numbers : Rows String Int64) (x : Extent) (value : Int64) :
    (numbers.putIfMissing x.key value).extents = numbers.extents.putIfMissing x value := by
  have hget := get?_extents numbers x
  cases h : numbers.get? x.key with
  | none =>
    have hkey : Extent.ofKey? x.key = some x := Extent.ofKey?_eq_some_iff.2 rfl
    rw [h] at hget
    rw [putIfMissing_of_none h, putIfMissing_of_none hget, extents, List.filterMap_append,
      List.filterMap_cons, hkey]
    rfl
  | some old =>
    rw [h] at hget
    rw [putIfMissing_of_some h, putIfMissing_of_some hget]

/-- Where the engine refuses nothing, insertions under the keys are the ones that a ledger makes
in its tables. -/
theorem addExtents_extents (t : Tables) (h : t.extents = numbers.extents)
    (xs : List (Extent × Offset)) :
    t.addExtents xs
      = ((numbers.insertExtents (fun _ => none) xs).1,
          { t with extents := (numbers.insertExtents (fun _ => none) xs).2.extents }) := by
  induction xs generalizing t numbers with
  | nil =>
    rw [insertExtents, ← h]
    rfl
  | cons first rest ih =>
    obtain ⟨x, o⟩ := first
    rw [Tables.addExtents, Tables.addExtent, insertExtents]
    cases o.toStored with
    | error e =>
      simp only
      rw [← h]
    | ok value =>
      simp only
      rw [h, ← extents_putIfMissing]
      exact ih _ rfl

end Rows

/-! ## Images -/

namespace Database

/-- A database whose tables exist, with rows of any kind. -/
structure Image where
  /-- The applied versions of the schema. -/
  versions : List Int64 := []
  /-- The numbers by their names. -/
  numbers : Rows String Int64 := []
  /-- The pages by their index. -/
  pages : Rows Int64 Bytes := []
  deriving Repr, Inhabited

/-- What the engine says to the statements of an open that it does not carry out. -/
structure Refusals where
  /-- To those that look at the version of the schema and change it. -/
  schema : Option StorageError := none
  /-- To the one that adds an extent. -/
  extent : Extent → Option StorageError := fun _ => none

/-- With the version that is supported there is nothing to change. -/
theorem migrate_of_version {db : Database} (h : db.version = 1) : db.migrate = .ok db := by
  rw [migrate, h]
  rfl

/-- With another version the schema change fails where the tables exist. -/
theorem migrate_of_version_ne {db : Database} {t : Tables} (htables : db.tables = some t)
    (h : db.version ≠ 1) : ∃ e, db.migrate = .error e := by
  have hne : db.version.toInt ≠ 1 := fun heq => h (Int64.toInt_inj.1 heq)
  have hsupported : supportedVersion = 1 := rfl
  unfold migrate
  simp only
  split
  · exact ⟨_, rfl⟩
  · split
    · exact ⟨_, rfl⟩
    · rw [if_pos (by omega), htables]
      exact ⟨_, rfl⟩

theorem version_eq_max? (db : Database) : db.version = db.versions.max?.getD 0 := by
  unfold version
  cases db.versions <;> rfl

namespace Image

/-- The tables as a ledger sees them. -/
def tables (m : Image) : Tables where
  extents := m.numbers.extents
  pages := m.pages.filterMap fun page =>
    if page.1 < 0 then none else some (page.1.toNatClampNeg, page.2)

/-- The database as a ledger sees it. -/
def database (m : Image) : Database where
  versions := m.versions
  tables := some m.tables

/-- Opens the ledger in an image: the schema change gives the versions, and the extents are
inserted after it. It creates no tables, as they exist. The image is given back as it is left. -/
def openLedger (m : Image) (options : LedgerOptions) (refusals : Refusals) :
    Except StorageError PagedLedger × Image :=
  match refusals.schema, m.database.migrate with
  | some e, _ => (.error e, m)
  | none, .error e => (.error e, m)
  | none, .ok db =>
    match m.numbers.insertExtents refusals.extent options.extents with
    | (.error e, numbers) => (.error e, { m with versions := db.versions, numbers })
    | (.ok (), numbers) =>
      let m := { m with versions := db.versions, numbers }
      (.ok { versions := m.versions, tables := m.tables, nextWrite := 0 }, m)

variable {m m' : Image} {options : LedgerOptions} {refusals : Refusals}
  {result : Except StorageError PagedLedger}

/-- With the version that is supported an open is a matter of the insertions. -/
theorem openLedger_of_version (hversion : m.database.version = 1)
    (hschema : refusals.schema = none) :
    m.openLedger options refusals
      = ((m.numbers.insertExtents refusals.extent options.extents).1.map fun _ =>
          { versions := m.versions
            tables := { m.tables with extents :=
              (m.numbers.insertExtents refusals.extent options.extents).2.extents }
            nextWrite := 0 },
          { m with numbers := (m.numbers.insertExtents refusals.extent options.extents).2 }) := by
  unfold openLedger
  rw [hschema, migrate_of_version hversion]
  simp only
  cases m.numbers.insertExtents refusals.extent options.extents with
  | mk inserted numbers =>
    cases inserted with
    | error e => rfl
    | ok u => rfl

/-- How an open can end: it fails before any insertion, and the image stays; or it ends with the
insertions, and the schema has the version that is supported. -/
theorem openLedger_cases (m : Image) (options : LedgerOptions) (refusals : Refusals) :
    (¬ (m.database.version = 1 ∧ refusals.schema = none)
        ∧ ∃ e, m.openLedger options refusals = (.error e, m))
      ∨ m.database.version = 1 ∧ refusals.schema = none := by
  cases hschema : refusals.schema with
  | some e => exact Or.inl ⟨(fun h => nomatch h.2), e, by rw [openLedger, hschema]⟩
  | none =>
    by_cases hversion : m.database.version = 1
    · exact Or.inr ⟨hversion, rfl⟩
    · have htables : m.database.tables = some m.tables := rfl
      obtain ⟨e, he⟩ := migrate_of_version_ne htables hversion
      exact Or.inl ⟨fun h => hversion h.1, e, by rw [openLedger, hschema, he]⟩

/-- Opening in an image is opening in the database that a ledger sees, if the engine refuses
nothing. -/
theorem ofDatabase_eq_openLedger (m : Image) (options : LedgerOptions) :
    PagedLedger.ofDatabase m.database options
      = ((m.openLedger options {}).1, (m.openLedger options {}).2.database) := by
  by_cases hversion : m.database.version = 1
  · have hmigrate : m.database.migrate = .ok { versions := m.versions, tables := some m.tables } :=
      migrate_of_version hversion
    rw [PagedLedger.ofDatabase_of_migrate hmigrate, openLedger_of_version hversion rfl,
      Rows.addExtents_extents m.tables rfl]
    rfl
  · have htables : m.database.tables = some m.tables := rfl
    obtain ⟨e, he⟩ := migrate_of_version_ne htables hversion
    rw [openLedger, PagedLedger.ofDatabase, prepare, he]

/-- An open succeeds if the schema is the right one, all extents fit and the engine refuses
nothing. -/
theorem openLedger_ok_iff (h : m.openLedger options refusals = (result, m')) :
    (∃ l, result = .ok l) ↔ m.database.version = 1 ∧ refusals.schema = none
      ∧ ∀ x ∈ options.extents, x.2.toNat < 2 ^ 63 ∧ refusals.extent x.1 = none := by
  rcases openLedger_cases m options refusals with ⟨hnot, e, he⟩ | ⟨hversion, hschema⟩
  · rw [he] at h
    cases h
    exact iff_of_false (fun ⟨l, hl⟩ => nomatch hl) fun h => hnot ⟨h.1, h.2.1⟩
  · rw [openLedger_of_version hversion hschema] at h
    rw [and_iff_right hversion, and_iff_right hschema,
      ← Rows.insertExtents_ok_iff m.numbers]
    cases h
    cases (m.numbers.insertExtents refusals.extent options.extents).1 with
    | error e => exact iff_of_false (fun ⟨l, hl⟩ => nomatch hl) fun h => nomatch h
    | ok u => exact iff_of_true ⟨_, rfl⟩ rfl

/-- However an open ends, all rows are as they were, and those of the first few extents that were
missing are added; those of all extents, if it succeeds. -/
theorem openLedger_rows (h : m.openLedger options refusals = (result, m')) :
    m'.versions = m.versions ∧ m'.pages = m.pages
      ∧ ∃ n, m'.numbers = m.numbers ++ m.numbers.missing (options.rows.take n)
        ∧ ((∃ l, result = .ok l) → options.rows.length ≤ n) := by
  rcases openLedger_cases m options refusals with ⟨_, e, he⟩ | ⟨hversion, hschema⟩
  · rw [he] at h
    cases h
    exact ⟨rfl, rfl, 0, (List.append_nil _).symm, fun ⟨l, hl⟩ => nomatch hl⟩
  · have hok := openLedger_ok_iff h
    rw [openLedger_of_version hversion hschema] at h
    cases h
    obtain ⟨n, hn, hall⟩ :=
      Rows.exists_insertExtents_eq refusals.extent m.numbers options.nodup_extents
    refine ⟨rfl, rfl, n, hn, fun hsucceeds => ?_⟩
    exact hall ((Rows.insertExtents_ok_iff m.numbers).2 (hok.1 hsucceeds).2.2)

/-- With another version of the schema it fails, and the image stays. -/
theorem openLedger_of_version_ne (h : m.openLedger options refusals = (result, m'))
    (hversion : m.database.version ≠ 1) : (∃ e, result = .error e) ∧ m' = m := by
  rcases openLedger_cases m options refusals with ⟨_, e, he⟩ | ⟨hone, _⟩
  · rw [he] at h
    cases h
    exact ⟨⟨e, rfl⟩, rfl⟩
  · exact absurd hone hversion

/-- Where a ledger could be opened, it can be opened again, and the image stays. -/
theorem openLedger_again {l : PagedLedger} (h : m.openLedger options refusals = (.ok l, m')) :
    m'.openLedger options {} = (.ok l, m') := by
  rcases openLedger_cases m options refusals with ⟨_, e, he⟩ | ⟨hversion, hschema⟩
  · rw [he] at h
    cases h
  · rw [openLedger_of_version hversion hschema] at h
    cases hinserted : m.numbers.insertExtents refusals.extent options.extents with
    | mk inserted numbers =>
      rw [hinserted] at h
      cases inserted with
      | error e => cases h
      | ok u =>
        cases h
        -- The versions are the same, so that the second open comes to the insertions as well.
        have hversion' : ({ m with numbers } : Image).database.version = 1 := hversion
        rw [openLedger_of_version hversion' rfl, Rows.insertExtents_again hinserted]
        rfl

/-- Opening a ledger never destroys what is stored, whatever rows the database has and wherever
the open ends. All rows are as they were, and at most those of the three extents that were missing
are added, the first few of them. If the greatest version is any other than the supported one, the
open fails and changes nothing. After an open that succeeds all three extents are stored, and
opening again with the same options succeeds and changes nothing. It does succeed where the version
is the supported one, the extents fit and the engine refuses nothing; and if the engine refuses
nothing, it is the open of the database that a ledger sees. -/
theorem openLedger_keeps (h : m.openLedger options refusals = (result, m')) :
    (m'.versions = m.versions ∧ m'.pages = m.pages
      ∧ ∃ n, m'.numbers = m.numbers ++ m.numbers.missing (options.rows.take n))
    ∧ (m.versions.max?.getD 0 ≠ 1 → (∃ e, result = .error e) ∧ m' = m)
    ∧ (∀ l, result = .ok l →
        m'.numbers = m.numbers ++ m.numbers.missing options.rows
          ∧ m'.openLedger options {} = (.ok l, m'))
    ∧ ((∃ l, result = .ok l) ↔ m.versions.max?.getD 0 = 1 ∧ refusals.schema = none
        ∧ ∀ x ∈ options.extents, x.2.toNat < 2 ^ 63 ∧ refusals.extent x.1 = none)
    ∧ (refusals = {} → PagedLedger.ofDatabase m.database options = (result, m'.database)) := by
  have hmax : m.database.version = m.versions.max?.getD 0 := m.database.version_eq_max?
  obtain ⟨hversions, hpages, n, hn, hall⟩ := openLedger_rows h
  refine ⟨⟨hversions, hpages, n, hn⟩, ?_, ?_, ?_, ?_⟩
  · intro hversion
    exact openLedger_of_version_ne h (by rwa [hmax])
  · rintro l rfl
    rw [List.take_of_length_le (hall ⟨l, rfl⟩)] at hn
    exact ⟨hn, openLedger_again h⟩
  · rw [← hmax]
    exact openLedger_ok_iff h
  · rintro rfl
    rw [ofDatabase_eq_openLedger, h]

/-- An image with rows that no ledger put there: a number under another name, a negative capacity,
a page before the first and one that is too short. -/
def tampered : Image where
  versions := [1]
  numbers := [("owner", -5), ("capacity", -1)]
  pages := [(-3, [7]), (0, [1, 2])]

/-- Two opens in it: one that ends at a capacity that does not fit, though it would not be stored,
and one that succeeds and leaves the negative capacity as it is. -/
theorem openLedger_keeps_tampered :
    (∃ e m', tampered.openLedger { dataStart := 7, capacity := 9223372036854775808 } {}
        = (.error e, m')
      ∧ m'.numbers = [("owner", -5), ("capacity", -1), ("data_start", 7)]
      ∧ m'.pages = tampered.pages)
    ∧ ∃ l m', tampered.openLedger { dataStart := 7 } {} = (.ok l, m')
      ∧ m'.numbers = [("owner", -5), ("capacity", -1), ("data_start", 7), ("written_end", 0)]
      ∧ m'.pages = tampered.pages
      ∧ m'.openLedger { dataStart := 7 } {} = (.ok l, m')
      ∧ PagedLedger.ofDatabase tampered.database { dataStart := 7 } = (.ok l, m'.database) := by
  constructor
  · obtain ⟨e, m', hopen, hnumbers⟩ : ∃ e m', tampered.openLedger
        { dataStart := 7, capacity := 9223372036854775808 } {} = (.error e, m')
        ∧ m'.numbers = [("owner", -5), ("capacity", -1), ("data_start", 7)] := ⟨_, _, rfl, rfl⟩
    obtain ⟨⟨_, hpages, _⟩, _⟩ := openLedger_keeps hopen
    exact ⟨e, m', hopen, hnumbers, hpages⟩
  · obtain ⟨l, m', hopen⟩ : ∃ l m', tampered.openLedger { dataStart := 7 } {} = (.ok l, m') :=
      ⟨_, _, rfl⟩
    obtain ⟨⟨_, hpages, _⟩, _, hopened, _, hdatabase⟩ := openLedger_keeps hopen
    obtain ⟨hnumbers, hagain⟩ := hopened l rfl
    exact ⟨l, m', hopen, hnumbers, hpages, hagain, hdatabase rfl⟩

end Image

end Database

end ByteLedger
