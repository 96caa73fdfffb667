import ByteLedger.Proofs.Reopening

set_option autoImplicit false

/-!
# What a database keeps of its ledger

All that a ledger in pages has and its database has not is the first free offset as of the last
refresh. A refresh finds it from what is stored, and so does opening the database anew: to open it
again is to refresh the ledger that was left (`PagedLedger.reopened_eq_refreshed`).

The options with which it is opened again change nothing that is stored. But they are looked at:
if one of them is too great to be stored, the database cannot be opened, though that option would
not have been used (`Database.HoldsLedger.ledger_eq`).
-/

namespace ByteLedger

/-! ## Histories of operations -/

/-- The write that an operation made, if it answered that it did. -/
def Operation.completed? : Operation → Except StorageError Answer → Option (Offset × Bytes)
  | .write offset data, .ok _ | .append offset data, .ok _ => some (offset, data)
  | _, _ => none

/-- Whether every write counts after an operation that gave an answer: it was a refresh, or an
append, and did not fail. -/
def Operation.publishes : Operation → Except StorageError Answer → Bool
  | .refresh, .ok _ | .append _ _, .ok _ => true
  | _, _ => false

namespace Storage

variable {σ : Type} [Storage σ]

/-- A storage after operations that are performed one after the other. -/
def after (s : σ) : List Operation → σ
  | [] => s
  | op :: ops => after (perform s op).2 ops

/-- The writes that succeed while operations are performed one after the other. -/
def completed (s : σ) : List Operation → List (Offset × Bytes)
  | [] => []
  | op :: ops => (op.completed? (perform s op).1).toList ++ completed (perform s op).2 ops

/-- Which writes succeed can be told from the answers. -/
theorem completed_eq_answers (s : σ) (ops : List Operation) :
    completed s ops
      = (ops.zip (answers s ops)).filterMap fun made => made.1.completed? made.2 := by
  induction ops generalizing s with
  | nil => rfl
  | cons op ops ih =>
    rw [completed, ih, answers, List.zip_cons_cons, List.filterMap_cons]
    cases op.completed? (perform s op).1 with
    | none => rfl
    | some w => rfl

/-- Whatever an operation changes, it does by writing and refreshing. -/
theorem Reaches.perform {s t : σ} (h : Reaches s t) (op : Operation) :
    Reaches s (Storage.perform t op).2 := by
  cases op with
  | read offset len => exact h
  | write offset data => exact h.write offset data
  | refresh => exact h.refresh
  | append offset data => exact h.append offset data
  | geometry => exact h

theorem Reaches.after {s t : σ} (h : Reaches s t) (ops : List Operation) :
    Reaches s (Storage.after t ops) := by
  induction ops generalizing t with
  | nil => exact h
  | cons op ops ih => exact ih (h.perform op)

end Storage

namespace Flat

/-- The ledger after some writes. -/
def writeAll (f : Flat) (writes : List (Offset × Bytes)) : Flat :=
  writes.foldl (fun f w => f.write w.1 w.2) f

theorem writeAll_append (f : Flat) (writes writes' : List (Offset × Bytes)) :
    f.writeAll (writes ++ writes') = (f.writeAll writes).writeAll writes' :=
  List.foldl_append

/-- A write does not depend on what counts already. -/
theorem writeAll_withNextWrite (f : Flat) (nextWrite : Offset) (writes : List (Offset × Bytes)) :
    writeAll { f with nextWrite } writes = { f.writeAll writes with nextWrite } := by
  induction writes generalizing f with
  | nil => rfl
  | cons w writes ih => exact ih (f.write w.1 w.2)

/-- The ledger after an operation that gave an answer. -/
def following (f : Flat) (op : Operation) (answer : Except StorageError Answer) : Flat :=
  let g := f.writeAll (op.completed? answer).toList
  if op.publishes answer then g.refresh else g

/-- What counts apart, it is the ledger after the write that was made. -/
theorem following_eq (f : Flat) (op : Operation) (answer : Except StorageError Answer) :
    f.following op answer
      = { f.writeAll (op.completed? answer).toList with
          nextWrite := (f.following op answer).nextWrite } := by
  unfold following
  cases op.publishes answer <;> rfl

end Flat

namespace FlatStorage

variable {σ : Type} [Storage σ] [FlatStorage σ] {s : σ} {f : Flat}

/-- An operation makes its write if it succeeds, and makes every write count if it is one that
does. It does nothing else. -/
theorem keeps_perform (h : Keeps s f) (op : Operation) :
    Keeps (Storage.perform s op).2 (f.following op (Storage.perform s op).1) := by
  cases op with
  | read offset len =>
    simp only [Storage.perform]
    cases Storage.read s offset len <;> exact h
  | geometry =>
    simp only [Storage.perform]
    cases Storage.geometry s <;> exact h
  | refresh =>
    obtain ⟨s', hr, hs'⟩ := refresh_ok h
    rw [Storage.perform, hr]
    exact hs'
  | write offset data =>
    rcases write_cases offset data h with ⟨e, s', hw, hs'⟩ | ⟨s', hw, _, _, hs'⟩
    · rw [Storage.perform, hw]
      exact hs'
    · rw [Storage.perform, hw]
      exact hs'
  | append offset data =>
    rcases append_cases offset data h with ⟨e, s', hw, hs'⟩ | ⟨s', hw, _, _, hs'⟩
    · rw [Storage.perform, hw]
      exact hs'
    · rw [Storage.perform, hw]
      exact hs'

/-- After some operations a storage keeps the ledger after those writes that succeeded. -/
theorem keeps_after (h : Keeps s f) (ops : List Operation) :
    ∃ nextWrite, Keeps (Storage.after s ops)
      { f.writeAll (Storage.completed s ops) with nextWrite } := by
  -- What counts is left open, as it is the one thing that refreshes change and writes do not use.
  induction ops generalizing s f with
  | nil => exact ⟨f.nextWrite, h⟩
  | cons op ops ih =>
    obtain ⟨m, hm⟩ := ih (keeps_perform h op)
    rw [Flat.following_eq, Flat.writeAll_withNextWrite] at hm
    refine ⟨m, ?_⟩
    rw [Storage.after, Storage.completed, Flat.writeAll_append]
    exact hm

end FlatStorage

/-! ## Opening again -/

/-- The first extent that is too great to be stored, if there is one: where the partition begins, or
else the capacity in whole pages. -/
def LedgerOptions.misfit? (o : LedgerOptions) : Option Offset :=
  (o.extents.map Prod.snd).find? fun e => decide (2 ^ 63 ≤ e.toNat)

/-- The extents of a new ledger can be added to any tables, if all of them fit. -/
theorem Tables.addExtents_options (t : Tables) (options : LedgerOptions) :
    (t.addExtents options.extents).1
      = match options.misfit? with
        | none => .ok ()
        | some o => .error (.tooGreat o) :=
  t.addExtents_fst_eq options.extents

/-- A ledger that could be opened had options that fit. -/
theorem LedgerOptions.misfit?_of_ofDatabase {options : LedgerOptions} {db : Database}
    {l : PagedLedger} (h : PagedLedger.ofDatabase {} options = (.ok l, db)) :
    options.misfit? = none := by
  rw [PagedLedger.ofDatabase_of_migrate rfl, Tables.addExtents_options] at h
  cases hmisfit : options.misfit? with
  | none => rfl
  | some o =>
    rw [hmisfit] at h
    cases h

namespace PagedLedger

variable {l : PagedLedger} {f : Flat}

/-- What comes of opening the database of a ledger again. All extents are stored already, so the
database stays as it is, whether the options fit or not. -/
theorem ofDatabase_database (hversions : l.versions = [1]) (h : FlatStorage.Keeps l f)
    (options : LedgerOptions) :
    ofDatabase l.database options
      = (match options.misfit? with
        | none => .ok { l with nextWrite := 0 }
        | some o => .error (.tooGreat o), l.database) := by
  have hmigrate : l.database.migrate = .ok { versions := [1], tables := some l.tables } := by
    rw [database, hversions]
    rfl
  rw [ofDatabase_of_migrate hmigrate, Tables.addExtents_options,
    Tables.addExtents_of_stored h.1.stored, database, hversions]
  cases options.misfit? <;> rfl

/-- The ledger that is opened is the one that was left, refreshed. -/
theorem ledger_database (hversions : l.versions = [1]) (h : FlatStorage.Keeps l f)
    (options : LedgerOptions) :
    l.database.ledger options
      = match options.misfit? with
        | none => l.refresh
        | some o => .error (.tooGreat o) := by
  have hreset : FlatStorage.Keeps ({ l with nextWrite := 0 } : PagedLedger)
      { f with nextWrite := 0 } := ⟨h.1.withNextWrite 0, rfl⟩
  rw [Database.ledger, ofDatabase_database hversions h]
  cases options.misfit? with
  | some o => rfl
  | none =>
    simp only
    rw [load_eq hreset, refresh_eq hreset.1, refresh_eq h.1]

/-- A ledger that was opened in an empty database, after any reads, writes and refreshes. Its
database can be opened again with the same options, which leaves it as it is. The ledger that is
opened gives the same answers to all operations as the one that was left, if that is refreshed
first; and it has the bytes of all writes that succeeded, in order, and of no other. -/
theorem reopened_eq_refreshed {options : LedgerOptions} {opened : PagedLedger} {db : Database}
    (hopen : ofDatabase {} options = (.ok opened, db)) :
    ∃ l₀, Storage.load opened = .ok l₀ ∧ ∀ history : List Operation,
      ∃ l l₁, Storage.after l₀ history = l ∧ l.database.ledger options = .ok l₁
        ∧ (ofDatabase l.database options).2 = l.database
        ∧ (∀ ops, Storage.answers l (.refresh :: ops) = .ok .done :: Storage.answers l₁ ops)
        ∧ ∃ f, f = ((Flat.empty options.dataStart options.pagedCapacity).writeAll
              (Storage.completed l₀ history)).refresh
          ∧ Storage.geometry l₁ = .ok f.geometry
          ∧ ∀ offset len, Storage.read l₁ offset len = f.read offset len := by
  obtain ⟨l₀, hload, hempty⟩ := load_of_ofDatabase hopen
  refine ⟨l₀, hload, ?_⟩
  intro history
  have hreach := Storage.Reaches.after (.start (s := l₀)) history
  obtain ⟨hversions, _⟩ := keeps_of_opened (Or.inl rfl) hopen hload hreach
  obtain ⟨n, hkeeps⟩ := FlatStorage.keeps_after hempty history
  obtain ⟨l₁, hrefresh, hkeeps₁⟩ := FlatStorage.refresh_ok hkeeps
  have hledger := ledger_database hversions hkeeps options
  rw [LedgerOptions.misfit?_of_ofDatabase hopen] at hledger
  refine ⟨_, l₁, rfl, ?_, ?_, ?_, _, rfl, FlatStorage.geometry_eq hkeeps₁, read_eq_flat hkeeps₁⟩
  · rw [hledger]
    exact Storage.eq_of_orKeep_ok hrefresh
  · rw [ofDatabase_database hversions hkeeps]
  · intro ops
    rw [Storage.answers, Storage.perform, hrefresh]
    rfl

/-- Which writes succeed is as for the flat ledger that is kept. -/
theorem completed_eq_flat {ops : List Operation} (h : FlatStorage.Keeps l f)
    (hfits : ∀ op ∈ ops, op.Fits f.dataStart) :
    Storage.completed l ops = Storage.completed f ops := by
  rw [Storage.completed_eq_answers, Storage.completed_eq_answers, answers_eq_flat h hfits]

/-- A write over the end of a page, an append before the partition, which fails, and a write that is
not refreshed before the database is opened again. -/
theorem reopened_eq_refreshed_acrossPages :
    ∃ (opened : PagedLedger) (db : Database) (l₀ l l₁ : PagedLedger),
      ofDatabase {} { dataStart := 65534 } = (.ok opened, db)
      ∧ Storage.load opened = .ok l₀
      ∧ Storage.after l₀ [.write 65535 [1, 2, 3], .append 3 [4], .refresh, .write 65540 [7]] = l
      ∧ l.database.ledger { dataStart := 65534 } = .ok l₁
      ∧ Storage.geometry l₁ = .ok { dataStart := 65534, capacity := 131072, nextWrite := 65541 }
      ∧ Storage.read l₁ 65534 8 = .ok [0, 1, 2, 3, 0, 0, 7, 0] := by
  have hopen : ofDatabase {} { dataStart := 65534 } = (.ok _, _) := rfl
  obtain ⟨l₀, hload, hreopened⟩ := reopened_eq_refreshed hopen
  obtain ⟨l, l₁, hafter, hledger, _, _, f, hf, hgeometry, hread⟩ := hreopened
    [.write 65535 [1, 2, 3], .append 3 [4], .refresh, .write 65540 [7]]
  obtain ⟨l₀', hload', hempty⟩ := load_of_ofDatabase hopen
  obtain rfl := Except.ok.inj (hload.symm.trans hload')
  rw [completed_eq_flat hempty (by decide)] at hf
  refine ⟨_, _, l₀, l, l₁, hopen, hload, hafter, hledger, ?_, ?_⟩
  · rw [hgeometry, hf]
    decide +kernel
  · rw [hread, hf]
    decide +kernel

end PagedLedger

/-! ## Opening again with other options -/

theorem StorageError.tooGreat_inj {o o' : Offset} : tooGreat o = tooGreat o' ↔ o = o' := by
  refine ⟨fun h => ?_, fun h => by rw [h]⟩
  have htext : Decimal.text o = Decimal.text o' := by
    simpa only [tooGreat, invalidData.injEq, String.append_left_inj, String.append_right_inj] using h
  apply Option.some.inj
  rw [← Decimal.word?_text o, htext, Decimal.word?_text]

namespace Database

/-- A database in which a ledger was once opened. Before and since then it was only opened, with any
options, and used through the ledgers that were opened. -/
inductive HoldsLedger : Database → Prop where
  /-- A ledger was opened. -/
  | opened {db db' : Database} {options : LedgerOptions} {l : PagedLedger} :
      Untampered db → PagedLedger.ofDatabase db options = (.ok l, db') → HoldsLedger db'
  /-- A ledger was opened and made ready, was then written and refreshed, and was closed. -/
  | used {db db' : Database} {options : LedgerOptions} {l l₀ l' : PagedLedger} :
      Untampered db → PagedLedger.ofDatabase db options = (.ok l, db') →
      Storage.load l = .ok l₀ → Storage.Reaches l₀ l' → HoldsLedger l'.database
  /-- The ledger was opened again, or could not be. -/
  | reopened {db : Database} (options : LedgerOptions) :
      HoldsLedger db → HoldsLedger (PagedLedger.ofDatabase db options).2

/-- It is the database of a ledger that keeps a sound flat one. -/
theorem HoldsLedger.eq_database {db : Database} (h : db.HoldsLedger) :
    ∃ (l : PagedLedger) (f : Flat), l.database = db ∧ l.versions = [1] ∧ FlatStorage.Keeps l f
      ∧ f.Sound := by
  induction h with
  | @opened db db' options l huntampered hopen =>
    rcases PagedLedger.ofDatabase_cases huntampered.sound options with
      ⟨e, db'', hopen', _⟩ | ⟨t, hopen', f, hholds, hle⟩
    · rw [hopen] at hopen'
      cases hopen'
    · rw [hopen] at hopen'
      cases hopen'
      -- The ledger was not made ready, so what counts may be chosen.
      exact ⟨{ versions := [1], tables := t, nextWrite := f.refresh.nextWrite }, f.refresh, rfl, rfl,
        ⟨hholds.withNextWrite _, rfl⟩, Flat.sound_refresh hle⟩
  | @used db db' options l l₀ l' huntampered hopen hload hreach =>
    obtain ⟨hversions, f, hkeeps, hsound⟩ :=
      PagedLedger.keeps_of_opened huntampered.sound hopen hload hreach
    exact ⟨l', f, rfl, hversions, hkeeps, hsound⟩
  | @reopened db options _ ih =>
    obtain ⟨l, f, rfl, hversions, hkeeps, hsound⟩ := ih
    exact ⟨l, f, by rw [PagedLedger.ofDatabase_database hversions hkeeps], hversions, hkeeps, hsound⟩

/-- Opening a database that holds a ledger, with any options. The database stays as it is. With all
options that fit it is the same ledger that is opened, whatever they say; with any others opening
fails, for the first of them that is too great to be stored. So two openings come to the same if,
and only if, both have options that fit or neither has, because of the same number. -/
theorem HoldsLedger.ledger_eq {db : Database} (h : db.HoldsLedger) :
    ∃ l : PagedLedger, l.database = db
      ∧ (∀ options, (PagedLedger.ofDatabase db options).2 = db)
      ∧ (∀ options, options.misfit? = none → db.ledger options = .ok l)
      ∧ (∀ options o, options.misfit? = some o → db.ledger options = .error (.tooGreat o))
      ∧ ∀ options options', db.ledger options = db.ledger options'
          ↔ options.misfit? = options'.misfit? := by
  obtain ⟨left, f, rfl, hversions, hkeeps, _⟩ := h.eq_database
  have hledger := PagedLedger.ledger_database hversions hkeeps
  rw [PagedLedger.refresh_eq hkeeps.1] at hledger
  refine ⟨{ left with nextWrite := max f.writtenEnd f.dataStart }, rfl, ?_, ?_, ?_, ?_⟩
  · intro options
    rw [PagedLedger.ofDatabase_database hversions hkeeps]
  · intro options hfits
    rw [hledger, hfits]
  · intro options o hmisfit
    rw [hledger, hmisfit]
  · intro options options'
    rw [hledger, hledger]
    cases options.misfit? <;> cases options'.misfit? <;> simp [StorageError.tooGreat_inj]

/-- A ledger that begins at 64 was opened, and two bytes were appended. It is opened again with the
same options and with others, but not with a capacity that is too great to be stored. -/
theorem HoldsLedger.ledger_eq_appended :
    ∃ (opened l₀ left : PagedLedger) (db : Database),
      PagedLedger.ofDatabase {} { dataStart := 64 } = (.ok opened, db)
      ∧ Storage.load opened = .ok l₀ ∧ (Storage.append l₀ 64 [1, 2]).2 = left
      ∧ left.database.HoldsLedger
      ∧ ∃ l, left.database.ledger { dataStart := 64 } = .ok l
        ∧ left.database.ledger { dataStart := 7, capacity := 70000 } = .ok l
        ∧ left.database.ledger { capacity := 9223372036854775808 }
          = .error (.tooGreat 9223372036854775808) := by
  have hopen : PagedLedger.ofDatabase {} { dataStart := 64 } = (.ok _, _) := rfl
  obtain ⟨l₀, hload, _⟩ := PagedLedger.load_of_ofDatabase hopen
  have hholds : (Storage.append l₀ 64 [1, 2]).2.database.HoldsLedger :=
    .used .empty hopen hload (.append .start 64 [1, 2])
  obtain ⟨l, _, _, hfits, hmisfit, _⟩ := hholds.ledger_eq
  exact ⟨_, l₀, _, _, hopen, hload, rfl, hholds, l, hfits _ (by decide), hfits _ (by decide),
    hmisfit _ _ (by decide)⟩

/-- Options can matter though the database holds a ledger. -/
theorem ledger_ne_of_capacity :
    ∃ (opened l₀ left : PagedLedger) (db : Database),
      PagedLedger.ofDatabase {} { dataStart := 64 } = (.ok opened, db)
      ∧ Storage.load opened = .ok l₀ ∧ (Storage.append l₀ 64 [1, 2]).2 = left
      ∧ left.database.HoldsLedger
      ∧ left.database.ledger { dataStart := 0, capacity := 0 }
        ≠ left.database.ledger { dataStart := 0, capacity := 9223372036854775808 } := by
  have hopen : PagedLedger.ofDatabase {} { dataStart := 64 } = (.ok _, _) := rfl
  obtain ⟨l₀, hload, _⟩ := PagedLedger.load_of_ofDatabase hopen
  have hreach : Storage.Reaches l₀ (Storage.append l₀ 64 [1, 2]).2 := .append .start 64 [1, 2]
  obtain ⟨hversions, f, hkeeps, _⟩ := PagedLedger.keeps_of_opened (Or.inl rfl) hopen hload hreach
  refine ⟨_, l₀, _, _, hopen, hload, rfl, .used .empty hopen hload hreach, ?_⟩
  have hmisfit : LedgerOptions.misfit? { dataStart := 0, capacity := 9223372036854775808 }
      = some 9223372036854775808 := by decide
  have hfits : LedgerOptions.misfit? { dataStart := 0, capacity := 0 } = none := by decide
  rw [PagedLedger.ledger_database hversions hkeeps, PagedLedger.ledger_database hversions hkeeps,
    hmisfit, hfits, PagedLedger.refresh_eq hkeeps.1]
  exact nofun

end Database

end ByteLedger
