import ByteLedger.Proofs.Answers

set_option autoImplicit false

/-!
# Opening after an open that failed

Whether a ledger can be opened in a sound database depends on the options alone, and what is
stored already is never replaced. So an open that fails can matter to a later one only by the
row that it leaves behind, the beginning of the partition. It leaves one where none is stored
yet and the capacity is what does not fit, and then a ledger that is opened later begins there
and not where its own options say (`Database.opensAlike_after_failed_iff`).
-/

namespace ByteLedger

namespace Tables

/-- Extents can be added to any tables if all of them fit, and else the first that does not is the
reason why not. -/
theorem addExtents_fst_eq (t : Tables) (xs : List (Extent × Offset)) :
    (t.addExtents xs).1
      = match (xs.map Prod.snd).find? fun o => decide (2 ^ 63 ≤ o.toNat) with
        | none => .ok ()
        | some o => .error (.tooGreat o) := by
  induction xs generalizing t with
  | nil => rfl
  | cons row rest ih =>
    obtain ⟨x, o⟩ := row
    rw [addExtents, addExtent, Offset.toStored, List.map_cons]
    by_cases hfits : o.toNat < 2 ^ 63
    · rw [if_pos hfits, List.find?_cons_of_neg (by simpa using hfits)]
      exact ih _
    · rw [if_neg hfits, List.find?_cons_of_pos (by simpa using hfits)]

/-- So whether extents can be added is the same for all tables. -/
theorem addExtents_fst (t t' : Tables) (xs : List (Extent × Offset)) :
    (t.addExtents xs).1 = (t'.addExtents xs).1 := by
  rw [addExtents_fst_eq, addExtents_fst_eq]

/-- A beginning of the partition that is stored already stays as it is. -/
theorem eq_of_partitionStart? {t t' : Tables} {d o : Offset} (h : t.partitionStart? = some d)
    (hadd : t.addExtent .dataStart o = .ok t') : t' = t := by
  obtain ⟨value, hvalue, _⟩ := Option.map_eq_some_iff.1 h
  unfold addExtent at hadd
  split at hadd
  · cases hadd
  · cases hadd
    rw [Rows.putIfMissing_of_some hvalue]

/-- One that is not is stored. -/
theorem partitionStart?_addExtent {t t' : Tables} {o : Offset} (h : t.partitionStart? = none)
    (hadd : t.addExtent .dataStart o = .ok t') : t'.partitionStart? = some o := by
  obtain ⟨_, _, hget⟩ := addExtent_cases hadd
  rw [partitionStart?, hget, if_pos rfl, Option.map_eq_none_iff.1 h]
  simp

/-- Tables with a ledger say where its partition begins. -/
theorem Settled.partitionStart?_ne_none {t : Tables} (h : t.Settled) :
    t.partitionStart? ≠ none := by
  obtain ⟨f, hholds, _⟩ := h
  obtain ⟨value, hvalue⟩ := hholds.stored .dataStart
  rw [partitionStart?, hvalue]
  exact Option.some_ne_none _

end Tables

/-- Opening a ledger adds its extents to the tables that the database has after the schema
change. -/
theorem PagedLedger.ofDatabase_of_migrate {db : Database} {versions : List Int64} {t : Tables}
    (h : db.migrate = .ok { versions, tables := some t }) (options : LedgerOptions) :
    ofDatabase db options
      = ((t.addExtents options.extents).1.map fun _ =>
          { versions, tables := (t.addExtents options.extents).2, nextWrite := 0 },
          { versions, tables := some (t.addExtents options.extents).2 }) := by
  unfold ofDatabase Database.prepare
  rw [h]
  simp only
  cases t.addExtents options.extents with
  | mk result t' =>
    cases result with
    | error e => rfl
    | ok u => rfl

namespace Database

/-- Where a ledger in the database begins, if that is stored. -/
def partitionStart? (db : Database) : Option Offset := db.tables.bind Tables.partitionStart?

/-- What comes of opening a ledger in a database and making it ready for use. -/
def ledger (db : Database) (options : LedgerOptions) : Except StorageError PagedLedger :=
  match (PagedLedger.ofDatabase db options).1 with
  | .error e => .error e
  | .ok l => Storage.load l

/-- Opening comes to the same in either database: to the same error, or to ledgers with the
same geometry that read the same. -/
def OpensAlike (db db' : Database) (options : LedgerOptions) : Prop :=
  match db.ledger options, db'.ledger options with
  | .error e, .error e' => e = e'
  | .ok l, .ok l' => Storage.geometry l = Storage.geometry l'
      ∧ ∀ offset len, Storage.read l offset len = Storage.read l' offset len
  | .ok _, .error _ | .error _, .ok _ => False

theorem OpensAlike.of_eq {db db' : Database} {options : LedgerOptions}
    (h : db.ledger options = db'.ledger options) : db.OpensAlike db' options := by
  unfold OpensAlike
  rw [h]
  cases db'.ledger options with
  | error e => rfl
  | ok l => exact ⟨rfl, fun _ _ => rfl⟩

theorem opensAlike_ok_iff {db db' : Database} {options : LedgerOptions} {l l' : PagedLedger}
    (h : db.ledger options = .ok l) (h' : db'.ledger options = .ok l') :
    db.OpensAlike db' options ↔ Storage.geometry l = Storage.geometry l'
      ∧ ∀ offset len, Storage.read l offset len = Storage.read l' offset len := by
  rw [OpensAlike, h, h']

/-- The schema change stores no beginning of a partition. -/
theorem partitionStart?_of_migrate {db : Database} {t : Tables} (h : db.Sound)
    (hmigrate : db.migrate = .ok { versions := [1], tables := some t }) :
    t.partitionStart? = db.partitionStart? := by
  rcases h with rfl | ⟨t', rfl, _⟩
  · cases hmigrate
    rfl
  · cases hmigrate
    rfl

/-- Where no ledger was opened, the one that is opened is empty. It begins where the tables
say, or else where its options do. -/
theorem ledger_of_fresh {db : Database} {options : LedgerOptions} {t : Tables}
    (hmigrate : db.migrate = .ok { versions := [1], tables := some t }) (hfresh : t.Fresh)
    (hok : (t.addExtents options.extents).1 = .ok ()) :
    ∃ l, db.ledger options = .ok l
      ∧ FlatStorage.Keeps l
          (.empty (t.partitionStart?.getD options.dataStart) options.pagedCapacity) := by
  have hopen := PagedLedger.ofDatabase_of_migrate hmigrate options
  rw [hok] at hopen
  obtain ⟨l, hload, hkeeps⟩ := PagedLedger.load_of_fresh hmigrate hfresh hopen
  exact ⟨l, by rw [ledger, hopen]; exact hload, hkeeps⟩

theorem ledger_of_addExtents_error {db : Database} {options : LedgerOptions} {t : Tables}
    {e : StorageError} (hmigrate : db.migrate = .ok { versions := [1], tables := some t })
    (herror : (t.addExtents options.extents).1 = .error e) : db.ledger options = .error e := by
  rw [ledger, PagedLedger.ofDatabase_of_migrate hmigrate, herror]
  rfl

/-- An open that fails leaves a beginning of a partition behind: none was stored, and the one
that it asks for fits. -/
def LeavesStart (db : Database) (failing : LedgerOptions) : Prop :=
  db.partitionStart? = none ∧ failing.dataStart.toNat < 2 ^ 63

/-- What an open that fails does: opening comes to the same afterwards, or the tables have a
beginning of a partition now, and still no ledger. -/
theorem failed_cases {db db' : Database} {failing : LedgerOptions} {e : StorageError}
    (h : db.Sound) (hfailed : PagedLedger.ofDatabase db failing = (.error e, db')) :
    (¬ db.LeavesStart failing ∧ ∀ options, db'.ledger options = db.ledger options)
      ∨ db.LeavesStart failing
        ∧ ∃ t t', db.migrate = .ok { versions := [1], tables := some t } ∧ t.Fresh
          ∧ t.partitionStart? = none
          ∧ db'.migrate = .ok { versions := [1], tables := some t' } ∧ t'.Fresh
          ∧ t'.partitionStart? = some failing.dataStart := by
  obtain ⟨t, hmigrate, ht⟩ := migrate_of_sound h
  have hstart := partitionStart?_of_migrate h hmigrate
  have hopen := PagedLedger.ofDatabase_of_migrate hmigrate failing
  rw [hfailed] at hopen
  cases hadd : t.addExtents failing.extents with
  | mk result t' =>
    rw [hadd] at hopen
    cases result with
    | ok u => cases hopen
    | error e' =>
      obtain rfl := congrArg Prod.snd hopen
      have hmigrate' : migrate { versions := [1], tables := some t' }
          = .ok { versions := [1], tables := some t' } := rfl
      have hsame : t' = t → ∀ options, ledger { versions := [1], tables := some t' } options
          = db.ledger options := by
        rintro rfl options
        rw [ledger, ledger, PagedLedger.ofDatabase_of_migrate hmigrate,
          PagedLedger.ofDatabase_of_migrate hmigrate']
      rcases Tables.addExtents_error_cases hadd with ⟨hlong, heq⟩ | ⟨hfits, hrow⟩
      · exact Or.inl ⟨fun hleaves => absurd hleaves.2 (by omega), hsame heq⟩
      · cases hnone : t.partitionStart? with
        | some d =>
          refine Or.inl ⟨?_, hsame (Tables.eq_of_partitionStart? hnone hrow)⟩
          rintro ⟨hnone', _⟩
          rw [← hstart, hnone] at hnone'
          cases hnone'
        | none =>
          have hfresh : t.Fresh := ht.resolve_right fun hs => hs.partitionStart?_ne_none hnone
          exact Or.inr ⟨⟨hstart.symm.trans hnone, hfits⟩, t, t', hmigrate, hfresh, hnone,
            hmigrate', (hfresh.addDataStart hrow).1, Tables.partitionStart?_addExtent hnone hrow⟩

/-- When an open that failed matters to a later one, in a database that was only opened and
used: if it left a beginning of a partition behind and the later open succeeds and asks for
another one. Then the later ledger begins where the failed open asked for. In all other cases
opening comes to the same as if the failed open had never been tried. -/
theorem opensAlike_after_failed_iff {db db' : Database} {failing options : LedgerOptions}
    {e : StorageError} (h : db.Untampered)
    (hfailed : PagedLedger.ofDatabase db failing = (.error e, db')) :
    (db'.OpensAlike db options
      ↔ ¬ (db.LeavesStart failing ∧ (∃ l, db.ledger options = .ok l)
          ∧ failing.dataStart ≠ options.dataStart))
    ∧ (db.LeavesStart failing → ∀ l, db.ledger options = .ok l →
        Storage.geometry l
          = .ok { dataStart := options.dataStart, capacity := options.pagedCapacity,
                  nextWrite := options.dataStart }
        ∧ ∃ l', db'.ledger options = .ok l'
          ∧ Storage.geometry l'
            = .ok { dataStart := failing.dataStart, capacity := options.pagedCapacity,
                    nextWrite := failing.dataStart }) := by
  rcases failed_cases h.sound hfailed with
    ⟨hnothing, hsame⟩ | ⟨hleaves, t, t', hmigrate, hfresh, hnone, hmigrate', hfresh', hstart⟩
  · refine ⟨?_, fun hleaves => absurd hleaves hnothing⟩
    exact iff_of_true (.of_eq (hsame options)) fun hleaves => hnothing hleaves.1
  · have hresult := Tables.addExtents_fst t' t options.extents
    cases hadd : (t.addExtents options.extents).1 with
    | error e' =>
      rw [hadd] at hresult
      have hledger := ledger_of_addExtents_error hmigrate hadd
      have hledger' := ledger_of_addExtents_error hmigrate' hresult
      have hfails : ∀ l, db.ledger options ≠ .ok l := by
        intro l hl
        rw [hledger] at hl
        cases hl
      refine ⟨iff_of_true (.of_eq (hledger'.trans hledger.symm)) ?_, ?_⟩
      · rintro ⟨_, ⟨l, hl⟩, _⟩
        exact hfails l hl
      · exact fun _ l hl => absurd hl (hfails l)
    | ok u =>
      rw [hadd] at hresult
      obtain ⟨l, hl, hkeeps⟩ := ledger_of_fresh hmigrate hfresh hadd
      obtain ⟨l', hl', hkeeps'⟩ := ledger_of_fresh hmigrate' hfresh' hresult
      rw [hnone, Option.getD_none] at hkeeps
      rw [hstart, Option.getD_some] at hkeeps'
      have hgeometry := FlatStorage.geometry_eq hkeeps
      have hgeometry' := FlatStorage.geometry_eq hkeeps'
      constructor
      · rw [opensAlike_ok_iff hl' hl, hgeometry, hgeometry']
        constructor
        · rintro ⟨hsame, _⟩ ⟨_, _, hother⟩
          exact hother (congrArg Geometry.dataStart (Except.ok.inj hsame))
        · intro hnot
          have hequal : failing.dataStart = options.dataStart := by
            by_contra hother
            exact hnot ⟨hleaves, ⟨l, hl⟩, hother⟩
          refine ⟨by rw [hequal], ?_⟩
          intro offset len
          rw [PagedLedger.read_eq_flat hkeeps, PagedLedger.read_eq_flat hkeeps', hequal]
      · intro _ l₁ hl₁
        rw [hl] at hl₁
        cases hl₁
        exact ⟨hgeometry, l', hl', hgeometry'⟩

/-- A ledger that is to begin at 5 cannot be opened in an empty database, as its capacity does
not fit. A ledger that is opened there afterwards begins at 5 as well, whatever its options say,
and at 0 had the first open not been tried. Where the beginning does not fit nothing is left. -/
theorem opensAlike_after_failed_iff_capacity :
    (∃ e db', PagedLedger.ofDatabase {} { dataStart := 5, capacity := 9223372036854775808 }
        = (.error e, db')
      ∧ ∃ l l', ledger {} {} = .ok l ∧ db'.ledger {} = .ok l'
        ∧ Storage.geometry l = .ok { dataStart := 0, capacity := 0, nextWrite := 0 }
        ∧ Storage.geometry l' = .ok { dataStart := 5, capacity := 0, nextWrite := 5 })
    ∧ ∃ e db', PagedLedger.ofDatabase {} { dataStart := 9223372036854775808 } = (.error e, db')
      ∧ db'.OpensAlike {} {} := by
  constructor
  · obtain ⟨e, db', hfailed⟩ : ∃ e db', PagedLedger.ofDatabase {}
        { dataStart := 5, capacity := 9223372036854775808 } = (.error e, db') := ⟨_, _, rfl⟩
    obtain ⟨l, hledger⟩ : ∃ l, ledger {} {} = .ok l := ⟨_, rfl⟩
    have hcapacity : ({} : LedgerOptions).pagedCapacity = 0 := by decide
    obtain ⟨hgeometry, l', hledger', hgeometry'⟩ :=
      (opensAlike_after_failed_iff .empty hfailed).2 ⟨rfl, by decide⟩ l hledger
    rw [hcapacity] at hgeometry hgeometry'
    exact ⟨e, db', hfailed, l, l', hledger, hledger', hgeometry, hgeometry'⟩
  · obtain ⟨e, db', hfailed⟩ : ∃ e db', PagedLedger.ofDatabase {}
        { dataStart := 9223372036854775808 } = (.error e, db') := ⟨_, _, rfl⟩
    refine ⟨e, db', hfailed, (opensAlike_after_failed_iff .empty hfailed).1.2 ?_⟩
    exact fun hleaves => absurd hleaves.1.2 (by decide)

/-- An open that fails can matter to a later one. -/
theorem not_opensAlike_after_failed :
    Untampered {}
    ∧ ∃ e db', PagedLedger.ofDatabase {} { dataStart := 5, capacity := 9223372036854775808 }
        = (.error e, db')
      ∧ ¬ db'.OpensAlike {} {} := by
  refine ⟨.empty, _, _, rfl, ?_⟩
  rintro ⟨hgeometry, _⟩
  exact absurd hgeometry (by decide)

end Database

end ByteLedger
