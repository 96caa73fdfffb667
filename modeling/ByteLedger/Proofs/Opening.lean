import ByteLedger.Proofs.Paged

set_option autoImplicit false

/-!
# What a database can come to hold

A database that starts empty and is only touched by opening ledgers in it, successfully or
not, and by using the ledgers that were opened. Either some ledger was opened, and the
tables hold a flat ledger from then on; or none was, there are no pages, and at most the
beginning of the partition is stored, which an opening that failed leaves behind. Opening
with a capacity that does not fit is such a failure.
-/

namespace ByteLedger

namespace Tables

/-- No ledger was opened in these tables yet. -/
structure Fresh (t : Tables) : Prop where
  pages : t.pages = []
  dataStart : ∀ value, t.extents.get? .dataStart = some value → ¬ value < 0
  capacity : t.extents.get? .capacity = none
  writtenEnd : t.extents.get? .writtenEnd = none

theorem fresh_empty : Fresh {} where
  pages := rfl
  dataStart := by
    intro value h
    cases h
  capacity := rfl
  writtenEnd := rfl

/-- The stored beginning of the partition. -/
def partitionStart? (t : Tables) : Option Offset := (t.extents.get? .dataStart).map Int64.toUInt64

/-- The tables hold a ledger whose capacity reaches the end of what was written. -/
def Settled (t : Tables) : Prop := ∃ f : Flat, t.Holds f ∧ f.writtenEnd.toNat ≤ f.capacity.toNat

/-- Adding an extent adds its row if it is missing and changes nothing else. -/
theorem addExtent_cases {t t' : Tables} {x : Extent} {o : Offset} (h : t.addExtent x o = .ok t') :
    o.toNat < 2 ^ 63 ∧ t'.pages = t.pages
      ∧ ∀ y, t'.extents.get? y
          = if x = y then some ((t.extents.get? x).getD o.toInt64) else t.extents.get? y := by
  unfold addExtent Offset.toStored at h
  split at h
  · cases h
  · rename_i value hv
    split at hv
    · rename_i ho
      cases hv
      cases h
      exact ⟨ho, rfl, fun y => Rows.get?_putIfMissing _ _ _ _⟩
    · cases hv

/-- Tables in which all extents are stored stay as they are. -/
theorem addExtents_of_stored {t : Tables} (h : ∀ x, ∃ value, t.extents.get? x = some value)
    (xs : List (Extent × Offset)) : (t.addExtents xs).2 = t := by
  induction xs with
  | nil => rfl
  | cons row rest ih =>
    obtain ⟨x, o⟩ := row
    obtain ⟨value, hvalue⟩ := h x
    rw [addExtents, addExtent]
    split
    · rfl
    · rename_i t' hadd
      split at hadd
      · cases hadd
      · cases hadd
        rw [Rows.putIfMissing_of_some hvalue]
        exact ih

theorem stored_of_extent {t : Tables} {x : Extent} {o : Offset} (h : t.extent x = .ok o) :
    ∃ value, t.extents.get? x = some value := by
  unfold extent at h
  split at h
  · cases h
  · rename_i value hvalue
    exact ⟨value, hvalue⟩

theorem Holds.stored {t : Tables} {f : Flat} (h : t.Holds f) (x : Extent) :
    ∃ value, t.extents.get? x = some value := by
  cases x with
  | dataStart => exact stored_of_extent h.dataStart
  | capacity => exact stored_of_extent h.capacity
  | writtenEnd => exact stored_of_extent h.writtenEnd

theorem extent_of_get? {t : Tables} {x : Extent} {value : Int64}
    (h : t.extents.get? x = some value) (hv : ¬ value < 0) : t.extent x = .ok value.toUInt64 := by
  rw [extent, h]
  simp only
  rw [if_neg hv]

theorem extent_of_get?_toInt64 {t : Tables} {x : Extent} {o : Offset} (ho : o.toNat < 2 ^ 63)
    (h : t.extents.get? x = some o.toInt64) : t.extent x = .ok o :=
  extent_of_get? h (Offset.toInt64_nonneg ho)

/-- A row for the beginning of the partition leaves tables without a ledger. -/
theorem Fresh.addDataStart {t t' : Tables} {o : Offset} (h : t.Fresh)
    (hadd : t.addExtent .dataStart o = .ok t') :
    t'.Fresh ∧ ∃ d, t'.extent .dataStart = .ok d := by
  obtain ⟨ho, hpages, hget⟩ := addExtent_cases hadd
  have hd : t'.extents.get? .dataStart = some ((t.extents.get? .dataStart).getD o.toInt64) := by
    rw [hget, if_pos rfl]
  have hnonneg : ¬ (t.extents.get? .dataStart).getD o.toInt64 < 0 := by
    cases hrow : t.extents.get? .dataStart with
    | none => exact Offset.toInt64_nonneg ho
    | some value => exact h.dataStart value hrow
  refine ⟨⟨hpages.trans h.pages, ?_, ?_, ?_⟩, _, extent_of_get? hd hnonneg⟩
  · intro value hvalue
    rw [hd] at hvalue
    cases hvalue
    exact hnonneg
  · rw [hget, if_neg (by decide), h.capacity]
  · rw [hget, if_neg (by decide), h.writtenEnd]

/-- Tables without a ledger to which the extents of a new one are added hold the empty flat
ledger. Its partition begins where the tables say, if they say so already. -/
theorem Fresh.holds_addExtents {options : LedgerOptions} {t t' : Tables} (h : t.Fresh)
    (hadd : t.addExtents options.extents = (.ok (), t')) :
    t'.Holds (.empty (t.partitionStart?.getD options.dataStart) options.pagedCapacity) := by
  unfold LedgerOptions.extents at hadd
  rw [addExtents] at hadd
  split at hadd
  · cases hadd
  · rename_i t₁ h₁
    obtain ⟨hstart, hpages₁, hget₁⟩ := addExtent_cases h₁
    rw [addExtents] at hadd
    split at hadd
    · cases hadd
    · rename_i t₂ h₂
      obtain ⟨hcap, hpages₂, hget₂⟩ := addExtent_cases h₂
      rw [addExtents] at hadd
      split at hadd
      · cases hadd
      · rename_i t₃ h₃
        obtain ⟨hzero, hpages₃, hget₃⟩ := addExtent_cases h₃
        cases hadd
        have hpages : t'.pages = [] := hpages₃.trans (hpages₂.trans (hpages₁.trans h.pages))
        have hrow : t'.extents.get? .dataStart
            = some ((t.extents.get? .dataStart).getD options.dataStart.toInt64) := by
          rw [hget₃, if_neg (by decide), hget₂, if_neg (by decide), hget₁, if_pos rfl]
        refine ⟨?_, ?_, ?_, ?_, ?_, rfl⟩
        · unfold partitionStart?
          cases hold : t.extents.get? .dataStart with
          | none =>
            rw [hold] at hrow
            exact extent_of_get?_toInt64 hstart hrow
          | some value =>
            rw [hold] at hrow
            exact extent_of_get? hrow (h.dataStart value hold)
        · apply extent_of_get?_toInt64 hcap
          rw [hget₃, if_neg (by decide), hget₂, if_pos rfl, hget₁, if_neg (by decide), h.capacity]
          rfl
        · apply extent_of_get?_toInt64 hzero
          rw [hget₃, if_pos rfl, hget₂, if_neg (by decide), hget₁, if_neg (by decide),
            h.writtenEnd]
          rfl
        · intro index p hp
          rw [hpages] at hp
          cases hp
        · intro o
          rw [Tables.byteAt, hpages]
          exact Bytes.getD_zeros _ _

/-- The extents of a new ledger cannot be added because the beginning of the partition does not
fit, and the tables stay; or because the capacity does not, and the beginning of the partition
stays behind. -/
theorem addExtents_error_cases {t t' : Tables} {options : LedgerOptions} {e : StorageError}
    (h : t.addExtents options.extents = (.error e, t')) :
    (2 ^ 63 ≤ options.dataStart.toNat ∧ t' = t)
      ∨ options.dataStart.toNat < 2 ^ 63 ∧ t.addExtent .dataStart options.dataStart = .ok t' := by
  unfold LedgerOptions.extents at h
  rw [addExtents] at h
  cases h₁ : t.addExtent .dataStart options.dataStart with
  | error e' =>
    rw [h₁] at h
    cases h
    refine Or.inl ⟨?_, rfl⟩
    by_cases hfits : options.dataStart.toNat < 2 ^ 63
    · rw [addExtent, Offset.toStored, if_pos hfits] at h₁
      cases h₁
    · omega
  | ok t₁ =>
    rw [h₁] at h
    simp only at h
    rw [addExtents] at h
    refine Or.inr ⟨(addExtent_cases h₁).1, ?_⟩
    cases h₂ : t₁.addExtent .capacity options.pagedCapacity with
    | error e' =>
      rw [h₂] at h
      cases h
      rfl
    | ok t₂ =>
      rw [h₂] at h
      cases h

/-- Adding the extents of a new ledger to tables without one: it stops at one that does not
fit, and there is no ledger yet, or the tables hold a new ledger. -/
theorem Fresh.addExtents_cases {t : Tables} (h : t.Fresh) (options : LedgerOptions) :
    (∃ e t', t.addExtents options.extents = (.error e, t') ∧ t'.Fresh)
      ∨ ∃ t', t.addExtents options.extents = (.ok (), t') ∧ t'.Settled := by
  cases hadd : t.addExtents options.extents with
  | mk result t' =>
    cases result with
    | error e =>
      refine Or.inl ⟨e, t', rfl, ?_⟩
      rcases addExtents_error_cases hadd with ⟨_, rfl⟩ | ⟨_, hstart⟩
      · exact h
      · exact (h.addDataStart hstart).1
    | ok u => exact Or.inr ⟨t', rfl, _, h.holds_addExtents hadd, Nat.zero_le _⟩

end Tables

namespace Database

/-- What a database can become by opening ledgers in it and using them. -/
inductive Untampered : Database → Prop where
  | empty : Untampered {}
  /-- A ledger was opened, or could not be. -/
  | opened {db : Database} (options : LedgerOptions) :
      Untampered db → Untampered (PagedLedger.ofDatabase db options).2
  /-- A ledger was opened and made ready, was then written and refreshed, and was closed. -/
  | used {db db' : Database} {options : LedgerOptions} {l l₀ l' : PagedLedger} :
      Untampered db → PagedLedger.ofDatabase db options = (.ok l, db') →
      Storage.load l = .ok l₀ → Storage.Reaches l₀ l' → Untampered l'.database

/-- The empty database, or one of the known schema in which no ledger was opened yet or
whose tables hold one. -/
def Sound (db : Database) : Prop :=
  db = {} ∨ ∃ t, db = { versions := [1], tables := some t } ∧ (t.Fresh ∨ t.Settled)

theorem migrate_of_sound {db : Database} (h : db.Sound) :
    ∃ t, db.migrate = .ok { versions := [1], tables := some t } ∧ (t.Fresh ∨ t.Settled) := by
  rcases h with rfl | ⟨t, rfl, ht⟩
  · exact ⟨{}, rfl, Or.inl Tables.fresh_empty⟩
  · exact ⟨t, rfl, ht⟩

/-- Making a sound database ready fails and leaves it sound, or gives tables that hold a
ledger. -/
theorem prepare_cases {db : Database} (h : db.Sound) (options : LedgerOptions) :
    (∃ e db', db.prepare options = (.error e, db') ∧ db'.Sound)
      ∨ ∃ t, db.prepare options = (.ok t, { versions := [1], tables := some t }) ∧ t.Settled := by
  obtain ⟨t, hmigrate, ht⟩ := migrate_of_sound h
  unfold prepare
  rw [hmigrate]
  simp only
  rcases ht with hfresh | hsettled
  · rcases hfresh.addExtents_cases options with ⟨e, t', hadd, hfresh'⟩ | ⟨t', hadd, hsettled'⟩
    · rw [hadd]
      exact Or.inl ⟨e, _, rfl, Or.inr ⟨t', rfl, Or.inl hfresh'⟩⟩
    · rw [hadd]
      exact Or.inr ⟨t', rfl, hsettled'⟩
  · obtain ⟨f, hholds, _⟩ := id hsettled
    have hsame := Tables.addExtents_of_stored hholds.stored options.extents
    cases hadd : t.addExtents options.extents with
    | mk result t' =>
      rw [hadd] at hsame
      simp only at hsame
      subst hsame
      cases result with
      | error e => exact Or.inl ⟨e, _, rfl, Or.inr ⟨_, rfl, Or.inr hsettled⟩⟩
      | ok u => exact Or.inr ⟨_, rfl, hsettled⟩

end Database

namespace PagedLedger

/-- Opening a ledger in a sound database fails and leaves it sound, or gives a ledger that
keeps a flat ledger. -/
theorem ofDatabase_cases {db : Database} (h : db.Sound) (options : LedgerOptions) :
    (∃ e db', ofDatabase db options = (.error e, db') ∧ db'.Sound)
      ∨ ∃ t, ofDatabase db options
          = (.ok { versions := [1], tables := t, nextWrite := 0 },
              { versions := [1], tables := some t }) ∧ t.Settled := by
  unfold ofDatabase
  rcases Database.prepare_cases h options with ⟨e, db', hp, hdb'⟩ | ⟨t, hp, ht⟩
  · rw [hp]
    exact Or.inl ⟨e, db', rfl, hdb'⟩
  · rw [hp]
    exact Or.inr ⟨t, rfl, ht⟩

theorem versions_of_reaches {l l' : PagedLedger} (h : Storage.Reaches l l') :
    l'.versions = l.versions := by
  apply h.invariant (P := fun u => u.versions = l.versions) rfl
  · intro u offset data hu
    change (Storage.orKeep u (u.write offset data)).2.versions = _
    unfold write
    cases writeTables u.tables offset data with
    | error e => exact hu
    | ok tables => exact hu
  · intro u hu
    change (Storage.orKeep u u.refresh).2.versions = _
    unfold refresh
    cases u.tables.extent .dataStart with
    | error e => exact hu
    | ok dataStart =>
      cases u.tables.extent .writtenEnd with
      | error e => exact hu
      | ok writtenEnd => exact hu

/-- A ledger that was opened in a sound database, made ready, and then written and refreshed
keeps a sound flat ledger. -/
theorem keeps_of_opened {db db' : Database} {options : LedgerOptions} {l l₀ l' : PagedLedger}
    (h : db.Sound) (hopen : ofDatabase db options = (.ok l, db')) (hload : Storage.load l = .ok l₀)
    (hreach : Storage.Reaches l₀ l') :
    l'.versions = [1] ∧ ∃ f, FlatStorage.Keeps l' f ∧ f.Sound := by
  rcases ofDatabase_cases h options with ⟨e, db'', hopen', _⟩ | ⟨t, hopen', f, hholds, hle⟩
  · rw [hopen] at hopen'
    cases hopen'
  · rw [hopen] at hopen'
    cases hopen'
    obtain ⟨l₁, hload', hkeeps₁⟩ := load_of_holds hholds [1]
    rw [hload] at hload'
    cases hload'
    refine ⟨?_, FlatStorage.sound_of_reaches hreach ⟨_, hkeeps₁, Flat.sound_refresh hle⟩⟩
    rw [versions_of_reaches hreach, versions_of_reaches (Storage.reaches_of_load hload)]

end PagedLedger

/-- Every untampered database is sound. -/
theorem Database.Untampered.sound {db : Database} (h : db.Untampered) : db.Sound := by
  induction h with
  | empty => exact Or.inl rfl
  | opened options _ ih =>
    rcases PagedLedger.ofDatabase_cases ih options with ⟨e, db', hopen, hdb'⟩ | ⟨t, hopen, ht⟩
    · rw [hopen]
      exact hdb'
    · rw [hopen]
      exact Or.inr ⟨t, rfl, Or.inr ht⟩
  | used _ hopen hload hreach ih =>
    obtain ⟨hversions, f, hkeeps, hsound⟩ := PagedLedger.keeps_of_opened ih hopen hload hreach
    refine Or.inr ⟨_, ?_, Or.inr ⟨f, hkeeps.1, hsound.writtenEnd_le⟩⟩
    rw [PagedLedger.database, hversions]

namespace PagedLedger

/-- A ledger that was opened in an untampered database, made ready, and then written and
refreshed. -/
def Reachable (l : PagedLedger) : Prop :=
  ∃ db options l₁ db' l₀, Database.Untampered db ∧ ofDatabase db options = (.ok l₁, db')
    ∧ Storage.load l₁ = .ok l₀ ∧ Storage.Reaches l₀ l

theorem Reachable.of_reaches {l l' : PagedLedger} (h : l.Reachable)
    (hreach : Storage.Reaches l l') : l'.Reachable := by
  obtain ⟨db, options, l₁, db', l₀, hdb, hopen, hload, hreach₀⟩ := h
  exact ⟨db, options, l₁, db', l₀, hdb, hopen, hload, hreach₀.trans hreach⟩

theorem Reachable.sound {l : PagedLedger} (h : l.Reachable) :
    ∃ f, FlatStorage.Keeps l f ∧ f.Sound := by
  obtain ⟨db, options, l₁, db', l₀, hdb, hopen, hload, hreach⟩ := h
  exact (keeps_of_opened hdb.sound hopen hload hreach).2

end PagedLedger

end ByteLedger
