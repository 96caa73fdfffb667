import ByteLedger.Proofs.Persistence

set_option autoImplicit false

/-!
# What the tables of a ledger in pages look like

A ledger that was opened in an empty database has its three extents stored; its capacity is a whole
number of pages and a stored number; its pages are full and lie below the capacity, one row for
each; and there is no byte but zero outside what was written. Whatever is written, refreshed and
opened again keeps all of that (`PagedLedger.Lasting.wellFormed`).

Pages are stored before the extents are, so a write keeps the pages below a capacity that is not
stored yet: the capacity that the write will need (`Tables.Paged.writePages`).
-/

namespace ByteLedger

/-! ## Rows -/

namespace Rows

variable {κ ν : Type} [DecidableEq κ]

/-- A row of a table after one was put is that row, or was there before. -/
theorem mem_of_mem_put {rows : Rows κ ν} {key : κ} {value : ν} {row : κ × ν}
    (h : row ∈ rows.put key value) : row = (key, value) ∨ row ∈ rows := by
  induction rows with
  | nil => exact Or.inl (List.mem_singleton.1 h)
  | cons first rest ih =>
    obtain ⟨k, v⟩ := first
    simp only [put] at h
    split at h
    · rcases List.mem_cons.1 h with rfl | hrest
      · exact Or.inl rfl
      · exact Or.inr (List.mem_cons_of_mem _ hrest)
    · rcases List.mem_cons.1 h with rfl | hrest
      · exact Or.inr List.mem_cons_self
      · exact (ih hrest).imp_right (List.mem_cons_of_mem _)

/-- To put a row gives no key a second one. -/
theorem nodup_keys_put {rows : Rows κ ν} (h : (rows.map Prod.fst).Nodup) (key : κ) (value : ν) :
    ((rows.put key value).map Prod.fst).Nodup := by
  induction rows with
  | nil => exact List.pairwise_singleton _ key
  | cons first rest ih =>
    obtain ⟨k, v⟩ := first
    rw [List.map_cons, List.nodup_cons] at h
    simp only [put]
    split
    · rename_i hk
      subst hk
      exact List.nodup_cons.2 h
    · rename_i hk
      rw [List.map_cons, List.nodup_cons]
      refine ⟨?_, ih h.2⟩
      intro hmem
      obtain ⟨row, hrow, hkey⟩ := List.mem_map.1 hmem
      rcases mem_of_mem_put hrow with rfl | hold
      · exact hk hkey.symm
      · exact h.1 (List.mem_map.2 ⟨row, hold, hkey⟩)

end Rows

/-! ## Pages -/

namespace Tables

/-- All page rows are full and have an index below `count`, and no index has two. -/
structure Paged (t : Tables) (count : Nat) : Prop where
  length_eq : ∀ row ∈ t.pages, row.2.length = pageSize
  index_lt : ∀ row ∈ t.pages, row.1 < count
  nodup : (t.pages.map Prod.fst).Nodup

theorem paged_of_pages_eq_nil {t : Tables} (h : t.pages = []) (count : Nat) : t.Paged count := by
  constructor <;> rw [h]
  · exact fun row hrow => absurd hrow List.not_mem_nil
  · exact fun row hrow => absurd hrow List.not_mem_nil
  · exact List.nodup_nil

/-- Only the page rows count, and they may have more room. -/
theorem Paged.congr {t t' : Tables} {count count' : Nat} (h : t.Paged count)
    (hpages : t'.pages = t.pages) (hle : count ≤ count') : t'.Paged count' := by
  constructor <;> rw [hpages]
  · exact h.length_eq
  · exact fun row hrow => Nat.lt_of_lt_of_le (h.index_lt row hrow) hle
  · exact h.nodup

/-- One page is stored. -/
theorem Paged.put {t : Tables} {count index : Nat} {p : Bytes} (h : t.Paged count)
    (hlen : p.length = pageSize) (hindex : index < count) :
    Paged { t with pages := t.pages.put index p } count where
  length_eq := by
    intro row hrow
    rcases Rows.mem_of_mem_put hrow with rfl | hold
    · exact hlen
    · exact h.length_eq row hold
  index_lt := by
    intro row hrow
    rcases Rows.mem_of_mem_put hrow with rfl | hold
    · exact hindex
    · exact h.index_lt row hold
  nodup := Rows.nodup_keys_put h.nodup index p

/-- A range is stored page by page, each of them below the page in which the range ends. -/
theorem Paged.writePages {t t' : Tables} {count pos : Nat} {data : Bytes} (h : t.Paged count)
    (hend : pos + data.length ≤ count * pageSize) (hw : t.writePages pos data = .ok t') :
    t'.Paged count := by
  induction hn : data.length using Nat.strongRecOn generalizing t pos data with
  | ind n ih =>
    subst hn
    rw [Tables.writePages] at hw
    split at hw
    · cases hw
      exact h
    · rename_i hne
      have hpos : 0 < data.length := List.length_pos_iff.2 hne
      have hroom := room_pos pos
      cases hpage : t.page (pos / pageSize) with
      | error e =>
        rw [hpage] at hw
        cases hw
      | ok p =>
        rw [hpage] at hw
        have hplen := length_of_page hpage
        have hfit : pos % pageSize + (data.take (room pos)).length ≤ p.length := by
          rw [hplen, List.length_take]
          exact mod_add_le (Nat.min_le_left _ _)
        have hindex : pos / pageSize < count := by
          unfold pageSize at *
          omega
        refine ih (data.drop (room pos)).length (by rw [List.length_drop]; omega)
          (h.put (by rw [Bytes.length_overlay hfit, hplen]) hindex) ?_ hw rfl
        -- Where the range ends inside the page, nothing is left to be stored.
        rw [List.length_drop]
        by_cases hlast : data.length ≤ room pos
        · have hmod : pos % pageSize < pageSize := Nat.mod_lt _ (by decide)
          have hpageEnd : (pos / pageSize + 1) * pageSize ≤ count * pageSize :=
            Nat.mul_le_mul_right _ hindex
          unfold room pageSize at *
          omega
        · omega

/-- Opening a ledger stores no page. -/
theorem pages_addExtents (t : Tables) (xs : List (Extent × Offset)) :
    (t.addExtents xs).2.pages = t.pages := by
  induction xs generalizing t with
  | nil => rfl
  | cons row rest ih =>
    obtain ⟨x, o⟩ := row
    rw [addExtents]
    split
    · rfl
    · rename_i t' hadd
      rw [ih, (addExtent_cases hadd).2.1]

/-! ## Extents -/

/-- An offset is stored for an extent: there is a row, with that number. -/
def Stores (t : Tables) (x : Extent) (o : Offset) : Prop :=
  ∃ value, t.extents.get? x = some value ∧ value.toInt = o.toNat

/-- What can be read of an extent is stored. -/
theorem stores_of_extent {t : Tables} {x : Extent} {o : Offset} (h : t.extent x = .ok o) :
    t.Stores x o := by
  unfold extent at h
  split at h
  · cases h
  · rename_i value hvalue
    split at h
    · cases h
    · rename_i hsign
      cases h
      refine ⟨value, hvalue, ?_⟩
      have hzero : (0 : Int64).toInt = 0 := rfl
      rw [Int64.lt_iff_toInt_lt, hzero, Int.not_lt] at hsign
      have hle : (0 : Int64) ≤ value := by
        rw [Int64.le_iff_toInt_le, hzero]
        exact hsign
      rw [Int64.toNat_toUInt64_of_le hle, Int64.toNatClampNeg, Int.toNat_of_nonneg hsign]

/-- A stored offset is a signed number. -/
theorem Stores.toNat_lt {t : Tables} {x : Extent} {o : Offset} (h : t.Stores x o) :
    o.toNat < 2 ^ 63 := by
  obtain ⟨value, _, hvalue⟩ := h
  have hlt := Int64.toInt_lt value
  omega

end Tables

/-- Where rounding to whole pages gives a stored number, it gives whole pages. -/
theorem Offset.pageSize_dvd_roundUpToPage {o : Offset} (h : o.roundUpToPage.toNat < 2 ^ 63) :
    pageSize ∣ o.roundUpToPage.toNat := by
  have hround := o.toNat_roundUpToPage
  have hexact : o.roundUpToPage.toNat = (o.toNat + (pageSize - 1)) / pageSize * pageSize := by
    omega
  rw [hexact]
  exact Nat.dvd_mul_left _ _

namespace Flat

/-- All bytes are zero before the partition, and past what was written. -/
def Blank (f : Flat) : Prop :=
  ∀ o, o < f.dataStart.toNat ∨ max f.writtenEnd.toNat f.dataStart.toNat ≤ o → f.byte o = 0

theorem blank_empty (dataStart capacity : Offset) : (empty dataStart capacity).Blank :=
  fun _ _ => rfl

/-- A write in the partition is part of what was written. -/
theorem Blank.write {f : Flat} (h : f.Blank) {offset : Offset} {data : Bytes}
    (hd : f.dataStart.toNat ≤ offset.toNat) (hlen : offset.toNat + data.length < 2 ^ 64) :
    (f.write offset data).Blank := by
  intro o ho
  rw [toNat_writtenEnd_write f hlen] at ho
  change o < f.dataStart.toNat ∨ max _ f.dataStart.toNat ≤ o at ho
  rcases ho with hbefore | hpast
  · rw [byte_write_of_lt f data (by omega)]
    exact h o (Or.inl hbefore)
  · simp only [Flat.write]
    rw [if_neg (by omega)]
    exact h o (Or.inr (by omega))

end Flat

namespace PagedLedger

/-! ## Ledgers that last -/

/-- A ledger that was opened in an empty database and has been written, refreshed and opened again
since, with any options. Each opening makes it ready for use. -/
inductive Lasting : PagedLedger → Prop where
  | opened {options : LedgerOptions} {l : PagedLedger} :
      Database.ledger {} options = .ok l → Lasting l
  | write {l : PagedLedger} (offset : Offset) (data : Bytes) :
      Lasting l → Lasting (Storage.write l offset data).2
  | refresh {l : PagedLedger} : Lasting l → Lasting (Storage.refresh l).2
  | reopened {options : LedgerOptions} {l l' : PagedLedger} :
      Lasting l → l.database.ledger options = .ok l' → Lasting l'

/-- A ledger keeps a flat ledger in whole pages. -/
structure Intact (l : PagedLedger) (f : Flat) : Prop where
  versions_eq : l.versions = [1]
  keeps : FlatStorage.Keeps l f
  proper : f.Proper
  blank : f.Blank
  pageSize_dvd : pageSize ∣ f.capacity.toNat
  paged : l.tables.Paged (f.capacity.toNat / pageSize)

variable {l l' : PagedLedger} {f : Flat}

/-- A capacity of whole pages that can be stored is at least a page below the first number that
cannot. -/
theorem Intact.capacity_le (h : l.Intact f) : f.capacity.toNat ≤ 2 ^ 63 - pageSize := by
  have hstored := (Tables.stores_of_extent h.keeps.1.capacity).toNat_lt
  have hdvd := h.pageSize_dvd
  unfold pageSize at *
  omega

theorem keeps_refresh (h : FlatStorage.Keeps l f) :
    FlatStorage.Keeps { l with nextWrite := max f.writtenEnd f.dataStart } f.refresh :=
  ⟨h.1.withNextWrite _, rfl⟩

theorem Intact.refresh (h : l.Intact f) :
    Intact { l with nextWrite := max f.writtenEnd f.dataStart } f.refresh where
  versions_eq := h.versions_eq
  keeps := keeps_refresh h.keeps
  proper := h.proper.refresh
  blank := h.blank
  pageSize_dvd := h.pageSize_dvd
  paged := h.paged

/-- The capacity is the one that was there, or that of the write in whole pages. -/
theorem Intact.write {tables : Tables} {offset : Offset} {data : Bytes} (h : l.Intact f)
    (hw : writeTables l.tables offset data = .ok tables) :
    Intact { l with tables } (f.write offset data) := by
  obtain ⟨hd, hlen, hholds⟩ := holds_writeTables h.keeps.1 hw
  obtain ⟨_, _, t₁, t₂, _, _, _, _, hpages, hgrow, hmark⟩ := of_writeTables_eq_ok hw
  have hsame : tables.pages = t₁.pages :=
    (Tables.pages_markWritten hmark).trans (Tables.pages_growTo hgrow)
  have hstored := (Tables.stores_of_extent hholds.capacity).toNat_lt
  have hgrown : pageSize ∣ (f.write offset data).capacity.toNat := by
    simp only [Flat.write] at hstored ⊢
    split
    · rename_i hlt
      rw [if_pos hlt] at hstored
      exact Offset.pageSize_dvd_roundUpToPage hstored
    · exact h.pageSize_dvd
  have hreach := f.advance_le_capacity_write offset data
  rw [Offset.toNat_advance_of_lt hlen] at hreach
  have hpaged : t₁.Paged ((f.write offset data).capacity.toNat / pageSize) := by
    refine Tables.Paged.writePages ?_ ?_ hpages
    · exact h.paged.congr rfl (Nat.div_le_div_right (f.capacity_le_write offset data))
    · rw [Nat.div_mul_cancel hgrown]
      exact hreach
  exact ⟨h.versions_eq, ⟨hholds, h.keeps.2⟩, h.proper.write offset data, h.blank.write hd hlen,
    hgrown, hpaged.congr hsame (Nat.le_refl _)⟩

/-- A ledger that was just opened in an empty database has no pages, and a capacity that could be
stored. -/
theorem intact_of_opened {options : LedgerOptions} (h : Database.ledger {} options = .ok l) :
    l.Intact (.empty options.dataStart options.pagedCapacity) := by
  have hmigrate : Database.migrate {} = .ok { versions := [1], tables := some {} } := rfl
  rw [Database.ledger, ofDatabase_of_migrate hmigrate] at h
  cases hadd : ({} : Tables).addExtents options.extents with
  | mk result t =>
    rw [hadd] at h
    cases result with
    | error e => cases h
    | ok u =>
      have hholds : t.Holds (.empty options.dataStart options.pagedCapacity) :=
        Tables.fresh_empty.holds_addExtents hadd
      have hopened : FlatStorage.Keeps
          ({ versions := [1], tables := t, nextWrite := 0 } : PagedLedger)
          { Flat.empty options.dataStart options.pagedCapacity with nextWrite := 0 } :=
        ⟨hholds.withNextWrite 0, rfl⟩
      have hpages : t.pages = [] := by
        have hsame := Tables.pages_addExtents {} options.extents
        rw [hadd] at hsame
        exact hsame
      have hstored := (Tables.stores_of_extent hholds.capacity).toNat_lt
      simp only [Except.map] at h
      rw [load_eq hopened, refresh_eq hopened.1] at h
      cases h
      exact ⟨rfl, ⟨hholds, Offset.max_zero_left _⟩,
        Flat.proper_empty options.dataStart_le_pagedCapacity, Flat.blank_empty _ _,
        Offset.pageSize_dvd_roundUpToPage hstored, Tables.paged_of_pages_eq_nil hpages _⟩

/-- Every ledger that lasts is intact. -/
theorem Lasting.intact (h : l.Lasting) : ∃ f, l.Intact f := by
  induction h with
  | opened hopen => exact ⟨_, intact_of_opened hopen⟩
  | @write l offset data _ ih =>
    obtain ⟨f, hf⟩ := ih
    change ∃ g, Intact (Storage.orKeep l (l.write offset data)).2 g
    unfold PagedLedger.write
    cases hw : writeTables l.tables offset data with
    | error e => exact ⟨f, hf⟩
    | ok tables => exact ⟨_, hf.write hw⟩
  | @refresh l _ ih =>
    obtain ⟨f, hf⟩ := ih
    change ∃ g, Intact (Storage.orKeep l l.refresh).2 g
    rw [refresh_eq hf.keeps.1]
    exact ⟨_, hf.refresh⟩
  | @reopened options l l' _ hopen ih =>
    obtain ⟨f, hf⟩ := ih
    rw [ledger_database hf.versions_eq hf.keeps] at hopen
    cases hmisfit : options.misfit? with
    | some o =>
      rw [hmisfit] at hopen
      cases hopen
    | none =>
      rw [hmisfit] at hopen
      simp only at hopen
      rw [refresh_eq hf.keeps.1] at hopen
      cases hopen
      exact ⟨_, hf.refresh⟩

/-! ## What is stored -/

/-- A ledger is well formed with the given extents: they are stored, and so is nothing that lies
outside of them. -/
structure WellFormed (l : PagedLedger) (dataStart capacity writtenEnd : Offset) : Prop where
  dataStart_stored : l.tables.Stores .dataStart dataStart
  capacity_stored : l.tables.Stores .capacity capacity
  writtenEnd_stored : l.tables.Stores .writtenEnd writtenEnd
  /-- The capacity is a number of whole pages, and one that can be stored. -/
  pageSize_dvd : pageSize ∣ capacity.toNat
  capacity_le : capacity.toNat ≤ 2 ^ 63 - pageSize
  dataStart_le : dataStart ≤ capacity
  writtenEnd_le : writtenEnd ≤ capacity
  /-- Every page row is full and covered by the capacity, and no page has two rows. -/
  length_page : ∀ row ∈ l.tables.pages, row.2.length = pageSize
  index_lt : ∀ row ∈ l.tables.pages, row.1 < capacity.toNat / pageSize
  nodup : (l.tables.pages.map Prod.fst).Nodup
  /-- There are no bytes but zeros before the partition, and past what was written. -/
  byteAt_eq_zero : ∀ o, o < dataStart.toNat ∨ (max writtenEnd dataStart).toNat ≤ o →
    l.tables.byteAt o = 0
  /-- The first free offset lies between the partition and the end of what was written. -/
  dataStart_le_nextWrite : dataStart ≤ l.nextWrite
  nextWrite_le : l.nextWrite ≤ max writtenEnd dataStart
  written_le : max writtenEnd dataStart ≤ capacity

/-- A ledger that was opened in an empty database is well formed, whatever was written since then,
successfully or not, refreshed and opened again. -/
theorem Lasting.wellFormed (h : l.Lasting) :
    ∃ dataStart capacity writtenEnd, l.WellFormed dataStart capacity writtenEnd := by
  obtain ⟨f, hf⟩ := h.intact
  have hcapacity := Tables.stores_of_extent hf.keeps.1.capacity
  have hstored := hcapacity.toNat_lt
  have hstart := hf.proper.dataStart_le_capacity
  have hwritten := hf.proper.writtenEnd_le
  have hmax := Offset.toNat_max f.writtenEnd f.dataStart
  refine ⟨f.dataStart, f.capacity, f.writtenEnd, ?_⟩
  exact {
    dataStart_stored := Tables.stores_of_extent hf.keeps.1.dataStart
    capacity_stored := hcapacity
    writtenEnd_stored := Tables.stores_of_extent hf.keeps.1.writtenEnd
    pageSize_dvd := hf.pageSize_dvd
    capacity_le := by
      have hdvd := hf.pageSize_dvd
      unfold pageSize at *
      omega
    dataStart_le := UInt64.le_iff_toNat_le.2 hstart
    writtenEnd_le := UInt64.le_iff_toNat_le.2 hwritten
    length_page := hf.paged.length_eq
    index_lt := hf.paged.index_lt
    nodup := hf.paged.nodup
    byteAt_eq_zero := by
      intro o ho
      rw [hmax] at ho
      rw [hf.keeps.1.byte]
      exact hf.blank o ho
    dataStart_le_nextWrite := by
      rw [hf.keeps.2, UInt64.le_iff_toNat_le]
      exact hf.proper.dataStart_le
    nextWrite_le := by
      rw [hf.keeps.2, UInt64.le_iff_toNat_le, hmax]
      exact hf.proper.nextWrite_le
    written_le := by
      rw [UInt64.le_iff_toNat_le, hmax]
      omega }

/-- A ledger that begins two bytes before the end of a page. A write over that end is followed by
one before the partition, which fails, and the database is opened again with other options, of
which nothing is taken. -/
theorem Lasting.wellFormed_reopened :
    ∃ l₀ l l' : PagedLedger, Database.ledger {} { dataStart := 65534 } = .ok l₀
      ∧ (Storage.write (Storage.write l₀ 65535 [1, 2, 3]).2 3 [4]).2 = l
      ∧ l.database.ledger { dataStart := 7, capacity := 200000 } = .ok l'
      ∧ Storage.geometry l' = .ok { dataStart := 65534, capacity := 131072, nextWrite := 65538 }
      ∧ ∃ dataStart capacity writtenEnd, l'.WellFormed dataStart capacity writtenEnd := by
  obtain ⟨l₀, hopen⟩ : ∃ l₀, Database.ledger {} { dataStart := 65534 } = .ok l₀ := ⟨_, rfl⟩
  have hlasts := Lasting.write 3 [4] (.write 65535 [1, 2, 3] (.opened hopen))
  obtain ⟨l₁, hw₁, hkeeps₁⟩ := writes (intact_of_opened hopen).keeps
    (show Operation.Fits _ (.write 65535 [1, 2, 3]) by decide)
  obtain ⟨l, hw, hkeeps⟩ := writes hkeeps₁ (show Operation.Fits _ (.write 3 [4]) by decide)
  rw [hw₁, hw] at hlasts
  obtain ⟨f, hf⟩ := hlasts.intact
  have hmisfit : LedgerOptions.misfit? { dataStart := 7, capacity := 200000 } = none := by decide
  have hledger := ledger_database hf.versions_eq hkeeps { dataStart := 7, capacity := 200000 }
  rw [hmisfit, refresh_eq hkeeps.1] at hledger
  refine ⟨l₀, l, _, hopen, by rw [hw₁, hw], hledger, ?_, (hlasts.reopened hledger).wellFormed⟩
  exact (FlatStorage.geometry_eq (keeps_refresh hkeeps)).trans (by decide +kernel)

end PagedLedger

end ByteLedger
