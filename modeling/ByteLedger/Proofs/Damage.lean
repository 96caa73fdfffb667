import ByteLedger.Proofs.PageLoop
import ByteLedger.Proofs.Writable

set_option autoImplicit false

/-!
# Ledgers in damaged tables

A database that was changed by others can hold any tables: extents that are missing, negative or in
no order, and page rows of any length. What is said here is said of all of them.

A read needs the capacity, and the rows of the pages in which its range lies (`Tables.Gives`). It
gives the bytes that are stored, or it is refused. A write needs all three extents and the rows of
its pages (`Tables.Takes`). It changes the bytes of its range, and raises the capacity and the end
of what was written; or it is refused, and changes nothing, also where the page that cannot be
loaded comes after others that were stored (`PagedLedger.read_write_cases`).

Bytes are taken from the rows here (`Tables.byte?`). `Tables.byteAt` would not do: it has a zero
where a row is too short.
-/

namespace ByteLedger

namespace Tables

variable {t t' : Tables} {pos o : Nat} {data : Bytes}

/-! ## Stored bytes -/

/-- The byte of an offset in the row of its page, zero if there is no such row. A row that is too
short has none. -/
def byte? (t : Tables) (o : Nat) : Option UInt8 :=
  match t.pages.get? (o / pageSize) with
  | none => some 0
  | some p => p[o % pageSize]?

/-- A row of the full length has all bytes of its page. -/
theorem byte?_eq_byteAt (h : ∀ p, t.pages.get? (o / pageSize) = some p → p.length = pageSize) :
    t.byte? o = some (t.byteAt o) := by
  rw [byte?, byteAt]
  cases hrow : t.pages.get? (o / pageSize) with
  | none => rw [Option.getD_none, Bytes.getD_zeros]
  | some p =>
    have hmod : o % pageSize < p.length := by
      rw [h p hrow]
      exact Nat.mod_lt _ (by decide)
    simp only [Option.getD_some, List.getD_eq_getElem?_getD, List.getElem?_eq_getElem hmod]

theorem byte?_congr (h : t'.pages.get? (o / pageSize) = t.pages.get? (o / pageSize)) :
    t'.byte? o = t.byte? o := by
  rw [byte?, byte?, h]

/-- The stored bytes of a range that can be read. -/
theorem Whole.byte?_eq {len i : Nat} (h : t.Whole pos len) (hi : i < len) :
    t.byte? (pos + i) = some (t.byteAt (pos + i)) :=
  byte?_eq_byteAt (h _ ⟨pos + i, by omega, by omega, rfl⟩)

/-- Pages are loaded whole and stored whole, and still no byte outside of the range has changed. -/
theorem Overlaid.byte?_eq (h : t.Overlaid t' pos data) (hwhole : t.Whole pos data.length)
    (o : Nat) : t'.byte? o
      = if pos ≤ o ∧ o < pos + data.length then data[o - pos]? else t.byte? o := by
  by_cases htouches : Touches pos data.length (o / pageSize)
  · obtain ⟨p, hp, hlen⟩ := h.row_full _ htouches
    have hnew : t'.byte? o = some (t'.byteAt o) := byte?_eq_byteAt fun q hq => by
      rw [hp] at hq
      cases hq
      exact hlen
    rw [hnew, byte?_eq_byteAt (hwhole _ htouches), h.byteAt_eq]
    by_cases hin : pos ≤ o ∧ o < pos + data.length
    · have hlt : o - pos < data.length := by omega
      rw [if_pos hin, if_pos hin, List.getD_eq_getElem?_getD, List.getElem?_eq_getElem hlt,
        Option.getD_some]
    · rw [if_neg hin, if_neg hin]
  · rw [byte?_congr (h.row_eq _ htouches), if_neg]
    exact fun hin => htouches ⟨o, hin.1, hin.2, rfl⟩

/-! ## What is needed and what is done -/

/-- An extent is stored, or what there is for it is refused. -/
theorem extent_cases (t : Tables) (x : Extent) :
    (∃ o, t.extent x = .ok o) ∨ ∃ detail, t.extent x = .error (.invalidData detail) := by
  unfold extent
  cases t.extents.get? x with
  | none => exact Or.inr ⟨_, rfl⟩
  | some value =>
    by_cases hsign : value < 0
    · exact Or.inr ⟨_, if_pos hsign⟩
    · exact Or.inl ⟨_, if_neg hsign⟩

/-- What a read needs: a capacity that is not passed, and no page row of another length in its
range. -/
structure Gives (t : Tables) (offset len : Offset) : Prop where
  capacity : ∃ capacity, t.extent .capacity = .ok capacity
    ∧ offset.toNat + len.toNat ≤ capacity.toNat
  whole : t.Whole offset.toNat len.toNat

/-- The tables `t'` are `t` after a write: the bytes of its range are the new ones and all others
the old ones, no page row outside of it is touched, and the capacity and the end of what was written
are raised if they have to be. -/
structure Written (t : Tables) (offset : Offset) (data : Bytes) (t' : Tables) : Prop where
  byte?_eq : ∀ o, t'.byte? o
    = if offset.toNat ≤ o ∧ o < offset.toNat + data.length then data[o - offset.toNat]?
      else t.byte? o
  row_eq : ∀ index, ¬ Touches offset.toNat data.length index →
    t'.pages.get? index = t.pages.get? index
  dataStart_eq : t'.extent .dataStart = t.extent .dataStart
  capacity_eq : ∀ capacity, t.extent .capacity = .ok capacity →
    t'.extent .capacity = .ok (if capacity < offset.advance data.length
      then (offset.advance data.length).roundUpToPage else capacity)
  writtenEnd_eq : ∀ writtenEnd, t.extent .writtenEnd = .ok writtenEnd →
    t'.extent .writtenEnd = .ok (max writtenEnd (offset.advance data.length))

end Tables

namespace PagedLedger

open Tables

variable {t t' : Tables} {offset : Offset} {data : Bytes}

/-! ## Reading -/

/-- A read gives the bytes that are stored, as many as were asked for. Otherwise its range passes
the capacity, or what is stored is refused. -/
theorem read_cases (l : PagedLedger) (offset len : Offset) :
    (l.tables.Gives offset len ∧ ∃ bs, l.read offset len = .ok bs ∧ bs.length = len.toNat
        ∧ ∀ i, i < len.toNat → bs[i]? = l.tables.byte? (offset.toNat + i))
      ∨ ¬ l.tables.Gives offset len
        ∧ ((∃ capacity, l.tables.extent .capacity = .ok capacity
              ∧ capacity.toNat < offset.toNat + len.toNat
              ∧ l.read offset len
                = .error (.outOfRange offset (offset.advance len.toNat) capacity))
          ∨ ∃ detail, l.read offset len = .error (.invalidData detail)) := by
  rw [read]
  rcases l.tables.extent_cases .capacity with ⟨capacity, hcapacity⟩ | ⟨detail, hcapacity⟩
  · rw [hcapacity]
    simp only
    by_cases hrange : offset.toNat + len.toNat ≤ capacity.toNat
    · rw [if_pos hrange]
      rcases l.tables.readPages_cases offset.toNat len.toNat with
        ⟨hwhole, hread⟩ | ⟨index, p, htouches, hp, hlen, hread⟩
      · refine Or.inl ⟨⟨⟨capacity, hcapacity, hrange⟩, hwhole⟩, _, hread,
          Bytes.length_span _ _ _, ?_⟩
        intro i hi
        rw [Bytes.getElem?_span _ hi, hwhole.byte?_eq hi]
      · exact Or.inr ⟨fun h => hlen (h.whole index htouches p hp), Or.inr ⟨_, hread⟩⟩
    · rw [if_neg hrange]
      refine Or.inr ⟨fun h => ?_, Or.inl ⟨capacity, rfl, Nat.not_le.1 hrange, rfl⟩⟩
      obtain ⟨c, hc, hle⟩ := h.capacity
      rw [hcapacity] at hc
      cases hc
      exact hrange hle
  · rw [hcapacity]
    refine Or.inr ⟨fun h => ?_, Or.inr ⟨detail, rfl⟩⟩
    obtain ⟨c, hc, _⟩ := h.capacity
    rw [hcapacity] at hc
    cases hc

/-! ## Writing -/

/-- A write that succeeds had what it needs, and is done. -/
theorem takes_of_writeTables (h : writeTables t offset data = .ok t') :
    t.Takes offset data ∧ t.Written offset data t' := by
  obtain ⟨dataStart, capacity, t₁, t₂, hstart, hcapacity, hd, hlen, hpages, hgrow, hmark⟩ :=
    of_writeTables_eq_ok h
  have hadvance := Offset.toNat_advance_of_lt hlen
  obtain ⟨hwhole, hlaid⟩ := overlaid_of_writePages hpages
  have hextent := extent_congr hlaid.extents_eq
  obtain ⟨hx₂, hc₂⟩ := growTo_cases hgrow (by rw [hextent, hcapacity])
  have hroom := (growTo_ok_iff t₁ capacity _).1 ⟨t₂, hgrow⟩
  obtain ⟨writtenEnd, hend, hfits⟩ := (markWritten_ok_iff t₂ _).1 ⟨t', hmark⟩
  obtain ⟨hx₃, hc₃⟩ := markWritten_cases hmark hend
  rw [hx₂ _ (by decide), hextent] at hend
  rw [hadvance] at hroom hfits
  have hrows : t'.pages = t₁.pages := (pages_markWritten hmark).trans (pages_growTo hgrow)
  constructor
  · exact {
      dataStart := ⟨dataStart, hstart, UInt64.le_iff_toNat_le.2 hd⟩
      fits := hlen
      whole := hwhole
      capacity := ⟨capacity, hcapacity, hroom⟩
      writtenEnd := ⟨writtenEnd, hend, hfits⟩ }
  · exact {
      byte?_eq := fun o => (byte?_congr (by rw [hrows])).trans (hlaid.byte?_eq hwhole o)
      row_eq := fun index htouches => by rw [hrows, hlaid.row_eq index htouches]
      dataStart_eq := by rw [hx₃ _ (by decide), hx₂ _ (by decide), hextent]
      capacity_eq := by
        intro c hc
        rw [hcapacity] at hc
        cases hc
        rw [hx₃ _ (by decide), hc₂]
      writtenEnd_eq := by
        intro w hw
        rw [hend] at hw
        cases hw
        exact hc₃ }

/-- A write has what it needs and is done, or it is refused, and the ledger is the one before it. -/
theorem write_cases (l : PagedLedger) (offset : Offset) (data : Bytes) :
    (l.tables.Takes offset data ∧ ∃ tables, l.tables.Written offset data tables
        ∧ Storage.write l offset data = (.ok (), { l with tables }))
      ∨ ¬ l.tables.Takes offset data ∧ ∃ e, Storage.write l offset data = (.error e, l) := by
  cases hw : writeTables l.tables offset data with
  | ok tables =>
    obtain ⟨htakes, hwritten⟩ := takes_of_writeTables hw
    exact Or.inl ⟨htakes, tables, hwritten, write_of_ok hw⟩
  | error e =>
    refine Or.inr ⟨fun htakes => ?_, e, write_of_error hw⟩
    obtain ⟨t', hok⟩ := writeTables_of_takes htakes
    rw [hw] at hok
    cases hok

/-- The statements of a write that meets a page row of another length fail there, and have stored
what lies before. -/
theorem writeStatements_of_not_whole {turns : Nat} {dataStart capacity : Offset}
    (hstart : t.extent .dataStart = .ok dataStart) (hd : ¬ offset < dataStart)
    (hcapacity : t.extent .capacity = .ok capacity) (hlen : offset.toNat + data.length < 2 ^ 64)
    (hturns : pageCount offset.toNat data.length < turns)
    (hwhole : ¬ t.Whole offset.toNat data.length) :
    ∃ k e s', Writing.LeftAt { tables := t, pos := offset, rest := data } k e s'
      ∧ writeStatements turns t offset data = .failed e s'.tables := by
  rcases loop_writeTurn (s := { tables := t, pos := offset, rest := data }) hlen hturns with
    ⟨s', hwrite, _⟩ | ⟨k, e, s', hleft, _, hloop⟩
  · exact absurd (overlaid_of_writePages hwrite).1 hwhole
  · refine ⟨k, e, s', hleft, ?_⟩
    rw [writeStatements, hstart]
    simp only
    rw [if_neg hd, hcapacity]
    simp only
    rw [Offset.advance?_eq_some hlen]
    simp only
    rw [hloop]

/-- Statements that fail are dropped, whatever they have stored. -/
theorem writeWithin_of_failed {turns : Nat} {l : PagedLedger} {e : StorageError} {partly : Tables}
    (h : writeStatements turns l.tables offset data = .failed e partly) :
    l.writeWithin turns offset data = some (.error e, l) := by
  rw [writeWithin, h]

/-! ## Whatever is stored -/

/-- A ledger in any tables. Its page loops end, after one turn more than their range has pages at
the latest, and no slice is out of its page. A read gives the stored bytes, as many as were asked
for, or is out of range or refuses what is stored. A write that has what it needs changes its range
and the two extents, and nothing else; all others leave the ledger as it was, whatever pages were
stored until they failed. -/
theorem read_write_cases (l : PagedLedger) (offset len : Offset) (data : Bytes) :
    (l.readWithin (pageCount offset.toNat len.toNat + 1) offset len
        = some (Storage.read l offset len)
      ∧ ((l.tables.Gives offset len
          ∧ ∃ bs, Storage.read l offset len = .ok bs ∧ bs.length = len.toNat
            ∧ ∀ i, i < len.toNat → bs[i]? = l.tables.byte? (offset.toNat + i))
        ∨ ¬ l.tables.Gives offset len
          ∧ ((∃ capacity, l.tables.extent .capacity = .ok capacity
                ∧ capacity.toNat < offset.toNat + len.toNat
                ∧ Storage.read l offset len
                  = .error (.outOfRange offset (offset.advance len.toNat) capacity))
            ∨ ∃ detail, Storage.read l offset len = .error (.invalidData detail))))
    ∧ l.writeWithin (pageCount offset.toNat data.length + 1) offset data
        = some (Storage.write l offset data)
      ∧ ((l.tables.Takes offset data
          ∧ ∃ tables, l.tables.Written offset data tables
            ∧ Storage.write l offset data = (.ok (), { l with tables }))
        ∨ ¬ l.tables.Takes offset data ∧ ∃ e, Storage.write l offset data = (.error e, l))
      ∧ ∀ e partly, writeStatements (pageCount offset.toNat data.length + 1) l.tables offset data
          = .failed e partly → Storage.write l offset data = (.error e, l) := by
  have hwrite := l.writeWithin_eq (Nat.lt_succ_self (pageCount offset.toNat data.length))
  refine ⟨⟨l.readWithin_eq (Nat.lt_succ_self _), l.read_cases offset len⟩, hwrite,
    l.write_cases offset data, ?_⟩
  intro e partly hfailed
  rw [writeWithin_of_failed hfailed] at hwrite
  exact (Option.some.inj hwrite).symm

/-- More counts as written than there is room for, and the second page has a row of three bytes.
A write over the end of the first page stores that page before it meets the row, and yet the ledger
has no such page after it. The range cannot be read either, but the bytes before it, and so much of
it as lies in the first page can be written. -/
theorem read_write_cases_shortRow :
    ∃ l : PagedLedger,
      l.tables = {
        extents := [(.capacity, 131072), (.writtenEnd, 200000), (.dataStart, 5)]
        pages := [(1, [1, 2, 3])] }
      ∧ (∃ partly, writeStatements 3 l.tables 65535 [8, 9] = .failed (.wrongPageLength 1 3) partly
        ∧ partly.byte? 65535 = some 8)
      ∧ Storage.write l 65535 [8, 9] = (.error (.wrongPageLength 1 3), l)
      ∧ (∃ detail, Storage.read l 65535 2 = .error (.invalidData detail))
      ∧ (∃ bs, Storage.read l 65534 2 = .ok bs ∧ bs[0]? = some 0 ∧ bs[1]? = some 0)
      ∧ ∃ tables, Storage.write l 65535 [8] = (.ok (), { l with tables })
        ∧ tables.extent .writtenEnd = .ok 200000 ∧ tables.byte? 65535 = some 8
        ∧ tables.byte? 65536 = some 1 ∧ tables.byte? 65539 = none := by
  obtain ⟨l, hl⟩ : ∃ l : PagedLedger, l.tables = {
      extents := [(.capacity, 131072), (.writtenEnd, 200000), (.dataStart, 5)]
      pages := [(1, [1, 2, 3])] } := ⟨{ versions := [1], tables := _, nextWrite := 5 }, rfl⟩
  have hdataStart : l.tables.extent .dataStart = .ok 5 := by rw [hl]; rfl
  have hcapacity : l.tables.extent .capacity = .ok 131072 := by rw [hl]; rfl
  have hwrittenEnd : l.tables.extent .writtenEnd = .ok 200000 := by rw [hl]; rfl
  have hfirst : l.tables.pages.get? 0 = none := by rw [hl]; rfl
  have hsecond : l.tables.pages.get? 1 = some [1, 2, 3] := by rw [hl]; rfl
  have hfull : ∀ q, l.tables.pages.get? 0 = some q → q.length = pageSize := by
    rw [hfirst]
    exact fun _ hq => nomatch hq
  have hpair : ¬ l.tables.Whole 65535 2 := fun h =>
    absurd (h 1 ⟨65536, by decide, by decide, rfl⟩ _ hsecond) (by decide)
  have hsingle : l.tables.Whole 65535 1 := whole_of_row_of_le hfull (by decide)
  obtain ⟨k, e, s', ⟨hk, ⟨p, hrow, -, he⟩, hlaid⟩, hfailed⟩ :
      ∃ k e s', Writing.LeftAt { tables := l.tables, pos := 65535, rest := [8, 9] } k e s'
        ∧ writeStatements 3 l.tables 65535 [8, 9] = .failed e s'.tables :=
    writeStatements_of_not_whole hdataStart (by decide) hcapacity (by decide) (by decide) hpair
  simp only [UInt64.reduceToNat, List.length_cons, List.length_nil] at hk hrow he hlaid
  -- The first page has no row, so it is the second that the loop could not load.
  obtain rfl : k = 1 := by
    by_contra hne
    obtain rfl : k = 0 := by omega
    exact nomatch hfirst.symm.trans hrow
  obtain rfl := Option.some.inj (hsecond.symm.trans hrow)
  subst he
  have hstored := (hlaid.byte?_eq hsingle 65535).trans (if_pos (by decide))
  obtain ⟨⟨-, hread⟩, -, -, hkept⟩ := l.read_write_cases 65535 2 [8, 9]
  obtain ⟨⟨-, hzeros⟩, -⟩ := l.read_write_cases 65534 2 [8]
  obtain ⟨-, -, hwrite, -⟩ := l.read_write_cases 65535 1 [8]
  refine ⟨l, hl, ⟨_, hfailed, hstored⟩, hkept _ _ hfailed, ?_, ?_, ?_⟩
  · rcases hread with ⟨hgives, _⟩ | ⟨-, ⟨capacity, hc, hover, -⟩ | hread⟩
    · exact absurd hgives.whole hpair
    · obtain rfl := Except.ok.inj (hcapacity.symm.trans hc)
      exact absurd hover (by decide)
    · exact hread
  · have hgives : l.tables.Gives 65534 2 :=
      ⟨⟨131072, hcapacity, by decide⟩, whole_of_row_of_le hfull (by decide)⟩
    have hzero : ∀ o, o < pageSize → l.tables.byte? o = some 0 := by
      intro o ho
      rw [byte?, Nat.div_eq_of_lt ho, hfirst]
    obtain ⟨-, bs, hbs, -, hbyte⟩ := hzeros.resolve_right fun h => h.1 hgives
    refine ⟨bs, hbs, ?_, ?_⟩
    · exact (hbyte 0 (by decide)).trans (hzero 65534 (by decide))
    · exact (hbyte 1 (by decide)).trans (hzero 65535 (by decide))
  · have htakes : l.tables.Takes 65535 [8] := {
      dataStart := ⟨5, hdataStart, by decide⟩
      fits := by decide
      whole := hsingle
      capacity := ⟨131072, hcapacity, fun _ => by decide⟩
      writtenEnd := ⟨200000, hwrittenEnd, fun _ => by decide⟩ }
    obtain ⟨-, tables, hwritten, hwrite⟩ := hwrite.resolve_right fun h => h.1 htakes
    refine ⟨tables, hwrite, ?_, ?_, ?_, ?_⟩
    · exact (hwritten.writtenEnd_eq _ hwrittenEnd).trans rfl
    · exact (hwritten.byte?_eq 65535).trans (if_pos (by decide))
    · exact (hwritten.byte?_eq 65536).trans ((if_neg (by decide)).trans (by rw [hl]; rfl))
    · exact (hwritten.byte?_eq 65539).trans ((if_neg (by decide)).trans (by rw [hl]; rfl))

end PagedLedger

end ByteLedger
