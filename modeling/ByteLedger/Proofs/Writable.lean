import ByteLedger.Proofs.Representation

set_option autoImplicit false

/-!
# Which writes a ledger in pages takes

What a write stores are pages and two extents. The pages of a ledger that lasts can all be loaded,
and its capacity is a number of whole pages that can be stored; so the last offset that may be
written is the last of the greatest number of whole pages below `2^63`, whatever was written
before. A write past that has no capacity that could be stored (`Tables.growTo_tooGreat`), and no
other write into the partition fails (`PagedLedger.write_ok_iff`).
-/

namespace ByteLedger

theorem Tables.setExtent_tooGreat (t : Tables) (x : Extent) {o : Offset} (h : 2 ^ 63 ≤ o.toNat) :
    t.setExtent x o = .error (.tooGreat o) := by
  rw [setExtent, Offset.toStored, if_neg (by omega)]

/-- The capacity that a write needs is too great to be stored. One that is stored is not so great,
so it is passed. -/
theorem Tables.growTo_tooGreat (t : Tables) {capacity stop : Offset}
    (hcapacity : capacity.toNat ≤ 2 ^ 63 - pageSize) (h : 2 ^ 63 - pageSize < stop.toNat) :
    t.growTo capacity stop = .error (.tooGreat stop.roundUpToPage) := by
  have hround := mt Offset.toNat_roundUpToPage_lt_iff.1 (Nat.not_le.2 h)
  rw [growTo, if_pos (UInt64.lt_iff_toNat_lt.2 (by omega))]
  exact setExtent_tooGreat t .capacity (Nat.not_lt.1 hround)

namespace PagedLedger

variable {l : PagedLedger} {f : Flat} {offset : Offset} {data : Bytes}

/-- A write that succeeds replaces the tables, -/
theorem write_of_ok {t : Tables} (h : writeTables l.tables offset data = .ok t) :
    Storage.write l offset data = (.ok (), { l with tables := t }) := by
  change Storage.orKeep l (l.write offset data) = _
  rw [write, h]
  rfl

/-- and one that fails leaves the ledger as it was. -/
theorem write_of_error {e : StorageError} (h : writeTables l.tables offset data = .error e) :
    Storage.write l offset data = (.error e, l) := by
  change Storage.orKeep l (l.write offset data) = _
  rw [write, h]
  rfl

/-- All pages of the write are stored before its capacity turns out to be too great. -/
theorem writeTables_tooGreat {t : Tables} (h : t.Holds f)
    (hcapacity : f.capacity.toNat ≤ 2 ^ 63 - pageSize) (hd : ¬ offset < f.dataStart)
    (hlen : offset.toNat + data.length < 2 ^ 64)
    (hstop : 2 ^ 63 - pageSize < offset.toNat + data.length) :
    writeTables t offset data
      = .error (.tooGreat (offset.advance data.length).roundUpToPage) := by
  have hadvance := Offset.toNat_advance_of_lt hlen
  obtain ⟨t₁, hpages, _⟩ := Tables.writePages_of_whole (h.wellPaged.whole offset.toNat data.length)
  have hgrow := Tables.growTo_tooGreat t₁ hcapacity
    (show _ < (offset.advance data.length).toNat by omega)
  rw [writeTables_eq h.dataStart hd h.capacity hlen, hpages]
  simp only [Except.bind, hgrow]

/-- A ledger that was opened in an empty database, whatever was written since then, successfully or
not, refreshed and opened again. A write is made exactly if it begins in the partition and ends at
least one page below `2^63`. Before the partition it is refused; if it has no offsets for all its
bytes, it is out of range; and otherwise the capacity that it needs is no stored number. -/
theorem write_ok_iff (h : l.Lasting) :
    ∃ dataStart capacity, Storage.dataStart l = .ok dataStart ∧ Storage.capacity l = .ok capacity
      ∧ ∀ (offset : Offset) (data : Bytes),
        ((Storage.write l offset data).1 = .ok ()
          ↔ dataStart ≤ offset ∧ offset.toNat + data.length ≤ 2 ^ 63 - pageSize)
        ∧ (offset < dataStart →
          (Storage.write l offset data).1 = .error (.belowPartition offset dataStart))
        ∧ (dataStart ≤ offset → 2 ^ 64 ≤ offset.toNat + data.length →
          (Storage.write l offset data).1 = .error (.outOfRange offset Offset.last capacity))
        ∧ (dataStart ≤ offset → offset.toNat + data.length < 2 ^ 64 →
          2 ^ 63 - pageSize < offset.toNat + data.length →
          (Storage.write l offset data).1
            = .error (.invalidData
                ("offset " ++ Decimal.text (offset.advance data.length).roundUpToPage
                  ++ " exceeds SQLite range"))) := by
  obtain ⟨f, hf⟩ := h.intact
  have hholds := hf.keeps.1
  refine ⟨f.dataStart, f.capacity, hholds.dataStart, hholds.capacity, ?_⟩
  intro offset data
  have hnot : f.dataStart ≤ offset ↔ ¬ offset < f.dataStart := by
    rw [UInt64.le_iff_toNat_le, UInt64.lt_iff_toNat_lt, Nat.not_lt]
  have hbelow : offset < f.dataStart →
      (Storage.write l offset data).1 = .error (.belowPartition offset f.dataStart) := by
    intro hlt
    rw [write_of_error (writeTables_error hholds (if_pos hlt))]
  have hover : f.dataStart ≤ offset → 2 ^ 64 ≤ offset.toNat + data.length →
      (Storage.write l offset data).1 = .error (.outOfRange offset Offset.last f.capacity) := by
    intro hd hlen
    have hrefusal : f.refusal? offset data = some (.outOfRange offset Offset.last f.capacity) :=
      (if_neg (hnot.1 hd)).trans (if_pos hlen)
    rw [write_of_error (writeTables_error hholds hrefusal)]
  have hgreat : f.dataStart ≤ offset → offset.toNat + data.length < 2 ^ 64 →
      2 ^ 63 - pageSize < offset.toNat + data.length →
      (Storage.write l offset data).1
        = .error (.tooGreat (offset.advance data.length).roundUpToPage) := by
    intro hd hlen hstop
    rw [write_of_error (writeTables_tooGreat hholds hf.capacity_le (hnot.1 hd) hlen hstop)]
  refine ⟨⟨?_, ?_⟩, hbelow, hover, hgreat⟩
  · intro hok
    -- Each of the other cases has an error.
    have hd : f.dataStart ≤ offset := hnot.2 fun hlt => by
      rw [hbelow hlt] at hok
      cases hok
    have hlen : offset.toNat + data.length < 2 ^ 64 := Nat.not_le.1 fun hle => by
      rw [hover hd hle] at hok
      cases hok
    refine ⟨hd, Nat.not_lt.1 fun hlt => ?_⟩
    rw [hgreat hd hlen hlt] at hok
    cases hok
  · rintro ⟨hd, hstop⟩
    obtain ⟨t, hw⟩ := writeTables_ok hholds (UInt64.le_iff_toNat_le.1 hd) hstop
    rw [write_of_ok hw]

/-- A ledger that was written up to the last byte that it can have, and opened again. That byte can
be written again, but not together with another one, and no byte past the last offset. -/
theorem write_ok_iff_atLast :
    ∃ l₀ l : PagedLedger, Database.ledger {} { dataStart := 70000 } = .ok l₀
      ∧ (Storage.write l₀ 9223372036854710271 [7]).2.database.ledger {} = .ok l
      ∧ Storage.capacity l = .ok 9223372036854710272
      ∧ (Storage.write l 9223372036854710271 [8]).1 = .ok ()
      ∧ (Storage.write l 69999 [8]).1 = .error (.belowPartition 69999 70000)
      ∧ (Storage.write l Offset.last [8]).1
          = .error (.outOfRange Offset.last Offset.last 9223372036854710272)
      ∧ (Storage.write l 9223372036854710271 [8, 9]).1
          = .error (.invalidData "offset 9223372036854775808 exceeds SQLite range") := by
  obtain ⟨l₀, hopen⟩ : ∃ l₀, Database.ledger {} { dataStart := 70000 } = .ok l₀ := ⟨_, rfl⟩
  obtain ⟨l₁, hw, hkeeps⟩ := writes (intact_of_opened hopen).keeps
    (show Operation.Fits _ (.write 9223372036854710271 [7]) by decide)
  have hwritten := Lasting.write 9223372036854710271 [7] (.opened hopen)
  rw [hw] at hwritten
  obtain ⟨f, hf⟩ := hwritten.intact
  have hmisfit : LedgerOptions.misfit? {} = none := by decide
  have hledger := ledger_database hf.versions_eq hkeeps {}
  rw [hmisfit, refresh_eq hkeeps.1] at hledger
  obtain ⟨l, hl, htables⟩ : ∃ l, l₁.database.ledger {} = .ok l ∧ l.tables = l₁.tables :=
    ⟨_, hledger, rfl⟩
  obtain ⟨dataStart, capacity, hdataStart, hcapacity, hwrite⟩ :=
    write_ok_iff (.reopened hwritten hl)
  have hheld : dataStart = 70000 ∧ capacity = 9223372036854710272 := by
    change l.tables.extent .dataStart = _ at hdataStart
    change l.tables.extent .capacity = _ at hcapacity
    rw [htables, hkeeps.1.dataStart] at hdataStart
    rw [htables, hkeeps.1.capacity] at hcapacity
    rw [← Except.ok.inj hdataStart, ← Except.ok.inj hcapacity]
    decide +kernel
  obtain ⟨rfl, rfl⟩ := hheld
  refine ⟨l₀, l, hopen, by rw [hw]; exact hl, hcapacity, ?_, ?_, ?_, ?_⟩
  · exact (hwrite 9223372036854710271 [8]).1.2 (by decide)
  · exact (hwrite 69999 [8]).2.1 (by decide)
  · exact (hwrite Offset.last [8]).2.2.1 (by decide) (by decide)
  · exact (hwrite 9223372036854710271 [8, 9]).2.2.2 (by decide) (by decide) (by decide)

end PagedLedger

end ByteLedger
