import ByteLedger.Proofs.Flat
import ByteLedger.Storage.Paged

set_option autoImplicit false

/-!
# What a ledger in pages keeps

The flat ledger of a `PagedLedger` has at each offset the byte of the stored page, and zero
where no page is stored. All its stored pages have the full length and its three extents
are stored (`Tables.Holds`); then a range is read, and a write changes the bytes of its
range and no others, however both lie to the pages.

In any other tables a range is read and stored as well if no page in which it lies has a row of
another length (`Tables.Whole`), and both fail for such a page if there is one.

A database that was only opened and used through ledgers (`Database.Untampered`) holds such
tables, or it was never opened with extents that fit.
-/

namespace ByteLedger

/-- The offsets that can be reached with whole pages that are a stored number. -/
theorem Offset.toNat_roundUpToPage_lt_iff {o : Offset} :
    o.roundUpToPage.toNat < 2 ^ 63 ↔ o.toNat ≤ 2 ^ 63 - pageSize := by
  have hround := o.toNat_roundUpToPage
  unfold pageSize at *
  omega

namespace Tables

/-- The byte at an offset. -/
def byteAt (t : Tables) (o : Nat) : UInt8 :=
  ((t.pages.get? (o / pageSize)).getD (Bytes.zeros pageSize)).getD (o % pageSize) 0

/-- All stored pages have the full length. -/
def WellPaged (t : Tables) : Prop :=
  ∀ index p, t.pages.get? index = some p → p.length = pageSize

/-- A range lies in a page, with one byte at least. -/
def Touches (pos len index : Nat) : Prop := ∃ o, pos ≤ o ∧ o < pos + len ∧ o / pageSize = index

/-- The pages in which a range lies have the full length, those of them that are stored. -/
def Whole (t : Tables) (pos len : Nat) : Prop :=
  ∀ index, Touches pos len index → ∀ p, t.pages.get? index = some p → p.length = pageSize

theorem not_touches_zero (pos index : Nat) : ¬ Touches pos 0 index := by
  rintro ⟨o, ho, ho', _⟩
  omega

theorem touches_add {pos m n index : Nat} :
    Touches pos (m + n) index ↔ Touches pos m index ∨ Touches (pos + m) n index := by
  constructor
  · rintro ⟨o, ho, ho', hindex⟩
    by_cases hlt : o < pos + m
    · exact Or.inl ⟨o, ho, hlt, hindex⟩
    · exact Or.inr ⟨o, by omega, by omega, hindex⟩
  · rintro (⟨o, ho, ho', hindex⟩ | ⟨o, ho, ho', hindex⟩)
    · exact ⟨o, ho, by omega, hindex⟩
    · exact ⟨o, by omega, by omega, hindex⟩

/-- What fits into the rest of a page lies in no other one. -/
theorem touches_iff_of_le_room {pos n index : Nat} (hpos : 0 < n) (hn : n ≤ room pos) :
    Touches pos n index ↔ pos / pageSize = index := by
  constructor
  · rintro ⟨o, ho, ho', rfl⟩
    unfold room pageSize at *
    omega
  · intro h
    exact ⟨pos, Nat.le_refl _, by omega, h⟩

theorem whole_zero (t : Tables) (pos : Nat) : t.Whole pos 0 :=
  fun index h => absurd h (not_touches_zero pos index)

theorem WellPaged.whole {t : Tables} (h : t.WellPaged) (pos len : Nat) : t.Whole pos len :=
  fun index _ p hp => h index p hp

/-- The first page of a range, and the range that begins on the next page. -/
theorem whole_of_row {t : Tables} {pos len : Nat}
    (hrow : ∀ p, t.pages.get? (pos / pageSize) = some p → p.length = pageSize)
    (hrest : t.Whole (pos + room pos) (len - room pos)) : t.Whole pos len := by
  rintro index ⟨o, ho, ho', rfl⟩
  by_cases hlt : o < pos + room pos
  · have hsame : pos / pageSize = o / pageSize :=
      (touches_iff_of_le_room (room_pos pos) (Nat.le_refl _)).1 ⟨o, ho, hlt, rfl⟩
    rw [← hsame]
    exact hrow
  · exact hrest _ ⟨o, by omega, by omega, rfl⟩

/-- If it ends in its first page, that is all there is to it. -/
theorem whole_of_row_of_le {t : Tables} {pos len : Nat}
    (hrow : ∀ p, t.pages.get? (pos / pageSize) = some p → p.length = pageSize)
    (h : len ≤ room pos) : t.Whole pos len := by
  apply whole_of_row hrow
  rw [Nat.sub_eq_zero_of_le h]
  exact t.whole_zero _

/-- A page is loaded, and has the full length and the bytes that are stored for it; or it has a row
of another length. -/
theorem page_cases (t : Tables) (index : Nat) :
    (∃ p, t.page index = .ok p ∧ p.length = pageSize
        ∧ (∀ q, t.pages.get? index = some q → q.length = pageSize)
        ∧ ∀ o, o / pageSize = index → p.getD (o % pageSize) 0 = t.byteAt o)
      ∨ ∃ p, t.pages.get? index = some p ∧ p.length ≠ pageSize
        ∧ t.page index = .error (.wrongPageLength index p.length) := by
  unfold page
  cases hrow : t.pages.get? index with
  | none =>
    refine Or.inl ⟨_, rfl, Bytes.length_zeros _, (fun _ hq => nomatch hq), ?_⟩
    rintro o rfl
    rw [byteAt, hrow, Option.getD_none]
  | some p =>
    by_cases hlen : p.length = pageSize
    · refine Or.inl ⟨p, if_pos hlen, hlen, fun _ hq => Option.some.inj hq ▸ hlen, ?_⟩
      rintro o rfl
      rw [byteAt, hrow, Option.getD_some]
    · exact Or.inr ⟨p, rfl, hlen, if_neg hlen⟩

/-- A page that can be loaded has the full length. -/
theorem length_of_page {t : Tables} {index : Nat} {p : Bytes} (h : t.page index = .ok p) :
    p.length = pageSize := by
  rcases t.page_cases index with ⟨q, hpage, hlen, _⟩ | ⟨q, _, _, hpage⟩
  · rw [h] at hpage
    cases hpage
    exact hlen
  · rw [h] at hpage
    cases hpage

/-- What fits into the room of a page fits behind the place where it begins. -/
theorem mod_add_le {pos n : Nat} (h : n ≤ room pos) : pos % pageSize + n ≤ pageSize := by
  have hmod : pos % pageSize < pageSize := Nat.mod_lt _ (by decide)
  unfold room at h
  omega

/-! ## Reading -/

/-- The part of a page that a range takes. -/
theorem slice_page {t : Tables} {pos n : Nat} {p : Bytes} (hlen : p.length = pageSize)
    (hp : ∀ o, o / pageSize = pos / pageSize → p.getD (o % pageSize) 0 = t.byteAt o)
    (hn : n ≤ room pos) : p.slice (pos % pageSize) n = Bytes.span t.byteAt pos n := by
  have hfit := mod_add_le hn
  apply Bytes.eq_span
  · rw [Bytes.length_slice]
    unfold pageSize at *
    omega
  · intro i hi
    have hq : (pos + i) / pageSize = pos / pageSize := by
      unfold pageSize at *
      omega
    have hr : (pos + i) % pageSize = pos % pageSize + i := by
      unfold pageSize at *
      omega
    rw [← hp _ hq, hr, Bytes.slice, List.getD_eq_getElem?_getD, List.getElem?_take_of_lt hi,
      List.getElem?_drop, List.getD_eq_getElem?_getD]

/-- A range is read if all pages in which it lies have the full length, those of them that are
stored. If one has another length, reading fails for such a page. -/
theorem readPages_cases (t : Tables) (pos len : Nat) :
    (t.Whole pos len ∧ t.readPages pos len = .ok (Bytes.span t.byteAt pos len))
      ∨ ∃ index p, Touches pos len index ∧ t.pages.get? index = some p ∧ p.length ≠ pageSize
        ∧ t.readPages pos len = .error (.wrongPageLength index p.length) := by
  induction len using Nat.strongRecOn generalizing pos with
  | ind len ih =>
    rw [readPages]
    split
    · rename_i hzero
      subst hzero
      exact Or.inl ⟨t.whole_zero pos, rfl⟩
    · rename_i hne
      have hroom := room_pos pos
      rcases t.page_cases (pos / pageSize) with
        ⟨p, hpage, hplen, hrow, hp⟩ | ⟨p, hrow, hplen, hpage⟩
      · rw [hpage]
        simp only
        rcases ih (len - room pos) (by omega) (pos + room pos) with
          ⟨hwhole, hrest⟩ | ⟨index, q, ⟨o, ho, ho', hindex⟩, hq, hqlen, hrest⟩
        · refine Or.inl ⟨whole_of_row hrow hwhole, ?_⟩
          rw [hrest]
          simp only
          rw [slice_page hplen hp (Nat.min_le_right _ _)]
          by_cases hlast : len ≤ room pos
          · rw [Nat.min_eq_left hlast, Nat.sub_eq_zero_of_le hlast, Bytes.span_zero,
              List.append_nil]
          · rw [Nat.min_eq_right (by omega), Bytes.span_append, Nat.add_sub_of_le (by omega)]
        · exact Or.inr ⟨index, q, ⟨o, by omega, by omega, hindex⟩, hq, hqlen, by rw [hrest]⟩
      · exact Or.inr ⟨_, p, ⟨pos, Nat.le_refl _, by omega, rfl⟩, hrow, hplen, by rw [hpage]⟩

theorem readPages_eq {t : Tables} (h : t.WellPaged) (pos len : Nat) :
    t.readPages pos len = .ok (Bytes.span t.byteAt pos len) := by
  rcases t.readPages_cases pos len with ⟨_, hread⟩ | ⟨index, p, _, hp, hlen, _⟩
  · exact hread
  · exact absurd (h index p hp) hlen

/-! ## Writing -/

/-- What one page store does: the bytes of its part are new, all others are old. -/
theorem byteAt_put_page {t : Tables} {pos : Nat} {p data : Bytes} (hlen : p.length = pageSize)
    (hp : ∀ o, o / pageSize = pos / pageSize → p.getD (o % pageSize) 0 = t.byteAt o)
    (hn : data.length ≤ room pos) (o : Nat) :
    byteAt { t with pages := t.pages.put (pos / pageSize) (p.overlay (pos % pageSize) data) } o
      = if pos ≤ o ∧ o < pos + data.length then data.getD (o - pos) 0 else t.byteAt o := by
  have hroom := mod_add_le hn
  have hfit : pos % pageSize + data.length ≤ p.length := by rw [hlen]; exact hroom
  rw [byteAt]
  simp only
  rw [Rows.get?_put]
  by_cases hq : pos / pageSize = o / pageSize
  · rw [if_pos hq, Option.getD_some, Bytes.getD_overlay hfit, hp o hq.symm]
    by_cases hin : pos ≤ o ∧ o < pos + data.length
    · rw [if_pos hin, if_pos]
      · congr 1
        unfold pageSize at *
        omega
      · unfold pageSize at *
        omega
    · rw [if_neg hin, if_neg]
      unfold pageSize at *
      omega
  · rw [if_neg hq, if_neg]
    · rfl
    · unfold pageSize at *
      omega

/-- The tables `t'` are `t` with `data` stored from `pos` on: the pages in which it lies are full
then, all other rows are as they were, and so are all other bytes. -/
structure Overlaid (t t' : Tables) (pos : Nat) (data : Bytes) : Prop where
  extents_eq : t'.extents = t.extents
  row_full : ∀ index, Touches pos data.length index →
    ∃ p, t'.pages.get? index = some p ∧ p.length = pageSize
  row_eq : ∀ index, ¬ Touches pos data.length index → t'.pages.get? index = t.pages.get? index
  byteAt_eq : ∀ o, t'.byteAt o
    = if pos ≤ o ∧ o < pos + data.length then data.getD (o - pos) 0 else t.byteAt o

theorem overlaid_nil (t : Tables) (pos : Nat) : t.Overlaid t pos [] where
  extents_eq := rfl
  row_full := fun index h => absurd h (not_touches_zero pos index)
  row_eq := fun _ _ => rfl
  byteAt_eq := by
    intro o
    rw [if_neg (by simp only [List.length_nil]; omega)]

/-- One page is stored. -/
theorem overlaid_put {t : Tables} {pos : Nat} {p data : Bytes} (hlen : p.length = pageSize)
    (hp : ∀ o, o / pageSize = pos / pageSize → p.getD (o % pageSize) 0 = t.byteAt o)
    (hpos : 0 < data.length) (hn : data.length ≤ room pos) :
    t.Overlaid { t with pages := t.pages.put (pos / pageSize) (p.overlay (pos % pageSize) data) }
      pos data where
  extents_eq := rfl
  row_full := by
    intro index h
    have hfit : pos % pageSize + data.length ≤ p.length := by
      rw [hlen]
      exact mod_add_le hn
    refine ⟨_, ?_, (Bytes.length_overlay hfit).trans hlen⟩
    rw [Rows.get?_put, if_pos ((touches_iff_of_le_room hpos hn).1 h)]
  row_eq := by
    intro index h
    rw [Rows.get?_put, if_neg (mt (touches_iff_of_le_room hpos hn).2 h)]
  byteAt_eq := byteAt_put_page hlen hp hn

/-- What is stored behind it is stored together with it. -/
theorem Overlaid.append {t t₁ t₂ : Tables} {pos : Nat} {a b : Bytes} (h₁ : t.Overlaid t₁ pos a)
    (h₂ : t₁.Overlaid t₂ (pos + a.length) b) : t.Overlaid t₂ pos (a ++ b) where
  extents_eq := h₂.extents_eq.trans h₁.extents_eq
  row_full := by
    intro index h
    by_cases hb : Touches (pos + a.length) b.length index
    · exact h₂.row_full index hb
    · rw [List.length_append, touches_add] at h
      rw [h₂.row_eq index hb]
      exact h₁.row_full index (h.resolve_right hb)
  row_eq := by
    intro index h
    rw [List.length_append, touches_add, not_or] at h
    rw [h₂.row_eq index h.2, h₁.row_eq index h.1]
  byteAt_eq := by
    intro o
    rw [h₂.byteAt_eq, h₁.byteAt_eq, List.length_append]
    simp only [List.getD_eq_getElem?_getD]
    by_cases hb : pos + a.length ≤ o ∧ o < pos + a.length + b.length
    · rw [if_pos hb, if_pos (by omega), List.getElem?_append_right (by omega), Nat.sub_sub]
    · rw [if_neg hb]
      by_cases ha : pos ≤ o ∧ o < pos + a.length
      · rw [if_pos ha, if_pos (by omega), List.getElem?_append_left (by omega)]
      · rw [if_neg ha, if_neg (by omega)]

/-- A range is whole if its first part is, and its rest once the first part is stored. -/
theorem Whole.append {t t₁ : Tables} {pos n : Nat} {a : Bytes} (h : t.Whole pos a.length)
    (hlaid : t.Overlaid t₁ pos a) (hrest : t₁.Whole (pos + a.length) n) :
    t.Whole pos (a.length + n) := by
  intro index htouches p hp
  by_cases ha : Touches pos a.length index
  · exact h index ha p hp
  · rw [touches_add] at htouches
    exact hrest index (htouches.resolve_left ha) p ((hlaid.row_eq index ha).trans hp)

/-- A page of another length was there before. -/
theorem Overlaid.get?_of_length_ne {t t' : Tables} {pos index : Nat} {data p : Bytes}
    (h : t.Overlaid t' pos data) (hp : t'.pages.get? index = some p) (hlen : p.length ≠ pageSize) :
    t.pages.get? index = some p := by
  by_cases htouches : Touches pos data.length index
  · obtain ⟨q, hq, hqlen⟩ := h.row_full index htouches
    rw [hp] at hq
    cases hq
    exact absurd hqlen hlen
  · rw [← h.row_eq index htouches, hp]

theorem Overlaid.wellPaged {t t' : Tables} {pos : Nat} {data : Bytes}
    (h : t.Overlaid t' pos data) (hwell : t.WellPaged) : t'.WellPaged := by
  intro index p hp
  by_cases hlen : p.length = pageSize
  · exact hlen
  · exact hwell index p (h.get?_of_length_ne hp hlen)

/-- A range is stored if all pages in which it lies have the full length, those of them that are
stored. If one has another length, storing fails for such a page. -/
theorem writePages_cases (t : Tables) (pos : Nat) (data : Bytes) :
    (t.Whole pos data.length
        ∧ ∃ t', t.writePages pos data = .ok t' ∧ t.Overlaid t' pos data)
      ∨ ∃ index p, Touches pos data.length index ∧ t.pages.get? index = some p
        ∧ p.length ≠ pageSize
        ∧ t.writePages pos data = .error (.wrongPageLength index p.length) := by
  induction hn : data.length using Nat.strongRecOn generalizing t pos data with
  | ind n ih =>
    subst hn
    rw [writePages]
    split
    · rename_i hnil
      subst hnil
      exact Or.inl ⟨t.whole_zero pos, t, rfl, t.overlaid_nil pos⟩
    · rename_i hne
      have hpos : 0 < data.length := List.length_pos_iff.2 hne
      have hroom := room_pos pos
      rcases t.page_cases (pos / pageSize) with
        ⟨p, hpage, hplen, hrow, hp⟩ | ⟨p, hrow, hplen, hpage⟩
      · rw [hpage]
        simp only
        by_cases hlast : data.length ≤ room pos
        · -- The range ends in this page, and nothing is left to be stored.
          rw [List.take_of_length_le hlast, List.drop_eq_nil_of_le hlast, writePages, dif_pos rfl]
          exact Or.inl ⟨whole_of_row_of_le hrow hlast, _, rfl, overlaid_put hplen hp hpos hlast⟩
        · obtain ⟨a, b, rfl, ha⟩ : ∃ a b, data = a ++ b ∧ a.length = room pos :=
            ⟨_, _, (List.take_append_drop (room pos) data).symm, List.length_take_of_le (by omega)⟩
          have hlaid := overlaid_put hplen hp (by omega) (Nat.le_of_eq ha)
          have hwhole : t.Whole pos a.length := whole_of_row_of_le hrow (Nat.le_of_eq ha)
          rw [List.take_left' ha, List.drop_left' ha, List.length_append]
          rcases ih b.length (by rw [List.length_append]; omega) _ (pos + room pos) b rfl with
            ⟨hrest, t', hw, hlaid'⟩ | ⟨index, q, ⟨o, ho, ho', hindex⟩, hq, hqlen, hw⟩
          · rw [← ha] at hrest hlaid'
            exact Or.inl ⟨hwhole.append hlaid hrest, t', hw, hlaid.append hlaid'⟩
          · exact Or.inr ⟨index, q, ⟨o, by omega, by omega, hindex⟩,
              hlaid.get?_of_length_ne hq hqlen, hqlen, hw⟩
      · exact Or.inr ⟨_, p, ⟨pos, Nat.le_refl _, by omega, rfl⟩, hrow, hplen, by rw [hpage]⟩

/-- What can be stored is stored. -/
theorem writePages_of_whole {t : Tables} {pos : Nat} {data : Bytes}
    (h : t.Whole pos data.length) :
    ∃ t', t.writePages pos data = .ok t' ∧ t.Overlaid t' pos data := by
  rcases t.writePages_cases pos data with ⟨_, hok⟩ | ⟨index, p, htouches, hp, hlen, _⟩
  · exact hok
  · exact absurd (h index htouches p hp) hlen

/-- What was stored could be stored. -/
theorem overlaid_of_writePages {t t' : Tables} {pos : Nat} {data : Bytes}
    (h : t.writePages pos data = .ok t') : t.Whole pos data.length ∧ t.Overlaid t' pos data := by
  rcases t.writePages_cases pos data with ⟨hwhole, u, hu, hlaid⟩ | ⟨_, _, _, _, _, hu⟩
  · rw [h] at hu
    cases hu
    exact ⟨hwhole, hlaid⟩
  · rw [h] at hu
    cases hu

/-! ## Extents -/

/-- Storing an extent leaves the pages. -/
theorem pages_setExtent {t t' : Tables} {x : Extent} {o : Offset} (h : t.setExtent x o = .ok t') :
    t'.pages = t.pages := by
  unfold setExtent at h
  split at h
  · cases h
  · cases h
    rfl

/-- What is stored for an extent is looked up among the extents alone. -/
theorem extent_congr {t t' : Tables} (h : t'.extents = t.extents) (x : Extent) :
    t'.extent x = t.extent x := by
  rw [extent, extent, h]

theorem pages_growTo {t t' : Tables} {capacity stop : Offset}
    (h : t.growTo capacity stop = .ok t') : t'.pages = t.pages := by
  unfold growTo at h
  split at h
  · exact pages_setExtent h
  · cases h
    rfl

theorem pages_markWritten {t t' : Tables} {stop : Offset} (h : t.markWritten stop = .ok t') :
    t'.pages = t.pages := by
  unfold markWritten at h
  split at h
  · cases h
  · split at h
    · exact pages_setExtent h
    · cases h
      rfl

theorem setExtent_ok_iff (t : Tables) (x : Extent) {o : Offset} :
    (∃ t', t.setExtent x o = .ok t') ↔ o.toNat < 2 ^ 63 := by
  rw [setExtent, Offset.toStored]
  by_cases h : o.toNat < 2 ^ 63
  · rw [if_pos h]
    exact iff_of_true ⟨_, rfl⟩ h
  · rw [if_neg h]
    exact iff_of_false (fun ⟨_, hok⟩ => nomatch hok) h

/-- The capacity that a write needs, if it needs one, has to be a stored number. -/
theorem growTo_ok_iff (t : Tables) (capacity stop : Offset) :
    (∃ t', t.growTo capacity stop = .ok t')
      ↔ (capacity < stop → stop.toNat ≤ 2 ^ 63 - pageSize) := by
  rw [growTo]
  by_cases hlt : capacity < stop
  · rw [if_pos hlt, setExtent_ok_iff, Offset.toNat_roundUpToPage_lt_iff]
    exact ⟨fun h _ => h, fun h => h hlt⟩
  · rw [if_neg hlt]
    exact iff_of_true ⟨t, rfl⟩ fun h => absurd h hlt

/-- So has the end of what was written, and there has to be one already. -/
theorem markWritten_ok_iff (t : Tables) (stop : Offset) :
    (∃ t', t.markWritten stop = .ok t')
      ↔ ∃ writtenEnd, t.extent .writtenEnd = .ok writtenEnd
        ∧ (writtenEnd < stop → stop.toNat < 2 ^ 63) := by
  rw [markWritten]
  cases hend : t.extent .writtenEnd with
  | error e => exact iff_of_false (fun ⟨_, hok⟩ => nomatch hok) fun ⟨_, hok, _⟩ => nomatch hok
  | ok writtenEnd =>
    simp only [Except.ok.injEq, exists_eq_left']
    by_cases hlt : writtenEnd < stop
    · rw [if_pos hlt, setExtent_ok_iff]
      exact ⟨fun h _ => h, fun h => h hlt⟩
    · rw [if_neg hlt]
      exact iff_of_true ⟨t, rfl⟩ fun h => absurd h hlt

/-- What a write needs: the beginning of the partition, which does not lie behind its own;
offsets for all its bytes; no page row of another length in its range; and the other two extents,
with stored numbers for those of them that it has to raise. -/
structure Takes (t : Tables) (offset : Offset) (data : Bytes) : Prop where
  dataStart : ∃ dataStart, t.extent .dataStart = .ok dataStart ∧ dataStart ≤ offset
  fits : offset.toNat + data.length < 2 ^ 64
  whole : t.Whole offset.toNat data.length
  capacity : ∃ capacity, t.extent .capacity = .ok capacity
    ∧ (capacity < offset.advance data.length → offset.toNat + data.length ≤ 2 ^ 63 - pageSize)
  writtenEnd : ∃ writtenEnd, t.extent .writtenEnd = .ok writtenEnd
    ∧ (writtenEnd < offset.advance data.length → offset.toNat + data.length < 2 ^ 63)

/-- The tables hold a flat ledger: its extents, and its bytes in full pages. Rows are kept by the
number of their page, so no byte runs past the last offset. -/
structure Holds (t : Tables) (f : Flat) : Prop where
  dataStart : t.extent .dataStart = .ok f.dataStart
  capacity : t.extent .capacity = .ok f.capacity
  writtenEnd : t.extent .writtenEnd = .ok f.writtenEnd
  wellPaged : t.WellPaged
  byte : ∀ o, t.byteAt o = f.byte o
  overrun_eq : f.overrun = false

/-- The first free offset is not stored. -/
theorem Holds.withNextWrite {t : Tables} {f : Flat} (h : t.Holds f) (nextWrite : Offset) :
    t.Holds { f with nextWrite } :=
  ⟨h.dataStart, h.capacity, h.writtenEnd, h.wellPaged, h.byte, h.overrun_eq⟩

theorem growTo_cases {t t' : Tables} {capacity stop : Offset} (h : t.growTo capacity stop = .ok t')
    (hcap : t.extent .capacity = .ok capacity) :
    (∀ x, x ≠ .capacity → t'.extent x = t.extent x)
      ∧ t'.extent .capacity = .ok (if capacity < stop then stop.roundUpToPage else capacity) := by
  unfold growTo at h
  split at h
  · rename_i hlt
    refine ⟨?_, ?_⟩
    · intro x hx
      rw [extent_setExtent h, if_neg (Ne.symm hx)]
    · rw [extent_setExtent h, if_pos rfl, if_pos hlt]
  · rename_i hlt
    cases h
    exact ⟨fun _ _ => rfl, by rw [hcap, if_neg hlt]⟩

theorem markWritten_cases {t t' : Tables} {writtenEnd stop : Offset}
    (h : t.markWritten stop = .ok t') (hend : t.extent .writtenEnd = .ok writtenEnd) :
    (∀ x, x ≠ .writtenEnd → t'.extent x = t.extent x)
      ∧ t'.extent .writtenEnd = .ok (max writtenEnd stop) := by
  unfold markWritten at h
  rw [hend] at h
  simp only at h
  split at h
  · rename_i hlt
    refine ⟨?_, ?_⟩
    · intro x hx
      rw [extent_setExtent h, if_neg (Ne.symm hx)]
    · rw [extent_setExtent h, if_pos rfl, Offset.max_eq_right_of_lt hlt]
  · rename_i hlt
    cases h
    refine ⟨fun _ _ => rfl, ?_⟩
    rw [hend, Offset.max_eq_left_of_not_lt hlt]

end Tables

namespace PagedLedger

open Tables

/-- What a write does that succeeds: it begins in the partition and has offsets for all its bytes;
the pages are stored first, then the capacity, then the end of what was written. -/
theorem of_writeTables_eq_ok {t t' : Tables} {offset : Offset} {data : Bytes}
    (h : writeTables t offset data = .ok t') :
    ∃ dataStart capacity t₁ t₂, t.extent .dataStart = .ok dataStart
      ∧ t.extent .capacity = .ok capacity
      ∧ dataStart.toNat ≤ offset.toNat ∧ offset.toNat + data.length < 2 ^ 64
      ∧ t.writePages offset.toNat data = .ok t₁
      ∧ t₁.growTo capacity (offset.advance data.length) = .ok t₂
      ∧ t₂.markWritten (offset.advance data.length) = .ok t' := by
  unfold writeTables at h
  cases hstart : t.extent .dataStart with
  | error e =>
    rw [hstart] at h
    cases h
  | ok dataStart =>
    rw [hstart] at h
    simp only at h
    split at h
    · cases h
    · rename_i hbelow
      rw [UInt64.lt_iff_toNat_lt] at hbelow
      cases hcapacity : t.extent .capacity with
      | error e =>
        rw [hcapacity] at h
        cases h
      | ok capacity =>
        rw [hcapacity] at h
        simp only at h
        split at h
        · cases h
        · rename_i stop hadv
          obtain ⟨hlen, rfl⟩ := Offset.eq_advance_of_advance? hadv
          split at h
          · cases h
          · rename_i t₁ hpages
            split at h
            · cases h
            · rename_i t₂ hgrow
              exact ⟨dataStart, capacity, t₁, t₂, rfl, rfl, by omega, hlen, hpages, hgrow, h⟩

/-- What a write comes to once it is known to lie in the partition. -/
theorem writeTables_eq {t : Tables} {offset dataStart capacity : Offset} {data : Bytes}
    (hstart : t.extent .dataStart = .ok dataStart) (hd : ¬ offset < dataStart)
    (hcapacity : t.extent .capacity = .ok capacity) (hlen : offset.toNat + data.length < 2 ^ 64) :
    writeTables t offset data
      = (t.writePages offset.toNat data).bind fun t =>
        (t.growTo capacity (offset.advance data.length)).bind fun t =>
          t.markWritten (offset.advance data.length) := by
  rw [writeTables, hstart]
  simp only
  rw [if_neg hd, hcapacity]
  simp only
  rw [Offset.advance?_eq_some hlen]
  simp only
  cases t.writePages offset.toNat data with
  | error e => rfl
  | ok t =>
    cases hgrow : t.growTo capacity (offset.advance data.length) with
    | error e => simp only [hgrow, Except.bind]
    | ok t => simp only [hgrow, Except.bind]

/-- A write that has what it needs succeeds. -/
theorem writeTables_of_takes {t : Tables} {offset : Offset} {data : Bytes}
    (h : t.Takes offset data) : ∃ t', writeTables t offset data = .ok t' := by
  obtain ⟨⟨dataStart, hstart, hd⟩, hlen, hwhole, ⟨capacity, hcapacity, hroom⟩,
    ⟨writtenEnd, hend, hfits⟩⟩ := h
  have hadvance := Offset.toNat_advance_of_lt hlen
  have hbelow : ¬ offset < dataStart := by
    rw [UInt64.lt_iff_toNat_lt, Nat.not_lt]
    exact UInt64.le_iff_toNat_le.1 hd
  obtain ⟨t₁, hpages, hlaid⟩ := writePages_of_whole hwhole
  have hextent := extent_congr hlaid.extents_eq
  rw [← hadvance] at hroom hfits
  obtain ⟨t₂, hgrow⟩ := (growTo_ok_iff t₁ capacity _).2 hroom
  obtain ⟨hx₂, _⟩ := growTo_cases hgrow (by rw [hextent, hcapacity])
  obtain ⟨t₃, hmark⟩ := (markWritten_ok_iff t₂ (offset.advance data.length)).2
    ⟨writtenEnd, by rw [hx₂ _ (by decide), hextent, hend], hfits⟩
  refine ⟨t₃, ?_⟩
  rw [writeTables_eq hstart hbelow hcapacity hlen, hpages]
  simp only [Except.bind, hgrow]
  exact hmark

/-- The tables after a write hold the flat ledger after that write. -/
theorem holds_writeTables {t t' : Tables} {f : Flat} {offset : Offset} {data : Bytes}
    (h : t.Holds f) (hw : writeTables t offset data = .ok t') :
    f.dataStart.toNat ≤ offset.toNat ∧ offset.toNat + data.length < 2 ^ 64
      ∧ t'.Holds (f.write offset data) := by
  obtain ⟨dataStart, capacity, t₁, t₂, hstart, hcapacity, hd, hlen, hpages, hgrow, hmark⟩ :=
    of_writeTables_eq_ok hw
  obtain rfl := Except.ok.inj (h.dataStart.symm.trans hstart)
  obtain rfl := Except.ok.inj (h.capacity.symm.trans hcapacity)
  obtain ⟨-, hlaid⟩ := overlaid_of_writePages hpages
  have hextent := extent_congr hlaid.extents_eq
  obtain ⟨hx₂, hc₂⟩ := growTo_cases hgrow (by rw [hextent, h.capacity])
  have hend : t₂.extent .writtenEnd = .ok f.writtenEnd := by
    rw [hx₂ _ (by decide), hextent, h.writtenEnd]
  obtain ⟨hx₃, hc₃⟩ := markWritten_cases hmark hend
  have hsame : t'.pages = t₁.pages := (pages_markWritten hmark).trans (pages_growTo hgrow)
  refine ⟨hd, hlen, ?_⟩
  constructor
  · rw [hx₃ _ (by decide), hx₂ _ (by decide), hextent, h.dataStart]
    rfl
  · rw [hx₃ _ (by decide), hc₂]
    rfl
  · rw [hc₃]
    rfl
  · unfold WellPaged
    rw [hsame]
    exact hlaid.wellPaged h.wellPaged
  · intro o
    rw [Tables.byteAt, hsame]
    refine (hlaid.byteAt_eq o).trans ?_
    simp only [Flat.write, h.byte, h.overrun_eq, true_and]
  · exact h.overrun_eq

/-- A refresh counts what is stored, and changes nothing else of the ledger. -/
theorem refresh_eq {l : PagedLedger} {f : Flat} (h : l.tables.Holds f) :
    l.refresh = .ok { l with nextWrite := max f.writtenEnd f.dataStart } := by
  rw [refresh, h.dataStart, h.writtenEnd]

instance : FlatStorage PagedLedger where
  Keeps l f := l.tables.Holds f ∧ l.nextWrite = f.nextWrite
  dataStart_eq h := h.1.dataStart
  capacity_eq h := h.1.capacity
  nextWrite_eq h := congrArg Except.ok h.2
  read_eq := by
    intro l f offset len h hcap _
    change l.read offset len = _
    rw [read, h.1.capacity]
    simp only
    rw [if_pos hcap, readPages_eq h.1.wellPaged]
    congr 1
    exact Bytes.span_congr fun o _ _ => h.1.byte o
  write_cases := by
    intro l f offset data h
    change (∃ e s', Storage.orKeep l (l.write offset data) = _ ∧ _)
      ∨ ∃ s', Storage.orKeep l (l.write offset data) = _ ∧ _
    unfold write
    cases hw : writeTables l.tables offset data with
    | error e => exact Or.inl ⟨e, l, rfl, h⟩
    | ok tables =>
      obtain ⟨hd, hlen, hholds⟩ := holds_writeTables h.1 hw
      exact Or.inr ⟨_, rfl, hd, hlen, hholds, h.2⟩
  refresh_ok := by
    intro l f h
    change ∃ s', Storage.orKeep l l.refresh = _ ∧ _
    rw [refresh_eq h.1]
    exact ⟨_, rfl, h.1.withNextWrite _, rfl⟩

/-- To be made ready is to be refreshed. -/
theorem load_eq {l : PagedLedger} {f : Flat} (h : FlatStorage.Keeps l f) :
    Storage.load l = l.refresh := by
  obtain ⟨l', hr, hl'⟩ := FlatStorage.refresh_ok h
  rw [Storage.load, hr]
  simp only
  rw [FlatStorage.geometry_eq hl', Storage.eq_of_orKeep_ok hr]

/-- A ledger whose tables hold a flat ledger can be made ready for use. -/
theorem load_of_holds {t : Tables} {f : Flat} (h : t.Holds f) (versions : List Int64) :
    ∃ l', Storage.load ({ versions, tables := t, nextWrite := 0 } : PagedLedger) = .ok l'
      ∧ FlatStorage.Keeps l' f.refresh :=
  FlatStorage.load_ok (f := { f with nextWrite := 0 }) ⟨h.withNextWrite 0, rfl⟩

/-- The committed bytes: from the start of the data partition up to the first free offset. -/
def committed (l : PagedLedger) : Except StorageError Bytes :=
  match l.tables.extent .dataStart with
  | .error e => .error e
  | .ok dataStart =>
    l.tables.readPages dataStart.toNat (l.nextWrite.toNat - dataStart.toNat)

/-- What is committed is what the flat ledger has between the beginning of the partition
and the first free offset. -/
theorem committed_eq_span {l : PagedLedger} {f : Flat} (h : FlatStorage.Keeps l f) :
    l.committed
      = .ok (Bytes.span f.byte f.dataStart.toNat (f.nextWrite.toNat - f.dataStart.toNat)) := by
  rw [committed, h.1.dataStart]
  simp only
  rw [h.2, readPages_eq h.1.wellPaged, funext h.1.byte]

end PagedLedger

end ByteLedger
