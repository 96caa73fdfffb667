import ByteLedger.Proofs.Paged
import ByteLedger.Proofs.Window

set_option autoImplicit false

/-!
# Pages turn by turn

A range is read, and one is written, in a loop over pages. `Tables.readPages` and
`Tables.writePages` say what such a loop comes to. Here it is a machine that takes a turn for each
page: it has a place in the range, makes a stored number of the index of each page, and takes slices
of the page that it has loaded. A turn can do what those functions cannot: crash, because a slice is
not within its page or an offset is past the last; and nothing says that the loop ends.

It does end, after a turn for each page in which the range lies and one more, and it never crashes,
whatever the tables hold (`PagedLedger.readWithin_eq`, `PagedLedger.writeWithin_eq`). The loop of a
write changes the tables of a transaction. If it fails it leaves them with the pages that were
stored until then, and it is the transaction that drops them.
-/

namespace ByteLedger

/-! ## Loops -/

/-- What a turn of a loop comes to. -/
inductive Turn (σ : Type) where
  /-- The loop goes on. -/
  | again (s : σ)
  /-- The loop is over. -/
  | done (s : σ)
  /-- The loop is left for an error. -/
  | failed (cause : StorageError) (s : σ)
  /-- A slice is not within the bytes of which it is taken, or an offset is past the last. -/
  | crashed

/-- A loop of at most so many turns. If these are not enough, it would go on. -/
def Turn.loop {σ : Type} (turn : σ → Turn σ) : Nat → σ → Turn σ
  | 0, s => .again s
  | n + 1, s =>
    match turn s with
    | .again s => loop turn n s
    | ending => ending

/-- The `len` bytes from `start` on, if there are as many. -/
def Bytes.slice? (bs : Bytes) (start len : Nat) : Option Bytes :=
  if start + len ≤ bs.length then some (bs.slice start len) else none

/-- `bs` with the bytes from `start` on replaced by `data`, if there are as many. -/
def Bytes.overlay? (bs : Bytes) (start : Nat) (data : Bytes) : Option Bytes :=
  if start + data.length ≤ bs.length then some (bs.overlay start data) else none

/-- The index of the page of an offset. -/
def Offset.page (o : Offset) : Offset := .clamp (o.toNat / pageSize)

theorem Offset.toNat_page (o : Offset) : o.page.toNat = o.toNat / pageSize := by
  have ho := toNat_lt o
  rw [page, toNat_clamp]
  unfold pageSize
  omega

/-- The index of a page is a stored number. -/
theorem Offset.toStored_page (o : Offset) : o.page.toStored = .ok o.page.toInt64 := by
  have ho := toNat_lt o
  have hpage := o.toNat_page
  rw [toStored, if_pos]
  unfold pageSize at hpage
  omega

namespace Tables

/-- The bytes of a page, whose index has to be a stored number. -/
def loadPage (t : Tables) (index : Offset) : Except StorageError Bytes :=
  match index.toStored with
  | .error e => .error e
  | .ok _ => t.page index.toNat

/-- The tables with a page, whose index has to be a stored number. -/
def storePage (t : Tables) (index : Offset) (p : Bytes) : Except StorageError Tables :=
  match index.toStored with
  | .error e => .error e
  | .ok _ => .ok { t with pages := t.pages.put index.toNat p }

theorem loadPage_page (t : Tables) (o : Offset) :
    t.loadPage o.page = t.page (o.toNat / pageSize) := by
  rw [loadPage, o.toStored_page, o.toNat_page]

theorem storePage_page (t : Tables) (o : Offset) (p : Bytes) :
    t.storePage o.page p = .ok { t with pages := t.pages.put (o.toNat / pageSize) p } := by
  rw [storePage, o.toStored_page, o.toNat_page]

/-! ## The pages of a range -/

/-- The number of pages in which a range lies. -/
def pageCount (pos len : Nat) : Nat :=
  if len = 0 then 0 else windowCount (pos % pageSize + len) pageSize

theorem pageCount_zero (pos : Nat) : pageCount pos 0 = 0 := rfl

/-- Behind the first page the range lies in one page less. -/
theorem pageCount_of_pos {pos len : Nat} (h : 0 < len) :
    pageCount pos len = pageCount (pos + min len (room pos)) (len - min len (room pos)) + 1 := by
  have hsize : 0 < pageSize := by decide
  have hmod : pos % pageSize < pageSize := Nat.mod_lt _ hsize
  by_cases hlast : len ≤ room pos
  · have hcount := windowCount_of_le hsize (mod_add_le hlast)
    rw [Nat.min_eq_left hlast, Nat.sub_self, pageCount_zero, pageCount, if_neg (by omega), hcount]
    omega
  · have hnext : (pos + room pos) % pageSize = 0 := by
      unfold room pageSize at *
      omega
    have hleft : pos % pageSize + len = len - room pos + pageSize := by
      unfold room at *
      omega
    rw [Nat.min_eq_right (by omega), pageCount, pageCount, if_neg (by omega), if_neg (by omega),
      hnext, Nat.zero_add, hleft, windowCount_add hsize (by omega)]

/-- Reading a range takes what of it lies in its first page, and reads what is behind that. -/
theorem readPages_of_pos (t : Tables) {pos len : Nat} (h : 0 < len) :
    t.readPages pos len
      = match t.page (pos / pageSize) with
        | .error e => .error e
        | .ok p =>
          match t.readPages (pos + min len (room pos)) (len - min len (room pos)) with
          | .error e => .error e
          | .ok rest => .ok (p.slice (pos % pageSize) (min len (room pos)) ++ rest) := by
  rw [readPages, dif_neg (by omega)]
  cases t.page (pos / pageSize) with
  | error e => rfl
  | ok p =>
    by_cases hlast : len ≤ room pos
    · have hnil : ∀ o, t.readPages o 0 = .ok [] := fun o => by rw [readPages, dif_pos rfl]
      simp only [Nat.min_eq_left hlast, Nat.sub_eq_zero_of_le hlast, Nat.sub_self, hnil]
    · have hmin : min len (room pos) = room pos := Nat.min_eq_right (by omega)
      cases hrest : t.readPages (pos + room pos) (len - room pos) with
      | error e => simp only [hmin, hrest]
      | ok rest => simp only [hmin, hrest]

/-- Writing one stores what of it lies in its first page, and writes what is behind that. -/
theorem writePages_of_pos (t : Tables) {pos : Nat} {data : Bytes} (h : 0 < data.length) :
    t.writePages pos data
      = match t.page (pos / pageSize) with
        | .error e => .error e
        | .ok p =>
          writePages
            { t with
              pages := t.pages.put (pos / pageSize)
                (p.overlay (pos % pageSize) (data.take (min data.length (room pos)))) }
            (pos + min data.length (room pos)) (data.drop (min data.length (room pos))) := by
  rw [writePages, dif_neg (List.length_pos_iff.1 h)]
  cases t.page (pos / pageSize) with
  | error e => rfl
  | ok p =>
    by_cases hlast : data.length ≤ room pos
    · have hnil : ∀ (t : Tables) o, t.writePages o [] = .ok t := fun t o => by
        rw [writePages, dif_pos rfl]
      simp only [Nat.min_eq_left hlast, List.take_of_length_le hlast, List.take_length,
        List.drop_eq_nil_of_le hlast, List.drop_length, hnil]
    · simp only [Nat.min_eq_right (Nat.le_of_lt (Nat.not_le.1 hlast))]

/-! ## Reading -/

/-- A loop that reads: how far it came, and what it has read. -/
structure Reading where
  pos : Offset
  out : Bytes

/-- A turn takes what of the range lies in one page. -/
def readTurn (t : Tables) (stop : Offset) (s : Reading) : Turn Reading :=
  if s.pos < stop then
    let len := min (stop.toNat - s.pos.toNat) (room s.pos.toNat)
    match t.loadPage s.pos.page with
    | .error e => .failed e s
    | .ok p =>
      match p.slice? (s.pos.toNat % pageSize) len, s.pos.advance? len with
      | some part, some pos => .again { pos, out := s.out ++ part }
      | _, _ => .crashed
  else .done s

/-- A turn that finds the page goes on behind it. -/
theorem readTurn_of_page {t : Tables} {stop : Offset} {s : Reading} {p : Bytes}
    (hlt : s.pos.toNat < stop.toNat) (hpage : t.page (s.pos.toNat / pageSize) = .ok p) :
    ∃ pos, pos.toNat = s.pos.toNat + min (stop.toNat - s.pos.toNat) (room s.pos.toNat)
      ∧ t.readTurn stop s = .again
          { pos
            out := s.out ++ p.slice (s.pos.toNat % pageSize)
              (min (stop.toNat - s.pos.toNat) (room s.pos.toNat)) } := by
  have hstop := Offset.toNat_lt stop
  have hlen := length_of_page hpage
  have hfit := mod_add_le (Nat.min_le_right (stop.toNat - s.pos.toNat) (room s.pos.toNat))
  have hadvance : s.pos.toNat + min (stop.toNat - s.pos.toNat) (room s.pos.toNat) < 2 ^ 64 := by
    omega
  refine ⟨_, Offset.toNat_advance_of_lt hadvance, ?_⟩
  rw [readTurn, if_pos (UInt64.lt_iff_toNat_lt.2 hlt), loadPage_page, hpage]
  simp only
  rw [Bytes.slice?, if_pos (by omega), Offset.advance?_eq_some hadvance]

/-- One that does not is the last. -/
theorem readTurn_of_error {t : Tables} {stop : Offset} {s : Reading} {e : StorageError}
    (hlt : s.pos.toNat < stop.toNat) (hpage : t.page (s.pos.toNat / pageSize) = .error e) :
    t.readTurn stop s = .failed e s := by
  rw [readTurn, if_pos (UInt64.lt_iff_toNat_lt.2 hlt), loadPage_page, hpage]

/-- The loop ends as reading does. -/
theorem loop_readTurn {t : Tables} {stop : Offset} {turns : Nat} {s : Reading}
    (hle : s.pos.toNat ≤ stop.toNat)
    (hturns : pageCount s.pos.toNat (stop.toNat - s.pos.toNat) < turns) :
    (∃ bs, t.readPages s.pos.toNat (stop.toNat - s.pos.toNat) = .ok bs
        ∧ ∃ pos, Turn.loop (t.readTurn stop) turns s = .done { pos, out := s.out ++ bs })
      ∨ ∃ e s', t.readPages s.pos.toNat (stop.toNat - s.pos.toNat) = .error e
        ∧ Turn.loop (t.readTurn stop) turns s = .failed e s' := by
  induction turns generalizing s with
  | zero => exact absurd hturns (Nat.not_lt_zero _)
  | succ turns ih =>
    rw [Turn.loop]
    by_cases hlt : s.pos.toNat < stop.toNat
    · rw [readPages_of_pos t (by omega)]
      rw [pageCount_of_pos (by omega)] at hturns
      cases hpage : t.page (s.pos.toNat / pageSize) with
      | error e =>
        refine Or.inr ⟨e, s, rfl, ?_⟩
        rw [readTurn_of_error hlt hpage]
      | ok p =>
        obtain ⟨pos, hpos, hturn⟩ := readTurn_of_page hlt hpage
        rw [hturn]
        simp only
        have hleft : stop.toNat - s.pos.toNat - min (stop.toNat - s.pos.toNat) (room s.pos.toNat)
            = stop.toNat - pos.toNat := by omega
        rw [hleft, ← hpos] at hturns ⊢
        rcases ih (s := { pos, out := s.out ++ _ }) (by simp only; omega)
            (Nat.lt_of_succ_lt_succ hturns) with
          ⟨bs, hread, stop', hloop⟩ | ⟨e, s', hread, hloop⟩
        · refine Or.inl ⟨_, by rw [hread], stop', ?_⟩
          rw [hloop, List.append_assoc]
        · exact Or.inr ⟨e, s', by rw [hread], hloop⟩
    · have hzero : stop.toNat - s.pos.toNat = 0 := by omega
      rw [hzero, readPages, dif_pos rfl]
      refine Or.inl ⟨[], rfl, s.pos, ?_⟩
      rw [readTurn, if_neg (by rw [UInt64.lt_iff_toNat_lt]; exact hlt), List.append_nil]

/-! ## Writing -/

/-- A loop that writes: the tables of its transaction, how far it came, and what is left. -/
structure Writing where
  tables : Tables
  pos : Offset
  rest : Bytes

/-- A turn loads one page, replaces what of the range lies in it, and stores it. -/
def writeTurn (s : Writing) : Turn Writing :=
  if s.rest = [] then .done s
  else
    let len := min s.rest.length (room s.pos.toNat)
    match s.tables.loadPage s.pos.page with
    | .error e => .failed e s
    | .ok p =>
      match (s.rest.slice? 0 len).bind (p.overlay? (s.pos.toNat % pageSize)) with
      | none => .crashed
      | some p =>
        match s.tables.storePage s.pos.page p with
        | .error e => .failed e s
        | .ok tables =>
          match s.pos.advance? len with
          | none => .crashed
          | some pos => .again { tables, pos, rest := s.rest.drop len }

/-- A turn that finds the page goes on behind it. -/
theorem writeTurn_of_page {s : Writing} {p : Bytes} (hpos : 0 < s.rest.length)
    (hend : s.pos.toNat + s.rest.length < 2 ^ 64)
    (hpage : s.tables.page (s.pos.toNat / pageSize) = .ok p) :
    ∃ pos, pos.toNat = s.pos.toNat + min s.rest.length (room s.pos.toNat)
      ∧ writeTurn s = .again
          { tables :=
              { s.tables with
                pages := s.tables.pages.put (s.pos.toNat / pageSize)
                  (p.overlay (s.pos.toNat % pageSize)
                    (s.rest.take (min s.rest.length (room s.pos.toNat)))) }
            pos
            rest := s.rest.drop (min s.rest.length (room s.pos.toNat)) } := by
  have hlen := length_of_page hpage
  have hfit := mod_add_le (Nat.min_le_right s.rest.length (room s.pos.toNat))
  have hadvance : s.pos.toNat + min s.rest.length (room s.pos.toNat) < 2 ^ 64 := by omega
  have hpart : s.rest.slice? 0 (min s.rest.length (room s.pos.toNat))
      = some (s.rest.take (min s.rest.length (room s.pos.toNat))) := by
    rw [Bytes.slice?, if_pos (by omega), Bytes.slice, List.drop_zero]
  refine ⟨_, Offset.toNat_advance_of_lt hadvance, ?_⟩
  rw [writeTurn, if_neg (List.length_pos_iff.1 hpos), loadPage_page, hpage]
  simp only
  rw [hpart, Option.bind_some, Bytes.overlay?, if_pos (by rw [List.length_take]; omega)]
  simp only
  rw [storePage_page, Offset.advance?_eq_some hadvance]

/-- One that does not is the last, and leaves the pages that were stored before it. -/
theorem writeTurn_of_error {s : Writing} {e : StorageError} (hpos : 0 < s.rest.length)
    (hpage : s.tables.page (s.pos.toNat / pageSize) = .error e) : writeTurn s = .failed e s := by
  rw [writeTurn, if_neg (List.length_pos_iff.1 hpos), loadPage_page, hpage]

/-- The loop was left `k` bytes behind its beginning, at a page row of another length. What lies
before is stored then. -/
structure Writing.LeftAt (s : Writing) (k : Nat) (e : StorageError) (s' : Writing) : Prop where
  lt : k < s.rest.length
  row : ∃ p, s.tables.pages.get? ((s.pos.toNat + k) / pageSize) = some p ∧ p.length ≠ pageSize
    ∧ e = .wrongPageLength ((s.pos.toNat + k) / pageSize) p.length
  laid : s.tables.Overlaid s'.tables s.pos.toNat (s.rest.take k)

/-- To be left `k` bytes behind a turn is to be left that much further. -/
theorem Writing.LeftAt.before {s s₁ s' : Writing} {n k : Nat} {e : StorageError}
    (h : s₁.LeftAt k e s') (hn : n ≤ s.rest.length) (hpos : s₁.pos.toNat = s.pos.toNat + n)
    (hrest : s₁.rest = s.rest.drop n)
    (hlaid : s.tables.Overlaid s₁.tables s.pos.toNat (s.rest.take n)) :
    s.LeftAt (n + k) e s' := by
  obtain ⟨hlt, ⟨p, hrow, hlen, he⟩, hbehind⟩ := h
  rw [hpos, Nat.add_assoc] at hrow he
  rw [hpos, hrest] at hbehind
  rw [hrest, List.length_drop] at hlt
  refine ⟨by omega, ⟨p, hlaid.get?_of_length_ne hrow hlen, hlen, he⟩, ?_⟩
  rw [List.take_add]
  refine hlaid.append ?_
  rw [List.length_take_of_le hn]
  exact hbehind

/-- The loop ends as writing does. If it fails, it is left at the page for which it does. -/
theorem loop_writeTurn {turns : Nat} {s : Writing} (hend : s.pos.toNat + s.rest.length < 2 ^ 64)
    (hturns : pageCount s.pos.toNat s.rest.length < turns) :
    (∃ s', s.tables.writePages s.pos.toNat s.rest = .ok s'.tables
        ∧ Turn.loop writeTurn turns s = .done s')
      ∨ ∃ k e s', s.LeftAt k e s' ∧ s.tables.writePages s.pos.toNat s.rest = .error e
        ∧ Turn.loop writeTurn turns s = .failed e s' := by
  induction turns generalizing s with
  | zero => exact absurd hturns (Nat.not_lt_zero _)
  | succ turns ih =>
    rw [Turn.loop]
    by_cases hpos : 0 < s.rest.length
    · rw [writePages_of_pos s.tables hpos]
      rw [pageCount_of_pos hpos] at hturns
      rcases s.tables.page_cases (s.pos.toNat / pageSize) with
        ⟨p, hpage, hplen, _, hp⟩ | ⟨p, hrow, hplen, hpage⟩
      · have hn := Nat.min_le_left s.rest.length (room s.pos.toNat)
        have hroom := room_pos s.pos.toNat
        have hpart := List.length_take_of_le hn
        obtain ⟨pos, hnext, hturn⟩ := writeTurn_of_page hpos hend hpage
        rw [hturn, hpage, ← hnext]
        rw [← hnext, ← List.length_drop] at hturns
        simp only
        rcases ih (s := { tables := _, pos, rest := _ })
            (by simp only [List.length_drop]; omega) (Nat.lt_of_succ_lt_succ hturns) with
          hdone | ⟨k, e, s', hleft, hwrite, hloop⟩
        · exact Or.inl hdone
        · have hlaid := overlaid_put hplen hp (by rw [hpart]; omega)
            (by rw [hpart]; exact Nat.min_le_right _ _)
          exact Or.inr ⟨_, e, s', hleft.before hn hnext rfl hlaid, hwrite, hloop⟩
      · refine Or.inr ⟨0, _, s, ⟨hpos, ⟨p, hrow, hplen, rfl⟩, overlaid_nil _ _⟩, ?_, ?_⟩
        · rw [hpage]
          rfl
        · rw [writeTurn_of_error hpos hpage]
          rfl
    · have hnil : s.rest = [] := List.length_eq_zero_iff.1 (by omega)
      refine Or.inl ⟨s, ?_, ?_⟩
      · rw [hnil, writePages, dif_pos rfl]
      · rw [writeTurn, if_pos hnil]

end Tables

/-! ## The operations of a ledger -/

namespace PagedLedger

open Tables

/-- A read whose loop takes at most so many turns; none if it crashed or did not end. -/
def readWithin (turns : Nat) (l : PagedLedger) (offset len : Offset) :
    Option (Except StorageError Bytes) :=
  match l.tables.extent .capacity with
  | .error e => some (.error e)
  | .ok capacity =>
    match (offset.advance? len.toNat).filter fun stop => stop ≤ capacity with
    | none => some (.error (.outOfRange offset (offset.advance len.toNat) capacity))
    | some stop =>
      match Turn.loop (l.tables.readTurn stop) turns { pos := offset, out := [] } with
      | .done s => some (.ok s.out)
      | .failed e _ => some (.error e)
      | .again _ | .crashed => none

/-- The statements of a write, in the tables of a transaction. -/
def writeStatements (turns : Nat) (t : Tables) (offset : Offset) (data : Bytes) : Turn Tables :=
  match t.extent .dataStart with
  | .error e => .failed e t
  | .ok dataStart =>
    if offset < dataStart then .failed (.belowPartition offset dataStart) t
    else
      match t.extent .capacity with
      | .error e => .failed e t
      | .ok capacity =>
        match offset.advance? data.length with
        | none => .failed (.outOfRange offset Offset.last capacity) t
        | some stop =>
          match Turn.loop writeTurn turns { tables := t, pos := offset, rest := data } with
          | .again s => .again s.tables
          | .crashed => .crashed
          | .failed e s => .failed e s.tables
          | .done s =>
            match s.tables.growTo capacity stop with
            | .error e => .failed e s.tables
            | .ok t =>
              match t.markWritten stop with
              | .error e => .failed e t
              | .ok t => .done t

/-- A write whose loop takes at most so many turns; none if it crashed or did not end. The
transaction is committed if all statements succeed. Otherwise it is dropped, and the tables are
those from before it, however far the statements came. -/
def writeWithin (turns : Nat) (l : PagedLedger) (offset : Offset) (data : Bytes) :
    Option (Except StorageError Unit × PagedLedger) :=
  match writeStatements turns l.tables offset data with
  | .done t => some (.ok (), { l with tables := t })
  | .failed e _ => some (.error e, l)
  | .again _ | .crashed => none

/-- The end of a range, if it is within the capacity. -/
theorem filter_advance? (offset len capacity : Offset) :
    ((offset.advance? len.toNat).filter fun stop => stop ≤ capacity)
      = if offset.toNat + len.toNat ≤ capacity.toNat then some (offset.advance len.toNat)
        else none := by
  have hcapacity := Offset.toNat_lt capacity
  by_cases hlen : offset.toNat + len.toNat < 2 ^ 64
  · rw [Offset.advance?_eq_some hlen, Option.filter_some]
    simp only [UInt64.le_iff_toNat_le, Offset.toNat_advance_of_lt hlen, decide_eq_true_eq]
  · rw [Offset.advance?_eq_none_iff.2 (by omega), Option.filter_none, if_neg (by omega)]

/-- A turn for each page, and one more, are enough for a read. -/
theorem readWithin_eq {turns : Nat} {offset len : Offset} (l : PagedLedger)
    (hturns : pageCount offset.toNat len.toNat < turns) :
    l.readWithin turns offset len = some (Storage.read l offset len) := by
  change _ = some (l.read offset len)
  rw [readWithin, read]
  cases l.tables.extent .capacity with
  | error e => rfl
  | ok capacity =>
    simp only
    rw [filter_advance?]
    by_cases hrange : offset.toNat + len.toNat ≤ capacity.toNat
    · rw [if_pos hrange, if_pos hrange]
      have hcapacity := Offset.toNat_lt capacity
      have hstop := Offset.toNat_advance_of_lt (o := offset) (n := len.toNat) (by omega)
      have hleft : (offset.advance len.toNat).toNat - offset.toNat = len.toNat := by omega
      have hloop := loop_readTurn (t := l.tables) (s := { pos := offset, out := [] })
        (show offset.toNat ≤ (offset.advance len.toNat).toNat by omega)
        (show pageCount offset.toNat _ < turns by rw [hleft]; exact hturns)
      rw [hleft] at hloop
      rcases hloop with ⟨bs, hread, pos, hloop⟩ | ⟨e, s', hread, hloop⟩
      · simp only [hloop, hread, List.nil_append]
      · simp only [hloop, hread]
    · rw [if_neg hrange, if_neg hrange]

/-- So they are for a write. -/
theorem writeWithin_eq {turns : Nat} {offset : Offset} {data : Bytes} (l : PagedLedger)
    (hturns : pageCount offset.toNat data.length < turns) :
    l.writeWithin turns offset data = some (Storage.write l offset data) := by
  change _ = some (Storage.orKeep l (l.write offset data))
  rw [writeWithin, writeStatements, write, writeTables]
  cases l.tables.extent .dataStart with
  | error e => rfl
  | ok dataStart =>
    simp only
    by_cases hbelow : offset < dataStart
    · rw [if_pos hbelow, if_pos hbelow]
      rfl
    · rw [if_neg hbelow, if_neg hbelow]
      cases l.tables.extent .capacity with
      | error e => rfl
      | ok capacity =>
        simp only
        cases hadvance : offset.advance? data.length with
        | none => rfl
        | some stop =>
          simp only
          rcases loop_writeTurn (s := { tables := l.tables, pos := offset, rest := data })
            (Offset.eq_advance_of_advance? hadvance).1 hturns with
            ⟨s', hwrite, hloop⟩ | ⟨_, e, s', _, hwrite, hloop⟩
          · simp only [hloop, hwrite]
            cases s'.tables.growTo capacity stop with
            | error e => rfl
            | ok t =>
              simp only
              cases t.markWritten stop <;> rfl
          · simp only [hloop, hwrite]
            rfl

end PagedLedger

end ByteLedger
