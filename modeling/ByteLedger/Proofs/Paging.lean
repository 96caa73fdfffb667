import ByteLedger.Proofs.Window

set_option autoImplicit false

/-!
# Windows that belong together

A window says where the next one begins. Taken one after the other they tile the data from the
first request up to the frontier, and there are as many as windows of that size are needed
(`Geometry.windows_tile`).

To ask for the position of a window again gives that window, and in a ledger that grew no window
lies before the one that was there for the same request (`Geometry.window_stable`). The caught-up
cursor is no exception: it is parked at the frontier, which the request had reached already.
-/

namespace ByteLedger

/-! ## Tilings -/

/-- Cursors one after the other, from `start` up to `stop`: each begins where the one before it
ends. All but the last span `size` bytes, and the last spans no more than that but at least one. -/
inductive Cursor.Tile (size : Nat) : Nat → List Cursor → Nat → Prop where
  | last {c : Cursor} {start stop : Nat} :
      c.position.toNat = start → start + c.responseBytes.toNat = stop →
      0 < c.responseBytes.toNat → c.responseBytes.toNat ≤ size → Tile size start [c] stop
  | cons {c : Cursor} {cs : List Cursor} {start stop : Nat} :
      c.position.toNat = start → c.responseBytes.toNat = size →
      Tile size (start + size) cs stop → Tile size start (c :: cs) stop

/-- The offsets that a window spans. -/
def Cursor.offsets (c : Cursor) : List Nat := List.range' c.position.toNat c.responseBytes.toNat

namespace Cursor.Tile

variable {size start stop : Nat} {cs : List Cursor}

theorem start_lt (h : Tile size start cs stop) : start < stop := by
  induction h with
  | last _ hstop hpos _ => omega
  | cons _ _ _ ih => omega

/-- There are no more of them than are needed. -/
theorem length_eq (h : Tile size start cs stop) (hsize : 0 < size) :
    cs.length = windowCount (stop - start) size := by
  induction h with
  | last _ hstop hpos hle =>
    rw [windowCount_of_le hsize (by omega), List.length_singleton]
    omega
  | @cons _ cs start stop _ _ htile ih =>
    have hlt := htile.start_lt
    have hleft : stop - start = stop - (start + size) + size := by omega
    rw [hleft, windowCount_add hsize (by omega), List.length_cons, ih]

/-- Together they have each offset once, in order. -/
theorem offsets_eq (h : Tile size start cs stop) :
    cs.flatMap Cursor.offsets = List.range' start (stop - start) := by
  induction h with
  | last hposition hstop _ _ =>
    rw [List.flatMap_singleton, offsets, hposition, ← hstop, Nat.add_sub_cancel_left]
  | @cons _ cs start stop hposition hbytes htile ih =>
    have hlt := htile.start_lt
    have hleft : stop - start = size + (stop - (start + size)) := by omega
    rw [List.flatMap_cons, ih, offsets, hposition, hbytes, List.range'_append_1, hleft]

end Cursor.Tile

namespace Geometry

variable {g : Geometry} {requested limit : Offset}

/-! ## Where windows begin and end -/

/-- A window begins where its start is, or at the frontier if that is less or no byte may be
served. -/
theorem toNat_position_window (g : Geometry) (requested limit : Offset) :
    (g.window requested limit).position.toNat
      = if limit.toNat = 0 then g.frontier.toNat
        else min (g.start requested).toNat g.frontier.toNat := by
  by_cases h : (g.start requested).toNat < g.frontier.toNat ∧ 0 < limit.toNat
  · rw [(window_of_lt h.1 h.2).1, if_neg (by omega)]
    omega
  · rw [window_of_le (by omega), Cursor.caughtUp]
    split
    · rfl
    · simp only
      omega

/-- It ends as far behind its start as the limit says, or at the frontier if that is less or no byte
may be served. -/
theorem toNat_endPosition_window (g : Geometry) (requested limit : Offset) :
    (g.window requested limit).endPosition.toNat
      = if limit.toNat = 0 then g.frontier.toNat
        else min ((g.start requested).toNat + limit.toNat) g.frontier.toNat := by
  by_cases h : (g.start requested).toNat < g.frontier.toNat ∧ 0 < limit.toNat
  · have hf := Offset.toNat_lt g.frontier
    obtain ⟨hposition, hbytes, _⟩ := window_of_lt h.1 h.2
    rw [if_neg (by omega), Cursor.endPosition, Offset.toNat_advance_of_lt] <;>
      rw [hposition, hbytes] <;> omega
  · rw [window_of_le (by omega)]
    have hend : (Cursor.caughtUp g.frontier).endPosition = g.frontier := Offset.clamp_toNat _
    rw [hend]
    split <;> omega

/-- The end of the data that it reports is the frontier. -/
theorem dataEnd_window (g : Geometry) (requested limit : Offset) :
    (g.window requested limit).dataEnd = g.frontier := by
  simp only [window]
  split <;> rfl

/-! ## One window after the other -/

/-- A window after which more data follows ends past the request, and before the frontier. -/
theorem lt_endPosition_of_more (h : (g.window requested limit).more = true) :
    requested.toNat < (g.window requested limit).endPosition.toNat
      ∧ (g.window requested limit).endPosition.toNat < g.frontier.toNat := by
  by_cases hlt : (g.start requested).toNat < g.frontier.toNat ∧ 0 < limit.toNat
  · have hstart := g.toNat_start requested
    have hmore := (window_of_lt hlt.1 hlt.2).2.2.1 h
    rw [toNat_endPosition_window, if_neg (by omega)]
    omega
  · rw [window_of_le (by omega)] at h
    cases h

/-- The windows from a request on. The next one begins where the last one ends, as long as more
data follows. -/
def windows (g : Geometry) (requested limit : Offset) : List Cursor :=
  if _h : (g.window requested limit).more = true then
    g.window requested limit :: windows g (g.window requested limit).endPosition limit
  else [g.window requested limit]
termination_by g.frontier.toNat - requested.toNat
decreasing_by
  have := lt_endPosition_of_more _h
  omega

/-- Where no byte can be served, the caught-up cursor is the only window. -/
theorem windows_of_le (h : g.frontier.toNat ≤ (g.start requested).toNat) :
    g.windows requested limit = [.caughtUp g.frontier] := by
  rw [windows, window_of_le (Or.inl h)]
  rfl

/-- The windows from a request on tile what there is. -/
theorem tile_windows (hlimit : 0 < limit.toNat)
    (h : (g.start requested).toNat < g.frontier.toNat) :
    Cursor.Tile limit.toNat (g.start requested).toNat (g.windows requested limit)
      g.frontier.toNat := by
  fun_induction windows g requested limit with
  | case1 requested hm ih =>
    obtain ⟨hposition, hbytes, hmore⟩ := window_of_lt h hlimit
    have hend := g.toNat_endPosition_window requested limit
    rw [if_neg (by omega)] at hend
    have hnext := lt_endPosition_of_more hm
    have hstart := g.toNat_start requested
    have hleft := hmore.1 hm
    -- The next window begins where this one ends, as that is in the partition.
    have hstart' : (g.start (g.window requested limit).endPosition).toNat
        = (g.start requested).toNat + limit.toNat := by
      rw [toNat_start]
      omega
    refine .cons (by rw [hposition]) (by omega) ?_
    rw [← hstart']
    exact ih (by omega)
  | case2 requested hm =>
    obtain ⟨hposition, hbytes, hmore⟩ := window_of_lt h hlimit
    have hleft := mt hmore.2 hm
    exact .last (by rw [hposition]) (by omega) (by omega) (by omega)

/-- A ledger is paged through in windows of at most `limit` bytes, from any request on. If there
are bytes between that, moved into the partition, and the frontier, the windows tile them. There
are as many windows as windows of that size are needed, and together they have each of those
offsets once, in order. If there are none, there is but the caught-up cursor at the frontier. -/
theorem windows_tile (g : Geometry) (requested limit : Offset) (hlimit : 0 < limit) :
    ((g.start requested).toNat < g.frontier.toNat →
      Cursor.Tile limit.toNat (g.start requested).toNat (g.windows requested limit)
          g.frontier.toNat
        ∧ (g.windows requested limit).length
            = windowCount (g.frontier.toNat - (g.start requested).toNat) limit.toNat
        ∧ (g.windows requested limit).flatMap Cursor.offsets
            = List.range' (g.start requested).toNat
                (g.frontier.toNat - (g.start requested).toNat))
      ∧ (g.frontier.toNat ≤ (g.start requested).toNat →
        g.windows requested limit = [.caughtUp g.frontier]) := by
  have hpos : 0 < limit.toNat := UInt64.lt_iff_toNat_lt.1 hlimit
  refine ⟨?_, windows_of_le⟩
  intro h
  have htile := tile_windows hpos h
  exact ⟨htile, htile.length_eq hpos, htile.offsets_eq⟩

/-- Three windows up to the greatest offset, for a request before the partition. The last one is
cut off at the frontier, which is where offsets end. -/
theorem windows_tile_atLast :
    ∃ g : Geometry, g = ⟨18446744073709551610, Offset.last, Offset.last⟩
      ∧ Cursor.Tile 2 18446744073709551610 (g.windows 3 2) 18446744073709551615
      ∧ (g.windows 3 2).length = 3
      ∧ (g.windows 3 2).flatMap Cursor.offsets
          = [18446744073709551610, 18446744073709551611, 18446744073709551612,
              18446744073709551613, 18446744073709551614]
      ∧ g.windows Offset.last 2 = [.caughtUp Offset.last] := by
  refine ⟨⟨18446744073709551610, Offset.last, Offset.last⟩, rfl, ?_⟩
  obtain ⟨htile, hlength, hoffsets⟩ := (windows_tile
    ⟨18446744073709551610, Offset.last, Offset.last⟩ 3 2 (by decide)).1 (by decide)
  exact ⟨htile, hlength, hoffsets, (windows_tile _ Offset.last 2 (by decide)).2 (by decide)⟩

/-! ## The same request again -/

/-- A window depends on where it begins, and not on the request for it. -/
theorem window_congr {requested' : Offset} (h : g.start requested = g.start requested') :
    g.window requested limit = g.window requested' limit := by
  unfold start at h
  simp only [window, h]

theorem start_start (g : Geometry) (requested : Offset) :
    g.start (g.start requested) = g.start requested := by
  apply UInt64.toNat_inj.1
  simp only [toNat_start]
  omega

/-- Asking for the position of a window gives the window. -/
theorem window_position (g : Geometry) (requested limit : Offset) :
    g.window (g.window requested limit).position limit = g.window requested limit := by
  by_cases h : (g.start requested).toNat < g.frontier.toNat ∧ 0 < limit.toNat
  · rw [(window_of_lt h.1 h.2).1]
    exact window_congr (g.start_start requested)
  · have hcaught : g.window requested limit = .caughtUp g.frontier := window_of_le (by omega)
    rw [hcaught]
    apply window_of_le
    left
    rw [toNat_start]
    exact Nat.le_max_right _ _

/-! ## Later requests -/

/-- `g'` is a later snapshot of the same ledger. -/
structure Grows (g g' : Geometry) : Prop where
  dataStart_eq : g'.dataStart = g.dataStart
  capacity_le : g.capacity ≤ g'.capacity
  nextWrite_le : g.nextWrite ≤ g'.nextWrite

theorem Grows.start_eq {g' : Geometry} (h : g.Grows g') (requested : Offset) :
    g'.start requested = g.start requested := by
  rw [start, start, h.dataStart_eq]

theorem Grows.frontier_le {g' : Geometry} (h : g.Grows g') :
    g.frontier.toNat ≤ g'.frontier.toNat := by
  have hcapacity := UInt64.le_iff_toNat_le.1 h.capacity_le
  have hnextWrite := UInt64.le_iff_toNat_le.1 h.nextWrite_le
  rw [toNat_frontier, toNat_frontier]
  omega

/-- For every ledger, every request and every limit, zero among them. A window is what its position
gives when it is asked for. When the ledger has grown, the window for the same request begins,
ends and reports the end of the data no earlier than before. And the window at the first free
offset is the caught-up cursor, there or at the capacity if that is less. -/
theorem window_stable (g : Geometry) (requested limit : Offset) :
    g.window (g.window requested limit).position limit = g.window requested limit
      ∧ (∀ g', g.Grows g' →
        (g.window requested limit).position ≤ (g'.window requested limit).position
          ∧ (g.window requested limit).endPosition ≤ (g'.window requested limit).endPosition
          ∧ (g.window requested limit).dataEnd ≤ (g'.window requested limit).dataEnd)
      ∧ g.resume limit = .caughtUp (min g.nextWrite g.capacity) := by
  refine ⟨g.window_position requested limit, ?_, g.resume_eq limit⟩
  intro g' h
  have hfrontier := h.frontier_le
  simp only [UInt64.le_iff_toNat_le, toNat_position_window, toNat_endPosition_window,
    dataEnd_window, h.start_eq]
  refine ⟨?_, ?_, hfrontier⟩
  · split <;> omega
  · split <;> omega

/-- A capacity before the partition: the window is the caught-up cursor there. When the ledger has
grown past the partition, the same request gives a window that begins far behind it. -/
theorem window_stable_acrossPartition :
    ∃ g g' : Geometry, g.Grows g'
      ∧ g.window 7 8 = .caughtUp 30
      ∧ g'.window 7 8
          = { dataBegin := 40, position := 40, dataEnd := 64, responseBytes := 8, more := true }
      ∧ g.window 30 8 = .caughtUp 30
      ∧ (g.window 7 8).position ≤ (g'.window 7 8).position
      ∧ (g.window 7 8).endPosition ≤ (g'.window 7 8).endPosition := by
  have hgrows : Grows { dataStart := 40, capacity := 30, nextWrite := 50 }
      { dataStart := 40, capacity := 64, nextWrite := 70 } := ⟨rfl, by decide, by decide⟩
  obtain ⟨hagain, hlater, _⟩ :=
    window_stable { dataStart := 40, capacity := 30, nextWrite := 50 } 7 8
  obtain ⟨hposition, hend, _⟩ := hlater _ hgrows
  exact ⟨_, _, hgrows, by decide, by decide, hagain, hposition, hend⟩

end Geometry

end ByteLedger
