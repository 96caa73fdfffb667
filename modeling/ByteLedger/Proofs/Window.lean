import ByteLedger.Geometry.Basic

set_option autoImplicit false

/-!
# The window algorithm in numbers

Either a request lies before the frontier and the limit is not zero, and the window begins
at the request, moved into the partition, and takes as many bytes as the limit and the
frontier leave it; or the window is the caught-up cursor at the frontier. Clamping at the
greatest offset plays no part in either, because the frontier is an offset.
-/

namespace ByteLedger

/-- The number of windows of `w` bytes that `n` bytes fill. -/
def windowCount (n w : Nat) : Nat := (n + w - 1) / w

theorem windowCount_of_le {n w : Nat} (hw : 0 < w) (h : n ≤ w) : windowCount n w = min 1 n := by
  unfold windowCount
  by_cases hn : n = 0
  · rw [hn, Nat.div_eq_of_lt (by omega)]
    rfl
  · rw [Nat.div_eq_of_lt_le (k := 1)] <;> omega

theorem windowCount_add {n w : Nat} (hw : 0 < w) (hn : 0 < n) :
    windowCount (n + w) w = windowCount n w + 1 := by
  unfold windowCount
  rw [← Nat.add_div_right _ hw]
  congr 1
  omega

theorem windowCount_pos {n w : Nat} (hw : 0 < w) (hn : 0 < n) : 0 < windowCount n w :=
  Nat.div_pos (by omega) hw

namespace Geometry

/-- Where the window for a request begins. -/
def start (g : Geometry) (requested : Offset) : Offset := max g.dataStart requested

theorem toNat_start (g : Geometry) (requested : Offset) :
    (g.start requested).toNat = max g.dataStart.toNat requested.toNat :=
  Offset.toNat_max _ _

/-- Where the bytes of a window end. -/
theorem toNat_stop (g : Geometry) (requested limit : Offset) :
    (min ((g.start requested).advance limit.toNat) g.frontier).toNat
      = min ((g.start requested).toNat + limit.toNat) g.frontier.toNat := by
  have hf := Offset.toNat_le_last g.frontier
  rw [Offset.toNat_min, Offset.toNat_advance]
  omega

/-- No byte can be served: the caught-up cursor. -/
theorem window_of_le {g : Geometry} {requested limit : Offset}
    (h : g.frontier.toNat ≤ (g.start requested).toNat ∨ limit.toNat = 0) :
    g.window requested limit = .caughtUp g.frontier := by
  have hstop := toNat_stop g requested limit
  simp only [window]
  rw [if_pos]
  right
  rw [UInt64.le_iff_toNat_le]
  change (min ((g.start requested).advance limit.toNat) g.frontier).toNat
    ≤ (g.start requested).toNat
  omega

/-- Some byte can be served: the window from the request on. -/
theorem window_eq_of_lt {g : Geometry} {requested limit : Offset}
    (h : (g.start requested).toNat < g.frontier.toNat) (hlimit : 0 < limit.toNat) :
    g.window requested limit
      = { dataBegin := g.dataStart
          position := g.start requested
          dataEnd := g.frontier
          responseBytes :=
            min ((g.start requested).advance limit.toNat) g.frontier - g.start requested
          direction := .forward
          more := decide (min ((g.start requested).advance limit.toNat) g.frontier
            < g.frontier) } := by
  have hstop := toNat_stop g requested limit
  have hcap := toNat_frontier g
  simp only [window]
  rw [if_neg]
  · rfl
  · rw [UInt64.le_iff_toNat_le, UInt64.le_iff_toNat_le]
    change ¬ (g.capacity.toNat ≤ (g.start requested).toNat
      ∨ (min ((g.start requested).advance limit.toNat) g.frontier).toNat
          ≤ (g.start requested).toNat)
    omega

/-- Where that window begins, what it spans, and whether more follows. -/
theorem window_of_lt {g : Geometry} {requested limit : Offset}
    (h : (g.start requested).toNat < g.frontier.toNat) (hlimit : 0 < limit.toNat) :
    (g.window requested limit).position = g.start requested
      ∧ (g.window requested limit).responseBytes.toNat
          = min limit.toNat (g.frontier.toNat - (g.start requested).toNat)
      ∧ ((g.window requested limit).more = true
          ↔ (g.start requested).toNat + limit.toNat < g.frontier.toNat) := by
  have hstop := toNat_stop g requested limit
  rw [window_eq_of_lt h hlimit]
  refine ⟨rfl, ?_, ?_⟩
  · simp only
    rw [UInt64.toNat_sub_of_le, hstop]
    · omega
    · rw [UInt64.le_iff_toNat_le, hstop]
      omega
  · simp only [decide_eq_true_eq]
    rw [UInt64.lt_iff_toNat_lt, hstop]
    omega

/-- No window spans more than the limit. -/
theorem toNat_responseBytes_window_le (g : Geometry) (requested limit : Offset) :
    (g.window requested limit).responseBytes.toNat ≤ limit.toNat := by
  by_cases h : (g.start requested).toNat < g.frontier.toNat ∧ 0 < limit.toNat
  · obtain ⟨_, hbytes, _⟩ := window_of_lt h.1 h.2
    omega
  · rw [window_of_le (by omega)]
    exact Nat.zero_le _

/-- No window passes the frontier. -/
theorem toNat_window_le (g : Geometry) (requested limit : Offset) :
    (g.window requested limit).position.toNat + (g.window requested limit).responseBytes.toNat
      ≤ g.frontier.toNat := by
  by_cases h : (g.start requested).toNat < g.frontier.toNat ∧ 0 < limit.toNat
  · obtain ⟨hposition, hbytes, _⟩ := window_of_lt h.1 h.2
    rw [hposition]
    omega
  · rw [window_of_le (by omega)]
    exact Nat.le_refl _

/-- A window for a request up to the frontier does not begin before the request. -/
theorem le_position_window {g : Geometry} {requested : Offset} (limit : Offset)
    (h : requested.toNat ≤ g.frontier.toNat) :
    requested.toNat ≤ (g.window requested limit).position.toNat := by
  by_cases hlt : (g.start requested).toNat < g.frontier.toNat ∧ 0 < limit.toNat
  · rw [(window_of_lt hlt.1 hlt.2).1, toNat_start]
    exact Nat.le_max_right _ _
  · rw [window_of_le (by omega)]
    exact h

/-- A window with bytes lies in the partition. -/
theorem dataStart_le_position_window {g : Geometry} {requested limit : Offset}
    (h : 0 < (g.window requested limit).responseBytes.toNat) :
    g.dataStart.toNat ≤ (g.window requested limit).position.toNat := by
  by_cases hlt : (g.start requested).toNat < g.frontier.toNat ∧ 0 < limit.toNat
  · rw [(window_of_lt hlt.1 hlt.2).1, toNat_start]
    exact Nat.le_max_left _ _
  · rw [window_of_le (by omega)] at h
    exact absurd h (Nat.lt_irrefl 0)

/-- A replica asks for its frontier. -/
theorem resume_eq (g : Geometry) (limit : Offset) : g.resume limit = .caughtUp g.frontier := by
  apply window_of_le
  left
  rw [toNat_start, toNat_frontier]
  omega

end Geometry

end ByteLedger
