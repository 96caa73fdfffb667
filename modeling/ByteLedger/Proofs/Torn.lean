import ByteLedger.Proofs.Ledger
import ByteLedger.Proofs.Window
import ByteLedger.Sync.Serving

set_option autoImplicit false

/-!
# Windows from a torn geometry

The three extents of a geometry are asked for one after the other. Where others write and refresh
in between, they are those of three moments, and the geometry need not be one that the ledger ever
had: the first free offset may be past the capacity (`Storage.tornGeometry`).

A window that is computed from it is served all the same, as long as nobody writes before the first
free offset (`Storage.Grows`). It ends before both the capacity of one moment and the first free
offset of another, and neither ever goes back; so it has only committed bytes, and these stay.

That they are read takes a ledger that fits. Of one that was made with more bytes than there are
offsets for zeros are read (`Ledger.read_window_of_overrun`).
-/

namespace ByteLedger

namespace Storage

variable {σ : Type} [Storage σ]

/-- The geometry of a storage whose extents are asked for at three moments. -/
def tornGeometry (s₀ s₁ s₂ : σ) : Except StorageError Geometry :=
  match dataStart s₀ with
  | .error e => .error e
  | .ok dataStart =>
    match capacity s₁ with
    | .error e => .error e
    | .ok capacity =>
      match nextWrite s₂ with
      | .error e => .error e
      | .ok nextWrite => .ok { dataStart, capacity, nextWrite }

/-- At one moment it is the geometry. -/
theorem tornGeometry_self (s : σ) : tornGeometry s s s = geometry s := rfl

/-- What storage can become by refreshes and by writes that do not begin before the first free
offset of their moment, whether they succeed or fail. -/
inductive Grows (s : σ) : σ → Prop where
  | start : Grows s s
  | write {t : σ} {n offset : Offset} (data : Bytes) : Grows s t → Storage.nextWrite t = .ok n →
      n ≤ offset → Grows s (Storage.write t offset data).2
  | refresh {t : σ} : Grows s t → Grows s (Storage.refresh t).2

theorem Grows.reaches {s t : σ} (h : Grows s t) : Reaches s t := by
  induction h with
  | start => exact .start
  | write data _ _ _ ih => exact ih.write _ data
  | refresh _ ih => exact ih.refresh

theorem Grows.trans {s t u : σ} (h : Grows s t) (h' : Grows t u) : Grows s u := by
  induction h' with
  | start => exact h
  | write data _ hnext hle ih => exact ih.write data hnext hle
  | refresh _ ih => exact ih.refresh

end Storage

/-! ## Ranges that are committed -/

namespace Flat

/-- A range that is committed: if it has bytes they lie in the partition, and it ends before the
first free offset. -/
structure Commits (f : Flat) (offset len : Offset) : Prop where
  dataStart_le : 0 < len.toNat → f.dataStart.toNat ≤ offset.toNat
  le_nextWrite : offset.toNat + len.toNat ≤ f.nextWrite.toNat

variable {f f' : Flat} {offset len : Offset}

/-- Where a committed range is among the committed bytes. -/
theorem Commits.slice_eq (hin : f.Commits offset len) :
    (Bytes.span f.byte f.dataStart.toNat (f.nextWrite.toNat - f.dataStart.toNat)).slice
        (offset.toNat - f.dataStart.toNat) len.toNat
      = Bytes.span f.byte offset.toNat len.toNat := by
  have hend := hin.le_nextWrite
  by_cases hlen : 0 < len.toNat
  · have hstart := hin.dataStart_le hlen
    exact Bytes.slice_span_of_le f.byte (fun _ => hstart) (by omega)
  · rw [Nat.eq_zero_of_not_pos hlen, Bytes.slice, List.take_zero, Bytes.span_zero]

/-- What is committed is read, and read as it was by all that comes after. -/
theorem Proper.read_of_extends (h : f.Proper) (hextends : f.Extends f')
    (hin : f.Commits offset len) :
    f'.read offset len = .ok (Bytes.span f.byte offset.toNat len.toNat) := by
  have hordered : f.nextWrite.toNat ≤ f.capacity.toNat :=
    UInt64.le_iff_toNat_le.1 h.ordered.nextWrite_le
  have hcap := hextends.capacity_le
  have hend := hin.le_nextWrite
  rw [read, if_pos (by omega)]
  congr 1
  apply Bytes.span_congr
  intro o ho hlt
  have hd := hin.dataStart_le (by omega)
  exact hextends.byte_eq o (by omega) (by omega)

/-- The window for a request that is committed, in a geometry whose capacity is that of a ledger and
whose first free offset is that of the ledger later on. It does not begin before the request, and
what it spans is committed then. -/
theorem Proper.commits_window (h : f.Proper) (hextends : f.Extends f') {requested : Offset}
    (hrequested : requested ≤ f.nextWrite) (limit : Offset) :
    let g : Geometry :=
      { dataStart := f.dataStart, capacity := f.capacity, nextWrite := f'.nextWrite }
    requested ≤ (g.window requested limit).position
      ∧ f'.Commits (g.window requested limit).position
          (g.window requested limit).responseBytes := by
  intro g
  have hordered : f.nextWrite.toNat ≤ f.capacity.toNat :=
    UInt64.le_iff_toNat_le.1 h.ordered.nextWrite_le
  have hnext := hextends.nextWrite_le
  have hfrontier : g.frontier.toNat = min f'.nextWrite.toNat f.capacity.toNat := g.toNat_frontier
  have hend := g.toNat_window_le requested limit
  rw [UInt64.le_iff_toNat_le] at hrequested ⊢
  refine ⟨Geometry.le_position_window limit (by omega), ?_, by omega⟩
  intro hbytes
  have hstart := Geometry.dataStart_le_position_window hbytes
  rwa [hextends.dataStart_eq]

end Flat

namespace FlatStorage

variable {σ : Type} [Storage σ] [FlatStorage σ] {s t : σ} {f : Flat}

/-- Growing changes nothing that is committed. -/
theorem extends_of_grows (hgrows : Storage.Grows s t) (h : Keeps s f) (hf : f.Proper) :
    ∃ g, Keeps t g ∧ g.Proper ∧ f.Extends g := by
  induction hgrows with
  | start => exact ⟨f, h, hf, .refl f⟩
  | @write t n offset data _ hnext hle ih =>
    obtain ⟨g, hg, hproper, hextends⟩ := ih
    rw [nextWrite_eq hg, Except.ok.injEq] at hnext
    subst hnext
    rcases write_cases offset data hg with ⟨e, t', hw, hg'⟩ | ⟨t', hw, _, _, hg'⟩
    · exact ⟨g, by rw [hw]; exact hg', hproper, hextends⟩
    · refine ⟨g.write offset data, by rw [hw]; exact hg', hproper.write offset data, ?_⟩
      exact hextends.trans (g.extends_write data (UInt64.le_iff_toNat_le.1 hle))
  | refresh _ ih =>
    obtain ⟨g, hg, hproper, hextends⟩ := ih
    obtain ⟨t', hr, hg'⟩ := refresh_ok hg
    refine ⟨g.refresh, by rw [hr]; exact hg', hproper.refresh, ?_⟩
    exact hextends.trans (Flat.extends_refresh hproper.toSound)

theorem tornGeometry_eq {s₀ s₁ s₂ : σ} {f₀ f₁ f₂ : Flat} (h₀ : Keeps s₀ f₀) (h₁ : Keeps s₁ f₁)
    (h₂ : Keeps s₂ f₂) :
    Storage.tornGeometry s₀ s₁ s₂
      = .ok { dataStart := f₀.dataStart, capacity := f₁.capacity, nextWrite := f₂.nextWrite } := by
  simp only [Storage.tornGeometry, dataStart_eq h₀, capacity_eq h₁, nextWrite_eq h₂]

end FlatStorage

/-! ## Ledgers -/

namespace Ledger

/-- Memory can be had for the bytes that are read. Pages are read with no need of it. -/
def CanRead (len : Nat) : Ledger → Prop
  | buffer _ => len < BufferLedger.memoryLimit
  | paged _ => True

theorem read_eq_flat {l : Ledger} {f : Flat} (h : FlatStorage.Keeps l f) {offset len : Offset}
    (hread : l.CanRead len.toNat) : Storage.read l offset len = f.read offset len := by
  cases l with
  | buffer l =>
    have hflat : l.flat = f := h
    rw [← hflat]
    exact BufferLedger.read_eq_flat fun _ => hread
  | paged l => exact PagedLedger.read_eq_flat h offset len

/-- A ledger stays of its kind. -/
theorem canRead_of_reaches {l l' : Ledger} (h : Storage.Reaches l l') {len : Nat}
    (hread : l.CanRead len) : l'.CanRead len := by
  apply h.invariant (P := fun l => l.CanRead len) hread
  · intro l offset data hl
    cases l with
    | buffer l => exact hl
    | paged l => exact hl
  · intro l hl
    cases l with
    | buffer l => exact hl
    | paged l => exact hl

/-- What a ledger has committed is read however it grows. -/
theorem read_of_commits {l : Ledger} {f : Flat} (h : FlatStorage.Keeps l f) (hf : f.Proper)
    {offset len : Offset} (hin : f.Commits offset len) (hread : l.CanRead len.toNat) (l' : Ledger)
    (hgrows : Storage.Grows l l') :
    Storage.read l' offset len = .ok (Bytes.span f.byte offset.toNat len.toNat) := by
  obtain ⟨f', h', _, hextends⟩ := FlatStorage.extends_of_grows hgrows h hf
  rw [read_eq_flat h' (canRead_of_reaches hgrows.reaches hread)]
  exact hf.read_of_extends hextends hin

/-- A torn geometry of a ledger in use whose capacity reaches its partition. Up to the first free
offset of the second moment no window begins before the request, and what it spans is committed at
the third. -/
theorem commits_of_torn {s₀ s₁ s₂ : Ledger} {g₀ : Geometry} (h₀ : s₀.Reachable)
    (hg₀ : Storage.geometry s₀ = .ok g₀) (hcap : g₀.dataStart ≤ g₀.capacity)
    (h₁ : Storage.Grows s₀ s₁) (h₂ : Storage.Grows s₁ s₂) :
    ∃ g n₁ f₂, Storage.tornGeometry s₀ s₁ s₂ = .ok g ∧ Storage.nextWrite s₁ = .ok n₁
      ∧ FlatStorage.Keeps s₂ f₂ ∧ f₂.Proper ∧ g.dataStart = f₂.dataStart
      ∧ ∀ requested limit, requested ≤ n₁ → requested ≤ (g.window requested limit).position
        ∧ f₂.Commits (g.window requested limit).position
            (g.window requested limit).responseBytes := by
  obtain ⟨f₀, hk₀, hf₀⟩ := h₀.sound
  rw [FlatStorage.geometry_eq hk₀, Except.ok.injEq] at hg₀
  subst hg₀
  have hp₀ : f₀.Proper := ⟨hf₀, UInt64.le_iff_toNat_le.1 hcap⟩
  obtain ⟨f₁, hk₁, hp₁, he₁⟩ := FlatStorage.extends_of_grows h₁ hk₀ hp₀
  obtain ⟨f₂, hk₂, hp₂, he₂⟩ := FlatStorage.extends_of_grows h₂ hk₁ hp₁
  refine ⟨_, _, f₂, FlatStorage.tornGeometry_eq hk₀ hk₁ hk₂, FlatStorage.nextWrite_eq hk₁, hk₂, hp₂,
    (he₂.dataStart_eq.trans he₁.dataStart_eq).symm, ?_⟩
  rw [← he₁.dataStart_eq]
  exact fun requested limit hrequested => hp₁.commits_window he₂ hrequested limit

/-- A responder that finds its window in a torn geometry serves the same committed bytes at any
later moment. Its windows are small enough for memory to be had. -/
theorem windowAt_of_torn {s₀ s₁ s₂ : Ledger} {g₀ : Geometry} (h₀ : s₀.Reachable)
    (hfits : s₀.Fits) (hg₀ : Storage.geometry s₀ = .ok g₀) (hcap : g₀.dataStart ≤ g₀.capacity)
    (h₁ : Storage.Grows s₀ s₁) (h₂ : Storage.Grows s₁ s₂) :
    ∃ g n₁ committed, Storage.tornGeometry s₀ s₁ s₂ = .ok g ∧ Storage.nextWrite s₁ = .ok n₁
      ∧ s₂.committed = .ok committed
      ∧ ∀ requested limit c, requested ≤ n₁ →
        c = g.window requested (min limit Response.dataLimit) →
        ∀ t, Storage.Grows s₂ t →
          windowAt t g requested limit
            = .ok (.ofCursor c (committed.slice (c.position.toNat - g.dataStart.toNat)
                c.responseBytes.toNat)) := by
  obtain ⟨g, n₁, f₂, hg, hn₁, hk₂, hp₂, hd, hwindow⟩ := commits_of_torn h₀ hg₀ hcap h₁ h₂
  have hreach := h₀.of_reaches (h₁.trans h₂).reaches
  have hfits₂ := hfits.of_reaches (h₁.trans h₂).reaches
  refine ⟨g, n₁, _, hg, hn₁, hreach.committed_eq hfits₂ hk₂, ?_⟩
  rintro requested limit c hrequested rfl
  obtain ⟨_, hcommits⟩ := hwindow requested (min limit Response.dataLimit) hrequested
  have hcan :
      s₂.CanRead (g.window requested (min limit Response.dataLimit)).responseBytes.toNat := by
    have hbytes := g.toNat_responseBytes_window_le requested (min limit Response.dataLimit)
    have hmin := Offset.toNat_min limit Response.dataLimit
    have hlimit : Response.dataLimit.toNat < BufferLedger.memoryLimit := by decide
    cases s₂ with
    | buffer l => exact Nat.lt_of_le_of_lt hbytes (by omega)
    | paged l => trivial
  intro t ht
  have hread := read_of_commits hk₂ hp₂ hcommits hcan t ht
  rw [hd, hcommits.slice_eq]
  unfold windowAt
  simp only
  split
  · rename_i hzero
    rw [hzero]
    rfl
  · rw [hread]

end Ledger

end ByteLedger
