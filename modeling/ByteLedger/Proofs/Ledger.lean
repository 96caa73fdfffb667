import ByteLedger.Proofs.Answers
import ByteLedger.Storage.Ledger

set_option autoImplicit false

/-!
# What a ledger of either kind keeps

A `Ledger` keeps what the ledger of its kind keeps, and is in use if that one is. What it has
committed is what it reads, if all that it stores has offsets (`Ledger.readsCommitted`).
-/

namespace ByteLedger.Ledger

theorem write_buffer (l : BufferLedger) (offset : Offset) (data : Bytes) :
    Storage.write (buffer l) offset data
      = ((Storage.write l offset data).1, buffer (Storage.write l offset data).2) := rfl

theorem write_paged (l : PagedLedger) (offset : Offset) (data : Bytes) :
    Storage.write (paged l) offset data
      = ((Storage.write l offset data).1, paged (Storage.write l offset data).2) := rfl

theorem refresh_buffer (l : BufferLedger) :
    Storage.refresh (buffer l) = ((Storage.refresh l).1, buffer (Storage.refresh l).2) := rfl

theorem refresh_paged (l : PagedLedger) :
    Storage.refresh (paged l) = ((Storage.refresh l).1, paged (Storage.refresh l).2) := rfl

instance : FlatStorage Ledger where
  Keeps
    | buffer l, f => FlatStorage.Keeps l f
    | paged l, f => FlatStorage.Keeps l f
  dataStart_eq {l f} h := by
    cases l with
    | buffer l => exact FlatStorage.dataStart_eq (s := l) h
    | paged l => exact FlatStorage.dataStart_eq (s := l) h
  capacity_eq {l f} h := by
    cases l with
    | buffer l => exact FlatStorage.capacity_eq (s := l) h
    | paged l => exact FlatStorage.capacity_eq (s := l) h
  nextWrite_eq {l f} h := by
    cases l with
    | buffer l => exact FlatStorage.nextWrite_eq (s := l) h
    | paged l => exact FlatStorage.nextWrite_eq (s := l) h
  read_eq {l f offset len} h hcap hlen := by
    cases l with
    | buffer l => exact FlatStorage.read_eq (s := l) h hcap hlen
    | paged l => exact FlatStorage.read_eq (s := l) h hcap hlen
  write_cases {l f} offset data h := by
    cases l with
    | buffer l =>
      rw [write_buffer]
      rcases FlatStorage.write_cases (s := l) offset data h with
        ⟨e, l', hw, hl'⟩ | ⟨l', hw, hd, hlen, hl'⟩
      · exact Or.inl ⟨e, buffer l', by rw [hw], hl'⟩
      · exact Or.inr ⟨buffer l', by rw [hw], hd, hlen, hl'⟩
    | paged l =>
      rw [write_paged]
      rcases FlatStorage.write_cases (s := l) offset data h with
        ⟨e, l', hw, hl'⟩ | ⟨l', hw, hd, hlen, hl'⟩
      · exact Or.inl ⟨e, paged l', by rw [hw], hl'⟩
      · exact Or.inr ⟨paged l', by rw [hw], hd, hlen, hl'⟩
  refresh_ok {l f} h := by
    cases l with
    | buffer l =>
      obtain ⟨l', hr, hl'⟩ := FlatStorage.refresh_ok (s := l) h
      exact ⟨buffer l', by rw [refresh_buffer, hr], hl'⟩
    | paged l =>
      obtain ⟨l', hr, hl'⟩ := FlatStorage.refresh_ok (s := l) h
      exact ⟨paged l', by rw [refresh_paged, hr], hl'⟩

/-- A ledger in use: it was made or opened, made ready, and then written and refreshed. -/
def Reachable : Ledger → Prop
  | buffer l => l.Reachable
  | paged l => l.Reachable

theorem Reachable.of_reaches {l l' : Ledger} (h : l.Reachable) (hreach : Storage.Reaches l l') :
    l'.Reachable := by
  apply hreach.invariant (P := Reachable) h
  · intro l offset data hl
    cases l with
    | buffer l => exact BufferLedger.Reachable.of_reaches hl (.write offset data .start)
    | paged l => exact PagedLedger.Reachable.of_reaches hl (.write offset data .start)
  · intro l hl
    cases l with
    | buffer l => exact BufferLedger.Reachable.of_reaches hl (.refresh .start)
    | paged l => exact PagedLedger.Reachable.of_reaches hl (.refresh .start)

theorem Reachable.sound {l : Ledger} (h : l.Reachable) : ∃ f, FlatStorage.Keeps l f ∧ f.Sound := by
  cases l with
  | buffer l => exact ⟨l.flat, rfl, (BufferLedger.Reachable.sound h).flat⟩
  | paged l => exact PagedLedger.Reachable.sound h

/-- A ledger reads as many bytes as it is asked for. -/
theorem length_of_read {l : Ledger} {f : Flat} (h : FlatStorage.Keeps l f) {offset len : Offset}
    {bs : Bytes} (hread : Storage.read l offset len = .ok bs) : bs.length = len.toNat := by
  cases l with
  | buffer l => exact BufferLedger.length_of_read hread
  | paged l =>
    change Storage.read l offset len = .ok bs at hread
    rw [PagedLedger.read_eq_flat h, Flat.read] at hread
    split at hread
    · cases hread
      exact Bytes.length_span f.byte offset.toNat len.toNat
    · cases hread

/-! ## Committed bytes -/

/-- All that a ledger stores has offsets. A ledger in pages stores nothing that has none. -/
def Fits : Ledger → Prop
  | buffer l => l.Fits
  | paged _ => True

instance : (l : Ledger) → Decidable l.Fits
  | buffer l => inferInstanceAs (Decidable l.Fits)
  | paged _ => inferInstanceAs (Decidable True)

/-- What fits stays so. -/
theorem Fits.of_reaches {l l' : Ledger} (h : l.Fits) (hreach : Storage.Reaches l l') : l'.Fits := by
  apply hreach.invariant (P := Fits) h
  · intro l offset data hl
    cases l with
    | buffer l => exact BufferLedger.Fits.of_reaches hl (.write offset data .start)
    | paged l => exact hl
  · intro l hl
    cases l with
    | buffer l => exact hl
    | paged l => exact hl

/-- The committed bytes. -/
def committed : Ledger → Except StorageError Bytes
  | buffer l => .ok l.committed
  | paged l => l.committed

/-- What a ledger in use has committed is what its flat ledger has between the beginning of the
partition and the first free offset. -/
theorem Reachable.committed_eq {l : Ledger} {f : Flat} (h : l.Reachable) (hfits : l.Fits)
    (hkeeps : FlatStorage.Keeps l f) :
    l.committed
      = .ok (Bytes.span f.byte f.dataStart.toNat (f.nextWrite.toNat - f.dataStart.toNat)) := by
  cases l with
  | buffer l =>
    have hflat : l.flat = f := hkeeps
    have hfit : l.Fits := hfits
    rw [← hflat]
    exact congrArg Except.ok
      (BufferLedger.committed_eq_span (BufferLedger.Reachable.sound h) hfit.overrun_eq)
  | paged l => exact PagedLedger.committed_eq_span hkeeps

/-- The committed bytes of a ledger reach from the beginning of the partition to the frontier, and
every range between these is read from them. -/
structure ReadsCommitted (l : Ledger) (g : Geometry) (bytes : Bytes) : Prop where
  committed_eq : l.committed = .ok bytes
  length_eq : bytes.length = g.frontier.toNat - g.dataStart.toNat
  read_eq : ∀ offset len : Offset, g.dataStart ≤ offset →
    offset.toNat + len.toNat ≤ g.frontier.toNat → len.toNat < BufferLedger.memoryLimit →
    Storage.read l offset len = .ok (bytes.slice (offset.toNat - g.dataStart.toNat) len.toNat)

/-- A ledger in use reads what it has committed. -/
theorem readsCommitted {l : Ledger} {f : Flat} (h : l.Reachable) (hfits : l.Fits)
    (hkeeps : FlatStorage.Keeps l f) (hsound : f.Sound) :
    l.ReadsCommitted f.geometry
      (Bytes.span f.byte f.dataStart.toNat (f.nextWrite.toNat - f.dataStart.toNat)) := by
  have hfrontier : f.geometry.frontier.toNat = min f.nextWrite.toNat f.capacity.toNat :=
    f.geometry.toNat_frontier
  have hwritten := hsound.writtenEnd_le
  have hnext := hsound.nextWrite_le
  have hd := hsound.dataStart_le
  refine ⟨h.committed_eq hfits hkeeps, ?_, ?_⟩
  · rw [Bytes.length_span]
    change _ = f.geometry.frontier.toNat - f.dataStart.toNat
    omega
  · intro offset len hstart hend hmemory
    have hstart' : f.dataStart.toNat ≤ offset.toNat := UInt64.le_iff_toNat_le.1 hstart
    rw [FlatStorage.read_eq hkeeps (by omega) hmemory]
    exact congrArg Except.ok
      (Bytes.slice_span_of_le f.byte (fun _ => hstart') (by omega)).symm

/-! ## Ledgers that were filled -/

/-- A ledger that was new when it was made ready. One in one buffer is in use; one in pages was
opened in an empty database, made ready, and then written and refreshed. -/
def Filled : Ledger → Prop
  | buffer l => l.Reachable
  | paged l => ∃ options opened db l₀, PagedLedger.ofDatabase {} options = (.ok opened, db)
    ∧ Storage.load opened = .ok l₀ ∧ Storage.Reaches l₀ l

/-- A ledger that was filled keeps a proper flat ledger, and has committed its bytes from the
beginning of the partition up to the first free offset. -/
theorem Filled.keeps {l : Ledger} (h : l.Filled) (hfits : l.Fits) :
    ∃ f, FlatStorage.Keeps l f ∧ f.Proper
      ∧ l.committed
        = .ok (Bytes.span f.byte f.dataStart.toNat (f.nextWrite.toNat - f.dataStart.toNat)) := by
  cases l with
  | buffer l =>
    exact ⟨l.flat, rfl, (BufferLedger.Reachable.sound h).proper,
      Reachable.committed_eq (l := buffer l) h hfits rfl⟩
  | paged l =>
    obtain ⟨options, opened, db, l₀, hopen, hload, hreach⟩ := h
    obtain ⟨l₁, hload', hempty⟩ := PagedLedger.load_of_ofDatabase hopen
    rw [hload] at hload'
    cases hload'
    have hproper := Flat.proper_empty options.dataStart_le_pagedCapacity
    obtain ⟨f, hkeeps, hf⟩ := FlatStorage.invariant_of_reaches hreach ⟨_, hempty, hproper⟩
      (fun _ offset data hf => hf.write offset data) fun _ hf => hf.refresh
    exact ⟨f, hkeeps, hf, PagedLedger.committed_eq_span hkeeps⟩

end ByteLedger.Ledger
