import ByteLedger.Proofs.Ledger
import ByteLedger.Proofs.Session
import ByteLedger.Remote.Script

set_option autoImplicit false

/-!
# Sessions only append

Whatever a remote answers, a session changes no committed byte, never takes the first free
offset back, and writes only at or past it (`Session.run_appendOnly`).

A session guards itself by its frontier, which is the first free offset cut at the capacity,
and the capacity may end before the partition. The guard is enough because a cut frontier
means that nothing was written yet: then the first free offset is the beginning of the
partition, and no write before that succeeds.
-/

namespace ByteLedger

/-- A write inside the partition that does not begin before the frontier does not begin
before the first free offset either. -/
theorem Flat.Sound.nextWrite_le_of_guarded {f : Flat} (h : f.Sound) {offset : Offset}
    (hguard : f.geometry.frontier ≤ offset) (hd : f.dataStart.toNat ≤ offset.toNat) :
    f.nextWrite.toNat ≤ offset.toNat := by
  have hfrontier := f.geometry.toNat_frontier
  have hwritten := h.writtenEnd_le
  have hnext := h.nextWrite_le
  rw [UInt64.le_iff_toNat_le, hfrontier] at hguard
  simp only [Flat.geometry] at hguard
  omega

/-! ## Watching the writes -/

/-- A write that succeeded. -/
structure Placement where
  /-- The first free offset that the storage reported right before. -/
  held : Except StorageError Offset
  /-- Where the write began. -/
  offset : Offset

/-- A write that began at or past the first free offset. -/
def Placement.Appends (p : Placement) : Prop := ∃ n, p.held = .ok n ∧ n ≤ p.offset

/-- A storage whose successful writes are noted. -/
structure Watched (σ : Type) where
  storage : σ
  /-- The writes that succeeded, in order. -/
  placements : List Placement := []

namespace Watched

variable {σ : Type} [Storage σ]

instance : Storage (Watched σ) where
  dataStart w := Storage.dataStart w.storage
  capacity w := Storage.capacity w.storage
  nextWrite w := Storage.nextWrite w.storage
  read w := Storage.read w.storage
  write w offset data :=
    match Storage.write w.storage offset data with
    | (.ok (), storage) =>
      (.ok (),
        { storage
          placements := w.placements ++ [{ held := Storage.nextWrite w.storage, offset }] })
    | (.error e, storage) => (.error e, { w with storage })
  refresh w := ((Storage.refresh w.storage).1, { w with storage := (Storage.refresh w.storage).2 })

/-- To watch a storage changes nothing that it does. -/
theorem view_storage : Storage.View (σ := Watched σ) (τ := σ) Watched.storage where
  dataStart _ := rfl
  capacity _ := rfl
  nextWrite _ := rfl
  read _ _ _ := rfl
  write w offset data := by
    simp only [Storage.write]
    split
    · rename_i hw
      rw [hw]
    · rename_i hw
      rw [hw]
  refresh _ := rfl

/-- An append notes the offset that was held and the one that was written, or nothing. -/
theorem placements_append (w : Watched σ) (offset : Offset) (data : Bytes) :
    (Storage.append w offset data).2.placements = w.placements
      ∨ (∃ s', Storage.write w.storage offset data = (.ok (), s'))
        ∧ (Storage.append w offset data).2.placements
            = w.placements ++ [{ held := Storage.nextWrite w.storage, offset }] := by
  simp only [Storage.append, Storage.write]
  cases hw : Storage.write w.storage offset data with
  | mk result s' =>
    cases result with
    | error e => exact Or.inl rfl
    | ok u => exact Or.inr ⟨⟨s', rfl⟩, rfl⟩

end Watched

namespace Session

variable {σ ρ : Type} [Storage σ] [Remote ρ] [FlatStorage σ]

/-! ## One round -/

/-- A round extends the ledger that the storage keeps. -/
theorem round_extends (options : SyncOptions) (deadline : Option Nat) {s : Session σ ρ} {f : Flat}
    (h : FlatStorage.Keeps s.storage f) (hf : f.Sound) :
    ∃ g, FlatStorage.Keeps (round options deadline s).2.storage g ∧ g.Sound ∧ f.Extends g := by
  rcases storage_round options deadline s with hsame | ⟨position, request, hreq, r, hle, happend⟩
  · exact ⟨f, by rw [hsame]; exact h, hf, .refl f⟩
  · obtain ⟨rfl, _⟩ := SyncOptions.of_nextRequest h hreq
    rw [happend]
    rcases FlatStorage.append_cases r.parsed.position r.data h with
      ⟨e, s', hw, hs'⟩ | ⟨s', hw, hd, _, hs'⟩
    · exact ⟨f, by rw [hw]; exact hs', hf, .refl f⟩
    · have hnext := hf.nextWrite_le_of_guarded hle hd
      refine ⟨_, by rw [hw]; exact hs', (hf.write _ _).refresh, ?_⟩
      exact (f.extends_write r.data hnext).trans (Flat.extends_refresh (hf.write _ _))

/-- A round on a watched storage notes only writes at or past the first free offset. -/
theorem round_appends (options : SyncOptions) (deadline : Option Nat)
    {s : Session (Watched σ) ρ} {f : Flat} (h : FlatStorage.Keeps s.storage.storage f)
    (hf : f.Sound) (hs : ∀ p ∈ s.storage.placements, p.Appends) :
    ∀ p ∈ (round options deadline s).2.storage.placements, p.Appends := by
  rcases storage_round options deadline s with hsame | ⟨position, request, hreq, r, hle, happend⟩
  · rw [hsame]
    exact hs
  · rw [← Watched.view_storage.nextRequest] at hreq
    obtain ⟨rfl, _⟩ := SyncOptions.of_nextRequest h hreq
    rw [happend]
    rcases Watched.placements_append s.storage r.parsed.position r.data with
      hnone | ⟨⟨s', hw⟩, hnoted⟩
    · rw [hnone]
      exact hs
    · rw [hnoted]
      intro p hp
      rw [List.mem_append, List.mem_singleton] at hp
      rcases hp with hp | rfl
      · exact hs p hp
      · refine ⟨f.nextWrite, FlatStorage.nextWrite_eq h, ?_⟩
        rcases FlatStorage.write_cases r.parsed.position r.data h with
          ⟨e, s'', hw', _⟩ | ⟨_, _, hd, _, _⟩
        · rw [hw] at hw'
          cases hw'
        · exact UInt64.le_iff_toNat_le.2 (hf.nextWrite_le_of_guarded hle hd)

/-! ## Whole sessions -/

/-- A session extends the ledger that the storage keeps. -/
theorem run_extends (options : SyncOptions) (deadline : Option Nat) (limit : Nat)
    {s : Session σ ρ} {f : Flat} (h : FlatStorage.Keeps s.storage f) (hf : f.Sound) :
    ∃ g, FlatStorage.Keeps (run options deadline limit s).2.storage g ∧ g.Sound ∧ f.Extends g := by
  refine run_invariant (P := fun u => ∃ g, FlatStorage.Keeps u g ∧ g.Sound ∧ f.Extends g)
    ?_ limit s ⟨f, h, hf, .refl f⟩
  rintro t ⟨g, ht, hg, hfg⟩
  obtain ⟨g', ht', hg', hgg'⟩ := round_extends options deadline ht hg
  exact ⟨g', ht', hg', hfg.trans hgg'⟩

/-- A session on a watched storage notes only writes at or past the first free offset. -/
theorem run_appends (options : SyncOptions) (deadline : Option Nat) (limit : Nat)
    {s : Session (Watched σ) ρ} {f : Flat} (h : FlatStorage.Keeps s.storage.storage f)
    (hf : f.Sound) (hs : ∀ p ∈ s.storage.placements, p.Appends) :
    ∀ p ∈ (run options deadline limit s).2.storage.placements, p.Appends := by
  refine (run_invariant
    (P := fun u : Watched σ =>
      (∃ g, FlatStorage.Keeps u.storage g ∧ g.Sound) ∧ ∀ p ∈ u.placements, p.Appends)
    ?_ limit s ⟨⟨f, h, hf⟩, hs⟩).2
  rintro t ⟨⟨g, ht, hg⟩, hplaced⟩
  refine ⟨?_, round_appends options deadline ht hg hplaced⟩
  obtain ⟨g', ht', hg', _⟩ := round_extends options deadline (s := t.view Watched.storage) ht hg
  rw [Watched.view_storage.round] at ht'
  exact ⟨g', ht', hg'⟩

/-- Where a ledger was committed, a later ledger reads the same byte. -/
theorem read_of_extends {τ : Type} [Storage τ] [FlatStorage τ] {s : σ} {t : τ} {f g : Flat}
    (hs : FlatStorage.Keeps s f) (ht : FlatStorage.Keeps t g) (hf : f.Sound) (hfg : f.Extends g)
    {o : Offset} (hd : f.dataStart ≤ o) (ho : o < f.nextWrite) :
    ∃ b, Storage.read s o 1 = .ok [b] ∧ Storage.read t o 1 = .ok [b] := by
  rw [UInt64.le_iff_toNat_le] at hd
  rw [UInt64.lt_iff_toNat_lt] at ho
  have hwritten := hf.writtenEnd_le
  have hnext := hf.nextWrite_le
  have hcap := hfg.capacity_le
  have hone : (1 : Offset).toNat = 1 := rfl
  refine ⟨f.byte o.toNat, ?_, ?_⟩
  · rw [FlatStorage.read_eq hs (by omega) (by decide)]
    rfl
  · rw [FlatStorage.read_eq ht (by omega) (by decide), ← hfg.byte_eq o.toNat hd ho]
    rfl

end Session

/-- A session on a ledger in use, against any remote and cut after any number of rounds.
Every byte that was committed at its beginning is read as before; the first free offset after
more rounds is never less than after fewer; and every write that succeeds begins at or past
the first free offset right before it, as is seen by watching the ledger, which changes
nothing that the session does. -/
theorem Session.run_appendOnly {ρ : Type} [Remote ρ] (options : SyncOptions)
    (deadline : Option Nat) (s : Session Ledger ρ) (h : s.storage.Reachable) :
    (∃ d n, Storage.dataStart s.storage = .ok d ∧ Storage.nextWrite s.storage = .ok n
      ∧ ∀ limit o, d ≤ o → o < n → ∃ b, Storage.read s.storage o 1 = .ok [b]
        ∧ Storage.read (run options deadline limit s).2.storage o 1 = .ok [b])
    ∧ (∀ fewer more, fewer ≤ more → ∃ m n,
        Storage.nextWrite (run options deadline fewer s).2.storage = .ok m
        ∧ Storage.nextWrite (run options deadline more s).2.storage = .ok n ∧ m ≤ n)
    ∧ ∀ limit, ∃ w : Session (Watched Ledger) ρ,
        run options deadline limit
            { storage := { storage := s.storage }, remote := s.remote, progress := s.progress,
              elapsed := s.elapsed }
          = ((run options deadline limit s).1, w)
        ∧ w.view Watched.storage = (run options deadline limit s).2
        ∧ ∀ p ∈ w.storage.placements, p.Appends := by
  obtain ⟨f, hkeeps, hf⟩ := h.sound
  refine ⟨?_, ?_, ?_⟩
  · refine ⟨f.dataStart, f.nextWrite, FlatStorage.dataStart_eq hkeeps,
      FlatStorage.nextWrite_eq hkeeps, ?_⟩
    intro limit o hd ho
    obtain ⟨g, hg, _, hfg⟩ := run_extends options deadline limit hkeeps hf
    exact read_of_extends hkeeps hg hf hfg hd ho
  · intro fewer more hle
    obtain ⟨k, rfl⟩ := Nat.exists_eq_add_of_le hle
    obtain ⟨g, hg, hgs, _⟩ := run_extends options deadline fewer hkeeps hf
    refine ⟨g.nextWrite, ?_⟩
    rcases run_add options deadline fewer k s with hsame | hmore
    · refine ⟨g.nextWrite, FlatStorage.nextWrite_eq hg, ?_, UInt64.le_refl _⟩
      rw [hsame]
      exact FlatStorage.nextWrite_eq hg
    · obtain ⟨g', hg', _, hgg'⟩ := run_extends options deadline k hg hgs
      refine ⟨g'.nextWrite, FlatStorage.nextWrite_eq hg, ?_,
        UInt64.le_iff_toNat_le.2 hgg'.nextWrite_le⟩
      rw [hmore]
      exact FlatStorage.nextWrite_eq hg'
  · intro limit
    have hview := Watched.view_storage.run options deadline limit
      ({ storage := { storage := s.storage }, remote := s.remote, progress := s.progress,
         elapsed := s.elapsed } : Session (Watched Ledger) ρ)
    change run options deadline limit s = _ at hview
    refine ⟨_, Prod.ext ?_ rfl, ?_, ?_⟩
    · rw [hview]
    · rw [hview]
    · refine run_appends options deadline limit ?_ hf ?_
      · exact hkeeps
      · intro p hp
        cases hp

/-- A remote that leaves a gap and then goes back behind it. -/
theorem Session.run_appendOnly_forged :
    (Ledger.buffer (BufferLedger.ofContents 2 0 [1, 2, 3]).refresh).Reachable
    ∧ ∃ b, Storage.read (Ledger.buffer (BufferLedger.ofContents 2 0 [1, 2, 3]).refresh) 4 1
        = .ok [b]
      ∧ Storage.read (run (ρ := Script) {} none 2
          { storage := Ledger.buffer (BufferLedger.ofContents 2 0 [1, 2, 3]).refresh
            remote :=
              { lines :=
                  [{ outcome := .ok { cursor := "position=9&more=true", data := [7] } },
                    { outcome := .ok { cursor := "position=4", data := [8] } }] } }).2.storage 4 1
        = .ok [b] := by
  have hreach : (Ledger.buffer (BufferLedger.ofContents 2 0 [1, 2, 3]).refresh).Reachable :=
    ⟨2, 0, [1, 2, 3], _, rfl, .start⟩
  refine ⟨hreach, ?_⟩
  obtain ⟨⟨d, n, hd, hn, hread⟩, _⟩ := run_appendOnly (ρ := Script) {} none
    { storage := Ledger.buffer (BufferLedger.ofContents 2 0 [1, 2, 3]).refresh
      remote :=
        { lines :=
            [{ outcome := .ok { cursor := "position=9&more=true", data := [7] } },
              { outcome := .ok { cursor := "position=4", data := [8] } }] } } hreach
  cases hd
  cases hn
  exact hread 2 4 (by decide) (by decide)

end ByteLedger
