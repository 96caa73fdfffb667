import ByteLedger.Storage.Basic

set_option autoImplicit false

/-!
# Flat ledgers

What a ledger is, however its bytes are kept: where the data partition begins, how far it
may be read, how far it was written and how far it is committed, and a byte at each offset.
A write and a refresh change these values and nothing else.

The byte at an offset is the one that is read there. A ledger that was made with more bytes than
there are offsets for is overrun: none of its bytes can be read, nor any that is written to it.

A storage keeps a flat ledger (`FlatStorage.Keeps`) if it reports its extents, reads its
bytes, and writes and refreshes as the flat ledger does. What syncs and serves a ledger is
proved from that alone, for every kind of storage.
-/

namespace ByteLedger

namespace Bytes

/-- The `len` bytes from `start` on, where every offset has a byte. -/
def span (byte : Nat → UInt8) (start len : Nat) : Bytes := (List.range' start len).map byte

@[simp] theorem length_span (byte : Nat → UInt8) (start len : Nat) :
    (span byte start len).length = len := by
  simp [span]

@[simp] theorem span_zero (byte : Nat → UInt8) (start : Nat) : span byte start 0 = [] := rfl

theorem span_append (byte : Nat → UInt8) (start m n : Nat) :
    span byte start m ++ span byte (start + m) n = span byte start (m + n) := by
  rw [span, span, span, ← List.map_append, List.range'_append_1]

theorem getElem?_span (byte : Nat → UInt8) {start len i : Nat} (h : i < len) :
    (span byte start len)[i]? = some (byte (start + i)) := by
  simp [span, h]

theorem getD_span (byte : Nat → UInt8) {start len i : Nat} (h : i < len) :
    (span byte start len).getD i 0 = byte (start + i) := by
  rw [List.getD_eq_getElem?_getD, getElem?_span byte h, Option.getD_some]

/-- Two spans are equal if the bytes are, at each offset between their ends. -/
theorem span_congr {byte byte' : Nat → UInt8} {start len : Nat}
    (h : ∀ o, start ≤ o → o < start + len → byte o = byte' o) :
    span byte start len = span byte' start len := by
  apply List.map_congr_left
  intro o ho
  rw [List.mem_range'_1] at ho
  exact h o ho.1 ho.2

/-- A byte string is a span if it has the length and the bytes of one. -/
theorem eq_span {bs : Bytes} {byte : Nat → UInt8} {start len : Nat} (hlen : bs.length = len)
    (h : ∀ i, i < len → bs.getD i 0 = byte (start + i)) : bs = span byte start len := by
  apply List.ext_getElem?
  intro i
  by_cases hi : i < len
  · have hbyte := h i hi
    rw [List.getD_eq_getElem?_getD, List.getElem?_eq_getElem (by omega), Option.getD_some] at hbyte
    rw [getElem?_span byte hi, List.getElem?_eq_getElem (by omega), hbyte]
  · rw [List.getElem?_eq_none (by omega), List.getElem?_eq_none (by rw [length_span]; omega)]

/-- A slice of a span is a span. -/
theorem slice_span (byte : Nat → UInt8) (start len i n : Nat) :
    slice (span byte start len) i n = span byte (start + i) (min n (len - i)) := by
  apply eq_span
  · rw [length_slice, length_span]
  · intro j hj
    rw [getD_slice _ _ (by omega), getD_span byte (by omega), Nat.add_assoc]

/-- A range inside a span, by where it begins. -/
theorem slice_span_of_le (byte : Nat → UInt8) {start len o n : Nat} (h : 0 < n → start ≤ o)
    (h' : o + n ≤ start + len) : slice (span byte start len) (o - start) n = span byte o n := by
  rw [slice_span]
  by_cases hn : 0 < n
  · rw [Nat.add_sub_of_le (h hn), Nat.min_eq_left (by omega)]
  · rw [Nat.eq_zero_of_not_pos hn, Nat.zero_min, span_zero, span_zero]

/-- The `n` bytes right before an offset; none if that are no bytes. -/
def before? (byte : Nat → UInt8) (offset n : Nat) : Option Bytes :=
  if n = 0 then none else some (span byte (offset - n) n)

theorem length_of_before? {byte : Nat → UInt8} {offset n : Nat} {bs : Bytes}
    (h : before? byte offset n = some bs) : bs.length ≤ n := by
  unfold before? at h
  split at h
  · cases h
  · cases h
    exact Nat.le_of_eq (length_span byte _ n)

end Bytes

/-- The first free offset lies in the data partition, up to the capacity. -/
structure Geometry.Ordered (g : Geometry) : Prop where
  dataStart_le : g.dataStart ≤ g.nextWrite
  nextWrite_le : g.nextWrite ≤ g.capacity

/-- All data before the first free offset can be read then. -/
theorem Geometry.Ordered.frontier_eq {g : Geometry} (h : g.Ordered) : g.frontier = g.nextWrite := by
  have hle := UInt64.le_iff_toNat_le.1 h.nextWrite_le
  apply UInt64.toNat_inj.1
  rw [toNat_frontier, Nat.min_eq_left hle]

/-- A ledger as a byte at each offset. -/
structure Flat where
  /-- Where the data partition begins. -/
  dataStart : Offset
  /-- The number of bytes that may be read. -/
  capacity : Offset
  /-- One past the highest byte written. -/
  writtenEnd : Offset
  /-- The first free offset as of the last refresh. -/
  nextWrite : Offset
  /-- The byte at each offset. -/
  byte : Nat → UInt8
  /-- Whether what is stored runs past the last offset, so that none of it is read. -/
  overrun : Bool := false

namespace Flat

/-- The three extents that a storage reports. -/
def geometry (f : Flat) : Geometry where
  dataStart := f.dataStart
  capacity := f.capacity
  nextWrite := f.nextWrite

/-- A new ledger without contents. -/
def empty (dataStart capacity : Offset) : Flat where
  dataStart := dataStart
  capacity := capacity
  writtenEnd := 0
  nextWrite := dataStart
  byte := fun _ => 0

theorem frontier_le_capacity (f : Flat) : f.geometry.frontier.toNat ≤ f.capacity.toNat := by
  rw [Geometry.toNat_frontier]
  exact Nat.min_le_right _ _

/-- The ledger after `data` was written at `offset`. -/
def write (f : Flat) (offset : Offset) (data : Bytes) : Flat :=
  let stop := offset.advance data.length
  { f with
    capacity := if f.capacity < stop then stop.roundUpToPage else f.capacity
    writtenEnd := max f.writtenEnd stop
    byte := fun o =>
      if f.overrun = false ∧ offset.toNat ≤ o ∧ o < offset.toNat + data.length then
        data.getD (o - offset.toNat) 0
      else f.byte o }

/-- The ledger when every write counts. -/
def refresh (f : Flat) : Flat := { f with nextWrite := max f.writtenEnd f.dataStart }

/-- What holds of every ledger in use. The first free offset never passes what was written,
and of that the capacity reaches the end; but the capacity can end before the partition. -/
structure Sound (f : Flat) : Prop where
  writtenEnd_le : f.writtenEnd.toNat ≤ f.capacity.toNat
  dataStart_le : f.dataStart.toNat ≤ f.nextWrite.toNat
  nextWrite_le : f.nextWrite.toNat ≤ max f.writtenEnd.toNat f.dataStart.toNat

/-- A sound ledger whose capacity reaches the partition. -/
structure Proper (f : Flat) : Prop extends f.Sound where
  dataStart_le_capacity : f.dataStart.toNat ≤ f.capacity.toNat

/-- `f'` comes after `f`: nothing that was committed has changed, nor has the partition. -/
structure Extends (f f' : Flat) : Prop where
  dataStart_eq : f'.dataStart = f.dataStart
  overrun_eq : f'.overrun = f.overrun
  capacity_le : f.capacity.toNat ≤ f'.capacity.toNat
  nextWrite_le : f.nextWrite.toNat ≤ f'.nextWrite.toNat
  byte_eq : ∀ o, f.dataStart.toNat ≤ o → o < f.nextWrite.toNat → f'.byte o = f.byte o

theorem Extends.refl (f : Flat) : f.Extends f :=
  ⟨rfl, rfl, Nat.le_refl _, Nat.le_refl _, fun _ _ _ => rfl⟩

theorem Extends.trans {f g h : Flat} (h₁ : f.Extends g) (h₂ : g.Extends h) : f.Extends h where
  dataStart_eq := h₂.dataStart_eq.trans h₁.dataStart_eq
  overrun_eq := h₂.overrun_eq.trans h₁.overrun_eq
  capacity_le := Nat.le_trans h₁.capacity_le h₂.capacity_le
  nextWrite_le := Nat.le_trans h₁.nextWrite_le h₂.nextWrite_le
  byte_eq := by
    intro o hd ho
    have hd' : g.dataStart.toNat ≤ o := by rw [h₁.dataStart_eq]; exact hd
    rw [h₂.byte_eq o hd' (Nat.lt_of_lt_of_le ho h₁.nextWrite_le), h₁.byte_eq o hd ho]

/-! ## Writing -/

theorem toNat_writtenEnd_write (f : Flat) {offset : Offset} {data : Bytes}
    (h : offset.toNat + data.length < 2 ^ 64) :
    (f.write offset data).writtenEnd.toNat
      = max f.writtenEnd.toNat (offset.toNat + data.length) := by
  simp only [write]
  rw [Offset.toNat_max, Offset.toNat_advance_of_lt h]

theorem capacity_le_write (f : Flat) (offset : Offset) (data : Bytes) :
    f.capacity.toNat ≤ (f.write offset data).capacity.toNat := by
  simp only [write]
  split
  · rename_i h
    rw [UInt64.lt_iff_toNat_lt] at h
    exact Nat.le_trans (Nat.le_of_lt h) (Offset.le_roundUpToPage _)
  · exact Nat.le_refl _

theorem advance_le_capacity_write (f : Flat) (offset : Offset) (data : Bytes) :
    (offset.advance data.length).toNat ≤ (f.write offset data).capacity.toNat := by
  simp only [write]
  split
  · exact Offset.le_roundUpToPage _
  · rename_i h
    rw [UInt64.lt_iff_toNat_lt] at h
    omega

theorem byte_write_of_lt (f : Flat) {offset : Offset} (data : Bytes) {o : Nat}
    (h : o < offset.toNat) : (f.write offset data).byte o = f.byte o := by
  simp only [write]
  rw [if_neg (by omega)]

theorem byte_write_of_le {f : Flat} (hover : f.overrun = false) {offset : Offset} {data : Bytes}
    {o : Nat} (h : offset.toNat ≤ o) (h' : o < offset.toNat + data.length) :
    (f.write offset data).byte o = data.getD (o - offset.toNat) 0 := by
  simp only [write]
  rw [if_pos ⟨hover, h, h'⟩]

theorem Sound.write {f : Flat} (h : f.Sound) (offset : Offset) (data : Bytes) :
    (f.write offset data).Sound where
  writtenEnd_le := by
    have h₁ := advance_le_capacity_write f offset data
    have h₂ := capacity_le_write f offset data
    have h₃ := h.writtenEnd_le
    change (max f.writtenEnd (offset.advance data.length)).toNat ≤ _
    rw [Offset.toNat_max]
    omega
  dataStart_le := h.dataStart_le
  nextWrite_le := by
    have h₁ := h.nextWrite_le
    change f.nextWrite.toNat
      ≤ max (max f.writtenEnd (offset.advance data.length)).toNat f.dataStart.toNat
    rw [Offset.toNat_max]
    omega

/-- A write at or past the first free offset changes nothing that was committed. -/
theorem extends_write (f : Flat) {offset : Offset} (data : Bytes)
    (h : f.nextWrite.toNat ≤ offset.toNat) : f.Extends (f.write offset data) where
  dataStart_eq := rfl
  overrun_eq := rfl
  capacity_le := capacity_le_write f offset data
  nextWrite_le := Nat.le_refl _
  byte_eq := fun _ _ ho => byte_write_of_lt f data (Nat.lt_of_lt_of_le ho h)

theorem Proper.write {f : Flat} (h : f.Proper) (offset : Offset) (data : Bytes) :
    (f.write offset data).Proper where
  toSound := h.toSound.write offset data
  dataStart_le_capacity := Nat.le_trans h.dataStart_le_capacity (capacity_le_write f offset data)

/-- The capacity of a proper ledger reaches its first free offset, as it reaches both the partition
and all that was written. -/
theorem Proper.ordered {f : Flat} (h : f.Proper) : f.geometry.Ordered where
  dataStart_le := UInt64.le_iff_toNat_le.2 h.dataStart_le
  nextWrite_le := by
    have hcap := h.dataStart_le_capacity
    have hwritten := h.writtenEnd_le
    have hnext := h.nextWrite_le
    change f.nextWrite ≤ f.capacity
    rw [UInt64.le_iff_toNat_le]
    omega

theorem Proper.frontier_eq {f : Flat} (h : f.Proper) : f.geometry.frontier = f.nextWrite :=
  h.ordered.frontier_eq

/-! ## Refreshing -/

theorem toNat_nextWrite_refresh (f : Flat) :
    f.refresh.nextWrite.toNat = max f.writtenEnd.toNat f.dataStart.toNat :=
  Offset.toNat_max _ _

theorem refresh_empty (dataStart capacity : Offset) :
    (empty dataStart capacity).refresh = empty dataStart capacity := by
  simp [refresh, empty, Offset.max_zero_left]

/-- A refresh makes a ledger sound whose capacity reaches the end of what was written. -/
theorem sound_refresh {f : Flat} (h : f.writtenEnd.toNat ≤ f.capacity.toNat) :
    f.refresh.Sound where
  writtenEnd_le := h
  dataStart_le := by
    rw [toNat_nextWrite_refresh]
    exact Nat.le_max_right _ _
  nextWrite_le := Nat.le_of_eq (toNat_nextWrite_refresh f)

theorem Sound.refresh {f : Flat} (h : f.Sound) : f.refresh.Sound := sound_refresh h.writtenEnd_le

theorem Proper.refresh {f : Flat} (h : f.Proper) : f.refresh.Proper where
  toSound := h.toSound.refresh
  dataStart_le_capacity := h.dataStart_le_capacity

theorem proper_empty {dataStart capacity : Offset} (h : dataStart.toNat ≤ capacity.toNat) :
    (empty dataStart capacity).Proper where
  writtenEnd_le := Nat.zero_le _
  dataStart_le := Nat.le_refl _
  nextWrite_le := Nat.le_max_right _ _
  dataStart_le_capacity := h

theorem extends_refresh {f : Flat} (h : f.Sound) : f.Extends f.refresh where
  dataStart_eq := rfl
  overrun_eq := rfl
  capacity_le := Nat.le_refl _
  nextWrite_le := by
    rw [toNat_nextWrite_refresh]
    exact h.nextWrite_le
  byte_eq := fun _ _ _ => rfl

end Flat

/-- A change that succeeds gives the storage that there is afterwards. -/
theorem Storage.eq_of_orKeep_ok {σ : Type} {s s' : σ} {result : Except StorageError σ}
    (h : Storage.orKeep s result = (.ok (), s')) : result = .ok s' := by
  cases result with
  | error e => cases h
  | ok t => exact congrArg Except.ok (Prod.mk.inj h).2

/-- One that fails leaves the storage. -/
theorem Storage.eq_of_orKeep_error {σ : Type} {s s' : σ} {result : Except StorageError σ}
    {e : StorageError} (h : Storage.orKeep s result = (.error e, s')) : s' = s := by
  cases result with
  | error e' => exact (Prod.mk.inj h).2.symm
  | ok t => cases h

/-- Storage that keeps a flat ledger. A failed write may leave a note of it, but the flat
ledger is kept. -/
class FlatStorage (σ : Type) [Storage σ] where
  Keeps : σ → Flat → Prop
  dataStart_eq {s : σ} {f : Flat} : Keeps s f → Storage.dataStart s = .ok f.dataStart
  capacity_eq {s : σ} {f : Flat} : Keeps s f → Storage.capacity s = .ok f.capacity
  nextWrite_eq {s : σ} {f : Flat} : Keeps s f → Storage.nextWrite s = .ok f.nextWrite
  /-- A range within the capacity is read, if memory can be had for it. -/
  read_eq {s : σ} {f : Flat} {offset len : Offset} : Keeps s f →
    offset.toNat + len.toNat ≤ f.capacity.toNat → len.toNat < 2 ^ 48 →
    Storage.read s offset len = .ok (Bytes.span f.byte offset.toNat len.toNat)
  write_cases {s : σ} {f : Flat} (offset : Offset) (data : Bytes) : Keeps s f →
    (∃ e s', Storage.write s offset data = (.error e, s') ∧ Keeps s' f)
      ∨ ∃ s', Storage.write s offset data = (.ok (), s')
        ∧ f.dataStart.toNat ≤ offset.toNat ∧ offset.toNat + data.length < 2 ^ 64
        ∧ Keeps s' (f.write offset data)
  refresh_ok {s : σ} {f : Flat} : Keeps s f →
    ∃ s', Storage.refresh s = (.ok (), s') ∧ Keeps s' f.refresh

namespace FlatStorage

variable {σ : Type} [Storage σ] [FlatStorage σ] {s : σ} {f : Flat}

theorem geometry_eq (h : Keeps s f) : Storage.geometry s = .ok f.geometry := by
  simp only [Storage.geometry, dataStart_eq h, capacity_eq h, nextWrite_eq h]
  rfl

/-- What an append does: it fails and the ledger stays, or the ledger is written inside its
partition and refreshed. -/
theorem append_cases (offset : Offset) (data : Bytes) (h : Keeps s f) :
    (∃ e s', Storage.append s offset data = (.error e, s') ∧ Keeps s' f)
      ∨ ∃ s', Storage.append s offset data = (.ok (), s')
        ∧ f.dataStart.toNat ≤ offset.toNat ∧ offset.toNat + data.length < 2 ^ 64
        ∧ Keeps s' (f.write offset data).refresh := by
  rcases write_cases offset data h with ⟨e, s', hw, hs'⟩ | ⟨s', hw, hd, hlen, hs'⟩
  · exact Or.inl ⟨e, s', by rw [Storage.append, hw], hs'⟩
  · obtain ⟨s'', hr, hs''⟩ := refresh_ok hs'
    exact Or.inr ⟨s'', by rw [Storage.append, hw]; exact hr, hd, hlen, hs''⟩

/-- Storage that keeps a flat ledger can be made ready for use. -/
theorem load_ok (h : Keeps s f) : ∃ s', Storage.load s = .ok s' ∧ Keeps s' f.refresh := by
  obtain ⟨s', hr, hs'⟩ := refresh_ok h
  refine ⟨s', ?_, hs'⟩
  rw [Storage.load, hr]
  simp only
  rw [geometry_eq hs']

end FlatStorage

/-! ## Histories -/

/-- What storage can become by writes and refreshes, whether they succeed or fail. -/
inductive Storage.Reaches {σ : Type} [Storage σ] (s : σ) : σ → Prop where
  | start : Reaches s s
  | write {t : σ} (offset : Offset) (data : Bytes) :
      Reaches s t → Reaches s (Storage.write t offset data).2
  | refresh {t : σ} : Reaches s t → Reaches s (Storage.refresh t).2

/-- What holds of storage and of what every write and refresh makes of it holds of all that
it can become. -/
theorem Storage.Reaches.invariant {σ : Type} [Storage σ] {P : σ → Prop} {s t : σ}
    (h : Reaches s t) (hs : P s)
    (hw : ∀ u offset data, P u → P (Storage.write u offset data).2)
    (hr : ∀ u, P u → P (Storage.refresh u).2) : P t := by
  induction h with
  | start => exact hs
  | write offset data _ ih => exact hw _ offset data ih
  | refresh _ ih => exact hr _ ih

/-- An append is a write, which is refreshed if it succeeds. -/
theorem Storage.Reaches.append {σ : Type} [Storage σ] {s t : σ} (h : Reaches s t)
    (offset : Offset) (data : Bytes) : Reaches s (Storage.append t offset data).2 := by
  have hwrite := h.write offset data
  unfold Storage.append
  cases hw : Storage.write t offset data with
  | mk result u =>
    rw [hw] at hwrite
    cases result with
    | error e => exact hwrite
    | ok v => exact hwrite.refresh

theorem Storage.Reaches.trans {σ : Type} [Storage σ] {s t u : σ} (h : Reaches s t)
    (h' : Reaches t u) : Reaches s u :=
  h'.invariant h (fun _ offset data hv => hv.write offset data) fun _ hv => hv.refresh

/-- To be made ready for use is to be refreshed. -/
theorem Storage.reaches_of_load {σ : Type} [Storage σ] {s t : σ} (h : load s = .ok t) :
    Reaches s t := by
  unfold load at h
  split at h
  · cases h
  · rename_i u hr
    split at h
    · cases h
    · cases h
      have hstep := Reaches.refresh (Reaches.start (s := s))
      rw [hr] at hstep
      exact hstep

namespace FlatStorage

variable {σ : Type} [Storage σ] [FlatStorage σ] {s t : σ}

/-- What writes and refreshes keep of a flat ledger, storage that keeps it keeps. -/
theorem invariant_of_reaches {P : Flat → Prop} (h : Storage.Reaches s t)
    (hs : ∃ f, Keeps s f ∧ P f) (hwrite : ∀ f offset data, P f → P (f.write offset data))
    (hrefresh : ∀ f, P f → P f.refresh) : ∃ f, Keeps t f ∧ P f := by
  apply h.invariant (P := fun u => ∃ f, Keeps u f ∧ P f) hs
  · rintro u offset data ⟨f, hu, hf⟩
    rcases write_cases offset data hu with ⟨e, u', hw, hu'⟩ | ⟨u', hw, _, _, hu'⟩
    · rw [hw]
      exact ⟨f, hu', hf⟩
    · rw [hw]
      exact ⟨_, hu', hwrite f offset data hf⟩
  · rintro u ⟨f, hu, hf⟩
    obtain ⟨u', hr, hu'⟩ := refresh_ok hu
    rw [hr]
    exact ⟨_, hu', hrefresh f hf⟩

/-- Writes and refreshes keep a ledger sound. -/
theorem sound_of_reaches (h : Storage.Reaches s t) (hs : ∃ f, Keeps s f ∧ f.Sound) :
    ∃ f, Keeps t f ∧ f.Sound :=
  invariant_of_reaches h hs (fun _ offset data hf => hf.write offset data) fun _ hf => hf.refresh

end FlatStorage

end ByteLedger
