import ByteLedger.Proofs.Buffer
import ByteLedger.Proofs.Opening
import Mathlib.Control.Monad.Basic

set_option autoImplicit false

/-!
# What a ledger answers

A flat ledger is a storage of its own, the simplest one: it fails only where a range passes
the capacity or the last offset, or where a write begins before the partition. Storage that
keeps a flat ledger answers as that does (`FlatStorage.Performs`), a ledger in pages as long
as the extents after a write can be stored, and a ledger in one buffer as long as memory can
be had. A new ledger of either kind keeps the same flat ledger, so the two cannot be told
apart by what they answer (`PagedLedger.answers_eq_buffer`).
-/

namespace ByteLedger

/-! ## Operations and answers -/

/-- What a storage can be asked for. -/
inductive Operation where
  | read (offset len : Offset)
  | write (offset : Offset) (data : Bytes)
  | refresh
  | append (offset : Offset) (data : Bytes)
  | geometry
  deriving DecidableEq, Repr, Inhabited

/-- What an operation answers if it does not fail. -/
inductive Answer where
  | done
  | bytes (bs : Bytes)
  | geometry (g : Geometry)
  deriving DecidableEq, Repr, Inhabited

namespace Storage

variable {σ : Type} [Storage σ]

/-- The answer to one operation, and the storage after it. -/
def perform (s : σ) : Operation → Except StorageError Answer × σ
  | .read offset len => ((read s offset len).map .bytes, s)
  | .write offset data => ((write s offset data).1.map fun _ => .done, (write s offset data).2)
  | .refresh => ((refresh s).1.map fun _ => .done, (refresh s).2)
  | .append offset data => ((append s offset data).1.map fun _ => .done, (append s offset data).2)
  | .geometry => ((geometry s).map .geometry, s)

/-- The answers to operations that are performed one after the other. -/
def answers (s : σ) : List Operation → List (Except StorageError Answer)
  | [] => []
  | op :: ops => (perform s op).1 :: answers (perform s op).2 ops

end Storage

/-! ## The flat ledger as a storage -/

namespace Flat

/-- The bytes of a range within the capacity. -/
def read (f : Flat) (offset len : Offset) : Except StorageError Bytes :=
  if offset.toNat + len.toNat ≤ f.capacity.toNat then
    .ok (Bytes.span f.byte offset.toNat len.toNat)
  else .error (.outOfRange offset (offset.advance len.toNat) f.capacity)

/-- Why a write is refused; none if it is not. -/
def refusal? (f : Flat) (offset : Offset) (data : Bytes) : Option StorageError :=
  if offset < f.dataStart then some (.belowPartition offset f.dataStart)
  else if 2 ^ 64 ≤ offset.toNat + data.length then
    some (.outOfRange offset Offset.last f.capacity)
  else none

instance : Storage Flat where
  dataStart f := .ok f.dataStart
  capacity f := .ok f.capacity
  nextWrite f := .ok f.nextWrite
  read := read
  write f offset data :=
    match f.refusal? offset data with
    | some e => (.error e, f)
    | none => (.ok (), f.write offset data)
  refresh f := (.ok (), f.refresh)

/-- A write that is not refused lies in the partition and has offsets for all its bytes. -/
theorem refusal?_eq_none_iff {f : Flat} {offset : Offset} {data : Bytes} :
    f.refusal? offset data = none
      ↔ f.dataStart.toNat ≤ offset.toNat ∧ offset.toNat + data.length < 2 ^ 64 := by
  unfold refusal?
  simp only [UInt64.lt_iff_toNat_lt]
  split
  · simp
    omega
  · split
    · simp
      omega
    · simp
      omega

/-- The reasons for which a write is refused, the one on the partition first. -/
theorem refusal?_cases {f : Flat} {offset : Offset} {data : Bytes} {e : StorageError}
    (h : f.refusal? offset data = some e) :
    (offset < f.dataStart ∧ e = .belowPartition offset f.dataStart)
      ∨ (¬ offset < f.dataStart ∧ 2 ^ 64 ≤ offset.toNat + data.length
        ∧ e = .outOfRange offset Offset.last f.capacity) := by
  unfold refusal? at h
  split at h
  · rename_i hbelow
    exact Or.inl ⟨hbelow, (Option.some.inj h).symm⟩
  · rename_i hbelow
    split at h
    · rename_i hover
      exact Or.inr ⟨hbelow, hover, (Option.some.inj h).symm⟩
    · cases h

/-- No operation moves the partition. -/
theorem dataStart_perform (f : Flat) (op : Operation) :
    (Storage.perform f op).2.dataStart = f.dataStart := by
  cases op with
  | read offset len => rfl
  | geometry => rfl
  | refresh => rfl
  | write offset data =>
    simp only [Storage.perform, Storage.write]
    cases f.refusal? offset data <;> rfl
  | append offset data =>
    simp only [Storage.perform, Storage.append, Storage.write, Storage.refresh]
    cases f.refusal? offset data <;> rfl

end Flat

namespace FlatStorage

variable {σ : Type} [Storage σ] [FlatStorage σ] {s : σ} {f : Flat}

/-- A storage does with an operation what the flat ledger does that it keeps. -/
def Performs (s : σ) (f : Flat) (op : Operation) : Prop :=
  ∃ s', Storage.perform s op = ((Storage.perform f op).1, s')
    ∧ Keeps s' (Storage.perform f op).2

/-- A storage writes what the flat ledger writes that it keeps, or refuses for its reason. -/
def Writes (s : σ) (f : Flat) (offset : Offset) (data : Bytes) : Prop :=
  ∃ s', Storage.write s offset data = ((Storage.write f offset data).1, s')
    ∧ Keeps s' (Storage.write f offset data).2

theorem performs_read {offset len : Offset} (h : Keeps s f)
    (hread : Storage.read s offset len = f.read offset len) :
    Performs s f (.read offset len) :=
  ⟨s, by rw [Storage.perform, hread]; rfl, h⟩

theorem performs_geometry (h : Keeps s f) : Performs s f .geometry :=
  ⟨s, by rw [Storage.perform, geometry_eq h]; rfl, h⟩

theorem performs_refresh (h : Keeps s f) : Performs s f .refresh := by
  obtain ⟨s', hr, hs'⟩ := refresh_ok h
  exact ⟨s', by rw [Storage.perform, hr]; rfl, hs'⟩

theorem performs_write {offset : Offset} {data : Bytes} (h : Writes s f offset data) :
    Performs s f (.write offset data) := by
  obtain ⟨s', hw, hs'⟩ := h
  exact ⟨s', by rw [Storage.perform, hw]; rfl, hs'⟩

theorem performs_append {offset : Offset} {data : Bytes} (h : Writes s f offset data) :
    Performs s f (.append offset data) := by
  obtain ⟨s', hw, hs'⟩ := h
  unfold Performs
  simp only [Storage.perform, Storage.append]
  rw [hw]
  cases hf : Storage.write f offset data with
  | mk result g =>
    rw [hf] at hs'
    cases result with
    | error e => exact ⟨s', rfl, hs'⟩
    | ok u =>
      obtain ⟨s'', hr, hs''⟩ := refresh_ok hs'
      simp only
      rw [hr]
      exact ⟨s'', rfl, hs''⟩

end FlatStorage

/-! ## The ledger in one buffer -/

namespace BufferLedger

/-- Memory can be had for an operation: for the bytes that are read, and for those that a
write adds to the buffer. -/
def Affords (l : BufferLedger) : Operation → Prop
  | .read offset len => offset.toNat + len.toNat ≤ l.capacity.toNat → len.toNat < memoryLimit
  | .write offset data | .append offset data =>
    l.dataStart.toNat ≤ offset.toNat → offset.toNat + data.length < 2 ^ 64 →
      offset.toNat + data.length - l.dataStart.toNat - l.buffer.length < memoryLimit
  | .refresh | .geometry => True

/-- Memory can be had for operations that are performed one after the other. -/
def AffordsAll (l : BufferLedger) : List Operation → Prop
  | [] => True
  | op :: ops => l.Affords op ∧ AffordsAll (Storage.perform l op).2 ops

instance (l : BufferLedger) : DecidablePred l.Affords
  | .read _ _ => inferInstanceAs (Decidable (_ → _))
  | .write _ _ | .append _ _ => inferInstanceAs (Decidable (_ → _ → _))
  | .refresh | .geometry => .isTrue trivial

instance decidableAffordsAll (l : BufferLedger) : (ops : List Operation) →
    Decidable (l.AffordsAll ops)
  | [] => .isTrue trivial
  | op :: ops =>
    have := decidableAffordsAll (Storage.perform l op).2 ops
    inferInstanceAs (Decidable (_ ∧ _))

theorem read_eq_flat {l : BufferLedger} {offset len : Offset} (h : l.Affords (.read offset len)) :
    Storage.read l offset len = l.flat.read offset len := by
  change l.read offset len = _
  unfold Flat.read
  split
  · rename_i hcap
    exact read_eq_span hcap (h hcap)
  · rename_i hcap
    exact if_neg hcap

/-- A write that the flat ledger refuses fails for the same reason. -/
theorem write_error {l : BufferLedger} {offset : Offset} {data : Bytes} {e : StorageError}
    (h : l.flat.refusal? offset data = some e) : l.write offset data = .error e := by
  rw [write]
  rcases Flat.refusal?_cases h with ⟨hbelow, rfl⟩ | ⟨hbelow, hover, rfl⟩
  · exact if_pos hbelow
  · change ¬ offset < l.dataStart at hbelow
    rw [if_neg hbelow, Offset.advance?_eq_none_iff.2 hover]
    rfl

/-- A buffer is written as its flat ledger is. -/
theorem writes {l : BufferLedger} {offset : Offset} {data : Bytes}
    (h : l.Affords (.write offset data)) : FlatStorage.Writes l l.flat offset data := by
  unfold FlatStorage.Writes
  change ∃ s', Storage.orKeep l (l.write offset data) = _ ∧ _
  simp only [Storage.write]
  cases hrefusal : l.flat.refusal? offset data with
  | none =>
    obtain ⟨hd, hlen⟩ := Flat.refusal?_eq_none_iff.1 hrefusal
    rw [write_eq_ok hd hlen (h hd hlen)]
    exact ⟨_, rfl, flat_put hd hlen⟩
  | some e =>
    rw [write_error hrefusal]
    exact ⟨l, rfl, rfl⟩

theorem performs {l : BufferLedger} {op : Operation} (h : l.Affords op) :
    FlatStorage.Performs l l.flat op := by
  have hkeeps : FlatStorage.Keeps l l.flat := rfl
  cases op with
  | read offset len => exact FlatStorage.performs_read hkeeps (read_eq_flat h)
  | write offset data => exact FlatStorage.performs_write (writes h)
  | refresh => exact FlatStorage.performs_refresh hkeeps
  | append offset data => exact FlatStorage.performs_append (writes h)
  | geometry => exact FlatStorage.performs_geometry hkeeps

/-- A ledger in one buffer answers as its flat ledger does. -/
theorem answers_eq_flat {l : BufferLedger} {ops : List Operation} (h : l.AffordsAll ops) :
    Storage.answers l ops = Storage.answers l.flat ops := by
  induction ops generalizing l with
  | nil => rfl
  | cons op ops ih =>
    obtain ⟨hop, hops⟩ := h
    obtain ⟨l', hperform, hflat⟩ := performs hop
    rw [hperform] at hops
    rw [Storage.answers, Storage.answers, hperform, ← hflat, ih hops]

end BufferLedger

/-! ## The ledger in pages -/

/-- A write that lies in the partition and has offsets for all its bytes ends where whole
pages are still a stored number. -/
def Operation.Fits (dataStart : Offset) : Operation → Prop
  | .write offset data | .append offset data =>
    dataStart.toNat ≤ offset.toNat → offset.toNat + data.length < 2 ^ 64 →
      offset.toNat + data.length ≤ 2 ^ 63 - pageSize
  | .read _ _ | .refresh | .geometry => True

instance (dataStart : Offset) : DecidablePred (Operation.Fits dataStart)
  | .write _ _ | .append _ _ => inferInstanceAs (Decidable (_ → _ → _))
  | .read _ _ | .refresh | .geometry => .isTrue trivial

namespace PagedLedger

open Tables

/-- A write that lies in the partition and whose extents can be stored succeeds. -/
theorem writeTables_ok {t : Tables} {f : Flat} {offset : Offset} {data : Bytes} (h : t.Holds f)
    (hd : f.dataStart.toNat ≤ offset.toNat)
    (hstop : offset.toNat + data.length ≤ 2 ^ 63 - pageSize) :
    ∃ t', writeTables t offset data = .ok t' := by
  unfold pageSize at hstop
  exact writeTables_of_takes {
    dataStart := ⟨f.dataStart, h.dataStart, UInt64.le_iff_toNat_le.2 hd⟩
    fits := by omega
    whole := h.wellPaged.whole offset.toNat data.length
    capacity := ⟨f.capacity, h.capacity, fun _ => hstop⟩
    writtenEnd := ⟨f.writtenEnd, h.writtenEnd, fun _ => by omega⟩ }

/-- A write that the flat ledger refuses fails for the same reason. -/
theorem writeTables_error {t : Tables} {f : Flat} {offset : Offset} {data : Bytes}
    {e : StorageError} (h : t.Holds f) (hrefusal : f.refusal? offset data = some e) :
    writeTables t offset data = .error e := by
  rw [writeTables, h.dataStart]
  simp only
  rcases Flat.refusal?_cases hrefusal with ⟨hbelow, rfl⟩ | ⟨hbelow, hover, rfl⟩
  · exact if_pos hbelow
  · rw [if_neg hbelow, h.capacity, Offset.advance?_eq_none_iff.2 hover]

variable {l : PagedLedger} {f : Flat}

theorem read_eq_flat (h : FlatStorage.Keeps l f) (offset len : Offset) :
    Storage.read l offset len = f.read offset len := by
  change l.read offset len = _
  rw [read, Flat.read, h.1.capacity]
  simp only
  rw [readPages_eq h.1.wellPaged, funext h.1.byte]

/-- Pages are written as the flat ledger is. -/
theorem writes {offset : Offset} {data : Bytes} (h : FlatStorage.Keeps l f)
    (hfits : (Operation.write offset data).Fits f.dataStart) :
    FlatStorage.Writes l f offset data := by
  unfold FlatStorage.Writes
  change ∃ s', Storage.orKeep l (l.write offset data) = _ ∧ _
  simp only [Storage.write]
  cases hrefusal : f.refusal? offset data with
  | none =>
    obtain ⟨hd, hlen⟩ := Flat.refusal?_eq_none_iff.1 hrefusal
    obtain ⟨t', hw⟩ := writeTables_ok h.1 hd (hfits hd hlen)
    rw [write, hw]
    exact ⟨_, rfl, (holds_writeTables h.1 hw).2.2, h.2⟩
  | some e =>
    rw [write, writeTables_error h.1 hrefusal]
    exact ⟨l, rfl, h⟩

theorem performs {op : Operation} (h : FlatStorage.Keeps l f) (hfits : op.Fits f.dataStart) :
    FlatStorage.Performs l f op := by
  cases op with
  | read offset len => exact FlatStorage.performs_read h (read_eq_flat h offset len)
  | write offset data => exact FlatStorage.performs_write (writes h hfits)
  | refresh => exact FlatStorage.performs_refresh h
  | append offset data => exact FlatStorage.performs_append (writes h hfits)
  | geometry => exact FlatStorage.performs_geometry h

/-- A ledger in pages answers as the flat ledger does that it keeps. -/
theorem answers_eq_flat {ops : List Operation} (h : FlatStorage.Keeps l f)
    (hfits : ∀ op ∈ ops, op.Fits f.dataStart) :
    Storage.answers l ops = Storage.answers f ops := by
  induction ops generalizing l f with
  | nil => rfl
  | cons op ops ih =>
    obtain ⟨l', hperform, hkeeps⟩ := performs h (hfits op List.mem_cons_self)
    have hrest : ∀ op' ∈ ops, op'.Fits (Storage.perform f op).2.dataStart := by
      intro op' hop'
      rw [Flat.dataStart_perform]
      exact hfits op' (List.mem_cons_of_mem op hop')
    rw [Storage.answers, Storage.answers, hperform, ih hkeeps hrest]

end PagedLedger

/-! ## New ledgers -/

/-- The capacity of a new ledger in pages reaches its partition. -/
theorem LedgerOptions.dataStart_le_pagedCapacity (o : LedgerOptions) :
    o.dataStart.toNat ≤ o.pagedCapacity.toNat := by
  have hround := Offset.le_roundUpToPage (max o.capacity o.dataStart)
  have hmax := Offset.toNat_max o.capacity o.dataStart
  unfold pagedCapacity
  omega

/-- A ledger that could be opened where there was none can be made ready, and keeps the empty
flat ledger then. -/
theorem PagedLedger.load_of_fresh {options : LedgerOptions} {l : PagedLedger} {db db' : Database}
    {t : Tables} (hmigrate : db.migrate = .ok { versions := [1], tables := some t })
    (hfresh : t.Fresh) (h : ofDatabase db options = (.ok l, db')) :
    ∃ l', Storage.load l = .ok l'
      ∧ FlatStorage.Keeps l'
          (.empty (t.partitionStart?.getD options.dataStart) options.pagedCapacity) := by
  unfold ofDatabase Database.prepare at h
  rw [hmigrate] at h
  simp only at h
  cases hadd : t.addExtents options.extents with
  | mk result t' =>
    rw [hadd] at h
    cases result with
    | error e => cases h
    | ok u =>
      cases h
      rw [← Flat.refresh_empty]
      exact load_of_holds (hfresh.holds_addExtents hadd) [1]

/-- A ledger that could be opened in an empty database can be made ready, and keeps the empty
flat ledger then. -/
theorem PagedLedger.load_of_ofDatabase {options : LedgerOptions} {l : PagedLedger} {db : Database}
    (h : ofDatabase {} options = (.ok l, db)) :
    ∃ l', Storage.load l = .ok l'
      ∧ FlatStorage.Keeps l' (.empty options.dataStart options.pagedCapacity) :=
  load_of_fresh rfl Tables.fresh_empty h

/-- So does a new ledger in one buffer whose capacity reaches its partition. -/
theorem BufferLedger.flat_ofContents {dataStart capacity : Offset}
    (h : dataStart.toNat ≤ capacity.toNat) :
    (ofContents dataStart capacity []).refresh.flat = .empty dataStart capacity := by
  have hadvance : dataStart.advance 0 = dataStart := Offset.clamp_toNat _
  have hnot : ¬ capacity < dataStart := by
    rw [UInt64.lt_iff_toNat_lt]
    omega
  have hbyte : (ofContents dataStart capacity []).refresh.byteAt = fun _ => 0 := by
    funext o
    simp [byteAt, refresh, ofContents]
  have hfits : (ofContents dataStart capacity []).refresh.Fits := Offset.toNat_lt dataStart
  unfold flat Flat.empty
  rw [hbyte, hfits.overrun_eq]
  simp [refresh, ofContents, hadvance, hnot, Offset.max_zero_left]

/-- A ledger in pages that can be opened in an empty database, and a new ledger in one buffer
with the same partition and the same capacity in whole pages. Both can be made ready, and then
they give the same answers to every sequence of operations, whatever ranges and bytes these
are about, as long as the extents after each write can be stored and memory can be had. -/
theorem PagedLedger.answers_eq_buffer {options : LedgerOptions} {opened : PagedLedger}
    {db : Database} (hopen : ofDatabase {} options = (.ok opened, db)) :
    ∃ (pages : PagedLedger) (buffer : BufferLedger),
      Storage.load opened = .ok pages
      ∧ Storage.load (BufferLedger.ofContents options.dataStart
          (max options.capacity options.dataStart).roundUpToPage []) = .ok buffer
      ∧ ∀ ops : List Operation, (∀ op ∈ ops, op.Fits options.dataStart) → buffer.AffordsAll ops →
          Storage.answers pages ops = Storage.answers buffer ops := by
  obtain ⟨pages, hload, hkeeps⟩ := load_of_ofDatabase hopen
  refine ⟨pages, _, hload, rfl, ?_⟩
  intro ops hfits hmemory
  calc Storage.answers pages ops
      = Storage.answers (Flat.empty options.dataStart options.pagedCapacity) ops :=
        answers_eq_flat hkeeps hfits
    _ = Storage.answers (BufferLedger.ofContents options.dataStart options.pagedCapacity
          []).refresh.flat ops := by
        rw [BufferLedger.flat_ofContents options.dataStart_le_pagedCapacity]
    _ = Storage.answers (BufferLedger.ofContents options.dataStart options.pagedCapacity
          []).refresh ops :=
        (BufferLedger.answers_eq_flat hmemory).symm

/-- A write over the end of a page, an append before the partition, and an empty append past all
that was written. -/
theorem PagedLedger.answers_eq_buffer_acrossPages :
    ∃ (opened : PagedLedger) (db : Database) (pages : PagedLedger),
      ofDatabase {} { dataStart := 65534 } = (.ok opened, db)
      ∧ Storage.load opened = .ok pages
      ∧ Storage.answers pages
          [.write 65535 [1, 2, 3], .read 65534 5, .geometry, .append 3 [4], .append 65540 [],
            .geometry]
        = [.ok .done, .ok (.bytes [0, 1, 2, 3, 0]),
            .ok (.geometry { dataStart := 65534, capacity := 131072, nextWrite := 65534 }),
            .error (.belowPartition 3 65534), .ok .done,
            .ok (.geometry { dataStart := 65534, capacity := 131072, nextWrite := 65540 })] := by
  have hopen : ofDatabase {} { dataStart := 65534 } = (.ok _, _) := rfl
  obtain ⟨pages, buffer, hload, hbuffer, hanswers⟩ := answers_eq_buffer hopen
  cases hbuffer
  refine ⟨_, _, pages, hopen, hload, ?_⟩
  rw [hanswers _ (by decide) (by decide)]
  decide +kernel

end ByteLedger
