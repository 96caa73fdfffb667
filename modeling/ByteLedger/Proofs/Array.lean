import ByteLedger.Proofs.Persistence
import ByteLedger.Proofs.Settled

set_option autoImplicit false

/-!
# A ledger in one buffer is an array

Writes that were made say all there is to say about a ledger: which byte each offset has, how far
the ledger may be read, and where the writes end. These are functions of the list of writes
(`Writes.bytes`, `Writes.capacity`, `Writes.stop`), and a ledger in one buffer acts as an array with
those bytes and that capacity (`BufferLedger.ActsAs`), whatever its buffer covers. What a ledger is
made with counts as its first write.
-/

namespace ByteLedger

/-- The bytes at all offsets after `data` was laid over them from `start` on. -/
def Bytes.laid (byte : Nat → UInt8) (start : Nat) (data : Bytes) (o : Nat) : UInt8 :=
  if start ≤ o ∧ o < start + data.length then data.getD (o - start) 0 else byte o

/-- The capacity of a storage after a write that ends at `stop`: it grows, by whole pages, if the
write passes it. -/
def Offset.covering (capacity stop : Offset) : Offset :=
  if capacity < stop then stop.roundUpToPage else capacity

/-! ## Lists of writes -/

namespace Writes

/-- The byte at each offset after some writes. -/
def bytes (byte : Nat → UInt8) (writes : List (Offset × Bytes)) : Nat → UInt8 :=
  writes.foldl (fun byte w => Bytes.laid byte w.1.toNat w.2) byte

/-- The capacity after some writes. -/
def capacity (capacity : Offset) (writes : List (Offset × Bytes)) : Offset :=
  writes.foldl (fun capacity w => capacity.covering (w.1.advance w.2.length)) capacity

/-- The greatest end of some writes, or `least` if they all end before it. -/
def stop (least : Offset) (writes : List (Offset × Bytes)) : Offset :=
  writes.foldl (fun stop w => max stop (w.1.advance w.2.length)) least

theorem stop_append (least : Offset) (writes writes' : List (Offset × Bytes)) :
    stop (stop least writes) writes' = stop least (writes ++ writes') :=
  List.foldl_append.symm

theorem max_stop (a b : Offset) (writes : List (Offset × Bytes)) :
    max a (stop b writes) = stop (max a b) writes := by
  induction writes generalizing b with
  | nil => rfl
  | cons w writes ih =>
    have hassoc : max (max a b) (w.1.advance w.2.length)
        = max a (max b (w.1.advance w.2.length)) := by
      apply UInt64.toNat_inj.1
      simp only [Offset.toNat_max, Nat.max_assoc]
    change max a (stop (max b _) writes) = stop (max (max a b) _) writes
    rw [ih, hassoc]

end Writes

/-- A write lays its bytes over those that were there. -/
theorem Flat.byte_write_eq_laid {f : Flat} (hover : f.overrun = false) (offset : Offset)
    (data : Bytes) : (f.write offset data).byte = Bytes.laid f.byte offset.toNat data := by
  funext o
  simp only [write, Bytes.laid, hover, true_and]

/-- What some writes make of a flat ledger that is not overrun. -/
theorem Flat.writeAll_eq {f : Flat} (hover : f.overrun = false) (writes : List (Offset × Bytes)) :
    f.writeAll writes
      = { f with
          capacity := Writes.capacity f.capacity writes
          writtenEnd := Writes.stop f.writtenEnd writes
          byte := Writes.bytes f.byte writes } := by
  induction writes generalizing f with
  | nil => rfl
  | cons w writes ih =>
    refine (ih (f := f.write w.1 w.2) hover).trans ?_
    rw [byte_write_eq_laid hover]
    rfl

/-- What counts after an operation: all that was written, if the operation makes it count. -/
theorem Flat.nextWrite_following {f : Flat} (hover : f.overrun = false) (op : Operation)
    (answer : Except StorageError Answer) :
    (f.following op answer).nextWrite
      = if op.publishes answer then
          max f.dataStart (Writes.stop f.writtenEnd (op.completed? answer).toList)
        else f.nextWrite := by
  unfold following
  rw [writeAll_eq hover]
  split
  · apply UInt64.toNat_inj.1
    rw [toNat_nextWrite_refresh, Offset.toNat_max, Nat.max_comm]
  · rfl

/-- The write that an operation asks for. -/
def Operation.write? : Operation → Option (Offset × Bytes)
  | .write offset data | .append offset data => some (offset, data)
  | _ => none

theorem Operation.of_write?_eq_some {op : Operation} {offset : Offset} {data : Bytes}
    (h : op.write? = some (offset, data)) : op = .write offset data ∨ op = .append offset data := by
  cases op with
  | write offset' data' =>
    cases h
    exact Or.inl rfl
  | append offset' data' =>
    cases h
    exact Or.inr rfl
  | read | refresh | geometry => cases h

/-! ## What the array answers -/

namespace BufferLedger

/-- A ledger acts as an array of bytes, of which those before the capacity can be read and those of
the partition can be written. -/
structure ActsAs (l : BufferLedger) (dataStart capacity : Offset) (byte : Nat → UInt8) : Prop where
  dataStart_eq : Storage.dataStart l = .ok dataStart
  capacity_eq : Storage.capacity l = .ok capacity
  /-- A range is read if it ends within the capacity. -/
  read_eq (offset len : Offset) : l.Affords (.read offset len) →
    Storage.read l offset len
      = if offset.toNat + len.toNat ≤ capacity.toNat then
          .ok (Bytes.span byte offset.toNat len.toNat)
        else .error (.outOfRange offset (offset.advance len.toNat) capacity)
  /-- A write before the partition fails and changes nothing. -/
  below {op : Operation} {offset : Offset} {data : Bytes} : op.write? = some (offset, data) →
    offset < dataStart → Storage.perform l op = (.error (.belowPartition offset dataStart), l)
  /-- So does one that passes the last offset. -/
  beyond {op : Operation} {offset : Offset} {data : Bytes} : op.write? = some (offset, data) →
    ¬ offset < dataStart → 2 ^ 64 ≤ offset.toNat + data.length →
    Storage.perform l op = (.error (.outOfRange offset Offset.last capacity), l)
  /-- No other write fails. -/
  within {op : Operation} {offset : Offset} {data : Bytes} : op.write? = some (offset, data) →
    ¬ offset < dataStart → offset.toNat + data.length < 2 ^ 64 → l.Affords op →
    (Storage.perform l op).1 = .ok .done
  refresh_ok : (Storage.perform l .refresh).1 = .ok .done

variable {l : BufferLedger} {op : Operation} {offset : Offset} {data : Bytes}

/-- A write that the flat ledger refuses fails for the same reason, refreshed or not. -/
theorem perform_of_refusal {e : StorageError} (hop : op.write? = some (offset, data))
    (h : l.flat.refusal? offset data = some e) : Storage.perform l op = (.error e, l) := by
  have hwrite : Storage.write l offset data = (.error e, l) := by
    change Storage.orKeep l (l.write offset data) = _
    rw [write_error h]
    rfl
  rcases Operation.of_write?_eq_some hop with rfl | rfl
  · rw [Storage.perform, hwrite]
    rfl
  · rw [Storage.perform, Storage.append, hwrite]
    rfl

/-- One that it does not refuse succeeds, if memory can be had. -/
theorem perform_of_not_refused (hop : op.write? = some (offset, data))
    (h : l.flat.refusal? offset data = none) (haffords : l.Affords op) :
    (Storage.perform l op).1 = .ok .done := by
  obtain ⟨l', hperform, _⟩ := performs haffords
  rw [hperform]
  have hwrite : Storage.write l.flat offset data = (.ok (), l.flat.write offset data) := by
    simp only [Storage.write, h]
  rcases Operation.of_write?_eq_some hop with rfl | rfl
  · rw [Storage.perform, hwrite]
    rfl
  · rw [Storage.perform, Storage.append, hwrite]
    rfl

/-- A ledger acts as the array of the bytes that its flat ledger has. -/
theorem actsAs_of_keeps {f : Flat} (h : FlatStorage.Keeps l f) :
    l.ActsAs f.dataStart f.capacity f.byte := by
  cases h
  refine ⟨rfl, rfl, fun _ _ haffords => read_eq_flat haffords, ?_, ?_, ?_, rfl⟩
  · intro op offset data hop hbelow
    exact perform_of_refusal hop (if_pos hbelow)
  · intro op offset data hop hbelow hover
    exact perform_of_refusal hop ((if_neg hbelow).trans (if_pos hover))
  · intro op offset data hop hbelow hlen haffords
    exact perform_of_not_refused hop ((if_neg hbelow).trans (if_neg (Nat.not_le.2 hlen))) haffords

/-! ## What a new ledger becomes -/

/-- The bytes of a new ledger are its contents, laid over zeros. -/
theorem byteAt_ofContents_eq_laid {dataStart : Offset} {contents : Bytes} (capacity : Offset)
    (h : dataStart.toNat + contents.length < 2 ^ 64) :
    (ofContents dataStart capacity contents).refresh.byteAt
      = Bytes.laid (fun _ => 0) dataStart.toNat contents := by
  funext o
  unfold Bytes.laid
  by_cases hbelow : o < dataStart.toNat
  · rw [if_neg (by omega)]
    exact byteAt_of_lt hbelow
  · have hbyte := byteAt_ofContents capacity h (o - dataStart.toNat)
    rw [Nat.add_sub_of_le (Nat.le_of_not_lt hbelow)] at hbyte
    rw [hbyte]
    split
    · rfl
    · exact List.getD_eq_default _ _ (by omega)

/-- Where a new ledger ends: its partition begins there, or its contents end there. -/
theorem max_writtenEnd_ofContents (dataStart capacity : Offset) (contents : Bytes) :
    max dataStart (ofContents dataStart capacity contents).refresh.writtenEnd
      = max dataStart (dataStart.advance contents.length) := by
  have hd := Offset.toNat_lt dataStart
  apply UInt64.toNat_inj.1
  rw [Offset.toNat_max, Offset.toNat_max, Offset.toNat_advance]
  cases contents with
  | nil =>
    change max _ 0 = max _ (min (dataStart.toNat + 0) _)
    omega
  | cons b bs =>
    change max _ (dataStart.advance (b :: bs).length).toNat = _
    rw [Offset.toNat_advance]

/-- What a new ledger that was used keeps, up to what counts. -/
theorem keeps_after {dataStart : Offset} {contents : Bytes} (capacity : Offset)
    (h : dataStart.toNat + contents.length < 2 ^ 64) (history : List Operation) :
    let l₀ := (ofContents dataStart capacity contents).refresh
    let made := Storage.completed l₀ history
    ∃ nextWrite, FlatStorage.Keeps (Storage.after l₀ history)
      { dataStart
        capacity := Writes.capacity capacity ((dataStart, contents) :: made)
        writtenEnd := Writes.stop l₀.writtenEnd made
        nextWrite
        byte := Writes.bytes (fun _ => 0) ((dataStart, contents) :: made) } := by
  intro l₀ made
  have hkeeps₀ : FlatStorage.Keeps l₀ l₀.flat := rfl
  obtain ⟨nextWrite, hkeeps⟩ := FlatStorage.keeps_after hkeeps₀ history
  have hbyte : l₀.flat.byte = Bytes.laid (fun _ => 0) dataStart.toNat contents :=
    byteAt_ofContents_eq_laid capacity h
  have hfits : l₀.Fits := h
  have hover : l₀.flat.overrun = false := hfits.overrun_eq
  rw [Flat.writeAll_eq hover, hbyte, hover] at hkeeps
  exact ⟨nextWrite, hkeeps⟩

/-- A new ledger that was used is an array, zero but for its contents and the writes that succeeded,
in their order. Its first free offset moves when every write is made to count, and then to the
greatest end of them all; no other operation moves it. -/
theorem actsAs_after (dataStart capacity : Offset) (contents : Bytes)
    (h : dataStart.toNat + contents.length < 2 ^ 64) :
    ∃ l₀, Storage.load (ofContents dataStart capacity contents) = .ok l₀
      ∧ l₀.nextWrite.toNat = dataStart.toNat + contents.length
      ∧ ∀ history : List Operation, ∃ l writes, l = Storage.after l₀ history
        ∧ writes = (dataStart, contents) :: Storage.completed l₀ history
        ∧ l.ActsAs dataStart (Writes.capacity capacity writes) (Writes.bytes (fun _ => 0) writes)
        ∧ ∀ op answer l', Storage.perform l op = (answer, l') →
          Storage.nextWrite l'
            = if op.publishes answer then
                .ok (Writes.stop dataStart (writes ++ (op.completed? answer).toList))
              else Storage.nextWrite l := by
  refine ⟨_, load_ofContents dataStart capacity contents, toNat_nextWrite_ofContents capacity h, ?_⟩
  intro history
  obtain ⟨nextWrite, hkeeps⟩ := keeps_after capacity h history
  refine ⟨_, _, rfl, rfl, actsAs_of_keeps hkeeps, ?_⟩
  intro op answer l' hperform
  have hkeeps' := FlatStorage.keeps_perform hkeeps op
  rw [hperform] at hkeeps'
  rw [FlatStorage.nextWrite_eq hkeeps', FlatStorage.nextWrite_eq hkeeps, Flat.nextWrite_following rfl]
  split
  · simp only
    rw [Writes.stop_append, Writes.max_stop, max_writtenEnd_ofContents]
    rfl
  · rfl

/-- Two bytes, a write far behind them, an append before the partition, which fails, and a write
over the second byte. The capacity was before the partition; the writes count when they are
refreshed. -/
theorem actsAs_after_gap :
    ∃ l₀ l, Storage.load (ofContents 10 5 [1, 2]) = .ok l₀
      ∧ l = Storage.after l₀ [.write 100 [7], .append 3 [4], .write 11 [5]]
      ∧ Storage.capacity l = .ok 65536
      ∧ Storage.read l 8 6 = .ok [0, 0, 1, 5, 0, 0]
      ∧ Storage.nextWrite l = .ok 12
      ∧ Storage.nextWrite (Storage.perform l .refresh).2 = .ok 101 := by
  obtain ⟨l₀, hload, _, hafter⟩ := actsAs_after 10 5 [1, 2] (by decide)
  obtain ⟨l, writes, hl, hwrites, hacts, hnext⟩ :=
    hafter [.write 100 [7], .append 3 [4], .write 11 [5]]
  have hcapacity := hacts.capacity_eq
  have hread := hacts.read_eq 8 6 fun _ => by decide
  have hrefresh := hnext .refresh _ _ rfl
  cases hload
  subst hl hwrites
  refine ⟨_, _, rfl, rfl, hcapacity.trans ?_, hread.trans ?_, rfl, hrefresh.trans ?_⟩
  · decide +kernel
  · decide +kernel
  · decide +kernel

end BufferLedger

end ByteLedger
