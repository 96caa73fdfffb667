import ByteLedger.Proofs.Flat
import ByteLedger.Storage.Buffer

set_option autoImplicit false

/-!
# What a ledger in one buffer keeps

The flat ledger of a `BufferLedger` has the byte of the buffer at each offset that the
buffer covers, and zero at every other. Reading, writing and refreshing the one is reading,
writing and refreshing the other.

That holds as well where the sum wraps that the end of the buffer is: the flat ledger is
overrun then. What a ledger has committed is what it reads if its buffer fits
(`BufferLedger.Fits`). Writes and refreshes keep this, and the ledgers that do not fit were
made so. Their first free offset is the last offset of all, so that nothing can be appended to
them.
-/

namespace ByteLedger

namespace BufferLedger

/-- Whether the end of the buffer is before the partition, as the sum wraps that gives it. -/
def overrun (l : BufferLedger) : Bool := decide (l.bufferEnd < l.dataStart)

/-- The flat ledger that a buffer keeps. -/
def flat (l : BufferLedger) : Flat where
  dataStart := l.dataStart
  capacity := l.capacity
  writtenEnd := l.writtenEnd
  nextWrite := l.nextWrite
  byte := l.byteAt
  overrun := l.overrun

/-! ## What fits -/

/-- Every byte of the buffer has an offset, and so has the end of the buffer. -/
def Fits (l : BufferLedger) : Prop := l.dataStart.toNat + l.buffer.length < 2 ^ 64

instance (l : BufferLedger) : Decidable l.Fits := inferInstanceAs (Decidable (_ < _))

@[simp] theorem overrun_refresh (l : BufferLedger) : l.refresh.overrun = l.overrun := rfl

theorem toNat_bufferEnd (l : BufferLedger) :
    l.bufferEnd.toNat = (l.dataStart.toNat + min l.buffer.length (2 ^ 64 - 1)) % 2 ^ 64 := by
  rw [bufferEnd, UInt64.toNat_add, Offset.toNat_clamp]

theorem overrun_iff {l : BufferLedger} :
    l.overrun = true ↔ 2 ^ 64 ≤ l.dataStart.toNat + min l.buffer.length (2 ^ 64 - 1) := by
  have hd := Offset.toNat_lt l.dataStart
  rw [overrun, decide_eq_true_iff, UInt64.lt_iff_toNat_lt, toNat_bufferEnd]
  omega

theorem Fits.overrun_eq {l : BufferLedger} (h : l.Fits) : l.overrun = false := by
  unfold Fits at h
  rw [← Bool.not_eq_true, overrun_iff]
  omega

theorem byteAt_of_overrun {l : BufferLedger} (h : l.overrun = true) (o : Nat) :
    l.byteAt o = 0 := by
  rw [overrun, decide_eq_true_iff, UInt64.lt_iff_toNat_lt] at h
  exact if_neg (by omega)

/-- Without an overrun the bytes of the partition are those of the buffer. -/
theorem byteAt_eq_getD {l : BufferLedger} (hover : l.overrun = false) {o : Nat}
    (hd : l.dataStart.toNat ≤ o) (ho : o < 2 ^ 64 - 1) :
    l.byteAt o = l.buffer.getD (o - l.dataStart.toNat) 0 := by
  have hend := l.toNat_bufferEnd
  rw [← Bool.not_eq_true, overrun_iff] at hover
  unfold byteAt
  split
  · rfl
  · rw [List.getD_eq_getElem?_getD, List.getElem?_eq_none (by omega), Option.getD_none]

theorem Fits.byteAt_eq_getD {l : BufferLedger} (h : l.Fits) {o : Nat}
    (hd : l.dataStart.toNat ≤ o) : l.byteAt o = l.buffer.getD (o - l.dataStart.toNat) 0 := by
  by_cases ho : o < 2 ^ 64 - 1
  · exact BufferLedger.byteAt_eq_getD h.overrun_eq hd ho
  · have hend := Offset.toNat_lt l.bufferEnd
    unfold Fits at h
    rw [byteAt, if_neg (by omega), List.getD_eq_getElem?_getD,
      List.getElem?_eq_none (by omega), Option.getD_none]

theorem byteAt_of_lt {l : BufferLedger} {o : Nat} (h : o < l.dataStart.toNat) : l.byteAt o = 0 :=
  if_neg (by omega)

/-! ## Reading -/

theorem bytesAt_eq_span (l : BufferLedger) (offset len : Nat) :
    l.bytesAt offset len = Bytes.span l.byteAt offset len :=
  Bytes.eq_span (l.length_bytesAt offset len) (l.getD_bytesAt offset len)

theorem read_eq_span {l : BufferLedger} {offset len : Offset}
    (h : offset.toNat + len.toNat ≤ l.capacity.toNat) (hlen : len.toNat < memoryLimit) :
    l.read offset len = .ok (Bytes.span l.byteAt offset.toNat len.toNat) := by
  rw [read, if_pos h, if_neg (by omega), bytesAt_eq_span]

/-- A ledger in one buffer reads as many bytes as it is asked for. -/
theorem length_of_read {l : BufferLedger} {offset len : Offset} {bs : Bytes}
    (h : l.read offset len = .ok bs) : bs.length = len.toNat := by
  unfold read at h
  split at h
  · split at h
    · cases h
    · cases h
      exact l.length_bytesAt offset.toNat len.toNat
  · cases h

/-! ## Writing -/

@[simp] theorem dataStart_put (l : BufferLedger) (offset stop : Offset) (data : Bytes) :
    (l.put offset stop data).dataStart = l.dataStart := rfl

theorem buffer_put (l : BufferLedger) (offset stop : Offset) (data : Bytes) :
    (l.put offset stop data).buffer
      = (Bytes.padTo l.buffer (stop.toNat - l.dataStart.toNat)).overlay
          (offset.toNat - l.dataStart.toNat) data := rfl

section

variable {l : BufferLedger} {offset stop : Offset} {data : Bytes}
  (hd : l.dataStart.toNat ≤ offset.toNat) (hstop : stop.toNat = offset.toNat + data.length)

include hd hstop

theorem length_buffer_put :
    (l.put offset stop data).buffer.length
      = max l.buffer.length (stop.toNat - l.dataStart.toNat) := by
  rw [buffer_put, Bytes.length_overlay, Bytes.length_padTo]
  rw [Bytes.length_padTo]
  omega

/-- A write goes no further than the last offset, so it does not change what fits. -/
theorem fits_put_iff : (l.put offset stop data).Fits ↔ l.Fits := by
  have hlast := Offset.toNat_lt stop
  have hlen := length_buffer_put hd hstop
  unfold Fits
  rw [dataStart_put]
  omega

theorem overrun_put : (l.put offset stop data).overrun = l.overrun := by
  have hlast := Offset.toNat_lt stop
  have hlen := length_buffer_put hd hstop
  rw [Bool.eq_iff_iff, overrun_iff, overrun_iff, dataStart_put]
  omega

/-- The bytes after a write: the new ones where it went, unless nothing is read there, and the
old ones elsewhere. -/
theorem byteAt_put (o : Nat) :
    (l.put offset stop data).byteAt o
      = if l.overrun = false ∧ offset.toNat ≤ o ∧ o < offset.toNat + data.length then
          data.getD (o - offset.toNat) 0
        else l.byteAt o := by
  have hlast := Offset.toNat_lt stop
  have hover := overrun_put hd hstop
  have hfit : offset.toNat - l.dataStart.toNat + data.length
      ≤ (Bytes.padTo l.buffer (stop.toNat - l.dataStart.toNat)).length := by
    rw [Bytes.length_padTo]
    omega
  cases hold : l.overrun with
  | true =>
    rw [hold] at hover
    rw [byteAt_of_overrun hover, byteAt_of_overrun hold, if_neg (fun h => Bool.noConfusion h.1)]
  | false =>
    rw [hold] at hover
    by_cases hin : offset.toNat ≤ o ∧ o < offset.toNat + data.length
    · rw [if_pos ⟨rfl, hin⟩, byteAt_eq_getD hover (Nat.le_trans hd hin.1) (by omega),
        dataStart_put, buffer_put, Bytes.getD_overlay hfit, if_pos (by omega)]
      congr 1
      omega
    · rw [if_neg (fun h => hin h.2)]
      by_cases ho : l.dataStart.toNat ≤ o ∧ o < 2 ^ 64 - 1
      · rw [byteAt_eq_getD hover ho.1 ho.2, byteAt_eq_getD hold ho.1 ho.2, dataStart_put,
          buffer_put, Bytes.getD_overlay hfit, if_neg (by omega), Bytes.getD_padTo]
      · have hend := Offset.toNat_lt l.bufferEnd
        have hend' := Offset.toNat_lt (l.put offset stop data).bufferEnd
        rw [byteAt, byteAt, dataStart_put, if_neg (by omega), if_neg (by omega)]

end

theorem flat_put {l : BufferLedger} {offset : Offset} {data : Bytes}
    (hd : l.dataStart.toNat ≤ offset.toNat) (hlen : offset.toNat + data.length < 2 ^ 64) :
    (l.put offset (offset.advance data.length) data).flat = l.flat.write offset data := by
  have hstop := Offset.toNat_advance_of_lt hlen
  unfold flat Flat.write
  congr 1
  · funext o
    exact byteAt_put hd hstop o
  · exact overrun_put hd hstop

/-- A write succeeds if it begins in the partition, ends before the last offset and memory
can be had for the bytes that the buffer lacks. -/
theorem write_eq_ok {l : BufferLedger} {offset : Offset} {data : Bytes}
    (hd : l.dataStart.toNat ≤ offset.toNat) (hlen : offset.toNat + data.length < 2 ^ 64)
    (hmem : offset.toNat + data.length - l.dataStart.toNat - l.buffer.length < memoryLimit) :
    l.write offset data = .ok (l.put offset (offset.advance data.length) data) := by
  have hstop := Offset.toNat_advance_of_lt hlen
  have hbelow : ¬ offset < l.dataStart := by
    rw [UInt64.lt_iff_toNat_lt]
    omega
  rw [write, if_neg hbelow, Offset.advance?_eq_some hlen]
  simp only
  rw [if_neg (by omega)]

/-- A write that succeeds begins in the partition and ends before the last offset. -/
theorem of_write_eq_ok {l l' : BufferLedger} {offset : Offset} {data : Bytes}
    (h : l.write offset data = .ok l') :
    l.dataStart.toNat ≤ offset.toNat ∧ offset.toNat + data.length < 2 ^ 64
      ∧ l' = l.put offset (offset.advance data.length) data := by
  unfold write at h
  split at h
  · cases h
  · rename_i hbelow
    rw [UInt64.lt_iff_toNat_lt] at hbelow
    split at h
    · cases h
    · rename_i stop hadv
      obtain ⟨hlen, rfl⟩ := Offset.eq_advance_of_advance? hadv
      split at h
      · cases h
      · cases h
        exact ⟨by omega, hlen, rfl⟩

instance : FlatStorage BufferLedger where
  Keeps l f := l.flat = f
  dataStart_eq := by
    rintro l f rfl
    rfl
  capacity_eq := by
    rintro l f rfl
    rfl
  nextWrite_eq := by
    rintro l f rfl
    rfl
  read_eq := by
    rintro l f offset len rfl h hlen
    exact read_eq_span h hlen
  write_cases := by
    rintro l f offset data rfl
    change (∃ e s', Storage.orKeep l (l.write offset data) = _ ∧ _)
      ∨ ∃ s', Storage.orKeep l (l.write offset data) = _ ∧ _
    cases hw : l.write offset data with
    | error e => exact Or.inl ⟨e, l, rfl, rfl⟩
    | ok l' =>
      obtain ⟨hd, hlen, rfl⟩ := of_write_eq_ok hw
      exact Or.inr ⟨_, rfl, hd, hlen, flat_put hd hlen⟩
  refresh_ok := by
    rintro l f rfl
    exact ⟨l.refresh, rfl, rfl⟩

/-! ## Ledgers in use -/

/-- A ledger that was made with some contents, made ready, and then written and refreshed. -/
def Reachable (l : BufferLedger) : Prop :=
  ∃ dataStart capacity contents l₀,
    Storage.load (ofContents dataStart capacity contents) = .ok l₀ ∧ Storage.Reaches l₀ l

theorem Reachable.of_reaches {l l' : BufferLedger} (h : l.Reachable)
    (hreach : Storage.Reaches l l') : l'.Reachable := by
  obtain ⟨dataStart, capacity, contents, l₀, hload, hreach₀⟩ := h
  exact ⟨dataStart, capacity, contents, l₀, hload, hreach₀.trans hreach⟩

/-- A sound ledger whose buffer holds all that was written. Its capacity reaches the data
partition. If it is overrun there is no offset left for it. -/
structure Sound (l : BufferLedger) : Prop where
  flat : l.flat.Sound
  writtenEnd_le : l.writtenEnd.toNat ≤ l.dataStart.toNat + l.buffer.length
  dataStart_le : l.dataStart.toNat ≤ l.capacity.toNat
  nextWrite_eq_last : l.overrun = true → l.nextWrite = Offset.last

theorem advance_le_capacity_ofContents (dataStart capacity : Offset) (contents : Bytes) :
    (dataStart.advance contents.length).toNat
      ≤ (ofContents dataStart capacity contents).capacity.toNat := by
  simp only [ofContents]
  split
  · exact Offset.le_roundUpToPage _
  · rename_i h
    rw [UInt64.lt_iff_toNat_lt] at h
    omega

theorem writtenEnd_ofContents_le (dataStart capacity : Offset) (contents : Bytes) :
    (ofContents dataStart capacity contents).writtenEnd.toNat
      ≤ (dataStart.advance contents.length).toNat := by
  simp only [ofContents]
  split
  · exact Nat.zero_le _
  · exact Nat.le_refl _

theorem toNat_nextWrite_refresh (l : BufferLedger) :
    l.refresh.nextWrite.toNat = max l.writtenEnd.toNat l.dataStart.toNat :=
  Offset.toNat_max _ _

theorem sound_ofContents (dataStart capacity : Offset) (contents : Bytes) :
    (ofContents dataStart capacity contents).refresh.Sound := by
  have hcap := advance_le_capacity_ofContents dataStart capacity contents
  have hwritten := writtenEnd_ofContents_le dataStart capacity contents
  have hadv := Offset.toNat_advance dataStart contents.length
  have hd := Offset.toNat_lt dataStart
  have hnext := (ofContents dataStart capacity contents).toNat_nextWrite_refresh
  change _ = max _ dataStart.toNat at hnext
  refine ⟨⟨?_, ?_, ?_⟩, ?_, ?_, ?_⟩
  · exact Nat.le_trans hwritten hcap
  · change dataStart.toNat ≤ (ofContents dataStart capacity contents).refresh.nextWrite.toNat
    omega
  · exact Nat.le_of_eq hnext
  · change (ofContents dataStart capacity contents).writtenEnd.toNat
      ≤ dataStart.toNat + contents.length
    omega
  · change dataStart.toNat ≤ (ofContents dataStart capacity contents).capacity.toNat
    omega
  · intro hover
    change (ofContents dataStart capacity contents).overrun = true at hover
    rw [overrun_iff] at hover
    change 2 ^ 64 ≤ dataStart.toNat + min contents.length _ at hover
    apply UInt64.toNat_inj.1
    rw [hnext, Offset.toNat_last]
    cases contents with
    | nil => exact absurd hover (Nat.not_le.2 hd)
    | cons b bs =>
      change max (dataStart.advance (b :: bs).length).toNat _ = _
      omega

theorem Sound.put {l : BufferLedger} (h : l.Sound) {offset : Offset} {data : Bytes}
    (hd : l.dataStart.toNat ≤ offset.toNat) (hlen : offset.toNat + data.length < 2 ^ 64) :
    (l.put offset (offset.advance data.length) data).Sound where
  flat := by
    rw [flat_put hd hlen]
    exact h.flat.write offset data
  writtenEnd_le := by
    have hwritten := Flat.toNat_writtenEnd_write l.flat hlen
    have hbuffer := length_buffer_put hd (Offset.toNat_advance_of_lt hlen)
    have hold := h.writtenEnd_le
    rw [Offset.toNat_advance_of_lt hlen] at hbuffer
    rw [← flat_put hd hlen] at hwritten
    change (l.put offset (offset.advance data.length) data).writtenEnd.toNat
      = max l.writtenEnd.toNat _ at hwritten
    change _ ≤ l.dataStart.toNat + _
    omega
  dataStart_le := Nat.le_trans h.dataStart_le (Flat.capacity_le_write l.flat offset data)
  nextWrite_eq_last := by
    rw [overrun_put hd (Offset.toNat_advance_of_lt hlen)]
    exact h.nextWrite_eq_last

theorem Sound.refresh {l : BufferLedger} (h : l.Sound) : l.refresh.Sound where
  flat := Flat.Sound.refresh h.flat
  writtenEnd_le := h.writtenEnd_le
  dataStart_le := h.dataStart_le
  nextWrite_eq_last := by
    intro hover
    have hlast : l.nextWrite = Offset.last := h.nextWrite_eq_last hover
    have hle : l.nextWrite.toNat ≤ max l.writtenEnd.toNat l.dataStart.toNat := h.flat.nextWrite_le
    have hnext := l.toNat_nextWrite_refresh
    have hmax := Offset.toNat_le_last l.refresh.nextWrite
    apply UInt64.toNat_inj.1
    rw [hlast, Offset.toNat_last] at hle
    rw [Offset.toNat_last]
    omega

theorem Sound.proper {l : BufferLedger} (h : l.Sound) : l.flat.Proper where
  toSound := h.flat
  dataStart_le_capacity := h.dataStart_le

/-- A ledger with an offset left is not overrun. -/
theorem Sound.overrun_eq {l : BufferLedger} (h : l.Sound)
    (hnext : l.nextWrite.toNat < 2 ^ 64 - 1) : l.overrun = false := by
  rw [← Bool.not_eq_true]
  intro hover
  rw [h.nextWrite_eq_last hover, Offset.toNat_last] at hnext
  omega

/-- Every ledger in use is sound. -/
theorem Reachable.sound {l : BufferLedger} (h : l.Reachable) : l.Sound := by
  obtain ⟨dataStart, capacity, contents, l₀, hload, hreach⟩ := h
  cases hload
  apply hreach.invariant (P := Sound) (sound_ofContents dataStart capacity contents)
  · intro u offset data hu
    change (Storage.orKeep u (u.write offset data)).2.Sound
    cases hw : u.write offset data with
    | error e => exact hu
    | ok u' =>
      obtain ⟨hd, hlen, rfl⟩ := of_write_eq_ok hw
      exact hu.put hd hlen
  · intro u hu
    exact hu.refresh

/-- What fits stays so. -/
theorem Fits.of_reaches {l l' : BufferLedger} (h : l.Fits) (hreach : Storage.Reaches l l') :
    l'.Fits := by
  apply hreach.invariant (P := Fits) h
  · intro u offset data hu
    change (Storage.orKeep u (u.write offset data)).2.Fits
    cases hw : u.write offset data with
    | error e => exact hu
    | ok u' =>
      obtain ⟨hd, hlen, rfl⟩ := of_write_eq_ok hw
      exact (fits_put_iff hd (Offset.toNat_advance_of_lt hlen)).2 hu
  · intro u hu
    exact hu

/-- What is committed is what the flat ledger has between the beginning of the partition
and the first free offset, unless that is overrun. -/
theorem committed_eq_span {l : BufferLedger} (h : l.Sound) (hover : l.overrun = false) :
    l.committed
      = Bytes.span l.byteAt l.dataStart.toNat (l.nextWrite.toNat - l.dataStart.toNat) := by
  have hnext : l.nextWrite.toNat ≤ max l.writtenEnd.toNat l.dataStart.toNat := h.flat.nextWrite_le
  have hwritten := h.writtenEnd_le
  have hlast := Offset.toNat_lt l.nextWrite
  apply Bytes.eq_span
  · rw [committed, List.length_take]
    omega
  · intro i hi
    rw [committed, List.getD_eq_getElem?_getD, List.getElem?_take_of_lt hi,
      ← List.getD_eq_getElem?_getD, byteAt_eq_getD hover (Nat.le_add_right _ _) (by omega),
      Nat.add_sub_cancel_left]

end BufferLedger

end ByteLedger
