import ByteLedger.Proofs.Buffer
import Mathlib.Data.List.GetD

set_option autoImplicit false

/-!
# Settled ledgers

A ledger is settled if it has no unrefreshed writes. New ledgers are, and a settled ledger
that appends bytes at its first free offset gains them and is settled again.
-/

namespace ByteLedger

/-! ## Settled ledgers -/

namespace BufferLedger

/-- A sound ledger whose writes all count. -/
structure Settled (l : BufferLedger) : Prop where
  sound : l.Sound
  refreshed : l.refresh = l

theorem Sound.settled_refresh {l : BufferLedger} (h : l.Sound) : l.refresh.Settled :=
  ⟨h.refresh, rfl⟩

namespace Settled

variable {l : BufferLedger}

theorem toNat_nextWrite (h : l.Settled) :
    l.nextWrite.toNat = max l.writtenEnd.toNat l.dataStart.toNat := by
  have hnext := l.toNat_nextWrite_refresh
  rw [h.refreshed] at hnext
  exact hnext

theorem dataStart_le (h : l.Settled) : l.dataStart.toNat ≤ l.nextWrite.toNat := by
  rw [h.toNat_nextWrite]
  exact Nat.le_max_right _ _

/-- A settled ledger grows by appending, as long as there are offsets and memory for it. -/
theorem append (h : l.Settled) {data : Bytes} (hlen : l.nextWrite.toNat + data.length < 2 ^ 64)
    (hmem : data.length < memoryLimit) :
    ∃ l', Storage.append l l.nextWrite data = (.ok (), l') ∧ l'.Settled
      ∧ l'.flat = (l.flat.write l.nextWrite data).refresh := by
  have hnext := h.toNat_nextWrite
  have hwritten := h.sound.writtenEnd_le
  have hd := h.dataStart_le
  have hput := write_eq_ok hd hlen (by omega)
  have hwrite : Storage.write l l.nextWrite data
      = (.ok (), l.put l.nextWrite (l.nextWrite.advance data.length) data) := by
    change Storage.orKeep l (l.write l.nextWrite data) = _
    rw [hput]
    rfl
  refine ⟨(l.put l.nextWrite (l.nextWrite.advance data.length) data).refresh, ?_,
    (h.sound.put hd hlen).settled_refresh, ?_⟩
  · rw [Storage.append, hwrite]
    rfl
  · rw [← flat_put hd hlen]
    rfl

end Settled

/-- The frontier of a sound ledger is its first free offset: its capacity reaches the
partition and all that was written. -/
theorem Sound.frontier_eq {l : BufferLedger} (h : l.Sound) :
    l.flat.geometry.frontier = l.nextWrite :=
  h.proper.frontier_eq

/-! ## Gains -/

/-- `l'` is the settled ledger `l` with `k` more bytes from its first free offset on. -/
structure Gains (l l' : BufferLedger) (byte : Nat → UInt8) (k : Nat) : Prop where
  settled : l'.Settled
  nextWrite_eq : l'.nextWrite.toNat = l.nextWrite.toNat + k
  extends_flat : l.flat.Extends l'.flat
  byte_eq : ∀ o, l.nextWrite.toNat ≤ o → o < l.nextWrite.toNat + k → l'.byteAt o = byte o

namespace Gains

variable {l l' l'' : BufferLedger} {byte : Nat → UInt8} {k m : Nat}

theorem dataStart_eq (h : Gains l l' byte k) : l'.dataStart = l.dataStart :=
  h.extends_flat.dataStart_eq

/-- What was committed before is kept. -/
theorem byteAt_eq (h : Gains l l' byte k) {o : Nat} (hd : l.dataStart.toNat ≤ o)
    (ho : o < l.nextWrite.toNat) : l'.byteAt o = l.byteAt o :=
  h.extends_flat.byte_eq o hd ho

theorem refl (h : l.Settled) (byte : Nat → UInt8) : Gains l l byte 0 where
  settled := h
  nextWrite_eq := rfl
  extends_flat := .refl _
  byte_eq := fun _ ho ho' => absurd ho' (by omega)

theorem trans (hl : l.Settled) (h : Gains l l' byte k) (h' : Gains l' l'' byte m) :
    Gains l l'' byte (k + m) where
  settled := h'.settled
  nextWrite_eq := by rw [h'.nextWrite_eq, h.nextWrite_eq, Nat.add_assoc]
  extends_flat := h.extends_flat.trans h'.extends_flat
  byte_eq := by
    intro o ho ho'
    have hnext := h.nextWrite_eq
    by_cases hlt : o < l'.nextWrite.toNat
    · have hd : l'.dataStart.toNat ≤ o := by
        rw [h.dataStart_eq]
        exact Nat.le_trans hl.dataStart_le ho
      rw [h'.byteAt_eq hd hlt]
      exact h.byte_eq o ho (by omega)
    · exact h'.byte_eq o (by omega) (by omega)

/-- The committed bytes afterwards. -/
theorem committed_eq (hl : l.Settled) (hover : l.overrun = false) (h : Gains l l' byte k) :
    l'.committed = l.committed ++ Bytes.span byte l.nextWrite.toNat k := by
  have hd := hl.dataStart_le
  have hstart := h.dataStart_eq
  have hlen : l'.nextWrite.toNat - l'.dataStart.toNat
      = l.nextWrite.toNat - l.dataStart.toNat + k := by
    rw [h.nextWrite_eq, hstart]
    omega
  have hold : Bytes.span l'.byteAt l.dataStart.toNat (l.nextWrite.toNat - l.dataStart.toNat)
      = Bytes.span l.byteAt l.dataStart.toNat (l.nextWrite.toNat - l.dataStart.toNat) := by
    apply Bytes.span_congr
    intro o ho ho'
    exact h.byteAt_eq ho (by omega)
  have hnew : Bytes.span l'.byteAt l.nextWrite.toNat k
      = Bytes.span byte l.nextWrite.toNat k := Bytes.span_congr h.byte_eq
  rw [committed_eq_span h.settled.sound (h.extends_flat.overrun_eq.trans hover),
    committed_eq_span hl.sound hover, hlen, hstart,
    ← Bytes.span_append, hold,
    show l.dataStart.toNat + (l.nextWrite.toNat - l.dataStart.toNat) = l.nextWrite.toNat by omega,
    hnew]

/-- Bytes that are appended are gained. -/
theorem of_append (hl : l.Settled) (byte : Nat → UInt8) (k : Nat)
    (hlen : l.nextWrite.toNat + k < 2 ^ 64) (hmem : k < memoryLimit) :
    ∃ l', Storage.append l l.nextWrite (Bytes.span byte l.nextWrite.toNat k) = (.ok (), l')
      ∧ Gains l l' byte k := by
  have hspan := Bytes.length_span byte l.nextWrite.toNat k
  have hlen' : l.nextWrite.toNat + (Bytes.span byte l.nextWrite.toNat k).length < 2 ^ 64 := by
    omega
  have hnext := hl.toNat_nextWrite
  obtain ⟨l', happend, hl', hflat⟩ := hl.append hlen' (by omega)
  have hwritten := Flat.toNat_writtenEnd_write l.flat hlen'
  have hsound := hl.sound.flat.write l.nextWrite (Bytes.span byte l.nextWrite.toNat k)
  refine ⟨l', happend, hl', ?_, ?_, ?_⟩
  · have hnext' := Flat.toNat_nextWrite_refresh
      (l.flat.write l.nextWrite (Bytes.span byte l.nextWrite.toNat k))
    rw [← hflat, hwritten, hspan] at hnext'
    change l'.nextWrite.toNat = max (max l.writtenEnd.toNat _) l.dataStart.toNat at hnext'
    omega
  · rw [hflat]
    exact (l.flat.extends_write _ (Nat.le_refl _)).trans (Flat.extends_refresh hsound)
  · intro o ho ho'
    have hbyte : l'.byteAt o
        = (l.flat.write l.nextWrite (Bytes.span byte l.nextWrite.toNat k)).byte o :=
      congrFun (congrArg Flat.byte hflat) o
    -- To a ledger that is overrun no byte can be appended.
    have hover := hl.sound.overrun_eq (by omega)
    rw [hbyte, Flat.byte_write_of_le hover ho (by omega), Bytes.getD_span byte (by omega)]
    congr 1
    omega

end Gains

end BufferLedger

/-! ## New ledgers -/

namespace BufferLedger

variable {dataStart : Offset} {contents : Bytes}

theorem load_ofContents (dataStart capacity : Offset) (contents : Bytes) :
    Storage.load (ofContents dataStart capacity contents)
      = .ok (ofContents dataStart capacity contents).refresh := rfl

theorem settled_ofContents (dataStart capacity : Offset) (contents : Bytes) :
    (ofContents dataStart capacity contents).refresh.Settled :=
  ⟨sound_ofContents dataStart capacity contents, rfl⟩

/-- The first free offset of a new ledger is the end of its contents. -/
theorem toNat_nextWrite_ofContents (capacity : Offset)
    (h : dataStart.toNat + contents.length < 2 ^ 64) :
    (ofContents dataStart capacity contents).refresh.nextWrite.toNat
      = dataStart.toNat + contents.length := by
  have hadv := Offset.toNat_advance_of_lt h
  rw [toNat_nextWrite_refresh]
  cases contents with
  | nil => exact Nat.max_eq_right (Nat.zero_le _)
  | cons b bs =>
    change max (dataStart.advance (b :: bs).length).toNat dataStart.toNat = _
    omega

/-- The committed bytes of a new ledger are its contents. -/
theorem committed_ofContents (capacity : Offset)
    (h : dataStart.toNat + contents.length < 2 ^ 64) :
    (ofContents dataStart capacity contents).refresh.committed = contents := by
  rw [committed, toNat_nextWrite_ofContents capacity h]
  change contents.take (dataStart.toNat + contents.length - dataStart.toNat) = contents
  rw [Nat.add_sub_cancel_left, List.take_length]

/-- The bytes of a new ledger are those of its contents. -/
theorem byteAt_ofContents (capacity : Offset) (h : dataStart.toNat + contents.length < 2 ^ 64)
    (i : Nat) :
    (ofContents dataStart capacity contents).refresh.byteAt (dataStart.toNat + i)
      = contents.getD i 0 := by
  have hfits : (ofContents dataStart capacity contents).refresh.Fits := h
  have hbyte := hfits.byteAt_eq_getD (Nat.le_add_right dataStart.toNat i)
  change _ = contents.getD (dataStart.toNat + i - dataStart.toNat) 0 at hbyte
  rwa [Nat.add_sub_cancel_left] at hbyte

/-- The bytes of a new ledger from an index of its contents on. -/
theorem span_ofContents {held missing : Bytes} (capacity : Offset)
    (h : dataStart.toNat + (held ++ missing).length < 2 ^ 64) :
    Bytes.span (ofContents dataStart capacity (held ++ missing)).refresh.byteAt
      (dataStart.toNat + held.length) missing.length = missing := by
  symm
  apply Bytes.eq_span rfl
  intro i hi
  rw [Nat.add_assoc, byteAt_ofContents capacity h, List.getD_append_right _ _ _ _ (by omega),
    Nat.add_sub_cancel_left]

end BufferLedger

end ByteLedger
