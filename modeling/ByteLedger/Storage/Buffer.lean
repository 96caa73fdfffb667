import ByteLedger.Storage.Basic

set_option autoImplicit false

/-!
# Ledgers in one buffer

A `BufferLedger` keeps the bytes from the start of its data partition up to the highest
write in one byte string; every other byte is zero. The capacity is only a number: it
says what may be read, and grows by whole pages when a write passes it.

Where the buffer ends is a sum of two words (`bufferEnd`), the only one that is neither
checked nor clamped. Contents that run past the last offset can be given to a new ledger,
and make it wrap.

`byteAt` is the view of such a ledger: the byte at each offset. Reading gives the bytes
of the view (`getD_bytesAt`).
-/

namespace ByteLedger

/-- A ledger whose bytes are held in one buffer. -/
structure BufferLedger where
  /-- The bytes from `dataStart` up to the highest write. -/
  buffer : Bytes
  /-- Where the data partition begins. -/
  dataStart : Offset
  /-- The number of bytes that may be read. -/
  capacity : Offset
  /-- One past the highest byte written. -/
  writtenEnd : Offset
  /-- The first free offset as of the last refresh. -/
  nextWrite : Offset
  deriving DecidableEq, Repr, Inhabited

namespace BufferLedger

/-- A ledger with the given bytes at the start of its data partition. The capacity is
raised to whole pages if they do not fit. -/
def ofContents (dataStart capacity : Offset) (contents : Bytes) : BufferLedger :=
  let stop := dataStart.advance contents.length
  { buffer := contents
    dataStart := dataStart
    capacity := if capacity < stop then stop.roundUpToPage else capacity
    writtenEnd := if contents.isEmpty then 0 else stop
    nextWrite := 0 }

/-- The number of bytes from which on memory cannot be had. It stands for the answer of the
allocator, which is asked for the bytes to be read and for those that a write adds to the
buffer; the bytes that the buffer has already are not counted. -/
def memoryLimit : Nat := 2 ^ 48

/-- One past the last offset of the buffer. Where the buffer runs past the last offset of all
the sum wraps, and this is before the partition: no byte of the buffer is read then. (That is
what a build without arithmetic checks does; with them it stops here.) -/
def bufferEnd (l : BufferLedger) : Offset :=
  -- A byte string in memory has a length of 64 bits, so nothing is clamped.
  l.dataStart + Offset.clamp l.buffer.length

/-- The byte at an offset. -/
def byteAt (l : BufferLedger) (o : Nat) : UInt8 :=
  if l.dataStart.toNat ≤ o ∧ o < l.bufferEnd.toNat then l.buffer.getD (o - l.dataStart.toNat) 0
  else 0

/-- The `len` bytes from `offset` on: zeros, over which is laid whatever part of the range the
buffer has. -/
def bytesAt (l : BufferLedger) (offset len : Nat) : Bytes :=
  let start := max offset l.dataStart.toNat
  let stop := min (offset + len) l.bufferEnd.toNat
  if start < stop then
    (Bytes.zeros len).overlay (start - offset)
      (l.buffer.slice (start - l.dataStart.toNat) (stop - start))
  else Bytes.zeros len

/-- The bytes of a range within the capacity. -/
def read (l : BufferLedger) (offset len : Offset) : Except StorageError Bytes :=
  if offset.toNat + len.toNat ≤ l.capacity.toNat then
    if memoryLimit ≤ len.toNat then .error (.capacityExceeded (offset.advance len.toNat))
    else .ok (l.bytesAt offset.toNat len.toNat)
  else .error (.outOfRange offset (offset.advance len.toNat) l.capacity)

/-- The ledger after a write that ends at `stop`. -/
def put (l : BufferLedger) (offset stop : Offset) (data : Bytes) : BufferLedger :=
  { l with
    buffer := (Bytes.padTo l.buffer (stop.toNat - l.dataStart.toNat)).overlay
      (offset.toNat - l.dataStart.toNat) data
    capacity := if l.capacity < stop then stop.roundUpToPage else l.capacity
    writtenEnd := max l.writtenEnd stop }

/-- A write into the data partition, as far as there are offsets and memory for it. -/
def write (l : BufferLedger) (offset : Offset) (data : Bytes) :
    Except StorageError BufferLedger :=
  if offset < l.dataStart then .error (.belowPartition offset l.dataStart)
  else
    match offset.advance? data.length with
    | none => .error (.outOfRange offset Offset.last l.capacity)
    | some stop =>
      if memoryLimit ≤ (stop.toNat - l.dataStart.toNat) - l.buffer.length then
        .error (.capacityExceeded stop)
      else .ok (l.put offset stop data)

/-- Counts every write. The first free offset is never before the data partition. -/
def refresh (l : BufferLedger) : BufferLedger :=
  { l with nextWrite := max l.writtenEnd l.dataStart }

/-- The committed bytes: from the start of the data partition up to the first free
offset. -/
def committed (l : BufferLedger) : Bytes :=
  l.buffer.take (l.nextWrite.toNat - l.dataStart.toNat)

theorem length_bytesAt (l : BufferLedger) (offset len : Nat) :
    (l.bytesAt offset len).length = len := by
  unfold bytesAt
  simp only
  split
  · rw [Bytes.length_overlay, Bytes.length_zeros]
    rw [Bytes.length_zeros, Bytes.length_slice]
    omega
  · exact Bytes.length_zeros len

theorem getD_bytesAt (l : BufferLedger) (offset len i : Nat) (h : i < len) :
    (l.bytesAt offset len).getD i 0 = l.byteAt (offset + i) := by
  have hslice := Bytes.length_slice l.buffer (max offset l.dataStart.toNat - l.dataStart.toNat)
    (min (offset + len) l.bufferEnd.toNat - max offset l.dataStart.toNat)
  unfold bytesAt byteAt
  simp only
  split
  · rw [Bytes.getD_overlay (by rw [Bytes.length_zeros]; omega), Bytes.getD_zeros]
    by_cases hin : l.dataStart.toNat ≤ offset + i ∧ offset + i < l.bufferEnd.toNat
    · rw [if_pos hin]
      split
      · rw [Bytes.getD_slice _ _ (by omega)]
        congr 1
        omega
      · -- The slice ends before this byte, as the buffer does.
        rw [List.getD_eq_getElem?_getD, List.getElem?_eq_none (by omega), Option.getD_none]
    · rw [if_neg hin, if_neg (by omega)]
  · rw [Bytes.getD_zeros, if_neg (by omega)]

instance : Storage BufferLedger where
  dataStart l := .ok l.dataStart
  capacity l := .ok l.capacity
  nextWrite l := .ok l.nextWrite
  read := read
  write l offset data := Storage.orKeep l (l.write offset data)
  refresh l := (.ok (), l.refresh)

end BufferLedger

end ByteLedger
