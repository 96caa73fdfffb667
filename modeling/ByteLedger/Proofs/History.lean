import ByteLedger.Proofs.Served

set_option autoImplicit false

/-!
# Which bytes a history check compares

The bytes that come along with a position are those that the requester holds right before it. A
ledger in use confirms them where it has committed bytes of its own, and else names the first
offset at which it has another byte, and shows what both hold from there on
(`Ledger.checkHistory_exact`).

That is so as long as there are no more of them than there are offsets before the position. Of
more bytes the last ones are those right before the position; but the check stops at the first
offset without passing over the bytes that have none, and so takes the first bytes for the last
(`Ledger.checkHistory_misaligned`).
-/

namespace ByteLedger

section

variable {σ : Type} [Storage σ]

/-- A storage holds, at an offset, the byte that a byte string has there if its end stands right
before a position. -/
def Storage.Confirms (s : σ) (position : Offset) (bs : Bytes) (o : Offset) : Prop :=
  ∃ b, Storage.read s o 1 = .ok [b] ∧ bs[o.toNat + bs.length - position.toNat]? = some b

/-- A divergence is at the first offset that is compared and not confirmed. It shows the bytes of
both sides from there on, up to eight, as far as they are compared. -/
structure Divergence.Reports (d : Divergence) (s : σ) (g : Geometry) (position : Offset)
    (bs : Bytes) : Prop where
  compares : g.Compares position bs.length d.offset.toNat
  not_confirms : ¬ Storage.Confirms s position bs d.offset
  confirms_of_lt : ∀ o : Offset, o < d.offset → g.Compares position bs.length o.toNat →
    Storage.Confirms s position bs o
  length_ours : d.ours.length = min 8 (min position.toNat g.frontier.toNat - d.offset.toNat)
  read_ours : Storage.read s d.offset (Offset.clamp d.ours.length) = .ok d.ours
  length_theirs : d.theirs.length = d.ours.length
  theirs_eq : d.theirs
    = bs.slice (d.offset.toNat + bs.length - position.toNat) d.ours.length

end

section

variable {σ : Type} [Storage σ] [FlatStorage σ] {s : σ} {f : Flat} {position : Offset} {bs : Bytes}

/-- Where anything is compared, a storage confirms what its flat ledger holds. -/
theorem Flat.confirms_iff (h : FlatStorage.Keeps s f) (hn : bs.length ≤ position.toNat)
    {o : Offset} (hcompares : f.geometry.Compares position bs.length o.toNat) :
    Storage.Confirms s position bs o
      ↔ Request.claim position bs o.toNat = f.byte o.toNat := by
  obtain ⟨_, hfirst, hlast, hfrontier⟩ := hcompares
  have hcapacity := f.frontier_le_capacity
  have hindex : o.toNat - (position.toNat - bs.length) = o.toNat + bs.length - position.toNat := by
    omega
  have hlt : o.toNat + bs.length - position.toNat < bs.length := by omega
  rw [Storage.Confirms, FlatStorage.read_one h (by omega), Request.claim, hindex,
    List.getD_eq_getElem?_getD, List.getElem?_eq_getElem hlt, Option.getD_some]
  simp [eq_comm]

/-- A divergence from a flat ledger is what a storage that keeps it reports. -/
theorem Flat.reports_of_divergence? (h : FlatStorage.Keeps s f)
    (hn : bs.length ≤ position.toNat) {d : Divergence}
    (hd : f.divergence? position (Request.claim position bs) bs.length = some d) :
    d.Reports s f.geometry position bs := by
  obtain ⟨hcompares, hne, hleast⟩ := of_divergence?_eq_some hd
  obtain ⟨hpartition, hfirst, hlast, hfrontier⟩ := id hcompares
  change f.dataStart.toNat ≤ d.offset.toNat at hpartition
  have hstart := f.toNat_compareStart position bs.length
  have hcapacity := f.frontier_le_capacity
  have hoffset := Offset.toNat_lt position
  obtain ⟨htheirs, hours⟩ := Divergence.of_find?_span (by omega) hd
  have hstop : (f.compareStart position bs.length).toNat
      + (min position.toNat f.geometry.frontier.toNat - (f.compareStart position bs.length).toNat)
      = min position.toNat f.geometry.frontier.toNat := by omega
  rw [hstop] at htheirs hours
  have hlen : d.ours.length
      = min 8 (min position.toNat f.geometry.frontier.toNat - d.offset.toNat) := by
    rw [hours, Bytes.length_span]
    rfl
  have hclamp : (Offset.clamp d.ours.length).toNat = d.ours.length := by
    rw [Offset.toNat_clamp]
    omega
  have hindex : d.offset.toNat - (position.toNat - bs.length)
      = d.offset.toNat + bs.length - position.toNat := by omega
  refine ⟨hcompares, ?_, ?_, hlen, ?_, ?_, ?_⟩
  · rw [confirms_iff h hn hcompares]
    exact hne
  · intro o hlt hcompares'
    rw [confirms_iff h hn hcompares']
    exact hleast o.toNat (UInt64.lt_iff_toNat_lt.1 hlt) hcompares'
  · rw [FlatStorage.read_eq h (by omega) (by omega), hclamp, hlen]
    exact congrArg Except.ok hours.symm
  · rw [htheirs, hours, Bytes.length_span, Bytes.length_span]
  · rw [← hindex, Request.slice_eq_span_claim hfirst (by omega), hlen]
    exact htheirs

/-- Of more bytes than there are offsets before the position only so many are compared. -/
theorem Flat.divergence?_of_le (f : Flat) {position : Offset} (bs : Bytes)
    (h : position.toNat ≤ bs.length) :
    f.divergence? position (Request.claim position bs) bs.length
      = f.divergence? position (Request.claim position (bs.take position.toNat))
          (bs.take position.toNat).length := by
  have hlen : (bs.take position.toNat).length = position.toNat := by
    rw [List.length_take]
    omega
  have hstart : f.compareStart position bs.length = f.compareStart position position.toNat := by
    apply UInt64.toNat_inj.1
    rw [toNat_compareStart, toNat_compareStart]
    omega
  have hsame : ∀ o, position.toNat - position.toNat ≤ o → o < position.toNat →
      Request.claim position bs o = Request.claim position (bs.take position.toNat) o := by
    intro o _ ho
    rw [Request.claim, Request.claim, hlen, Nat.sub_eq_zero_of_le h, Nat.sub_self, Nat.sub_zero,
      List.getD_eq_getElem?_getD, List.getD_eq_getElem?_getD, List.getElem?_take_of_lt ho]
  rw [hlen, ← divergence?_congr hsame, divergence?, divergence?, hstart]

end

/-- How a ledger in use that fits checks the bytes that come along with a position. It reads its
committed bytes up to its frontier. If the others are no more than there are offsets before the
position, the check succeeds exactly if the ledger confirms each byte that is compared, and else is
refused with the first that it does not confirm. Of more bytes it compares the first ones, as many
as there are offsets, as if they were all. No slice ends past the bytes that came along. -/
theorem Ledger.checkHistory_exact (l : Ledger) (h : l.Reachable) (hfits : l.Fits) :
    ∃ g committed, Storage.geometry l = .ok g ∧ l.ReadsCommitted g committed
      ∧ ∀ (position : Offset) (bs : Bytes), bs.length < BufferLedger.memoryLimit →
        (bs.length ≤ position.toNat →
          (checkHistory l position bs = .ok ()
            ↔ ∀ o : Offset, g.Compares position bs.length o.toNat →
              Storage.Confirms l position bs o)
          ∧ (checkHistory l position bs ≠ .ok () → ∃ d : Divergence,
              checkHistory l position bs = .error (.refused d.message)
              ∧ d.Reports l g position bs))
        ∧ (position.toNat ≤ bs.length →
          checkHistory l position bs = checkHistory l position (bs.take position.toNat))
        ∧ (let claimed := position.retreat bs.length
          let start := max claimed g.dataStart
          let stop := min position g.frontier
          start < stop → (start - claimed).toNat + (stop - start).toNat ≤ bs.length) := by
  obtain ⟨f, hkeeps, hsound⟩ := h.sound
  refine ⟨f.geometry, _, FlatStorage.geometry_eq hkeeps, readsCommitted h hfits hkeeps hsound, ?_⟩
  intro position bs hmemory
  refine ⟨?_, ?_, ?_⟩
  · intro hn
    rw [checkHistory_eq hkeeps hmemory]
    cases hd : f.divergence? position (Request.claim position bs) bs.length with
    | some d =>
      have hreports := Flat.reports_of_divergence? hkeeps hn hd
      refine ⟨iff_of_false (by simp) ?_, fun _ => ⟨d, rfl, hreports⟩⟩
      intro hall
      exact hreports.not_confirms (hall d.offset hreports.compares)
    | none =>
      refine ⟨iff_of_true rfl ?_, fun hne => absurd rfl hne⟩
      intro o hcompares
      obtain ⟨hpartition, hfirst, hlast, hfrontier⟩ := id hcompares
      rw [Flat.confirms_iff hkeeps hn hcompares]
      exact Flat.agrees_of_divergence? hd o.toNat hpartition hfirst hlast hfrontier
  · intro hle
    have htake : (bs.take position.toNat).length < BufferLedger.memoryLimit :=
      Nat.lt_of_le_of_lt (List.length_take_le' _ _) hmemory
    rw [checkHistory_eq hkeeps hmemory, checkHistory_eq hkeeps htake, f.divergence?_of_le bs hle]
  · exact f.compared_slice_le position bs.length

/-- A ledger that has committed three bytes from the offset 2 on, and has one more that is not
refreshed. -/
def Ledger.uncommitted : Ledger :=
  .buffer (Storage.write (BufferLedger.ofContents 2 0 [1, 2, 3]).refresh 5 [9]).2

/-- Of the six bytes before the offset 7 those at 2, 3 and 4 are compared, and the second of them
differs. -/
theorem Ledger.checkHistory_exact_overlap :
    uncommitted.Reachable ∧ [4, 1, 8, 3, 6, 5].length < BufferLedger.memoryLimit
      ∧ (∃ (g : Geometry) (d : Divergence), Storage.geometry uncommitted = .ok g
        ∧ checkHistory uncommitted 7 [4, 1, 8, 3, 6, 5] = .error (.refused d.message)
        ∧ d.Reports uncommitted g 7 [4, 1, 8, 3, 6, 5])
      ∧ checkHistory uncommitted 7 [4, 1, 8, 3, 6, 5]
        = .error (.refused "history diverged at offset 3: requester=0803 responder=0203") := by
  have hreach : uncommitted.Reachable := ⟨2, 0, [1, 2, 3], _, rfl, .write 5 [9] .start⟩
  have hrefused : checkHistory uncommitted 7 [4, 1, 8, 3, 6, 5]
      = .error (.refused "history diverged at offset 3: requester=0803 responder=0203") := by
    decide +kernel
  have hmemory : [4, 1, 8, 3, 6, 5].length < BufferLedger.memoryLimit := by decide
  obtain ⟨g, _, hg, _, hchecks⟩ := checkHistory_exact uncommitted hreach (by decide)
  obtain ⟨d, hd, hreports⟩ := ((hchecks 7 [4, 1, 8, 3, 6, 5] hmemory).1 (by decide)).2
    (by rw [hrefused]; simp)
  exact ⟨hreach, hmemory, ⟨g, d, hg, hd, hreports⟩, hrefused⟩

/-- Three bytes before the offset 2, of which the last two are those that the ledger has committed
there. It confirms each byte that is compared, and refuses them. -/
theorem Ledger.checkHistory_misaligned :
    (buffer (BufferLedger.ofContents 0 0 [1, 2, 3]).refresh).Reachable
      ∧ ∃ g, Storage.geometry (buffer (BufferLedger.ofContents 0 0 [1, 2, 3]).refresh) = .ok g
        ∧ (∀ o : Offset, g.Compares 2 [9, 1, 2].length o.toNat →
          Storage.Confirms (buffer (BufferLedger.ofContents 0 0 [1, 2, 3]).refresh) 2 [9, 1, 2] o)
        ∧ checkHistory (buffer (BufferLedger.ofContents 0 0 [1, 2, 3]).refresh) 2 [9, 1, 2]
          = .error (.refused "history diverged at offset 0: requester=0901 responder=0102") := by
  refine ⟨⟨0, 0, [1, 2, 3], _, rfl, .start⟩,
    { dataStart := 0, capacity := 65536, nextWrite := 3 }, by decide +kernel, ?_,
    by decide +kernel⟩
  rintro o ⟨_, _, hlast, _⟩
  -- Below the position 2 there are two offsets.
  have hcases : o = 0 ∨ o = 1 := by
    have htwo : o.toNat < 2 := hlast
    rcases Nat.lt_succ_iff_lt_or_eq.1 htwo with h | h
    · exact Or.inl (UInt64.toNat_inj.1 (Nat.lt_one_iff.1 h))
    · exact Or.inr (UInt64.toNat_inj.1 h)
  rcases hcases with rfl | rfl
  · exact ⟨1, by decide +kernel, by decide⟩
  · exact ⟨2, by decide +kernel, by decide⟩

end ByteLedger
