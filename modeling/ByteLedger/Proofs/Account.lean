import ByteLedger.Proofs.Atomicity
import ByteLedger.Storage.Journaled

set_option autoImplicit false

/-!
# What a session reports

A session that finishes reports how many rounds it had, how many windows it wrote and how many
bytes. A journaled storage notes its writes and refreshes, a script keeps the requests that it was
sent. All of them tell the same story, whatever the script says: that of the windows up to the
first which says that no more data follows (`Session.run_accounted`).

The windows that are written lie one after the other (`Response.Laid`), and so no byte is written
twice. For a window is not written before the position that was asked for, and after the refresh
that position is not before the end of the window that was written last.
-/

namespace ByteLedger

/-! ## Windows one after the other -/

namespace Response

/-- The windows that have bytes, which are those that are written. -/
def written (rs : List Response) : List Response := rs.filter fun r => !r.data.isEmpty

theorem written_append (rs rs' : List Response) : written (rs ++ rs') = written rs ++ written rs' :=
  List.filter_append rs rs'

theorem written_of_nil {r : Response} (h : r.data = []) : written [r] = [] := by
  simp [written, h]

theorem written_of_ne_nil {r : Response} (h : r.data ≠ []) : written [r] = [r] := by
  simp [written, h]

/-- The number of bytes of some windows. -/
def total : List Response → Nat
  | [] => 0
  | r :: rs => r.data.length + total rs

theorem total_append (rs rs' : List Response) : total (rs ++ rs') = total rs + total rs' := by
  induction rs with
  | nil => exact (Nat.zero_add _).symm
  | cons r rs ih => rw [List.cons_append, total, total, ih, Nat.add_assoc]

/-- The bytes of some windows lie between two offsets, those of each window behind those of the
one before it. -/
inductive Laid : Nat → Nat → List Response → Prop where
  | nil {first last : Nat} : first ≤ last → Laid first last []
  | cons {first last : Nat} {r : Response} {rs : List Response} :
      first ≤ r.parsed.position.toNat →
      Laid (r.parsed.position.toNat + r.data.length) last rs → Laid first last (r :: rs)

namespace Laid

variable {first middle last : Nat} {rs rs' : List Response}

theorem mono {earlier : Nat} (h : Laid first last rs) (hle : earlier ≤ first) :
    Laid earlier last rs := by
  cases h with
  | nil hlast => exact .nil (Nat.le_trans hle hlast)
  | cons hfirst hrest => exact .cons (Nat.le_trans hle hfirst) hrest

theorem append (h : Laid first middle rs) (h' : Laid middle last rs') :
    Laid first last (rs ++ rs') := by
  induction h with
  | nil hle => exact h'.mono hle
  | cons hfirst _ ih => exact .cons hfirst (ih h')

/-- Between the two offsets there is room for all bytes. -/
theorem total_le (h : Laid first last rs) : first + total rs ≤ last := by
  induction h with
  | nil hle => exact hle
  | @cons first last r rs hfirst _ ih =>
    rw [total]
    omega

theorem le_position (h : Laid first last rs) : ∀ r ∈ rs, first ≤ r.parsed.position.toNat := by
  induction h with
  | nil hle => simp
  | cons hfirst hrest ih =>
    intro r hr
    rcases List.mem_cons.1 hr with rfl | hr
    · exact hfirst
    · exact Nat.le_trans (Nat.le_trans hfirst (Nat.le_add_right _ _)) (ih r hr)

/-- No window begins before the end of one that comes before it. -/
theorem pairwise (h : Laid first last rs) :
    rs.Pairwise fun a b => a.parsed.position.toNat + a.data.length ≤ b.parsed.position.toNat := by
  induction h with
  | nil hle => exact .nil
  | cons hfirst hrest ih => exact .cons hrest.le_position ih

end Laid

end Response

/-- What one window adds to the counts. -/
theorem Progress.beginRound_count_eq (p : Progress) (r : Response) :
    p.beginRound.count r
      = { rounds := p.rounds + 1
          chunksApplied := p.chunksApplied + (Response.written [r]).length
          bytesWritten := p.bytesWritten + Response.total (Response.written [r]) } := by
  by_cases h : r.data = []
  · rw [Response.written_of_nil h, count, if_pos (List.isEmpty_iff.2 h)]
    rfl
  · rw [Response.written_of_ne_nil h, count, if_neg (by simpa using h)]
    rfl

/-! ## Journals -/

namespace Journaled

variable {σ : Type} [Storage σ]

/-- To keep a journal changes nothing that a storage does. -/
theorem view_storage : Storage.View (σ := Journaled σ) (τ := σ) Journaled.storage where
  dataStart _ := rfl
  capacity _ := rfl
  nextWrite _ := rfl
  read _ _ _ := rfl
  write _ _ _ := rfl
  refresh _ := rfl

/-- An append that succeeds is noted as one write and one refresh. -/
theorem journal_of_append {j j' : Journaled σ} {offset : Offset} {data : Bytes}
    (h : Storage.append j offset data = (.ok (), j')) :
    j'.writes = j.writes ++ [offset] ∧ j'.refreshes = j.refreshes + 1 := by
  simp only [Storage.append, Storage.write] at h
  cases hw : Storage.write j.storage offset data with
  | mk result s =>
    rw [hw] at h
    cases result with
    | error e => cases h
    | ok u =>
      obtain ⟨_, rfl⟩ := Prod.mk.inj h
      exact ⟨rfl, rfl⟩

end Journaled

/-- A window that is appended lies between the first free offset before and the one after. -/
theorem FlatStorage.laid_of_append {σ : Type} [Storage σ] [FlatStorage σ] {s s' : σ} {f : Flat}
    {r : Response} (hs : FlatStorage.Keeps s f) (hf : f.Sound)
    (hguard : f.geometry.frontier ≤ r.parsed.position)
    (h : Storage.append s r.parsed.position r.data = (.ok (), s')) :
    ∃ g, FlatStorage.Keeps s' g ∧ g.Sound
      ∧ Response.Laid f.nextWrite.toNat g.nextWrite.toNat [r] := by
  rcases FlatStorage.append_cases r.parsed.position r.data hs with
    ⟨e, t, hfailed, _⟩ | ⟨t, hdone, hd, hfits, ht⟩
  · rw [h] at hfailed
    cases hfailed
  · rw [h] at hdone
    cases hdone
    have hbegin := hf.nextWrite_le_of_guarded hguard hd
    have hwritten := f.toNat_writtenEnd_write hfits
    have hend := (f.write r.parsed.position r.data).toNat_nextWrite_refresh
    exact ⟨_, ht, (hf.write _ _).refresh, .cons hbegin (.nil (by omega))⟩

/-- What a window that is applied leaves in the journal, and where it lies if nothing before the
frontier was asked for. -/
theorem Journaled.of_applyWindow {σ : Type} [Storage σ] [FlatStorage σ] {j j' : Journaled σ}
    {position : Offset} {r : Response} (h : applyWindow j position r = (.ok (), j')) :
    j'.writes = j.writes ++ (Response.written [r]).map (fun r => r.parsed.position)
      ∧ j'.refreshes = j.refreshes + (Response.written [r]).length
      ∧ ∀ f, FlatStorage.Keeps j.storage f → f.Sound → f.geometry.frontier ≤ position →
        ∃ g, FlatStorage.Keeps j'.storage g ∧ g.Sound
          ∧ Response.Laid f.nextWrite.toNat g.nextWrite.toNat (Response.written [r]) := by
  obtain ⟨hguard, ⟨hempty, rfl⟩ | ⟨hdata, happend⟩⟩ := applyWindow_ok_cases h
  · rw [Response.written_of_nil hempty]
    refine ⟨(List.append_nil _).symm, rfl, ?_⟩
    intro f hf hsound _
    exact ⟨f, hf, hsound, .nil (Nat.le_refl _)⟩
  · rw [Response.written_of_ne_nil hdata]
    obtain ⟨hwrites, hrefreshes⟩ := journal_of_append happend
    have hview := view_storage.append j r.parsed.position r.data
    rw [happend] at hview
    refine ⟨hwrites, hrefreshes, ?_⟩
    intro f hf hsound hle
    exact FlatStorage.laid_of_append hf hsound (UInt64.le_trans hle hguard) hview

namespace Session

/-! ## Accounts -/

section

variable {σ : Type} [Storage σ] [FlatStorage σ]

/-- What a session with a journaled storage and a script has done between two states, told by the
windows that were delivered. -/
structure Accounts (s t : Session (Journaled σ) Script) (windows : List Response) : Prop where
  lines : s.remote.lines.map ScriptLine.outcome
    = windows.map .ok ++ t.remote.lines.map ScriptLine.outcome
  requests : t.remote.requests.length = s.remote.requests.length + windows.length
  progress : t.progress
    = { rounds := s.progress.rounds + windows.length
        chunksApplied := s.progress.chunksApplied + (Response.written windows).length
        bytesWritten := s.progress.bytesWritten + Response.total (Response.written windows) }
  writes : t.storage.writes
    = s.storage.writes ++ (Response.written windows).map fun r => r.parsed.position
  refreshes : t.storage.refreshes = s.storage.refreshes + (Response.written windows).length
  laid : ∀ f, FlatStorage.Keeps s.storage.storage f → f.Sound →
    ∃ g, FlatStorage.Keeps t.storage.storage g ∧ g.Sound
      ∧ Response.Laid f.nextWrite.toNat g.nextWrite.toNat (Response.written windows)

namespace Accounts

theorem refl (s : Session (Journaled σ) Script) : Accounts s s [] where
  lines := rfl
  requests := rfl
  progress := rfl
  writes := (List.append_nil _).symm
  refreshes := rfl
  laid f hs hf := ⟨f, hs, hf, .nil (Nat.le_refl _)⟩

theorem trans {s t u : Session (Journaled σ) Script} {windows later : List Response}
    (h : Accounts s t windows) (h' : Accounts t u later) : Accounts s u (windows ++ later) where
  lines := by rw [h.lines, h'.lines, List.map_append, List.append_assoc]
  requests := by rw [h'.requests, h.requests, List.length_append, Nat.add_assoc]
  progress := by
    rw [h'.progress, h.progress, Response.written_append, Response.total_append,
      List.length_append, List.length_append]
    simp only [Nat.add_assoc]
  writes := by
    rw [h'.writes, h.writes, Response.written_append, List.map_append, List.append_assoc]
  refreshes := by
    rw [h'.refreshes, h.refreshes, Response.written_append, List.length_append, Nat.add_assoc]
  laid f hs hf := by
    obtain ⟨g, ht, hg, hlaid⟩ := h.laid f hs hf
    obtain ⟨g', hu, hg', hlaid'⟩ := h'.laid g ht hg
    rw [Response.written_append]
    exact ⟨g', hu, hg', hlaid.append hlaid'⟩

end Accounts

variable {options : SyncOptions} {deadline : Option Nat}

/-- A round that is completed is told by its window. -/
theorem accounts_of_round {s t : Session (Journaled σ) Script} {outcome : Outcome}
    (h : round options deadline s = (outcome, t)) (hdone : outcome = .more ∨ outcome = .finished) :
    ∃ r, Accounts s t [r] ∧ (outcome = .more ↔ r.parsed.more = true) := by
  obtain ⟨position, request, r, hreq, hr, hremote, happly, hprogress, hmore⟩ :=
    round_applied h hdone
  obtain ⟨line, rest, hlines, houtcome, hrest⟩ := Script.lines_of_fetch hr
  have hnoted := Script.notes s.remote request
  rw [← hremote] at hrest hnoted
  have hlines' : s.remote.lines.map ScriptLine.outcome
      = [r].map .ok ++ t.remote.lines.map ScriptLine.outcome := by
    rw [hlines, hrest, List.map_cons, houtcome]
    rfl
  have hrequests : t.remote.requests.length = s.remote.requests.length + [r].length := by
    rw [hnoted, List.length_append]
    rfl
  rw [Progress.beginRound_count_eq] at hprogress
  obtain ⟨hwrites, hrefreshes, hlaid⟩ := Journaled.of_applyWindow happly
  refine ⟨r, ⟨hlines', hrequests, hprogress, hwrites, hrefreshes, ?_⟩, hmore⟩
  intro f hs hf
  rw [← Journaled.view_storage.nextRequest] at hreq
  obtain ⟨rfl, _⟩ := SyncOptions.of_nextRequest hs hreq
  exact hlaid f hs hf (UInt64.le_refl _)

/-- Rounds that are completed are told by their windows. -/
theorem Completes.accounts {k : Nat} {s t : Session (Journaled σ) Script}
    (h : Completes options deadline k s t) :
    ∃ windows, Accounts s t windows ∧ ∀ r ∈ windows, r.parsed.more = true := by
  induction h with
  | none s => exact ⟨[], .refl s, by simp⟩
  | round hround _ ih =>
    obtain ⟨r, hfirst, hmore⟩ := accounts_of_round hround (Or.inl rfl)
    obtain ⟨windows, hlater, hall⟩ := ih
    refine ⟨r :: windows, hfirst.trans hlater, ?_⟩
    intro r' hr'
    rcases List.mem_cons.1 hr' with rfl | hr'
    · exact hmore.1 rfl
    · exact hall r' hr'

/-- A session that finishes is told by the windows up to the first which says that no more data
follows. -/
theorem accounts_of_run {limit : Nat} {s t : Session (Journaled σ) Script} {report : Report}
    (h : run options deadline limit s = (.finished report, t)) :
    ∃ windows last, Accounts s t (windows ++ [last])
      ∧ (∀ r ∈ windows, r.parsed.more = true) ∧ last.parsed.more = false
      ∧ report.progress = t.progress ∧ Storage.nextWrite t.storage = .ok report.finalPosition := by
  obtain ⟨k, u, hcompletes, hlimit | ⟨outcome, t', hround, hne, hrun⟩⟩ :=
    completes_of_run options deadline limit s
  · rw [hlimit] at h
    cases h
  · rw [hrun] at h
    obtain ⟨hending, rfl⟩ := Prod.mk.inj h
    obtain ⟨windows, hfirst, hall⟩ := hcompletes.accounts
    obtain ⟨rfl, hprogress, hfinal⟩ := Outcome.eq_finished_of_ending hending
    obtain ⟨last, hlast, hmore⟩ := accounts_of_round hround (Or.inr rfl)
    exact ⟨windows, last, hfirst.trans hlast, hall, by simpa using hmore, hprogress, hfinal⟩

end

/-- A session of a ledger in use with its journal, that is answered by any script, under any
deadline. If it finishes, then with the windows of the script up to and with the first that says
that no more data follows: there were as many rounds and as many requests as windows; there were
as many applied windows, writes and refreshes as windows with bytes; the writes were at the
positions of these, in order, none before the end of an earlier one; as many bytes were written as
they have; and these fit between the first free offset at the beginning and the one at the end,
which is the final position. -/
theorem run_accounted (options : SyncOptions) (deadline : Option Nat) (limit : Nat)
    (j : Journaled Ledger) (script : Script) (hj : j.storage.Reachable) {report : Report}
    {t : Session (Journaled Ledger) Script}
    (h : run options deadline limit { storage := j, remote := script } = (.finished report, t)) :
    ∃ windows last, (∀ r ∈ windows, r.parsed.more = true) ∧ last.parsed.more = false
      ∧ let replies := windows ++ [last]
        let written := Response.written replies
        (script.lines.take replies.length).map ScriptLine.outcome = replies.map .ok
        ∧ report.progress.rounds = replies.length
        ∧ t.remote.requests.length = script.requests.length + replies.length
        ∧ report.progress.chunksApplied = written.length
        ∧ t.storage.writes = j.writes ++ written.map (fun r => r.parsed.position)
        ∧ t.storage.refreshes = j.refreshes + written.length
        ∧ report.progress.bytesWritten = Response.total written
        ∧ written.Pairwise (fun a b =>
            a.parsed.position.toNat + a.data.length ≤ b.parsed.position.toNat)
        ∧ Storage.nextWrite t.storage = .ok report.finalPosition
        ∧ ∃ n, Storage.nextWrite j = .ok n
          ∧ n.toNat + report.progress.bytesWritten ≤ report.finalPosition.toNat := by
  obtain ⟨f, hf, hsound⟩ := hj.sound
  obtain ⟨windows, last, haccounts, hall, hlast, hprogress, hfinal⟩ := accounts_of_run h
  obtain ⟨g, hg, _, hlaid⟩ := haccounts.laid f hf hsound
  have hroom := hlaid.total_le
  have hend : g.nextWrite = report.finalPosition :=
    Except.ok.inj ((FlatStorage.nextWrite_eq hg).symm.trans hfinal)
  rw [haccounts.progress] at hprogress
  rw [hprogress]
  refine ⟨windows, last, hall, hlast, ?_, Nat.zero_add _, haccounts.requests, Nat.zero_add _,
    haccounts.writes, haccounts.refreshes, Nat.zero_add _, hlaid.pairwise, hfinal, f.nextWrite,
    FlatStorage.nextWrite_eq (s := j.storage) hf, ?_⟩
  · have hlines := haccounts.lines
    rw [List.map_take, hlines, List.take_left' (List.length_map _)]
  · rw [hend] at hroom
    simpa using hroom

/-- A script that leaves gaps, has an empty window in between and goes on after the window that
ends the session. -/
def gaps : Session (Journaled Ledger) Script where
  storage := { storage := .buffer (BufferLedger.ofContents 2 0 [1]).refresh }
  remote :=
    { lines :=
        [{ outcome := .ok { cursor := "position=5&more=true", data := [7, 7] } },
          { outcome := .ok { cursor := "position=8&more=true" } },
          { outcome := .ok { cursor := "position=9&response_bytes=4", data := [8] } },
          { outcome := .ok { cursor := "position=0", data := [9] } }] }

/-- Of the three windows that are received two are written. -/
theorem run_accounted_gaps :
    gaps.storage.storage.Reachable
      ∧ (run {} none 4 gaps).1
        = .finished { progress := { rounds := 3, chunksApplied := 2, bytesWritten := 3 }
                      finalPosition := 10 }
      ∧ (run {} none 4 gaps).2.storage.writes = [5, 9]
      ∧ ∃ windows last : List Response, (windows ++ last).length = 3
        ∧ (gaps.remote.lines.take 3).map ScriptLine.outcome = (windows ++ last).map .ok
        ∧ (Response.written (windows ++ last)).map (fun r => r.parsed.position) = [5, 9] := by
  have hreach : gaps.storage.storage.Reachable := ⟨2, 0, [1], _, rfl, .start⟩
  have hending : (run {} none 4 gaps).1
      = .finished { progress := { rounds := 3, chunksApplied := 2, bytesWritten := 3 }
                    finalPosition := 10 } := by decide +kernel
  have hwrites : (run {} none 4 gaps).2.storage.writes = [5, 9] := by decide +kernel
  have hrun : run {} none 4 gaps
      = (.finished { progress := { rounds := 3, chunksApplied := 2, bytesWritten := 3 }
                     finalPosition := 10 }, (run {} none 4 gaps).2) := by rw [← hending]
  obtain ⟨windows, last, _, _, hlines, hrounds, _, _, hnoted, _⟩ :=
    run_accounted {} none 4 gaps.storage gaps.remote hreach hrun
  rw [← hrounds] at hlines
  rw [hwrites] at hnoted
  exact ⟨hreach, hending, hwrites, windows, [last], hrounds.symm, hlines, hnoted.symm⟩

end Session

end ByteLedger
