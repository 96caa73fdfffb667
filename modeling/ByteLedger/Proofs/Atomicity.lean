import ByteLedger.Proofs.AppendOnly
import ByteLedger.Proofs.Requests
import ByteLedger.Replica.Basic
import Mathlib.Control.Monad.Basic

set_option autoImplicit false

/-!
# Syncs that fail

A sync that fails, or that its deadline cuts, leaves whole windows behind: those of the rounds
that were completed before, one write and one refresh each, and nothing of the round that
failed (`Replica.sync_atomic`). A window is written before it is counted, and the two could
come apart; they do not, because a write that fails changes nothing and a refresh of a ledger
in use does not fail.

What carries the induction is `Session.Completes`: the state after so many completed rounds.
-/

namespace ByteLedger

/-! ## Failed appends -/

namespace Ledger

variable {l l' : Ledger} {f : Flat} {offset : Offset} {data : Bytes} {e : StorageError}

/-- A write that fails changes nothing, whatever the kind of the ledger. -/
theorem eq_of_write_error (h : Storage.write l offset data = (.error e, l')) : l' = l := by
  cases l with
  | buffer l =>
    rw [write_buffer] at h
    obtain ⟨hresult, rfl⟩ := Prod.mk.inj h
    exact congrArg buffer (Storage.eq_of_orKeep_error (s := l) (Prod.ext hresult rfl))
  | paged l =>
    rw [write_paged] at h
    obtain ⟨hresult, rfl⟩ := Prod.mk.inj h
    exact congrArg paged (Storage.eq_of_orKeep_error (s := l) (Prod.ext hresult rfl))

/-- An append that fails has failed to write, so it changes nothing. -/
theorem eq_of_append_error (hl : FlatStorage.Keeps l f)
    (h : Storage.append l offset data = (.error e, l')) : l' = l := by
  unfold Storage.append at h
  rcases FlatStorage.write_cases offset data hl with ⟨e', s', hw, _⟩ | ⟨s', hw, _, _, hs'⟩
  · rw [hw] at h
    cases h
    exact eq_of_write_error hw
  · obtain ⟨s'', hr, _⟩ := FlatStorage.refresh_ok hs'
    rw [hw] at h
    simp only at h
    rw [hr] at h
    cases h

/-- So does a window that cannot be applied. -/
theorem eq_of_applyWindow_error {position : Offset} {r : Response} {cause : SyncError}
    (hl : FlatStorage.Keeps l f) (h : applyWindow l position r = (.error cause, l')) :
    l' = l := by
  rcases applyWindow_cases l position r with
    ⟨_, happly⟩ | ⟨_, _, happly⟩ | ⟨_, _, hstorage, hresult⟩
  · rw [happly] at h
    exact (Prod.mk.inj h).2.symm
  · rw [happly] at h
    cases h
  · rw [h] at hstorage hresult
    cases happend : Storage.append l r.parsed.position r.data with
    | mk result l'' =>
      rw [happend] at hstorage hresult
      cases result with
      | error e =>
        rw [show l' = l'' from hstorage]
        exact eq_of_append_error hl happend
      | ok u => cases hresult

end Ledger

/-! ## Appending windows -/

/-- The storage after some windows were appended one after the other, each as one write and
one refresh at its own position. An empty window is not appended. -/
def Storage.appendAll {σ : Type} [Storage σ] (s : σ) : List Response → Except StorageError σ
  | [] => .ok s
  | r :: rs =>
    if r.data.isEmpty then appendAll s rs
    else
      match Storage.append s r.parsed.position r.data with
      | (.error e, _) => .error e
      | (.ok (), s) => appendAll s rs

/-- A window that is applied is appended. -/
theorem Storage.appendAll_cons {σ : Type} [Storage σ] {s s' : σ} {position : Offset}
    {r : Response} (h : applyWindow s position r = (.ok (), s')) (rs : List Response) :
    appendAll s (r :: rs) = appendAll s' rs := by
  obtain ⟨_, ⟨hempty, rfl⟩ | ⟨hdata, happend⟩⟩ := applyWindow_ok_cases h
  · rw [appendAll, if_pos (List.isEmpty_iff.2 hempty)]
  · rw [appendAll, if_neg (by simpa using hdata), happend]

/-! ## Scripts as remotes -/

namespace Script

theorem fetch_eq (s : Script) (request : Request) : Remote.fetch s request = s.next request := rfl

/-- A script keeps every request, also when its lines have run out. -/
theorem notes : Remote.Notes Script.requests := by
  intro s request
  rw [fetch_eq, next]
  cases s.lines with
  | nil => rfl
  | cons line rest => rfl

/-- A window that a script delivers is that of its first line, which is taken. -/
theorem lines_of_fetch {s : Script} {request : Request} {r : Response}
    (h : (Remote.fetch s request).outcome = .ok r) :
    ∃ line rest, s.lines = line :: rest ∧ line.outcome = .ok r
      ∧ (Remote.fetch s request).remote.lines = rest := by
  rw [fetch_eq] at h ⊢
  cases hlines : s.lines with
  | nil =>
    rw [next, hlines] at h
    cases h
  | cons line rest =>
    rw [next, hlines] at h ⊢
    exact ⟨line, rest, rfl, h, rfl⟩

end Script

/-! ## Completed rounds -/

namespace Session

section

variable {σ ρ : Type} [Storage σ] [Remote ρ] {options : SyncOptions} {deadline : Option Nat}

/-- `t` is what `s` becomes by so many rounds, each of which was completed and says that more
data follows. -/
inductive Completes (options : SyncOptions) (deadline : Option Nat) :
    Nat → Session σ ρ → Session σ ρ → Prop where
  | none (s : Session σ ρ) : Completes options deadline 0 s s
  | round {k : Nat} {s t u : Session σ ρ} : Session.round options deadline s = (.more, t) →
      Completes options deadline k t u → Completes options deadline (k + 1) s u

/-- A session is some completed rounds, and after them one more round that ends it, unless the
limit was reached. -/
theorem completes_of_run (options : SyncOptions) (deadline : Option Nat) (limit : Nat)
    (s : Session σ ρ) :
    ∃ k u, Completes options deadline k s u
      ∧ (run options deadline limit s = (.unfinished, u)
        ∨ ∃ outcome t, Session.round options deadline u = (outcome, t) ∧ outcome ≠ .more
          ∧ run options deadline limit s = (outcome.ending t, t)) := by
  induction limit generalizing s with
  | zero => exact ⟨0, s, .none s, Or.inl rfl⟩
  | succ limit ih =>
    rcases run_succ_cases options deadline limit s with ⟨t, hround, hrun⟩ | hlast
    · obtain ⟨k, u, hcompletes, hrest⟩ := ih t
      rw [hrun]
      exact ⟨k + 1, u, .round hround hcompletes, hrest⟩
    · exact ⟨0, s, .none s, Or.inr hlast⟩

/-- What every round keeps, completed rounds keep. -/
theorem Completes.invariant {P : σ → Prop} {k : Nat} {s t : Session σ ρ}
    (h : Completes options deadline k s t)
    (hround : ∀ u : Session σ ρ, P u.storage → P (Session.round options deadline u).2.storage)
    (hs : P s.storage) : P t.storage := by
  induction h with
  | none s => exact hs
  | round hmore _ ih =>
    have hstep := hround _ hs
    rw [hmore] at hstep
    exact ih hstep

end

/-! ## Ledgers -/

/-- The report on a ledger does not fail. -/
theorem report_ledger {ρ : Type} (s : Session Ledger ρ) :
    ∃ report, s.report = .finished report := by
  unfold report
  cases s.storage with
  | buffer l => exact ⟨_, rfl⟩
  | paged l => exact ⟨_, rfl⟩

section

variable {ρ : Type} [Remote ρ] {options : SyncOptions} {deadline : Option Nat}

/-- A round of a ledger that does not complete leaves no trace in it. -/
theorem storage_of_round_failed {s t : Session Ledger ρ} {f : Flat} {outcome : Outcome}
    (hs : FlatStorage.Keeps s.storage f) (h : round options deadline s = (outcome, t))
    (hmore : outcome ≠ .more) (hfinished : outcome ≠ .finished) : t.storage = s.storage := by
  rcases round_cases h with
    ⟨_, _, _, hsame, _⟩
      | ⟨position, request, _, _, ⟨hsame, _⟩ | ⟨r, _, ⟨e, happly, _⟩ | ⟨_, _, houtcome⟩⟩⟩
  · exact hsame
  · exact hsame
  · exact Ledger.eq_of_applyWindow_error hs happly
  · rw [houtcome] at hmore hfinished
    split at hmore
    · exact absurd rfl hmore
    · exact absurd (if_neg ‹_›) hfinished

end

/-! ## Scripts -/

section

variable {σ : Type} [Storage σ] {options : SyncOptions} {deadline : Option Nat}

/-- A completed round takes a line of the script and appends its window. -/
theorem script_of_round_more {s t : Session σ Script}
    (h : round options deadline s = (.more, t)) :
    ∃ line rest r, s.remote.lines = line :: rest ∧ line.outcome = .ok r
      ∧ t.remote.lines = rest
      ∧ ∀ rs, Storage.appendAll s.storage (r :: rs) = Storage.appendAll t.storage rs := by
  obtain ⟨position, request, r, _, hr, hremote, happly, _⟩ := round_applied h (Or.inl rfl)
  obtain ⟨line, rest, hlines, houtcome, hrest⟩ := Script.lines_of_fetch hr
  exact ⟨line, rest, r, hlines, houtcome, by rw [hremote, hrest], Storage.appendAll_cons happly⟩

/-- The rounds completed with a script have appended the windows of its first lines. -/
theorem Completes.appendAll {k : Nat} {s t : Session σ Script}
    (h : Completes options deadline k s t) :
    ∃ rs : List Response, rs.length = k
      ∧ (s.remote.lines.take k).map ScriptLine.outcome = rs.map .ok
      ∧ Storage.appendAll s.storage rs = .ok t.storage := by
  induction h with
  | none s => exact ⟨[], rfl, rfl, rfl⟩
  | round hmore _ ih =>
    obtain ⟨line, rest, r, hlines, houtcome, hrest, hstep⟩ := script_of_round_more hmore
    obtain ⟨rs, hlength, hmap, hall⟩ := ih
    rw [hrest] at hmap
    refine ⟨r :: rs, by rw [List.length_cons, hlength], ?_, ?_⟩
    · rw [hlines, List.take_succ_cons, List.map_cons, List.map_cons, houtcome, hmap]
    · rw [hstep, hall]

end

end Session

/-! ## Failed syncs -/

namespace Replica

theorem one_le_roundLimit : 1 ≤ roundLimit := Nat.one_le_two_pow

theorem sync_eq (r : Replica Ledger Script) :
    r.sync
      = (r.syncOutcome
          (Session.run r.options.sync r.options.deadline roundLimit r.session).1,
        r.afterSession
          (Session.run r.options.sync r.options.deadline roundLimit r.session).2) := by
  unfold sync
  cases Session.run r.options.sync r.options.deadline roundLimit r.session with
  | mk ending t => rfl

/-- A sync that fails has completed some rounds, and the next one failed or expired and left no
trace. -/
theorem completes_of_sync_error {r : Replica Ledger Script} {f : Flat}
    (hkeeps : FlatStorage.Keeps r.storage f) (hf : f.Sound) {cause : ReplicaError}
    (h : r.sync.1 = some (.error cause)) :
    ∃ k s t, Session.Completes r.options.sync r.options.deadline k r.session s
      ∧ ((∃ e, cause = .sync e
          ∧ Session.round r.options.sync r.options.deadline s = (.failed e, t))
        ∨ (cause = .deadlineExceeded (r.options.deadline.getD 0)
          ∧ Session.round r.options.sync r.options.deadline s = (.expired, t)))
      ∧ r.sync.2 = r.afterSession t
      ∧ t.storage = s.storage := by
  obtain ⟨k, s, hcompletes, hrun⟩ :=
    Session.completes_of_run r.options.sync r.options.deadline roundLimit r.session
  obtain ⟨g, hs, _⟩ := hcompletes.invariant (P := fun l => ∃ g, FlatStorage.Keeps l g ∧ g.Sound)
    (fun u ⟨g, hu, hg⟩ => by
      obtain ⟨g', hu', hg', _⟩ :=
        Session.round_extends r.options.sync r.options.deadline hu hg
      exact ⟨g', hu', hg'⟩)
    ⟨f, hkeeps, hf⟩
  rw [sync_eq] at h ⊢
  rcases hrun with hlimit | ⟨outcome, t, hround, hne, hrun⟩
  · rw [hlimit] at h
    cases h
  · rw [hrun] at h ⊢
    cases outcome with
    | more => exact absurd rfl hne
    | finished =>
      obtain ⟨report, hreport⟩ := Session.report_ledger t
      rw [Session.Outcome.ending, hreport] at h
      cases h
    | failed e =>
      cases h
      exact ⟨k, s, t, hcompletes, Or.inl ⟨e, rfl, hround⟩, rfl,
        Session.storage_of_round_failed hs hround (by simp) (by simp)⟩
    | expired =>
      cases h
      exact ⟨k, s, t, hcompletes, Or.inr ⟨rfl, hround⟩, rfl,
        Session.storage_of_round_failed hs hround (by simp) (by simp)⟩
    | unanswered => cases h

/-- A sync of a ledger in use that fails, with any script and under any deadline. Some number
of rounds was completed, and the next round is the one that fails or is cut. The ledger is then
what becomes of the windows of the completed rounds, appended in order, one write and one
refresh each. The next sync, with whatever script, first asks for the position at which this
ledger resumes; it asks at all unless the bytes that should go along cannot be held. -/
theorem sync_atomic (r : Replica Ledger Script) (hr : r.storage.Reachable)
    {cause : ReplicaError} (h : r.sync.1 = some (.error cause)) :
    ∃ k s t windows, Session.Completes r.options.sync r.options.deadline k r.session s
      ∧ ((∃ e, cause = .sync e
          ∧ Session.round r.options.sync r.options.deadline s = (.failed e, t))
        ∨ (cause = .deadlineExceeded (r.options.deadline.getD 0)
          ∧ Session.round r.options.sync r.options.deadline s = (.expired, t)))
      ∧ r.sync.2 = r.afterSession t
      ∧ windows.length = k
      ∧ (r.remote.lines.take k).map ScriptLine.outcome = windows.map .ok
      ∧ Storage.appendAll r.storage windows = .ok r.sync.2.storage
      ∧ ∃ g, Storage.geometry r.sync.2.storage = .ok g
        ∧ ∀ script : Script, ∃ made,
            ({ r.sync.2 with remote := script } : Replica Ledger Script).sync.2.remote.requests
              = script.requests ++ made
            ∧ (∀ request ∈ made.head?,
                request.position? = some (g.resume r.options.sync.window).position)
            ∧ (r.options.sync.lookBack.toNat < 2 ^ 48 → made ≠ []) := by
  obtain ⟨f, hkeeps, hf⟩ := hr.sound
  obtain ⟨k, s, t, hcompletes, hlast, hafter, hsame⟩ := completes_of_sync_error hkeeps hf h
  obtain ⟨windows, hlength, hlines, happended⟩ := hcompletes.appendAll
  obtain ⟨f', hkeeps', _, _⟩ := Session.run_extends r.options.sync r.options.deadline roundLimit
    (s := r.session) hkeeps hf
  have hkept : FlatStorage.Keeps r.sync.2.storage f' := by
    rw [sync_eq]
    exact hkeeps'
  have hgeometry := FlatStorage.geometry_eq hkept
  refine ⟨k, s, t, windows, hcompletes, hlast, hafter, hlength, hlines, ?_, f'.geometry,
    hgeometry, ?_⟩
  · rw [hafter]
    rw [← hsame] at happended
    exact happended
  · intro script
    rw [sync_eq]
    cases hreq : r.options.sync.nextRequest r.sync.2.storage with
    | error e =>
      refine ⟨[], ?_, by simp, ?_⟩
      · rw [List.append_nil]
        exact Session.requests_run_of_error Script.requests
          (s := { storage := r.sync.2.storage, remote := script }) hreq one_le_roundLimit
      · intro hback
        rw [SyncOptions.nextRequest_eq hkept hback] at hreq
        cases hreq
    | ok ask =>
      obtain ⟨later, hlater⟩ := Session.requests_run_of_ok Script.notes r.options.deadline
        (s := { storage := r.sync.2.storage, remote := script }) hreq one_le_roundLimit
      refine ⟨ask.2 :: later, hlater, ?_, fun _ => List.cons_ne_nil _ _⟩
      intro request hrequest
      cases hrequest
      exact SyncOptions.position?_of_nextRequest hgeometry hreq

/-- A replica whose remote sends a window past the frontier, and then nothing in time. -/
def stalled : Replica Ledger Script where
  storage := .buffer (BufferLedger.ofContents 2 0 [1, 2, 3]).refresh
  remote :=
    { lines :=
        [{ outcome := .ok { cursor := "position=6&more=true", data := [7] } },
          { delay := none, outcome := .error (.refused "") }] }
  options := { deadline := some 5 }

/-- The window that came stays. -/
theorem sync_atomic_stalled :
    stalled.storage.Reachable ∧ stalled.sync.1 = some (.error (.deadlineExceeded 5))
    ∧ ∃ windows : List Response,
      (stalled.remote.lines.take windows.length).map ScriptLine.outcome = windows.map .ok
      ∧ Storage.appendAll stalled.storage windows = .ok stalled.sync.2.storage := by
  have hreach : stalled.storage.Reachable := ⟨2, 0, [1, 2, 3], _, rfl, .start⟩
  have hsync : stalled.sync.1 = some (.error (.deadlineExceeded 5)) := by
    decide +kernel
  obtain ⟨k, _, _, windows, _, _, _, hlength, hlines, happended, _⟩ :=
    sync_atomic stalled hreach hsync
  rw [← hlength] at hlines
  exact ⟨hreach, hsync, windows, hlines, happended⟩

end Replica

end ByteLedger
