import ByteLedger.Proofs.Flat
import ByteLedger.Proofs.Window
import ByteLedger.Sync.Session

set_option autoImplicit false

/-!
# What a round can do

Whatever the remote answers, a round leaves the storage as it was or appends one window to
it, at the window's own position, which is not before the position that was asked for
(`Session.storage_round`). All that a round can come to is `Session.round_cases`. Statements
about whole sessions follow by induction on the rounds (`Session.run_succ_cases`), and a view
of the storage that commutes with its operations is kept by sessions.
-/

namespace ByteLedger

/-! ## Asking -/

section

variable {σ : Type} [Storage σ] [FlatStorage σ]

/-- A storage that can ask asks for its own frontier. -/
theorem SyncOptions.of_nextRequest {options : SyncOptions} {s : σ} {f : Flat} {position : Offset}
    {request : Request} (h : FlatStorage.Keeps s f)
    (hreq : options.nextRequest s = .ok (position, request)) :
    position = f.geometry.frontier
      ∧ ∃ before, options.bytesBefore s position = .ok before
        ∧ request = .ofCursor (.caughtUp position) before := by
  unfold SyncOptions.nextRequest at hreq
  rw [FlatStorage.geometry_eq h] at hreq
  simp only at hreq
  rw [Geometry.resume_eq] at hreq
  cases hbefore : options.bytesBefore s f.geometry.frontier with
  | error e =>
    rw [show (Cursor.caughtUp f.geometry.frontier).position = f.geometry.frontier from rfl,
      hbefore] at hreq
    cases hreq
  | ok before =>
    rw [show (Cursor.caughtUp f.geometry.frontier).position = f.geometry.frontier from rfl,
      hbefore] at hreq
    cases hreq
    exact ⟨rfl, before, hbefore, rfl⟩

/-- How many bytes go along with a request for a position. -/
def SyncOptions.sent (options : SyncOptions) (position : Offset) : Nat :=
  if position.toNat ≤ options.lookBack.toNat then 0 else options.lookBack.toNat

theorem SyncOptions.sent_le (options : SyncOptions) (position : Offset) :
    options.sent position ≤ position.toNat ∧ options.sent position ≤ options.lookBack.toNat := by
  unfold sent
  split <;> omega

/-- The bytes that go along with a request. -/
theorem SyncOptions.bytesBefore_eq {options : SyncOptions} {s : σ} {f : Flat} {position : Offset}
    (h : FlatStorage.Keeps s f) (hcap : position.toNat ≤ f.capacity.toNat)
    (hback : options.lookBack.toNat < 2 ^ 48) :
    options.bytesBefore s position
      = .ok (Bytes.before? f.byte position.toNat (options.sent position)) := by
  by_cases hzero : options.lookBack = 0 ∨ position ≤ options.lookBack
  · have hsent : options.sent position = 0 := by
      unfold sent
      rcases hzero with hzero | hle
      · rw [hzero, UInt64.toNat_zero, ite_self]
      · rw [if_pos (UInt64.le_iff_toNat_le.1 hle)]
    rw [bytesBefore, if_pos hzero, hsent, Bytes.before?, if_pos rfl]
  · have hback' : options.lookBack.toNat ≠ 0 := by
      intro heq
      exact hzero (Or.inl (UInt64.toNat_inj.1 heq))
    have hlt : ¬ position.toNat ≤ options.lookBack.toNat := by
      intro hle
      exact hzero (Or.inr (UInt64.le_iff_toNat_le.2 hle))
    have hsub : (position - options.lookBack).toNat
        = position.toNat - options.lookBack.toNat := by
      apply UInt64.toNat_sub_of_le
      rw [UInt64.le_iff_toNat_le]
      omega
    have hsent : options.sent position = options.lookBack.toNat := if_neg hlt
    rw [bytesBefore, if_neg hzero, FlatStorage.read_eq h (by omega) hback, hsub, hsent,
      Bytes.before?, if_neg hback']

/-- The request of a storage: its frontier, with the bytes before it. -/
theorem SyncOptions.nextRequest_eq {options : SyncOptions} {s : σ} {f : Flat}
    (h : FlatStorage.Keeps s f) (hback : options.lookBack.toNat < 2 ^ 48) :
    options.nextRequest s
      = .ok (f.geometry.frontier, .ofCursor (.caughtUp f.geometry.frontier)
          (Bytes.before? f.byte f.geometry.frontier.toNat
            (options.sent f.geometry.frontier))) := by
  have hbefore := bytesBefore_eq h f.frontier_le_capacity hback
  unfold nextRequest
  rw [FlatStorage.geometry_eq h]
  simp only
  rw [Geometry.resume_eq]
  rw [show (Cursor.caughtUp f.geometry.frontier).position = f.geometry.frontier from rfl, hbefore]

end

/-! ## One round -/

section

variable {σ : Type} [Storage σ]

/-- What becomes of a window: it is refused because it begins too early, it is empty, or it
is appended at its own position. -/
theorem applyWindow_cases (s : σ) (position : Offset) (r : Response) :
    (r.parsed.position < position
        ∧ applyWindow s position r = (.error (.behind position r.parsed.position), s))
      ∨ (position ≤ r.parsed.position ∧ r.data = [] ∧ applyWindow s position r = (.ok (), s))
      ∨ (position ≤ r.parsed.position ∧ r.data ≠ []
        ∧ (applyWindow s position r).2 = (Storage.append s r.parsed.position r.data).2
        ∧ (applyWindow s position r).1
            = (Storage.append s r.parsed.position r.data).1.mapError .storage) := by
  unfold applyWindow
  split
  · rename_i h
    exact Or.inl ⟨h, rfl⟩
  · rename_i h
    have hle : position ≤ r.parsed.position := by
      rw [UInt64.lt_iff_toNat_lt] at h
      rw [UInt64.le_iff_toNat_le]
      omega
    right
    split
    · rename_i hempty
      exact Or.inl ⟨hle, List.isEmpty_iff.1 hempty, rfl⟩
    · rename_i hne
      refine Or.inr ⟨hle, ?_, ?_⟩
      · intro hnil
        exact hne (List.isEmpty_iff.2 hnil)
      · cases Storage.append s r.parsed.position r.data with
        | mk result s' =>
          cases result with
          | error e => exact ⟨rfl, rfl⟩
          | ok u => exact ⟨rfl, rfl⟩

/-- A window that is applied does not begin before the position that was asked for. Without bytes
it changes nothing; with bytes it is appended. -/
theorem applyWindow_ok_cases {s s' : σ} {position : Offset} {r : Response}
    (h : applyWindow s position r = (.ok (), s')) :
    position ≤ r.parsed.position
      ∧ (r.data = [] ∧ s' = s
        ∨ r.data ≠ [] ∧ Storage.append s r.parsed.position r.data = (.ok (), s')) := by
  rcases applyWindow_cases s position r with
    ⟨_, happly⟩ | ⟨hle, hempty, happly⟩ | ⟨hle, hdata, hstorage, hresult⟩
  · rw [happly] at h
    cases h
  · rw [happly] at h
    cases h
    exact ⟨hle, Or.inl ⟨hempty, rfl⟩⟩
  · rw [h] at hstorage hresult
    refine ⟨hle, Or.inr ⟨hdata, ?_⟩⟩
    cases happend : Storage.append s r.parsed.position r.data with
    | mk result s'' =>
      rw [happend] at hstorage hresult
      cases result with
      | error e => cases hresult
      | ok u => rw [show s' = s'' from hstorage]

/-- What comes of a delivery: it is an error, or a window that can be applied or not. -/
theorem Session.receive_cases {ρ : Type} (s : Session σ ρ) (position : Offset)
    (outcome : Except SyncError Response) :
    (∃ e, outcome = .error e ∧ receive s position outcome = (.failed e, s))
      ∨ ∃ r s', outcome = .ok r
        ∧ ((∃ e, applyWindow s.storage position r = (.error e, s')
            ∧ receive s position outcome = (.failed e, { s with storage := s' }))
          ∨ (applyWindow s.storage position r = (.ok (), s')
            ∧ receive s position outcome
              = (if r.parsed.more then .more else .finished,
                  { s with storage := s', progress := s.progress.count r }))) := by
  cases outcome with
  | error e => exact Or.inl ⟨e, rfl, rfl⟩
  | ok r =>
    cases happly : applyWindow s.storage position r with
    | mk result s' =>
      refine Or.inr ⟨r, s', rfl, ?_⟩
      cases result with
      | error e => exact Or.inl ⟨e, happly, by simp only [receive, happly]⟩
      | ok u => exact Or.inr ⟨happly, by simp only [receive, happly]⟩

end

namespace Session

variable {σ ρ : Type} [Storage σ] [Remote ρ]

/-- What a round can do. It cannot ask, or it asks and comes to nothing, because the fetch
fails or is not answered in time, or it asks and gets a window, which can be applied or not. -/
theorem round_cases {options : SyncOptions} {deadline : Option Nat} {s t : Session σ ρ}
    {outcome : Outcome} (h : round options deadline s = (outcome, t)) :
    (∃ e, options.nextRequest s.storage = .error e ∧ outcome = .failed (.storage e)
        ∧ t.storage = s.storage ∧ t.remote = s.remote)
      ∨ ∃ position request, options.nextRequest s.storage = .ok (position, request)
        ∧ t.remote = (Remote.fetch s.remote request).remote
        ∧ ((t.storage = s.storage
            ∧ (outcome = (if deadline.isSome then .expired else .unanswered)
              ∨ ∃ e, (Remote.fetch s.remote request).outcome = .error e ∧ outcome = .failed e))
          ∨ ∃ r, (Remote.fetch s.remote request).outcome = .ok r
            ∧ ((∃ e, applyWindow s.storage position r = (.error e, t.storage)
                ∧ outcome = .failed e)
              ∨ (applyWindow s.storage position r = (.ok (), t.storage)
                ∧ t.progress = s.progress.beginRound.count r
                ∧ outcome = if r.parsed.more then .more else .finished))) := by
  cases hreq : options.nextRequest s.storage with
  | error e =>
    simp only [round, hreq] at h
    cases h
    exact Or.inl ⟨e, rfl, rfl, rfl, rfl⟩
  | ok ask =>
    obtain ⟨position, request⟩ := ask
    refine Or.inr ⟨position, request, rfl, ?_⟩
    cases harrival : arrival? deadline s.elapsed (Remote.fetch s.remote request).delay with
    | none =>
      simp only [round, hreq, harrival] at h
      cases h
      exact ⟨rfl, Or.inl ⟨rfl, Or.inl rfl⟩⟩
    | some now =>
      simp only [round, hreq, harrival] at h
      rcases receive_cases
          { s with
            progress := s.progress.beginRound
            remote := (Remote.fetch s.remote request).remote
            elapsed := now }
          position (Remote.fetch s.remote request).outcome with
        ⟨e, he, hreceive⟩ | ⟨r, s', hr, ⟨e, happly, hreceive⟩ | ⟨happly, hreceive⟩⟩
      · rw [hreceive] at h
        cases h
        exact ⟨rfl, Or.inl ⟨rfl, Or.inr ⟨e, he, rfl⟩⟩⟩
      · rw [hreceive] at h
        cases h
        exact ⟨rfl, Or.inr ⟨r, hr, Or.inl ⟨e, happly, rfl⟩⟩⟩
      · rw [hreceive] at h
        cases h
        exact ⟨rfl, Or.inr ⟨r, hr, Or.inr ⟨happly, rfl, rfl⟩⟩⟩

/-- A round that is completed asked, got a window, applied it and counted it. -/
theorem round_applied {options : SyncOptions} {deadline : Option Nat} {s t : Session σ ρ}
    {outcome : Outcome} (h : round options deadline s = (outcome, t))
    (hdone : outcome = .more ∨ outcome = .finished) :
    ∃ position request r, options.nextRequest s.storage = .ok (position, request)
      ∧ (Remote.fetch s.remote request).outcome = .ok r
      ∧ t.remote = (Remote.fetch s.remote request).remote
      ∧ applyWindow s.storage position r = (.ok (), t.storage)
      ∧ t.progress = s.progress.beginRound.count r
      ∧ (outcome = .more ↔ r.parsed.more = true) := by
  rcases round_cases h with
    ⟨e, _, rfl, _⟩ | ⟨position, request, hreq, hremote, ⟨_, rfl | ⟨e, _, rfl⟩⟩ | ⟨r, hr, hresult⟩⟩
  · simp at hdone
  · cases deadline <;> simp at hdone
  · simp at hdone
  · rcases hresult with ⟨e, _, rfl⟩ | ⟨happly, hprogress, rfl⟩
    · simp at hdone
    · refine ⟨position, request, r, hreq, hr, hremote, happly, hprogress, ?_⟩
      cases r.parsed.more <;> simp

/-- A round leaves the storage, or appends a window at or past the position asked for. -/
theorem storage_round (options : SyncOptions) (deadline : Option Nat) (s : Session σ ρ) :
    (round options deadline s).2.storage = s.storage
      ∨ ∃ position request, options.nextRequest s.storage = .ok (position, request)
        ∧ ∃ r : Response, position ≤ r.parsed.position
          ∧ (round options deadline s).2.storage
              = (Storage.append s.storage r.parsed.position r.data).2 := by
  rcases round_cases (Prod.eta (round options deadline s)).symm with
    ⟨_, _, _, hsame, _⟩ | ⟨position, request, hreq, _, ⟨hsame, _⟩ | ⟨r, _, happlied⟩⟩
  · exact Or.inl hsame
  · exact Or.inl hsame
  · have hstorage : (round options deadline s).2.storage
        = (applyWindow s.storage position r).2 := by
      rcases happlied with ⟨e, happly, _⟩ | ⟨happly, _⟩
      · rw [happly]
      · rw [happly]
    rw [hstorage]
    rcases applyWindow_cases s.storage position r with
      ⟨_, happly⟩ | ⟨_, _, happly⟩ | ⟨hle, _, happly, _⟩
    · exact Or.inl (by rw [happly])
    · exact Or.inl (by rw [happly])
    · exact Or.inr ⟨position, request, hreq, r, hle, happly⟩

/-- A delivery at once comes before a deadline that has not passed. -/
theorem arrival?_of_le {deadline : Option Nat} {elapsed : Nat}
    (h : ∀ limit, deadline = some limit → elapsed ≤ limit) :
    arrival? deadline elapsed (some 0) = some elapsed := by
  cases deadline with
  | none => rfl
  | some limit => exact if_pos (h limit rfl)

/-- A round whose fetch is answered at once, before the deadline, receives the answer. -/
theorem round_of_fetch_within {options : SyncOptions} {deadline : Option Nat} {s : Session σ ρ}
    {position : Offset} {request : Request} {outcome : Except SyncError Response} {remote : ρ}
    (hdeadline : ∀ limit, deadline = some limit → s.elapsed ≤ limit)
    (hreq : options.nextRequest s.storage = .ok (position, request))
    (hfetch : Remote.fetch s.remote request = { outcome, remote }) :
    round options deadline s
      = receive { s with progress := s.progress.beginRound, remote } position outcome := by
  unfold round
  simp only [hreq, hfetch]
  rw [arrival?_of_le hdeadline]

/-- A round whose fetch is answered at once receives the answer. -/
theorem round_of_fetch {options : SyncOptions} {s : Session σ ρ} {position : Offset}
    {request : Request} {outcome : Except SyncError Response} {remote : ρ}
    (hreq : options.nextRequest s.storage = .ok (position, request))
    (hfetch : Remote.fetch s.remote request = { outcome, remote }) :
    round options none s
      = receive { s with progress := s.progress.beginRound, remote } position outcome :=
  round_of_fetch_within nofun hreq hfetch

/-! ## Whole sessions -/

/-- How a session ends with a round that is its last. -/
def Outcome.ending (s : Session σ ρ) : Outcome → Ending
  | .more => .unfinished
  | .finished => s.report
  | .failed cause => .failed cause
  | .expired => .expired
  | .unanswered => .unfinished

/-- A session that ends with a report has finished, and reports what it has counted and the first
free offset. -/
theorem Outcome.eq_finished_of_ending {σ ρ : Type} [Storage σ] {s : Session σ ρ}
    {outcome : Outcome} {report : Report} (h : outcome.ending s = .finished report) :
    outcome = .finished ∧ report.progress = s.progress
      ∧ Storage.nextWrite s.storage = .ok report.finalPosition := by
  cases outcome with
  | finished =>
    simp only [ending, Session.report] at h
    split at h
    · cases h
    · rename_i hnext
      cases h
      exact ⟨rfl, rfl, hnext⟩
  | more => cases h
  | failed cause => cases h
  | expired => cases h
  | unanswered => cases h

theorem run_of_more {options : SyncOptions} {deadline : Option Nat} {s t : Session σ ρ}
    (h : round options deadline s = (.more, t)) (limit : Nat) :
    run options deadline (limit + 1) s = run options deadline limit t := by
  rw [run, h]

theorem run_of_ne_more {options : SyncOptions} {deadline : Option Nat} {s t : Session σ ρ}
    {outcome : Outcome} (h : round options deadline s = (outcome, t)) (hne : outcome ≠ .more)
    (limit : Nat) : run options deadline (limit + 1) s = (outcome.ending t, t) := by
  rw [run, h]
  cases outcome with
  | more => exact absurd rfl hne
  | finished => rfl
  | failed cause => rfl
  | expired => rfl
  | unanswered => rfl

/-- A session goes on after its first round, or ends with it. -/
theorem run_succ_cases (options : SyncOptions) (deadline : Option Nat) (limit : Nat)
    (s : Session σ ρ) :
    (∃ t, round options deadline s = (.more, t)
        ∧ run options deadline (limit + 1) s = run options deadline limit t)
      ∨ ∃ outcome t, round options deadline s = (outcome, t) ∧ outcome ≠ .more
        ∧ run options deadline (limit + 1) s = (outcome.ending t, t) := by
  by_cases hmore : (round options deadline s).1 = .more
  · have hround : round options deadline s = (.more, (round options deadline s).2) := by
      rw [← hmore]
    exact Or.inl ⟨_, hround, run_of_more hround limit⟩
  · exact Or.inr ⟨_, _, rfl, hmore, run_of_ne_more rfl hmore limit⟩

theorem run_one (options : SyncOptions) (deadline : Option Nat) (s : Session σ ρ) :
    (run options deadline 1 s).2 = (round options deadline s).2 := by
  rcases run_succ_cases options deadline 0 s with ⟨t, hr, hrun⟩ | ⟨outcome, t, hr, _, hrun⟩
  · rw [hrun, hr, run]
  · rw [hrun, hr]

/-- What every round keeps, a session keeps. -/
theorem run_invariant {options : SyncOptions} {deadline : Option Nat} {P : σ → Prop}
    (hround : ∀ s : Session σ ρ, P s.storage → P (round options deadline s).2.storage)
    (limit : Nat) (s : Session σ ρ) (h : P s.storage) :
    P (run options deadline limit s).2.storage := by
  induction limit generalizing s with
  | zero => exact h
  | succ limit ih =>
    have hstep := hround s h
    rcases run_succ_cases options deadline limit s with
      ⟨t, hr, hrun⟩ | ⟨outcome, t, hr, _, hrun⟩
    · rw [hr] at hstep
      rw [hrun]
      exact ih t hstep
    · rw [hr] at hstep
      rw [hrun]
      exact hstep

/-- A session does nothing to a storage but write and refresh. -/
theorem reaches_of_run (options : SyncOptions) (deadline : Option Nat) (limit : Nat)
    (s : Session σ ρ) : Storage.Reaches s.storage (run options deadline limit s).2.storage := by
  apply run_invariant (P := Storage.Reaches s.storage) _ limit s .start
  intro t ht
  rcases storage_round options deadline t with hsame | ⟨_, _, _, r, _, happend⟩
  · rw [hsame]
    exact ht
  · rw [happend]
    exact ht.append r.parsed.position r.data

/-- A session fails with its first round. -/
theorem run_of_failed {options : SyncOptions} {deadline : Option Nat} {s t : Session σ ρ}
    {cause : SyncError} (h : round options deadline s = (.failed cause, t)) {limit : Nat}
    (hlimit : 1 ≤ limit) : run options deadline limit s = (.failed cause, t) := by
  obtain ⟨limit, rfl⟩ : ∃ k, limit = k + 1 := ⟨limit - 1, by omega⟩
  exact run_of_ne_more h Outcome.noConfusion limit

/-- With a greater limit a session ends in the same state, or goes on from there. -/
theorem run_add (options : SyncOptions) (deadline : Option Nat) (m n : Nat) (s : Session σ ρ) :
    (run options deadline (m + n) s).2 = (run options deadline m s).2
      ∨ (run options deadline (m + n) s).2
          = (run options deadline n (run options deadline m s).2).2 := by
  induction m generalizing s with
  | zero =>
    rw [Nat.zero_add]
    exact Or.inr rfl
  | succ m ih =>
    rw [Nat.succ_add]
    rcases run_succ_cases options deadline m s with ⟨t, hr, hrun⟩ | ⟨outcome, t, hr, hne, hrun⟩
    · rw [hrun, run_of_more hr]
      exact ih t
    · rw [hrun, run_of_ne_more hr hne]
      exact Or.inl rfl

end Session

/-! ## Views -/

/-- A view of one storage as another that reports, reads, writes and refreshes alike. -/
structure Storage.View {σ τ : Type} [Storage σ] [Storage τ] (φ : σ → τ) : Prop where
  dataStart : ∀ s, Storage.dataStart (φ s) = Storage.dataStart s
  capacity : ∀ s, Storage.capacity (φ s) = Storage.capacity s
  nextWrite : ∀ s, Storage.nextWrite (φ s) = Storage.nextWrite s
  read : ∀ s offset len, Storage.read (φ s) offset len = Storage.read s offset len
  write : ∀ s offset data, Storage.write (φ s) offset data
    = ((Storage.write s offset data).1, φ (Storage.write s offset data).2)
  refresh : ∀ s, Storage.refresh (φ s) = ((Storage.refresh s).1, φ (Storage.refresh s).2)

/-- A session with another view of its storage. -/
def Session.view {σ τ ρ : Type} (φ : σ → τ) (s : Session σ ρ) : Session τ ρ where
  storage := φ s.storage
  remote := s.remote
  progress := s.progress
  elapsed := s.elapsed

namespace Storage.View

variable {σ τ : Type} [Storage σ] [Storage τ] {φ : σ → τ}

theorem geometry (h : View φ) (s : σ) : Storage.geometry (φ s) = Storage.geometry s := by
  simp only [Storage.geometry, h.dataStart, h.capacity, h.nextWrite]

theorem append (h : View φ) (s : σ) (offset : Offset) (data : Bytes) :
    Storage.append (φ s) offset data
      = ((Storage.append s offset data).1, φ (Storage.append s offset data).2) := by
  simp only [Storage.append, h.write]
  cases Storage.write s offset data with
  | mk result s' =>
    cases result with
    | error e => rfl
    | ok u => exact h.refresh s'

theorem nextRequest (h : View φ) (options : SyncOptions) (s : σ) :
    options.nextRequest (φ s) = options.nextRequest s := by
  simp only [SyncOptions.nextRequest, SyncOptions.bytesBefore, h.geometry, h.read]

theorem applyWindow (h : View φ) (s : σ) (position : Offset) (r : Response) :
    ByteLedger.applyWindow (φ s) position r
      = ((ByteLedger.applyWindow s position r).1, φ (ByteLedger.applyWindow s position r).2) := by
  simp only [ByteLedger.applyWindow, h.append]
  split
  · rfl
  · split
    · rfl
    · cases Storage.append s r.parsed.position r.data with
      | mk result s' =>
        cases result with
        | error e => rfl
        | ok u => rfl

variable {ρ : Type}

theorem receive (h : View φ) (s : Session σ ρ) (position : Offset)
    (outcome : Except SyncError Response) :
    Session.receive (s.view φ) position outcome
      = ((Session.receive s position outcome).1,
          (Session.receive s position outcome).2.view φ) := by
  cases outcome with
  | error e => rfl
  | ok r =>
    simp only [Session.receive]
    rw [show (s.view φ).storage = φ s.storage from rfl, h.applyWindow]
    cases ByteLedger.applyWindow s.storage position r with
    | mk result s' =>
      cases result with
      | error e => rfl
      | ok u => rfl

variable [Remote ρ]

theorem round (h : View φ) (options : SyncOptions) (deadline : Option Nat) (s : Session σ ρ) :
    Session.round options deadline (s.view φ)
      = ((Session.round options deadline s).1, (Session.round options deadline s).2.view φ) := by
  simp only [Session.round]
  rw [show (s.view φ).storage = φ s.storage from rfl, h.nextRequest]
  cases options.nextRequest s.storage with
  | error e => rfl
  | ok ask =>
    obtain ⟨position, request⟩ := ask
    simp only
    rw [show (s.view φ).remote = s.remote from rfl, show (s.view φ).elapsed = s.elapsed from rfl]
    cases Session.arrival? deadline s.elapsed (Remote.fetch s.remote request).delay with
    | none => rfl
    | some now =>
      exact h.receive
        { s with
          progress := s.progress.beginRound
          remote := (Remote.fetch s.remote request).remote
          elapsed := now }
        position (Remote.fetch s.remote request).outcome

/-- A session does to the view of a storage what it does to the storage. -/
theorem run (h : View φ) (options : SyncOptions) (deadline : Option Nat) (limit : Nat)
    (s : Session σ ρ) :
    Session.run options deadline limit (s.view φ)
      = ((Session.run options deadline limit s).1,
          (Session.run options deadline limit s).2.view φ) := by
  induction limit generalizing s with
  | zero => rfl
  | succ limit ih =>
    simp only [Session.run, h.round]
    cases Session.round options deadline s with
    | mk outcome t =>
      cases outcome with
      | more => exact ih t
      | finished =>
        simp only [Session.report]
        rw [show (t.view φ).storage = φ t.storage from rfl, h.nextWrite]
        rfl
      | failed e => rfl
      | expired => rfl
      | unanswered => rfl

end Storage.View

end ByteLedger
