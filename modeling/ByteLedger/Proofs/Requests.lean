import ByteLedger.Proofs.AppendOnly
import ByteLedger.Proofs.Serving
import ByteLedger.Proofs.Settled
import Mathlib.Data.List.Basic

set_option autoImplicit false

/-!
# What a session asks for

A session sends one request a round, for the frontier that its ledger has at that moment. A
remote may note the requests that it is sent (`Remote.Notes`), and any remote can be recorded,
which changes nothing that a session does (`Recorded.view_remote`).

A responder refuses a request for its size exactly if it does not keep the limits
(`serve_eq_refused_iff`). The text of the cursor always keeps them. The bytes that go along do
unless the look-back is longer than the limit, and then none go along until the frontier has
passed it: from that round on every request is too long (`Session.limitFault?_of_run`).

Whatever goes along, a ledger answers with the window at that frontier or with an error
(`Session.response_of_fetch`).
-/

namespace ByteLedger

/-! ## Asking -/

namespace SyncOptions

variable {σ : Type} [Storage σ] {options : SyncOptions} {s : σ} {position : Offset}
  {request : Request}

/-- The request of a storage is for the position at which its geometry resumes. -/
theorem position?_of_nextRequest {g : Geometry} (hg : Storage.geometry s = .ok g)
    (hreq : options.nextRequest s = .ok (position, request)) :
    request.position? = some (g.resume options.window).position := by
  unfold nextRequest at hreq
  rw [hg] at hreq
  simp only at hreq
  split at hreq
  · cases hreq
  · cases hreq
    exact Request.position?_ofCursor _ _

/-- The bytes that go along with a request: none, or those of the whole look-back once the
position has passed it. -/
theorem bytesBefore_cases {before : Option Bytes}
    (h : options.bytesBefore s position = .ok before) :
    ((options.lookBack = 0 ∨ position ≤ options.lookBack) ∧ before = none)
      ∨ options.lookBack < position
        ∧ ∃ bs, Storage.read s (position - options.lookBack) options.lookBack = .ok bs
          ∧ before = some bs := by
  unfold bytesBefore at h
  split at h
  · rename_i hnone
    cases h
    exact Or.inl ⟨hnone, rfl⟩
  · rename_i hsome
    split at h
    · cases h
    · rename_i bs hread
      cases h
      exact Or.inr ⟨UInt64.not_le.1 fun hle => hsome (Or.inr hle), bs, hread, rfl⟩

/-- The bytes that go along with a request fit into its wire form, if the storage reads as many as
it is asked for. -/
theorem length_of_bytesBefore
    (hwhole : ∀ offset len bs, Storage.read s offset len = .ok bs → bs.length = len.toNat)
    {bs : Bytes} (h : options.bytesBefore s position = .ok (some bs)) : bs.length < 2 ^ 64 := by
  rcases bytesBefore_cases h with ⟨_, hnone⟩ | ⟨_, bs', hread, hsome⟩
  · cases hnone
  · cases hsome
    rw [hwhole _ _ _ hread]
    exact Offset.toNat_lt options.lookBack

/-- Which limit the request of a storage does not keep, if the storage reads as many bytes as it
is asked for: the one on the bytes, if the look-back is longer than that and the position has
passed the look-back. -/
theorem limitFault?_of_nextRequest [FlatStorage σ] {f : Flat} (h : FlatStorage.Keeps s f)
    (hwhole : ∀ offset len bs, Storage.read s offset len = .ok bs → bs.length = len.toNat)
    (hreq : options.nextRequest s = .ok (position, request)) :
    request.limitFault?
      = if Request.bytesBeforeLimit < options.lookBack.toNat
          ∧ options.lookBack < f.geometry.frontier then some .tooManyBytesBefore
        else none := by
  obtain ⟨rfl, before, hbefore, rfl⟩ := of_nextRequest h hreq
  rw [Request.limitFault?_ofCursor_eq]
  rcases bytesBefore_cases hbefore with ⟨hnone, rfl⟩ | ⟨hpassed, bs, hread, rfl⟩
  · rw [if_neg (by simp), if_neg]
    rintro ⟨hlong, hpassed⟩
    rcases hnone with hzero | hle
    · rw [hzero] at hlong
      exact absurd hlong (by decide)
    · exact absurd hpassed (UInt64.not_lt.2 hle)
  · simp only [Option.any_some, decide_eq_true_eq]
    rw [hwhole _ _ _ hread]
    simp only [hpassed, and_true]

end SyncOptions

/-! ## Refusing a request for its size -/

theorem LimitFault.message_inj {a b : LimitFault} : a.message = b.message ↔ a = b := by
  cases a <;> cases b <;> simp [message]

theorem LimitFault.head?_message (fault : LimitFault) : fault.message.toList.head? ≠ some 'h' := by
  cases fault <;> decide

theorem Divergence.head?_message (d : Divergence) : d.message.toList.head? = some 'h' := by
  have hfirst : "history diverged at offset ".toList.head? = some 'h' := by decide
  unfold message
  simp only [String.append_assoc]
  rw [String.toList_append, List.head?_append, hfirst, Option.some_or]

/-- A refusal for the history is not taken for one for the size. -/
theorem Divergence.message_ne (d : Divergence) (fault : LimitFault) :
    d.message ≠ fault.message := by
  intro h
  exact fault.head?_message (h ▸ d.head?_message)

section

variable {σ : Type} [Storage σ]

/-- The check of a history fails with an error of the storage, or with a divergence. -/
theorem checkHistory_error_cases {s : σ} {position : Offset} {bs : Bytes} {e : SyncError}
    (h : checkHistory s position bs = .error e) :
    (∃ cause, e = .storage cause) ∨ ∃ d : Divergence, e = .refused d.message := by
  unfold checkHistory at h
  split at h
  · cases h
    exact Or.inl ⟨_, rfl⟩
  · simp only at h
    split at h
    · cases h
    · split at h
      · cases h
        exact Or.inl ⟨_, rfl⟩
      · split at h
        · cases h
        · cases h
          exact Or.inr ⟨_, rfl⟩

/-- A window cannot be served only if the storage fails. -/
theorem windowAt_error {s : σ} {g : Geometry} {position limit : Offset} {e : SyncError}
    (h : windowAt s g position limit = .error e) : ∃ cause, e = .storage cause := by
  unfold windowAt at h
  simp only at h
  split at h
  · cases h
  · split at h
    · cases h
      exact ⟨_, rfl⟩
    · cases h

/-- A responder refuses a request for its size if, and only if, it does not keep the limits. -/
theorem serve_eq_refused_iff (s : σ) (options : ServeOptions) (request : Request)
    (fault : LimitFault) :
    serve s options request = .error (.refused fault.message)
      ↔ request.limitFault? = some fault := by
  unfold serve
  cases request.limitFault? with
  | some fault' => simp [LimitFault.message_inj]
  | none =>
    refine iff_of_false ?_ (by simp)
    intro h
    simp only at h
    split at h
    · cases h
    · split at h
      · obtain ⟨cause, hcause⟩ := windowAt_error h
        cases hcause
      · split at h
        · rename_i hcheck
          cases h
          rcases checkHistory_error_cases hcheck with ⟨cause, hcause⟩ | ⟨d, hd⟩
          · cases hcause
          · exact d.message_ne fault (SyncError.refused.inj hd).symm
        · obtain ⟨cause, hcause⟩ := windowAt_error h
          cases hcause

end

/-! ## What is received -/

/-- Whatever bytes go along with its request, what a storage receives from a ledger, if it is not
an error, is the window at its frontier. -/
theorem Session.response_of_fetch {σ τ : Type} [Storage σ] [FlatStorage σ] [Storage τ]
    [FlatStorage τ] {options : SyncOptions} {s : Session σ (Hosted τ)} {f g : Flat}
    {position : Offset} {request : Request} {r : Response} (hf : FlatStorage.Keeps s.storage f)
    (hg : FlatStorage.Keeps s.remote.storage g)
    (hwhole : ∀ offset len bs, Storage.read s.storage offset len = .ok bs → bs.length = len.toNat)
    (hreq : options.nextRequest s.storage = .ok (position, request))
    (hfetch : (Remote.fetch s.remote request).outcome = .ok r) :
    position = f.geometry.frontier
      ∧ r = g.response f.geometry.frontier s.remote.options.limit := by
  obtain ⟨rfl, before, hbefore, rfl⟩ := SyncOptions.of_nextRequest hf hreq
  have hbytes : ∀ bs, before = some bs → bs.length < 2 ^ 64 := by
    rintro bs rfl
    exact SyncOptions.length_of_bytesBefore hwhole hbefore
  change s.remote.answer _ = .ok r at hfetch
  rw [Hosted.answer_eq_reply s.remote hg (Request.fits_ofCursor _ hbytes)] at hfetch
  have hr := Flat.eq_response_of_reply hfetch
  rw [Request.position?_ofCursor] at hr
  exact ⟨rfl, hr⟩

/-! ## Remotes that note their requests -/

/-- What `requests` says of a remote are the requests that it was sent, in order. -/
def Remote.Notes {ρ : Type} [Remote ρ] (requests : ρ → List Request) : Prop :=
  ∀ r request, requests (Remote.fetch r request).remote = requests r ++ [request]

namespace Session

variable {σ ρ : Type} [Storage σ] [Remote ρ] {options : SyncOptions} {deadline : Option Nat}
  {requests : ρ → List Request}

/-- A round sends its request, if it has one. -/
theorem requests_round (h : Remote.Notes requests) (options : SyncOptions)
    (deadline : Option Nat) (s : Session σ ρ) :
    requests (round options deadline s).2.remote
      = requests s.remote
        ++ ((options.nextRequest s.storage).toOption.map Prod.snd).toList := by
  rcases round_cases (Prod.eta (round options deadline s)).symm with
    ⟨e, hreq, _, _, hremote⟩ | ⟨position, request, hreq, hremote, _⟩
  · rw [hremote, hreq]
    exact (List.append_nil _).symm
  · rw [hremote, hreq, h]
    rfl

/-- The requests that a session sends: the one of each round is that of the storage after the
rounds before it. -/
theorem requests_run (h : Remote.Notes requests) (options : SyncOptions)
    (deadline : Option Nat) (limit : Nat) (s : Session σ ρ) :
    ∃ made, requests (run options deadline limit s).2.remote = requests s.remote ++ made
      ∧ ∀ i request, made[i]? = some request → ∃ position,
        options.nextRequest (run options deadline i s).2.storage = .ok (position, request) := by
  induction limit generalizing s with
  | zero => exact ⟨[], (List.append_nil _).symm, by simp⟩
  | succ limit ih =>
    have hfirst := requests_round h options deadline s
    cases hreq : options.nextRequest s.storage with
    | error e =>
      have hround : round options deadline s
          = (.failed (.storage e), { s with progress := s.progress.beginRound }) := by
        simp only [round, hreq]
      rw [run_of_failed hround (Nat.le_add_left 1 limit)]
      exact ⟨[], (List.append_nil _).symm, by simp⟩
    | ok ask =>
      obtain ⟨position, request⟩ := ask
      rw [hreq] at hfirst
      rcases run_succ_cases options deadline limit s with
        ⟨t, hround, hrun⟩ | ⟨outcome, t, hround, _, hrun⟩
      · -- The round `i` of the rest is the round `i + 1` of the session.
        obtain ⟨made, hmade, hlater⟩ := ih t
        rw [hround] at hfirst
        refine ⟨request :: made, ?_, ?_⟩
        · rw [hrun, hmade, hfirst, List.append_assoc]
          rfl
        · intro i request' hi
          cases i with
          | zero =>
            cases hi
            exact ⟨position, hreq⟩
          | succ i =>
            rw [run_of_more hround]
            exact hlater i request' hi
      · rw [hround] at hfirst
        refine ⟨[request], by rw [hrun, hfirst]; rfl, ?_⟩
        intro i request' hi
        cases i with
        | zero =>
          cases hi
          exact ⟨position, hreq⟩
        | succ i => cases hi

/-- A session sends the request of its first round first. -/
theorem requests_run_of_ok (h : Remote.Notes requests) (deadline : Option Nat) {limit : Nat}
    {s : Session σ ρ} {position : Offset} {request : Request}
    (hreq : options.nextRequest s.storage = .ok (position, request)) (hlimit : 1 ≤ limit) :
    ∃ later, requests (run options deadline limit s).2.remote
      = requests s.remote ++ request :: later := by
  obtain ⟨n, rfl⟩ := Nat.exists_eq_add_of_le hlimit
  have hfirst := requests_round h options deadline s
  rw [hreq] at hfirst
  have hone := run_one options deadline s
  rcases run_add options deadline 1 n s with hend | hmore
  · exact ⟨[], by rw [hend, hone, hfirst]; rfl⟩
  · obtain ⟨later, hlater, _⟩ := requests_run h options deadline n (run options deadline 1 s).2
    exact ⟨later, by rw [hmore, hlater, hone, hfirst, List.append_assoc]; rfl⟩

/-- A session whose first round has no request sends none. -/
theorem requests_run_of_error (requests : ρ → List Request) {limit : Nat} {s : Session σ ρ}
    {e : StorageError} (hreq : options.nextRequest s.storage = .error e) (hlimit : 1 ≤ limit) :
    requests (run options deadline limit s).2.remote = requests s.remote := by
  have hround : round options deadline s
      = (.failed (.storage e), { s with progress := s.progress.beginRound }) := by
    simp only [round, hreq]
  rw [run_of_failed hround hlimit]

end Session

/-! ## Recording a remote -/

/-- A view of one remote as another that delivers alike. -/
def Remote.View {ρ ρ' : Type} [Remote ρ] [Remote ρ'] (φ : ρ → ρ') : Prop :=
  ∀ r request, Remote.fetch (φ r) request = (Remote.fetch r request).map φ

/-- A session with another view of its remote. -/
def Session.viewRemote {σ ρ ρ' : Type} (φ : ρ → ρ') (s : Session σ ρ) : Session σ ρ' where
  storage := s.storage
  remote := φ s.remote
  progress := s.progress
  elapsed := s.elapsed

namespace Remote.View

variable {σ ρ ρ' : Type} [Storage σ] {φ : ρ → ρ'}

theorem receive (φ : ρ → ρ') (s : Session σ ρ) (position : Offset)
    (outcome : Except SyncError Response) :
    Session.receive (s.viewRemote φ) position outcome
      = ((Session.receive s position outcome).1,
          (Session.receive s position outcome).2.viewRemote φ) := by
  cases outcome with
  | error e => rfl
  | ok r =>
    simp only [Session.receive]
    rw [show (s.viewRemote φ).storage = s.storage from rfl]
    cases applyWindow s.storage position r with
    | mk result s' =>
      cases result with
      | error e => rfl
      | ok u => rfl

variable [Remote ρ] [Remote ρ']

theorem round (h : View φ) (options : SyncOptions) (deadline : Option Nat) (s : Session σ ρ) :
    Session.round options deadline (s.viewRemote φ)
      = ((Session.round options deadline s).1,
          (Session.round options deadline s).2.viewRemote φ) := by
  simp only [Session.round]
  rw [show (s.viewRemote φ).storage = s.storage from rfl]
  cases options.nextRequest s.storage with
  | error e => rfl
  | ok ask =>
    obtain ⟨position, request⟩ := ask
    simp only
    rw [show (s.viewRemote φ).remote = φ s.remote from rfl, h,
      show (s.viewRemote φ).elapsed = s.elapsed from rfl]
    simp only [Delivery.map]
    cases Session.arrival? deadline s.elapsed (Remote.fetch s.remote request).delay with
    | none => rfl
    | some now =>
      exact receive φ
        { s with
          progress := s.progress.beginRound
          remote := (Remote.fetch s.remote request).remote
          elapsed := now }
        position (Remote.fetch s.remote request).outcome

/-- A session does with the view of a remote what it does with the remote. -/
theorem run (h : View φ) (options : SyncOptions) (deadline : Option Nat) (limit : Nat)
    (s : Session σ ρ) :
    Session.run options deadline limit (s.viewRemote φ)
      = ((Session.run options deadline limit s).1,
          (Session.run options deadline limit s).2.viewRemote φ) := by
  induction limit generalizing s with
  | zero => rfl
  | succ limit ih =>
    simp only [Session.run, h.round]
    cases Session.round options deadline s with
    | mk outcome t =>
      cases outcome with
      | more => exact ih t
      | finished => rfl
      | failed e => rfl
      | expired => rfl
      | unanswered => rfl

end Remote.View

/-- A remote whose requests are noted. -/
structure Recorded (ρ : Type) where
  remote : ρ
  /-- The requests that were sent, in order. -/
  requests : List Request := []

namespace Recorded

variable {ρ : Type} [Remote ρ]

instance : Remote (Recorded ρ) where
  fetch r request :=
    (Remote.fetch r.remote request).map fun remote =>
      { remote, requests := r.requests ++ [request] }

theorem notes : Remote.Notes (Recorded.requests (ρ := ρ)) := fun _ _ => rfl

/-- To record a remote changes nothing that it does. -/
theorem view_remote : Remote.View (Recorded.remote (ρ := ρ)) := fun _ _ => rfl

end Recorded

namespace Session

/-- The same session, with a remote whose requests are noted from now on. -/
def recorded {σ ρ : Type} (s : Session σ ρ) : Session σ (Recorded ρ) where
  storage := s.storage
  remote := { remote := s.remote }
  progress := s.progress
  elapsed := s.elapsed

/-- A session does the same while it is recorded. -/
theorem run_recorded {σ ρ : Type} [Storage σ] [Remote ρ] (options : SyncOptions)
    (deadline : Option Nat) (limit : Nat) (s : Session σ ρ) :
    run options deadline limit s
      = ((run options deadline limit s.recorded).1,
          (run options deadline limit s.recorded).2.viewRemote Recorded.remote) :=
  Recorded.view_remote.run options deadline limit s.recorded

/-! ## The size of requests -/

/-- Every request that a session sends, whatever its ledger, its remote and its options are, in
each of its rounds. It is for the frontier which the ledger has in that round, and keeps the
limits if the look-back does, or else as long as that frontier has not passed the look-back.
Beyond that every responder refuses it for its size, and before that none does. The requests are
seen by recording the remote, which changes nothing that the session does. -/
theorem limitFault?_of_run {ρ : Type} [Remote ρ] (options : SyncOptions) (deadline : Option Nat)
    (s : Session Ledger ρ) (h : s.storage.Reachable) (limit : Nat) :
    ∃ w : Session Ledger (Recorded ρ),
      run options deadline limit s.recorded = ((run options deadline limit s).1, w)
      ∧ w.viewRemote Recorded.remote = (run options deadline limit s).2
      ∧ ∀ i request, w.remote.requests[i]? = some request →
        ∃ g, Storage.geometry (run options deadline i s).2.storage = .ok g
          ∧ request.position? = some g.frontier
          ∧ (request.limitFault? = none
            ↔ options.lookBack.toNat ≤ Request.bytesBeforeLimit ∨ g.frontier ≤ options.lookBack)
          ∧ ∀ {σ : Type} [Storage σ] (responder : σ) (serving : ServeOptions)
              (fault : LimitFault),
            serve responder serving request = .error (.refused fault.message)
              ↔ fault = .tooManyBytesBefore
                ∧ Request.bytesBeforeLimit < options.lookBack.toNat
                ∧ options.lookBack < g.frontier := by
  obtain ⟨f, hkeeps, hf⟩ := h.sound
  refine ⟨_, Prod.ext (by rw [run_recorded options deadline limit s]) rfl,
    by rw [run_recorded options deadline limit s], ?_⟩
  obtain ⟨made, hmade, hrequests⟩ :=
    requests_run Recorded.notes options deadline limit s.recorded
  intro i request hi
  rw [hmade] at hi
  obtain ⟨position, hreq⟩ := hrequests i request hi
  obtain ⟨g, hg, _, _⟩ := run_extends options deadline i (s := s.recorded) hkeeps hf
  have hgeometry := FlatStorage.geometry_eq hg
  have hposition := SyncOptions.position?_of_nextRequest hgeometry hreq
  have hfault := SyncOptions.limitFault?_of_nextRequest hg
    (fun _ _ _ hread => Ledger.length_of_read hg hread) hreq
  rw [Geometry.resume_eq] at hposition
  refine ⟨g.geometry, by rw [run_recorded options deadline i s]; exact hgeometry, hposition, ?_, ?_⟩
  · rw [hfault]
    simp only [ite_eq_right_iff, reduceCtorEq, imp_false, not_and_or, Nat.not_lt, UInt64.not_lt]
  · intro σ _ responder serving fault
    rw [serve_eq_refused_iff, hfault]
    by_cases hlong : Request.bytesBeforeLimit < options.lookBack.toNat
        ∧ options.lookBack < g.geometry.frontier
    · rw [if_pos hlong, Option.some.injEq]
      exact ⟨fun heq => ⟨heq.symm, hlong⟩, fun hall => hall.1.symm⟩
    · rw [if_neg hlong]
      exact iff_of_false (by simp) fun hall => hlong hall.2

/-- A session on an empty ledger, which grows by one byte before the remote fails. -/
def growing : Session Ledger Script where
  storage := .buffer (BufferLedger.ofContents 65537 0 []).refresh
  remote :=
    { lines := [{ outcome := .ok { cursor := "position=65537&more=true", data := [7] } }] }

/-- With a look-back of one byte more than the limit nothing goes along at first, as the frontier
is not past the look-back. After one byte it is, and every responder refuses the request. -/
theorem limitFault?_of_run_growing :
    growing.storage.Reachable
    ∧ ∃ first second : Request,
      (run { lookBack := 65537 } none 2 growing.recorded).2.remote.requests = [first, second]
      ∧ first.position? = some 65537 ∧ first.limitFault? = none
      ∧ second.position? = some 65538
      ∧ serve (BufferLedger.ofContents 0 0 []).refresh {} second
        = .error (.refused "too many bytes_before") := by
  have hreach : growing.storage.Reachable := ⟨65537, 0, [], _, rfl, .start⟩
  obtain ⟨w, hrun, _, hrequests⟩ := limitFault?_of_run { lookBack := 65537 } none growing hreach 2
  obtain rfl : (run { lookBack := 65537 } none 2 growing.recorded).2 = w := congrArg Prod.snd hrun
  have hlength : (run { lookBack := 65537 } none 2 growing.recorded).2.remote.requests.length
      = 2 := by decide +kernel
  obtain ⟨first, second, htwo⟩ := List.length_eq_two.1 hlength
  rw [htwo] at hrequests
  obtain ⟨g₀, hg₀, hposition₀, hfits₀, _⟩ := hrequests 0 first rfl
  obtain ⟨g₁, hg₁, hposition₁, _, hrefused₁⟩ := hrequests 1 second rfl
  have hnew : Storage.geometry growing.storage
      = .ok { dataStart := 65537, capacity := 131072, nextWrite := 65537 } := by decide +kernel
  have hgrown : Storage.geometry (run { lookBack := 65537 } none 1 growing).2.storage
      = .ok { dataStart := 65537, capacity := 131072, nextWrite := 65538 } := by decide +kernel
  obtain rfl := Except.ok.inj (hg₀.symm.trans hnew)
  obtain rfl := Except.ok.inj (hg₁.symm.trans hgrown)
  exact ⟨hreach, first, second, htwo, hposition₀, hfits₀.2 (Or.inr (by decide)), hposition₁,
    (hrefused₁ _ {} .tooManyBytesBefore).2 ⟨rfl, by decide, by decide⟩⟩

/-- A session whose first request does not keep the limits fails, if a ledger is asked. -/
theorem run_of_limitFault {σ τ : Type} [Storage σ] [FlatStorage σ] [Storage τ] [FlatStorage τ]
    {options : SyncOptions} {s : Session σ (Hosted τ)} {f g : Flat} {position : Offset}
    {request : Request} {fault : LimitFault} (hf : FlatStorage.Keeps s.storage f)
    (hg : FlatStorage.Keeps s.remote.storage g) (hback : options.lookBack.toNat < 2 ^ 48)
    (hreq : options.nextRequest s.storage = .ok (position, request))
    (hfault : request.limitFault? = some fault) {limit : Nat} (hlimit : 1 ≤ limit) :
    (run options none limit s).1 = .failed (.refused fault.message) := by
  have hanswer : s.remote.answer request = .error (.refused fault.message) := by
    rw [SyncOptions.nextRequest_eq hf hback] at hreq
    cases hreq
    have hbytes : ∀ bs, Bytes.before? f.byte f.geometry.frontier.toNat
        (options.sent f.geometry.frontier) = some bs → bs.length < 2 ^ 64 := by
      intro bs hbs
      have hlen := Bytes.length_of_before? hbs
      have hsent := options.sent_le f.geometry.frontier
      omega
    rw [Hosted.answer_eq_reply s.remote hg (Request.fits_ofCursor _ hbytes), Flat.reply, hfault]
  have hfetch : Remote.fetch s.remote request
      = { outcome := .error (.refused fault.message), remote := s.remote } := by
    rw [← hanswer]
    rfl
  rw [run_of_failed (round_of_fetch hreq hfetch) hlimit]

/-- A session on a ledger that holds all that its remote holds. -/
def inStep : Session Ledger (Hosted Ledger) where
  storage := .buffer (BufferLedger.ofContents 0 0 (List.replicate 65538 7)).refresh
  remote := { storage := .buffer (BufferLedger.ofContents 0 0 (List.replicate 65538 7)).refresh }

/-- A session can send a request that does not keep the limits. It fails with that, though the
remote holds the same bytes. -/
theorem run_refused_tooLong :
    inStep.storage.Reachable
    ∧ (∃ request, (run { lookBack := 65537 } none 1 inStep.recorded).2.remote.requests = [request]
      ∧ request.limitFault? = some .tooManyBytesBefore)
    ∧ (run { lookBack := 65537 } none 1 inStep).1
      = .failed (.refused "too many bytes_before") := by
  let l := (BufferLedger.ofContents 0 0 (List.replicate 65538 7)).refresh
  have hkeeps : FlatStorage.Keeps inStep.storage l.flat := rfl
  have hsound : l.Sound := BufferLedger.sound_ofContents 0 0 (List.replicate 65538 7)
  have hfits : (0 : Offset).toNat + (List.replicate 65538 (7 : UInt8)).length < 2 ^ 64 := by
    rw [List.length_replicate]
    decide
  have hnext : l.nextWrite.toNat = 65538 := by
    have hend := BufferLedger.toNat_nextWrite_ofContents 0 hfits
    rw [List.length_replicate] at hend
    exact hend
  have hfrontier : l.flat.geometry.frontier = 65538 := by
    rw [hsound.frontier_eq]
    exact UInt64.toNat_inj.1 hnext
  have hreq : SyncOptions.nextRequest { lookBack := 65537 } inStep.storage = .ok (_, _) :=
    SyncOptions.nextRequest_eq hkeeps (by decide)
  have hfault := SyncOptions.limitFault?_of_nextRequest hkeeps
    (fun _ _ _ hread => Ledger.length_of_read hkeeps hread) hreq
  rw [hfrontier] at hreq hfault
  have hlong : Request.bytesBeforeLimit < (65537 : Offset).toNat ∧ (65537 : Offset) < 65538 := by
    decide
  rw [if_pos hlong] at hfault
  refine ⟨⟨0, 0, _, _, rfl, .start⟩, ⟨_, ?_, hfault⟩, ?_⟩
  · have hsent := requests_round Recorded.notes { lookBack := 65537 } none inStep.recorded
    rw [run_one, hsent, show inStep.recorded.storage = inStep.storage from rfl, hreq]
    rfl
  · exact run_of_limitFault hkeeps hkeeps (by decide) hreq hfault (Nat.le_refl 1)

end Session

end ByteLedger
