import ByteLedger.Proofs.Requests

set_option autoImplicit false

/-!
# The frontier of a ledger in one buffer

A ledger in one buffer is made with a capacity that its contents fit into, and gains whole pages
where a write passes it; its first free offset moves with a refresh. However both moved, the first
free offset lies between the beginning of the partition and the capacity
(`BufferLedger.frontier_of_reaches`). So the window at the frontier is never cut off there, and
what a replica asks its remote for is the first free offset.
-/

namespace ByteLedger

/-- The window at the first free offset is the caught-up cursor there. -/
theorem Geometry.Ordered.resume_eq {g : Geometry} (h : g.Ordered) (limit : Offset) :
    g.resume limit = .caughtUp g.nextWrite := by
  rw [Geometry.resume_eq, h.frontier_eq]

namespace Replica

variable {σ ρ : Type} [Storage σ] [Remote ρ]

/-- The requests that a replica sends in a sync of at most `limit` rounds. -/
def requests (r : Replica σ ρ) (limit : Nat) : List Request :=
  (Session.run r.options.sync r.options.deadline limit r.session.recorded).2.remote.requests

/-- The ledger of a replica after so many rounds of a sync. -/
def storageAfter (r : Replica σ ρ) (rounds : Nat) : σ :=
  (Session.run r.options.sync r.options.deadline rounds r.session).2.storage

/-- Each request is that of the ledger after the rounds before it. -/
theorem nextRequest_of_requests {r : Replica σ ρ} {limit i : Nat} {request : Request}
    (h : (r.requests limit)[i]? = some request) :
    ∃ position, r.options.sync.nextRequest (r.storageAfter i) = .ok (position, request) := by
  obtain ⟨made, hmade, hrequests⟩ := Session.requests_run Recorded.notes r.options.sync
    r.options.deadline limit r.session.recorded
  rw [requests, hmade] at h
  rw [storageAfter, Session.run_recorded]
  exact hrequests i request h

/-- A request is sent, if the ledger has one. -/
theorem requests_ne_nil {r : Replica σ ρ} {limit : Nat} {position : Offset} {request : Request}
    (h : r.options.sync.nextRequest r.storage = .ok (position, request)) (hlimit : 1 ≤ limit) :
    r.requests limit ≠ [] := by
  have hreq : r.options.sync.nextRequest r.session.recorded.storage = .ok (position, request) := h
  obtain ⟨later, hrequests⟩ :=
    Session.requests_run_of_ok Recorded.notes r.options.deadline hreq hlimit
  rw [requests, hrequests]
  exact List.append_ne_nil_of_right_ne_nil _ (List.cons_ne_nil _ _)

end Replica

namespace BufferLedger

/-- What a new ledger can become stays proper, and its partition stays where it is. -/
theorem proper_of_reaches {dataStart capacity : Offset} {contents : Bytes} {l : BufferLedger}
    (h : Storage.Reaches (ofContents dataStart capacity contents).refresh l) :
    l.flat.Proper ∧ l.dataStart = dataStart := by
  obtain ⟨f, rfl, hproper, hstart⟩ := FlatStorage.invariant_of_reaches
    (P := fun f => f.Proper ∧ f.dataStart = dataStart) h
    ⟨_, rfl, (sound_ofContents dataStart capacity contents).proper, rfl⟩
    (fun _ offset data hf => ⟨hf.1.write offset data, hf.2⟩)
    fun _ hf => ⟨hf.1.refresh, hf.2⟩
  exact ⟨hproper, hstart⟩

/-- A ledger in one buffer can be made ready, whatever it is made with. Then, whatever is written
to it and refreshed, whether that succeeds or fails, its partition stays where it is and its first
free offset lies in it, up to the capacity. The window at the first free offset, and so the
frontier of a replica with that ledger, is the caught-up cursor there. Each request that such a
replica sends is for the first free offset that its ledger has in that round, and the ledger is
still one of those that it is about. -/
theorem frontier_of_reaches (dataStart capacity : Offset) (contents : Bytes) :
    ∃ l₀, Storage.load (ofContents dataStart capacity contents) = .ok l₀
      ∧ ∀ l, Storage.Reaches l₀ l →
        ∃ g, Storage.geometry l = .ok g ∧ g.dataStart = dataStart ∧ g.Ordered
          ∧ (∀ limit, g.resume limit = .caughtUp g.nextWrite)
          ∧ ∀ {ρ : Type} [Remote ρ] (r : Replica BufferLedger ρ), r.storage = l →
            r.frontier = .ok (.caughtUp g.nextWrite)
            ∧ ∀ limit,
              (1 ≤ limit → r.options.sync.lookBack.toNat < memoryLimit → r.requests limit ≠ [])
              ∧ ∀ i request, (r.requests limit)[i]? = some request →
                Storage.Reaches l₀ (r.storageAfter i)
                ∧ request.position? = some (r.storageAfter i).nextWrite := by
  refine ⟨_, load_ofContents dataStart capacity contents, ?_⟩
  intro l hl
  obtain ⟨hproper, hstart⟩ := proper_of_reaches hl
  have hordered := hproper.ordered
  refine ⟨l.flat.geometry, rfl, hstart, hordered, hordered.resume_eq, ?_⟩
  rintro ρ _ r rfl
  refine ⟨?_, ?_⟩
  · change Except.ok (r.storage.flat.geometry.resume r.options.sync.window) = _
    rw [hordered.resume_eq]
  · intro limit
    refine ⟨?_, ?_⟩
    · intro hlimit hback
      exact Replica.requests_ne_nil (SyncOptions.nextRequest_eq rfl hback) hlimit
    · intro i request hi
      have hreach : Storage.Reaches _ (r.storageAfter i) := hl.trans
        (Session.reaches_of_run r.options.sync r.options.deadline i r.session)
      have hkeeps : FlatStorage.Keeps (r.storageAfter i) (r.storageAfter i).flat := rfl
      obtain ⟨position, hreq⟩ := Replica.nextRequest_of_requests hi
      have hposition := SyncOptions.position?_of_nextRequest (FlatStorage.geometry_eq hkeeps) hreq
      rw [(proper_of_reaches hreach).1.ordered.resume_eq] at hposition
      exact ⟨hreach, hposition⟩

/-- A ledger whose capacity is raised for its contents. Writes before the partition, past the last
offset and past all memory fail; an empty write past the capacity makes it grow, and counts after
the next refresh. A replica then asks for what follows that write. -/
theorem frontier_of_reaches_emptyWrite :
    ∃ l₀ t u, Storage.load (ofContents 10 3 [1, 2]) = .ok l₀
      ∧ Storage.Reaches l₀ t ∧ u = (Storage.refresh t).2
      ∧ Storage.geometry t = .ok { dataStart := 10, capacity := 131072, nextWrite := 12 }
      ∧ Storage.geometry u = .ok { dataStart := 10, capacity := 131072, nextWrite := 65540 }
      ∧ ∃ r : Replica BufferLedger Script, r.storage = u
        ∧ r.frontier = .ok (.caughtUp 65540)
        ∧ ∃ request later, r.requests 3 = request :: later ∧ request.position? = some 65540 := by
  obtain ⟨l₀, hload, hall⟩ := frontier_of_reaches 10 3 [1, 2]
  cases hload
  have hreach := Storage.Reaches.write 65540 [] (.write (2 ^ 60) [3] (.write Offset.last [3, 4]
    (.write 4 [3] (.start (s := (ofContents 10 3 [1, 2]).refresh)))))
  obtain ⟨g, hg, _, _, _, hreplica⟩ := hall _ (.refresh hreach)
  have hgeometry : g = { dataStart := 10, capacity := 131072, nextWrite := 65540 } := by
    apply Except.ok.inj
    rw [← hg]
    decide +kernel
  subst hgeometry
  obtain ⟨hfrontier, hrequests⟩ := hreplica (ρ := Script)
    { storage := _, remote := { lines := [] } } rfl
  obtain ⟨hsent, hposition⟩ := hrequests 3
  obtain ⟨request, later, hlist⟩ := List.exists_cons_of_ne_nil (hsent (by decide) (by decide))
  have hfirst := (hposition 0 request (by rw [hlist]; rfl)).2
  refine ⟨_, _, _, rfl, hreach, rfl, by decide +kernel, hg,
    { storage := _, remote := { lines := [] } }, rfl, hfrontier, request, later, hlist, ?_⟩
  rw [hfirst]
  decide +kernel

end BufferLedger

end ByteLedger
