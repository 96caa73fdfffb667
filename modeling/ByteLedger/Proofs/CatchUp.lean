import ByteLedger.Proofs.Serving
import ByteLedger.Proofs.Session
import ByteLedger.Proofs.Settled

set_option autoImplicit false

/-!
# Catching up

A settled ledger, one with no unrefreshed writes, that follows a flat ledger gains the
bytes after its first free offset, window by window, until its first free offset is the
frontier of the other (`Session.run_gains`). What carries the induction on the rounds is
that the two agree wherever a later round may look back, which a gained window keeps: it
consists of the other's bytes.
-/

namespace ByteLedger

/-! ## One window -/

theorem Progress.count_eq (p : Progress) (r : Response) :
    p.count r
      = { p with
          chunksApplied := p.chunksApplied + min 1 r.data.length
          bytesWritten := p.bytesWritten + r.data.length } := by
  unfold count
  cases r.data with
  | nil => rfl
  | cons b bs =>
    have hmin : min 1 (bs.length + 1) = 1 := by omega
    rw [List.isEmpty_cons, List.length_cons, hmin]
    rfl

/-- The caught-up cursor changes nothing. It is refused by a storage that is past it. -/
theorem applyWindow_caughtUp {σ : Type} [Storage σ] (s : σ) (position frontier : Offset) :
    applyWindow s position (.ofCursor (.caughtUp frontier) [])
      = (if frontier < position then .error (.behind position frontier) else .ok (), s) := by
  rw [applyWindow, Response.parsed_ofCursor]
  change (if frontier < position then _ else _) = _
  split
  · rfl
  · rfl

/-- A served window after which more data follows is appended whole. -/
theorem append_of_more {σ : Type} [Storage σ] {s s' : σ} {f : Flat} {position limit : Offset}
    (h : applyWindow s position (f.response position limit) = (.ok (), s'))
    (hmore : (f.response position limit).parsed.more = true) :
    Storage.append s (f.geometry.start position)
        (Bytes.span f.byte (f.geometry.start position).toNat (Response.windowSize limit))
      = (.ok (), s') := by
  obtain ⟨hpos, _, hposition, hdata⟩ := Flat.response_of_more hmore
  obtain ⟨_, ⟨hempty, _⟩ | ⟨_, happend⟩⟩ := applyWindow_ok_cases h
  · have hlength := congrArg List.length hdata
    rw [hempty, Bytes.length_span] at hlength
    exact absurd hlength (Nat.ne_of_lt hpos)
  · rw [hposition, hdata] at happend
    exact happend

section

variable {l : BufferLedger} {f : Flat} {limit : Offset}

/-- What a settled ledger makes of a window that was served for its first free offset. -/
theorem applyWindow_response (hl : l.Settled) (hd : f.dataStart = l.dataStart)
    (hle : l.nextWrite.toNat ≤ f.geometry.frontier.toNat) :
    ∃ l', applyWindow l l.nextWrite (f.response l.nextWrite limit) = (.ok (), l')
      ∧ l.Gains l' f.byte
          (min (Response.windowSize limit) (f.geometry.frontier.toNat - l.nextWrite.toNat))
      ∧ (f.response l.nextWrite limit).data.length
          = min (Response.windowSize limit) (f.geometry.frontier.toNat - l.nextWrite.toNat)
      ∧ ((f.response l.nextWrite limit).parsed.more = true
          ↔ 0 < Response.windowSize limit
            ∧ l.nextWrite.toNat + Response.windowSize limit < f.geometry.frontier.toNat) := by
  have hstart : f.geometry.start l.nextWrite = l.nextWrite := by
    apply UInt64.toNat_inj.1
    rw [Geometry.toNat_start, show f.geometry.dataStart = l.dataStart from hd]
    exact Nat.max_eq_right hl.dataStart_le
  have hlast := Offset.toNat_lt f.geometry.frontier
  have hsize : Response.windowSize limit ≤ Response.dataLimit.toNat := Nat.min_le_right _ _
  have hmemory : Response.dataLimit.toNat < BufferLedger.memoryLimit := by decide
  by_cases h : l.nextWrite.toNat < f.geometry.frontier.toNat ∧ 0 < Response.windowSize limit
  · have hresponse := f.response_of_lt l.nextWrite limit
    rw [hstart] at hresponse
    obtain ⟨c, hc, hposition, hmore⟩ := hresponse h.1 h.2
    obtain ⟨l', happend, hgains⟩ := BufferLedger.Gains.of_append hl f.byte
      (min (Response.windowSize limit) (f.geometry.frontier.toNat - l.nextWrite.toNat))
      (by omega) (by omega)
    have hlength := Bytes.length_span f.byte l.nextWrite.toNat
      (min (Response.windowSize limit) (f.geometry.frontier.toNat - l.nextWrite.toNat))
    rw [hc, Response.parsed_ofCursor]
    refine ⟨l', ?_, hgains, hlength, ?_⟩
    · rw [applyWindow, Response.parsed_ofCursor, Response.data_ofCursor, hposition,
        if_neg (UInt64.lt_irrefl _), if_neg, happend]
      intro hempty
      rw [List.isEmpty_iff_length_eq_zero] at hempty
      omega
    · change c.more = true ↔ _
      rw [hmore]
      omega
  · have hcaught := f.response_of_le l.nextWrite limit
    rw [hstart] at hcaught
    have hnone : min (Response.windowSize limit)
        (f.geometry.frontier.toNat - l.nextWrite.toNat) = 0 := by omega
    rw [hcaught (by omega), Response.parsed_ofCursor, hnone]
    refine ⟨l, ?_, .refl hl f.byte, rfl, ?_⟩
    · rw [applyWindow_caughtUp, if_neg]
      rw [UInt64.lt_iff_toNat_lt]
      omega
    · change false = true ↔ _
      constructor
      · intro hmore
        cases hmore
      · rintro ⟨hpos, hlt⟩
        exact absurd ⟨by omega, hpos⟩ h

/-- A ledger that is past the frontier refuses the window that it is served. -/
theorem applyWindow_response_behind (hlt : f.geometry.frontier.toNat < l.nextWrite.toNat) :
    applyWindow l l.nextWrite (f.response l.nextWrite limit)
      = (.error (.behind l.nextWrite f.geometry.frontier), l) := by
  have hstart := f.geometry.toNat_start l.nextWrite
  rw [f.response_of_le l.nextWrite limit (by omega), applyWindow_caughtUp,
    if_pos (UInt64.lt_iff_toNat_lt.2 hlt)]

end

/-! ## One round -/

/-- What a session has done after one more round that gained `k` bytes. -/
def Progress.gain (p : Progress) (k : Nat) : Progress where
  rounds := p.rounds + 1
  chunksApplied := p.chunksApplied + min 1 k
  bytesWritten := p.bytesWritten + k

namespace Session

variable {ρ : Type} [Remote ρ] {options : SyncOptions} {s : Session BufferLedger ρ} {f : Flat}
  {limit : Offset}

/-- A round with a remote that serves a flat ledger receives the answer to its request. -/
theorem round_of_serves (hl : s.storage.Sound) (hserves : Remote.Serves s.remote f limit)
    (hback : options.lookBack.toNat ≤ Request.bytesBeforeLimit) :
    round options none s
      = receive { s with progress := s.progress.beginRound } s.storage.nextWrite
          (f.answer limit s.storage.nextWrite s.storage.byteAt
            (options.sent s.storage.nextWrite)) := by
  have hsent := options.sent_le s.storage.nextWrite
  have hkeeps : FlatStorage.Keeps s.storage s.storage.flat := rfl
  have hreq := options.nextRequest_eq hkeeps (Nat.lt_of_le_of_lt hback (by decide))
  rw [hl.frontier_eq] at hreq
  have hfetch := hserves s.storage.nextWrite s.storage.byteAt
    (options.sent s.storage.nextWrite) hsent.1 (Nat.le_trans hsent.2 hback)
  rw [round_of_fetch hreq hfetch]

/-- A round with a remote that agrees receives its window. -/
theorem round_of_agrees (hl : s.storage.Sound) (hserves : Remote.Serves s.remote f limit)
    (hback : options.lookBack.toNat ≤ Request.bytesBeforeLimit)
    (hagrees : f.Agrees s.storage.byteAt s.storage.nextWrite.toNat options.lookBack.toNat) :
    round options none s
      = receive { s with progress := s.progress.beginRound } s.storage.nextWrite
          (.ok (f.response s.storage.nextWrite limit)) := by
  have hsent := options.sent_le s.storage.nextWrite
  have hnone : f.divergence? s.storage.nextWrite s.storage.byteAt
      (options.sent s.storage.nextWrite) = none :=
    Flat.divergence?_eq_none (hagrees.mono hsent.2)
  rw [round_of_serves hl hserves hback, Flat.answer, hnone]

/-- A round with a remote that agrees and has committed as much gains one window. -/
theorem round_gains (hl : s.storage.Settled) (hserves : Remote.Serves s.remote f limit)
    (hback : options.lookBack.toNat ≤ Request.bytesBeforeLimit)
    (hagrees : f.Agrees s.storage.byteAt s.storage.nextWrite.toNat options.lookBack.toNat)
    (hd : f.dataStart = s.storage.dataStart)
    (hle : s.storage.nextWrite.toNat ≤ f.geometry.frontier.toNat) :
    ∃ l', s.storage.Gains l' f.byte (min (Response.windowSize limit)
        (f.geometry.frontier.toNat - s.storage.nextWrite.toNat))
      ∧ round options none s
          = (if 0 < Response.windowSize limit ∧ s.storage.nextWrite.toNat
                + Response.windowSize limit < f.geometry.frontier.toNat then .more else .finished,
              { s with
                storage := l'
                progress := s.progress.gain (min (Response.windowSize limit)
                  (f.geometry.frontier.toNat - s.storage.nextWrite.toNat)) }) := by
  obtain ⟨l', happly, hgains, hlength, hmore⟩ := applyWindow_response hl hd hle
  refine ⟨l', hgains, ?_⟩
  rw [round_of_agrees hl.sound hserves hback hagrees]
  simp only [receive]
  rw [happly]
  simp only [hmore, Progress.count_eq, hlength]
  rfl

end Session

/-- What was gained from a flat ledger agrees with it, and so does what agreed before. -/
theorem BufferLedger.Gains.agrees {l l' : BufferLedger} {f : Flat} {k n : Nat}
    (h : l.Gains l' f.byte k) (hd : f.dataStart = l.dataStart)
    (hagrees : f.Agrees l.byteAt l.nextWrite.toNat n) :
    f.Agrees l'.byteAt l'.nextWrite.toNat n := by
  intro o ho hn hp hf
  have hnext := h.nextWrite_eq
  by_cases hlt : o < l.nextWrite.toNat
  · have ho' : l.dataStart.toNat ≤ o := by
      rw [← hd]
      exact ho
    rw [h.byteAt_eq ho' hlt]
    exact hagrees o ho (by omega) hlt hf
  · exact h.byte_eq o (by omega) (by omega)

/-! ## Whole sessions -/

/-- What a session has done after the rounds that gain `n` bytes in windows of `w`. -/
def Progress.gainAll (p : Progress) (n w : Nat) : Progress where
  rounds := p.rounds + max 1 (windowCount n w)
  chunksApplied := p.chunksApplied + windowCount n w
  bytesWritten := p.bytesWritten + n

theorem Progress.gainAll_of_le {n w : Nat} (p : Progress) (hw : 0 < w) (h : n ≤ w) :
    p.gainAll n w = p.gain n := by
  have hcount := windowCount_of_le hw h
  have hrounds : max 1 (windowCount n w) = 1 := by omega
  rw [gainAll, hrounds, hcount, gain]

theorem Progress.gainAll_add {n w : Nat} (p : Progress) (hw : 0 < w) (hn : 0 < n) :
    p.gainAll (n + w) w = (p.gain w).gainAll n w := by
  have hcount := windowCount_add hw hn
  have hpos := windowCount_pos hw hn
  have hrounds : p.rounds + max 1 (windowCount n w + 1)
      = p.rounds + 1 + max 1 (windowCount n w) := by omega
  have hchunks : p.chunksApplied + (windowCount n w + 1)
      = p.chunksApplied + min 1 w + windowCount n w := by omega
  have hbytes : p.bytesWritten + (n + w) = p.bytesWritten + w + n := by omega
  rw [gainAll, gainAll, hcount, hrounds, hchunks, hbytes]
  rfl

namespace Session

variable {ρ : Type} [Remote ρ] {options : SyncOptions} {f : Flat} {limit : Offset}

/-- A session with a remote that agrees and has committed as much ends when all that the
remote has committed is gained. -/
theorem run_gains (hwindow : 0 < Response.windowSize limit)
    (hback : options.lookBack.toNat ≤ Request.bytesBeforeLimit) {s : Session BufferLedger ρ}
    (hl : s.storage.Settled) (hserves : Remote.Serves s.remote f limit)
    (hagrees : f.Agrees s.storage.byteAt s.storage.nextWrite.toNat options.lookBack.toNat)
    (hd : f.dataStart = s.storage.dataStart)
    (hle : s.storage.nextWrite.toNat ≤ f.geometry.frontier.toNat) :
    ∃ l', s.storage.Gains l' f.byte (f.geometry.frontier.toNat - s.storage.nextWrite.toNat)
      ∧ ∀ rounds, max 1 (windowCount (f.geometry.frontier.toNat - s.storage.nextWrite.toNat)
            (Response.windowSize limit)) ≤ rounds →
          run options none rounds s
            = (.finished
                { progress := s.progress.gainAll
                    (f.geometry.frontier.toNat - s.storage.nextWrite.toNat)
                    (Response.windowSize limit)
                  finalPosition := l'.nextWrite },
                { s with
                  storage := l'
                  progress := s.progress.gainAll
                    (f.geometry.frontier.toNat - s.storage.nextWrite.toNat)
                    (Response.windowSize limit) }) := by
  obtain ⟨n, hn⟩ : ∃ n, n = f.geometry.frontier.toNat - s.storage.nextWrite.toNat := ⟨_, rfl⟩
  -- The bytes that are still missing become fewer with every round that is not the last.
  induction n using Nat.strongRecOn generalizing s with
  | ind n ih =>
    obtain ⟨l', hgains, hround⟩ := round_gains hl hserves hback hagrees hd hle
    rw [← hn] at hgains hround ⊢
    by_cases hmore : Response.windowSize limit < n
    · rw [Nat.min_eq_left (by omega)] at hgains hround
      rw [if_pos (by omega)] at hround
      have hnext := hgains.nextWrite_eq
      obtain ⟨m, rfl⟩ : ∃ m, n = m + Response.windowSize limit :=
        ⟨n - Response.windowSize limit, by omega⟩
      have hleft : m = f.geometry.frontier.toNat - l'.nextWrite.toNat := by omega
      obtain ⟨l'', hgains', hrun⟩ := ih m (by omega)
        (s := { s with storage := l', progress := s.progress.gain (Response.windowSize limit) })
        hgains.settled hserves (hgains.agrees hd hagrees)
        (hd.trans hgains.dataStart_eq.symm) (show l'.nextWrite.toNat ≤ _ by omega)
        hleft
      have hall := s.progress.gainAll_add hwindow (show 0 < m by omega)
      have hcount := windowCount_add hwindow (show 0 < m by omega)
      rw [← hleft] at hgains' hrun
      rw [hall, hcount, Nat.add_comm m]
      refine ⟨l'', .trans hl hgains hgains', ?_⟩
      intro rounds hrounds
      obtain ⟨rounds, rfl⟩ : ∃ k, rounds = k + 1 := ⟨rounds - 1, by omega⟩
      have hpos := windowCount_pos hwindow (show 0 < m by omega)
      rw [run, hround]
      exact hrun rounds (by omega)
    · rw [Nat.min_eq_right (by omega)] at hgains hround
      rw [if_neg (by omega)] at hround
      refine ⟨l', hgains, ?_⟩
      intro rounds hrounds
      obtain ⟨rounds, rfl⟩ : ∃ k, rounds = k + 1 := ⟨rounds - 1, by omega⟩
      rw [run, hround, Progress.gainAll_of_le _ hwindow (by omega)]
      rfl

end Session

end ByteLedger
