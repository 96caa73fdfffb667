import ByteLedger.Proofs.Convergence

set_option autoImplicit false

/-!
# When a history is refused

A responder compares only the bytes that come along with a request, and a replica sends none
while its first free offset is not greater than what it looks back at. So a divergence may be
found late: a refused session leaves the ledger as it was if something was compared at once,
and else what was compared first were the bytes before some later frontier
(`Session.storage_of_run_refused`).

Once a comparison found nothing, no later one finds anything (`Session.run_ne_refused`). What
carries this is `BufferLedger.Matches`: the ledger agrees with the remote as far as it looks
back, which a window that is taken keeps, as it consists of the remote's bytes. A write that
was not yet counted breaks it where it reaches past the window, since the refresh after the
window makes it count.
-/

namespace ByteLedger

/-- A window that cannot be applied is not a refusal. -/
theorem applyWindow_ne_refused {σ : Type} [Storage σ] {s s' : σ} {position : Offset}
    {r : Response} {reason : String} :
    applyWindow s position r ≠ (.error (.refused reason), s') := by
  intro h
  rcases applyWindow_cases s position r with
    ⟨_, happly⟩ | ⟨_, _, happly⟩ | ⟨_, _, _, hresult⟩
  · rw [happly] at h
    cases h
  · rw [happly] at h
    cases h
  · rw [h] at hresult
    cases happend : (Storage.append s r.parsed.position r.data).1 with
    | error e =>
      rw [happend] at hresult
      cases hresult
    | ok u =>
      rw [happend] at hresult
      cases hresult

/-! ## Taking a window -/

namespace BufferLedger

variable {l l' : BufferLedger} {f : Flat} {limit : Offset} {n : Nat}

/-- `l'` is `l` with `k` bytes from `start` on, where now every write counts. -/
structure Takes (l l' : BufferLedger) (byte : Nat → UInt8) (start k : Nat) : Prop where
  settled : l'.Settled
  nextWrite_eq : l'.nextWrite.toNat = max l.writtenEnd.toNat (start + k)
  dataStart_eq : l'.dataStart = l.dataStart
  overrun_eq : l'.overrun = l.overrun
  byteAt_eq : ∀ o, o < start → l'.byteAt o = l.byteAt o
  byte_eq : ∀ o, start ≤ o → o < start + k → l'.byteAt o = byte o

/-- An append that succeeds is a write inside the partition, and then a refresh. -/
theorem of_append_eq_ok {offset : Offset} {data : Bytes}
    (h : Storage.append l offset data = (.ok (), l')) :
    l.dataStart.toNat ≤ offset.toNat ∧ offset.toNat + data.length < 2 ^ 64
      ∧ l' = (l.put offset (offset.advance data.length) data).refresh := by
  rw [Storage.append,
    show Storage.write l offset data = Storage.orKeep l (l.write offset data) from rfl] at h
  cases hw : l.write offset data with
  | error e =>
    rw [hw] at h
    cases h
  | ok l₁ =>
    rw [hw] at h
    cases h
    obtain ⟨hd, hlen, rfl⟩ := of_write_eq_ok hw
    exact ⟨hd, hlen, rfl⟩

/-- Bytes that were appended at or past the first free offset were taken. -/
theorem Takes.of_append (hl : l.Sound) {offset : Offset} {byte : Nat → UInt8} {k : Nat}
    (hoffset : l.nextWrite.toNat ≤ offset.toNat)
    (h : Storage.append l offset (Bytes.span byte offset.toNat k) = (.ok (), l')) :
    l.Takes l' byte offset.toNat k := by
  obtain ⟨hd, hlen, rfl⟩ := of_append_eq_ok h
  have hspan := Bytes.length_span byte offset.toNat k
  have hstop := Offset.toNat_advance_of_lt hlen
  have hput := byteAt_put hd hstop
  refine ⟨(hl.put hd hlen).settled_refresh, ?_, rfl, ?_, ?_, ?_⟩
  · have hwritten := Offset.toNat_max l.writtenEnd
      (offset.advance (Bytes.span byte offset.toNat k).length)
    rw [toNat_nextWrite_refresh]
    change max (max l.writtenEnd _).toNat l.dataStart.toNat = _
    omega
  · rw [overrun_refresh]
    exact overrun_put hd hstop
  · intro o ho
    exact (hput o).trans (if_neg (by omega))
  · intro o ho ho'
    -- Past the first free offset of a ledger that is overrun there is no offset for a byte.
    have hover := hl.overrun_eq (by omega)
    refine (hput o).trans ?_
    rw [if_pos ⟨hover, ho, by omega⟩, Bytes.getD_span byte (by omega)]
    congr 1
    omega

/-- Bytes that are taken one after the other are taken. -/
theorem Takes.trans {l'' : BufferLedger} {byte : Nat → UInt8} {start k m : Nat}
    (h : l.Takes l' byte start k) (h' : l'.Takes l'' byte (start + k) m)
    (hwritten : l.writtenEnd.toNat ≤ start + k) : l.Takes l'' byte start (k + m) where
  settled := h'.settled
  nextWrite_eq := by
    have hnext := h.nextWrite_eq
    have hnext' := h'.nextWrite_eq
    have hsettled := h.settled.toNat_nextWrite
    omega
  dataStart_eq := h'.dataStart_eq.trans h.dataStart_eq
  overrun_eq := h'.overrun_eq.trans h.overrun_eq
  byteAt_eq := by
    intro o ho
    rw [h'.byteAt_eq o (by omega), h.byteAt_eq o ho]
  byte_eq := by
    intro o ho ho'
    by_cases hlt : o < start + k
    · rw [h'.byteAt_eq o hlt, h.byte_eq o ho hlt]
    · exact h'.byte_eq o (by omega) (by omega)

/-- The committed bytes after bytes were taken at the first free offset. -/
theorem Takes.committed_eq (hl : l.Sound) (hover : l.overrun = false) {byte : Nat → UInt8}
    {k : Nat}
    (h : l.Takes l' byte l.nextWrite.toNat k)
    (hwritten : l.writtenEnd.toNat ≤ l.nextWrite.toNat + k) :
    l'.committed
      = l.committed ++ Bytes.span byte l.nextWrite.toNat
          (l'.nextWrite.toNat - l.nextWrite.toNat) := by
  have hd : l.dataStart.toNat ≤ l.nextWrite.toNat := hl.flat.dataStart_le
  have hnext := h.nextWrite_eq
  have hlen : l'.nextWrite.toNat - l'.dataStart.toNat
      = (l.nextWrite.toNat - l.dataStart.toNat) + (l'.nextWrite.toNat - l.nextWrite.toNat) := by
    rw [h.dataStart_eq]
    omega
  have hmiddle : l.dataStart.toNat + (l.nextWrite.toNat - l.dataStart.toNat)
      = l.nextWrite.toNat := by omega
  rw [committed_eq_span h.settled.sound (h.overrun_eq.trans hover), committed_eq_span hl hover,
    hlen, h.dataStart_eq, ← Bytes.span_append, hmiddle]
  congr 1
  · exact Bytes.span_congr fun o _ ho => h.byteAt_eq o (by omega)
  · exact Bytes.span_congr fun o ho ho' => h.byte_eq o ho (by omega)

/-- What becomes of a window that says that more data follows: it is taken whole. -/
theorem takes_of_applyWindow (hl : l.Sound)
    (h : applyWindow l l.nextWrite (f.response l.nextWrite limit) = (.ok (), l'))
    (hmore : (f.response l.nextWrite limit).parsed.more = true) :
    l.Takes l' f.byte (f.geometry.start l.nextWrite).toNat (Response.windowSize limit) := by
  have hstart := f.geometry.toNat_start l.nextWrite
  exact .of_append hl (by omega) (append_of_more h hmore)

/-- A ledger that agrees with a flat ledger as far as it looks back, and has no uncounted write
past the window that it takes next. -/
structure Matches (l : BufferLedger) (f : Flat) (limit : Offset) (n : Nat) : Prop where
  sound : l.Sound
  agrees : f.Agrees l.byteAt l.nextWrite.toNat n
  writtenEnd_le :
    l.writtenEnd.toNat ≤ (f.geometry.start l.nextWrite).toNat + Response.windowSize limit

/-- The window that is taken keeps a ledger matching. -/
theorem Matches.takes (h : l.Matches f limit n)
    (htakes : l.Takes l' f.byte (f.geometry.start l.nextWrite).toNat
      (Response.windowSize limit)) : l'.Matches f limit n := by
  have hstart := f.geometry.toNat_start l.nextWrite
  have hstart' := f.geometry.toNat_start l'.nextWrite
  have hwritten := h.writtenEnd_le
  have hnext := htakes.nextWrite_eq
  have hnext' := htakes.settled.toNat_nextWrite
  refine ⟨htakes.settled.sound, ?_, by omega⟩
  intro o hd hn hp hf
  change f.geometry.dataStart.toNat ≤ o at hd
  by_cases hlt : o < (f.geometry.start l.nextWrite).toNat
  · -- The window begins where the remote's data does, or at the first free offset.
    rw [htakes.byteAt_eq o hlt]
    exact h.agrees o hd (by omega) (by omega) hf
  · exact htakes.byte_eq o (by omega) (by omega)

end BufferLedger

namespace Session

variable {ρ : Type} [Remote ρ] {options : SyncOptions} {deadline : Option Nat}
  {s t : Session BufferLedger ρ} {f : Flat} {limit : Offset}

/-! ## One round -/

/-- What a round with a remote that serves a flat ledger can come to: a refusal that leaves the
ledger, a window after which more data follows, or something else that ends the session. -/
theorem round_serves_cases {outcome : Outcome} (hl : s.storage.Sound)
    (hserves : Remote.Serves s.remote f limit)
    (hback : options.lookBack.toNat ≤ Request.bytesBeforeLimit)
    (h : round options deadline s = (outcome, t)) :
    (∃ d, f.divergence? s.storage.nextWrite s.storage.byteAt
            (options.sent s.storage.nextWrite) = some d
        ∧ outcome = .failed (.refused d.message) ∧ t.storage = s.storage)
      ∨ (f.divergence? s.storage.nextWrite s.storage.byteAt
            (options.sent s.storage.nextWrite) = none
        ∧ outcome = .more ∧ t.remote = s.remote
        ∧ s.storage.Takes t.storage f.byte (f.geometry.start s.storage.nextWrite).toNat
            (Response.windowSize limit))
      ∨ (outcome ≠ .more ∧ ∀ reason, outcome ≠ .failed (.refused reason)) := by
  have hsent := options.sent_le s.storage.nextWrite
  have hreq := options.nextRequest_eq (s := s.storage) rfl
    (Nat.lt_of_le_of_lt hback (by decide))
  rw [hl.frontier_eq] at hreq
  have hfetch := hserves s.storage.nextWrite s.storage.byteAt
    (options.sent s.storage.nextWrite) hsent.1 (Nat.le_trans hsent.2 hback)
  rcases round_cases h with ⟨e, hreq', _⟩ | ⟨position, request, hreq', hremote, happlied⟩
  · rw [hreq] at hreq'
    cases hreq'
  · rw [hreq] at hreq'
    cases hreq'
    rw [show s.storage.flat.byte = s.storage.byteAt from rfl, hfetch] at hremote happlied
    rcases happlied with ⟨hsame, hunanswered | ⟨e, he, houtcome⟩⟩ | ⟨r, hr, happlied⟩
    · refine Or.inr (Or.inr ?_)
      rw [hunanswered]
      split <;> simp
    · -- The remote fails only where it refuses.
      cases hdiv : f.divergence? s.storage.nextWrite s.storage.byteAt
          (options.sent s.storage.nextWrite) with
      | some d =>
        simp only [Flat.answer, hdiv] at he
        cases he
        exact Or.inl ⟨d, rfl, houtcome, hsame⟩
      | none =>
        simp only [Flat.answer, hdiv] at he
        cases he
    · cases hdiv : f.divergence? s.storage.nextWrite s.storage.byteAt
          (options.sent s.storage.nextWrite) with
      | some d =>
        simp only [Flat.answer, hdiv] at hr
        cases hr
      | none =>
        simp only [Flat.answer, hdiv] at hr
        cases hr
        refine Or.inr ?_
        rcases happlied with ⟨e, happly, houtcome⟩ | ⟨happly, _, houtcome⟩
        · rw [houtcome]
          refine Or.inr ⟨Outcome.noConfusion, ?_⟩
          rintro reason ⟨⟩
          exact applyWindow_ne_refused happly
        · rw [houtcome]
          by_cases hmore : (f.response s.storage.nextWrite limit).parsed.more = true
          · rw [if_pos hmore]
            exact Or.inl ⟨rfl, rfl, hremote, BufferLedger.takes_of_applyWindow hl happly hmore⟩
          · rw [if_neg hmore]
            exact Or.inr ⟨Outcome.noConfusion, fun _ => Outcome.noConfusion⟩

/-! ## Whole sessions -/

/-- A session with a ledger in a buffer fails with its first round, or goes on to fail. -/
theorem run_failed_cases {rounds : Nat} {cause : SyncError}
    (h : run options deadline (rounds + 1) s = (.failed cause, t)) :
    round options deadline s = (.failed cause, t)
      ∨ ∃ u, round options deadline s = (.more, u)
        ∧ run options deadline rounds u = (.failed cause, t) := by
  rcases run_succ_cases options deadline rounds s with
    ⟨u, hround, hrun⟩ | ⟨outcome, u, hround, _, hrun⟩
  · rw [hrun] at h
    exact Or.inr ⟨u, hround, h⟩
  · rw [hrun] at h
    obtain ⟨hending, rfl⟩ := Prod.mk.inj h
    cases outcome with
    | failed e =>
      cases hending
      exact Or.inl hround
    | more => cases hending
    | finished => cases hending
    | expired => cases hending
    | unanswered => cases hending

/-- A session that is refused finds a divergence in its first round and leaves the ledger, or
it finds none there, takes a window and is refused afterwards. -/
theorem run_refused_cases {rounds : Nat} {reason : String} (hl : s.storage.Sound)
    (hserves : Remote.Serves s.remote f limit)
    (hback : options.lookBack.toNat ≤ Request.bytesBeforeLimit)
    (hrun : run options deadline (rounds + 1) s = (.failed (.refused reason), t)) :
    ((∃ d, f.divergence? s.storage.nextWrite s.storage.byteAt
            (options.sent s.storage.nextWrite) = some d)
        ∧ t.storage = s.storage)
      ∨ (f.divergence? s.storage.nextWrite s.storage.byteAt
            (options.sent s.storage.nextWrite) = none
        ∧ ∃ u, Remote.Serves u.remote f limit
          ∧ s.storage.Takes u.storage f.byte (f.geometry.start s.storage.nextWrite).toNat
              (Response.windowSize limit)
          ∧ run options deadline rounds u = (.failed (.refused reason), t)) := by
  rcases run_failed_cases hrun with hround | ⟨u, hround, hrest⟩
  · rcases round_serves_cases hl hserves hback hround with
      ⟨d, hsome, _, hsame⟩ | ⟨_, hmore, _⟩ | ⟨_, hother⟩
    · exact Or.inl ⟨⟨d, hsome⟩, hsame⟩
    · cases hmore
    · exact absurd rfl (hother reason)
  · rcases round_serves_cases hl hserves hback hround with
      ⟨_, _, hrefused, _⟩ | ⟨hnone, _, hremote, htakes⟩ | ⟨hother, _⟩
    · cases hrefused
    · exact Or.inr ⟨hnone, u, by rw [hremote]; exact hserves, htakes, hrest⟩
    · exact absurd rfl hother

/-- A session with a matching ledger is not refused, however many rounds it has. -/
theorem run_ne_refused (hback : options.lookBack.toNat ≤ Request.bytesBeforeLimit)
    (hserves : Remote.Serves s.remote f limit)
    (h : s.storage.Matches f limit options.lookBack.toNat) (rounds : Nat) (reason : String) :
    run options deadline rounds s ≠ (.failed (.refused reason), t) := by
  intro hrun
  induction rounds generalizing s with
  | zero => cases hrun
  | succ rounds ih =>
    have hsent := options.sent_le s.storage.nextWrite
    rcases run_refused_cases h.sound hserves hback hrun with
      ⟨⟨d, hsome⟩, _⟩ | ⟨_, u, hserves', htakes, hrest⟩
    · rw [Flat.divergence?_eq_none (h.agrees.mono hsent.2)] at hsome
      cases hsome
    · exact ih hserves' (h.takes htakes) hrest

/-- A session that is refused was refused at once and has left the ledger, or it began at an
offset from which nothing is looked back at, and has taken windows until something was. -/
theorem storage_of_refused {rounds : Nat} {reason : String} (hl : s.storage.Sound)
    (hserves : Remote.Serves s.remote f limit)
    (hback : options.lookBack.toNat ≤ Request.bytesBeforeLimit)
    (hd : f.dataStart = s.storage.dataStart)
    (hwritten : s.storage.writtenEnd.toNat
      ≤ s.storage.nextWrite.toNat + Response.windowSize limit)
    (hrun : run options deadline rounds s = (.failed (.refused reason), t)) :
    (options.lookBack.toNat < s.storage.nextWrite.toNat ∧ t.storage = s.storage)
      ∨ (s.storage.nextWrite.toNat ≤ options.lookBack.toNat
        ∧ options.lookBack.toNat < t.storage.nextWrite.toNat
        ∧ t.storage.nextWrite.toNat ≤ options.lookBack.toNat + Response.windowSize limit
        ∧ ∃ k, Response.windowSize limit ≤ k
          ∧ s.storage.Takes t.storage f.byte s.storage.nextWrite.toNat k) := by
  induction rounds generalizing s with
  | zero => cases hrun
  | succ rounds ih =>
    have hfirst : s.storage.dataStart.toNat ≤ s.storage.nextWrite.toNat := hl.flat.dataStart_le
    have hstart := f.geometry.toNat_start s.storage.nextWrite
    rw [show f.geometry.dataStart = s.storage.dataStart from hd, Nat.max_eq_right hfirst]
      at hstart
    rcases run_refused_cases hl hserves hback hrun with
      ⟨⟨d, hsome⟩, hsame⟩ | ⟨hnone, u, hserves', htakes, hrest⟩
    · -- Where a divergence was found something was sent.
      refine Or.inl ⟨?_, hsame⟩
      by_cases hshort : s.storage.nextWrite.toNat ≤ options.lookBack.toNat
      · rw [show options.sent s.storage.nextWrite = 0 from if_pos hshort,
          Flat.divergence?_zero] at hsome
        cases hsome
      · omega
    · by_cases hshort : s.storage.nextWrite.toNat ≤ options.lookBack.toNat
      · rw [hstart] at htakes
        have hnext := htakes.nextWrite_eq
        have hsettled := htakes.settled.toNat_nextWrite
        rcases ih htakes.settled.sound hserves' (hd.trans htakes.dataStart_eq.symm) (by omega)
            hrest with ⟨hlong, hsame⟩ | ⟨_, hlow, hhigh, k, _, htakes'⟩
        · rw [hsame]
          exact Or.inr ⟨hshort, hlong, by omega, _, Nat.le_refl _, htakes⟩
        · rw [hnext, Nat.max_eq_right hwritten] at htakes'
          exact Or.inr ⟨hshort, hlow, hhigh, _, Nat.le_add_right _ _,
            htakes.trans htakes' hwritten⟩
      · -- What was compared agrees, so no later round is refused.
        have hagrees := Flat.agrees_of_divergence? hnone
        rw [show options.sent s.storage.nextWrite = options.lookBack.toNat from
          if_neg hshort] at hagrees
        exact absurd hrun (run_ne_refused hback hserves ⟨hl, hagrees, by omega⟩ _ reason)

/-! ## Sessions with a ledger -/

/-- What is left of a ledger in use when a session with another of the same partition is
refused. If its first free offset was greater than what it looks back at, it is what it was. If
not, nothing was compared at first: then it has its own committed bytes and after them those of
the other, no further than to where something was compared. Nothing is said of a ledger with
uncounted writes past the first window. -/
theorem storage_of_run_refused (options : SyncOptions) (serving : ServeOptions)
    (deadline : Option Nat) (here there : BufferLedger) (hhere : here.Reachable)
    (hd : here.dataStart = there.dataStart) (hback : options.lookBack.toNat ≤ 65536)
    (rounds : Nat) (reason : String) (t : Session BufferLedger (Hosted BufferLedger))
    (hrun : run options deadline rounds
        { storage := here
          remote := ({ storage := there, options := serving } : Hosted BufferLedger) }
      = (.failed (.refused reason), t)) :
    (options.lookBack.toNat < here.nextWrite.toNat ∧ t.storage = here)
    ∨ (here.nextWrite.toNat ≤ options.lookBack.toNat
      ∧ options.lookBack.toNat < t.storage.nextWrite.toNat
      ∧ t.storage.nextWrite.toNat ≤ options.lookBack.toNat + min serving.limit.toNat 8388608
      ∧ t.storage.committed
        = here.committed ++ there.bytesAt here.nextWrite.toNat
            (t.storage.nextWrite.toNat - here.nextWrite.toNat))
    ∨ here.nextWrite.toNat + min serving.limit.toNat 8388608 < here.writtenEnd.toNat := by
  have hsound := hhere.sound
  have hserves : Remote.Serves ({ storage := there, options := serving } : Hosted BufferLedger)
      there.flat serving.limit := Hosted.serves _ rfl
  rw [← Response.windowSize_eq]
  by_cases hwritten : here.writtenEnd.toNat
      ≤ here.nextWrite.toNat + Response.windowSize serving.limit
  · rcases storage_of_refused
        (s := { storage := here
                remote := ({ storage := there, options := serving } : Hosted BufferLedger) })
        hsound hserves hback hd.symm hwritten hrun with
      hsame | ⟨hshort, hlow, hhigh, k, hk, htakes⟩
    · exact Or.inl hsame
    · refine Or.inr (Or.inl ⟨hshort, hlow, hhigh, ?_⟩)
      -- What is looked back at is too little for the frontier to be the last offset.
      have hshort' : here.nextWrite.toNat ≤ options.lookBack.toNat := hshort
      have hover := hsound.overrun_eq (by omega)
      rw [BufferLedger.bytesAt_eq_span]
      exact htakes.committed_eq hsound hover (Nat.le_trans hwritten (Nat.add_le_add_left hk _))
  · exact Or.inr (Or.inr (by omega))

/-- As many bytes are held as are looked back at, and one of them is not the remote's. -/
def atLookBack : Session BufferLedger (Hosted BufferLedger) where
  storage := (BufferLedger.ofContents 0 0 [1, 2, 3]).refresh
  remote :=
    { storage := (BufferLedger.ofContents 0 0 [1, 9, 3, 4, 5]).refresh
      options := { limit := 1 } }

/-- All that is committed is the remote's, but four bytes that do not count yet are not. -/
def uncounted : Session BufferLedger (Hosted BufferLedger) where
  storage := (Storage.write (BufferLedger.ofContents 0 0 [1, 2, 3]).refresh 3 [9, 9, 9, 9]).2
  remote :=
    { storage := (BufferLedger.ofContents 0 0 [1, 2, 3, 4, 5, 6, 7, 8]).refresh
      options := { limit := 1 } }

/-- One byte is taken before the divergence is found. -/
theorem storage_of_run_refused_atLookBack :
    atLookBack.storage.Reachable
    ∧ (run { lookBack := 3 } none 2 atLookBack).1
        = .failed
            (.refused "history diverged at offset 1: requester=020304 responder=090304")
    ∧ (run { lookBack := 3 } none 2 atLookBack).2.storage.nextWrite.toNat ≤ 4 := by
  have hreach : atLookBack.storage.Reachable := ⟨0, 0, [1, 2, 3], _, rfl, .start⟩
  have hrefused : (run { lookBack := 3 } none 2 atLookBack).1
      = .failed
          (.refused "history diverged at offset 1: requester=020304 responder=090304") := by
    decide +kernel
  have hrun : run { lookBack := 3 } none 2 atLookBack
      = (.failed
          (.refused "history diverged at offset 1: requester=020304 responder=090304"),
          (run { lookBack := 3 } none 2 atLookBack).2) := by rw [← hrefused]
  have hleft := storage_of_run_refused { lookBack := 3 } { limit := 1 } none atLookBack.storage
    atLookBack.remote.storage hreach (by decide) (by decide) 2 _ _ hrun
  have hnext : (run { lookBack := 3 } none 2 atLookBack).2.storage.nextWrite.toNat ≤ 4 := by
    rcases hleft with ⟨hlong, _⟩ | ⟨_, _, hhigh, _⟩ | hwritten
    · exact absurd hlong (by decide)
    · exact Nat.le_trans hhigh (by decide)
    · exact absurd hwritten (by decide)
  exact ⟨hreach, hrefused, hnext⟩

/-- A refusal may come after something was written: where nothing is sent at first, and where
a write that did not count becomes the frontier. -/
theorem run_refused_late :
    (atLookBack.storage.dataStart = atLookBack.remote.storage.dataStart
      ∧ (run { lookBack := 3 } none 2 atLookBack).1
          = .failed
              (.refused "history diverged at offset 1: requester=020304 responder=090304")
      ∧ atLookBack.storage.committed = [1, 2, 3]
      ∧ (run { lookBack := 3 } none 2 atLookBack).2.storage.committed = [1, 2, 3, 4])
    ∧ uncounted.storage.dataStart = uncounted.remote.storage.dataStart
      ∧ (run { lookBack := 1 } none 2 uncounted).1
          = .failed (.refused "history diverged at offset 6: requester=09 responder=07")
      ∧ uncounted.storage.committed = [1, 2, 3]
      ∧ (run { lookBack := 1 } none 2 uncounted).2.storage.committed
          = [1, 2, 3, 4, 9, 9, 9] := by
  decide +kernel

end Session

/-! ## Different partitions -/

namespace BufferLedger

/-- The committed byte at an offset, if one is committed there. -/
def committedAt? (l : BufferLedger) (o : Nat) : Option UInt8 :=
  if l.dataStart.toNat ≤ o then l.committed[o - l.dataStart.toNat]? else none

/-- The offsets below the partition of a ledger at which another has committed other bytes than
zeros, as far as the ledger looks back. The ledger holds none there, and sends zeros. -/
def unheld (here there : BufferLedger) (n : Nat) : Set Nat :=
  { o | here.nextWrite.toNat - n ≤ o ∧ o < here.dataStart.toNat
      ∧ ∃ b, there.committedAt? o = some b ∧ b ≠ 0 }

/-- What is committed is what is read between the beginning of the partition and the first free
offset. -/
theorem committedAt?_eq_some_iff {l : BufferLedger} (h : l.Sound) (hover : l.overrun = false)
    {o : Nat} {b : UInt8} :
    l.committedAt? o = some b
      ↔ l.dataStart.toNat ≤ o ∧ o < l.nextWrite.toNat ∧ l.byteAt o = b := by
  unfold committedAt?
  rw [committed_eq_span h hover]
  split
  · rename_i hd
    by_cases ho : o < l.nextWrite.toNat
    · rw [Bytes.getElem?_span l.byteAt (by omega), Nat.add_sub_of_le hd, Option.some.injEq]
      exact ⟨fun hb => ⟨hd, ho, hb⟩, fun hb => hb.2.2⟩
    · rw [List.getElem?_eq_none (by rw [Bytes.length_span]; omega)]
      exact iff_of_false (Option.some_ne_none b).symm (fun hb => ho hb.2.1)
  · rename_i hd
    exact iff_of_false (Option.some_ne_none b).symm (fun hb => hd hb.1)

section

variable {here there : BufferLedger} {n : Nat} (hhere : here.Sound) (hthere : there.Sound)
  (hover : here.overrun = false) (hover' : there.overrun = false)

include hhere hthere hover hover'

/-- Two ledgers that hold the same where both hold anything agree up to where the one holds
nothing and the other something. -/
theorem agrees_of_unheld
    (hcommon : ∀ o a b, here.committedAt? o = some a → there.committedAt? o = some b → a = b)
    (h : here.unheld there n = ∅) :
    there.flat.Agrees here.byteAt here.nextWrite.toNat n := by
  intro o hd hn hp hf
  rw [hthere.frontier_eq] at hf
  have htheirs := (committedAt?_eq_some_iff hthere hover').2 ⟨hd, hf, rfl⟩
  by_cases ho : o < here.dataStart.toNat
  · rw [byteAt_of_lt ho]
    by_contra hne
    have hmem : o ∈ here.unheld there n := ⟨hn, ho, _, htheirs, Ne.symm hne⟩
    rw [h] at hmem
    exact hmem
  · have hours := (committedAt?_eq_some_iff hhere hover).2 ⟨Nat.le_of_not_lt ho, hp, rfl⟩
    exact hcommon o _ _ hours htheirs

end

end BufferLedger

namespace Session

/-- When two ledgers in use that fit, and have committed the same byte wherever both have committed
one, are found to diverge. That is never, in no round, unless the one looks back below its own
partition to where the other has committed something else than zeros; and there it is found at
once, if anything is sent at once. Writes that do not count yet must not reach past the first
window. -/
theorem run_refused_iff_unheld (options : SyncOptions) (serving : ServeOptions)
    (here there : BufferLedger) (hhere : here.Reachable) (hthere : there.Reachable)
    (hfits : here.Fits) (hfits' : there.Fits) (hback : options.lookBack.toNat ≤ 65536)
    (hcommon : ∀ o a b, here.committedAt? o = some a → there.committedAt? o = some b → a = b)
    (hwritten : here.writtenEnd.toNat
      ≤ max there.dataStart.toNat here.nextWrite.toNat + min serving.limit.toNat 8388608) :
    (here.unheld there options.lookBack.toNat = ∅ →
      ∀ (deadline : Option Nat) (rounds : Nat) (reason : String)
        (t : Session BufferLedger (Hosted BufferLedger)),
        run options deadline rounds
            { storage := here
              remote := ({ storage := there, options := serving } : Hosted BufferLedger) }
          ≠ (.failed (.refused reason), t))
    ∧ ((here.unheld there options.lookBack.toNat).Nonempty →
      options.lookBack.toNat < here.nextWrite.toNat →
      ∃ d : Divergence, ∀ rounds, 1 ≤ rounds →
        run options none rounds
            { storage := here
              remote := ({ storage := there, options := serving } : Hosted BufferLedger) }
          = (.failed (.refused d.message),
              { storage := here
                remote := { storage := there, options := serving }
                progress := { rounds := 1 } })) := by
  have hsound := hhere.sound
  have hserves : Remote.Serves ({ storage := there, options := serving } : Hosted BufferLedger)
      there.flat serving.limit := Hosted.serves _ rfl
  have hstart := there.flat.geometry.toNat_start here.nextWrite
  rw [← Response.windowSize_eq] at hwritten
  constructor
  · intro hempty deadline rounds reason t
    have hagrees := BufferLedger.agrees_of_unheld hsound hthere.sound hfits.overrun_eq
      hfits'.overrun_eq hcommon hempty
    exact run_ne_refused
      (s := { storage := here
              remote := ({ storage := there, options := serving } : Hosted BufferLedger) })
      hback hserves ⟨hsound, hagrees, by rw [hstart]; exact hwritten⟩ rounds reason
  · rintro ⟨o, hn, ho, b, hb, hne⟩ hlong
    obtain ⟨hd, hf, rfl⟩ :=
      (BufferLedger.committedAt?_eq_some_iff hthere.sound hfits'.overrun_eq).1 hb
    have hfirst : here.dataStart.toNat ≤ here.nextWrite.toNat := hsound.flat.dataStart_le
    have hsent : options.sent here.nextWrite = options.lookBack.toNat := if_neg (by omega)
    cases hdiv : there.flat.divergence? here.nextWrite here.byteAt
        (options.sent here.nextWrite) with
    | none =>
      have hagrees := Flat.agrees_of_divergence? hdiv o hd (by omega) (by omega)
        (by rw [hthere.sound.frontier_eq]; exact hf)
      rw [BufferLedger.byteAt_of_lt ho] at hagrees
      exact absurd hagrees.symm hne
    | some d =>
      refine ⟨d, fun rounds hrounds => run_of_failed ?_ hrounds⟩
      rw [round_of_serves
        (s := { storage := here
                remote := ({ storage := there, options := serving } : Hosted BufferLedger) })
        hsound hserves hback, Flat.answer, hdiv]
      rfl

/-- A ledger whose partition begins at 2 holds nothing yet. It looks back at one byte, which is
zero, and is refused where the remote has committed another byte there, but only there. -/
theorem run_refused_iff_unheld_empty :
    (∃ d : Divergence, ∀ rounds, 1 ≤ rounds →
      run { lookBack := 1 } none rounds
          { storage := (BufferLedger.ofContents 2 0 []).refresh
            remote := ({ storage := (BufferLedger.ofContents 0 0 [7, 7, 7]).refresh }
              : Hosted BufferLedger) }
        = (.failed (.refused d.message),
            { storage := (BufferLedger.ofContents 2 0 []).refresh
              remote := { storage := (BufferLedger.ofContents 0 0 [7, 7, 7]).refresh }
              progress := { rounds := 1 } }))
    ∧ ∀ rounds reason t,
      run { lookBack := 1 } none rounds
          { storage := (BufferLedger.ofContents 2 0 []).refresh
            remote := ({ storage := (BufferLedger.ofContents 0 0 [7, 0, 7]).refresh }
              : Hosted BufferLedger) }
        ≠ (.failed (.refused reason), t) := by
  have hnext : (BufferLedger.ofContents 2 0 []).refresh.nextWrite.toNat = 2 := by decide
  have hreach : (BufferLedger.ofContents 2 0 []).refresh.Reachable := ⟨2, 0, [], _, rfl, .start⟩
  have hfits : (BufferLedger.ofContents 2 0 []).refresh.Fits := by decide
  have hcommon : ∀ there : BufferLedger, ∀ o a b,
      (BufferLedger.ofContents 2 0 []).refresh.committedAt? o = some a →
      there.committedAt? o = some b → a = b := by
    intro there o a b ha
    obtain ⟨hd, hn, _⟩ :=
      (BufferLedger.committedAt?_eq_some_iff hreach.sound hfits.overrun_eq).1 ha
    rw [hnext] at hn
    exact absurd hn (Nat.not_lt.2 hd)
  refine ⟨?_, ?_⟩
  · exact (run_refused_iff_unheld { lookBack := 1 } {} _
      (BufferLedger.ofContents 0 0 [7, 7, 7]).refresh hreach
      ⟨0, 0, [7, 7, 7], _, rfl, .start⟩ hfits (by decide) (by decide) (hcommon _) (by decide)).2
      ⟨1, by decide, by decide, 7, by decide, by decide⟩ (by decide)
  · refine (run_refused_iff_unheld { lookBack := 1 } {} _
      (BufferLedger.ofContents 0 0 [7, 0, 7]).refresh hreach
      ⟨0, 0, [7, 0, 7], _, rfl, .start⟩ hfits (by decide) (by decide) (hcommon _) (by decide)).1
      ?_ none
    apply Set.eq_empty_of_forall_notMem
    rintro o ⟨hlow, hhigh, b, hb, hne⟩
    rw [hnext] at hlow
    have hone : o = 1 := Nat.le_antisymm (Nat.le_of_lt_succ hhigh) hlow
    subst hone
    cases hb
    exact hne rfl

/-- A ledger that has committed nothing is refused for a byte that it does not hold. -/
theorem run_refused_unheld :
    (BufferLedger.ofContents 2 0 []).refresh.committed = []
    ∧ (run { lookBack := 1 } none 1
        { storage := (BufferLedger.ofContents 2 0 []).refresh
          remote := ({ storage := (BufferLedger.ofContents 0 0 [7, 7, 7]).refresh }
            : Hosted BufferLedger) }).1
      = .failed (.refused "history diverged at offset 1: requester=00 responder=07") := by
  decide +kernel

end Session

end ByteLedger
