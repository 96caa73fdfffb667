import ByteLedger.Proofs.Codec
import ByteLedger.Proofs.Flat
import ByteLedger.Proofs.Window
import ByteLedger.Proofs.Wire
import ByteLedger.Remote.InProcess
import ByteLedger.Replica.Basic

set_option autoImplicit false

/-!
# What a responder answers

Storage that keeps a flat ledger answers a request from the flat ledger alone
(`serve_eq_reply`): it compares the bytes that came along where both sides hold any, and refuses
with the first disagreement, or serves the window. A ledger that is fetched from directly
and a replica give that answer (`Remote.Serves`), because the wire forms of the request and
of the answer are read back.
-/

namespace ByteLedger

/-! ## Comparing histories -/

namespace Bytes

theorem span_succ (byte : Nat → UInt8) (start n : Nat) :
    span byte start (n + 1) = byte start :: span byte (start + 1) n := rfl

theorem firstDifference?_self (bs : Bytes) : firstDifference? bs bs = none := by
  induction bs with
  | nil => rfl
  | cons b bs ih => rw [firstDifference?, if_pos rfl, ih, Option.map_none]

/-- The first disagreement of two spans is at the least offset at which the bytes differ. -/
theorem firstDifference?_span {a b : Nat → UInt8} {start n i : Nat} (hi : i < n)
    (hne : a (start + i) ≠ b (start + i)) (hleast : ∀ j, j < i → a (start + j) = b (start + j)) :
    firstDifference? (span a start n) (span b start n) = some i := by
  induction i generalizing start n with
  | zero =>
    obtain ⟨n, rfl⟩ : ∃ k, n = k + 1 := ⟨n - 1, by omega⟩
    have hfirst : a start ≠ b start := hne
    rw [span_succ, span_succ, firstDifference?, if_neg hfirst]
  | succ i ih =>
    obtain ⟨n, rfl⟩ : ∃ k, n = k + 1 := ⟨n - 1, by omega⟩
    have hfirst : a start = b start := hleast 0 (Nat.succ_pos i)
    have hshift : ∀ j, start + 1 + j = start + (j + 1) := by omega
    have hrest : firstDifference? (span a (start + 1) n) (span b (start + 1) n) = some i := by
      apply ih (by omega)
      · rw [hshift]
        exact hne
      · intro j hj
        rw [hshift]
        exact hleast (j + 1) (by omega)
    rw [span_succ, span_succ, firstDifference?, if_pos hfirst, hrest, Option.map_some]

theorem lt_length_of_firstDifference? {as bs : Bytes} {i : Nat}
    (h : firstDifference? as bs = some i) : i < as.length ∧ i < bs.length := by
  induction as generalizing bs i with
  | nil => cases h
  | cons a as ih =>
    cases bs with
    | nil => cases h
    | cons b bs =>
      rw [firstDifference?] at h
      split at h
      · obtain ⟨j, hj, rfl⟩ := Option.map_eq_some_iff.1 h
        have hlt := ih hj
        simp only [List.length_cons]
        omega
      · cases h
        exact ⟨Nat.succ_pos _, Nat.succ_pos _⟩

theorem length_flatMap_hexPair (bs : Bytes) : (bs.flatMap hexPair).length = 2 * bs.length := by
  induction bs with
  | nil => rfl
  | cons b bs ih =>
    rw [List.flatMap_cons, List.length_append, ih, List.length_cons, hexPair]
    simp only [List.length_cons, List.length_nil]
    omega

theorem length_hex_le (bs : Bytes) : Utf8.length (hex bs) ≤ 8 * bs.length := by
  have hle := Utf8.length_ofList_le (bs.flatMap hexPair)
  rw [length_flatMap_hexPair] at hle
  rw [hex]
  omega

end Bytes

namespace Divergence

theorem find?_self (start : Offset) (bs : Bytes) : find? start bs bs = none := by
  rw [find?, Bytes.firstDifference?_self]

/-- What is found is shown with at most eight bytes of each side. -/
theorem length_le_of_find? {start : Offset} {theirs ours : Bytes} {d : Divergence}
    (h : find? start theirs ours = some d) :
    d.theirs.length ≤ context ∧ d.ours.length ≤ context := by
  unfold find? at h
  split at h
  · cases h
  · cases h
    simp only [Bytes.length_slice]
    omega

/-- The divergence of two spans is at the least offset at which the bytes differ. -/
theorem find?_span {start : Offset} {theirs ours : Nat → UInt8} {n o : Nat}
    (hstart : start.toNat ≤ o) (hn : o < start.toNat + n) (ho : o < 2 ^ 64)
    (hne : theirs o ≠ ours o)
    (hleast : ∀ o', start.toNat ≤ o' → o' < o → theirs o' = ours o') :
    ∃ d, find? start (Bytes.span theirs start.toNat n) (Bytes.span ours start.toNat n) = some d
      ∧ d.offset.toNat = o := by
  obtain ⟨i, rfl⟩ := Nat.exists_eq_add_of_le hstart
  have hfirst := Bytes.firstDifference?_span (show i < n by omega) hne.symm
    (fun j hj => (hleast _ (Nat.le_add_right _ _) (by omega)).symm)
  refine ⟨_, by rw [find?, hfirst], ?_⟩
  exact Offset.toNat_advance_of_lt ho

/-- What is found in two spans lies in them, and is shown with the bytes of each from there on. -/
theorem of_find?_span {start : Offset} {theirs ours : Nat → UInt8} {n : Nat} {d : Divergence}
    (hfits : start.toNat + n ≤ 2 ^ 64)
    (h : find? start (Bytes.span theirs start.toNat n) (Bytes.span ours start.toNat n) = some d) :
    d.theirs = Bytes.span theirs d.offset.toNat
        (min context (start.toNat + n - d.offset.toNat))
      ∧ d.ours = Bytes.span ours d.offset.toNat
        (min context (start.toNat + n - d.offset.toNat)) := by
  unfold find? at h
  split at h
  · cases h
  · rename_i i hi
    cases h
    have hlt := (Bytes.lt_length_of_firstDifference? hi).1
    rw [Bytes.length_span] at hlt
    have hoffset : (start.advance i).toNat = start.toNat + i :=
      Offset.toNat_advance_of_lt (by omega)
    simp only [Bytes.slice_span, hoffset]
    rw [Nat.add_sub_add_left]
    exact ⟨rfl, rfl⟩

/-- The text of a divergence is short. -/
theorem length_message_le {d : Divergence} (htheirs : d.theirs.length ≤ context)
    (hours : d.ours.length ≤ context) : Utf8.length d.message ≤ 258 := by
  have h₁ : Utf8.length "history diverged at offset " ≤ 27 := by decide
  have h₂ : Utf8.length ": requester=" ≤ 12 := by decide
  have h₃ : Utf8.length " responder=" ≤ 11 := by decide
  have hfront := Utf8.length_append_le
    (Utf8.length_append_le (Utf8.length_append_le h₁ (Decimal.length_text_le d.offset)) h₂)
    (Bytes.length_hex_le d.theirs)
  have hle : Utf8.length d.message ≤ _ :=
    Utf8.length_append_le (Utf8.length_append_le hfront h₃) (Bytes.length_hex_le d.ours)
  unfold context at htheirs hours
  omega

end Divergence

/-! ## Answers -/

/-- The byte at an offset that a requester claims to hold, by the bytes which it sends along with
a position. They stand right before the position, or from the first offset on if they are more
than there are offsets before it. -/
def Request.claim (position : Offset) (bytesBefore : Bytes) (o : Nat) : UInt8 :=
  bytesBefore.getD (o - (position.toNat - bytesBefore.length)) 0

/-- What is sent as the bytes right before a position is what is claimed. -/
theorem Request.claim_span (theirs : Nat → UInt8) {position : Offset} {n o : Nat}
    (ho : position.toNat - n ≤ o) (hp : o < position.toNat) :
    claim position (Bytes.span theirs (position.toNat - n) n) o = theirs o := by
  rw [claim, Bytes.length_span, Bytes.getD_span theirs (by omega), Nat.add_sub_of_le ho]

/-- A part of the bytes that come along is what is claimed from some offset on. -/
theorem Request.slice_eq_span_claim {position : Offset} {bs : Bytes} {o k : Nat}
    (ho : position.toNat - bs.length ≤ o)
    (hk : o - (position.toNat - bs.length) + k ≤ bs.length) :
    bs.slice (o - (position.toNat - bs.length)) k = Bytes.span (claim position bs) o k := by
  apply Bytes.eq_span
  · rw [Bytes.length_slice]
    omega
  · intro i hi
    rw [Bytes.getD_slice _ _ hi, claim]
    congr 1
    omega

/-- The greatest number of bytes in a window of a responder with the given limit. -/
def Response.windowSize (limit : Offset) : Nat := min limit.toNat dataLimit.toNat

theorem Response.windowSize_eq (limit : Offset) : windowSize limit = min limit.toNat 8388608 :=
  congrArg (min limit.toNat) (by decide)

/-- A window can have bytes if the limit allows any. -/
theorem Response.windowSize_pos_iff {limit : Offset} : 0 < windowSize limit ↔ 1 ≤ limit.toNat := by
  rw [windowSize_eq]
  omega

namespace Flat

/-- The first offset at which the `n` bytes before a position are compared. -/
def compareStart (f : Flat) (position : Offset) (n : Nat) : Offset :=
  max (position.retreat n) f.dataStart

theorem toNat_compareStart (f : Flat) (position : Offset) (n : Nat) :
    (f.compareStart position n).toNat = max (position.toNat - n) f.dataStart.toNat := by
  rw [compareStart, Offset.toNat_max, Offset.toNat_retreat]

/-- The disagreement of a flat ledger with the `n` bytes that a requester holds right before
a position. -/
def divergence? (f : Flat) (position : Offset) (theirs : Nat → UInt8) (n : Nat) :
    Option Divergence :=
  let start := f.compareStart position n
  let len := min position.toNat f.geometry.frontier.toNat - start.toNat
  Divergence.find? start (Bytes.span theirs start.toNat len) (Bytes.span f.byte start.toNat len)

/-- The window at a position, with its bytes. -/
def response (f : Flat) (position limit : Offset) : Response :=
  let c := f.geometry.window position (min limit Response.dataLimit)
  .ofCursor c (Bytes.span f.byte c.position.toNat c.responseBytes.toNat)

/-- The answer to a request for the window at a position, with the `n` bytes that the
requester holds right before it. -/
def answer (f : Flat) (limit position : Offset) (theirs : Nat → UInt8) (n : Nat) :
    Except SyncError Response :=
  match f.divergence? position theirs n with
  | some d => .error (.refused d.message)
  | none => .ok (f.response position limit)

/-- The answer to a request. One without a cursor is served from the start of the data
partition. -/
def reply (f : Flat) (limit : Offset) (request : Request) : Except SyncError Response :=
  match request.limitFault? with
  | some fault => .error (.refused fault.message)
  | none =>
    let position := request.position?.getD f.dataStart
    let sent := request.bytesBefore.getD []
    f.answer limit position (Request.claim position sent) sent.length

variable {f : Flat} {position : Offset} {theirs : Nat → UInt8} {n : Nat}

/-- The bytes are those of the flat ledger wherever it has committed any and `n` bytes before
a position are compared. -/
def Agrees (f : Flat) (byte : Nat → UInt8) (position n : Nat) : Prop :=
  ∀ o, f.dataStart.toNat ≤ o → position - n ≤ o → o < position →
    o < f.geometry.frontier.toNat → byte o = f.byte o

/-- What agrees agrees on less. -/
theorem Agrees.mono {byte : Nat → UInt8} {position m : Nat} (h : f.Agrees byte position n)
    (hle : m ≤ n) : f.Agrees byte position m :=
  fun o hd hn hp hf => h o hd (by omega) hp hf

/-- There is no divergence where the bytes agree. -/
theorem divergence?_eq_none (h : f.Agrees theirs position.toNat n) :
    f.divergence? position theirs n = none := by
  have hstart := f.toNat_compareStart position n
  have hsame : Bytes.span theirs (f.compareStart position n).toNat
        (min position.toNat f.geometry.frontier.toNat - (f.compareStart position n).toNat)
      = Bytes.span f.byte (f.compareStart position n).toNat
        (min position.toNat f.geometry.frontier.toNat - (f.compareStart position n).toNat) := by
    apply Bytes.span_congr
    intro o ho hn
    exact h o (by omega) (by omega) (by omega) (by omega)
  rw [divergence?, hsame, Divergence.find?_self]

/-- Only the bytes right before the position matter. -/
theorem divergence?_congr {theirs' : Nat → UInt8}
    (h : ∀ o, position.toNat - n ≤ o → o < position.toNat → theirs o = theirs' o) :
    f.divergence? position theirs n = f.divergence? position theirs' n := by
  have hstart := f.toNat_compareStart position n
  unfold divergence?
  simp only
  rw [Bytes.span_congr]
  intro o ho hn
  exact h o (by omega) (by omega)

/-- The divergence is at the least offset at which the bytes differ. -/
theorem divergence?_eq_some {o : Nat} (hd : f.dataStart.toNat ≤ o) (hn : position.toNat - n ≤ o)
    (hp : o < position.toNat) (hf : o < f.geometry.frontier.toNat) (hne : theirs o ≠ f.byte o)
    (hleast : ∀ o', f.dataStart.toNat ≤ o' → position.toNat - n ≤ o' → o' < o →
      theirs o' = f.byte o') :
    ∃ d, f.divergence? position theirs n = some d ∧ d.offset.toNat = o := by
  have hstart := f.toNat_compareStart position n
  have hlast := Offset.toNat_lt position
  apply Divergence.find?_span (by omega) (by omega) (by omega) hne
  intro o' ho' hlt
  exact hleast o' (by omega) (by omega) hlt

/-- The bytes agree where there is no divergence. -/
theorem agrees_of_divergence?
    (h : f.divergence? position theirs n = none) : f.Agrees theirs position.toNat n := by
  intro o
  -- At the least offset of a disagreement there would be a divergence.
  induction o using Nat.strongRecOn with
  | ind o ih =>
    intro hd hn hp hf
    by_cases heq : theirs o = f.byte o
    · exact heq
    · obtain ⟨d, hsome, _⟩ := divergence?_eq_some hd hn hp hf heq
        (fun o' hd' hn' hlt => ih o' hlt hd' hn' (by omega) (by omega))
      rw [h] at hsome
      cases hsome

/-- Where no bytes are compared there is no divergence. -/
theorem divergence?_zero : f.divergence? position theirs 0 = none :=
  divergence?_eq_none fun _ _ hn hp _ => absurd hp (by omega)

/-- Where no byte can be served the answer is the caught-up cursor. -/
theorem response_of_le (f : Flat) (position limit : Offset)
    (h : f.geometry.frontier.toNat ≤ (f.geometry.start position).toNat
      ∨ Response.windowSize limit = 0) :
    f.response position limit = .ofCursor (.caughtUp f.geometry.frontier) [] := by
  have hsize : (min limit Response.dataLimit).toNat = Response.windowSize limit :=
    Offset.toNat_min _ _
  rw [← hsize] at h
  rw [response, Geometry.window_of_le h]
  rfl

/-- Else the answer has the bytes from where the window begins on, and says whether more
follow. -/
theorem response_of_lt (f : Flat) (position limit : Offset)
    (h : (f.geometry.start position).toNat < f.geometry.frontier.toNat)
    (hlimit : 0 < Response.windowSize limit) :
    ∃ c, f.response position limit
        = .ofCursor c (Bytes.span f.byte (f.geometry.start position).toNat
            (min (Response.windowSize limit)
              (f.geometry.frontier.toNat - (f.geometry.start position).toNat)))
      ∧ c.position = f.geometry.start position
      ∧ (c.more = true ↔ (f.geometry.start position).toNat + Response.windowSize limit
          < f.geometry.frontier.toNat) := by
  have hsize : (min limit Response.dataLimit).toNat = Response.windowSize limit :=
    Offset.toNat_min _ _
  rw [← hsize] at hlimit
  obtain ⟨hposition, hbytes, hmore⟩ := Geometry.window_of_lt h hlimit
  rw [hsize] at hbytes hmore
  refine ⟨f.geometry.window position (min limit Response.dataLimit), ?_, hposition, hmore⟩
  rw [response, hposition, hbytes]

/-- An answer says that more data follows only if it has a whole window that ends before the
frontier. -/
theorem response_of_more {f : Flat} {position limit : Offset}
    (h : (f.response position limit).parsed.more = true) :
    0 < Response.windowSize limit
      ∧ (f.geometry.start position).toNat + Response.windowSize limit < f.geometry.frontier.toNat
      ∧ (f.response position limit).parsed.position = f.geometry.start position
      ∧ (f.response position limit).data
        = Bytes.span f.byte (f.geometry.start position).toNat (Response.windowSize limit) := by
  by_cases hle : f.geometry.frontier.toNat ≤ (f.geometry.start position).toNat
      ∨ Response.windowSize limit = 0
  · rw [f.response_of_le position limit hle, Response.parsed_ofCursor] at h
    cases h
  · obtain ⟨c, hc, hposition, hmore⟩ := f.response_of_lt position limit (by omega) (by omega)
    rw [hc, Response.parsed_ofCursor] at h
    have hlt := hmore.1 h
    rw [hc, Response.parsed_ofCursor, Response.data_ofCursor, Nat.min_eq_left (by omega)]
    exact ⟨by omega, hlt, hposition, rfl⟩

theorem length_data_response_le (f : Flat) (position limit : Offset) :
    (f.response position limit).data.length ≤ Response.dataLimit.toNat := by
  have hspan := f.geometry.toNat_responseBytes_window_le position (min limit Response.dataLimit)
  have hmin := Offset.toNat_min limit Response.dataLimit
  change (Bytes.span _ _ _).length ≤ _
  rw [Bytes.length_span]
  omega

/-- Every answer fits into its wire form. -/
theorem fits_answer (f : Flat) (limit position : Offset) (theirs : Nat → UInt8) (n : Nat) :
    (Reply.ofOutcome (f.answer limit position theirs n)).Fits := by
  unfold answer
  cases hd : f.divergence? position theirs n with
  | some d =>
    obtain ⟨htheirs, hours⟩ := Divergence.length_le_of_find? hd
    exact Nat.lt_of_le_of_lt (Divergence.length_message_le htheirs hours) (by decide)
  | none =>
    refine ⟨Nat.lt_of_le_of_lt (Cursor.length_toWire_le _) (by decide), ?_⟩
    exact Nat.lt_of_le_of_lt (f.length_data_response_le position limit) (by decide)

/-- An answer is what its reply delivers. -/
theorem outcome_answer (f : Flat) (limit position : Offset) (theirs : Nat → UInt8) (n : Nat) :
    (Reply.ofOutcome (f.answer limit position theirs n)).outcome
      = f.answer limit position theirs n := by
  unfold answer
  cases f.divergence? position theirs n with
  | some d => rfl
  | none => rfl

/-- Every reply fits into its wire form. -/
theorem fits_reply (f : Flat) (limit : Offset) (request : Request) :
    (Reply.ofOutcome (f.reply limit request)).Fits := by
  unfold reply
  cases request.limitFault? with
  | some fault =>
    change Utf8.length fault.message < 2 ^ 64
    cases fault <;> decide
  | none => exact f.fits_answer limit _ _ _

/-- An outcome is what its reply delivers. -/
theorem outcome_reply (f : Flat) (limit : Offset) (request : Request) :
    (Reply.ofOutcome (f.reply limit request)).outcome = f.reply limit request := by
  unfold reply
  cases request.limitFault? with
  | some fault => rfl
  | none => exact f.outcome_answer limit _ _ _

/-- The reply to the request for the window at a position, with the `n` bytes right before it. -/
theorem reply_ofCursor (f : Flat) (limit : Offset) {position : Offset} (theirs : Nat → UInt8)
    {n : Nat} (hn : n ≤ position.toNat) (hlimit : n ≤ Request.bytesBeforeLimit) :
    f.reply limit (.ofCursor (.caughtUp position) (Bytes.before? theirs position.toNat n))
      = f.answer limit position theirs n := by
  have hkept : (Request.ofCursor (.caughtUp position)
      (Bytes.before? theirs position.toNat n)).limitFault? = none := by
    apply Request.limitFault?_ofCursor
    intro bs hbs
    exact Nat.le_trans (Bytes.length_of_before? hbs) hlimit
  rw [reply, hkept, Request.position?_ofCursor]
  simp only [Request.ofCursor, Option.getD_some, Cursor.caughtUp, Bytes.before?]
  by_cases hzero : n = 0
  · subst hzero
    rw [if_pos rfl, answer, answer]
    simp only [Option.getD_none, List.length_nil]
    rw [divergence?_zero, divergence?_zero]
  · rw [if_neg hzero, answer, answer]
    simp only [Option.getD_some, Bytes.length_span]
    rw [divergence?_congr fun o => Request.claim_span theirs]

/-- What is replied, if it is not a refusal, is the window at the position that is asked for. -/
theorem eq_response_of_reply {limit : Offset} {request : Request} {r : Response}
    (h : f.reply limit request = .ok r) :
    r = f.response (request.position?.getD f.dataStart) limit := by
  unfold reply at h
  split at h
  · cases h
  · simp only [answer] at h
    split at h
    · cases h
    · exact (Except.ok.inj h).symm

end Flat

section

variable {σ : Type} [Storage σ] [FlatStorage σ] {s : σ} {f : Flat} {position : Offset}
  {theirs : Nat → UInt8} {n : Nat}

/-- Where anything is compared, the bytes that came along reach from the first offset to the
last. -/
theorem Flat.compared_le (f : Flat) (position : Offset) (n : Nat)
    (h : (f.compareStart position n).toNat < min position.toNat f.geometry.frontier.toNat) :
    (f.compareStart position n - position.retreat n).toNat
        = (f.compareStart position n).toNat - (position.toNat - n)
      ∧ (min position f.geometry.frontier - f.compareStart position n).toNat
        = min position.toNat f.geometry.frontier.toNat - (f.compareStart position n).toNat
      ∧ (f.compareStart position n).toNat - (position.toNat - n)
          + (min position.toNat f.geometry.frontier.toNat - (f.compareStart position n).toNat)
        ≤ n := by
  have hstart := f.toNat_compareStart position n
  have hclaimed := Offset.toNat_retreat position n
  have hstop := Offset.toNat_min position f.geometry.frontier
  refine ⟨?_, ?_, by omega⟩
  · rw [UInt64.toNat_sub_of_le, hclaimed]
    rw [UInt64.le_iff_toNat_le, hclaimed]
    omega
  · rw [UInt64.toNat_sub_of_le, hstop]
    rw [UInt64.le_iff_toNat_le, hstop]
    omega

/-- So no slice of them is too long. -/
theorem Flat.compared_slice_le (f : Flat) (position : Offset) (n : Nat)
    (h : max (position.retreat n) f.geometry.dataStart < min position f.geometry.frontier) :
    (max (position.retreat n) f.geometry.dataStart - position.retreat n).toNat
      + (min position f.geometry.frontier
          - max (position.retreat n) f.geometry.dataStart).toNat ≤ n := by
  have hstop := Offset.toNat_min position f.geometry.frontier
  rw [UInt64.lt_iff_toNat_lt, hstop] at h
  obtain ⟨hskip, hlen, hfit⟩ := f.compared_le position n h
  rw [← hskip, ← hlen] at hfit
  exact hfit

/-- Storage compares what a requester claims to hold as its flat ledger does. -/
theorem checkHistory_eq (h : FlatStorage.Keeps s f) {bs : Bytes} (hread : bs.length < 2 ^ 48) :
    checkHistory s position bs
      = match f.divergence? position (Request.claim position bs) bs.length with
        | some d => .error (.refused d.message)
        | none => .ok () := by
  have hstart := f.toNat_compareStart position bs.length
  have hstop := Offset.toNat_min position f.geometry.frontier
  have hfrontier := f.frontier_le_capacity
  have hdef : max (position.retreat bs.length) f.geometry.dataStart
      = f.compareStart position bs.length := rfl
  unfold checkHistory
  rw [FlatStorage.geometry_eq h]
  simp only [hdef]
  split
  · rename_i hempty
    rw [UInt64.le_iff_toNat_le, hstop] at hempty
    rw [Flat.divergence?_eq_none]
    intro o hd hlow hhigh hf
    omega
  · rename_i hsome
    rw [UInt64.le_iff_toNat_le, hstop] at hsome
    obtain ⟨hskip, hlen, hfit⟩ := f.compared_le position bs.length (by omega)
    rw [FlatStorage.read_eq h (by omega) (by omega)]
    simp only [Bytes.length_span]
    rw [hskip, hlen, Request.slice_eq_span_claim (by omega) hfit]
    rw [show Divergence.find? _ _ _
      = f.divergence? position (Request.claim position bs) bs.length from rfl]
    cases f.divergence? position (Request.claim position bs) bs.length with
    | none => rfl
    | some d => rfl

/-- Storage serves the window of its flat ledger. -/
theorem windowAt_eq (h : FlatStorage.Keeps s f) (limit : Offset) :
    windowAt s f.geometry position limit = .ok (f.response position limit) := by
  have hspan := f.geometry.toNat_responseBytes_window_le position (min limit Response.dataLimit)
  have hend := f.geometry.toNat_window_le position (min limit Response.dataLimit)
  have hmin := Offset.toNat_min limit Response.dataLimit
  have hlimit : Response.dataLimit.toNat < 2 ^ 48 := by decide
  have hfrontier := f.frontier_le_capacity
  unfold windowAt
  simp only
  split
  · rename_i hzero
    rw [Flat.response, hzero]
    rfl
  · rw [FlatStorage.read_eq h (by omega) (by omega)]
    rfl

/-- Storage answers a request as its flat ledger does. -/
theorem serve_eq_reply (h : FlatStorage.Keeps s f) (options : ServeOptions) (request : Request) :
    serve s options request = f.reply options.limit request := by
  unfold serve Flat.reply
  cases hfault : request.limitFault? with
  | some fault => rfl
  | none =>
    rw [FlatStorage.geometry_eq h]
    simp only [show f.geometry.dataStart = f.dataStart from rfl]
    cases hbefore : request.bytesBefore with
    | none =>
      simp only [Option.getD_none, List.length_nil]
      rw [Flat.answer, Flat.divergence?_zero]
      exact windowAt_eq h options.limit
    | some bs =>
      have hkept := Request.length_le_of_limitFault? hfault hbefore
      simp only [Option.getD_some]
      rw [checkHistory_eq h (Nat.lt_of_le_of_lt hkept (by decide)), Flat.answer]
      cases f.divergence? _ _ _ with
      | some d => rfl
      | none => exact windowAt_eq h options.limit

end

/-! ## Remotes that answer so -/

/-- A remote that answers each request at once from a flat ledger, and stays as it is. -/
def Remote.Serves {ρ : Type} [Remote ρ] (r : ρ) (f : Flat) (limit : Offset) : Prop :=
  ∀ (position : Offset) (theirs : Nat → UInt8) (n : Nat), n ≤ position.toNat →
    n ≤ Request.bytesBeforeLimit →
    Remote.fetch r (.ofCursor (.caughtUp position) (Bytes.before? theirs position.toNat n))
      = { outcome := f.answer limit position theirs n, remote := r }

/-- A request that is made from a cursor fits, if its bytes do. -/
theorem Request.fits_ofCursor (c : Cursor) {before : Option Bytes}
    (h : ∀ bs, before = some bs → bs.length < 2 ^ 64) : (ofCursor c before).Fits :=
  ⟨length_cursor_ofCursor c before, h⟩

/-- What is fetched from storage directly is what its reply delivers, if the request and the reply
fit into their wire forms. -/
theorem Hosted.answer_eq_outcome {σ : Type} [Storage σ] (h : Hosted σ) {request : Request}
    (hrequest : request.Fits)
    (hfits : (Reply.ofOutcome (serve h.storage h.options request)).Fits) :
    h.answer request = (Reply.ofOutcome (serve h.storage h.options request)).outcome := by
  rw [answer, Request.decode_whole hrequest]
  simp only
  rw [Reply.decode_whole hfits]

section

variable {σ : Type} [Storage σ] [FlatStorage σ] {f : Flat}

/-- What is fetched from a ledger directly is what it serves: the request and the answer pass
through their wire forms unharmed. -/
theorem Hosted.answer_eq_reply (h : Hosted σ) (hkeeps : FlatStorage.Keeps h.storage f)
    {request : Request} (hrequest : request.Fits) :
    h.answer request = f.reply h.options.limit request := by
  have hserve := serve_eq_reply hkeeps h.options request
  have hfits := f.fits_reply h.options.limit request
  rw [← hserve] at hfits
  rw [h.answer_eq_outcome hrequest hfits, hserve]
  exact f.outcome_reply h.options.limit request

/-- A ledger that is fetched from directly answers so. -/
theorem Hosted.serves (h : Hosted σ) (hkeeps : FlatStorage.Keeps h.storage f) :
    Remote.Serves h f h.options.limit := by
  intro position theirs n hn hlimit
  have hbytes : ∀ bs, Bytes.before? theirs position.toNat n = some bs → bs.length < 2 ^ 64 :=
    fun bs hbs =>
      Nat.lt_of_le_of_lt (Nat.le_trans (Bytes.length_of_before? hbs) hlimit) (by decide)
  change ({ outcome := h.answer _, remote := h } : Delivery (Hosted σ)) = _
  rw [answer_eq_reply h hkeeps (Request.fits_ofCursor _ hbytes),
    f.reply_ofCursor _ theirs hn hlimit]

/-- A replica serves its own ledger. -/
theorem Replica.serves {ρ : Type} [Remote ρ] (r : Replica σ ρ)
    (hkeeps : FlatStorage.Keeps r.storage f) :
    Remote.Serves r f r.options.serve.limit := by
  intro position theirs n hn hlimit
  change ({ outcome := serve r.storage r.options.serve _, remote := r }
    : Delivery (Replica σ ρ)) = _
  rw [serve_eq_reply hkeeps, f.reply_ofCursor _ theirs hn hlimit]

end

end ByteLedger
