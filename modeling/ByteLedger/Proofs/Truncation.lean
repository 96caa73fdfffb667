import ByteLedger.Proofs.Codec

set_option autoImplicit false

/-!
# Messages that are cut short

A reader looks no further than it reads: where it reads something, it reads the same when more
follows, and leaves that (`Reader.Stable`). Some readers have fuel that is counted from the length
of the input. More input is more fuel for them, so they are compared with those that have more
(`Reader.Extends`).

A written message is read up to its last byte. If a part of it that lacks some of the last bytes
could be read, so could the whole, and these bytes would be left. So no such part can be read, and
no written message is the beginning of another one (`Message.decode_truncated`).
-/

namespace ByteLedger.Cbor

/-! ## Reading when more follows -/

namespace Reader

variable {α β : Type} {p q : Reader α} {f g : α → Reader β} {bs : Bytes} {x : α} {e : Fault}

theorem bind_eq_ok {r : β × Bytes} (h : (p >>= f) bs = .ok r) :
    ∃ x rest, p bs = .ok (x, rest) ∧ f x rest = .ok r := by
  cases hp : p bs with
  | error e =>
    rw [bind_error hp] at h
    cases h
  | ok read =>
    obtain ⟨x, rest⟩ := read
    rw [bind_ok hp] at h
    exact ⟨x, rest, rfl, h⟩

/-- Whatever `p` reads `q` reads as well when more follows, and leaves what follows. -/
def Extends (p q : Reader α) : Prop :=
  ∀ ⦃bs x rest⦄, p bs = .ok (x, rest) → ∀ more, q (bs ++ more) = .ok (x, rest ++ more)

/-- What follows makes no difference to what `p` reads. -/
def Stable (p : Reader α) : Prop := p.Extends p

namespace Extends

theorem pure (x : α) : Extends (Pure.pure x) (Pure.pure x) := by
  intro bs y rest h more
  cases h
  rfl

/-- Nothing is read where a fault is found in any case. -/
theorem fail (e : Fault) (q : Reader α) : Extends (fail e) q := fun _ _ _ h => nomatch h

theorem bind (hp : p.Extends q) (hf : ∀ x, (f x).Extends (g x)) :
    (p >>= f).Extends (q >>= g) := by
  intro bs y rest h more
  obtain ⟨x, mid, hx, hy⟩ := bind_eq_ok h
  rw [bind_ok (hp hx more)]
  exact hf x hy more

theorem map (k : α → β) (hp : p.Extends q) : (k <$> p).Extends (k <$> q) := by
  rw [map_eq_pure_bind, map_eq_pure_bind]
  exact hp.bind fun x => .pure (k x)

theorem ite {c : Prop} [Decidable c] {p' q' : Reader α} (hp : p.Extends q)
    (hp' : p'.Extends q') : (if c then p else p').Extends (if c then q else q') := by
  by_cases h : c
  · rw [if_pos h, if_pos h]
    exact hp
  · rw [if_neg h, if_neg h]
    exact hp'

/-- Whether a break comes next cannot be seen at the end of the input. It does no harm if what is
read where there is none needs input. -/
theorem orStop {p' q' : Reader α} (hp : p.Extends q) (hp' : p'.Extends q')
    (hend : p' [] = .error e) :
    (readStop >>= fun stop => if stop then p else p').Extends
      (readStop >>= fun stop => if stop then q else q') := by
  intro bs x rest h more
  cases bs with
  | nil => exact nomatch hend.symm.trans h
  | cons b bs =>
    by_cases hb : b = 0xff
    · have hstop : ∀ bs, readStop (b :: bs) = .ok (true, bs) := fun _ => if_pos hb
      rw [bind_ok (hstop bs)] at h
      rw [List.cons_append, bind_ok (hstop _)]
      exact hp h more
    · have hstop : ∀ bs, readStop (b :: bs) = .ok (false, b :: bs) := fun _ => if_neg hb
      rw [bind_ok (hstop bs)] at h
      rw [List.cons_append, bind_ok (hstop _)]
      exact hp' h more

end Extends

/-- A reader with fuel is stable, if it reads the same with more fuel and longer inputs give no
less. -/
theorem stable_of_fuel {p : Nat → Reader α} (fuel : Nat → Nat)
    (hfuel : ∀ m n, m ≤ n → fuel m ≤ fuel n) (h : ∀ m n, m ≤ n → (p m).Extends (p n)) :
    Stable fun bs => p (fuel bs.length) bs := by
  intro bs x rest hread more
  refine h _ _ (hfuel _ _ ?_) hread more
  rw [List.length_append]
  exact Nat.le_add_right _ _

/-- Where each step takes a byte. -/
theorem stable_of_length {p : Nat → Reader α} (h : ∀ m n, m ≤ n → (p m).Extends (p n)) :
    Stable fun bs => p (bs.length + 1) bs :=
  stable_of_fuel (· + 1) (fun _ _ => Nat.succ_le_succ) h

/-- A stable reader reads nothing from a part of what it reads that lacks the last bytes. -/
theorem Stable.error_of_cut (hp : p.Stable) (hread : p.Reads bs x) {front : Bytes}
    (hfront : front <+: bs) (hne : front ≠ bs) : ∃ e, p front = .error e := by
  obtain ⟨missing, rfl⟩ := hfront
  cases h : p front with
  | error e => exact ⟨e, rfl⟩
  | ok read =>
    -- The missing bytes would be left behind a whole that is read to its end.
    have hwhole := hp h missing
    have hend := hread []
    rw [List.append_nil, hwhole] at hend
    have hmissing : read.2 ++ missing = [] := congrArg Prod.snd (Except.ok.inj hend)
    rw [(List.append_eq_nil_iff.1 hmissing).2, List.append_nil] at hne
    exact absurd rfl hne

/-- What is read to its end is not the beginning of anything else that is. -/
theorem Reads.eq_of_isPrefix {bs' : Bytes} {y : α} (h : p.Reads bs x) (h' : p.Reads bs' y)
    (hbegins : bs <+: bs') : x = y := by
  obtain ⟨rest, rfl⟩ := hbegins
  have hend := h' []
  rw [List.append_nil, h rest] at hend
  exact congrArg Prod.fst (Except.ok.inj hend)

end Reader

open Reader

variable {α : Type}

/-! ## Heads -/

theorem readByte_stable : readByte.Stable := by
  intro bs x rest h more
  cases bs with
  | nil => cases h
  | cons b bs =>
    cases h
    rfl

theorem readBytes_stable (n : Nat) : (readBytes n).Stable := by
  intro bs x rest h more
  simp only [readBytes, List.length_take] at h ⊢
  split at h
  · rename_i hlen
    cases h
    have hle : n ≤ bs.length := by omega
    rw [List.take_append_of_le_length hle, List.drop_append_of_le_length hle, if_pos]
    rw [List.length_append]
    omega
  · cases h

theorem readNumber_stable (width : Nat) : (readNumber width).Stable :=
  (readBytes_stable width).bind fun _ => .pure _

theorem readArgument_stable (minor : Nat) : (readArgument minor).Stable :=
  .ite (.pure _) <| .ite ((readNumber_stable 1).map some) <|
    .ite ((readNumber_stable 2).map some) <| .ite ((readNumber_stable 4).map some) <|
    .ite ((readNumber_stable 8).map some) <| .ite (.pure _) (.fail _ _)

theorem readGiven_stable (minor : Nat) : (readGiven minor).Stable :=
  (readArgument_stable minor).bind fun n => by
    cases n with
    | none => exact .fail _ _
    | some n => exact .pure _

theorem readSimpleHead_stable (minor : Nat) : (readSimpleHead minor).Stable :=
  (readArgument_stable minor).bind fun n => by
    cases n with
    | none => exact .pure _
    | some n => exact .pure _

theorem readHead_stable : readHead.Stable := by
  refine readByte_stable.bind fun b => ?_
  simp only
  split
  · exact (readGiven_stable _).map _
  · exact (readGiven_stable _).map _
  · exact (readArgument_stable _).map _
  · exact (readArgument_stable _).map _
  · exact (readArgument_stable _).map _
  · exact (readArgument_stable _).map _
  · exact (readGiven_stable _).map _
  · exact readSimpleHead_stable _

theorem readHeadPastTags_extends {m n : Nat} (h : m ≤ n) :
    (readHeadPastTags m).Extends (readHeadPastTags n) := by
  induction m generalizing n with
  | zero => exact .fail _ _
  | succ m ih =>
    obtain ⟨n, rfl⟩ : ∃ k, n = k + 1 := ⟨n - 1, by omega⟩
    refine readHead_stable.bind fun head => ?_
    cases head with
    | tag t => exact ih (by omega)
    | _ => exact .pure _

theorem readUntagged_stable : readUntagged.Stable :=
  stable_of_length fun _ _ => readHeadPastTags_extends

/-! ## Strings -/

theorem readSegment_stable (kind : StringKind) (n : Nat) : (readSegment kind n).Stable := by
  refine (readBytes_stable n).bind fun bs => ?_
  cases kind with
  | bytes => exact .pure _
  | text => exact .ite (.pure _) (.fail _ _)

theorem readSegments_extends {kind : StringKind} {m n : Nat} (depth : Nat) (h : m ≤ n) :
    (readSegments kind m depth).Extends (readSegments kind n depth) := by
  induction m generalizing n depth with
  | zero => exact .fail _ _
  | succ m ih =>
    obtain ⟨n, rfl⟩ : ∃ k, n = k + 1 := ⟨n - 1, by omega⟩
    have hle : m ≤ n := by omega
    refine readHead_stable.bind fun head => ?_
    cases head with
    | stop =>
      cases depth with
      | zero => exact .pure _
      | succ outer => exact ih outer hle
    | _ =>
      simp only
      generalize kind.length? _ = length
      rcases length with _ | _ | k
      · exact .fail _ _
      · exact ih (depth + 1) hle
      · exact (readSegment_stable kind k).bind fun front =>
          (ih depth hle).bind fun rest => .pure _

theorem readString_stable (kind : StringKind) (length : Option Nat) :
    (readString kind length).Stable := by
  cases length with
  | some n => exact readSegment_stable kind n
  | none => exact stable_of_length fun _ _ => readSegments_extends 0

theorem readText_stable : readText.Stable := by
  refine readUntagged_stable.bind fun head => ?_
  cases head with
  | text n =>
    refine (readString_stable .text n).bind fun bs => ?_
    cases Utf8.decode? bs with
    | some s => exact .pure _
    | none => exact .fail _ _
  | _ => exact .fail _ _

theorem readSmall_extends {m n : Nat} (h : m ≤ n) : (readSmall m).Extends (readSmall n) := by
  induction m generalizing n with
  | zero => exact .fail _ _
  | succ m ih =>
    obtain ⟨n, rfl⟩ : ∃ k, n = k + 1 := ⟨n - 1, by omega⟩
    refine readHead_stable.bind fun head => ?_
    cases head with
    | unsigned k => exact .ite (.pure _) (.fail _ _)
    | tag t =>
      refine .ite (readHead_stable.bind fun inner => ?_) (.ite (.fail _ _) (ih (by omega)))
      cases inner with
      | bytes k => exact (readString_stable .bytes k).bind fun bs => .ite (.pure _) (.fail _ _)
      | _ => exact .fail _ _
    | _ => exact .fail _ _

/-- A small number with as much fuel as the input allows. -/
theorem readSmall_stable : Stable fun bs => readSmall (bs.length + 1) bs :=
  stable_of_length fun _ _ => readSmall_extends

theorem readSmalls_extends {m n : Nat} (count : Option Nat) (h : m ≤ n) :
    (readSmalls m count).Extends (readSmalls n count) := by
  induction m generalizing n count with
  | zero =>
    rcases count with _ | _ | count
    · exact .fail _ _
    · unfold readSmalls
      exact .pure _
    · exact .fail _ _
  | succ m ih =>
    obtain ⟨n, rfl⟩ : ∃ k, n = k + 1 := ⟨n - 1, by omega⟩
    have hle : m ≤ n := by omega
    rcases count with _ | _ | count
    · exact .orStop (.pure _)
        (readSmall_stable.bind fun b => (ih none hle).bind fun rest => .pure _)
        (bind_error rfl)
    · exact .pure _
    · exact readSmall_stable.bind fun b => (ih (some count) hle).bind fun rest => .pure _

theorem readByteString_stable : readByteString.Stable := by
  refine readUntagged_stable.bind fun head => ?_
  cases head with
  | bytes n => exact readString_stable .bytes n
  | array n => exact stable_of_length fun _ _ => readSmalls_extends n
  | _ => exact .fail _ _

/-! ## Options -/

theorem readNull_stable : readNull.Stable := by
  intro bs x rest h more
  rw [readNull] at h ⊢
  cases hread : readHead bs with
  | error e =>
    rw [hread] at h
    cases h
  | ok read =>
    obtain ⟨head, tail⟩ := read
    rw [hread] at h
    rw [readHead_stable hread more]
    cases head with
    | simple n =>
      simp only at h ⊢
      split at h
      · rename_i hnull
        rw [if_pos hnull]
        cases h
        rfl
      · rename_i hnull
        rw [if_neg hnull]
        cases h
        rfl
    | _ =>
      cases h
      rfl

theorem readOption_stable {item : Reader α} (h : item.Stable) : (readOption item).Stable :=
  readNull_stable.bind fun _ => .ite (.pure _) (h.map some)

/-! ## Items that are passed over -/

/-- No item is passed over at the end of the input. -/
theorem skipItem_nil (fuel depth : Nat) : ∃ e, skipItem fuel depth [] = .error e := by
  cases fuel <;> exact ⟨_, rfl⟩

/-- What is passed over with `m` for the fuel is with `n`, in items and in the arrays and maps in
them. -/
structure SkipExtends (m n : Nat) : Prop where
  item : ∀ depth, (skipItem m depth).Extends (skipItem n depth)
  items : ∀ depth count, (skipItems m depth count).Extends (skipItems n depth count)
  pairs : ∀ depth count, (skipPairs m depth count).Extends (skipPairs n depth count)

namespace SkipExtends

variable {m n : Nat}

theorem zero (n : Nat) : SkipExtends 0 n where
  item _ := .fail _ _
  items depth count := by
    rcases count with _ | _ | count
    · exact .fail _ _
    · unfold skipItems
      exact .pure _
    · exact .fail _ _
  pairs depth count := by
    rcases count with _ | _ | count
    · exact .fail _ _
    · unfold skipPairs
      exact .pure _
    · exact .fail _ _

theorem succ_item (h : SkipExtends m n) (depth : Nat) :
    (skipItem (m + 1) depth).Extends (skipItem (n + 1) depth) := by
  refine readHead_stable.bind fun head => ?_
  cases head with
  | unsigned _ | negative _ | float => exact .pure _
  | bytes k => exact (readString_stable .bytes k).bind fun _ => .pure _
  | text k => exact (readString_stable .text k).bind fun _ => .pure _
  | array k =>
    cases depth with
    | zero => exact .fail _ _
    | succ inner => exact h.items inner k
  | map k =>
    cases depth with
    | zero => exact .fail _ _
    | succ inner => exact h.pairs inner k
  | tag _ => exact h.item depth
  | simple k => exact .ite (.pure _) (.fail _ _)
  | stop => exact .fail _ _

theorem succ (h : SkipExtends m n) : SkipExtends (m + 1) (n + 1) where
  item := h.succ_item
  items depth count := by
    obtain ⟨e, he⟩ := skipItem_nil m depth
    rcases count with _ | _ | count
    · exact .orStop (.pure _) ((h.item depth).bind fun _ => h.items depth none) (bind_error he)
    · exact .pure _
    · exact (h.item depth).bind fun _ => h.items depth (some count)
  pairs depth count := by
    obtain ⟨e, he⟩ := skipItem_nil m depth
    rcases count with _ | _ | count
    · exact .orStop (.pure _)
        ((h.item depth).bind fun _ => (h.item depth).bind fun _ => h.pairs depth none)
        (bind_error he)
    · exact .pure _
    · exact (h.item depth).bind fun _ => (h.item depth).bind fun _ => h.pairs depth (some count)

/-- More fuel passes over the same. -/
theorem of_le (h : m ≤ n) : SkipExtends m n := by
  induction m generalizing n with
  | zero => exact zero n
  | succ m ih =>
    obtain ⟨n, rfl⟩ : ∃ k, n = k + 1 := ⟨n - 1, by omega⟩
    exact (ih (by omega)).succ

end SkipExtends

theorem skip_stable (depth : Nat) : (skip depth).Stable :=
  stable_of_fuel (p := fun fuel => skipItem fuel depth) (2 * · + 2) (fun _ _ => by omega)
    fun _ _ h => (SkipExtends.of_le h).item depth

/-! ## Records -/

theorem readName_stable : readName.Stable := by
  refine readUntagged_stable.bind fun head => ?_
  cases head with
  | text n =>
    cases n with
    | none => exact .fail _ _
    | some n => exact .ite (readSegment_stable .text n) (.fail _ _)
  | bytes n =>
    cases n with
    | none => exact .fail _ _
    | some n => exact .ite (readSegment_stable .bytes n) (.fail _ _)
  | _ => exact .fail _ _

theorem readFields_extends {field : Bytes → α → Reader α}
    (hfield : ∀ name acc, (field name acc).Stable) {m n : Nat} (count : Option Nat) (acc : α)
    (h : m ≤ n) :
    (readFields field m count acc).Extends (readFields field n count acc) := by
  induction m generalizing n count acc with
  | zero =>
    rcases count with _ | _ | count
    · exact .fail _ _
    · unfold readFields
      exact .pure _
    · exact .fail _ _
  | succ m ih =>
    obtain ⟨n, rfl⟩ : ∃ k, n = k + 1 := ⟨n - 1, by omega⟩
    have hle : m ≤ n := by omega
    rcases count with _ | _ | count
    · exact .orStop (.pure _)
        (readName_stable.bind fun name => (hfield name acc).bind fun acc => ih none acc hle)
        (bind_error rfl)
    · exact .pure _
    · exact readName_stable.bind fun name =>
        (hfield name acc).bind fun acc => ih (some count) acc hle

theorem readFieldsOf_stable {field : Bytes → α → Reader α}
    (hfield : ∀ name acc, (field name acc).Stable) (count : Option Nat) (acc : α) :
    (readFieldsOf field count acc).Stable :=
  stable_of_length fun _ _ => readFields_extends hfield count acc

theorem readOnce_stable {item : Reader α} (h : item.Stable) (x : Option α) :
    (readOnce item x).Stable := by
  cases x with
  | none => exact h.map some
  | some _ => exact .fail _ _

theorem require_stable (x : Option α) : (require x).Stable := by
  cases x with
  | none => exact .fail _ _
  | some x => exact .pure x

end ByteLedger.Cbor

namespace ByteLedger

open Cbor Cbor.Reader

/-! ## Messages -/

theorem Request.readField_stable (name : Bytes) (draft : Draft) : (readField name draft).Stable :=
  .ite ((readOnce_stable (readOption_stable readText_stable) _).map _) <|
    .ite ((readOnce_stable (readOption_stable readByteString_stable) _).map _) <|
    (skip_stable _).bind fun _ => .pure _

theorem Request.read_stable : read.Stable := by
  refine readUntagged_stable.bind fun head => ?_
  cases head with
  | map count => exact (readFieldsOf_stable readField_stable count {}).bind fun draft => .pure _
  | _ => exact .fail _ _

theorem Response.readField_stable (name : Bytes) (draft : Draft) : (readField name draft).Stable :=
  .ite ((readOnce_stable readText_stable _).map _) <|
    .ite ((readOnce_stable readByteString_stable _).map _) <|
    (skip_stable _).bind fun _ => .pure _

theorem Response.read_stable : read.Stable := by
  refine readUntagged_stable.bind fun head => ?_
  cases head with
  | map count =>
    exact (readFieldsOf_stable readField_stable count {}).bind fun draft =>
      (require_stable _).bind fun cursor => (require_stable _).bind fun data => .pure _
  | _ => exact .fail _ _

namespace Reply

theorem readReasonField_stable (name : Bytes) (reason : Option String) :
    (readReasonField name reason).Stable :=
  .ite (readOnce_stable readText_stable _) <| (skip_stable _).bind fun _ => .pure _

theorem readReason_stable : readReason.Stable := by
  refine readHead_stable.bind fun head => ?_
  cases head with
  | map count =>
    exact (readFieldsOf_stable readReasonField_stable count none).bind fun reason =>
      require_stable reason
  | array count =>
    rcases count with _ | _ | count
    · exact .orStop (.fail _ _) readText_stable rfl
    · exact .fail _ _
    · exact readText_stable
  | _ => exact .fail _ _

theorem readNamed_stable : readNamed.Stable :=
  readName_stable.bind fun _ =>
    .ite (Response.read_stable.map _) <| .ite (readReason_stable.map _) (.fail _ _)

theorem read_stable : read.Stable := by
  intro bs x rest h more
  unfold read at h ⊢
  cases hread : readUntagged bs with
  | error e =>
    rw [hread] at h
    cases h
  | ok first =>
    obtain ⟨head, tail⟩ := first
    rw [hread] at h
    rw [readUntagged_stable hread more]
    cases head with
    | map count =>
      rcases count with _ | _ | _ | count
      · cases h
      · cases h
      · exact readNamed_stable h more
      · cases h
    | text n => exact readNamed_stable h more
    | _ => cases h

end Reply

/-- A reader that fails says so as an invalid message. -/
theorem Message.decoded_of_error {α : Type} {p : Reader α} {bs : Bytes}
    (h : ∃ e, p bs = .error e) : ∃ detail, decoded (p bs) = .error (.invalidMessage detail) := by
  obtain ⟨e, he⟩ := h
  rw [he]
  exact ⟨_, rfl⟩

/-- A part of a request is invalid. -/
theorem Request.decode_of_cut {r : Request} (h : r.Fits) {front : Bytes}
    (hfront : front <+: r.encode) (hne : front ≠ r.encode) :
    ∃ detail, decode front = .error (.invalidMessage detail) :=
  Message.decoded_of_error (read_stable.error_of_cut (read_encode h) hfront hne)

/-- A part of a reply is invalid. -/
theorem Reply.decode_of_cut {r : Reply} (h : r.Fits) {front : Bytes}
    (hfront : front <+: r.encode) (hne : front ≠ r.encode) :
    ∃ detail, decode front = .error (.invalidMessage detail) :=
  Message.decoded_of_error (read_stable.error_of_cut (read_encode h) hfront hne)

namespace Message

/-- The CBOR form of a request or a reply. -/
def encode : Request ⊕ Reply → Bytes := Sum.elim Request.encode Reply.encode

/-- What has to fit into the lengths that heads give. -/
def Fits : Request ⊕ Reply → Prop := Sum.elim Request.Fits Reply.Fits

/-- A request and a reply differ in their first bytes. -/
theorem head?_encode (m : Request ⊕ Reply) :
    (encode m).head? = some (if m.isLeft then 0xa2 else 0xa1) := by
  cases m with
  | inl r => rfl
  | inr r => cases r <;> rfl

/-- No message is the beginning of another one, be it of the same kind or not. -/
theorem eq_of_encode_isPrefix {m m' : Request ⊕ Reply} (h : Fits m) (h' : Fits m')
    (hbegins : encode m <+: encode m') : m = m' := by
  have hfirst : (if m.isLeft then 0xa2 else 0xa1 : UInt8) = if m'.isLeft then 0xa2 else 0xa1 := by
    obtain ⟨rest, hrest⟩ := hbegins
    have hhead := congrArg List.head? hrest
    rw [List.head?_append, head?_encode, head?_encode, Option.some_or] at hhead
    exact Option.some.inj hhead
  cases m with
  | inl r =>
    cases m' with
    | inl r' =>
      exact congrArg Sum.inl
        ((Request.read_encode h).eq_of_isPrefix (Request.read_encode h') hbegins)
    | inr r' => exact absurd hfirst (show (0xa2 : UInt8) ≠ 0xa1 by decide)
  | inr r =>
    cases m' with
    | inl r' => exact absurd hfirst (show (0xa1 : UInt8) ≠ 0xa2 by decide)
    | inr r' =>
      exact congrArg Sum.inr ((Reply.read_encode h).eq_of_isPrefix (Reply.read_encode h') hbegins)

/-- A request or a reply is read back, but where some of its last bytes are missing, one or all of
them, it is an invalid message. So no written message is the beginning of another one. The only
bound is that of the lengths which a head of eight bytes can give; all strings in memory keep
it. -/
theorem decode_truncated :
    (∀ r : Request, r.Fits → Request.decode r.encode = .ok r
      ∧ ∀ front, front <+: r.encode → front ≠ r.encode →
        ∃ detail, Request.decode front = .error (.invalidMessage detail))
    ∧ (∀ r : Reply, r.Fits → Reply.decode r.encode = .ok r
      ∧ ∀ front, front <+: r.encode → front ≠ r.encode →
        ∃ detail, Reply.decode front = .error (.invalidMessage detail))
    ∧ ∀ m m' : Request ⊕ Reply, Fits m → Fits m' → encode m <+: encode m' → m = m' := by
  refine ⟨?_, ?_, fun _ _ => eq_of_encode_isPrefix⟩
  · intro r h
    exact ⟨Request.decode_whole h, fun _ => Request.decode_of_cut h⟩
  · intro r h
    exact ⟨Reply.decode_whole h, fun _ => Reply.decode_of_cut h⟩

/-- A request without the null at its end, a window without the last byte of its data, and no bytes
at all. The request would be read without that field if its head did not announce it. -/
theorem decode_truncated_lastByte :
    let request : Request := { cursor := some "position=1" }
    let reply : Reply := .window { cursor := "more=true", data := [0xf6, 0xff] }
    request.Fits ∧ reply.Fits
      ∧ (∃ detail, Request.decode request.encode.dropLast = .error (.invalidMessage detail))
      ∧ (∃ detail, Reply.decode reply.encode.dropLast = .error (.invalidMessage detail))
      ∧ (∃ detail, Reply.decode [] = .error (.invalidMessage detail))
      ∧ ¬ request.encode <+: reply.encode := by
  intro request reply
  have hrequest : request.Fits := by
    refine ⟨?_, nofun⟩
    rintro s ⟨⟩
    decide
  have hreply : reply.Fits := ⟨by decide, by decide⟩
  have hcut : ∀ bs : Bytes, bs ≠ [] → bs.dropLast ≠ bs := by
    intro bs hne heq
    have hlen := congrArg List.length heq
    rw [List.length_dropLast] at hlen
    have := List.length_pos_iff.2 hne
    omega
  have hlast : ∀ {bs : Bytes}, bs.dropLast <+: bs := List.dropLast_prefix _
  obtain ⟨hrequests, hreplies, hbegins⟩ := decode_truncated
  refine ⟨hrequest, hreply, ?_, ?_, ?_, ?_⟩
  · exact (hrequests request hrequest).2 _ hlast (hcut _ (List.cons_ne_nil _ _))
  · exact (hreplies reply hreply).2 _ hlast (hcut _ (List.cons_ne_nil _ _))
  · exact (hreplies reply hreply).2 [] List.nil_prefix (List.cons_ne_nil _ _).symm
  · intro h
    exact nomatch hbegins (.inl request) (.inr reply) hrequest hreply h

end Message

end ByteLedger
