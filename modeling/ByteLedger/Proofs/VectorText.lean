import ByteLedger.Proofs.JsonText
import ByteLedger.Proofs.WireText
import ByteLedger.Vectors.Json
import Mathlib.Data.List.Forall2

set_option autoImplicit false

/-!
# Golden vectors read back

What is read from JSON is said without the reader: a word is a number of digits alone that denotes
it (`Json.Spells`), so nothing with a fraction or an exponent is a word, and no word is rounded. A
record is what its fields spell.

A written record has each of its fields once, and each value spells what it was written for. So
every list of window cases is read back from its text, and what is read from any text at all is
spelled there (`WindowVector.listOfText?_listText`).
-/

namespace ByteLedger

/-! ## Values -/

namespace Json

/-- The value is a number that is written in digits alone, and they denote the word. -/
def Spells (v : Json) (n : UInt64) : Prop :=
  ∃ digits, v = .number digits ∧ Decimal.Denotes digits n.toNat

theorem word?_number (digits : List Char) :
    word? (.number digits) = (Decimal.natural? digits).bind Decimal.offset? := by
  rw [word?]
  cases Decimal.natural? digits <;> rfl

theorem word?_eq_some_iff {v : Json} {n : UInt64} : v.word? = some n ↔ v.Spells n := by
  constructor
  · intro h
    cases v with
    | number digits =>
      rw [word?_number] at h
      exact ⟨digits, rfl, Decimal.bind_offset?_eq_some_iff.1 h⟩
    | _ => simp [word?] at h
  · rintro ⟨digits, rfl, h⟩
    rw [word?_number]
    exact Decimal.bind_offset?_eq_some_iff.2 h

/-- Past `2^53` no word is rounded, and a number with a fraction or an exponent is none. -/
example : (Json.number "9007199254740993".toList).word? = some 9007199254740993
    ∧ (Json.number "1.0".toList).word? = none ∧ (Json.number "1e3".toList).word? = none
    ∧ (Json.number "18446744073709551616".toList).word? = none := by decide

theorem spells_ofWord (n : UInt64) : (ofWord n).Spells n := word?_eq_some_iff.1 (word?_ofWord n)

theorem chars?_eq_some_iff {elements : List Element} {cs : List Char} :
    chars? elements = some cs ↔ elements = ofChars cs := by
  constructor
  · intro h
    induction elements generalizing cs with
    | nil =>
      cases h
      rfl
    | cons e elements ih =>
      cases e with
      | char c =>
        obtain ⟨rest, hrest, rfl⟩ := Option.map_eq_some_iff.1 h
        rw [ih hrest]
        rfl
      | surrogate u => exact nomatch h
  · rintro rfl
    exact chars?_ofChars cs

theorem text?_eq_some_iff {v : Json} {s : String} : v.text? = some s ↔ v = ofText s := by
  constructor
  · intro h
    cases v with
    | string elements =>
      obtain ⟨cs, hcs, rfl⟩ := Option.map_eq_some_iff.1 h
      rw [chars?_eq_some_iff.1 hcs, ofText, String.toList_ofList]
    | _ => simp [text?] at h
  · rintro rfl
    exact text?_ofText s

theorem bool?_eq_some_iff {v : Json} {b : Bool} : v.bool? = some b ↔ v = .bool b := by
  cases v <;> simp [bool?]

theorem items?_eq_some_iff {v : Json} {items : List Json} :
    v.items? = some items ↔ v = .array items := by
  cases v <;> simp [items?]

/-! ## Records -/

variable {fields : List (String × Json)}

/-- The member that a field is written as. -/
def member (f : String × Json) : List Element × Json := (ofChars f.1.toList, f.2)

theorem record_eq (fields : List (String × Json)) :
    record fields = .object (fields.map member) := rfl

theorem memberNames?_record (fields : List (String × Json)) :
    memberNames? (fields.map member) = some (fields.map fun f => f.1.toList) := by
  induction fields with
  | nil => rfl
  | cons f fields ih =>
    rw [List.map_cons, List.map_cons, memberNames?, ih, member, chars?_ofChars]

theorem filter_member (name : String) (fields : List (String × Json)) :
    (fields.map member).filter (fun m => chars? m.1 == some name.toList)
      = (fields.filter (·.1 == name)).map member := by
  rw [List.filter_map]
  congr 1
  apply List.filter_congr
  intro f _
  rw [Function.comp_apply, member, chars?_ofChars, Bool.eq_iff_iff, beq_iff_eq, beq_iff_eq,
    Option.some.injEq, String.toList_inj]

/-- Where no two fields have the same name, a name has one field. -/
theorem filter_of_mem {f : String × Json} (hnodup : (fields.map Prod.fst).Nodup)
    (hf : f ∈ fields) : fields.filter (·.1 == f.1) = [f] := by
  induction fields with
  | nil => exact absurd hf List.not_mem_nil
  | cons g fields ih =>
    rw [List.map_cons, List.nodup_cons] at hnodup
    obtain ⟨hnot, hnodup⟩ := hnodup
    rcases List.mem_cons.1 hf with rfl | hf
    · rw [List.filter_cons_of_pos, List.filter_eq_nil_iff.2]
      · intro g hg heq
        exact hnot (List.mem_map.2 ⟨g, hg, eq_of_beq heq⟩)
      · exact beq_self_eq_true f.1
    · rw [List.filter_cons_of_neg, ih hnodup hf]
      intro heq
      exact hnot (List.mem_map.2 ⟨f, hf, (eq_of_beq heq).symm⟩)

theorem soleMember?_record {f : String × Json} (hnodup : (fields.map Prod.fst).Nodup)
    (hf : f ∈ fields) : soleMember? (fields.map member) f.1 = some f.2 := by
  rw [soleMember?, filter_member, filter_of_mem hnodup hf]
  rfl

/-- The fields of a written record are found again. -/
theorem fields?_record {names : List String} (hnames : fields.map Prod.fst = names)
    (hnodup : names.Nodup) : (record fields).fields? names = some (fields.map Prod.snd) := by
  subst hnames
  -- Each field is looked for in the whole record, so the induction is over a part of the fields.
  have hall : ∀ fs ⊆ fields, (fs.map Prod.fst).mapM (soleMember? (fields.map member))
      = some (fs.map Prod.snd) := by
    intro fs hfs
    induction fs with
    | nil => rfl
    | cons f fs ih =>
      rw [List.cons_subset] at hfs
      rw [List.map_cons, List.mapM_cons, soleMember?_record hnodup hfs.1, ih hfs.2]
      rfl
  rw [record_eq, fields?, memberNames?_record]
  exact hall fields (List.Subset.refl fields)

/-- A record is plain if the values of its fields are. -/
theorem plain_record (h : ∀ f ∈ fields, f.2.Plain) : (record fields).Plain := by
  have hmembers : (record fields)
      = .object ((fields.map fun f => (f.1.toList, f.2)).map fun m => (ofChars m.1, m.2)) := by
    rw [List.map_map]
    rfl
  rw [hmembers]
  refine .object ?_
  intro m hm
  obtain ⟨f, hf, rfl⟩ := List.mem_map.1 hm
  exact h f hf

end Json

/-! ## Expectations and window cases -/

/-- The value is a record whose fields spell the expectation. -/
def ExpectedWindow.SpelledBy (w : ExpectedWindow) (v : Json) : Prop :=
  ∃ b p e r m,
    v.fields? ["data_begin_position", "position", "data_end_position", "response_bytes", "more"]
        = some [b, p, e, r, m]
      ∧ b.Spells w.dataBegin ∧ p.Spells w.position ∧ e.Spells w.dataEnd
      ∧ r.Spells w.responseBytes ∧ m = .bool w.more

theorem ExpectedWindow.ofJson?_eq_some_iff {v : Json} {w : ExpectedWindow} :
    ofJson? v = some w ↔ w.SpelledBy v := by
  rw [ofJson?]
  constructor
  · intro h
    split at h
    · rename_i b p e r m hfields
      simp only [Option.bind_eq_bind, Option.bind_eq_some_iff, Json.word?_eq_some_iff,
        Json.bool?_eq_some_iff, Option.pure_def, Option.some.injEq] at h
      obtain ⟨dataBegin, hb, position, hp, dataEnd, he, responseBytes, hr, more, hm, rfl⟩ := h
      exact ⟨b, p, e, r, m, hfields, hb, hp, he, hr, hm⟩
    · exact nomatch h
  · rintro ⟨b, p, e, r, m, hfields, hb, hp, he, hr, hm⟩
    simp only [hfields, Option.bind_eq_bind, Json.word?_eq_some_iff.2 hb,
      Json.word?_eq_some_iff.2 hp, Json.word?_eq_some_iff.2 he, Json.word?_eq_some_iff.2 hr,
      Json.bool?_eq_some_iff.2 hm, Option.bind_some, Option.pure_def]

/-- A written expectation spells it. -/
theorem ExpectedWindow.spelledBy_toJson (w : ExpectedWindow) : w.SpelledBy w.toJson :=
  ⟨_, _, _, _, _, Json.fields?_record rfl (by decide), Json.spells_ofWord _, Json.spells_ofWord _,
    Json.spells_ofWord _, Json.spells_ofWord _, rfl⟩

/-- A written expectation is plain. -/
theorem ExpectedWindow.plain_toJson (w : ExpectedWindow) : w.toJson.Plain := by
  refine Json.plain_record ?_
  simp only [List.forall_mem_cons, List.not_mem_nil, false_imp_iff, implies_true, and_true]
  exact ⟨Json.plain_ofWord _, Json.plain_ofWord _, Json.plain_ofWord _, Json.plain_ofWord _,
    .bool w.more⟩

namespace WindowVector

/-- The value is a record whose fields spell the window case. -/
def SpelledBy (w : WindowVector) (v : Json) : Prop :=
  ∃ s d c n r l e,
    v.fields? ["name", "data_start", "capacity", "next_write", "requested_start",
        "max_window_bytes", "expected"] = some [s, d, c, n, r, l, e]
      ∧ s = .ofText w.name ∧ d.Spells w.geometry.dataStart ∧ c.Spells w.geometry.capacity
      ∧ n.Spells w.geometry.nextWrite ∧ r.Spells w.requested ∧ l.Spells w.limit
      ∧ w.expected.SpelledBy e

theorem ofJson?_eq_some_iff {v : Json} {w : WindowVector} :
    ofJson? v = some w ↔ w.SpelledBy v := by
  rw [ofJson?]
  constructor
  · intro h
    split at h
    · rename_i s d c n r l e hfields
      simp only [Option.bind_eq_bind, Option.bind_eq_some_iff, Json.text?_eq_some_iff,
        Json.word?_eq_some_iff, ExpectedWindow.ofJson?_eq_some_iff, Option.pure_def,
        Option.some.injEq] at h
      obtain ⟨name, hs, dataStart, hd, capacity, hc, nextWrite, hn, requested, hr, limit, hl,
        expected, he, rfl⟩ := h
      exact ⟨s, d, c, n, r, l, e, hfields, hs, hd, hc, hn, hr, hl, he⟩
    · exact nomatch h
  · rintro ⟨s, d, c, n, r, l, e, hfields, hs, hd, hc, hn, hr, hl, he⟩
    simp only [hfields, Option.bind_eq_bind, Json.text?_eq_some_iff.2 hs,
      Json.word?_eq_some_iff.2 hd, Json.word?_eq_some_iff.2 hc, Json.word?_eq_some_iff.2 hn,
      Json.word?_eq_some_iff.2 hr, Json.word?_eq_some_iff.2 hl,
      ExpectedWindow.ofJson?_eq_some_iff.2 he, Option.bind_some, Option.pure_def]

/-- A written window case spells it. -/
theorem spelledBy_toJson (w : WindowVector) : w.SpelledBy w.toJson :=
  ⟨_, _, _, _, _, _, _, Json.fields?_record rfl (by decide), rfl, Json.spells_ofWord _,
    Json.spells_ofWord _, Json.spells_ofWord _, Json.spells_ofWord _, Json.spells_ofWord _,
    w.expected.spelledBy_toJson⟩

/-- A written window case is plain. -/
theorem plain_toJson (w : WindowVector) : w.toJson.Plain := by
  refine Json.plain_record ?_
  simp only [List.forall_mem_cons, List.not_mem_nil, false_imp_iff, implies_true, and_true]
  exact ⟨.string _, Json.plain_ofWord _, Json.plain_ofWord _, Json.plain_ofWord _,
    Json.plain_ofWord _, Json.plain_ofWord _, w.expected.plain_toJson⟩

/-! ## Lists -/

/-- The text of a list is read as the list of the records. -/
theorem parse?_listText (vs : List WindowVector) :
    Json.parse? (listText vs) = some (.array (vs.map toJson)) := by
  refine Json.parse?_pretty (.array ?_)
  intro v hv
  obtain ⟨w, -, rfl⟩ := List.mem_map.1 hv
  exact w.plain_toJson

theorem mapM_ofJson?_eq_some_iff {items : List Json} {vs : List WindowVector} :
    items.mapM ofJson? = some vs ↔ List.Forall₂ SpelledBy vs items := by
  induction items generalizing vs with
  | nil =>
    rw [List.mapM_nil, Option.pure_def, Option.some.injEq, List.forall₂_nil_right_iff]
    exact eq_comm
  | cons v items ih =>
    simp only [List.mapM_cons, Option.bind_eq_bind, Option.bind_eq_some_iff, Option.pure_def,
      Option.some.injEq, ofJson?_eq_some_iff, ih, List.forall₂_cons_right_iff]
    constructor
    · rintro ⟨w, hw, ws, hws, rfl⟩
      exact ⟨w, ws, hw, hws, rfl⟩
    · rintro ⟨w, ws, hw, hws, rfl⟩
      exact ⟨w, hw, ws, hws, rfl⟩

theorem listOfText?_eq_some_iff {s : String} {vs : List WindowVector} :
    listOfText? s = some vs
      ↔ ∃ items, Json.parse? s = some (.array items) ∧ List.Forall₂ SpelledBy vs items := by
  rw [listOfText?]
  simp only [Option.bind_eq_bind, Option.bind_eq_some_iff, Json.items?_eq_some_iff,
    mapM_ofJson?_eq_some_iff]
  constructor
  · rintro ⟨_, hparse, items, rfl, hspelled⟩
    exact ⟨items, hparse, hspelled⟩
  · rintro ⟨items, hparse, hspelled⟩
    exact ⟨_, hparse, items, rfl, hspelled⟩

/-- Every list of window cases is read back from its text, with any names and any numbers. And
from a text of any origin exactly that is read which is spelled there, record by record: a name as
the same characters, and a number as digits that denote it, so none is rounded and none is taken
from a fraction or an exponent. -/
theorem listOfText?_listText :
    (∀ vs : List WindowVector, listOfText? (listText vs) = some vs)
      ∧ ∀ (s : String) (vs : List WindowVector),
        listOfText? s = some vs
          ↔ ∃ items, Json.parse? s = some (.array items) ∧ List.Forall₂ SpelledBy vs items := by
  refine ⟨?_, fun s vs => listOfText?_eq_some_iff⟩
  intro vs
  have hspelled : List.Forall₂ SpelledBy vs (vs.map toJson) := by
    rw [List.forall₂_map_right_iff]
    exact List.forall₂_same.2 fun w _ => w.spelledBy_toJson
  exact listOfText?_eq_some_iff.2 ⟨vs.map toJson, parse?_listText vs, hspelled⟩

/-- Records may be given by their values alone. One number with a fraction, and nothing is read. -/
example :
    listOfText? "[[\"\", 0, 1, 18446744073709551615, 3, 4, [5, 6, 7, 8, true]]]"
        = some [{ name := "", geometry := ⟨0, 1, Offset.last⟩, requested := 3, limit := 4,
                  expected := ⟨5, 6, 7, 8, true⟩ }]
      ∧ listOfText? "[[\"\", 0, 1, 2, 3, 4.0, [5, 6, 7, 8, true]]]" = none := by
  decide +kernel

end WindowVector

end ByteLedger
