import ByteLedger.Proofs.Wire
import Mathlib.Data.List.Induction

set_option autoImplicit false

/-!
# What a wire text says

A text is read piece by piece, and each piece may replace what the ones before it said. What is left
in the end can be said without going through the pieces: a field has the value in the last piece
that names it, and its default where that value is malformed or there is no such piece
(`Cursor.get_ofWire`).

So of two texts that are joined the second decides, in each field that it names
(`Cursor.get_ofWire_append`). And neither the order of the written pieces matters nor what else
stands between them, as long as it names no field (`Cursor.ofWire_of_perm`).
-/

namespace ByteLedger

/-! ## Written numbers -/

namespace Decimal

/-- A run of ASCII digits denotes a number. -/
inductive Denotes : List Char → Nat → Prop where
  | digit {c : Char} : c.isDigit = true → Denotes [c] (c.toNat - '0'.toNat)
  | snoc {cs : List Char} {n : Nat} {c : Char} : Denotes cs n → c.isDigit = true →
      Denotes (cs ++ [c]) (10 * n + (c.toNat - '0'.toNat))

/-- A text spells an offset: digits that denote it, or a plus sign and such digits. -/
def Spells (cs : List Char) (o : Offset) : Prop :=
  ∃ digits, (cs = digits ∨ cs = '+' :: digits) ∧ Denotes digits o.toNat

theorem natural?_eq_some {cs : List Char} {n : Nat} :
    natural? cs = some n
      ↔ cs ≠ [] ∧ (∀ c ∈ cs, c.isDigit = true) ∧ Nat.ofDigitChars 10 cs 0 = n := by
  rw [natural?, Option.ite_none_right_eq_some, Bool.and_eq_true, Bool.not_eq_true',
    List.isEmpty_eq_false_iff, List.all_eq_true, Option.some.injEq, and_assoc]

/-- One more digit. -/
theorem natural?_snoc {cs : List Char} {n : Nat} {c : Char} (h : natural? cs = some n)
    (hc : c.isDigit = true) :
    natural? (cs ++ [c]) = some (10 * n + (c.toNat - '0'.toNat)) := by
  obtain ⟨-, hdigits, rfl⟩ := natural?_eq_some.1 h
  refine natural?_eq_some.2 ⟨by simp, ?_, ?_⟩
  · intro d hd
    rcases List.mem_append.1 hd with hd | hd
    · exact hdigits d hd
    · rw [List.mem_singleton.1 hd]
      exact hc
  · rw [Nat.ofDigitChars_append, Nat.ofDigitChars_cons, Nat.ofDigitChars_nil]

/-- The digits of a number are read as that number. -/
theorem natural?_eq_some_iff {cs : List Char} {n : Nat} : natural? cs = some n ↔ Denotes cs n := by
  constructor
  · intro h
    obtain ⟨hne, hdigits, hvalue⟩ := natural?_eq_some.1 h
    clear h
    induction cs using List.reverseRecOn generalizing n with
    | nil => exact absurd rfl hne
    | append_singleton cs c ih =>
      have hc : c.isDigit = true := hdigits c (by simp)
      rw [Nat.ofDigitChars_append, Nat.ofDigitChars_cons, Nat.ofDigitChars_nil] at hvalue
      subst hvalue
      by_cases hcs : cs = []
      · subst hcs
        rw [Nat.ofDigitChars_nil, Nat.mul_zero, Nat.zero_add]
        exact .digit hc
      · exact .snoc (ih hcs (fun d hd => hdigits d (List.mem_append_left _ hd)) rfl) hc
  · intro h
    induction h with
    | digit hc =>
      rw [natural?_eq_some]
      refine ⟨by simp, by simpa using hc, ?_⟩
      rw [Nat.ofDigitChars_cons, Nat.ofDigitChars_nil, Nat.mul_zero, Nat.zero_add]
    | snoc _ hc ih => exact natural?_snoc ih hc

theorem Denotes.isDigit {cs : List Char} {n : Nat} (h : Denotes cs n) :
    ∀ c ∈ cs, c.isDigit = true := (natural?_eq_some.1 (natural?_eq_some_iff.2 h)).2.1

/-- A number as an offset, if it is below `2^64`. -/
def offset? (n : Nat) : Option Offset := if n < 2 ^ 64 then some (UInt64.ofNat n) else none

theorem bind_offset?_eq_some_iff {digits : List Char} {o : Offset} :
    (natural? digits).bind offset? = some o ↔ Denotes digits o.toNat := by
  rw [Option.bind_eq_some_iff]
  simp only [offset?, Option.ite_none_right_eq_some, Option.some.injEq, natural?_eq_some_iff]
  constructor
  · rintro ⟨n, hdenotes, hn, rfl⟩
    rw [UInt64.toNat_ofNat_of_lt' hn]
    exact hdenotes
  · intro h
    exact ⟨o.toNat, h, o.toNat_lt, UInt64.ofNat_toNat⟩

theorem word?_plus (digits : List Char) :
    word? ('+' :: digits) = (natural? digits).bind offset? := by
  rw [word?]
  cases natural? digits <;> rfl

theorem word?_of_ne_plus {cs : List Char} (h : ∀ digits, cs ≠ '+' :: digits) :
    word? cs = (natural? cs).bind offset? := by
  unfold word?
  split
  · rename_i digits
    exact absurd rfl (h digits)
  · simp only
    cases natural? cs <;> rfl

/-- A text is read as an offset if it spells it, and else it is malformed. -/
theorem word?_eq_some_iff {cs : List Char} {o : Offset} : word? cs = some o ↔ Spells cs o := by
  by_cases hplus : ∃ rest, cs = '+' :: rest
  · obtain ⟨rest, rfl⟩ := hplus
    rw [word?_plus, bind_offset?_eq_some_iff]
    constructor
    · exact fun h => ⟨rest, Or.inr rfl, h⟩
    · rintro ⟨digits, rfl | heq, h⟩
      · exact absurd (h.isDigit '+' List.mem_cons_self) (by decide)
      · cases heq
        exact h
  · rw [word?_of_ne_plus (not_exists.1 hplus), bind_offset?_eq_some_iff]
    constructor
    · exact fun h => ⟨cs, Or.inl rfl, h⟩
    · rintro ⟨digits, rfl | rfl, h⟩
      · exact h
      · exact absurd ⟨digits, rfl⟩ hplus

/-- What a text stands for where it should spell an offset: that offset, or else zero. -/
def StandsFor (cs : List Char) (o : Offset) : Prop :=
  Spells cs o ∨ (∀ o', ¬ Spells cs o') ∧ o = 0

theorem standsFor_getD (cs : List Char) : StandsFor cs ((word? cs).getD 0) := by
  cases h : word? cs with
  | some o => exact Or.inl (word?_eq_some_iff.1 h)
  | none =>
    refine Or.inr ⟨?_, rfl⟩
    intro o' ho'
    rw [word?_eq_some_iff.2 ho'] at h
    cases h

end Decimal

namespace Cursor

/-! ## Fields of a cursor -/

/-- The values that a field can have. -/
def Field.Value : Field → Type
  | position => Offset
  | responseBytes => Offset
  | direction => Direction
  | more => Bool

/-- The value of a field. -/
def get (c : Cursor) : (f : Field) → f.Value
  | .position => c.position
  | .responseBytes => c.responseBytes
  | .direction => c.direction
  | .more => c.more

/-- What is read from a value that is given for a field. -/
def Field.valueOf (f : Field) (value : List Char) : f.Value :=
  (({} : Cursor).readField value f).get f

theorem get_readField (c : Cursor) (value : List Char) (f g : Field) :
    (c.readField value f).get g = if h : f = g then h ▸ f.valueOf value else c.get g := by
  cases f <;> cases g <;> rfl

theorem wireEq_iff_get {a b : Cursor} : a.wireEq b = true ↔ ∀ f, a.get f = b.get f := by
  rw [wireEq_iff]
  constructor
  · rintro ⟨hposition, hbytes, hdirection, hmore⟩ f
    cases f with
    | position => exact hposition
    | responseBytes => exact hbytes
    | direction => exact hdirection
    | more => exact hmore
  · exact fun h => ⟨h .position, h .responseBytes, h .direction, h .more⟩

/-- What a value says of its field: a number, or the one word that is not the default. -/
def Field.Means : (f : Field) → List Char → f.Value → Prop
  | position, value, o => Decimal.StandsFor value o
  | responseBytes, value, o => Decimal.StandsFor value o
  | direction, value, d => d = Direction.backward ↔ value = "backward".toList
  | more, value, b => b = true ↔ value = "true".toList

theorem Field.means_valueOf (f : Field) (value : List Char) : f.Means value (f.valueOf value) := by
  have hword : ∀ {s : String}, String.ofList value = s ↔ value = s.toList := by
    intro s
    rw [← String.toList_inj, String.toList_ofList]
  cases f with
  | position => exact Decimal.standsFor_getD value
  | responseBytes => exact Decimal.standsFor_getD value
  | direction =>
    change (Direction.ofToken? (String.ofList value)).getD .forward = .backward ↔ _
    rw [← hword]
    cases h : Direction.ofToken? (String.ofList value) with
    | none =>
      refine iff_of_false (by decide) ?_
      intro hback
      rw [hback] at h
      cases h
    | some d =>
      rw [Direction.ofToken?_eq_some_iff.1 h]
      cases d <;> decide
  | more =>
    change (String.ofList value == flagText true) = true ↔ _
    rw [beq_iff_eq, hword]
    rfl

/-! ## The last piece with a key -/

/-- The value in a piece that names the field. -/
def Field.valueIn? (f : Field) (piece : List Char) : Option (List Char) :=
  if pieceKey piece = f.key.toList then some (pieceValue piece) else none

/-- The value in the last piece that names the field. -/
def lastValue? (wire : String) (f : Field) : Option (List Char) :=
  (wire.toList.splitOn '&').findSomeRev? f.valueIn?

theorem Field.ofKey?_eq_some_iff {key : List Char} {f : Field} :
    ofKey? key = some f ↔ key = f.key.toList := by
  constructor
  · intro h
    have hfound := List.find?_some h
    exact (eq_of_beq hfound).symm
  · rintro rfl
    exact f.ofKey?_key

/-- A piece replaces the value of the field that it names. -/
theorem get_readPiece (c : Cursor) (piece : List Char) (f : Field) :
    (c.readPiece piece).get f = ((f.valueIn? piece).map f.valueOf).getD (c.get f) := by
  rw [readPiece, Field.valueIn?]
  cases h : Field.ofKey? (pieceKey piece) with
  | none =>
    rw [if_neg]
    · rfl
    · intro hkey
      rw [Field.ofKey?_eq_some_iff.2 hkey] at h
      cases h
  | some g =>
    have hkey := Field.ofKey?_eq_some_iff.1 h
    simp only [get_readField]
    by_cases hfg : g = f
    · subst hfg
      rw [dif_pos rfl, if_pos hkey]
      rfl
    · rw [dif_neg hfg, if_neg]
      · rfl
      · intro hkey'
        rw [Field.ofKey?_eq_some_iff.2 hkey'] at h
        exact hfg (Option.some.inj h).symm

/-- So after some pieces a field has the value in the last of them that names it. -/
theorem get_foldl_readPiece (c : Cursor) (pieces : List (List Char)) (f : Field) :
    (pieces.foldl readPiece c).get f
      = ((pieces.findSomeRev? f.valueIn?).map f.valueOf).getD (c.get f) := by
  induction pieces generalizing c with
  | nil => rfl
  | cons piece pieces ih =>
    rw [List.foldl_cons, ih, get_readPiece, List.findSomeRev?]
    cases pieces.findSomeRev? f.valueIn? with
    | none => rfl
    | some value => rfl

/-- The meaning of a text, field by field. -/
theorem get_ofWire (wire : String) (f : Field) :
    (ofWire wire).get f = ((lastValue? wire f).map f.valueOf).getD (({} : Cursor).get f) :=
  get_foldl_readPiece {} _ f

theorem lastValue?_append (a b : String) (f : Field) :
    lastValue? (a ++ "&" ++ b) f = (lastValue? b f).or (lastValue? a f) := by
  have hpieces : (a ++ "&" ++ b).toList.splitOn '&'
      = a.toList.splitOn '&' ++ b.toList.splitOn '&' := by
    rw [String.toList_append, String.toList_append, List.append_assoc]
    exact List.splitOn_append_cons_self _ _
  simp only [lastValue?, hpieces, List.findSomeRev?_eq_findSome?_reverse, List.reverse_append,
    List.findSome?_append]

/-- Some piece of the text has the key of the field. -/
def Names (wire : String) (f : Field) : Prop :=
  ∃ piece ∈ wire.toList.splitOn '&', piece ≠ [] ∧ pieceKey piece = f.key.toList

instance (wire : String) (f : Field) : Decidable (Names wire f) :=
  inferInstanceAs (Decidable (∃ piece ∈ wire.toList.splitOn '&', _ ∧ _))

theorem lastValue?_eq_none_iff {wire : String} {f : Field} :
    lastValue? wire f = none ↔ ¬ Names wire f := by
  rw [lastValue?, List.findSomeRev?_eq_findSome?_reverse, List.findSome?_eq_none_iff]
  simp only [List.mem_reverse, Field.valueIn?, ite_eq_right_iff, reduceCtorEq, imp_false]
  constructor
  · rintro h ⟨piece, hmem, -, hkey⟩
    exact h piece hmem hkey
  · intro h piece hmem hkey
    refine h ⟨piece, hmem, ?_, hkey⟩
    rintro rfl
    cases f <;> exact absurd hkey (by decide)

/-- In a field that the second of two texts names, the first does not count. -/
theorem get_ofWire_append (a b : String) (f : Field) :
    (ofWire (a ++ "&" ++ b)).get f
      = if Names b f then (ofWire b).get f else (ofWire a).get f := by
  rw [get_ofWire, lastValue?_append]
  cases h : lastValue? b f with
  | none =>
    rw [if_neg (lastValue?_eq_none_iff.1 h), get_ofWire, Option.none_or]
  | some value =>
    have hnames : Names b f := by
      by_contra hnot
      rw [lastValue?_eq_none_iff.2 hnot] at h
      cases h
    rw [if_pos hnames, get_ofWire, h, Option.some_or]

/-- A single piece that has the key of a field says what its value means. -/
theorem means_of_piece {piece : String} {f : Field} (hpiece : '&' ∉ piece.toList)
    (hkey : pieceKey piece.toList = f.key.toList) :
    f.Means (pieceValue piece.toList) ((ofWire piece).get f) := by
  have hvalue : lastValue? piece f = some (pieceValue piece.toList) := by
    rw [lastValue?, List.splitOn_eq_singleton hpiece]
    exact if_pos hkey
  rw [get_ofWire, hvalue]
  exact f.means_valueOf _

/-- What any text says of a field. Of two texts that are joined by an ampersand, the second decides
if it has a piece with the key of the field, and else the first. A single piece with that key says
what its value means: the number it spells or zero, backward if that is the word, true if that is
the word. A text without such a piece leaves the default. So a value that is malformed still
replaces those before it. -/
theorem ofWire_means :
    (∀ (a b : String) (f : Field),
      (ofWire (a ++ "&" ++ b)).get f
        = if Names b f then (ofWire b).get f else (ofWire a).get f)
    ∧ (∀ (piece : String) (f : Field), '&' ∉ piece.toList →
        pieceKey piece.toList = f.key.toList →
        f.Means (pieceValue piece.toList) ((ofWire piece).get f))
    ∧ ∀ (wire : String) (f : Field), ¬ Names wire f →
        (ofWire wire).get f = ({} : Cursor).get f := by
  refine ⟨get_ofWire_append, fun _ _ => means_of_piece, ?_⟩
  intro wire f hnot
  rw [get_ofWire, lastValue?_eq_none_iff.2 hnot]
  rfl

/-- A value with a second equals sign in it is malformed, and replaces the position that was given
before. A key alone takes the flag back. The second text does not name the direction, so that
stays. -/
theorem ofWire_means_repeated :
    let first := "position=7&direction=backward&&more=true"
    let second := "more&position=8=8"
    Names second .position ∧ Names second .more ∧ ¬ Names second .direction
      ∧ (ofWire (first ++ "&" ++ second)).position = 0
      ∧ (ofWire (first ++ "&" ++ second)).more = false
      ∧ (ofWire (first ++ "&" ++ second)).direction = .backward
      ∧ Decimal.StandsFor "8=8".toList (ofWire "position=8=8").position
      ∧ (ofWire (first ++ "&" ++ second)).responseBytes = 0 := by
  intro first second
  obtain ⟨hjoin, hpiece, hdefault⟩ := ofWire_means
  have hposition : Names second .position := by decide
  have hmore : Names second .more := by decide
  have hdirection : ¬ Names second .direction := by decide
  have hzero : (ofWire second).position = 0 := by decide
  have hfalse : (ofWire second).more = false := by decide
  have hbackward : (ofWire first).direction = .backward := by decide
  refine ⟨hposition, hmore, hdirection, ?_, ?_, ?_, ?_, ?_⟩
  · exact ((hjoin first second .position).trans (if_pos hposition)).trans hzero
  · exact ((hjoin first second .more).trans (if_pos hmore)).trans hfalse
  · exact ((hjoin first second .direction).trans (if_neg hdirection)).trans hbackward
  · exact hpiece "position=8=8" .position (by decide) (by decide)
  · exact hdefault (first ++ "&" ++ second) .responseBytes (by decide)

/-! ## Written pieces among others -/

theorem bounds_foldl_readPiece (c : Cursor) (pieces : List (List Char)) :
    (pieces.foldl readPiece c).dataBegin = c.dataBegin
      ∧ (pieces.foldl readPiece c).dataEnd = c.dataEnd := by
  have hstep : ∀ (c : Cursor) piece,
      (c.readPiece piece).dataBegin = c.dataBegin ∧ (c.readPiece piece).dataEnd = c.dataEnd := by
    intro c piece
    rw [readPiece]
    cases Field.ofKey? (pieceKey piece) with
    | none => exact ⟨rfl, rfl⟩
    | some f => cases f <;> exact ⟨rfl, rfl⟩
  induction pieces generalizing c with
  | nil => exact ⟨rfl, rfl⟩
  | cons piece pieces ih =>
    obtain ⟨hbegin, hend⟩ := hstep c piece
    rw [List.foldl_cons, ← hbegin, ← hend]
    exact ih _

theorem valueOf_fieldText (c : Cursor) (f : Field) :
    f.valueOf (c.fieldText f).toList = c.get f := by
  rw [Field.valueOf]
  cases f with
  | position => rw [readField_position]; rfl
  | responseBytes => rw [readField_responseBytes]; rfl
  | direction => rw [readField_direction]; rfl
  | more => rw [readField_more]; rfl

theorem valueIn?_pieceText (c : Cursor) (f g : Field) :
    f.valueIn? (c.pieceText g).toList = if g = f then some (c.fieldText f).toList else none := by
  rw [toList_pieceText, Field.valueIn?, pieceKey_append _ g.equals_not_mem_key,
    pieceValue_append _ g.equals_not_mem_key]
  cases f <;> cases g <;> rfl

/-- Where every piece that names a field gives it the same value, it does not matter which of them
is the last. -/
theorem lastValue?_eq_some {wire : String} {f : Field} {value : List Char}
    (hmem : ∃ piece ∈ wire.toList.splitOn '&', f.valueIn? piece = some value)
    (hsame : ∀ piece ∈ wire.toList.splitOn '&', ∀ v, f.valueIn? piece = some v → v = value) :
    lastValue? wire f = some value := by
  rw [lastValue?, List.findSomeRev?_eq_findSome?_reverse]
  cases h : (wire.toList.splitOn '&').reverse.findSome? f.valueIn? with
  | none =>
    obtain ⟨piece, hpiece, hvalue⟩ := hmem
    rw [List.findSome?_eq_none_iff] at h
    rw [h piece (List.mem_reverse.2 hpiece)] at hvalue
    cases hvalue
  | some v =>
    obtain ⟨piece, hpiece, hv⟩ := List.exists_of_findSome?_eq_some h
    rw [hsame piece (List.mem_reverse.1 hpiece) v hv]

/-- The written pieces of a cursor, in any order and among others that name no field. -/
theorem get_ofWire_of_perm {c : Cursor} {pieces foreign : List String}
    (hpieces : pieces.Perm (Field.all.map c.pieceText ++ foreign))
    (hforeign : ∀ p ∈ foreign, '&' ∉ p.toList ∧ ∀ f : Field, pieceKey p.toList ≠ f.key.toList)
    (f : Field) : (ofWire ("&".intercalate pieces)).get f = c.get f := by
  have hmem : ∀ p, p ∈ pieces ↔ (∃ g, c.pieceText g = p) ∨ p ∈ foreign := by
    intro p
    have hall : ∀ g, g ∈ Field.all := by
      intro g
      cases g <;> decide
    rw [hpieces.mem_iff, List.mem_append, List.mem_map]
    simp only [hall, true_and]
  have hsplit : ("&".intercalate pieces).toList.splitOn '&' = pieces.map String.toList := by
    apply splitOn_intercalate
    · intro p hp
      rcases (hmem p).1 hp with ⟨g, rfl⟩ | hp
      · exact c.ampersand_not_mem_pieceText g
      · exact (hforeign p hp).1
    · exact List.ne_nil_of_mem ((hmem _).2 (Or.inl ⟨f, rfl⟩))
  have hvalue : lastValue? ("&".intercalate pieces) f = some (c.fieldText f).toList := by
    apply lastValue?_eq_some
    · rw [hsplit]
      refine ⟨_, List.mem_map_of_mem ((hmem _).2 (Or.inl ⟨f, rfl⟩)), ?_⟩
      rw [valueIn?_pieceText, if_pos rfl]
    · rw [hsplit]
      intro cs hcs value hfound
      obtain ⟨p, hp, rfl⟩ := List.mem_map.1 hcs
      rcases (hmem p).1 hp with ⟨g, rfl⟩ | hp
      · rw [valueIn?_pieceText, Option.ite_none_right_eq_some] at hfound
        exact (Option.some.inj hfound.2).symm
      · rw [Field.valueIn?, if_neg ((hforeign p hp).2 f)] at hfound
        cases hfound
  rw [get_ofWire, hvalue]
  exact c.valueOf_fieldText f

/-- Cursors that agree on the wire are written alike. -/
theorem toWire_eq_iff {a b : Cursor} : a.toWire = b.toWire ↔ a.wireEq b = true := by
  constructor
  · intro h
    have hread := congrArg ofWire h
    rw [ofWire_toWire, ofWire_toWire] at hread
    rw [wireEq_iff_get]
    intro f
    have hf := congrArg (get · f) hread
    cases f <;> exact hf
  · intro h
    rw [wireEq_iff] at h
    obtain ⟨hposition, hbytes, hdirection, hmore⟩ := h
    have hpiece : a.pieceText = b.pieceText := by
      funext f
      cases f <;> simp only [pieceText, fieldText, hposition, hbytes, hdirection, hmore]
    rw [toWire, toWire, hpiece]

/-- Every cursor. Its written pieces can stand in any order, and between them anything that has no
ampersand in it and has none of the four keys, the empty piece included: what is read agrees with
the cursor on the wire, and has no bounds. Of the request form the position is read and nothing
else. So cursors are written alike exactly if they agree on the wire. -/
theorem ofWire_of_perm :
    (∀ (c : Cursor) (pieces foreign : List String),
      pieces.Perm (Field.all.map c.pieceText ++ foreign) →
      (∀ p ∈ foreign, '&' ∉ p.toList ∧ ∀ f : Field, pieceKey p.toList ≠ f.key.toList) →
      (ofWire ("&".intercalate pieces)).wireEq c = true
        ∧ (ofWire ("&".intercalate pieces)).dataBegin = 0
        ∧ (ofWire ("&".intercalate pieces)).dataEnd = 0)
    ∧ (∀ c : Cursor, ofWire c.toRequestText = { position := c.position })
    ∧ ∀ a b : Cursor, a.toWire = b.toWire ↔ a.wireEq b = true := by
  refine ⟨?_, ofWire_toRequestText, fun a b => toWire_eq_iff⟩
  intro c pieces foreign hpieces hforeign
  exact ⟨wireEq_iff_get.2 (get_ofWire_of_perm hpieces hforeign), bounds_foldl_readPiece {} _⟩

/-- The greatest position, written last but for a piece without a key. Between the pieces stand an
empty one, and some whose keys are nearly those of fields. -/
theorem ofWire_of_perm_foreign :
    let c : Cursor := {
      dataBegin := 5, position := Offset.last, dataEnd := 9, direction := .backward, more := true }
    let wire := "more=true&Position=7&&response_bytes=0&more =false&direction=backward"
      ++ "&position=18446744073709551615&=position=3"
    (ofWire wire).wireEq c = true ∧ (ofWire wire).dataBegin = 0 ∧ (ofWire wire).dataEnd = 0
      ∧ ofWire c.toRequestText = { position := Offset.last }
      ∧ c.toWire = { c with dataEnd := 7 }.toWire := by
  intro c wire
  obtain ⟨hread, hrequest, hwritten⟩ := ofWire_of_perm
  have hjoin : wire = "&".intercalate
      ["more=true", "Position=7", "", "response_bytes=0", "more =false", "direction=backward",
        "position=18446744073709551615", "=position=3"] := by decide
  have hforeign : ∀ p ∈ ["Position=7", "", "more =false", "=position=3"],
      '&' ∉ p.toList ∧ ∀ f : Field, pieceKey p.toList ≠ f.key.toList := by
    intro p hp
    simp only [List.mem_cons, List.not_mem_nil, or_false] at hp
    rcases hp with rfl | rfl | rfl | rfl <;> exact ⟨by decide, fun f => by cases f <;> decide⟩
  have hpieces : ["more=true", "Position=7", "", "response_bytes=0", "more =false",
      "direction=backward", "position=18446744073709551615", "=position=3"].Perm
        (Field.all.map c.pieceText ++ ["Position=7", "", "more =false", "=position=3"]) := by decide
  obtain ⟨hwire, hbegin, hend⟩ := hread c _ _ hpieces hforeign
  rw [hjoin]
  exact ⟨hwire, hbegin, hend, hrequest c, (hwritten _ _).2 (by decide)⟩

end Cursor

end ByteLedger
