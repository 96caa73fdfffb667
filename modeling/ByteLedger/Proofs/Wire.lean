import ByteLedger.Cursor.Wire
import ByteLedger.Message.Basic

set_option autoImplicit false

/-!
# Wire texts read back

No written value has an ampersand in it and no key an equals sign, so a wire text falls
into the pieces of which it was made, and each piece sets its own field. A cursor is read
back up to the bounds of its data, which do not travel.
-/

namespace ByteLedger

/-! ## Lengths of texts -/

namespace Utf8

theorem length_append (s t : String) : length (s ++ t) = length s + length t :=
  String.utf8ByteSize_append

theorem length_append_le {s t : String} {m n : Nat} (hs : length s ≤ m) (ht : length t ≤ n) :
    length (s ++ t) ≤ m + n := by
  rw [length_append]
  omega

/-- A character takes at most four bytes. -/
theorem length_ofList_le (cs : List Char) : length (String.ofList cs) ≤ 4 * cs.length := by
  induction cs with
  | nil => exact Nat.le_refl _
  | cons c cs ih =>
    have hc := Char.utf8Size_le_four c
    have hsingle : length (String.singleton c) = c.utf8Size := String.utf8ByteSize_singleton
    rw [String.ofList_cons, length_append, hsingle, List.length_cons]
    omega

end Utf8

/-- An offset has at most twenty digits. -/
theorem Decimal.length_text_le (n : Offset) : Utf8.length (text n) ≤ 80 := by
  have hn := Offset.toNat_lt n
  have hdigits : (Nat.toDigits 10 n.toNat).length ≤ 20 :=
    (Nat.length_toDigits_le_iff (by decide) (by decide)).2 (by omega)
  have hlen := Utf8.length_ofList_le (Nat.toDigits 10 n.toNat)
  rw [text, Nat.repr_eq_ofList_toDigits]
  omega

theorem Decimal.not_mem_text {c : Char} (h : c.isDigit = false) (n : Offset) :
    c ∉ (text n).toList := by
  intro hc
  rw [toList_text] at hc
  have hdigit := Nat.isDigit_of_mem_toDigits (by decide) (by decide) hc
  rw [h] at hdigit
  cases hdigit

namespace Cursor

/-! ## One piece -/

theorem Field.ofKey?_key (f : Field) : ofKey? f.key.toList = some f := by
  cases f <;> decide

theorem Field.equals_not_mem_key (f : Field) : '=' ∉ f.key.toList := by
  cases f <;> decide

theorem Field.ampersand_not_mem_key (f : Field) : '&' ∉ f.key.toList := by
  cases f <;> decide

theorem ampersand_not_mem_fieldText (c : Cursor) (f : Field) : '&' ∉ (c.fieldText f).toList := by
  cases f with
  | position => exact Decimal.not_mem_text (by decide) _
  | responseBytes => exact Decimal.not_mem_text (by decide) _
  | direction =>
    simp only [fieldText]
    cases c.direction <;> decide
  | more =>
    simp only [fieldText]
    cases c.more <;> decide

theorem toList_pieceText (c : Cursor) (f : Field) :
    (c.pieceText f).toList = f.key.toList ++ '=' :: (c.fieldText f).toList := by
  rw [pieceText, String.toList_append, String.toList_append, List.append_assoc]
  rfl

theorem ampersand_not_mem_pieceText (c : Cursor) (f : Field) : '&' ∉ (c.pieceText f).toList := by
  rw [toList_pieceText, List.mem_append, List.mem_cons]
  rintro (hkey | heq | hvalue)
  · exact f.ampersand_not_mem_key hkey
  · exact absurd heq (by decide)
  · exact c.ampersand_not_mem_fieldText f hvalue

theorem pieceKey_append {key : List Char} (value : List Char) (h : '=' ∉ key) :
    pieceKey (key ++ '=' :: value) = key := by
  rw [pieceKey, List.takeWhile_append_of_pos, List.takeWhile_cons_of_neg (by decide),
    List.append_nil]
  intro c hc
  rw [bne_iff_ne]
  rintro rfl
  exact h hc

theorem pieceValue_append {key : List Char} (value : List Char) (h : '=' ∉ key) :
    pieceValue (key ++ '=' :: value) = value := by
  rw [pieceValue, List.dropWhile_append_of_pos, List.dropWhile_cons_of_neg (by decide)]
  · rfl
  · intro c hc
    rw [bne_iff_ne]
    rintro rfl
    exact h hc

/-- A written piece sets its field. -/
theorem readPiece_pieceText (a c : Cursor) (f : Field) :
    a.readPiece (c.pieceText f).toList = a.readField (c.fieldText f).toList f := by
  rw [toList_pieceText, readPiece, pieceKey_append _ f.equals_not_mem_key, Field.ofKey?_key,
    pieceValue_append _ f.equals_not_mem_key]

theorem readField_position (a c : Cursor) :
    a.readField (c.fieldText .position).toList .position = { a with position := c.position } := by
  rw [readField, fieldText, Decimal.word?_text]
  rfl

theorem readField_responseBytes (a c : Cursor) :
    a.readField (c.fieldText .responseBytes).toList .responseBytes
      = { a with responseBytes := c.responseBytes } := by
  rw [readField, fieldText, Decimal.word?_text]
  rfl

theorem readField_direction (a c : Cursor) :
    a.readField (c.fieldText .direction).toList .direction
      = { a with direction := c.direction } := by
  rw [readField, fieldText, String.ofList_toList, Direction.ofToken?_eq_some_iff.2 rfl]
  rfl

theorem readField_more (a c : Cursor) :
    a.readField (c.fieldText .more).toList .more = { a with more := c.more } := by
  have hflag : ∀ b, (flagText b == flagText true) = b := by decide
  rw [readField, fieldText, String.ofList_toList, hflag]

/-! ## Whole texts -/

/-- A text that is joined from pieces falls into them. -/
theorem splitOn_intercalate {pieces : List String} (h : ∀ p ∈ pieces, '&' ∉ p.toList)
    (hne : pieces ≠ []) :
    ("&".intercalate pieces).toList.splitOn '&' = pieces.map String.toList := by
  rw [String.toList_intercalate]
  apply List.splitOn_intercalate
  · intro cs hcs
    obtain ⟨p, hp, rfl⟩ := List.mem_map.1 hcs
    exact h p hp
  · simpa using hne

/-- A cursor is read back from its wire text, but the bounds of its data are not. -/
theorem ofWire_toWire (c : Cursor) : ofWire c.toWire = { c with dataBegin := 0, dataEnd := 0 } := by
  have hsplit : c.toWire.toList.splitOn '&' = (Field.all.map c.pieceText).map String.toList := by
    apply splitOn_intercalate
    · intro p hp
      obtain ⟨f, _, rfl⟩ := List.mem_map.1 hp
      exact c.ampersand_not_mem_pieceText f
    · simp [Field.all]
  rw [ofWire, hsplit]
  simp only [Field.all, List.map_cons, List.map_nil, List.foldl_cons, List.foldl_nil,
    readPiece_pieceText, readField_position, readField_responseBytes, readField_direction,
    readField_more]

/-- The position is read back from the request form. -/
theorem ofWire_toRequestText (c : Cursor) :
    ofWire c.toRequestText = { position := c.position } := by
  have hsplit : c.toRequestText.toList.splitOn '&' = [(c.pieceText .position).toList] :=
    List.splitOn_eq_singleton (c.ampersand_not_mem_pieceText .position)
  rw [ofWire, hsplit, List.foldl_cons, List.foldl_nil, readPiece_pieceText, readField_position]

theorem length_fieldText_le (c : Cursor) (f : Field) : Utf8.length (c.fieldText f) ≤ 80 := by
  cases f with
  | position => exact Decimal.length_text_le _
  | responseBytes => exact Decimal.length_text_le _
  | direction =>
    simp only [fieldText]
    cases c.direction <;> decide
  | more =>
    simp only [fieldText]
    cases c.more <;> decide

theorem length_pieceText_le (c : Cursor) (f : Field) : Utf8.length (c.pieceText f) ≤ 95 := by
  have hkey : Utf8.length f.key ≤ 14 := by cases f <;> decide
  have heq : Utf8.length "=" ≤ 1 := by decide
  exact Utf8.length_append_le (Utf8.length_append_le hkey heq) (c.length_fieldText_le f)

/-- The request form keeps the limit on the text of a cursor. -/
theorem length_toRequestText_le (c : Cursor) :
    Utf8.length c.toRequestText ≤ Request.cursorLimit :=
  Nat.le_trans (c.length_pieceText_le .position) (by decide)

/-- The wire text of a cursor is short. -/
theorem length_toWire_le (c : Cursor) : Utf8.length c.toWire ≤ 512 := by
  have hsep : Utf8.length "&" ≤ 1 := by decide
  have hjoin : c.toWire = c.pieceText .position ++ "&" ++ (c.pieceText .responseBytes ++ "&"
      ++ (c.pieceText .direction ++ "&" ++ c.pieceText .more)) := by
    simp only [toWire, Field.all, List.map_cons, List.map_nil, String.intercalate_cons_cons,
      String.intercalate_singleton]
  have hdirection := Utf8.length_append_le
    (Utf8.length_append_le (c.length_pieceText_le .direction) hsep) (c.length_pieceText_le .more)
  have hbytes := Utf8.length_append_le
    (Utf8.length_append_le (c.length_pieceText_le .responseBytes) hsep) hdirection
  rw [hjoin]
  have hle := Utf8.length_append_le
    (Utf8.length_append_le (c.length_pieceText_le .position) hsep) hbytes
  exact Nat.le_trans hle (by decide)

end Cursor

/-! ## Requests and windows -/

/-- A request that is made from a cursor asks for its position. -/
theorem Request.position?_ofCursor (c : Cursor) (before : Option Bytes) :
    (ofCursor c before).position? = some c.position := by
  simp [position?, ofCursor, Cursor.ofWire_toRequestText]

/-- The text of a cursor in a request is short enough for its wire form. -/
theorem Request.length_cursor_ofCursor (c : Cursor) (before : Option Bytes) (text : String)
    (h : (ofCursor c before).cursor = some text) : Utf8.length text < 2 ^ 64 := by
  cases h
  exact Nat.lt_of_le_of_lt c.length_toRequestText_le (by decide)

/-- A request that is made from a cursor keeps the limit on the cursor. -/
theorem Request.limitFault?_ofCursor_eq (c : Cursor) (before : Option Bytes) :
    (ofCursor c before).limitFault?
      = if before.any (bytesBeforeLimit < ·.length) then some .tooManyBytesBefore else none := by
  have hcursor := c.length_toRequestText_le
  unfold limitFault?
  rw [if_neg]
  · rfl
  · simp only [ofCursor, Option.any_some, decide_eq_true_eq]
    omega

/-- It keeps both limits, if its bytes keep theirs. -/
theorem Request.limitFault?_ofCursor (c : Cursor) {before : Option Bytes}
    (h : ∀ bs, before = some bs → bs.length ≤ bytesBeforeLimit) :
    (ofCursor c before).limitFault? = none := by
  rw [limitFault?_ofCursor_eq, if_neg]
  cases before with
  | none => simp
  | some bs =>
    have hbs := h bs rfl
    simp only [Option.any_some, decide_eq_true_eq]
    omega

/-- A request that keeps the limits sends few bytes along. -/
theorem Request.length_le_of_limitFault? {r : Request} {bs : Bytes} (h : r.limitFault? = none)
    (hbs : r.bytesBefore = some bs) : bs.length ≤ bytesBeforeLimit := by
  unfold limitFault? at h
  split at h
  · cases h
  · split at h
    · cases h
    · rename_i hkept
      simpa [hbs] using hkept

@[simp] theorem Response.data_ofCursor (c : Cursor) (data : Bytes) :
    (ofCursor c data).data = data := rfl

/-- What is parsed of a window that a cursor describes. -/
theorem Response.parsed_ofCursor (c : Cursor) (data : Bytes) :
    (ofCursor c data).parsed = { c with dataBegin := 0, dataEnd := 0 } :=
  c.ofWire_toWire

end ByteLedger
