import ByteLedger.Json.Printer
import ByteLedger.Json.Reader
import Mathlib.Data.List.DropRight

set_option autoImplicit false

/-!
# Written JSON is read back

A reader takes a text off whatever follows it, if it has as much fuel as the text has characters
(`Json.Reads`). What follows must not carry on a number, and a comma, a line break and a closing
bracket do not.

First each form of JSON text is read, whatever blanks stand in it. Then the printed texts are put
together from these forms: one for each kind of value, and for the items and the members one after
the other. So a value whose strings are texts and whose numbers are literals is read back from
its text over several lines (`Json.parse?_pretty`).
-/

namespace ByteLedger.Json

/-! ## Taking a text off the front -/

section

variable {α : Type} {read : Nat → List Char → Option (α × List Char)} {text : List Char} {x : α}

/-- Nothing that carries on a number. -/
def Ends (rest : List Char) : Prop := ∀ c ∈ rest.head?, isNumberChar c = false

theorem Ends.cons {c : Char} (h : isNumberChar c = false) (rest : List Char) :
    Ends (c :: rest) := by
  rintro _ ⟨⟩
  exact h

theorem Ends.takeWhile {rest : List Char} (h : Ends rest) : rest.takeWhile isNumberChar = [] := by
  cases rest with
  | nil => rfl
  | cons c rest => exact List.takeWhile_cons_of_neg (by simp [h c rfl])

theorem Ends.dropWhile {rest : List Char} (h : Ends rest) :
    rest.dropWhile isNumberChar = rest := by
  cases rest with
  | nil => rfl
  | cons c rest => exact List.dropWhile_cons_of_neg (by simp [h c rfl])

/-- `read` takes `text` off what ends it, and returns `x`. Fuel for each character is enough. -/
def Reads (read : Nat → List Char → Option (α × List Char)) (text : List Char) (x : α) : Prop :=
  ∀ fuel rest, text.length ≤ fuel → Ends rest → read fuel (text ++ rest) = some (x, rest)

/-- A text that is not empty gives fuel for one step. -/
theorem Reads.of_succ (hne : text ≠ [])
    (h : ∀ fuel rest, text.length ≤ fuel + 1 → Ends rest →
      read (fuel + 1) (text ++ rest) = some (x, rest)) : Reads read text x := by
  intro fuel rest hfuel hends
  have hpos := List.length_pos_iff.2 hne
  obtain ⟨fuel, rfl⟩ : ∃ k, fuel = k + 1 := ⟨fuel - 1, by omega⟩
  exact h fuel rest hfuel hends

end

/-! ## Blanks -/

variable {c : Char} {cs body mid rest gap text : List Char} {fuel : Nat}

/-- Nothing but blanks. -/
def Blanks (gap : List Char) : Prop := ∀ c ∈ gap, isBlank c = true

theorem blanks_newline (level : Nat) : Blanks (newline level) := by
  intro c hc
  rcases List.mem_cons.1 hc with rfl | hc
  · decide
  · rw [List.eq_of_mem_replicate hc]
    decide

theorem blanks_space : Blanks [' '] := List.forall_mem_singleton.2 rfl

theorem isNumberChar_of_isBlank (h : isBlank c = true) : isNumberChar c = false := by
  simp only [isBlank, Bool.or_eq_true, beq_iff_eq] at h
  rcases h with ((rfl | rfl) | rfl) | rfl <;> decide

theorem Ends.blanks (hgap : Blanks gap) (h : Ends rest) : Ends (gap ++ rest) := by
  cases gap with
  | nil => exact h
  | cons c gap => exact .cons (isNumberChar_of_isBlank (hgap c List.mem_cons_self)) _

theorem skipBlanks_cons (h : isBlank c = false) (cs : List Char) :
    skipBlanks (c :: cs) = c :: cs :=
  List.dropWhile_cons_of_neg (by simp [h])

theorem skipBlanks_append (hgap : Blanks gap) (cs : List Char) :
    skipBlanks (gap ++ cs) = skipBlanks cs := List.dropWhile_append_of_pos hgap

theorem skipBlanks_gap (hgap : Blanks gap) (h : isBlank c = false) (cs : List Char) :
    skipBlanks (gap ++ c :: cs) = c :: cs := by
  rw [skipBlanks_append hgap, skipBlanks_cons h]

theorem skipBlanks_skipBlanks (cs : List Char) : skipBlanks (skipBlanks cs) = skipBlanks cs :=
  List.dropWhile_idempotent _ _

/-- Blanks before what is read make no difference. -/
def IgnoresBlanks {α : Type} (read : Nat → List Char → Option (α × List Char)) : Prop :=
  ∀ fuel cs, read fuel (skipBlanks cs) = read fuel cs

theorem Reads.blanks {α : Type} {read : Nat → List Char → Option (α × List Char)} {x : α}
    (hread : IgnoresBlanks read) (hgap : Blanks gap) (h : Reads read text x) :
    Reads read (gap ++ text) x := by
  intro fuel rest hfuel hends
  rw [List.length_append] at hfuel
  rw [List.append_assoc, ← hread, skipBlanks_append hgap, hread]
  exact h fuel rest (by omega) hends

theorem readValue?_ignoresBlanks : IgnoresBlanks readValue? := by
  intro fuel cs
  cases fuel with
  | zero => rfl
  | succ fuel => rw [readValue?, readValue?, skipBlanks_skipBlanks]

theorem readItems?_ignoresBlanks : IgnoresBlanks readItems? := by
  intro fuel cs
  cases fuel with
  | zero => rfl
  | succ fuel => rw [readItems?, readItems?, readValue?_ignoresBlanks]

theorem readMembers?_ignoresBlanks : IgnoresBlanks readMembers? := by
  intro fuel cs
  cases fuel with
  | zero => rfl
  | succ fuel => rw [readMembers?, readMembers?, skipBlanks_skipBlanks]

/-! ## Strings -/

theorem hexValue?_hexDigit (n : Nat) : hexValue? (hexDigit n) = some (n % 16) := by
  have hdigits : ∀ k < 16, hexValue? (Nat.digitChar k) = some k := by decide
  exact hdigits _ (Nat.mod_lt n (by decide))

/-- The four digits of a unit are read as that unit. -/
theorem readUnit?_digits {n : Nat} (h : n < 65536) (rest : List Char) :
    readUnit? (hexDigit (n / 4096) :: hexDigit (n / 256) :: hexDigit (n / 16) :: hexDigit n :: rest)
      = some (n, rest) := by
  have hvalue :
      ((n / 4096 % 16 * 16 + n / 256 % 16) * 16 + n / 16 % 16) * 16 + n % 16 = n := by
    omega
  simp only [readUnit?, hexValue?_hexDigit, hvalue]

/-- A unit that is no half of a pair is read as the character that it is. -/
theorem readEscape?_unit {c : Char} (h : c.toNat < 0xD800) (rest : List Char) :
    readEscape? ('u' :: hexDigit (c.toNat / 4096) :: hexDigit (c.toNat / 256)
      :: hexDigit (c.toNat / 16) :: hexDigit c.toNat :: rest) = some (.char c, rest) := by
  have hleading : isLeading c.toNat = false := by
    simp only [isLeading, Bool.and_eq_false_iff, decide_eq_false_iff_not]
    omega
  have htrailing : isTrailing c.toNat = false := by
    simp only [isTrailing, Bool.and_eq_false_iff, decide_eq_false_iff_not]
    omega
  simp only [readEscape?, readUnit?_digits (show c.toNat < 65536 by omega), hleading, htrailing,
    Bool.false_eq_true, if_false, Char.ofNat_toNat]

/-- A character is written as an escape that is read as it, or else stands for itself, and then it
is none of those that cannot. -/
theorem escapeChar_cases (c : Char) :
    (∃ escape, escapeChar c = '\\' :: escape
        ∧ ∀ rest, readEscape? (escape ++ rest) = some (.char c, rest))
      ∨ (escapeChar c = [c] ∧ c ≠ '"' ∧ c ≠ '\\' ∧ 32 ≤ c.toNat) := by
  unfold escapeChar
  split
  -- The seven cases before this one are escapes of one letter.
  case h_8 _ hquote hbackslash _ _ _ _ _ =>
    by_cases hcontrol : c.toNat < 32
    · rw [if_pos hcontrol]
      exact .inl ⟨_, rfl, readEscape?_unit (by omega)⟩
    · rw [if_neg hcontrol]
      exact .inr ⟨rfl, hquote, hbackslash, by omega⟩
  all_goals exact .inl ⟨_, rfl, fun _ => rfl⟩

theorem readElements?_escape {e : Element} {es : List Element}
    (hescape : readEscape? cs = some (e, mid)) (h : readElements? fuel mid = some (es, rest)) :
    readElements? (fuel + 1) ('\\' :: cs) = some (e :: es, rest) := by
  simp only [readElements?, hescape, h]

theorem readElements?_char {es : List Element} (hquote : c ≠ '"') (hbackslash : c ≠ '\\')
    (hcontrol : 32 ≤ c.toNat) (h : readElements? fuel cs = some (es, rest)) :
    readElements? (fuel + 1) (c :: cs) = some (.char c :: es, rest) := by
  rw [readElements?, if_neg (Nat.not_lt.2 hcontrol), h]
  · exact hquote
  · exact hbackslash

/-- A written text. -/
def textBody (text : List Char) : List Char := (ofChars text).flatMap escapeElement

theorem textBody_cons (c : Char) (text : List Char) :
    textBody (c :: text) = escapeChar c ++ textBody text := List.flatMap_cons

/-- The characters of a text are read up to the closing quote. Each of them is written with at
least one character, so these are fuel enough. -/
theorem readElements?_textBody (text rest : List Char) (hfuel : (textBody text).length < fuel) :
    readElements? fuel (textBody text ++ '"' :: rest) = some (ofChars text, rest) := by
  induction text generalizing fuel with
  | nil =>
    obtain ⟨fuel, rfl⟩ : ∃ k, fuel = k + 1 := ⟨fuel - 1, by omega⟩
    rfl
  | cons c text ih =>
    obtain ⟨fuel, rfl⟩ : ∃ k, fuel = k + 1 := ⟨fuel - 1, by omega⟩
    rw [textBody_cons, List.length_append] at hfuel
    rw [textBody_cons, List.append_assoc]
    rcases escapeChar_cases c with ⟨escape, heq, hread⟩ | ⟨heq, hquote, hbackslash, hcontrol⟩
    · rw [heq, List.length_cons] at hfuel
      rw [heq]
      exact readElements?_escape (hread _) (ih (by omega))
    · rw [heq, List.length_singleton] at hfuel
      rw [heq]
      exact readElements?_char hquote hbackslash hcontrol (ih (by omega))

theorem quote_append (text rest : List Char) :
    quote (ofChars text) ++ rest = '"' :: (textBody text ++ '"' :: rest) := by
  rw [quote, List.cons_append, List.append_assoc]
  rfl

theorem length_quote (text : List Char) :
    (quote (ofChars text)).length = (textBody text).length + 2 := by
  rw [quote, List.length_cons, List.length_append]
  rfl

theorem readValue?_string {es : List Element} (hskip : skipBlanks cs = '"' :: body)
    (h : readElements? fuel body = some (es, rest)) :
    readValue? (fuel + 1) cs = some (.string es, rest) := by
  simp only [readValue?, hskip, h]

/-- A text is read back. -/
theorem reads_ofChars (text : List Char) :
    Reads readValue? (quote (ofChars text)) (.string (ofChars text)) := by
  refine .of_succ (List.cons_ne_nil _ _) ?_
  intro fuel rest hfuel _
  rw [length_quote] at hfuel
  rw [quote_append]
  exact readValue?_string (skipBlanks_cons (by decide) _)
    (readElements?_textBody text rest (by omega))

/-! ## Words and numbers -/

theorem readValue?_scalar (hskip : skipBlanks cs = c :: body) (hquote : c ≠ '"')
    (hbracket : c ≠ '[') (hbrace : c ≠ '\x7b') :
    readValue? (fuel + 1) cs = readScalar? (c :: body) := by
  rw [readValue?, hskip]
  split
  · rename_i h
    exact absurd (List.cons.inj h).1 hquote
  · rename_i h
    exact absurd (List.cons.inj h).1 hbracket
  · rename_i h
    exact absurd (List.cons.inj h).1 hbrace
  · rfl

/-- A first character that decides for a word or a number. -/
theorem Reads.scalar {v : Json} (hblank : isBlank c = false) (hquote : c ≠ '"')
    (hbracket : c ≠ '[') (hbrace : c ≠ '\x7b')
    (h : ∀ rest, Ends rest → readScalar? (c :: (text ++ rest)) = some (v, rest)) :
    Reads readValue? (c :: text) v := by
  refine .of_succ (List.cons_ne_nil c text) ?_
  intro fuel rest _ hends
  rw [List.cons_append, readValue?_scalar (skipBlanks_cons hblank _) hquote hbracket hbrace]
  exact h rest hends

theorem reads_null : Reads readValue? "null".toList .null :=
  .scalar (c := 'n') (by decide) (by decide) (by decide) (by decide) fun _ _ => rfl

theorem reads_true : Reads readValue? "true".toList (.bool true) :=
  .scalar (c := 't') (by decide) (by decide) (by decide) (by decide) fun _ _ => rfl

theorem reads_false : Reads readValue? "false".toList (.bool false) :=
  .scalar (c := 'f') (by decide) (by decide) (by decide) (by decide) fun _ _ => rfl

/-! ### Literals -/

theorem ne_of_isNumberChar {d : Char} (hc : isNumberChar c = true)
    (hd : isNumberChar d = false) : c ≠ d := by
  rintro rfl
  rw [hc] at hd
  cases hd

theorem isNumberChar_of_isDigit (h : c.isDigit = true) : isNumberChar c = true := by
  simp only [isNumberChar, h, Bool.true_or]

theorem isNumberChar_of_isExponent (h : isExponent cs = true) :
    ∀ c ∈ cs, isNumberChar c = true := by
  cases cs with
  | nil => exact fun _ hc => absurd hc List.not_mem_nil
  | cons e rest =>
    simp only [isExponent, Bool.and_eq_true, List.all_eq_true] at h
    obtain ⟨he, -, hdigits⟩ := h
    have hletter : isNumberChar e = true := by
      simp only [isNumberChar, Bool.or_eq_true] at he ⊢
      tauto
    have hrest : ∀ c ∈ rest, isNumberChar c = true := by
      split at hdigits
      · exact List.forall_mem_cons.2 ⟨rfl, fun c hc => isNumberChar_of_isDigit (hdigits c hc)⟩
      · exact List.forall_mem_cons.2 ⟨rfl, fun c hc => isNumberChar_of_isDigit (hdigits c hc)⟩
      · exact fun c hc => isNumberChar_of_isDigit (hdigits c hc)
    exact List.forall_mem_cons.2 ⟨hletter, hrest⟩

/-- Digits, and then what can stand in a number. -/
theorem isNumberChar_of_dropWhile
    (h : ∀ c ∈ cs.dropWhile Char.isDigit, isNumberChar c = true) :
    ∀ c ∈ cs, isNumberChar c = true := by
  intro c hc
  rw [← List.takeWhile_append_dropWhile (p := Char.isDigit) (l := cs), List.mem_append] at hc
  rcases hc with hc | hc
  · exact isNumberChar_of_isDigit (List.mem_takeWhile_imp hc)
  · exact h c hc

theorem isNumberChar_of_isFraction (h : isFraction cs = true) :
    ∀ c ∈ cs, isNumberChar c = true := by
  unfold isFraction at h
  split at h
  · rw [Bool.and_eq_true] at h
    exact List.forall_mem_cons.2
      ⟨rfl, isNumberChar_of_dropWhile (isNumberChar_of_isExponent h.2)⟩
  · exact isNumberChar_of_isExponent h

theorem isNumberChar_of_isUnsignedNumber (h : isUnsignedNumber cs = true) :
    ∀ c ∈ cs, isNumberChar c = true := by
  unfold isUnsignedNumber at h
  split at h
  · exact List.forall_mem_cons.2 ⟨rfl, isNumberChar_of_isFraction h⟩
  · rw [Bool.and_eq_true] at h
    exact List.forall_mem_cons.2 ⟨isNumberChar_of_isDigit h.1,
      isNumberChar_of_dropWhile (isNumberChar_of_isFraction h.2)⟩
  · exact nomatch h

/-- All that stands in a literal can stand in a number, so the literal is taken whole. -/
theorem isNumberChar_of_isNumber (h : isNumber cs = true) : ∀ c ∈ cs, isNumberChar c = true := by
  unfold isNumber at h
  split at h
  · exact List.forall_mem_cons.2 ⟨rfl, isNumberChar_of_isUnsignedNumber h⟩
  · exact isNumberChar_of_isUnsignedNumber h

/-- A word of the language does not begin like a number. -/
theorem dropWord?_eq_none {word : String} {d : Char} {ds : List Char} (hword : word.toList = d :: ds)
    (hd : isNumberChar d = false) (hc : isNumberChar c = true) (cs : List Char) :
    dropWord? word (c :: cs) = none := by
  have hdc : (d == c) = false := beq_eq_false_iff_ne.2 (ne_of_isNumberChar hc hd).symm
  rw [dropWord?, hword, List.isPrefixOf, hdc]
  rfl

theorem readScalar?_number {literal : List Char} (h : isNumber literal = true)
    (hends : Ends rest) : readScalar? (literal ++ rest) = some (.number literal, rest) := by
  have hchars := isNumberChar_of_isNumber h
  have hnone : ∀ (word : String) (d : Char) (ds : List Char), word.toList = d :: ds →
      isNumberChar d = false → dropWord? word (literal ++ rest) = none := by
    intro word d ds hword hd
    cases literal with
    | nil => exact nomatch h
    | cons c literal => exact dropWord?_eq_none hword hd (hchars c List.mem_cons_self) _
  rw [readScalar?, hnone "null" 'n' _ rfl (by decide), hnone "true" 't' _ rfl (by decide),
    hnone "false" 'f' _ rfl (by decide)]
  simp only [List.takeWhile_append_of_pos hchars, List.dropWhile_append_of_pos hchars,
    hends.takeWhile, hends.dropWhile, List.append_nil, h, if_true]

/-- A literal is read back, and nothing more. -/
theorem reads_number {literal : List Char} (h : isNumber literal = true) :
    Reads readValue? literal (.number literal) := by
  cases literal with
  | nil => exact nomatch h
  | cons c literal =>
    have hc := isNumberChar_of_isNumber h c List.mem_cons_self
    have hblank : isBlank c = false := by
      rw [← Bool.not_eq_true]
      intro hblank
      exact ne_of_isNumberChar hc (isNumberChar_of_isBlank hblank) rfl
    exact .scalar hblank (ne_of_isNumberChar hc (by decide)) (ne_of_isNumberChar hc (by decide))
      (ne_of_isNumberChar hc (by decide)) fun _ hends => readScalar?_number h hends

/-- Digits are a literal, if a zero begins them only where it is all of them. -/
theorem isNumber_of_isDigit (hdigits : ∀ d ∈ c :: cs, d.isDigit = true)
    (hzero : c = '0' → cs = []) : isNumber (c :: cs) = true := by
  have hc := hdigits c List.mem_cons_self
  have hrest : cs.dropWhile Char.isDigit = [] :=
    List.dropWhile_eq_nil_iff.2 fun d hd => hdigits d (List.mem_cons_of_mem c hd)
  have hminus : c ≠ '-' := by
    rintro rfl
    exact absurd hc (by decide)
  by_cases h : c = '0'
  · rw [h, hzero h]
    rfl
  · rw [isNumber, isUnsignedNumber, hc, hrest]
    · rfl
    · exact h
    · exact fun _ heq => hminus (List.cons.inj heq).1

theorem eq_zero_of_head?_toDigits {n : Nat} (h : (Nat.toDigits 10 n).head? = some '0') :
    n = 0 := by
  induction n using Nat.strongRecOn with
  | ind n ih =>
    by_cases hn : n < 10
    · have hdigit : ∀ k < 10, (Nat.toDigits 10 k).head? = some '0' → k = 0 := by decide
      exact hdigit n hn h
    · rw [Nat.toDigits_of_base_le (by decide) (by omega),
        List.head?_append_of_ne_nil _ Nat.toDigits_ne_nil] at h
      have hquotient := ih (n / 10) (by omega) h
      omega

/-- A number in decimal is a literal, as only zero begins with a zero. -/
theorem isNumber_toDigits (n : Nat) : isNumber (Nat.toDigits 10 n) = true := by
  have hdigits : ∀ c ∈ Nat.toDigits 10 n, c.isDigit = true :=
    fun c hc => Nat.isDigit_of_mem_toDigits (by decide) (by decide) hc
  cases hn : Nat.toDigits 10 n with
  | nil => exact absurd hn Nat.toDigits_ne_nil
  | cons c cs =>
    rw [hn] at hdigits
    refine isNumber_of_isDigit hdigits ?_
    rintro rfl
    rw [eq_zero_of_head?_toDigits (n := n) (by rw [hn]; rfl), Nat.toDigits_zero] at hn
    exact (List.cons.inj hn).2.symm

/-! ## Arrays -/

variable {v : Json} {vs : List Json}

theorem readValue?_closing (h : skipBlanks cs = ']' :: body) : readValue? fuel cs = none := by
  cases fuel with
  | zero => rfl
  | succ fuel =>
    rw [readValue?_scalar h (by decide) (by decide) (by decide)]
    rfl

/-- Items are read only where a value is read, and no value begins with the closing bracket. So
what follows an opening one is taken for items. -/
theorem readValue?_array (hskip : skipBlanks cs = '[' :: body)
    (h : readItems? fuel body = some (vs, rest)) :
    readValue? (fuel + 1) cs = some (.array vs, rest) := by
  have hne : ∀ rest, skipBlanks body ≠ ']' :: rest := by
    intro rest hclosing
    cases fuel with
    | zero => exact nomatch h
    | succ fuel =>
      rw [readItems?, readValue?_closing hclosing] at h
      cases h
  rw [← readItems?_ignoresBlanks] at h
  simp only [readValue?, hskip, h]

theorem reads_emptyArray : Reads readValue? "[]".toList (.array []) := by
  refine .of_succ (by decide) ?_
  intro fuel rest _ _
  rfl

theorem Reads.array (h : Reads readItems? body vs) :
    Reads readValue? ('[' :: body) (.array vs) := by
  refine .of_succ (List.cons_ne_nil _ _) ?_
  intro fuel rest hfuel hends
  rw [List.length_cons] at hfuel
  exact readValue?_array (skipBlanks_cons (by decide) _) (h fuel rest (by omega) hends)

/-- The last item and the closing bracket. -/
theorem Reads.lastItem (hgap : Blanks gap) (h : Reads readValue? text v) :
    Reads readItems? (text ++ (gap ++ [']'])) [v] := by
  refine .of_succ (by simp) ?_
  intro fuel rest hfuel _
  simp only [List.length_append, List.length_singleton] at hfuel
  have hread := h fuel (gap ++ ']' :: rest) (by omega) (.blanks hgap (.cons (by decide) rest))
  have hclose : skipBlanks (gap ++ ']' :: rest) = ']' :: rest :=
    skipBlanks_gap hgap (by decide) rest
  simp only [List.append_assoc, List.singleton_append, readItems?, hread, hclose]

/-- An item before others. -/
theorem Reads.item (h : Reads readValue? text v) (hrest : Reads readItems? body vs) :
    Reads readItems? (text ++ ',' :: body) (v :: vs) := by
  refine .of_succ (by simp) ?_
  intro fuel rest hfuel hends
  simp only [List.length_append, List.length_cons] at hfuel
  have hread := h fuel (',' :: (body ++ rest)) (by omega) (.cons (by decide) _)
  have hcomma : skipBlanks (',' :: (body ++ rest)) = ',' :: (body ++ rest) :=
    skipBlanks_cons (by decide) _
  simp only [List.append_assoc, List.cons_append, readItems?, hread, hcomma,
    hrest fuel rest (by omega) hends]

/-! ## Objects -/

variable {members : List (List Element × Json)}

/-- The same for members: each begins with a name. -/
theorem readValue?_object (hskip : skipBlanks cs = '\x7b' :: body)
    (h : readMembers? fuel body = some (members, rest)) :
    readValue? (fuel + 1) cs = some (.object members, rest) := by
  have hne : ∀ rest, skipBlanks body ≠ '\x7d' :: rest := by
    intro rest hclosing
    cases fuel with
    | zero => exact nomatch h
    | succ fuel =>
      rw [readMembers?, hclosing] at h
      cases h
  rw [← readMembers?_ignoresBlanks] at h
  simp only [readValue?, hskip, h]

theorem reads_emptyObject : Reads readValue? ['\x7b', '\x7d'] (.object []) := by
  refine .of_succ (by decide) ?_
  intro fuel rest _ _
  rfl

theorem Reads.object (h : Reads readMembers? body members) :
    Reads readValue? ('\x7b' :: body) (.object members) := by
  refine .of_succ (List.cons_ne_nil _ _) ?_
  intro fuel rest hfuel hends
  rw [List.length_cons] at hfuel
  exact readValue?_object (skipBlanks_cons (by decide) _) (h fuel rest (by omega) hends)

/-- The name of a member is read up to the colon. -/
theorem readElements?_name (fuel : Nat) (name rest : List Char)
    (hfuel : (quote (ofChars name)).length ≤ fuel) :
    skipBlanks (quote (ofChars name) ++ ':' :: rest)
        = '"' :: (textBody name ++ '"' :: ':' :: rest)
      ∧ readElements? fuel (textBody name ++ '"' :: ':' :: rest)
        = some (ofChars name, ':' :: rest)
      ∧ skipBlanks (':' :: rest) = ':' :: rest := by
  rw [length_quote] at hfuel
  refine ⟨?_, readElements?_textBody name _ (by omega), skipBlanks_cons (by decide) _⟩
  rw [quote_append, skipBlanks_cons (by decide)]

/-- The last member and the closing brace. -/
theorem Reads.lastMember (name : List Char) (hgap : Blanks gap) (h : Reads readValue? text v) :
    Reads readMembers? (quote (ofChars name) ++ ':' :: (text ++ (gap ++ ['\x7d'])))
      [(ofChars name, v)] := by
  refine .of_succ (by simp) ?_
  intro fuel rest hfuel _
  simp only [List.length_append, List.length_cons] at hfuel
  obtain ⟨hquote, hname, hcolon⟩ :=
    readElements?_name fuel name (text ++ (gap ++ '\x7d' :: rest)) (by omega)
  have hread := h fuel (gap ++ '\x7d' :: rest) (by omega) (.blanks hgap (.cons (by decide) rest))
  have hclose : skipBlanks (gap ++ '\x7d' :: rest) = '\x7d' :: rest :=
    skipBlanks_gap hgap (by decide) rest
  simp only [List.append_assoc, List.cons_append, List.nil_append, readMembers?, hquote, hname,
    hcolon, hread, hclose]

/-- A member before others. -/
theorem Reads.member (name : List Char) (h : Reads readValue? text v)
    (hrest : Reads readMembers? body members) :
    Reads readMembers? (quote (ofChars name) ++ ':' :: (text ++ ',' :: body))
      ((ofChars name, v) :: members) := by
  refine .of_succ (by simp) ?_
  intro fuel rest hfuel hends
  simp only [List.length_append, List.length_cons] at hfuel
  obtain ⟨hquote, hname, hcolon⟩ :=
    readElements?_name fuel name (text ++ ',' :: (body ++ rest)) (by omega)
  have hread := h fuel (',' :: (body ++ rest)) (by omega) (.cons (by decide) _)
  have hcomma : skipBlanks (',' :: (body ++ rest)) = ',' :: (body ++ rest) :=
    skipBlanks_cons (by decide) _
  simp only [List.append_assoc, List.cons_append, readMembers?, hquote, hname, hcolon, hread,
    hcomma, hrest fuel rest (by omega) hends]

/-! ## Values over several lines -/

/-- The strings and the names in the value are texts, and the numbers literals. -/
inductive Plain : Json → Prop where
  | null : Plain .null
  | bool (b : Bool) : Plain (.bool b)
  | number {literal : List Char} : isNumber literal = true → Plain (.number literal)
  | string (text : List Char) : Plain (.string (ofChars text))
  | array {items : List Json} : (∀ v ∈ items, Plain v) → Plain (.array items)
  | object {members : List (List Char × Json)} :
      (∀ m ∈ members, Plain m.2) → Plain (.object (members.map fun m => (ofChars m.1, m.2)))

theorem plain_ofWord (n : UInt64) : (ofWord n).Plain := by
  rw [ofWord, Decimal.toList_text]
  exact .number (isNumber_toDigits n.toNat)

variable {level outer : Nat}

theorem reads_prettyItems (hne : vs ≠ [])
    (h : ∀ v ∈ vs, Reads readValue? (prettyChars level v) v) :
    Reads readItems? (prettyItems level vs ++ (newline outer ++ [']'])) vs := by
  induction vs with
  | nil => exact absurd rfl hne
  | cons v vs ih =>
    have hv := (h v List.mem_cons_self).blanks readValue?_ignoresBlanks (blanks_newline level)
    cases vs with
    | nil => exact .lastItem (blanks_newline outer) hv
    | cons w vs =>
      have hrest := ih (List.cons_ne_nil w vs) fun u hu => h u (List.mem_cons_of_mem v hu)
      rw [prettyItems, List.append_assoc, List.cons_append]
      exact hv.item hrest

theorem reads_prettyMembers {members : List (List Char × Json)} (hne : members ≠ [])
    (h : ∀ m ∈ members, Reads readValue? (prettyChars level m.2) m.2) :
    Reads readMembers? (prettyMembers level (members.map fun m => (ofChars m.1, m.2))
      ++ (newline outer ++ ['\x7d'])) (members.map fun m => (ofChars m.1, m.2)) := by
  induction members with
  | nil => exact absurd rfl hne
  | cons m members ih =>
    have hv := (h m List.mem_cons_self).blanks readValue?_ignoresBlanks blanks_space
    cases members with
    | nil =>
      have hlast := hv.lastMember m.1 (blanks_newline outer)
      rw [List.map_cons, List.map_nil, prettyMembers, List.append_assoc, List.append_assoc]
      exact hlast.blanks readMembers?_ignoresBlanks (blanks_newline level)
    | cons w members =>
      have hrest := ih (List.cons_ne_nil w members) fun u hu => h u (List.mem_cons_of_mem m hu)
      have hmember := hv.member m.1 hrest
      rw [List.map_cons, List.map_cons, prettyMembers]
      simp only [List.append_assoc, List.cons_append]
      exact hmember.blanks readMembers?_ignoresBlanks (blanks_newline level)

/-- A plain value is read back, at every level. -/
theorem Plain.reads {v : Json} (h : v.Plain) (level : Nat) :
    Reads readValue? (prettyChars level v) v := by
  -- What stands in a value is written one level deeper, so the level is not fixed.
  induction h generalizing level with
  | null => exact reads_null
  | bool b =>
    cases b with
    | true => exact reads_true
    | false => exact reads_false
  | number hliteral => exact reads_number hliteral
  | string text => exact reads_ofChars text
  | @array items _ ih =>
    cases items with
    | nil => exact reads_emptyArray
    | cons v items =>
      rw [prettyChars, List.append_assoc]
      exact (reads_prettyItems (List.cons_ne_nil v items) fun u hu => ih u hu (level + 1)).array
  | @object members _ ih =>
    cases members with
    | nil => exact reads_emptyObject
    | cons m members =>
      rw [List.map_cons, prettyChars, List.append_assoc]
      exact (reads_prettyMembers (List.cons_ne_nil m members)
        fun u hu => ih u hu (level + 1)).object

/-- A plain value is read back from its text over several lines. -/
theorem parse?_pretty {v : Json} (h : v.Plain) : parse? v.pretty = some v := by
  have hread := h.reads 0 (2 * (prettyChars 0 v).length + 2) [] (by omega) nofun
  rw [List.append_nil] at hread
  rw [parse?, pretty, String.toList_ofList]
  simp only [hread]
  rfl

/-- How a value is written over several lines. -/
example :
    (Json.array [.string (ofChars "\"\\\n\x01/é".toList), .array [], .number "10".toList]).pretty
      = "[\n  \"\\\"\\\\\\n\\u0001/é\",\n  [],\n  10\n]" := by
  decide

end ByteLedger.Json
