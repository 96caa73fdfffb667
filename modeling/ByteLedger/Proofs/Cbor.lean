import ByteLedger.Cbor.Item

set_option autoImplicit false

/-!
# Items read back

A reader is complete for an item in prefix form: `p` reads `x` from `bs` if it takes `bs`
off any input that begins with it and returns `x`. Written heads, strings, options and
records are read back whenever their lengths fit into eight bytes, which is the width of
the longest head.
-/

namespace ByteLedger.Cbor

/-! ## Reading in prefix form -/

namespace Reader

variable {α β : Type} {p : Reader α} {f : α → Reader β} {bs bs' : Bytes} {x : α} {y : β}

/-- `p` reads `x` from `bs`, whatever follows. -/
def Reads (p : Reader α) (bs : Bytes) (x : α) : Prop :=
  ∀ rest, p (bs ++ rest) = .ok (x, rest)

theorem Reads.pure (x : α) : Reads (Pure.pure x : Reader α) [] x := fun _ => rfl

theorem Reads.bind (hp : p.Reads bs x) (hf : (f x).Reads bs' y) :
    (p >>= f).Reads (bs ++ bs') y := by
  intro rest
  rw [List.append_assoc, bind_ok (hp _)]
  exact hf rest

/-- What follows takes nothing. -/
theorem Reads.bind_nil (hp : p.Reads bs x) (hf : (f x).Reads [] y) : (p >>= f).Reads bs y := by
  have h := hp.bind hf
  rw [List.append_nil] at h
  exact h

theorem Reads.map (g : α → β) (hp : p.Reads bs x) : (g <$> p).Reads bs (g x) := by
  rw [map_eq_pure_bind]
  exact hp.bind_nil (.pure _)

end Reader

open Reader

/-! ## Numbers -/

theorem foldl_bigEndian (width n a : Nat) :
    (bigEndian width n).foldl (fun n b => n * 256 + b.toNat) a
      = a * 256 ^ width + n % 256 ^ width := by
  induction width generalizing a with
  | zero => simp [bigEndian, Nat.mod_one]
  | succ w ih =>
    have hbyte : (UInt8.ofNat (n / 256 ^ w)).toNat = n / 256 ^ w % 256 := UInt8.toNat_ofNat'
    rw [bigEndian, List.foldl_cons, ih, hbyte, Nat.mod_pow_succ, Nat.pow_succ, Nat.add_mul,
      Nat.mul_assoc, Nat.mul_comm (256 ^ w) 256, Nat.mul_comm (256 ^ w) (n / 256 ^ w % 256)]
    omega

/-- A number that fits is what its bytes denote. -/
theorem ofBigEndian_bigEndian {width n : Nat} (h : n < 256 ^ width) :
    ofBigEndian (bigEndian width n) = n := by
  rw [ofBigEndian, foldl_bigEndian, Nat.zero_mul, Nat.zero_add, Nat.mod_eq_of_lt h]

theorem readBytes_reads {bs : Bytes} {n : Nat} (h : bs.length = n) :
    (readBytes n).Reads bs bs := by
  subst h
  exact readBytes_append bs

theorem readNumber_reads {width n : Nat} (h : n < 256 ^ width) :
    (readNumber width).Reads (bigEndian width n) n := by
  have hpure : (Pure.pure (ofBigEndian (bigEndian width n)) : Reader Nat).Reads [] n := by
    rw [ofBigEndian_bigEndian h]
    exact .pure n
  exact (readBytes_reads (length_bigEndian width n)).bind_nil hpure

/-! ## Heads -/

theorem toNat_initialByte {major minor : Nat} (hmajor : major < 8) (hminor : minor < 32) :
    (initialByte major minor).toNat = major * 32 + minor := by
  rw [initialByte, UInt8.toNat_ofNat']
  exact Nat.mod_eq_of_lt (by omega)

/-- A written head is a first byte and an argument that is read back. -/
theorem headBytes_cases {n : Nat} (h : n < 2 ^ 64) :
    ∃ minor tail, minor < 28 ∧ (∀ major, headBytes major n = initialByte major minor :: tail)
      ∧ (readArgument minor).Reads tail (some n) := by
  by_cases h₀ : n < 24
  · refine ⟨n, [], by omega, ?_, ?_⟩
    · intro major
      rw [headBytes, if_pos h₀]
    · rw [readArgument, if_pos h₀]
      exact .pure _
  by_cases h₁ : n < 2 ^ 8
  · refine ⟨24, bigEndian 1 n, by decide, ?_, (readNumber_reads h₁).map some⟩
    intro major
    rw [headBytes, if_neg h₀, if_pos h₁]
  by_cases h₂ : n < 2 ^ 16
  · refine ⟨25, bigEndian 2 n, by decide, ?_, (readNumber_reads h₂).map some⟩
    intro major
    rw [headBytes, if_neg h₀, if_neg h₁, if_pos h₂]
  by_cases h₃ : n < 2 ^ 32
  · refine ⟨26, bigEndian 4 n, by decide, ?_, (readNumber_reads h₃).map some⟩
    intro major
    rw [headBytes, if_neg h₀, if_neg h₁, if_neg h₂, if_pos h₃]
  · refine ⟨27, bigEndian 8 n, by decide, ?_, (readNumber_reads h).map some⟩
    intro major
    rw [headBytes, if_neg h₀, if_neg h₁, if_neg h₂, if_neg h₃]

theorem length_headBytes_pos (major n : Nat) : 0 < (headBytes major n).length := by
  unfold headBytes
  repeat' split
  all_goals exact Nat.succ_pos _

/-- The heads whose argument is a length. -/
inductive Sized : (major : Nat) → (Option Nat → Head) → Prop where
  | bytes : Sized 2 .bytes
  | text : Sized 3 .text
  | array : Sized 4 .array
  | map : Sized 5 .map

/-- A head with a length is read back. -/
theorem readHead_reads {major n : Nat} {head : Option Nat → Head} (hsized : Sized major head)
    (h : n < 2 ^ 64) : readHead.Reads (headBytes major n) (head (some n)) := by
  obtain ⟨minor, tail, hminor, hhead, harg⟩ := headBytes_cases h
  intro rest
  have hmajor : major < 8 := by cases hsized <;> decide
  have hbyte := toNat_initialByte hmajor (show minor < 32 by omega)
  have hdiv : (major * 32 + minor) / 32 = major := by omega
  have hmod : (major * 32 + minor) % 32 = minor := by omega
  have hfirst : readByte (initialByte major minor :: (tail ++ rest))
      = .ok (initialByte major minor, tail ++ rest) := rfl
  rw [hhead, List.cons_append, readHead, bind_ok hfirst]
  simp only [hbyte, hdiv, hmod]
  cases hsized <;> exact harg.map _ rest

/-- Where no tag stands, the first head that is no tag is the first head. -/
theorem readUntagged_reads {bs : Bytes} {h : Head} (hread : readHead.Reads bs h)
    (htag : ∀ n, h ≠ .tag n) : readUntagged.Reads bs h := by
  intro rest
  rw [readUntagged, readHeadPastTags, bind_ok (hread rest)]
  cases h with
  | tag n => exact absurd rfl (htag n)
  | _ => rfl

/-- A head with a length is read back where a tag may stand before it. -/
theorem readUntagged_headBytes {major n : Nat} {head : Option Nat → Head}
    (hsized : Sized major head) (h : n < 2 ^ 64) :
    readUntagged.Reads (headBytes major n) (head (some n)) := by
  apply readUntagged_reads (readHead_reads hsized h)
  cases hsized <;> exact fun _ => nofun

/-! ## Strings -/

theorem readSegment_bytes {bs : Bytes} {n : Nat} (h : bs.length = n) :
    (readSegment .bytes n).Reads bs bs :=
  (readBytes_reads h).bind_nil (.pure bs)

theorem readSegment_text {s : String} {n : Nat} (h : (Utf8.encode s).length = n) :
    (readSegment .text n).Reads (Utf8.encode s) (Utf8.encode s) := by
  refine (readBytes_reads h).bind_nil ?_
  simp only [Utf8.decode?_encode]
  exact .pure _

/-- A text is read back. -/
theorem readText_reads {s : String} (h : Utf8.length s < 2 ^ 64) :
    readText.Reads (textItem s) s := by
  have hlen : (Utf8.encode s).length < 2 ^ 64 := by
    rw [Utf8.length_encode]
    exact h
  have hhead := readUntagged_headBytes .text hlen
  refine hhead.bind ?_
  refine Reads.bind_nil (readSegment_text rfl) ?_
  simp only [Utf8.decode?_encode]
  exact .pure s

/-- A byte string is read back. -/
theorem readByteString_reads {bs : Bytes} (h : bs.length < 2 ^ 64) :
    readByteString.Reads (bytesItem bs) bs := by
  have hhead := readUntagged_headBytes .bytes h
  exact hhead.bind (readSegment_bytes rfl)

/-- The name of a field is read back. -/
theorem readName_reads {s : String} (h : Utf8.length s ≤ nameLimit) :
    readName.Reads (textItem s) (Utf8.encode s) := by
  rw [← Utf8.length_encode] at h
  have hlen : (Utf8.encode s).length < 2 ^ 64 := Nat.lt_of_le_of_lt h (by decide)
  have hhead := readUntagged_headBytes .text hlen
  refine hhead.bind ?_
  simp only [if_pos h]
  exact readSegment_text rfl

/-! ## Options -/

theorem readNull_reads : readNull.Reads nullItem true := fun _ => rfl

/-- Before an item that is no simple value nothing is read. -/
theorem readNull_of_head {bs rest : Bytes} {h : Head} (hread : readHead bs = .ok (h, rest))
    (hsimple : ∀ n, h ≠ .simple n) : readNull bs = .ok (false, bs) := by
  rw [readNull, hread]
  cases h with
  | simple n => exact absurd rfl (hsimple n)
  | _ => rfl

/-- An option is read back if its item is, and the item begins with a length. -/
theorem readOption_reads {α : Type} {item : α → Bytes} {p : Reader α} {major : Nat}
    {head : Option Nat → Head} {x : Option α} (hsized : Sized major head)
    (hp : ∀ a, x = some a → p.Reads (item a) a)
    (hitem : ∀ a, x = some a → ∃ n tail, n < 2 ^ 64 ∧ item a = headBytes major n ++ tail) :
    (readOption p).Reads (optionItem item x) x := by
  cases x with
  | none => exact readNull_reads.bind_nil (.pure none)
  | some a =>
    intro rest
    obtain ⟨n, tail, hn, heq⟩ := hitem a rfl
    have hread : readHead (item a ++ rest) = .ok (head (some n), tail ++ rest) := by
      rw [heq, List.append_assoc]
      exact readHead_reads hsized hn _
    have hnull := readNull_of_head hread (by cases hsized <;> exact fun _ => nofun)
    change readOption p (item a ++ rest) = _
    rw [readOption, bind_ok hnull]
    exact (hp a rfl).map some rest

/-! ## Records -/

section

variable {α : Type} {field : Bytes → α → Reader α} {acc acc' x : α} {bs : Bytes} {count : Nat}

/-- `bs` is the given number of fields, which take what was read so far from `acc` to `x`.
Each field has at least one byte, so the bytes are fuel enough. -/
structure ReadsFields (field : Bytes → α → Reader α) (count : Nat) (acc : α) (bs : Bytes)
    (x : α) : Prop where
  count_le : count ≤ bs.length
  reads : ∀ fuel, count ≤ fuel → (readFields field fuel (some count) acc).Reads bs x

theorem ReadsFields.nil (acc : α) : ReadsFields field 0 acc [] acc where
  count_le := Nat.le_refl _
  reads := by
    intro fuel _
    unfold readFields
    exact .pure acc

/-- One more field before the others. -/
theorem ReadsFields.cons {name : String} {value : Bytes} (hname : Utf8.length name ≤ nameLimit)
    (hvalue : (field (Utf8.encode name) acc).Reads value acc')
    (hrest : ReadsFields field count acc' bs x) :
    ReadsFields field (count + 1) acc (textItem name ++ value ++ bs) x where
  count_le := by
    have hpos := length_headBytes_pos 3 (Utf8.encode name).length
    have hcount := hrest.count_le
    rw [List.length_append, List.length_append, textItem, List.length_append]
    omega
  reads := by
    intro fuel hfuel
    obtain ⟨fuel, rfl⟩ : ∃ k, fuel = k + 1 := ⟨fuel - 1, by omega⟩
    rw [readFields, List.append_assoc]
    exact (readName_reads hname).bind (hvalue.bind (hrest.reads fuel (by omega)))

/-- A record is read back. -/
theorem readFieldsOf_reads (h : ReadsFields field count acc bs x) :
    (readFieldsOf field (some count) acc).Reads bs x := by
  intro rest
  have hcount := h.count_le
  refine h.reads _ ?_ rest
  rw [List.length_append]
  omega

end

end ByteLedger.Cbor
