import ByteLedger.Message.Codec
import ByteLedger.Proofs.Cbor

set_option autoImplicit false

/-!
# Messages read back

A written request is read back, and so is a written reply, if no text or byte string in it
is longer than the longest length that a head can give. Memory has no room for one that is.
-/

namespace ByteLedger

open Cbor Cbor.Reader

/-! ## Names -/

theorem Utf8.encode_injective {s t : String} (h : encode s = encode t) : s = t := by
  have hs := decode?_encode s
  rw [h, decode?_encode] at hs
  exact (Option.some.inj hs).symm

/-- Different names are different byte strings. -/
theorem Message.name_eq_iff {s t : String} : name s = name t ↔ s = t :=
  ⟨Utf8.encode_injective, congrArg _⟩

/-! ## Requests -/

namespace Request

variable {draft : Draft}

theorem readField_cursor {cursor : Option String} (hdraft : draft.cursor = none)
    (h : ∀ s, cursor = some s → Utf8.length s < 2 ^ 64) :
    (readField (Message.name "cursor") draft).Reads (optionItem textItem cursor)
      { draft with cursor := some cursor } := by
  rw [readField, if_pos rfl, hdraft]
  refine Reads.map _ (Reads.map _ (readOption_reads .text ?_ ?_))
  · intro s hs
    exact readText_reads (h s hs)
  · intro s hs
    refine ⟨_, _, ?_, rfl⟩
    rw [Utf8.length_encode]
    exact h s hs

theorem readField_bytesBefore {before : Option Bytes} (hdraft : draft.bytesBefore = none)
    (h : ∀ bs, before = some bs → bs.length < 2 ^ 64) :
    (readField (Message.name "bytes_before") draft).Reads (optionItem bytesItem before)
      { draft with bytesBefore := some before } := by
  rw [readField, if_neg, if_pos rfl, hdraft]
  · refine Reads.map _ (Reads.map _ (readOption_reads .bytes ?_ ?_))
    · intro bs hbs
      exact readByteString_reads (h bs hbs)
    · intro bs hbs
      exact ⟨_, _, h bs hbs, rfl⟩
  · rw [Message.name_eq_iff]
    decide

/-- What has to fit into the lengths that heads give. -/
def Fits (r : Request) : Prop :=
  (∀ s, r.cursor = some s → Utf8.length s < 2 ^ 64)
    ∧ ∀ bs, r.bytesBefore = some bs → bs.length < 2 ^ 64

/-- A request is read back. -/
theorem read_encode {r : Request} (h : r.Fits) : read.Reads r.encode r := by
  have hfields : ReadsFields readField 2 {}
      (textItem "cursor" ++ optionItem textItem r.cursor
        ++ (textItem "bytes_before" ++ optionItem bytesItem r.bytesBefore ++ []))
      { cursor := some r.cursor, bytesBefore := some r.bytesBefore } :=
    .cons (by decide) (readField_cursor rfl h.1)
      (.cons (by decide) (readField_bytesBefore rfl h.2) (.nil _))
  have hhead := readUntagged_headBytes .map (show 2 < 2 ^ 64 by decide)
  rw [List.append_nil] at hfields
  rw [encode, List.append_assoc]
  exact hhead.bind (Reads.bind_nil (readFieldsOf_reads hfields) (.pure _))

/-- What is decoded of a written request, whatever follows it. -/
theorem decode_encode {r : Request} (rest : Bytes) (h : r.Fits) :
    decode (r.encode ++ rest) = .ok r := by
  rw [decode, read_encode h rest]
  rfl

/-- Where nothing follows. -/
theorem decode_whole {r : Request} (h : r.Fits) : decode r.encode = .ok r := by
  have hread := decode_encode [] h
  rwa [List.append_nil] at hread

end Request

/-! ## Windows -/

namespace Response

variable {draft : Draft}

theorem readField_cursor {cursor : String} (hdraft : draft.cursor = none)
    (h : Utf8.length cursor < 2 ^ 64) :
    (readField (Message.name "cursor") draft).Reads (textItem cursor)
      { draft with cursor := some cursor } := by
  rw [readField, if_pos rfl, hdraft]
  exact Reads.map _ (Reads.map _ (readText_reads h))

theorem readField_data {data : Bytes} (hdraft : draft.data = none) (h : data.length < 2 ^ 64) :
    (readField (Message.name "data") draft).Reads (bytesItem data)
      { draft with data := some data } := by
  rw [readField, if_neg, if_pos rfl, hdraft]
  · exact Reads.map _ (Reads.map _ (readByteString_reads h))
  · rw [Message.name_eq_iff]
    decide

/-- A window is read back. -/
theorem read_encode {r : Response} (hcursor : Utf8.length r.cursor < 2 ^ 64)
    (hdata : r.data.length < 2 ^ 64) : read.Reads r.encode r := by
  have hfields : ReadsFields readField 2 {}
      (textItem "cursor" ++ textItem r.cursor ++ (textItem "data" ++ bytesItem r.data ++ []))
      { cursor := some r.cursor, data := some r.data } :=
    .cons (by decide) (readField_cursor rfl hcursor)
      (.cons (by decide) (readField_data rfl hdata) (.nil _))
  have hhead := readUntagged_headBytes .map (show 2 < 2 ^ 64 by decide)
  rw [List.append_nil] at hfields
  rw [encode, List.append_assoc]
  exact hhead.bind (Reads.bind_nil (readFieldsOf_reads hfields) (.pure _))

end Response

/-! ## Replies -/

namespace Reply

/-- What has to fit into the lengths that heads give. -/
def Fits : Reply → Prop
  | window r => Utf8.length r.cursor < 2 ^ 64 ∧ r.data.length < 2 ^ 64
  | refusal reason => Utf8.length reason < 2 ^ 64

/-- The reason of a refusal is read back. -/
theorem readReason_reads {reason : String} (h : Utf8.length reason < 2 ^ 64) :
    readReason.Reads (headBytes 5 1 ++ (textItem "message" ++ textItem reason)) reason := by
  have hfield : (readReasonField (Message.name "message") none).Reads (textItem reason)
      (some reason) := by
    rw [readReasonField, if_pos rfl]
    exact Reads.map some (readText_reads h)
  have hfields := ReadsFields.cons (show Utf8.length "message" ≤ nameLimit by decide)
    hfield (.nil _)
  rw [List.append_nil] at hfields
  have hhead := readHead_reads .map (show 1 < 2 ^ 64 by decide)
  exact hhead.bind (Reads.bind_nil (readFieldsOf_reads hfields) (.pure _))

/-- A kind of reply and its body are read back. -/
theorem readNamed_reads {r : Reply} (h : r.Fits) :
    ∃ bs, r.encode = headBytes 5 1 ++ bs ∧ readNamed.Reads bs r := by
  cases r with
  | window r =>
    refine ⟨_, List.append_assoc _ _ _, ?_⟩
    refine (readName_reads (by decide)).bind ?_
    rw [if_pos (show Utf8.encode "Data" = Message.name "Data" from rfl)]
    exact Reads.map _ (Response.read_encode h.1 h.2)
  | refusal reason =>
    refine ⟨_, List.append_assoc _ _ _, ?_⟩
    refine (readName_reads (by decide)).bind ?_
    have hother : Utf8.encode "Error" ≠ Message.name "Data" := by
      intro heq
      exact absurd (Utf8.encode_injective heq) (by decide)
    rw [if_neg hother, if_pos (show Utf8.encode "Error" = Message.name "Error" from rfl)]
    exact Reads.map _ (readReason_reads h)

/-- A reply is read back. -/
theorem read_encode {r : Reply} (h : r.Fits) : read.Reads r.encode r := by
  intro rest
  obtain ⟨bs, hencode, hnamed⟩ := readNamed_reads h
  have hhead := readUntagged_headBytes .map (show 1 < 2 ^ 64 by decide)
  rw [read, hencode, List.append_assoc, hhead]
  exact hnamed rest

/-- What is decoded of a written reply, whatever follows it. -/
theorem decode_encode {r : Reply} (rest : Bytes) (h : r.Fits) :
    decode (r.encode ++ rest) = .ok r := by
  rw [decode, read_encode h rest]
  rfl

/-- Where nothing follows. -/
theorem decode_whole {r : Reply} (h : r.Fits) : decode r.encode = .ok r := by
  have hread := decode_encode [] h
  rwa [List.append_nil] at hread

end Reply

/-! ## Messages -/

/-- Every request and every reply is read back from its CBOR form, whatever follows that. The only
bound is that of the lengths which a head of eight bytes can give; all strings in memory keep
it. -/
theorem Message.decode_encode_append (rest : Bytes) :
    (∀ r : Request, r.Fits → Request.decode (r.encode ++ rest) = .ok r)
      ∧ ∀ r : Reply, r.Fits → Reply.decode (r.encode ++ rest) = .ok r := by
  refine ⟨?_, ?_⟩
  · intro r hfits
    exact Request.decode_encode rest hfits
  · intro r hfits
    exact Reply.decode_encode rest hfits

/-- A text that is not ASCII and has the least length that does not stand in the first byte of a
head, a byte string with the least length that takes four bytes, and an empty reason. A break
follows each. -/
theorem Message.decode_encode_append_boundaries :
    let request : Request :=
      { cursor := some "ääääääääääää", bytesBefore := some (List.replicate 65536 7) }
    request.Fits ∧ (Reply.refusal "").Fits
      ∧ Request.decode (request.encode ++ [0xff]) = .ok request
      ∧ Reply.decode ((Reply.refusal "").encode ++ [0xff]) = .ok (.refusal "") := by
  intro request
  have hrequest : request.Fits := by
    refine ⟨?_, ?_⟩
    · rintro s ⟨⟩
      decide
    · rintro bs ⟨⟩
      rw [List.length_replicate]
      decide
  have hreply : (Reply.refusal "").Fits := by
    change Utf8.length "" < 2 ^ 64
    decide
  obtain ⟨hrequests, hreplies⟩ := decode_encode_append [0xff]
  exact ⟨hrequest, hreply, hrequests request hrequest, hreplies (.refusal "") hreply⟩

end ByteLedger
