/-
RecordStore.Proofs.Text.Encoding -- texts around bytes

Bytes between the encodings of two texts encode a text exactly when they do so on
their own (`isValidUTF8_between`), because every text begins and ends at the border
of a character.  So decoding goes through what stands around (`fromUTF8?_between`).
-/

namespace RecordStore.Text

set_option autoImplicit false

/-- The encoding of a text in front does not matter. -/
theorem isValidUTF8_utf8Encode_append {b : ByteArray} (cs : List Char) :
    (cs.utf8Encode ++ b).IsValidUTF8 ↔ b.IsValidUTF8 := by
  induction cs with
  | nil => rw [List.utf8Encode_nil, ByteArray.empty_append]
  | cons c rest ih =>
    rw [← List.singleton_append, List.utf8Encode_append, ByteArray.append_assoc,
      ByteArray.isValidUTF8_utf8Encode_singleton_append_iff, ih]

/-- The encoding of a text behind does not matter. -/
theorem isValidUTF8_append_toByteArray {b : ByteArray} (after : String) :
    (b ++ after.toByteArray).IsValidUTF8 ↔ b.IsValidUTF8 := by
  refine ⟨fun valid => ?_, fun valid => valid.append after.isValidUTF8⟩
  let whole : String := ⟨b ++ after.toByteArray, valid⟩
  let border : String.Pos.Raw := ⟨b.size⟩
  have le : border ≤ whole.rawEndPos := by
    simp [String.Pos.Raw.le_iff, border, whole, ← String.size_toByteArray]
  have size : whole.utf8ByteSize = b.size + after.toByteArray.size := by
    simp [whole, ← String.size_toByteArray]
  have behind : whole.toByteArray.extract b.size whole.utf8ByteSize = after.toByteArray :=
    ByteArray.extract_append_eq_right rfl size
  have valid : border.IsValid whole :=
    String.Pos.Raw.isValid_iff_isValidUTF8_extract_utf8ByteSize.2
      ⟨le, behind ▸ after.isValidUTF8⟩
  have front : whole.toByteArray.extract 0 b.size = b := ByteArray.extract_append_eq_left rfl
  exact front ▸ (String.Pos.Raw.isValid_iff_isValidUTF8_extract_zero.1 valid).2

theorem isValidUTF8_between {b : ByteArray} (before after : String) :
    (before.toByteArray ++ (b ++ after.toByteArray)).IsValidUTF8 ↔ b.IsValidUTF8 := by
  rw [← String.utf8Encode_toList, isValidUTF8_utf8Encode_append, isValidUTF8_append_toByteArray]

/-- Bytes are decoded on their own, whatever texts stand around them. -/
theorem fromUTF8?_between (before after : String) (bytes : List UInt8) :
    String.fromUTF8? ⟨(before.toByteArray.data.toList ++
      (bytes ++ after.toByteArray.data.toList)).toArray⟩ =
      (String.fromUTF8? ⟨bytes.toArray⟩).map fun s => before ++ (s ++ after) := by
  have joined : (⟨(before.toByteArray.data.toList ++
      (bytes ++ after.toByteArray.data.toList)).toArray⟩ : ByteArray) =
      before.toByteArray ++ (⟨bytes.toArray⟩ ++ after.toByteArray) := by
    apply ByteArray.ext
    apply Array.ext'
    simp
  rw [joined]
  unfold String.fromUTF8?
  by_cases valid : ByteArray.IsValidUTF8 ⟨bytes.toArray⟩
  · rw [dif_pos valid, dif_pos ((isValidUTF8_between before after).2 valid), Option.map_some]
    congr 1
  · have broken := fun whole => valid ((isValidUTF8_between before after).1 whole)
    rw [dif_neg valid, dif_neg broken, Option.map_none]

/-- The encoding of a text denotes it. -/
theorem fromUTF8?_encoded (s : String) :
    String.fromUTF8? ⟨s.toByteArray.data.toList.toArray⟩ = some s := by
  have bytes : (⟨s.toByteArray.data.toList.toArray⟩ : ByteArray) = s.toByteArray := by
    rw [Array.toArray_toList]
  unfold String.fromUTF8?
  rw [bytes, dif_pos s.isValidUTF8]
  rfl

end RecordStore.Text
