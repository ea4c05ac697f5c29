import ActorCritic.Checkpoint

/-!
The bytes of a text: they are read back as the text, and a text that grows at its end is written out
by its new bytes alone.
-/

namespace ActorCritic
namespace Text

theorem toList_loop_eq (bs : ByteArray) (i : Nat) (before : List UInt8) :
    ByteArray.toList.loop bs i before = before.reverse ++ bs.data.toList.drop i := by
  induction i, before using ByteArray.toList.loop.induct bs with
  | case1 i before hlt ih =>
      have hi : i < bs.data.toList.length := by simpa using hlt
      have hget : bs.get! i = bs.data.toList[i] := by
        rw [ByteArray.get!, Array.getElem_toList]
        exact getElem!_pos bs.data i hlt
      rw [ByteArray.toList.loop, if_pos hlt, ih, List.drop_eq_getElem_cons hi, hget]
      simp
  | case2 i before hge =>
      have hlength : bs.data.toList.length ≤ i := Nat.not_lt.1 hge
      rw [ByteArray.toList.loop, if_neg hge, List.drop_eq_nil_of_le hlength, List.append_nil]

theorem toList_bytes (bs : ByteArray) : bs.toList = bs.data.toList := by
  rw [ByteArray.toList, toList_loop_eq]
  rfl

theorem bytes_append (s t : String) :
    (s ++ t).toUTF8.toList = s.toUTF8.toList ++ t.toUTF8.toList := by
  simp only [String.toUTF8_eq_toByteArray, toList_bytes, String.toByteArray_append,
    ByteArray.toList_data_append]

end Text

namespace Content

variable {α : Type}

theorem text?_ofText (s : String) : (ofText s : Content α).text? = some s := by
  have hbytes : (⟨s.toUTF8.toList.toArray⟩ : ByteArray) = s.toByteArray := by
    rw [String.toUTF8_eq_toByteArray, Text.toList_bytes, Array.toArray_toList]
  rw [ofText, text?, hbytes, String.fromUTF8?, dif_pos s.isValidUTF8]
  rfl

/-- The bytes behind those that are in the file already complete them. -/
theorem writeAt_rest (written held : String) :
    writeAt written.toUTF8.toList.length
        ((written ++ held).toUTF8.toList.drop written.toUTF8.toList.length) (ofText written) =
      (ofText (written ++ held) : Content α) := by
  rw [ofText, ofText, writeAt, Text.bytes_append, List.drop_left, splice]
  split
  · next hnone => rw [List.isEmpty_iff.1 hnone, List.append_nil]
  · simp

end Content
end ActorCritic
