import Mathlib
import Authoring.Ledger.Export

/-! The bytes of a text in UTF-8. A line feed is one byte, and no other character has that byte. -/

namespace Authoring.Ledger

theorem toList_loop_eq (bytes : ByteArray) (index : Nat) (found : List UInt8) :
    ByteArray.toList.loop bytes index found = found.reverse ++ bytes.data.toList.drop index := by
  fun_induction ByteArray.toList.loop bytes index found with
  | case1 index found inside ih =>
      have bound : index < bytes.data.toList.length := inside
      have byte : bytes.get! index = bytes.data.toList[index] :=
        getElem!_pos bytes.data index inside
      rw [ih, List.reverse_cons, List.append_assoc, List.singleton_append, byte,
        List.drop_eq_getElem_cons bound]
  | case2 index found outside =>
      have bound : bytes.data.toList.length ≤ index := Nat.le_of_not_lt outside
      rw [List.drop_eq_nil_of_le bound, List.append_nil]

theorem bytesOf_eq_flatMap (text : String) :
    bytesOf text = text.toList.flatMap String.utf8EncodeChar := by
  rw [bytesOf, String.toUTF8_eq_toByteArray, ← String.utf8Encode_toList, ByteArray.toList,
    toList_loop_eq]
  exact List.toList_data_toByteArray

theorem feed_eq_ofNat_iff {code : Nat} (small : code < 256) :
    (10 : UInt8) = UInt8.ofNat code ↔ code = 10 := by
  rw [← UInt8.toNat_inj, UInt8.toNat_ofNat_of_lt' small]
  exact eq_comm

theorem feed_mem_utf8EncodeChar_iff (c : Char) : 10 ∈ String.utf8EncodeChar c ↔ c = '\n' := by
  have code : c = '\n' ↔ c.val.toNat = 10 := by
    rw [← Char.toNat_inj]
    rfl
  rw [code, String.utf8EncodeChar]
  generalize c.val.toNat = value
  split_ifs with one two three
  · rw [List.mem_singleton, feed_eq_ofNat_iff (by omega)]
  · simp only [List.mem_cons, List.not_mem_nil, or_false]
    rw [feed_eq_ofNat_iff (by omega), feed_eq_ofNat_iff (by omega)]
    omega
  · simp only [List.mem_cons, List.not_mem_nil, or_false]
    rw [feed_eq_ofNat_iff (by omega), feed_eq_ofNat_iff (by omega), feed_eq_ofNat_iff (by omega)]
    omega
  · simp only [List.mem_cons, List.not_mem_nil, or_false]
    rw [feed_eq_ofNat_iff (by omega), feed_eq_ofNat_iff (by omega), feed_eq_ofNat_iff (by omega),
      feed_eq_ofNat_iff (by omega)]
    omega

theorem feed_mem_bytesOf_iff (text : String) : 10 ∈ bytesOf text ↔ '\n' ∈ text.toList := by
  simp [bytesOf_eq_flatMap, feed_mem_utf8EncodeChar_iff]

end Authoring.Ledger
