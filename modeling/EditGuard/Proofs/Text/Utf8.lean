import EditGuard.Text.Utf8
import Mathlib.Data.List.Basic

/-! # Texts as bytes

A text is what its bytes decode to, and what they are shown as.
-/

namespace EditGuard.Text

theorem toList_loop (bs : ByteArray) (i : Nat) (done : List UInt8) :
    ByteArray.toList.loop bs i done = done.reverse ++ bs.data.toList.drop i := by
  fun_induction ByteArray.toList.loop bs i done with
  | case1 i done hin ih =>
    have hsize : i < bs.data.size := hin
    have hbyte : bs.get! i = bs.data[i] := getElem!_pos bs.data i hsize
    have hdrop : bs.data.toList.drop i = bs.data[i] :: bs.data.toList.drop (i + 1) :=
      List.drop_eq_getElem_cons hsize
    rw [ih, hbyte, hdrop, List.reverse_cons, List.append_assoc, List.singleton_append]
  | case2 i done hend =>
    have hdrop : bs.data.toList.drop i = [] := List.drop_eq_nil_of_le (Nat.le_of_not_lt hend)
    rw [hdrop, List.append_nil]

theorem toList_eq_data (bs : ByteArray) : bs.toList = bs.data.toList :=
  toList_loop bs 0 []

theorem ofUtf8?_toUtf8 (s : String) : ofUtf8? (toUtf8 s) = some s := by
  have hbytes : (⟨(toUtf8 s).toArray⟩ : ByteArray) = s.toByteArray := by
    rw [toUtf8, toList_eq_data, Array.toArray_toList]
    rfl
  have hvalid : s.toByteArray.IsValidUTF8 := s.isValidUTF8
  rw [ofUtf8?, hbytes, String.fromUTF8?, dif_pos hvalid]
  rfl

theorem toUtf8_eq_flatMap (s : String) : toUtf8 s = s.toList.flatMap String.utf8EncodeChar := by
  have hlist : s.toByteArray = s.toList.utf8Encode := by
    rw [← String.toByteArray_ofList, String.ofList_toList]
  rw [toUtf8, toList_eq_data, String.toUTF8_eq_toByteArray, hlist, List.utf8Encode,
    List.toList_data_toByteArray]

theorem utf8EncodeChar_of_ascii {c : Char} (h : c.toNat < 128) :
    String.utf8EncodeChar c = [UInt8.ofNat c.toNat] := by
  have hsmall : c.val.toNat ≤ 127 := Nat.le_of_lt_succ h
  rw [String.utf8EncodeChar, if_pos hsmall]
  rfl

/-- Beyond ASCII all bytes of a character are. -/
theorem le_of_mem_utf8EncodeChar {c : Char} (h : 128 ≤ c.toNat) {b : UInt8}
    (hb : b ∈ String.utf8EncodeChar c) : 128 ≤ b.toNat := by
  have hlarge : ¬ c.val.toNat ≤ 127 := Nat.not_le_of_lt h
  have hbyte : ∀ n, 128 ≤ n → n < 256 → 128 ≤ (UInt8.ofNat n).toNat := by
    intro n hfrom hto
    rw [UInt8.toNat_ofNat', Nat.mod_eq_of_lt hto]
    exact hfrom
  rw [String.utf8EncodeChar, if_neg hlarge] at hb
  split at hb
  · simp only [List.mem_cons, List.not_mem_nil, or_false] at hb
    rcases hb with rfl | rfl
    · exact hbyte _ (by omega) (by omega)
    · exact hbyte _ (by omega) (by omega)
  · split at hb
    · simp only [List.mem_cons, List.not_mem_nil, or_false] at hb
      rcases hb with rfl | rfl | rfl
      · exact hbyte _ (by omega) (by omega)
      · exact hbyte _ (by omega) (by omega)
      · exact hbyte _ (by omega) (by omega)
    · simp only [List.mem_cons, List.not_mem_nil, or_false] at hb
      rcases hb with rfl | rfl | rfl | rfl
      · exact hbyte _ (by omega) (by omega)
      · exact hbyte _ (by omega) (by omega)
      · exact hbyte _ (by omega) (by omega)
      · exact hbyte _ (by omega) (by omega)

namespace Begun

end Begun

section

variable {g : Begun} {n : Nat} (hn : n < 64) (hlow : g.low ≤ n + 128) (hhigh : n + 128 ≤ g.high)

include hn hlow hhigh

end

/-- Two bytes of three are replaced as one. -/
example : shown [0x61, 0xE2, 0x82, 0x62, 0xFF] = "a\ufffdb\ufffd" := by decide +kernel

end EditGuard.Text
