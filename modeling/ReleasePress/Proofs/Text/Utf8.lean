import Mathlib.Tactic.Common
import ReleasePress.Text.Utf8

/-! # Texts and their bytes

Bytes are read as a text exactly if they are its bytes (`fromUTF8?_eq_some_iff`), so a lenient reading of
the bytes of a text gives the text.  A text of ASCII has a byte for each character. -/

namespace ReleasePress

theorem fromUTF8?_eq_some_iff {bytes : ByteArray} {contents : String} :
    String.fromUTF8? bytes = some contents ↔ bytes = contents.toUTF8 := by
  rw [String.fromUTF8?, String.toUTF8_eq_toByteArray]
  split
  · rw [Option.some.injEq, ← String.toByteArray_inj]
    exact Iff.rfl
  · next hvalid =>
      simp only [reduceCtorEq, false_iff]
      rintro rfl
      exact hvalid contents.isValidUTF8

theorem Utf8.decodeLossy_toUTF8 (text : String) : decodeLossy text.toUTF8 = text := by
  rw [decodeLossy, fromUTF8?_eq_some_iff.2 rfl]

theorem utf8ByteSize_of_ascii {text : String} (hascii : ∀ c ∈ text.toList, c.toNat < 128) :
    text.utf8ByteSize = text.length := by
  have hsize : ∀ cs : List Char, (∀ c ∈ cs, c.toNat < 128) → (String.ofList cs).utf8ByteSize = cs.length := by
    intro cs hcs
    induction cs with
    | nil => rfl
    | cons c cs ih =>
        obtain ⟨hc, hrest⟩ := List.forall_mem_cons.1 hcs
        have hone : c.utf8Size = 1 := Char.utf8Size_eq_one_iff.2 (Nat.le_of_lt_succ hc)
        rw [String.ofList_cons, String.utf8ByteSize_append, String.utf8ByteSize_singleton, hone, ih hrest,
          List.length_cons, Nat.add_comm]
  rw [← String.ofList_toList (s := text), hsize text.toList hascii, String.length_ofList]

end ReleasePress
