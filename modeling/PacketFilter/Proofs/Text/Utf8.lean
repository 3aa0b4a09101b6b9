import PacketFilter.ByteSource

/-!
# Texts as bytes

The bytes of a text are those of its characters in order. A byte below 128 stands for the character
with that number and occurs in no other character, so line feeds and carriage returns are found
among the bytes exactly where they are found in the text.
-/
namespace PacketFilter

namespace Text

/-- The bytes of an array are listed in order. -/
theorem toList_loop (bytes : ByteArray) (index : Nat) (reversed : List UInt8) :
    ByteArray.toList.loop bytes index reversed =
      reversed.reverse ++ bytes.data.toList.drop index := by
  fun_induction ByteArray.toList.loop bytes index reversed with
  | case1 index reversed inside ih =>
    have within : index < bytes.data.toList.length := by simpa using inside
    have byte : bytes.get! index = bytes.data.toList[index] := by
      cases bytes with
      | mk data => exact getElem!_pos data index inside
    rw [ih, byte, List.drop_eq_getElem_cons within]
    simp
  | case2 index reversed outside =>
    have beyond : bytes.data.toList.length ≤ index := by simpa using Nat.le_of_not_lt outside
    rw [List.drop_eq_nil_of_le beyond, List.append_nil]

/-- The list of the bytes of an array holds what the array holds. -/
theorem toList_eq_data (bytes : ByteArray) : bytes.toList = bytes.data.toList := by
  rw [ByteArray.toList, toList_loop]
  rfl

/-- The bytes of a text are those of its characters in order. -/
theorem toList_toUTF8 (text : String) :
    text.toUTF8.toList = text.toList.flatMap String.utf8EncodeChar := by
  have encoded : text.toUTF8 = (text.toList.flatMap String.utf8EncodeChar).toByteArray := by
    rw [String.toUTF8_eq_toByteArray, ← List.utf8Encode, ← String.toByteArray_ofList,
      String.ofList_toList]
  rw [encoded, toList_eq_data, List.toList_data_toByteArray]

/-- A byte below 128 stands for the character with its number. -/
theorem toNat_of_mem_utf8EncodeChar {char : Char} {byte : UInt8}
    (within : byte ∈ String.utf8EncodeChar char) (ascii : byte.toNat < 128) :
    char.toNat = byte.toNat := by
  rw [String.utf8EncodeChar.eq_1] at within
  split at within
  · next small =>
    obtain rfl := List.mem_singleton.1 within
    have exact : (UInt8.ofNat char.val.toNat).toNat = char.val.toNat := by
      rw [UInt8.toNat_ofNat']
      omega
    exact exact.symm
  · -- All bytes of a longer character are marked by their highest bit.
    exfalso
    split at within
    · simp only [List.mem_cons, List.not_mem_nil, or_false] at within
      rcases within with rfl | rfl <;> rw [UInt8.toNat_ofNat'] at ascii <;> omega
    · split at within
      · simp only [List.mem_cons, List.not_mem_nil, or_false] at within
        rcases within with rfl | rfl | rfl <;> rw [UInt8.toNat_ofNat'] at ascii <;> omega
      · simp only [List.mem_cons, List.not_mem_nil, or_false] at within
        rcases within with rfl | rfl | rfl | rfl <;> rw [UInt8.toNat_ofNat'] at ascii <;> omega

/-- A text ends with a character below 128 if its bytes end with that of the character. -/
theorem getLast?_of_byte_getLast? {text : String} {char : Char} {byte : UInt8}
    (same : char.toNat = byte.toNat) (ascii : byte.toNat < 128)
    (last : text.toUTF8.toList.getLast? = some byte) : text.toList.getLast? = some char := by
  rw [toList_toUTF8] at last
  rcases List.eq_nil_or_concat text.toList with empty | ⟨before, other, split⟩
  · simp [empty] at last
  · have nonempty : String.utf8EncodeChar other ≠ [] := by
      rw [← List.length_pos_iff, String.length_utf8EncodeChar]
      exact other.utf8Size_pos
    rw [split, List.concat_eq_append, List.flatMap_append, List.flatMap_singleton,
      List.getLast?_append, List.getLast?_eq_some_getLast nonempty, Option.some_or] at last
    have within := List.mem_of_getLast? ((List.getLast?_eq_some_getLast nonempty).trans last)
    have number := toNat_of_mem_utf8EncodeChar within ascii
    obtain rfl : other = char := Char.toNat_inj.1 (number.trans same.symm)
    simp [split]

/-- A character below 128 is the single byte with its number. -/
theorem utf8EncodeChar_of_ascii {char : Char} (ascii : char.toNat < 128) :
    String.utf8EncodeChar char = [UInt8.ofNat char.toNat] := by
  have small : char.val.toNat ≤ 0x7f := Nat.le_of_lt_succ ascii
  rw [String.utf8EncodeChar.eq_1]
  simp only [small, if_true]
  rfl

/-- Lists of characters below 128 are in the order of their bytes. -/
theorem flatMap_utf8EncodeChar_lt {left right : List Char}
    (ascii : ∀ char ∈ left, char.toNat < 128) (asciiToo : ∀ char ∈ right, char.toNat < 128)
    (less : left < right) :
    left.flatMap String.utf8EncodeChar < right.flatMap String.utf8EncodeChar := by
  induction less with
  | nil =>
    rw [List.flatMap_nil, List.flatMap_cons, utf8EncodeChar_of_ascii (asciiToo _ List.mem_cons_self)]
    exact .nil
  | @cons char rest others below ih =>
    rw [List.flatMap_cons, List.flatMap_cons, utf8EncodeChar_of_ascii (ascii _ List.mem_cons_self)]
    exact .cons (ih (List.forall_mem_cons.1 ascii).2 (List.forall_mem_cons.1 asciiToo).2)
  | @rel char rest other others below =>
    have first := ascii char List.mem_cons_self
    have second := asciiToo other List.mem_cons_self
    rw [List.flatMap_cons, List.flatMap_cons, utf8EncodeChar_of_ascii first,
      utf8EncodeChar_of_ascii second]
    refine .rel ?_
    have numbers : char.toNat < other.toNat := below
    rw [UInt8.lt_iff_toNat_lt, UInt8.toNat_ofNat', UInt8.toNat_ofNat']
    omega

/-- Texts of characters below 128 are in the order of their bytes. -/
theorem toUTF8_lt_toUTF8 {left right : String} (ascii : ∀ char ∈ left.toList, char.toNat < 128)
    (asciiToo : ∀ char ∈ right.toList, char.toNat < 128) (less : left < right) :
    left.toUTF8.toList < right.toUTF8.toList := by
  rw [toList_toUTF8, toList_toUTF8]
  exact flatMap_utf8EncodeChar_lt ascii asciiToo (String.lt_iff.1 less)

end Text

/-- The bytes of a text are decoded to that text. -/
@[simp] theorem ByteSource.decode?_toUTF8 (text : String) :
    ByteSource.decode? text.toUTF8.toList = some text := by
  have array : text.toUTF8.toList.toByteArray = text.toUTF8 := by
    refine ByteArray.ext ?_
    rw [List.data_toByteArray, Text.toList_eq_data]
  rw [ByteSource.decode?, array, String.fromUTF8?, String.toUTF8_eq_toByteArray,
    dif_pos text.isValidUTF8]
  rfl

end PacketFilter
