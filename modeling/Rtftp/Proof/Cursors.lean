import Rtftp.Construction.Cursor

namespace Rtftp
open Library

/-- A word that fits goes to the two bytes at the offset. -/
theorem WriteCursor.putUshort_fits (cursor : WriteCursor) (value : UInt16)
    (fits : cursor.offset + 2 ≤ cursor.buffer.length) :
    cursor.putUshort value =
      (.ok (cursor.offset + 2),
        ⟨overwrite cursor.buffer cursor.offset (beBytes value), cursor.offset + 2⟩) := by
  rw [putUshort, if_neg (by omega), maskedHighByte, maskedLowByte]
  rfl

/-- A string with a spare byte is copied, and the zero goes past its terminator's place. -/
theorem WriteCursor.putString_fits (cursor : WriteCursor) (string : String)
    (fits : cursor.offset + (utf8 string).length + 1 < cursor.buffer.length) :
    cursor.putString string =
      (.ok (cursor.offset + (utf8 string).length + 1),
        ⟨(overwrite cursor.buffer cursor.offset (utf8 string)).set
          (cursor.offset + (utf8 string).length + 1) 0,
          cursor.offset + (utf8 string).length + 1⟩) := by
  have spare : cursor.offset + (utf8 string).length + 1 <
      (overwrite cursor.buffer cursor.offset (utf8 string)).length := by
    rwa [overwrite_length]
  rw [putString, if_neg (by omega)]
  exact if_pos spare

/-- The cursor reads back a word that was written at its index. -/
theorem ReadCursor.extractUshort_at (before rest : List UInt8) (value : UInt16) :
    extractUshort ⟨before ++ (beBytes value ++ rest), before.length⟩ =
      (.ok value, ⟨before ++ (beBytes value ++ rest), before.length + 2⟩) := by
  simp only [extractUshort, List.drop_left]
  rw [beBytes, List.cons_append, List.cons_append]
  simp only [fromBeBytes_beBytes]

/-- The first NUL of a text and its terminator is the terminator. -/
theorem findIdx?_nul (text rest : List UInt8) (clean : 0 ∉ text) :
    (text ++ 0 :: rest).findIdx? (· == 0) = some text.length := by
  rw [List.findIdx?_append, List.findIdx?_eq_none_iff.mpr]
  · simp [List.findIdx?_cons]
  · intro byte member
    simp only [beq_eq_false_iff_ne]
    exact fun zero => clean (zero ▸ member)

/-- The cursor reads back a terminated string that was written at its index. -/
theorem ReadCursor.extractString_at (before rest : List UInt8) (string : String)
    (clean : 0 ∉ utf8 string) :
    extractString ⟨before ++ (utf8 string ++ 0 :: rest), before.length⟩ =
      (.ok string, ⟨before ++ (utf8 string ++ 0 :: rest),
        before.length + (utf8 string).length + 1⟩) := by
  have ending := findIdx?_nul (utf8 string) rest clean
  have more : ¬ (before ++ (utf8 string ++ 0 :: rest)).length ≤ before.length := by
    simp only [List.length_append, List.length_cons]
    omega
  simp only [extractString, if_neg more, List.drop_left, ending, List.take_left, fromUtf8_utf8]

/-- These bytes start with a string and its NUL. -/
def terminated (bytes : List UInt8) : Option String :=
  match bytes.findIdx? (· == 0) with
  | some index => fromUtf8 (bytes.take index)
  | none => none

/-- The first NUL ends the string, whatever follows it. -/
theorem terminated_nul (text rest : List UInt8) (clean : 0 ∉ text) :
    terminated (text ++ 0 :: rest) = fromUtf8 text := by
  rw [terminated, findIdx?_nul text rest clean]
  simp only [List.take_left]

theorem terminated_clean (bytes : List UInt8) (clean : 0 ∉ bytes) : terminated bytes = none := by
  have missing : bytes.findIdx? (· == 0) = none := by
    rw [List.findIdx?_eq_none_iff]
    intro byte member
    rw [beq_eq_false_iff_ne]
    exact fun zero => clean (zero ▸ member)
  rw [terminated, missing]

/-- A read of a string succeeds exactly with the terminated string at the index. -/
theorem ReadCursor.extractString_iff (cursor : ReadCursor) (string : String) :
    cursor.extractString.1 = .ok string ↔
      terminated (cursor.datagram.drop cursor.index) = some string := by
  by_cases finished : cursor.datagram.length ≤ cursor.index
  · simp [extractString, terminated, finished, List.drop_eq_nil_of_le finished]
  · simp only [extractString, terminated, if_neg finished]
    cases found : (cursor.datagram.drop cursor.index).findIdx? (· == 0) with
    | none => simp
    | some index =>
        dsimp only
        cases decoded : fromUtf8 ((cursor.datagram.drop cursor.index).take index) with
        | none => simp
        | some text => simp

end Rtftp
