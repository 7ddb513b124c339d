import Rtftp.Construction.OpenedFile

namespace Rtftp

/-- A read into a buffer gives some of the bytes that are left, and nothing only when the buffer is
empty or no byte is left. The count may depend on the number of the reads before it. -/
structure ReadCounts where
  count : (call room left : Nat) → Nat
  fits : ∀ call room left, count call room left ≤ min room left
  progress : ∀ call room left, 0 < room → 0 < left → 0 < count call room left

/-- These reads give all that fits. -/
def ReadCounts.full : ReadCounts where
  count _ room left := min room left
  fits _ _ _ := Nat.le_refl _
  progress _ _ _ some rest := Nat.lt_min.mpr ⟨some, rest⟩

inductive SeekFrom where
  | start (offset : Nat)
  | fromEnd (offset : Int)
  deriving DecidableEq, Repr

/-- An open file of the system has its position. The ghost `reads` counts the calls of `read`. -/
structure File where
  content : List UInt8
  position : Nat
  counts : ReadCounts
  reads : Nat

namespace File

def opened (content : List UInt8) (counts : ReadCounts) : File := ⟨content, 0, counts, 0⟩

/-- This is the number of bytes that the next read gives. -/
def nextCount (file : File) (room : Nat) : Nat :=
  file.counts.count file.reads room (file.content.length - file.position)

def read (file : File) (room : Nat) : List UInt8 × File :=
  ((file.content.drop file.position).take (file.nextCount room),
    { file with
      position := file.position + file.nextCount room
      reads := file.reads + 1 })

/-- This is `lseek`, which refuses a place before the start of the file. -/
def seek (file : File) : SeekFrom → Except IoError Nat × File
  | .start offset => (.ok offset, { file with position := offset })
  | .fromEnd offset =>
      if 0 ≤ file.content.length + offset then
        (.ok (file.content.length + offset).toNat,
          { file with position := (file.content.length + offset).toNat })
      else (.error ⟨.other, "Invalid argument (os error 22)"⟩, file)

end File

structure LocalOpenedFile where
  rd : File

namespace LocalOpenedFile

def readTo (opened : LocalOpenedFile) (room : Nat) : List UInt8 × LocalOpenedFile :=
  let (result, rd) := opened.rd.read room
  (result, ⟨rd⟩)

/-- The first seek moves to the start of the file, and its result is taken for the old position. -/
def getSize (opened : LocalOpenedFile) : Except IoError UInt64 × LocalOpenedFile :=
  match opened.rd.seek (.start 0) with
  | (.error error, rd) => (.error error, ⟨rd⟩)
  | (.ok currentPos, rd) =>
      match rd.seek (.fromEnd 0) with
      | (.error error, rd) => (.error error, ⟨rd⟩)
      | (.ok result, rd) =>
          match rd.seek (.start currentPos) with
          | (.error error, rd) => (.error error, ⟨rd⟩)
          | (.ok _, rd) => (.ok (UInt64.ofNat result), ⟨rd⟩)

end LocalOpenedFile

instance : OpenedFile LocalOpenedFile where
  readTo opened room := .ok (opened.readTo room)
  getSize := LocalOpenedFile.getSize
  readTo_fits opened room bytes next returned := by
    cases returned
    apply Nat.le_trans (List.length_take_le _ _)
    have fits := opened.rd.counts.fits opened.rd.reads room
      (opened.rd.content.length - opened.rd.position)
    exact Nat.le_trans fits (Nat.min_le_left _ _)

/-- The size is right, and the file is rewound. -/
theorem LocalOpenedFile.getSize_eq (opened : LocalOpenedFile) :
    opened.getSize =
      (.ok (UInt64.ofNat opened.rd.content.length), ⟨{ opened.rd with position := 0 }⟩) := by
  simp [getSize, File.seek]

end Rtftp
