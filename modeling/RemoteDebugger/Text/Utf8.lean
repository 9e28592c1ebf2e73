/-!
# Texts as bytes

A text travels as its UTF-8 bytes. Reading them back is strict for records and lines of input;
where a text is only shown, an ill-formed part becomes one replacement character.
-/

namespace RemoteDebugger

/-- Bytes as they travel over a connection. -/
abbrev Bytes := List UInt8

namespace Utf8

def encode (s : String) : Bytes := s.toByteArray.data.toList

/-- The text with the bytes `bs`, if they are well formed. -/
def decode? (bs : Bytes) : Option String := String.fromUTF8? bs.toByteArray

/-- A text is read back from its bytes. -/
theorem decode?_encode (s : String) : decode? (encode s) = some s := by
  have h : s.toByteArray.data.toList.toByteArray = s.toByteArray := by
    apply ByteArray.ext
    rw [List.data_toByteArray, Array.toArray_toList]
  rw [decode?, encode, h, String.fromUTF8?, dif_pos s.isValidUTF8]
  rfl

/-- A byte of the form `10xxxxxx`. -/
def isTrailing (b : UInt8) : Bool := 0x80 ≤ b && b ≤ 0xbf

/-- How many bytes follow the lead byte `b`, and the range in which the first of them lies. -/
def trailing? (b : UInt8) : Option (Nat × UInt8 × UInt8) :=
  if b < 0x80 then some (0, 0x80, 0xbf)
  else if 0xc2 ≤ b && b ≤ 0xdf then some (1, 0x80, 0xbf)
  else if b == 0xe0 then some (2, 0xa0, 0xbf)
  else if b == 0xed then some (2, 0x80, 0x9f)
  else if 0xe1 ≤ b && b ≤ 0xef then some (2, 0x80, 0xbf)
  else if b == 0xf0 then some (3, 0x90, 0xbf)
  else if 0xf1 ≤ b && b ≤ 0xf3 then some (3, 0x80, 0xbf)
  else if b == 0xf4 then some (3, 0x80, 0x8f)
  else none

/-- How many bytes the first character of `b :: bs` takes, or the ill-formed part that stands in
its place: the longest beginning of a character, and at least one byte. -/
def partLength (b : UInt8) (bs : Bytes) : Nat :=
  match trailing? b with
  | none => 1
  | some (n, low, high) =>
    match bs.take n with
    | []     => 1
    | c :: r => if low ≤ c && c ≤ high then 2 + (r.takeWhile isTrailing).length else 1

/-- What is displayed for `bs`: each ill-formed part becomes one `U+FFFD`. -/
def display : Bytes → String
  | []      => ""
  | b :: bs =>
    let part := (b :: bs).take (partLength b bs)
    (decode? part).getD "\uFFFD" ++ display (bs.drop (partLength b bs - 1))
  termination_by bs => bs.length
  decreasing_by simp only [List.length_drop, List.length_cons]; omega

end Utf8

end RemoteDebugger
