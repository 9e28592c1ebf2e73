/-!
# Blanks, pieces and numerals

What texts are taken apart by: the characters with the Unicode property `White_Space`, a
separator that stands between pieces, and decimal numerals of ASCII digits, written without
leading zeros and read by their value.
-/

namespace RemoteDebugger

/-! ### Blank characters -/

/-- A character with the Unicode property `White_Space`. -/
def isBlank (c : Char) : Bool :=
  let n := c.toNat
  (9 ≤ n && n ≤ 13) || n == 0x20 || n == 0x85 || n == 0xa0 || n == 0x1680 ||
    (0x2000 ≤ n && n ≤ 0x200a) || n == 0x2028 || n == 0x2029 || n == 0x202f || n == 0x205f ||
    n == 0x3000

/-- What is left of `cs` after the blanks at its head. -/
def skipBlanks (cs : List Char) : List Char := cs.dropWhile isBlank

/-- `cs` without the blanks at either end. -/
def trimBlanks (cs : List Char) : List Char :=
  (skipBlanks (skipBlanks cs).reverse).reverse

def trim (s : String) : String := String.ofList (trimBlanks s.toList)

/-- A text of nothing but blanks. -/
def isBlankText (s : String) : Bool := s.toList.all isBlank

/-! ### Pieces -/

/-- The pieces of a text between the places where `sep` stands. There is always one more of them
than there are separators. -/
def pieces (sep : Char) : List Char → List (List Char)
  | []      => [[]]
  | c :: cs =>
    if c = sep then [] :: pieces sep cs
    else match pieces sep cs with
      | p :: ps => (c :: p) :: ps
      | []      => [[c]]

/-! ### Numerals -/

namespace Numeral

def digitValue (c : Char) : Nat := c.toNat - '0'.toNat

/-- The number that a row of digits stands for. -/
def value (ds : List Char) : Nat := ds.foldl (fun n d => 10 * n + digitValue d) 0

def write (n : Nat) : List Char := Nat.toDigits 10 n

/-- A numeral of digits alone, with leading zeros or without, for a number up to `max`. -/
def read? (max : Nat) (ds : List Char) : Option Nat :=
  if ds.isEmpty || !ds.all Char.isDigit then none
  else if value ds ≤ max then some (value ds) else none

/-- Like `read?`, with a plus sign allowed in front. -/
def readSigned? (max : Nat) : List Char → Option Nat
  | '+' :: ds => read? max ds
  | ds        => read? max ds

/-- The numeral that `cs` begins with, and what follows it: `0` alone, or a digit other than `0`
and all digits after it. -/
def scan? : List Char → Option (List Char × List Char)
  | []      => none
  | c :: cs =>
    if c = '0' then some (['0'], cs)
    else if c.isDigit then some (c :: cs.takeWhile Char.isDigit, cs.dropWhile Char.isDigit)
    else none

def max16 : Nat := 65535
def max32 : Nat := 4294967295
def max64 : Nat := 18446744073709551615

end Numeral

end RemoteDebugger
