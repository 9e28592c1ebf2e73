import RemoteDebugger.Json.Token
import RemoteDebugger.Text.Basic

/-!
# IP addresses

Addresses of hosts as numbers, read from their strict text form and written in the canonical one.
-/

namespace RemoteDebugger

/-- The address of a host. -/
inductive Ip where
  /-- Four bytes. -/
  | v4 (bytes : List Nat)
  /-- Eight groups of 16 bits. -/
  | v6 (groups : List Nat)
deriving DecidableEq, Repr

namespace Ip

/-! ### Reading -/

/-- A byte in decimal digits, without leading zeros. -/
def byte? (cs : List Char) : Option Nat :=
  if 1 < cs.length ∧ cs.head? = some '0' then none else Numeral.read? 255 cs

/-- Four bytes with points between them. -/
def v4? (cs : List Char) : Option (List Nat) :=
  let ps := pieces '.' cs
  if ps.length = 4 then ps.mapM byte? else none

/-- A group of up to four hexadecimal digits. -/
def group? (cs : List Char) : Option Nat :=
  if cs.isEmpty || 4 < cs.length then none
  else cs.foldlM (fun n c => do some (16 * n + (← Json.hexValue? c))) 0

/-- Two groups from the four bytes of an address. -/
def groupsOfV4 : List Nat → List Nat
  | [a, b, c, d] => [256 * a + b, 256 * c + d]
  | _            => []

/-- Groups with colons between them. The last two of them may be written as four bytes. -/
def groups? (v4Last : Bool) : List (List Char) → Option (List Nat)
  | []      => some []
  | [p]     =>
    match if v4Last then v4? p else none with
    | some bytes => some (groupsOfV4 bytes)
    | none       => do some [← group? p]
  | p :: ps => do some ((← group? p) :: (← groups? v4Last ps))

/-- A text of groups, which may have none at all. -/
def groupText? (v4Last : Bool) (cs : List Char) : Option (List Nat) :=
  if cs.isEmpty then some [] else groups? v4Last (pieces ':' cs)

/-- The text before the first `::` and the text after it. -/
def splitGap : List Char → Option (List Char × List Char)
  | ':' :: ':' :: cs => some ([], cs)
  | c :: cs          => (splitGap cs).map fun (h, t) => (c :: h, t)
  | []               => none

/-- Eight groups, of which one run of zeros may be left out. -/
def v6? (cs : List Char) : Option (List Nat) :=
  match splitGap cs with
  | none => do
    let groups ← groupText? true cs
    if groups.length = 8 then some groups else none
  | some (h, t) => do
    let front ← groupText? false h
    let back ← groupText? true t
    let n := front.length + back.length
    if n ≤ 7 then some (front ++ List.replicate (8 - n) 0 ++ back) else none

def parse? (s : String) : Option Ip :=
  ((v4? s.toList).map .v4).or ((v6? s.toList).map .v6)

/-! ### Writing -/

/-- Four bytes with points between them. -/
def writeV4 (bytes : List Nat) : List Char := ['.'].intercalate (bytes.map Numeral.write)

/-- Groups with colons between them. -/
def writeGroups (groups : List Nat) : List Char :=
  [':'].intercalate (groups.map (Nat.toDigits 16))

/-- The first of the longest runs of zeros: where it begins and how long it is. -/
def zeroRun (groups : List Nat) : Nat × Nat :=
  (List.range groups.length).foldl (fun best i =>
    let n := ((groups.drop i).takeWhile (· == 0)).length
    if best.2 < n then (i, n) else best) (0, 0)

/-- The text of eight groups. A run of at least two zeros is left out, the longest one. -/
def writeV6 (groups : List Nat) : List Char :=
  match groups with
  | [0, 0, 0, 0, 0, 0xffff, a, b] =>
    "::ffff:".toList ++ writeV4 [a / 256, a % 256, b / 256, b % 256]
  | _ =>
    let (i, n) := zeroRun groups
    if n ≤ 1 then writeGroups groups
    else writeGroups (groups.take i) ++ [':', ':'] ++ writeGroups (groups.drop (i + n))

def writeWithPort (ip : Ip) (port : Nat) : String :=
  String.ofList (match ip with
    | .v4 bytes  => writeV4 bytes ++ ':' :: Numeral.write port
    | .v6 groups => '[' :: writeV6 groups ++ ']' :: ':' :: Numeral.write port)

/-- Whether the address always stands for the own host. -/
def isLoopback : Ip → Bool
  | .v4 bytes  => bytes.head? == some 127
  | .v6 groups => groups == [0, 0, 0, 0, 0, 0, 0, 1]

end Ip

end RemoteDebugger
