import RemoteDebugger.Json.Number

/-!
# JSON values

The values of JSON texts. An object is kept as its members in increasing order of their keys,
each key once; a member put in under a key that is there takes its place.
-/

namespace RemoteDebugger

/-- A JSON value. -/
inductive Json where
  | null
  | bool (value : Bool)
  | number (value : Number)
  | string (value : String)
  | array (items : List Json)
  | object (members : List (String × Json))

/-- The members of an object in increasing order of their keys. -/
abbrev Members := List (String × Json)

namespace Json

/-! ### Equality -/

mutual

def decEq : (a b : Json) → Decidable (a = b)
  | .null,     .null     => isTrue rfl
  | .bool a,   .bool b   => if h :
      a = b then isTrue (h ▸ rfl) else isFalse (h <| Json.bool.inj ·)
  | .number a, .number b => if h :
      a = b then isTrue (h ▸ rfl) else isFalse (h <| Json.number.inj ·)
  | .string a, .string b => if h :
      a = b then isTrue (h ▸ rfl) else isFalse (h <| Json.string.inj ·)
  | .array a,  .array b  =>
    match decEqItems a b with
    | isTrue h  => isTrue (h ▸ rfl)
    | isFalse h => isFalse (h <| Json.array.inj ·)
  | .object a, .object b =>
    match decEqMembers a b with
    | isTrue h  => isTrue (h ▸ rfl)
    | isFalse h => isFalse (h <| Json.object.inj ·)
  | .null, .bool _ | .null, .number _ | .null, .string _ | .null, .array _ | .null, .object _
  | .bool _, .null | .bool _, .number _ | .bool _, .string _ | .bool _, .array _
  | .bool _, .object _ | .number _, .null | .number _, .bool _ | .number _, .string _
  | .number _, .array _ | .number _, .object _ | .string _, .null | .string _, .bool _
  | .string _, .number _ | .string _, .array _ | .string _, .object _ | .array _, .null
  | .array _, .bool _ | .array _, .number _ | .array _, .string _ | .array _, .object _
  | .object _, .null | .object _, .bool _ | .object _, .number _ | .object _, .string _
  | .object _, .array _ => isFalse nofun

def decEqItems : (a b : List Json) → Decidable (a = b)
  | [],     []     => isTrue rfl
  | [],     _ :: _ => isFalse nofun
  | _ :: _, []     => isFalse nofun
  | a :: as, b :: bs =>
    match decEq a b, decEqItems as bs with
    | isTrue h, isTrue h' => isTrue (h ▸ h' ▸ rfl)
    | isFalse h, _        => isFalse fun e => h (List.cons.inj e).1
    | _, isFalse h        => isFalse fun e => h (List.cons.inj e).2

def decEqMembers : (a b : List (String × Json)) → Decidable (a = b)
  | [],     []     => isTrue rfl
  | [],     _ :: _ => isFalse nofun
  | _ :: _, []     => isFalse nofun
  | (k, a) :: as, (l, b) :: bs =>
    if hk : k = l then
      match decEq a b, decEqMembers as bs with
      | isTrue h, isTrue h' => isTrue (hk ▸ h ▸ h' ▸ rfl)
      | isFalse h, _        => isFalse fun e => h (Prod.mk.inj (List.cons.inj e).1).2
      | _, isFalse h        => isFalse fun e => h (List.cons.inj e).2
    else isFalse fun e => hk (Prod.mk.inj (List.cons.inj e).1).1

end

instance : DecidableEq Json := decEq

instance : Inhabited Json := ⟨.null⟩

/-! ### Members -/

/-- The members with `value` put in under `key`. -/
def insertMember (key : String) (value : Json) : Members → Members
  | [] => [(key, value)]
  | (k, v) :: ms =>
    if key < k then (key, value) :: (k, v) :: ms
    else if key = k then (key, value) :: ms
    else (k, v) :: insertMember key value ms

/-- The members with distinct keys, in the order of their keys. -/
def sortMembers (ms : Members) : Members :=
  ms.foldl (fun sorted (k, v) => insertMember k v sorted) []

def nat (n : Nat) : Json := .number (.int n)

def optString : Option String → Json
  | some s => .string s
  | none   => .null

def optNat : Option Nat → Json
  | some n => nat n
  | none   => .null

/-- The value as an unsigned number of 64 bits. -/
def toNat? : Json → Option Nat
  | .number n => n.toNat?
  | _         => none

end Json

end RemoteDebugger
