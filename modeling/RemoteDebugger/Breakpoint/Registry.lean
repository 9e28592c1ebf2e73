import RemoteDebugger.Breakpoint.Basic

/-!
# The registry of breakpoints

The breakpoints that the user has asked for, each key once, in increasing order of their keys. It
outlives connections and is pushed to every agent that starts.
-/

namespace RemoteDebugger

/-- The breakpoints that the user has asked for, in increasing order of their keys. -/
structure Registry where
  entries : List Breakpoint := []
deriving DecidableEq, Repr

namespace Registry

/-- All breakpoints, by file and line. -/
def all (r : Registry) : List Breakpoint := r.entries

def size (r : Registry) : Nat := r.entries.length

def find? (r : Registry) (k : Breakpoint.Key) : Option Breakpoint := r.entries.find? (·.key == k)

def contains (r : Registry) (k : Breakpoint.Key) : Bool := (r.find? k).isSome

/-- `bs` with `b` at its place, instead of the one with the same key. -/
def insertInto (b : Breakpoint) : List Breakpoint → List Breakpoint
  | []      => [b]
  | c :: cs =>
    if b.key.before c.key then b :: c :: cs
    else if b.key = c.key then b :: cs
    else c :: insertInto b cs

/-- The registry with a breakpoint put in. One with the same key gives way to it. -/
def insert (r : Registry) (b : Breakpoint) : Registry := ⟨insertInto b r.entries⟩

/-- The registry with a breakpoint put in, and whether there was none with the same key. -/
def add (r : Registry) (b : Breakpoint) : Registry × Bool := (r.insert b, !r.contains b.key)

def erase (r : Registry) (k : Breakpoint.Key) : Registry := ⟨r.entries.filter (·.key != k)⟩

/-- The breakpoint with a key and the registry without it. -/
def remove? (r : Registry) (k : Breakpoint.Key) : Option (Breakpoint × Registry) :=
  (r.find? k).map fun b => (b, r.erase k)

/-- The breakpoints on a file, by line, and the registry without them. -/
def removeFile (r : Registry) (file : String) : List Breakpoint × Registry :=
  (r.entries.filter (·.file == file), ⟨r.entries.filter (·.file != file)⟩)

end Registry

end RemoteDebugger
