import Mathlib.Logic.Function.Basic
import RemoteDebugger.Proofs.Breakpoint.Registry
import RemoteDebugger.Proofs.Session.Chronicle

/-!
# The breakpoints of a session

The registry of a session depends on nothing but the operations on breakpoints that its user has
begun, whatever the agent sends and whatever becomes of them.
-/

namespace RemoteDebugger

/-- Whether an operation is one on breakpoints. Running to a line is none. -/
def Operation.edits : Operation → Bool
  | .setBreakpoint _ | .clearBreakpoint _ | .clearFile _ => true
  | _                                                    => false

/-- The breakpoints that a user wants after one more operation, by their keys. A temporary one is
not wanted for longer. -/
def wish (directory : String) (wanted : Breakpoint.Key → Option Breakpoint) :
    Operation → Breakpoint.Key → Option Breakpoint
  | .setBreakpoint b   => if b.temporary then wanted else Function.update wanted b.key (some b)
  | .clearBreakpoint b => Function.update wanted b.key none
  | .clearFile file    => fun k => if k.file = FileName.canonical directory file
      then none else wanted k
  | _                  => wanted

/-- The breakpoints that a user wants after some operations, by their keys. -/
def wanted (directory : String) (operations : List Operation) :
    Breakpoint.Key → Option Breakpoint :=
  operations.foldl (wish directory) fun _ => none

/-- Only edits change what is wanted. -/
lemma wanted_filter_edits (directory : String) (operations : List Operation) :
    wanted directory (operations.filter Operation.edits) = wanted directory operations := by
  have hwish : (fun w o => if Operation.edits o then wish directory w o else w)
      = wish directory := by
    funext w o
    cases o <;> rfl
  rw [wanted, List.foldl_filter, hwish]
  rfl

namespace Registry

variable {r : Registry} {directory : String}

/-- What an operation asks for is what is found after it was noted. -/
lemma find?_note (r : Registry) (directory : String) (operation : Operation) :
    (r.note directory operation).find? = wish directory r.find? operation := by
  cases operation with
  | setBreakpoint b =>
    rw [note, wish]
    split_ifs
    · rfl
    · funext k
      rw [find?_insert, Function.update_apply]
      exact if_congr eq_comm rfl rfl
  | clearBreakpoint b =>
    funext k
    rw [wish, Function.update_apply]
    exact find?_erase r b.key k
  | clearFile file =>
    funext k
    exact find?_removeFile r _ k
  | _ => rfl

/-- The breakpoints are in order, and none is temporary. -/
structure Tidy (r : Registry) : Prop where
  sorted : r.IsSorted
  lasting : ∀ b ∈ r.entries, b.temporary = false

/-- A registry that is sorted and has no temporary breakpoint stays so. -/
lemma Tidy.note (h : r.Tidy) (operation : Operation) : (r.note directory operation).Tidy := by
  cases operation with
  | setBreakpoint b =>
    rw [Registry.note]
    split_ifs with htemporary
    · exact h
    · refine ⟨h.sorted.insert b, fun c hc => ?_⟩
      rcases mem_insertInto hc with rfl | hc
      · exact Bool.eq_false_iff.mpr htemporary
      · exact h.lasting c hc
  | clearBreakpoint b =>
    exact ⟨h.sorted.erase b.key, fun c hc => h.lasting c (List.mem_of_mem_filter hc)⟩
  | clearFile file =>
    exact ⟨h.sorted.removeFile _, fun c hc => h.lasting c (List.mem_of_mem_filter hc)⟩
  | _ => exact h

/-- A registry that has taken note of operations, one after the other. -/
lemma tidy_foldl_note (operations : List Operation) (h : r.Tidy) :
    (operations.foldl (note directory) r).Tidy ∧
      (operations.foldl (note directory) r).find?
        = operations.foldl (wish directory) r.find? := by
  induction operations generalizing r with
  | nil => exact ⟨h, rfl⟩
  | cons operation operations ih =>
    rw [List.foldl_cons, List.foldl_cons, ← find?_note]
    exact ih (h.note operation)

end Registry

namespace Engine

/-- The operations that were begun over a run. -/
def begun (e : Engine) : List (Network × Input) → List Operation
  | []      => []
  | i :: is => (e.begun? i.2).toList ++ (e.step i.1 i.2).1.begun is

/-- The registry has taken note of the operations that were begun, and of nothing else. -/
lemma breakpoints_run (e : Engine) (run : List (Network × Input)) :
    (e.run run).1.session.breakpoints
    = (e.begun run).foldl (Registry.note e.session.config.directory) e.session.breakpoints := by
  induction run generalizing e with
  | nil => rfl
  | cons i is ih =>
    have hstep := undergoes_step e i.1 i.2
    have hrest := ih (e.step i.1 i.2).1
    rw [hstep.config, hstep.breakpoints] at hrest
    rw [begun, List.foldl_append]
    exact hrest

/-- The breakpoints of a session are those that the operations begun by its user ask for, in the
order of their keys, and none is temporary. Sessions whose users have begun the same operations
on breakpoints have the same, whatever else happened. -/
theorem breakpoints_as_wanted (config : SessionConfig) (run : List (Network × Input)) :
    let r := (Engine.run { session := { config } } run).1.session.breakpoints
    let operations := Engine.begun { session := { config } } run
    (∀ k, r.find? k = wanted config.directory operations k) ∧
      r.all.Pairwise Breakpoint.Precedes ∧
      (∀ b ∈ r.all, b.temporary = false) ∧
      ∀ (config' : SessionConfig) (run' : List (Network × Input)),
        config'.directory = config.directory →
        (Engine.begun { session := { config := config' } } run').filter Operation.edits
          = operations.filter Operation.edits →
        (Engine.run { session := { config := config' } } run').1.session.breakpoints = r := by
  have hrun : ∀ (config : SessionConfig) (run : List (Network × Input)),
      (Engine.run { session := { config } } run).1.session.breakpoints.Tidy ∧
        (Engine.run { session := { config } } run).1.session.breakpoints.find?
          = wanted config.directory (Engine.begun { session := { config } } run) := by
    intro config run
    rw [breakpoints_run]
    exact Registry.tidy_foldl_note _ ⟨List.Pairwise.nil, fun _ h => nomatch h⟩
  intro r operations
  obtain ⟨htidy, hfind⟩ := hrun config run
  refine ⟨fun k => congrFun hfind k, htidy.sorted, htidy.lasting, ?_⟩
  intro config' run' hdirectory hedits
  obtain ⟨htidy', hfind'⟩ := hrun config' run'
  -- sorted registries that find the same are the same
  refine htidy'.sorted.ext htidy.sorted fun k => ?_
  rw [hfind', hfind, hdirectory, ← wanted_filter_edits, hedits, wanted_filter_edits]

/-- Breakpoints set without a connection. -/
def offline : List (Network × Input) :=
  [(Network.nowhere, .start (.setBreakpoint (.build "/" "/b.py" (some 3)))),
    (Network.nowhere, .start (.setBreakpoint (.build "/" "a.py" (some 7)))),
    (Network.nowhere, .start (.setBreakpoint (.build "/" "/c.py" (some 1) true)))]

/-- The same breakpoints, the first of them set on a program that goes away. -/
def goingAway : List (Network × Input) :=
  [(fun _ _ => .ok (), .start (.attach {})),
    (Network.nowhere, .start (.setBreakpoint (.build "/" "/b.py" (some 3)))),
    (Network.nowhere, .endOfStream), (Network.nowhere, .wake),
    (Network.nowhere, .start (.setBreakpoint (.build "/" "a.py" (some 7)))),
    (Network.nowhere, .start (.setBreakpoint (.build "/" "/c.py" (some 1) true)))]

/-- The two that last are noted in order, and they are the same if the program goes away
meanwhile. -/
theorem breakpoints_as_wanted_going_away :
    (Engine.run { session := { config := {} } } offline).1.session.breakpoints.all
        = [.build "/" "/a.py" (some 7), .build "/" "/b.py" (some 3)] ∧
      (Breakpoint.build "/" "/b.py" (some 3)).temporary = false ∧
      (Engine.run { session := { config := {} } } goingAway).1.session.breakpoints
        = (Engine.run { session := { config := {} } } offline).1.session.breakpoints := by
  obtain ⟨-, -, hlasting, hsame⟩ := breakpoints_as_wanted {} offline
  refine ⟨?_, ?_, ?_⟩
  · decide +kernel
  · apply hlasting
    decide +kernel
  · exact hsame {} goingAway rfl rfl

end Engine

end RemoteDebugger
