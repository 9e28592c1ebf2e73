import RemoteDebugger.Handshake.Dialogue
import RemoteDebugger.Proofs.Wire.Frame

/-!
# Two ends at once

Two dialogues are held with each other over a connection that loses nothing and keeps the order,
each end at its own pace. In whatever order the ends take their turns, the exchange comes to the
same end after the same number of turns.
-/

namespace RemoteDebugger

/-- Two ends of a connection, and the bytes under way to each of them. -/
structure Exchange where
  first    : Dialogue
  second   : Dialogue
  toFirst  : Bytes := []
  toSecond : Bytes := []

/-- Whether an end failed, and so has closed the connection. -/
def Dialogue.failed : Dialogue → Bool
  | .done (.error _) => true
  | _                => false

namespace Exchange

open Dialogue

variable {x y z last : Exchange}

/-! ### Turns -/

/-- The exchange seen from the other end. -/
def swap (x : Exchange) : Exchange := ⟨x.second, x.first, x.toSecond, x.toFirst⟩

/-- The exchange after a turn of the first end, unless that end is done or has to wait: for the
rest of a frame, or for the other end to send something or to fail. -/
def advance (x : Exchange) : Option Exchange :=
  match x.first with
  | .done _       => none
  | .send m next  => some { x with first := next, toSecond := x.toSecond ++ Frame.encode m }
  | .receive next =>
    match Frame.head maxMessage x.toFirst with
    | .frame m rest    => some { x with first := next m, toFirst := rest }
    | .rejected f rest => some { x with first := .done (.error (.wire f)), toFirst := rest }
    | .incomplete      =>
      if x.second.failed
        then some { x with first := .done (.error (.wire .endOfStream)), toFirst := [] }
      else none

/-- One of the ends takes a turn. -/
inductive Turn (x : Exchange) : Exchange → Prop
  | first {y : Exchange} (h : x.advance = some y) : Turn x y
  | second {y : Exchange} (h : x.swap.advance = some y) : Turn x y.swap

/-- Neither end can take a turn. -/
def IsOver (x : Exchange) : Prop := ∀ y, ¬ Turn x y

/-- A number of turns, one after the other. -/
inductive Turns : Nat → Exchange → Exchange → Prop
  | refl (x : Exchange) : Turns 0 x x
  | head {n : Nat} {x y z : Exchange} (h : Turn x y) (h' : Turns n y z) : Turns (n + 1) x z

/-! ### Whose turn it is does not matter -/

lemma advance_of_done {r : Except AuthError Unit} (h : x.first = .done r) :
    x.advance = none := by
  rw [advance, h]

lemma failed_of_advance (h : x.advance = some y) : x.first.failed = false := by
  cases hx : x.first with
  | done r =>
    rw [advance_of_done hx] at h
    cases h
  | _ => rfl

/-- A turn of an end depends on nothing but the bytes that it has taken in, as long as the other
end has not failed. -/
lemma advance_local (h : x.advance = some y) (hstands : x.second.failed = false) :
    ∃ out, y = ⟨y.first, x.second, y.toFirst, x.toSecond ++ out⟩ ∧
      ∀ peer more toPeer, advance ⟨x.first, peer, x.toFirst ++ more, toPeer⟩
        = some ⟨y.first, peer, y.toFirst ++ more, toPeer ++ out⟩ := by
  obtain ⟨a, b, toA, toB⟩ := x
  dsimp only at hstands ⊢
  rw [advance] at h
  dsimp only at h
  cases a with
  | done r => cases h
  | send m next =>
    cases h
    exact ⟨Frame.encode m, rfl, fun _ _ _ => rfl⟩
  | receive next =>
    dsimp only at h
    cases hh : Frame.head maxMessage toA with
    -- what more comes does not matter to a head that is there
    | frame m rest =>
      rw [hh] at h
      cases h
      refine ⟨[], by rw [List.append_nil], fun peer more toPeer => ?_⟩
      rw [advance, Frame.head_append (by simp [hh]), hh, List.append_nil]
      rfl
    | rejected f rest =>
      rw [hh] at h
      cases h
      refine ⟨[], by rw [List.append_nil], fun peer more toPeer => ?_⟩
      rw [advance, Frame.head_append (by simp [hh]), hh, List.append_nil]
      rfl
    -- the other end stands, so its stream is not at an end
    | incomplete =>
      rw [hh] at h
      dsimp only at h
      rw [hstands] at h
      cases h

/-- If both ends can take a turn, each of them still can after the turn of the other, with the
same effect. -/
lemma advance_comm (hy : x.advance = some y) (hz : x.swap.advance = some z) :
    ∃ w, y.swap.advance = some w ∧ z.swap.advance = some w.swap := by
  obtain ⟨out, heq, hfirst⟩ := advance_local hy (failed_of_advance hz)
  obtain ⟨out', heq', hsecond⟩ := advance_local hz (failed_of_advance hy)
  refine ⟨⟨z.first, y.first, z.toFirst ++ out, y.toFirst ++ out'⟩, ?_, ?_⟩
  · rw [heq]
    exact hsecond y.first out y.toFirst
  · rw [heq']
    exact hfirst z.first out' z.toFirst

/-- Two turns that are possible at once can be taken in either order. -/
lemma Turn.diamond (hy : Turn x y) (hz : Turn x z) : y = z ∨ ∃ w, Turn y w ∧ Turn z w := by
  cases hy with
  | first hy =>
    cases hz with
    | first hz => exact .inl (Option.some.inj (hy.symm.trans hz))
    | second hz =>
      obtain ⟨w, hw, hw'⟩ := advance_comm hy hz
      exact .inr ⟨w.swap, .second hw, .first hw'⟩
  | second hy =>
    cases hz with
    | first hz =>
      obtain ⟨w, hw, hw'⟩ := advance_comm hz hy
      exact .inr ⟨w.swap, .first hw', .second hw⟩
    | second hz => exact .inl (congrArg swap (Option.some.inj (hy.symm.trans hz)))

/-- What leads to the end after some turns still does after any first one. -/
lemma Turns.of_turn {n : Nat} (h : Turns n x last) (hover : last.IsOver) (hy : Turn x y) :
    ∃ m, n = m + 1 ∧ Turns m y last := by
  induction h generalizing y with
  | refl x => exact absurd hy (hover y)
  | @head n x x' last hx' hrest ih =>
    refine ⟨n, rfl, ?_⟩
    rcases hx'.diamond hy with rfl | ⟨w, hw, hw'⟩
    · exact hrest
    · obtain ⟨m, rfl, hlast⟩ := ih hover hw
      exact .head hw' hlast

/-- However an exchange goes, it comes to the same end after the same number of turns. -/
lemma Turns.converge {n k : Nat} (h : Turns n x last) (hover : last.IsOver) (h' : Turns k x y) :
    ∃ m, n = k + m ∧ Turns m y last := by
  induction h' generalizing n with
  | refl x => exact ⟨n, (Nat.zero_add n).symm, h⟩
  | @head k x x' y hx' _ ih =>
    obtain ⟨m, rfl, hlast⟩ := h.of_turn hover hx'
    obtain ⟨l, rfl, hy⟩ := ih hlast
    exact ⟨l, Nat.add_right_comm k l 1, hy⟩

/-- Nothing comes after an exchange that is over. -/
lemma Turns.eq_of_isOver {n : Nat} (h : Turns n x y) (hover : x.IsOver) : x = y := by
  cases h with
  | refl => rfl
  | head hturn _ => exact absurd hturn (hover _)

lemma Turns.eq_of_zero (h : Turns 0 x y) : x = y := by
  cases h
  rfl

lemma Turns.trans {n k : Nat} (h : Turns n x y) (h' : Turns k y z) : Turns (n + k) x z := by
  induction h with
  | refl x => rwa [Nat.zero_add]
  | @head n x x' y hturn _ ih =>
    rw [Nat.add_right_comm]
    exact .head hturn (ih h')

lemma Turn.swap (h : Turn x y) : Turn x.swap y.swap := by
  cases h with
  | first h => exact .second h
  | second h => exact .first h

/-- The ends may change places. -/
lemma Turns.swap {n : Nat} (h : Turns n x y) : Turns n x.swap y.swap := by
  induction h with
  | refl x => exact .refl _
  | head hturn _ ih => exact .head hturn.swap ih

/-- Once both ends are done, the exchange is over. -/
lemma isOver_of_done {r r' : Except AuthError Unit} (h : x.first = .done r)
    (h' : x.second = .done r') :
    x.IsOver := by
  intro y hturn
  cases hturn with
  | first hy =>
    rw [advance_of_done h] at hy
    cases hy
  | second hy =>
    rw [advance_of_done (x := x.swap) h'] at hy
    cases hy

/-- Whatever the order of the turns, there are not too many of them, the exchange can go on to
`last`, and once neither end can take a turn, it is there. -/
def ComesTo (x last : Exchange) : Prop :=
  ∃ n, ∀ k y, Turns k x y → k ≤ n ∧ (∃ m, Turns m y last) ∧ (y.IsOver → y = last)

/-- An exchange that can end in a state ends in no other one. -/
lemma Turns.comesTo {n : Nat} (h : Turns n x last) (hover : last.IsOver) : x.ComesTo last := by
  refine ⟨n, fun k y hy => ?_⟩
  obtain ⟨m, rfl, hrest⟩ := h.converge hover hy
  exact ⟨Nat.le_add_right k m, ⟨m, hrest⟩, hrest.eq_of_isOver⟩

end Exchange

/-! ### One order of the turns -/

namespace Dialogue

open Exchange

variable {a b : Dialogue} {toA toB : List Bytes}

/-- No message is longer than what an end takes in. -/
def IsBrief : Dialogue → Prop
  | .done _       => True
  | .send m next  => m.length ≤ maxMessage ∧ next.IsBrief
  | .receive next => ∀ m, (next m).IsBrief

/-- An end has nothing to do with the messages under way to it. -/
def Waits : Dialogue → List Bytes → Prop
  | .done _,    _  => True
  | .send _ _,  _  => False
  | .receive _, ms => ms = []

/-- Two ends, and the frames of the messages under way to each. -/
def exchange (a b : Dialogue) (toA toB : List Bytes) : Exchange :=
  ⟨a, b, toA.flatMap Frame.encode, toB.flatMap Frame.encode⟩

lemma turn_send (m : Bytes) (a b : Dialogue) (toA toB : List Bytes) :
    Turn (exchange (.send m a) b toA toB) (exchange a b toA (toB ++ [m])) := by
  apply Turn.first
  rw [exchange, advance, exchange, List.flatMap_append, List.flatMap_singleton]

lemma turn_receive {m : Bytes} (hm : m.length ≤ maxMessage) (next : Bytes → Dialogue)
    (b : Dialogue) (toA toB : List Bytes) :
    Turn (exchange (.receive next) b (m :: toA) toB) (exchange (next m) b toA toB) := by
  apply Turn.first
  have hsize : m.length < 2 ^ 64 := Nat.lt_of_le_of_lt hm (by decide)
  rw [exchange, advance, List.flatMap_cons]
  dsimp only
  rw [Frame.head_encode hsize hm]
  rfl

lemma turn_send_back (m : Bytes) (a b : Dialogue) (toA toB : List Bytes) :
    Turn (exchange a (.send m b) toA toB) (exchange a b (toA ++ [m]) toB) :=
  (turn_send m b a toB toA).swap

lemma turn_receive_back {m : Bytes} (hm : m.length ≤ maxMessage) (next : Bytes → Dialogue)
    (a : Dialogue) (toA toB : List Bytes) :
    Turn (exchange a (.receive next) toA (m :: toB)) (exchange a (next m) toA toB) :=
  (turn_receive hm next a toB toA).swap

/-- While one end waits it is the turn of the other one. -/
lemma meetFor_of_waits (h : a.Waits toA) (n : Nat) :
    meetFor (n + 1) a b toA toB = match b, toB with
    | .send m b, toB       => meetFor n a b (toA ++ [m]) toB
    | .receive k, m :: toB => meetFor n a (accept k m) toA toB
    | b, toB               => ⟨a.settle b, b.settle a, toA, toB⟩ := by
  cases a with
  | done r => cases b <;> cases toB <;> rfl
  | send m next => exact h.elim
  | receive next =>
    obtain rfl : toA = [] := h
    cases b <;> cases toB <;> rfl

lemma accept_of_brief {m : Bytes} (hm : m.length ≤ maxMessage) (next : Bytes → Dialogue) :
    accept next m = next m := if_neg (Nat.not_lt_of_le hm)

/-- Two dialogues that are held for a number of steps take turns, fewer of them only if both
wait. -/
lemma turns_meetFor (n : Nat) (ha : a.IsBrief) (hb : b.IsBrief)
    (htoA : ∀ m ∈ toA, m.length ≤ maxMessage) (htoB : ∀ m ∈ toB, m.length ≤ maxMessage) :
    ∃ k a' b' toA' toB', k ≤ n ∧ Turns k (exchange a b toA toB) (exchange a' b' toA' toB') ∧
      meetFor n a b toA toB = ⟨a'.settle b', b'.settle a', toA', toB'⟩ ∧
      (k < n → a'.Waits toA' ∧ b'.Waits toB') := by
  -- what comes of the steps that follow a turn
  have hafter : ∀ {n : Nat} {x : Exchange} {r : Meeting} {a₁ b₁ : Dialogue}
      {toA₁ toB₁ : List Bytes},
      Turn x (exchange a₁ b₁ toA₁ toB₁) →
      (∃ k a' b' toA' toB', k ≤ n ∧
        Turns k (exchange a₁ b₁ toA₁ toB₁) (exchange a' b' toA' toB') ∧
        r = ⟨a'.settle b', b'.settle a', toA', toB'⟩ ∧ (k < n → a'.Waits toA' ∧ b'.Waits toB')) →
      ∃ k a' b' toA' toB', k ≤ n + 1 ∧ Turns k x (exchange a' b' toA' toB') ∧
        r = ⟨a'.settle b', b'.settle a', toA', toB'⟩ ∧
          (k < n + 1 → a'.Waits toA' ∧ b'.Waits toB') := by
    rintro n x r a₁ b₁ toA₁ toB₁ hturn ⟨k, a', b', toA', toB', hk, hturns, hr, hwaits⟩
    exact ⟨k + 1, a', b', toA', toB', Nat.succ_le_succ hk, .head hturn hturns, hr,
      fun hlt => hwaits (Nat.lt_of_succ_lt_succ hlt)⟩
  induction n generalizing a b toA toB with
  | zero =>
    exact ⟨0, a, b, toA, toB, Nat.le_refl 0, .refl _, rfl, fun h => absurd h (Nat.lt_irrefl 0)⟩
  | succ n ih =>
    -- the induction is on the steps: each is a turn of the first end, or of the second while it
    -- waits
    by_cases hwaits : a.Waits toA
    · rw [meetFor_of_waits hwaits]
      cases b with
      | done r =>
        exact ⟨0, a, .done r, toA, toB, Nat.zero_le _, .refl _, rfl, fun _ => ⟨hwaits, trivial⟩⟩
      | send m next =>
        have hmore : ∀ m' ∈ toA ++ [m], m'.length ≤ maxMessage := by
          intro m' hm'
          rcases List.mem_append.mp hm' with hm' | hm'
          · exact htoA m' hm'
          · exact List.mem_singleton.mp hm' ▸ hb.1
        exact hafter (turn_send_back m a next toA toB) (ih ha hb.2 hmore htoB)
      | receive next =>
        cases toB with
        | nil =>
          exact ⟨0, a, .receive next, toA, [], Nat.zero_le _, .refl _, rfl, fun _ =>
            ⟨hwaits, rfl⟩⟩
        | cons m toB =>
          obtain ⟨hm, htoB⟩ := List.forall_mem_cons.mp htoB
          dsimp only
          rw [accept_of_brief hm]
          exact hafter (turn_receive_back hm next a toA toB) (ih ha (hb m) htoA htoB)
    · cases a with
      | done r => exact absurd trivial hwaits
      | send m next =>
        have hmore : ∀ m' ∈ toB ++ [m], m'.length ≤ maxMessage := by
          intro m' hm'
          rcases List.mem_append.mp hm' with hm' | hm'
          · exact htoB m' hm'
          · exact List.mem_singleton.mp hm' ▸ ha.1
        exact hafter (turn_send m next b toA toB) (ih ha.2 hb htoA hmore)
      | receive next =>
        cases toA with
        | nil => exact absurd rfl hwaits
        | cons m toA =>
          obtain ⟨hm, htoA⟩ := List.forall_mem_cons.mp htoA
          rw [meetFor, accept_of_brief hm]
          exact hafter (turn_receive hm next b toA toB) (ih (ha m) hb htoA htoB)

/-- An end that waits takes no turn, unless the other one has failed. -/
lemma advance_of_waits (h : a.Waits toA) (hstands : b.failed = false) :
    (exchange a b toA toB).advance = none := by
  cases a with
  | done r => rfl
  | send m next => exact h.elim
  | receive next =>
    obtain rfl : toA = [] := h
    exact if_neg (Bool.eq_false_iff.mp hstands)

/-- If an exchange ends without the end of a stream, an end that waits for good is done. -/
lemma done_of_waits {m : Nat} {last : Exchange} {r r' : Except AuthError Unit}
    (h : Turns m (exchange a b toA toB) last) (ha : a.Waits toA) (hb : b.Waits toB)
    (hlast : last.first = .done r) (hlast' : last.second = .done r')
    (hr : r ≠ .error (.wire .endOfStream)) : ∃ r, a = .done r := by
  have hover : last.IsOver := isOver_of_done hlast hlast'
  cases a with
  | done r => exact ⟨r, rfl⟩
  | send m next => exact ha.elim
  | receive next =>
    obtain rfl : toA = [] := ha
    exfalso
    cases hfailed : b.failed with
    | true =>
      -- the end of the stream would be the end of the exchange
      obtain ⟨e, rfl⟩ : ∃ e, b = .done (.error e) := by
        cases b with
        | done r =>
          cases r with
          | ok v => cases hfailed
          | error e => exact ⟨e, rfl⟩
        | _ => cases hfailed
      have hturn : Turn (exchange (.receive next) (.done (.error e)) [] toB)
          ⟨.done (.error (.wire .endOfStream)), .done (.error e), [],
            toB.flatMap Frame.encode⟩ := .first rfl
      obtain ⟨k, -, hrest⟩ := h.converge hover (.head hturn (.refl _))
      rw [← hrest.eq_of_isOver (isOver_of_done rfl rfl)] at hlast
      exact hr (Dialogue.done.inj hlast).symm
    | false =>
      -- both wait for each other, so the exchange is over already
      have hstuck : (exchange (.receive next) b [] toB).IsOver := by
        intro y hturn
        cases hturn with
        | first hy => cases (advance_of_waits (a := .receive next) rfl hfailed).symm.trans hy
        | second hy => cases (advance_of_waits (b := .receive next) hb rfl).symm.trans hy
      rw [← h.eq_of_isOver hstuck] at hlast
      cases hlast

/-- What the two ends come to when they are held long enough. -/
lemma meetFor_eq {N n : Nat} {last : Exchange} {r r' : Except AuthError Unit}
    (h : Turns N (exchange a b [] []) last) (ha : a.IsBrief) (hb : b.IsBrief) (hN : N ≤ n)
    (hlast : last = exchange (.done r) (.done r') [] []) (hr : r ≠ .error (.wire .endOfStream))
    (hr' : r' ≠ .error (.wire .endOfStream)) :
    meetFor n a b [] [] = ⟨some r, some r', [], []⟩ := by
  subst hlast
  have hover : (exchange (.done r) (.done r') [] []).IsOver := isOver_of_done rfl rfl
  have hnone : ∀ m ∈ ([] : List Bytes), m.length ≤ maxMessage := List.forall_mem_nil _
  obtain ⟨k, a', b', toA, toB, hk, hturns, hmeet, hwaits⟩ := turns_meetFor n ha hb hnone hnone
  obtain ⟨m, rfl, hrest⟩ := h.converge hover hturns
  -- the steps were enough, for both ends are done or there were as many as turns
  have hsame : exchange a' b' toA toB = exchange (.done r) (.done r') [] [] := by
    rcases Nat.lt_or_ge k n with hlt | hge
    · obtain ⟨hwa, hwb⟩ := hwaits hlt
      obtain ⟨q, rfl⟩ := done_of_waits hrest hwa hwb rfl rfl hr
      obtain ⟨q', rfl⟩ := done_of_waits hrest.swap hwb hwa rfl rfl hr'
      exact hrest.eq_of_isOver (isOver_of_done rfl rfl)
    · obtain rfl : m = 0 := by omega
      exact hrest.eq_of_zero
  have hnil : ∀ {ms : List Bytes}, ms.flatMap Frame.encode = [] → ms = [] := by
    intro ms hms
    cases ms with
    | nil => rfl
    | cons m ms => exact absurd (List.append_eq_nil_iff.mp hms).1 (Frame.encode_ne_nil m)
  rw [exchange, exchange, Exchange.mk.injEq] at hsame
  obtain ⟨rfl, rfl, htoA, htoB⟩ := hsame
  rw [hmeet, hnil htoA, hnil htoB]
  rfl

end Dialogue

end RemoteDebugger
