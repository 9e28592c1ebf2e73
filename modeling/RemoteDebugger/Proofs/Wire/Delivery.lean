import Mathlib.Tactic.Common
import RemoteDebugger.Proofs.Wire.Frame

/-!
# Delivery through a sink of limited size

Frames are written to a sink one after the other, whether or not the ones before did fit. The
sink then holds the beginning of all frames in a row, and who reads it receives the payloads that
were written as a whole, in order, and after them nothing but the end of the stream. Where the
sink was cut does not matter.
-/

namespace RemoteDebugger

namespace Sink

/-! ### Writing -/

@[simp] lemma capacity_write (s : Sink) (bs : Bytes) :
    (s.write bs).1.capacity = s.capacity := rfl

@[simp] lemma contents_write (s : Sink) (bs : Bytes) :
    (s.write bs).1.contents = s.contents ++ bs.take (s.capacity - s.contents.length) := rfl

lemma write_of_fits {s : Sink} {bs : Bytes} (h : bs.length ≤ s.capacity - s.contents.length) :
    s.write bs = ({ s with contents := s.contents ++ bs }, .ok ()) := by
  simp [write, h, List.take_of_length_le h]

/-- Of what does not fit only the beginning is written. -/
lemma write_of_not_fits {s : Sink} {bs : Bytes}
    (h : ¬ bs.length ≤ s.capacity - s.contents.length) :
    s.write bs =
      ({ s with contents := s.contents ++ bs.take (s.capacity - s.contents.length) },
        .error .sinkFull) := by
  simp [write, h]

/-- Pieces written until one does not fit leave what one write of all of them leaves. -/
lemma writeAll_eq_write (s : Sink) (bss : List Bytes) :
    s.writeAll bss = s.write bss.flatten := by
  induction bss generalizing s with
  | nil => simp [writeAll, write]
  | cons bs bss ih =>
    rw [writeAll, List.flatten_cons]
    by_cases h : bs.length ≤ s.capacity - s.contents.length
    · have hroom : s.capacity - (s.contents.length + bs.length)
          = s.capacity - s.contents.length - bs.length := by omega
      have hfit : bss.flatten.length ≤ s.capacity - s.contents.length - bs.length
          ↔ bs.length + bss.flatten.length ≤ s.capacity - s.contents.length := by omega
      rw [write_of_fits h]
      simp only [ih, write, List.length_append, hroom, List.append_assoc, List.take_append,
        List.take_of_length_le h, hfit]
    · have hall : ¬ (bs ++ bss.flatten).length ≤ s.capacity - s.contents.length := by
        rw [List.length_append]
        omega
      rw [write_of_not_fits h, write_of_not_fits hall,
        List.take_append_of_le_length (by omega)]

lemma send_eq_write (s : Sink) (p : Bytes) : s.send p = s.write (Frame.encode p) := by
  rw [send, writeAll_eq_write, Frame.flatten_pieces]

/-! ### Frames in a row -/

lemma sendAll_cons (s : Sink) (p : Bytes) (ps : List Bytes) :
    s.sendAll (p :: ps) =
      (((s.send p).1.sendAll ps).1, (s.send p).2 :: ((s.send p).1.sendAll ps).2) := rfl

/-- The sink holds as much of all frames in a row as fits. -/
lemma contents_sendAll (s : Sink) (ps : List Bytes) :
    (s.sendAll ps).1.contents
      = s.contents ++ (ps.flatMap Frame.encode).take (s.capacity - s.contents.length) := by
  induction ps generalizing s with
  | nil => simp [sendAll]
  | cons p ps ih =>
    rw [sendAll_cons, ih, send_eq_write, capacity_write, contents_write, List.flatMap_cons,
      List.take_append, List.append_assoc, List.length_append, List.length_take]
    congr 3
    omega

/-- A frame did fit if all frames up to it did. -/
lemma results_sendAll {s : Sink} (h : s.contents.length ≤ s.capacity) (ps : List Bytes) :
    (s.sendAll ps).2 = (List.range ps.length).map fun i =>
      if s.contents.length + ((ps.take (i + 1)).flatMap Frame.encode).length ≤ s.capacity
        then .ok () else .error .sinkFull := by
  induction ps generalizing s with
  | nil => rfl
  | cons p ps ih =>
    have hpos : 0 < (Frame.encode p).length := List.length_pos_iff.mpr (Frame.encode_ne_nil p)
    rw [sendAll_cons, List.length_cons, List.range_succ_eq_map, List.map_cons, List.map_map,
      send_eq_write]
    by_cases hfit : (Frame.encode p).length ≤ s.capacity - s.contents.length
    · rw [write_of_fits hfit, ih (by simp only [List.length_append]; omega)]
      simp only [List.length_append, List.take_succ_cons, List.take_zero, List.flatMap_cons,
        List.flatMap_nil, List.append_nil, Function.comp_def, Nat.succ_eq_add_one, Nat.add_assoc]
      rw [if_pos (by omega)]
    · rw [write_of_not_fits hfit,
        ih (by simp only [List.length_append, List.length_take]; omega)]
      simp only [List.length_append, List.length_take, List.take_succ_cons, List.take_zero,
        List.flatMap_cons, List.flatMap_nil, List.append_nil, Function.comp_def,
        Nat.succ_eq_add_one]
      rw [if_neg (by omega)]
      congr 1
      apply List.map_congr_left
      intro i hi
      -- the sink is full, and every frame takes some bytes
      have hnext : 0 < ((ps.take (i + 1)).flatMap Frame.encode).length := by
        cases ps with
        | nil => simp at hi
        | cons q qs =>
          have := List.length_pos_iff.mpr (Frame.encode_ne_nil q)
          rw [List.take_succ_cons, List.flatMap_cons, List.length_append]
          omega
      rw [if_neg (by omega), if_neg (by omega)]

/-- What is left of the first of some frames that did not fit, less than the whole of it. -/
def IsTorn (torn : Bytes) : List Bytes → Prop
  | []     => torn = []
  | p :: _ => ∃ lost, lost ≠ [] ∧ Frame.encode p = torn ++ lost

/-- After a frame that did not fit no other one does. -/
lemma sendAll_of_full {s : Sink} (h : s.contents.length = s.capacity) (ps : List Bytes) :
    s.sendAll ps = (s, ps.map fun _ => .error .sinkFull) := by
  induction ps with
  | nil => rfl
  | cons p ps ih =>
    have hpos : 0 < (Frame.encode p).length := List.length_pos_iff.mpr (Frame.encode_ne_nil p)
    have hfull : s.write (Frame.encode p) = (s, .error .sinkFull) := by
      rw [write_of_not_fits (by omega), h]
      simp
    simp [sendAll_cons, send_eq_write, hfull, ih]

/-- The frames that did fit come before all others, and of these only a part of the first is
kept. -/
lemma sendAll_split {s : Sink} (h : s.contents.length ≤ s.capacity) (ps : List Bytes) :
    ∃ whole left torn, ps = whole ++ left ∧ IsTorn torn left ∧
      (s.sendAll ps).1.contents = s.contents ++ (whole.flatMap Frame.encode ++ torn) ∧
      (s.sendAll ps).2 = (whole.map fun _ => .ok ()) ++ left.map fun _ => .error .sinkFull := by
  induction ps generalizing s with
  | nil => exact ⟨[], [], [], rfl, rfl, by simp [sendAll], rfl⟩
  | cons p ps ih =>
    rw [sendAll_cons, send_eq_write]
    by_cases hfit : (Frame.encode p).length ≤ s.capacity - s.contents.length
    · rw [write_of_fits hfit]
      obtain ⟨whole, left, torn, rfl, htorn, hcontents, hresults⟩ :=
        ih (s := { s with contents := s.contents ++ Frame.encode p })
          (by simp only [List.length_append]; omega)
      exact ⟨p :: whole, left, torn, rfl, htorn, by simp [hcontents], by simp [hresults]⟩
    · have hfull : (s.contents ++ (Frame.encode p).take (s.capacity - s.contents.length)).length
          = s.capacity := by
        rw [List.length_append, List.length_take]
        omega
      rw [write_of_not_fits hfit, sendAll_of_full hfull]
      refine ⟨[], p :: ps, (Frame.encode p).take (s.capacity - s.contents.length), rfl,
        ⟨(Frame.encode p).drop (s.capacity - s.contents.length), ?_, ?_⟩, by simp, by simp⟩
      · rw [ne_eq, List.drop_eq_nil_iff]
        exact hfit
      · exact (List.take_append_drop _ _).symm

/-- The payloads for which a sink said that they were written. -/
def accepted (payloads : List Bytes) (results : List (Except Fault Unit)) : List Bytes :=
  ((payloads.zip results).filter (·.2.isOk)).map Prod.fst

/-- The payloads that are accepted are those that did fit. -/
lemma accepted_of_split (whole left : List Bytes) :
    accepted (whole ++ left)
      ((whole.map fun _ => .ok ()) ++ left.map fun _ => .error Fault.sinkFull) = whole := by
  induction whole with
  | nil =>
    induction left with
    | nil => rfl
    | cons p ps ih => simpa [accepted, Except.isOk, Except.toBool] using ih
  | cons p ps ih =>
    simp only [accepted, List.cons_append, List.map_cons, List.zip_cons_cons, Except.isOk,
      Except.toBool, List.filter_cons_of_pos, List.cons.injEq, true_and] at ih ⊢
    exact ih

end Sink

namespace Frame

/-! ### Receiving -/

/-- A frame is received as the payload that it was made of. -/
lemma receive_encode {limit : Nat} {p : Bytes} (hp : p.length < 2 ^ 64) (h : p.length ≤ limit)
    (rest : Bytes) : receive limit (encode p ++ rest) = (.ok p, rest) := by
  rw [receive, head_encode hp h]

/-- A stream that ends within a frame has ended for ever. -/
lemma receiveTimes_of_incomplete {limit : Nat} {s : Bytes} (h : head limit s = .incomplete)
    (n : Nat) :
    receiveTimes limit n s = List.replicate n (.error .endOfStream) := by
  induction n generalizing s with
  | zero => rfl
  | succ n ih =>
    have hr : receive limit s = (.error .endOfStream, []) := by rw [receive, h]
    simp only [receiveTimes, hr, List.replicate_succ, List.cons.injEq, true_and]
    exact ih rfl

/-- Whole frames are received in order, and after them there is what there is without them. -/
lemma receiveTimes_flatMap_encode {limit : Nat} {ps : List Bytes}
    (hps : ∀ p ∈ ps, p.length < 2 ^ 64 ∧ p.length ≤ limit) (n : Nat) (rest : Bytes) :
    receiveTimes limit (ps.length + n) (ps.flatMap encode ++ rest)
      = ps.map .ok ++ receiveTimes limit n rest := by
  induction ps with
  | nil => simp
  | cons p ps ih =>
    obtain ⟨hp, h⟩ := hps p List.mem_cons_self
    have hrest := ih fun q hq => hps q (List.mem_cons_of_mem p hq)
    rw [List.length_cons, Nat.add_right_comm, receiveTimes, List.flatMap_cons, List.append_assoc,
      receive_encode hp h]
    simp only [hrest, List.map_cons, List.cons_append]

/-- What is received from a stream are the payloads of the whole frames that it begins with, and
then a receive fails. -/
lemma receiveTimes_cut (limit : Nat) (s : Bytes) :
    ∃ f, receiveTimes limit ((cut limit s).1.length + 1) s
      = (cut limit s).1.map .ok ++ [.error f] := by
  cases hh : head limit s with
  | frame p rest =>
    obtain ⟨f, hrest⟩ := receiveTimes_cut limit rest
    have hr : receive limit s = (.ok p, rest) := by rw [receive, hh]
    refine ⟨f, ?_⟩
    rw [cut_of_frame hh, List.length_cons, receiveTimes, hr]
    simp only [hrest, List.map_cons, List.cons_append]
  | rejected f rest =>
    have hr : receive limit s = (.error f, rest) := by rw [receive, hh]
    refine ⟨f, ?_⟩
    rw [cut_of_rejected hh, List.length_nil, receiveTimes, hr]
    rfl
  | incomplete =>
    refine ⟨.endOfStream, ?_⟩
    rw [cut_of_incomplete hh]
    exact receiveTimes_of_incomplete hh 1
termination_by s.length
decreasing_by exact length_rest_lt_of_head hh

/-- A part of a frame is no frame. -/
lemma head_of_isTorn {limit : Nat} {torn : Bytes} {ps : List Bytes}
    (hps : ∀ p ∈ ps, p.length < 2 ^ 64 ∧ p.length ≤ limit) (h : Sink.IsTorn torn ps) :
    head limit torn = .incomplete := by
  cases ps with
  | nil =>
    obtain rfl : torn = [] := h
    rfl
  | cons p ps =>
    obtain ⟨lost, hlost, hcut⟩ := h
    obtain ⟨hp, hlimit⟩ := hps p List.mem_cons_self
    exact head_of_torn hp hlimit hcut hlost

end Frame

/-- Frames that are sent to a sink of any capacity succeed as long as they fit in all, the sink
holds the beginning of the stream of all frames, and what is received from it are the payloads
whose sending succeeded, in order, and then for ever the end of the stream. -/
theorem receive_what_was_sent (capacity limit : Nat) (payloads : List Bytes)
    (hsize : ∀ p ∈ payloads, p.length < 2 ^ 64) (hlimit : ∀ p ∈ payloads, p.length ≤ limit) :
    let (sink, results) := Sink.sendAll { capacity } payloads
    results.length = payloads.length ∧
    (∀ i < payloads.length, results[i]? = some
      (if ((payloads.take (i + 1)).flatMap Frame.encode).length ≤ capacity then .ok ()
        else .error .sinkFull)) ∧
    sink.contents = (payloads.flatMap Frame.encode).take capacity ∧
    ∀ n, Frame.receiveTimes limit ((Sink.accepted payloads results).length + n) sink.contents
      = (Sink.accepted payloads results).map .ok ++ List.replicate n (.error .endOfStream) := by
  have hempty : ({ capacity } : Sink).contents.length ≤ capacity := Nat.zero_le capacity
  have hps : ∀ p ∈ payloads, p.length < 2 ^ 64 ∧ p.length ≤ limit :=
    fun p hp => ⟨hsize p hp, hlimit p hp⟩
  refine ⟨?_, ?_, ?_, ?_⟩
  · -- there is one result for each payload
    rw [Sink.results_sendAll hempty, List.length_map, List.length_range]
  · intro i hi
    rw [Sink.results_sendAll hempty]
    simp [hi]
  · rw [Sink.contents_sendAll]
    simp
  · -- what did fit is received, and then the stream has ended
    intro n
    obtain ⟨whole, left, torn, rfl, htorn, hcontents, hresults⟩ :=
      Sink.sendAll_split hempty payloads
    rw [hcontents, hresults, Sink.accepted_of_split, List.nil_append,
      Frame.receiveTimes_flatMap_encode fun p hp => hps p (List.mem_append_left left hp)]
    rw [Frame.receiveTimes_of_incomplete
      (Frame.head_of_isTorn (fun p hp => hps p (List.mem_append_right whole hp)) htorn)]

/-- The second of three frames is cut inside of its payload: one payload arrives. -/
theorem receive_what_was_sent_torn :
    (∀ p ∈ [[1], [2, 3], []], (p : Bytes).length < 2 ^ 64) ∧
    (∀ p ∈ [[1], [2, 3], []], (p : Bytes).length ≤ 2) ∧
    let (sink, results) := Sink.sendAll { capacity := 10 } [[1], [2, 3], []]
    results = [.ok (), .error .sinkFull, .error .sinkFull] ∧
    sink.contents = [0, 0, 0, 1, 1, 0, 0, 0, 2, 2] ∧
    Frame.receiveTimes 2 3 sink.contents = [.ok [1], .error .endOfStream, .error .endOfStream] :=
  have hsize : ∀ p ∈ [[1], [2, 3], []], (p : Bytes).length < 2 ^ 64 := by decide
  have hlimit : ∀ p ∈ [[1], [2, 3], []], (p : Bytes).length ≤ 2 := by decide
  have h := receive_what_was_sent 10 2 [[1], [2, 3], []] hsize hlimit
  ⟨hsize, hlimit, rfl, h.2.2.1, h.2.2.2 2⟩

end RemoteDebugger
