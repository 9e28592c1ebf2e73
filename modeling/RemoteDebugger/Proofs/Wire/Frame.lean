import Mathlib.Algebra.Group.Nat.Defs
import Mathlib.Tactic.Common
import RemoteDebugger.Wire.Frame

/-!
# Reading frames

The head of a stream does not change when more bytes come, once it is decided. A stream that
begins with the frame of a payload has that payload as its head, whichever of the two headers
announces it, and a frame that is cut short is no frame.
-/

namespace RemoteDebugger

/-! ### Big-endian numbers -/

@[simp] lemma length_toBigEndian (k n : Nat) : (toBigEndian k n).length = k := by
  induction k generalizing n with
  | zero => rfl
  | succ k ih => simp [toBigEndian, ih]

@[simp] lemma ofBigEndian_concat (bs : Bytes) (b : UInt8) :
    ofBigEndian (bs ++ [b]) = 256 * ofBigEndian bs + b.toNat := by
  simp [ofBigEndian]

/-- Numbers that do not fit are cut off at the top. -/
lemma ofBigEndian_toBigEndian (k n : Nat) : ofBigEndian (toBigEndian k n) = n % 256 ^ k := by
  induction k generalizing n with
  | zero => simp [toBigEndian, ofBigEndian, Nat.mod_one]
  | succ k ih =>
    have h : n % 256 ^ (k + 1) = n % 256 + 256 * (n / 256 % 256 ^ k) := by
      rw [Nat.pow_succ', Nat.mod_mul]
    rw [toBigEndian, ofBigEndian_concat, ih, UInt8.toNat_ofNat', h]
    omega

/-- A length of 31 bits is read back. -/
lemma ofBigEndian32_toBigEndian {n : Nat} (h : n ≤ maxSigned32) :
    ofBigEndian32 (toBigEndian 4 n) = n := by
  have hn : n % 256 ^ 4 = n := Nat.mod_eq_of_lt (by simp only [maxSigned32] at h; omega)
  rw [ofBigEndian32, ofBigEndian_toBigEndian, hn]
  exact if_pos h

/-- The marker of a long header reads as minus one. -/
lemma ofBigEndian32_marker : ofBigEndian32 (List.replicate 4 0xff) = -1 := by decide

namespace Frame

/-! ### Splitting -/

lemma split?_append (a b : Bytes) : split? a.length (a ++ b) = some (a, b) := by
  simp [split?, List.splitAt_eq]

/-- A stream is split if it is long enough. -/
lemma split?_eq_some_iff {n : Nat} {s a b : Bytes} :
    split? n s = some (a, b) ↔ a.length = n ∧ s = a ++ b := by
  constructor
  · exact append_of_split?
  · rintro ⟨rfl, rfl⟩
    exact split?_append a b

/-- What was split off a stream is split off it also when it goes on. -/
lemma split?_append_of_eq_some {n : Nat} {s a b : Bytes} (h : split? n s = some (a, b))
    (u : Bytes) :
    split? n (s ++ u) = some (a, b ++ u) := by
  obtain ⟨hn, rfl⟩ := split?_eq_some_iff.mp h
  exact split?_eq_some_iff.mpr ⟨hn, List.append_assoc a b u⟩

/-! ### More of a stream -/

/-- What a head says of a stream that goes on with `u`. -/
def Head.more (u : Bytes) : Head → Head
  | .frame p rest    => .frame p (rest ++ u)
  | .rejected f rest => .rejected f (rest ++ u)
  | .incomplete      => .incomplete

/-- What follows a payload does not change it. -/
lemma payload_append {limit length : Nat} {s : Bytes} (h : payload limit length s ≠ .incomplete)
    (u : Bytes) : payload limit length (s ++ u) = (payload limit length s).more u := by
  simp only [payload] at h ⊢
  by_cases hl : limit < length
  · simp only [if_pos hl, Head.more]
  · simp only [if_neg hl] at h ⊢
    cases hs : split? length s with
    | none => simp [hs] at h
    | some taken =>
      simp only [split?_append_of_eq_some hs u, Head.more]

/-- A head that is decided stays as it is, however the stream goes on. -/
lemma head_append {limit : Nat} {s : Bytes} (h : head limit s ≠ .incomplete) (u : Bytes) :
    head limit (s ++ u) = (head limit s).more u := by
  simp only [head] at h ⊢
  cases hs : split? 4 s with
  | none => simp [hs] at h
  | some short =>
    simp only [hs, split?_append_of_eq_some hs u] at h ⊢
    by_cases hm : ofBigEndian32 short.1 = -1
    · simp only [if_pos hm] at h ⊢
      cases hr : split? 8 short.2 with
      | none => simp [hr] at h
      | some long =>
        simp only [hr, split?_append_of_eq_some hr u] at h ⊢
        exact payload_append h u
    · simp only [if_neg hm] at h ⊢
      by_cases hneg : ofBigEndian32 short.1 < 0
      · simp only [if_pos hneg, Head.more]
      · simp only [if_neg hneg] at h ⊢
        exact payload_append h u

/-! ### Frames -/

/-- The pieces that are written are the frame. -/
lemma flatten_pieces (p : Bytes) : (pieces p).flatten = encode p := by
  simp only [pieces, encode, header]
  split <;> simp

lemma encode_ne_nil (p : Bytes) : encode p ≠ [] := by
  simp only [encode, header]
  split <;> simp [toBigEndian]

lemma payload_self {limit : Nat} {p : Bytes} (h : p.length ≤ limit) (rest : Bytes) :
    payload limit p.length (p ++ rest) = .frame p rest := by
  simp [payload, Nat.not_lt.mpr h, split?_append]

/-- A frame is read as it was written. -/
lemma head_encode {limit : Nat} {p : Bytes} (hp : p.length < 2 ^ 64) (h : p.length ≤ limit)
    (rest : Bytes) : head limit (encode p ++ rest) = .frame p rest := by
  simp only [head, encode, header]
  by_cases hshort : p.length ≤ maxSigned32
  · have hs : split? 4 (toBigEndian 4 p.length ++ (p ++ rest))
        = some (toBigEndian 4 p.length, p ++ rest) := split?_eq_some_iff.mpr ⟨by simp, rfl⟩
    simp only [if_pos hshort, List.append_assoc, hs, ofBigEndian32_toBigEndian hshort]
    rw [if_neg (by omega), if_neg (by omega)]
    exact payload_self h rest
  · have hs : split? 4 (List.replicate 4 0xff ++ (toBigEndian 8 p.length ++ (p ++ rest)))
        = some (List.replicate 4 0xff, toBigEndian 8 p.length ++ (p ++ rest)) :=
      split?_eq_some_iff.mpr ⟨rfl, rfl⟩
    have hl : split? 8 (toBigEndian 8 p.length ++ (p ++ rest))
        = some (toBigEndian 8 p.length, p ++ rest) := split?_eq_some_iff.mpr ⟨by simp, rfl⟩
    have hlen : ofBigEndian (toBigEndian 8 p.length) = p.length := by
      rw [ofBigEndian_toBigEndian]
      exact Nat.mod_eq_of_lt (by omega)
    simp only [if_neg hshort, List.append_assoc, hs, ofBigEndian32_marker, if_true, hl, hlen]
    exact payload_self h rest

/-- A frame that is cut short is not complete, wherever it is cut. -/
lemma head_of_torn {limit : Nat} {p : Bytes} (hp : p.length < 2 ^ 64) (h : p.length ≤ limit)
    {torn lost : Bytes} (hcut : encode p = torn ++ lost) (hlost : lost ≠ []) :
    head limit torn = .incomplete := by
  by_contra hdecided
  -- more bytes cannot change a decided head, and with those that were lost it is the whole frame
  have hwhole := head_append hdecided lost
  rw [← hcut, ← List.append_nil (encode p), head_encode hp h] at hwhole
  cases hh : head limit torn with
  | frame q rest => simp [hh, Head.more, hlost] at hwhole
  | rejected f rest => simp [hh, Head.more] at hwhole
  | incomplete => exact hdecided hh

/-! ### A stream cut into frames -/

/-- The payloads of the whole frames that a stream begins with, and what is there of one more
frame. After a header that is not accepted there is no more of the stream. -/
def cut (limit : Nat) (s : Bytes) : List Bytes × Option Bytes :=
  match _h : head limit s with
  | .frame p rest => (p :: (cut limit rest).1, (cut limit rest).2)
  | .rejected _ _ => ([], none)
  | .incomplete   => ([], some s)
  termination_by s.length
  decreasing_by all_goals exact length_rest_lt_of_head _h

/-- A frame at the head is cut off first. -/
lemma cut_of_frame {limit : Nat} {s p rest : Bytes} (h : head limit s = .frame p rest) :
    cut limit s = (p :: (cut limit rest).1, (cut limit rest).2) := by
  rw [cut]
  split
  · next heq =>
    cases h.symm.trans heq
    rfl
  · next heq => cases h.symm.trans heq
  · next heq => cases h.symm.trans heq

/-- Nothing is cut off after a header that is rejected. -/
lemma cut_of_rejected {limit : Nat} {s rest : Bytes} {f : Fault}
    (h : head limit s = .rejected f rest) : cut limit s = ([], none) := by
  rw [cut]
  split
  · next heq => cases h.symm.trans heq
  · rfl
  · next heq => cases h.symm.trans heq

lemma cut_of_incomplete {limit : Nat} {s : Bytes} (h : head limit s = .incomplete) :
    cut limit s = ([], some s) := by
  rw [cut]
  split
  · next heq => cases h.symm.trans heq
  · next heq => cases h.symm.trans heq
  · rfl

/-- Frames that were cut from a stream stay as they are, however the stream goes on. -/
lemma cut_append (limit : Nat) (s u : Bytes) :
    cut limit (s ++ u) =
      match (cut limit s).2 with
      | some tail => ((cut limit s).1 ++ (cut limit (tail ++ u)).1, (cut limit (tail ++ u)).2)
      | none      => ((cut limit s).1, none) := by
  cases hh : head limit s with
  | frame p rest =>
    have hmore : head limit (s ++ u) = .frame p (rest ++ u) := by
      rw [head_append (by simp [hh]) u, hh, Head.more]
    rw [cut_of_frame hh, cut_of_frame hmore, cut_append limit rest u]
    cases (cut limit rest).2 <;> rfl
  | rejected f rest =>
    have hmore : head limit (s ++ u) = .rejected f (rest ++ u) := by
      rw [head_append (by simp [hh]) u, hh, Head.more]
    rw [cut_of_rejected hh, cut_of_rejected hmore]
  | incomplete =>
    rw [cut_of_incomplete hh]
    rfl
termination_by s.length
decreasing_by exact length_rest_lt_of_head hh

/-- What is left after the last frame is no whole frame. -/
lemma head_of_cut {limit : Nat} {s tail : Bytes} (h : (cut limit s).2 = some tail) :
    head limit tail = .incomplete := by
  cases hh : head limit s with
  | frame p rest =>
    rw [cut_of_frame hh] at h
    exact head_of_cut h
  | rejected f rest =>
    rw [cut_of_rejected hh] at h
    cases h
  | incomplete =>
    rw [cut_of_incomplete hh] at h
    cases h
    exact hh
termination_by s.length
decreasing_by exact length_rest_lt_of_head hh

/-- Frames in a row are cut into their payloads. -/
lemma cut_flatMap_encode {limit : Nat} {ps : List Bytes}
    (hps : ∀ p ∈ ps, p.length < 2 ^ 64 ∧ p.length ≤ limit) :
    cut limit (ps.flatMap encode) = (ps, some []) := by
  induction ps with
  | nil => exact cut_of_incomplete rfl
  | cons p ps ih =>
    obtain ⟨⟨hp, h⟩, hps⟩ := List.forall_mem_cons.mp hps
    rw [List.flatMap_cons, cut_of_frame (head_encode hp h _), ih hps]

end Frame

end RemoteDebugger
