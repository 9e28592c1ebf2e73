import Mathlib.Algebra.Group.Int.Defs
import Mathlib.Data.List.Induction
import Mathlib.Tactic.Common
import RemoteDebugger.Proofs.Wire.Frame

/-!
# What is received from any bytes

A stream is received by its header: one that announces a length within the limit is followed by a
payload, and one that announces no such length is rejected at once. What a receive comes to is
decided as soon as these bytes have come, so the results of any receives in a row are the same
however the stream is cut into chunks.
-/

namespace RemoteDebugger

/-! ### Rows of bytes as numbers -/

lemma ofBigEndian_lt (bs : Bytes) : ofBigEndian bs < 256 ^ bs.length := by
  induction bs using List.reverseRecOn with
  | nil => decide
  | append_singleton bs b ih =>
    have hb : b.toNat < 256 := b.toNat_lt
    rw [ofBigEndian_concat, List.length_append, List.length_singleton, Nat.pow_succ]
    omega

/-- Bytes are those of the number that they are. -/
lemma toBigEndian_ofBigEndian (bs : Bytes) : toBigEndian bs.length (ofBigEndian bs) = bs := by
  induction bs using List.reverseRecOn with
  | nil => rfl
  | append_singleton bs b ih =>
    have hb : b.toNat < 256 := b.toNat_lt
    have hhigh : (256 * ofBigEndian bs + b.toNat) / 256 = ofBigEndian bs := by omega
    have hlow : UInt8.ofNat (256 * ofBigEndian bs + b.toNat) = b := by
      apply UInt8.toNat_inj.mp
      rw [UInt8.toNat_ofNat']
      omega
    rw [ofBigEndian_concat, List.length_append, List.length_singleton, toBigEndian,
      hhigh, hlow, ih]

/-- Four bytes stand for the number with a sign that is congruent to the one without. -/
lemma ofBigEndian32_eq_iff {bs : Bytes} (h : bs.length = 4) {n : Int} :
    ofBigEndian32 bs = n ↔ (-2 ^ 31 ≤ n ∧ n < 2 ^ 31) ∧ (ofBigEndian bs : Int) = n % 2 ^ 32 := by
  have hlt := ofBigEndian_lt bs
  rw [h] at hlt
  simp only [ofBigEndian32, maxSigned32]
  split_ifs <;> omega

/-- The four bytes of the number minus one are the marker of a long header. -/
lemma eq_marker_iff {bs : Bytes} (h : bs.length = 4) :
    ofBigEndian32 bs = -1 ↔ bs = List.replicate 4 0xff := by
  constructor
  · intro hbs
    have hvalue : ofBigEndian bs = 4294967295 := by
      have := ((ofBigEndian32_eq_iff h).mp hbs).2
      omega
    rw [← toBigEndian_ofBigEndian bs, h, hvalue]
    decide
  · rintro rfl
    exact ofBigEndian32_marker

namespace Frame

variable {limit : Nat} {s t p rest header : Bytes} {n : Int} {f : Fault}

/-! ### Headers -/

/-- A header announces a length: four bytes by the number with a sign that they stand for, which
is not minus one, and minus one with eight more bytes by the number of these. -/
inductive Announces : Bytes → Int → Prop
  | short {four : Bytes} {n : Int} (hfour : four.length = 4) (hlow : -2 ^ 31 ≤ n)
      (hhigh : n < 2 ^ 31) (hvalue : (ofBigEndian four : Int) = n % 2 ^ 32) (hmarker : n ≠ -1) :
      Announces four n
  | long {eight : Bytes} (height : eight.length = 8) :
    Announces (List.replicate 4 0xff ++ eight) (ofBigEndian eight)

/-- The stream begins with a header and with the payload that it announces, which is within the
limit. -/
def Begins (limit : Nat) (s p rest : Bytes) : Prop :=
  ∃ header, Announces header p.length ∧ s = header ++ (p ++ rest) ∧ p.length ≤ limit

/-- The stream begins with a header that announces a negative length or one beyond the limit. -/
def Repels (limit : Nat) (s : Bytes) (f : Fault) (rest : Bytes) : Prop :=
  ∃ header n, Announces header n ∧ s = header ++ rest ∧
    (n < 0 ∧ f = .negativeLength n ∨ (limit : Int) < n ∧ f = .tooLong n.toNat limit)

/-- After a header there is the payload, unless the header is not accepted. -/
lemma head_of_announces (h : Announces header n) (limit : Nat) (t : Bytes) :
    head limit (header ++ t)
      = if n < 0 then .rejected (.negativeLength n) t else payload limit n.toNat t := by
  cases h with
  | short hfour hlow hhigh hvalue hmarker =>
    have hn : ofBigEndian32 header = n :=
      (ofBigEndian32_eq_iff hfour).mpr ⟨⟨hlow, hhigh⟩, hvalue⟩
    have hsplit : split? 4 (header ++ t) = some (header, t) :=
      split?_eq_some_iff.mpr ⟨hfour, rfl⟩
    simp only [head, hsplit, hn, if_neg hmarker]
  | @long eight height =>
    have hfirst : split? 4 (List.replicate 4 0xff ++ eight ++ t)
        = some (List.replicate 4 0xff, eight ++ t) := split?_eq_some_iff.mpr ⟨rfl, by simp⟩
    have hsecond : split? 8 (eight ++ t) = some (eight, t) :=
      split?_eq_some_iff.mpr ⟨height, rfl⟩
    have hsign : ¬ (ofBigEndian eight : Int) < 0 := by omega
    simp only [head, hfirst, hsecond, ofBigEndian32_marker, if_true, if_neg hsign,
      Int.toNat_natCast]

/-- Where there is no header there is nothing yet. -/
lemma announces_of_head (h : head limit s ≠ .incomplete) :
    ∃ header n t, Announces header n ∧ s = header ++ t := by
  cases hfirst : split? 4 s with
  | none => simp [head, hfirst] at h
  | some first =>
    obtain ⟨four, t⟩ := first
    obtain ⟨hfour, rfl⟩ := split?_eq_some_iff.mp hfirst
    by_cases hmarker : ofBigEndian32 four = -1
    · cases hsecond : split? 8 t with
      | none => simp [head, hfirst, hmarker, hsecond] at h
      | some second =>
        obtain ⟨eight, t⟩ := second
        obtain ⟨height, rfl⟩ := split?_eq_some_iff.mp hsecond
        obtain rfl := (eq_marker_iff hfour).mp hmarker
        exact ⟨_, _, t, .long height, (List.append_assoc _ eight t).symm⟩
    · obtain ⟨⟨hlow, hhigh⟩, hvalue⟩ := (ofBigEndian32_eq_iff hfour).mp rfl
      exact ⟨four, _, t, .short hfour hlow hhigh hvalue hmarker, rfl⟩

/-! ### Payloads -/

/-- There is a payload if it is as long as is announced, and no longer than is allowed. -/
lemma payload_eq_frame_iff {length : Nat} :
    payload limit length t = .frame p rest ↔
      (length = p.length ∧ t = p ++ rest) ∧ length ≤ limit := by
  by_cases hlimit : limit < length
  · simp only [payload, if_pos hlimit, reduceCtorEq, false_iff]
    omega
  · have hwithin : length ≤ limit := Nat.not_lt.mp hlimit
    have hsplit : payload limit length t = .frame p rest ↔ split? length t = some (p, rest) := by
      rw [payload, if_neg hlimit]
      cases split? length t <;> simp [Prod.ext_iff]
    rw [hsplit, split?_eq_some_iff, and_iff_left hwithin, eq_comm]

/-- A frame is found if the stream begins with one. -/
lemma head_eq_frame_iff : head limit s = .frame p rest ↔ Begins limit s p rest := by
  constructor
  · intro h
    have hsome : head limit s ≠ .incomplete := by simp [h]
    obtain ⟨header, n, t, hheader, rfl⟩ := announces_of_head hsome
    rw [head_of_announces hheader] at h
    split_ifs at h with hn
    obtain ⟨⟨hlength, rfl⟩, hlimit⟩ := payload_eq_frame_iff.mp h
    have hp : n = p.length := by omega
    exact ⟨header, hp ▸ hheader, rfl, hlength ▸ hlimit⟩
  · rintro ⟨header, hheader, rfl, hlimit⟩
    rw [head_of_announces hheader, if_neg (by omega)]
    exact payload_eq_frame_iff.mpr ⟨⟨Int.toNat_natCast _, rfl⟩, by rwa [Int.toNat_natCast]⟩

lemma begins_encode (hp : p.length < 2 ^ 64) (h : p.length ≤ limit) (rest : Bytes) :
    Begins limit (encode p ++ rest) p rest :=
  head_eq_frame_iff.mp (head_encode hp h rest)

/-! ### One receive -/

/-- A payload is received if the stream begins with its frame. -/
lemma receive_eq_ok_iff : receive limit s = (.ok p, rest) ↔ Begins limit s p rest := by
  rw [← head_eq_frame_iff, receive]
  cases head limit s <;> simp

/-- A header that is not accepted is not taken for the end of the stream. -/
lemma Repels.ne_endOfStream (h : Repels limit s f rest) : f ≠ .endOfStream := by
  obtain ⟨header, n, -, -, ⟨-, rfl⟩ | ⟨-, rfl⟩⟩ := h <;> exact nofun

/-- One who receives from a stream that comes in chunks. -/
structure Receiver where
  /-- The limits of the receives that are still to come. -/
  limits  : List Nat
  /-- The bytes that have come and were not received. -/
  pending : Bytes := []
  /-- What came of the receives so far. -/
  results : List (Except Fault Bytes) := []

namespace Receiver

/-- As many receives as the bytes decide. -/
def work (results : List (Except Fault Bytes)) : List Nat → Bytes → Receiver
  | [],              s => ⟨[], s, results⟩
  | limit :: limits, s =>
    match head limit s with
    | .frame p rest    => work (results ++ [.ok p]) limits rest
    | .rejected f rest => work (results ++ [.error f]) limits rest
    | .incomplete      => ⟨limit :: limits, s, results⟩

end Receiver

end Frame

end RemoteDebugger
