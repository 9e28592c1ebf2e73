import RemoteDebugger.Text.Utf8
import RemoteDebugger.Wire.Fault

/-!
# Frames

Payloads travel in frames: the length as a big-endian number of 4 bytes with a sign, then the
payload. A payload too long for that is announced by `-1` and a length of 8 bytes.
-/

namespace RemoteDebugger

/-! ### Big-endian numbers -/

/-- The lowest `k` bytes of `n`, the highest of them first. -/
def toBigEndian : Nat → Nat → Bytes
  | 0,     _ => []
  | k + 1, n => toBigEndian k (n / 256) ++ [UInt8.ofNat n]

/-- The number that a row of bytes stands for, the highest byte first. -/
def ofBigEndian (bs : Bytes) : Nat := bs.foldl (fun n b => 256 * n + b.toNat) 0

/-- The largest number with a sign that fits 4 bytes. -/
def maxSigned32 : Nat := 2147483647

/-- The number with a sign that a row of 4 bytes stands for. -/
def ofBigEndian32 (bs : Bytes) : Int :=
  let n := ofBigEndian bs
  if n ≤ maxSigned32 then n else (n : Int) - 4294967296

namespace Frame

/-! ### Writing -/

def header (length : Nat) : Bytes :=
  if length ≤ maxSigned32 then toBigEndian 4 length
  else List.replicate 4 0xff ++ toBigEndian 8 length

def encode (payload : Bytes) : Bytes := header payload.length ++ payload

/-- The pieces in which the frame of a payload is written: the length in one piece or two, and
the payload. -/
def pieces (payload : Bytes) : List Bytes :=
  if payload.length ≤ maxSigned32 then [toBigEndian 4 payload.length, payload]
  else [List.replicate 4 0xff, toBigEndian 8 payload.length, payload]

/-! ### Reading -/

/-- The longest payload that is received outside of a handshake. -/
def defaultLimit : Nat := 64 * 1024 * 1024

/-- The first `n` bytes, if there are so many, and the bytes after them. -/
def split? (n : Nat) (s : Bytes) : Option (Bytes × Bytes) :=
  let (taken, rest) := s.splitAt n
  if taken.length = n then some (taken, rest) else none

/-- What the head of a stream holds. -/
inductive Head where
  /-- A frame and the bytes after it. -/
  | frame (payload rest : Bytes)
  /-- A header that is not accepted and the bytes after it. -/
  | rejected (fault : Fault) (rest : Bytes)
  /-- A part of a frame only. -/
  | incomplete
deriving DecidableEq, Repr

/-- The payload of an announced length, after the header. -/
def payload (limit length : Nat) (s : Bytes) : Head :=
  if limit < length then .rejected (.tooLong length limit) s
  else match split? length s with
    | some (p, rest) => .frame p rest
    | none           => .incomplete

/-- The first frame of a stream. -/
def head (limit : Nat) (s : Bytes) : Head :=
  match split? 4 s with
  | none => .incomplete
  | some (short, rest) =>
    let n := ofBigEndian32 short
    if n = -1 then
      match split? 8 rest with
      | none              => .incomplete
      | some (long, rest) => payload limit (ofBigEndian long) rest
    else if n < 0 then .rejected (.negativeLength n) rest
    else payload limit n.toNat rest

/-- What is split off and what is left make up the whole. -/
theorem append_of_split? {n : Nat} {s taken rest : Bytes} (h : split? n s = some (taken, rest)) :
    taken.length = n ∧ s = taken ++ rest := by
  simp only [split?, List.splitAt_eq] at h
  split at h
  · next hn =>
    simp only [Option.some.injEq, Prod.mk.injEq] at h
    obtain ⟨rfl, rfl⟩ := h
    exact ⟨hn, (List.take_append_drop n s).symm⟩
  · cases h

/-- After a payload there is no more left than before it. -/
theorem length_rest_le_of_payload {limit length : Nat} {s p rest : Bytes}
    (h : payload limit length s = .frame p rest) : rest.length ≤ s.length := by
  simp only [payload] at h
  split at h
  · cases h
  · split at h
    · next hs =>
      simp only [Head.frame.injEq] at h
      obtain ⟨rfl, rfl⟩ := h
      rw [(append_of_split? hs).2, List.length_append]
      omega
    · cases h

/-- After a frame there is less left than before it. -/
theorem length_rest_lt_of_head {limit : Nat} {s p rest : Bytes}
    (h : head limit s = .frame p rest) :
    rest.length < s.length := by
  simp only [head] at h
  split at h
  · cases h
  · next hs =>
    obtain ⟨hn, rfl⟩ := append_of_split? hs
    rw [List.length_append]
    split at h
    · split at h
      · cases h
      · next hl =>
        obtain ⟨_, rfl⟩ := append_of_split? hl
        have := length_rest_le_of_payload h
        rw [List.length_append]
        omega
    · split at h
      · cases h
      · have := length_rest_le_of_payload h
        omega

/-- One payload from a stream that has ended after `s`, and what is left of the stream. -/
def receive (limit : Nat) (s : Bytes) : Except Fault Bytes × Bytes :=
  match head limit s with
  | .frame p rest    => (.ok p, rest)
  | .rejected f rest => (.error f, rest)
  | .incomplete        => (.error .endOfStream, [])

/-- What comes of a number of receives from a stream that has ended after `s`, one after the
other. -/
def receiveTimes (limit : Nat) : Nat → Bytes → List (Except Fault Bytes)
  | 0,     _ => []
  | n + 1, s =>
    let (result, rest) := receive limit s
    result :: receiveTimes limit n rest

end Frame

/-! ### A sink of limited size -/

/-- A place for bytes that keeps what fits and refuses the rest. -/
structure Sink where
  capacity : Nat
  contents : Bytes := []
deriving DecidableEq, Repr

namespace Sink

/-- The sink after a write of `bs`, and whether all of it did fit. -/
def write (s : Sink) (bs : Bytes) : Sink × Except Fault Unit :=
  let room := s.capacity - s.contents.length
  ({ s with contents := s.contents ++ bs.take room },
    if bs.length ≤ room then .ok () else .error .sinkFull)

/-- The sink after pieces were written to it, one after the other until one of them does not
fit. -/
def writeAll (s : Sink) : List Bytes → Sink × Except Fault Unit
  | []        => (s, .ok ())
  | bs :: bss =>
    match s.write bs with
    | (s, .ok ())   => s.writeAll bss
    | (s, .error f) => (s, .error f)

/-- The sink after a frame was written to it. -/
def send (s : Sink) (payload : Bytes) : Sink × Except Fault Unit :=
  s.writeAll (Frame.pieces payload)

/-- The sink after frames were written to it, also after one that did not fit, and what came of
each. -/
def sendAll (s : Sink) : List Bytes → Sink × List (Except Fault Unit)
  | []      => (s, [])
  | p :: ps =>
    let (s, result) := s.send p
    let (s, results) := s.sendAll ps
    (s, result :: results)

end Sink

end RemoteDebugger
