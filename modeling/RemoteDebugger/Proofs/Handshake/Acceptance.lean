import RemoteDebugger.Proofs.Handshake.Agreement
import RemoteDebugger.Proofs.Wire.Reception

/-!
# Which answers are accepted

The end that challenges takes in one frame of its peer. It welcomes the peer if and only if this
frame is the digest of the nonce, with its tag or without it, and nothing that comes close is
accepted.
-/

namespace RemoteDebugger

/-! ### A dialogue that hears any bytes -/

namespace Dialogue

variable {s : Bytes}

/-- A dialogue that receives goes on with the message that the stream begins with. -/
lemma run_receive {m rest : Bytes} (h : Frame.Begins maxMessage s m rest)
    (next : Bytes → Dialogue) :
    (receive next).run s = (next m).run rest := by
  rw [run, Frame.receive_eq_ok_iff.mpr h]

/-- Without a message the dialogue ends as the receive does. -/
lemma run_receive_of_not_begins (h : ∀ m rest, ¬ Frame.Begins maxMessage s m rest) :
    ∃ f rest, Frame.receive maxMessage s = (.error f, rest) ∧
      ∀ next, (receive next).run s = ⟨.error (.wire f), [], rest⟩ := by
  cases hreceive : Frame.receive maxMessage s with
  | mk result rest =>
    cases result with
    | ok m => exact absurd (Frame.receive_eq_ok_iff.mp hreceive) (h m rest)
    | error f => exact ⟨f, rest, rfl, fun next => by rw [run, hreceive]⟩

/-- A message is heard, or the dialogue is over. -/
lemma run_receive_cases (s : Bytes) (next : Bytes → Dialogue) :
    (∃ m rest, Frame.Begins maxMessage s m rest ∧ (receive next).run s = (next m).run rest) ∨
      ∃ f rest, (∀ m rest, ¬ Frame.Begins maxMessage s m rest) ∧
        (receive next).run s = ⟨.error (.wire f), [], rest⟩ := by
  by_cases h : ∃ m rest, Frame.Begins maxMessage s m rest
  · obtain ⟨m, rest, h⟩ := h
    exact .inl ⟨m, rest, h, run_receive h next⟩
  · push Not at h
    obtain ⟨f, rest, -, hrun⟩ := run_receive_of_not_begins h
    exact .inr ⟨f, rest, h, hrun next⟩

end Dialogue

namespace Challenge

open Dialogue

variable {mac : Mac} {secret random digest answer : Bytes}

/-! ### Right answers -/

/-- What follows a start is found exactly where the start stands. -/
lemma after?_eq_some_iff {start s t : Bytes} : after? start s = some t ↔ s = start ++ t := by
  constructor
  · intro h
    rw [after?] at h
    split_ifs at h with hstart
    obtain ⟨u, rfl⟩ := List.isPrefixOf_iff_prefix.mp hstart
    rw [List.drop_left] at h
    rw [Option.some.inj h]
  · rintro rfl
    exact after?_append start t

lemma after?_eq_none_iff {start s : Bytes} : after? start s = none ↔ ¬ start <+: s := by
  rw [after?, ← List.isPrefixOf_iff_prefix]
  split_ifs with hstart <;> simp [hstart]

/-- An answer with the digest that is asked for: it has its tag, or none that could be taken for
its tag. -/
def IsRight (digest answer : Bytes) : Prop :=
  answer = tag ++ digest ∨ answer = digest ∧ ¬ tag <+: digest

/-- Exactly the right answers are found right. -/
lemma verify_eq_true_iff (mac : Mac) (secret nonce answer : Bytes) :
    verify mac secret nonce answer = true ↔ IsRight (mac secret nonce) answer := by
  rw [verify, beq_iff_eq]
  cases hafter : after? tag answer with
  | none =>
    -- an answer without a tag is compared as it stands
    have hplain : ¬ tag <+: answer := after?_eq_none_iff.mp hafter
    rw [Option.getD_none]
    constructor
    · rintro rfl
      exact .inr ⟨rfl, hplain⟩
    · rintro (rfl | ⟨rfl, -⟩)
      · exact absurd (List.prefix_append tag _) hplain
      · rfl
  | some t =>
    -- of an answer with a tag, what comes after it is compared
    obtain rfl := after?_eq_some_iff.mp hafter
    rw [Option.getD_some]
    constructor
    · rintro rfl
      exact .inl rfl
    · rintro (h | ⟨h, hplain⟩)
      · exact List.append_cancel_left h
      · exact absurd (h ▸ List.prefix_append tag t) hplain

/-! ### Answers that come close -/

/-- An answer that is right but for one thing. -/
inductive Spoilt (random digest : Bytes) : Bytes → Prop
  | truncated {whole : Bytes} (h : whole = digest ∨ whole = tag ++ digest) {n : Nat}
      (hn : n < whole.length) :
    Spoilt random digest (whole.take n)
  | extended {whole : Bytes} (h : IsRight digest whole) {more : Bytes} (hmore : more ≠ []) :
    Spoilt random digest (whole ++ more)
  | altered {whole other : Bytes} (h : whole = digest ∨ whole = tag ++ digest)
      (hlength : other.length = whole.length) (hother : other ≠ whole) :
      Spoilt random digest other
  | doublyTagged : Spoilt random digest (tag ++ (tag ++ digest))
  | differentlyTagged {other : Bytes} (hsome : other ≠ []) (hother : other ≠ tag) :
    Spoilt random digest (other ++ digest)
  | echoedNonce : Spoilt random digest (tag ++ random)
  | echoedChallenge : Spoilt random digest (marker ++ (tag ++ random))

lemma length_tag : tag.length = 8 := by decide +kernel

/-- A right answer is a digest, with its tag or without. -/
lemma length_of_isRight (hdigest : digest.length = 32) (h : IsRight digest answer) :
    answer.length = 40 ∨ answer.length = 32 := by
  rcases h with rfl | ⟨rfl, -⟩
  · left
    rw [List.length_append, length_tag, hdigest]
  · exact .inr hdigest

/-- What comes close to a right answer is none: of each length there is one right answer at
most. -/
lemma not_isRight_of_spoilt (hdigest : digest.length = 32) (hrandom : random.length = 40)
    (h : Spoilt random digest answer) : ¬ IsRight digest answer := by
  intro hright
  have hlength := length_of_isRight hdigest hright
  have htagged : (tag ++ digest).length = 40 := by rw [List.length_append, length_tag, hdigest]
  cases h with
  | @truncated whole h n hn =>
    rw [List.length_take_of_le (Nat.le_of_lt hn)] at hlength
    rcases h with rfl | rfl
    · omega
    · -- as short as a digest without its tag, but it begins with the tag
      have htag : tag <+: (tag ++ digest).take n :=
        List.prefix_take_iff.mpr ⟨List.prefix_append tag digest, by rw [length_tag]; omega⟩
      rcases hright with heq | ⟨heq, hplain⟩
      · have := congrArg List.length heq
        rw [List.length_take_of_le (Nat.le_of_lt hn)] at this
        omega
      · exact hplain (heq ▸ htag)
  -- a longer answer has no length of a right one, or begins with the tag
  | @extended whole h more hmore =>
    have hpos : 0 < more.length := List.length_pos_iff.mpr hmore
    rw [List.length_append] at hlength
    rcases h with rfl | ⟨rfl, hplain⟩
    · omega
    · rcases hright with heq | ⟨heq, -⟩
      · have htag : tag <+: whole ++ more := heq ▸ List.prefix_append tag whole
        have hshort : tag.length ≤ whole.length := by rw [length_tag]; omega
        exact hplain (List.prefix_of_prefix_length_le htag
          (List.prefix_append whole more) hshort)
      · exact hmore (List.append_right_eq_self.mp heq)
  | altered h hsame hother =>
    rcases h with rfl | rfl <;> rcases hright with rfl | ⟨rfl, -⟩
    · omega
    · exact hother rfl
    · exact hother rfl
    · omega
  | doublyTagged =>
    rw [List.length_append, length_tag] at hlength
    omega
  | differentlyTagged hsome hother =>
    rcases hright with heq | ⟨heq, -⟩
    · exact hother (List.append_cancel_right heq)
    · exact hsome (List.append_left_eq_self.mp heq)
  | echoedNonce =>
    rw [List.length_append, length_tag, hrandom] at hlength
    omega
  | echoedChallenge =>
    rw [List.length_append, List.length_append, length_marker, length_tag, hrandom] at hlength
    omega

/-! ### The end that challenges -/

/-- What the end that challenges does with an answer. -/
def judging (mac : Mac) (secret random : Bytes) : Dialogue :=
  .receive fun answer =>
    if verify mac secret (nonce random) answer then .send welcome (.done (.ok ()))
    else .send failure (.done (.error .wrongDigest))

/-- A challenge is sent before anything is judged. -/
lemma run_deliver (mac : Mac) (secret random s : Bytes) : (deliver mac secret random).run s =
    { (judging mac secret random).run s with
      written := (marker ++ nonce random) :: ((judging mac secret random).run s).written } := rfl

/-- A right answer is welcomed and a wrong one is not, and what comes after it is left alone. -/
lemma run_deliver_of_begins {s rest : Bytes} (h : Frame.Begins maxMessage s answer rest) :
    (IsRight (mac secret (nonce random)) answer →
        (deliver mac secret random).run s = ⟨.ok (), [marker ++ nonce random, welcome], rest⟩) ∧
      (¬ IsRight (mac secret (nonce random)) answer →
        (deliver mac secret random).run s
          = ⟨.error .wrongDigest, [marker ++ nonce random, failure], rest⟩) := by
  rw [run_deliver, judging, run_receive h, ← verify_eq_true_iff]
  constructor
  · intro hright
    rw [if_pos hright]
    rfl
  · intro hwrong
    rw [if_neg hwrong]
    rfl

/-- Without a whole answer there is no verdict, only the fault of the stream. -/
lemma run_deliver_of_not_begins {s : Bytes}
    (h : ∀ answer rest, ¬ Frame.Begins maxMessage s answer rest) :
    ∃ f rest, Frame.receive maxMessage s = (.error f, rest) ∧
      (deliver mac secret random).run s
        = ⟨.error (.wire f), [marker ++ nonce random], rest⟩ := by
  obtain ⟨f, rest, hreceive, hrun⟩ := run_receive_of_not_begins h
  exact ⟨f, rest, hreceive, by rw [run_deliver, judging, hrun]⟩

/-- The end that challenges is content with right answers only. -/
lemma result_deliver_eq_ok_iff {s : Bytes} :
    ((deliver mac secret random).run s).result = .ok () ↔
    ∃ answer rest, Frame.Begins maxMessage s answer rest ∧
      IsRight (mac secret (nonce random)) answer := by
  constructor
  · rw [run_deliver]
    intro hok
    rcases run_receive_cases s _ with ⟨answer, rest, h, hrun⟩ | ⟨f, rest, -, hrun⟩
    · refine ⟨answer, rest, h, (verify_eq_true_iff mac secret (nonce random) answer).mp ?_⟩
      by_contra hwrong
      rw [judging, hrun, if_neg hwrong] at hok
      cases hok
    · rw [judging, hrun] at hok
      cases hok
  · rintro ⟨answer, rest, h, hright⟩
    rw [(run_deliver_of_begins h).1 hright]

/-- Whatever the peer sends, it is sent a challenge first. If it sends a frame of at most 256
bytes, it is welcomed if and only if that is a right answer, and is told of its failure
otherwise; if it sends no such frame, it is sent nothing more. Its bytes after the frame are left
alone, and an answer that comes close to a right one is a wrong one. -/
theorem accepted_if_right (mac : Mac) (hmac : ∀ key message, (mac key message).length = 32)
    (secret random s : Bytes) (hrandom : random.length = 40) :
    let digest := mac secret (tag ++ random)
    let challenge := marker ++ (tag ++ random)
    let outcome := (deliver mac secret random).run s
    outcome.written.head? = some challenge ∧
      (∀ answer rest, Frame.Begins 256 s answer rest →
        (IsRight digest answer → outcome = ⟨.ok (), [challenge, welcome], rest⟩) ∧
        (¬ IsRight digest answer → outcome = ⟨.error .wrongDigest, [challenge, failure], rest⟩) ∧
        (Spoilt random digest answer → ¬ IsRight digest answer)) ∧
      ((∀ answer rest, ¬ Frame.Begins 256 s answer rest) →
        ∃ f rest, Frame.receive 256 s = (.error f, rest) ∧
          outcome = ⟨.error (.wire f), [challenge], rest⟩) ∧
      (outcome.result = .ok () ↔ ∃ answer rest, Frame.Begins 256 s answer rest ∧
        IsRight digest answer) := by
  intro digest challenge outcome
  refine ⟨rfl, fun answer rest h => ?_, run_deliver_of_not_begins, result_deliver_eq_ok_iff⟩
  have hjudged : (IsRight digest answer → outcome = _) ∧
      (¬ IsRight digest answer → outcome = _) :=
    run_deliver_of_begins h
  exact ⟨hjudged.1, hjudged.2, not_isRight_of_spoilt (hmac secret _) hrandom⟩

/-- A tagged answer is accepted and the byte after it is left alone, and the answer without its
last byte is refused. -/
theorem accepted_if_right_tagged :
    let random : Bytes := List.replicate 40 7
    let answer := tag ++ Hmac.digest [1] (tag ++ random)
    let challenge := marker ++ (tag ++ random)
    random.length = 40 ∧
      (deliver Hmac.digest [1] random).run (Frame.encode answer ++ [9])
        = ⟨.ok (), [challenge, welcome], [9]⟩ ∧
      (deliver Hmac.digest [1] random).run (Frame.encode (answer.take 39) ++ [9])
        = ⟨.error .wrongDigest, [challenge, failure], [9]⟩ := by
  intro random answer challenge
  have hlength : answer.length = 40 := by rw [List.length_append, length_tag, length_digest]
  have hbegins : ∀ m : Bytes, m.length ≤ 40 →
      Frame.Begins 256 (Frame.encode m ++ [9]) m [9] := by
    intro m hm
    exact Frame.begins_encode (by omega) (by omega) [9]
  have hshort : (answer.take 39).length ≤ 40 := by
    rw [List.length_take]
    omega
  obtain ⟨-, hright, -, -⟩ := accepted_if_right Hmac.digest length_digest [1] random
    (Frame.encode answer ++ [9]) rfl
  obtain ⟨-, hwrong, -, -⟩ := accepted_if_right Hmac.digest length_digest [1] random
    (Frame.encode (answer.take 39) ++ [9]) rfl
  obtain ⟨hok, -, -⟩ := hright answer [9] (hbegins answer (Nat.le_of_eq hlength))
  obtain ⟨-, hrefused, hspoilt⟩ := hwrong (answer.take 39) [9] (hbegins _ hshort)
  have htruncated : Spoilt random (Hmac.digest [1] (tag ++ random)) (answer.take 39) :=
    .truncated (.inr rfl) (hlength ▸ by decide)
  exact ⟨rfl, hok (.inl rfl), hrefused (hspoilt htruncated)⟩

end Challenge

end RemoteDebugger
