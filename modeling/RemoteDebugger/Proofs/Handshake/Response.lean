import Mathlib.Data.List.TakeWhile
import RemoteDebugger.Proofs.Handshake.Acceptance

/-!
# Which challenges are answered

The end that is challenged takes in a challenge and, if it answers it, a verdict. Which messages
it answers, and with what, and what it finds wrong with the others, is said of the bytes alone.
-/

namespace RemoteDebugger.Challenge

open Dialogue

variable {mac : Mac} {secret nonce t message response rest s : Bytes}

/-! ### Tags of nonces -/

/-- The nonce begins with a brace that is closed among its first 20 bytes. -/
def IsTagged (nonce : Bytes) : Prop := nonce.head? = some 0x7b ∧ 0x7d ∈ nonce.take 20

/-- The tag that a nonce carries begins it with a brace and ends with the first closing one,
among the first 20 bytes. -/
structure Carries (nonce t : Bytes) : Prop where
  opens  : nonce.head? = some 0x7b
  starts : t <+: nonce
  closes : ∃ inside, t = inside ++ [0x7d] ∧ 0x7d ∉ inside
  short  : t.length ≤ 20

lemma tag?_of_not_isTagged (h : ¬ IsTagged nonce) : tag? nonce = none := by
  cases nonce with
  | nil => rfl
  | cons b bs =>
    rw [tag?]
    split_ifs with hb
    · have hopen : 0x7d ∉ (b :: bs).take maxTag := fun hclosed => h ⟨congrArg some hb, hclosed⟩
      have hinside : ((b :: bs).take maxTag).takeWhile (· != 0x7d) = (b :: bs).take maxTag := by
        rw [List.takeWhile_eq_self_iff]
        intro c hc
        exact bne_iff_ne.mpr fun heq => hopen (heq ▸ hc)
      dsimp only
      rw [hinside, List.length_take]
      exact if_neg (by omega)
    · rfl

/-- A tag goes up to the first closing brace among the first bytes. -/
lemma tag?_of_closed {inside more : Bytes} (hopens : nonce.head? = some 0x7b)
    (h : nonce.take 20 = inside ++ 0x7d :: more) (hinside : 0x7d ∉ inside) :
    tag? nonce = some (inside ++ [0x7d]) := by
  have hwhile : (nonce.take maxTag).takeWhile (· != 0x7d) = inside := by
    rw [maxTag, h, List.takeWhile_append_of_pos]
    · simp
    · intro c hc
      exact bne_iff_ne.mpr fun heq => hinside (heq ▸ hc)
  have hlength := congrArg List.length h
  rw [List.length_take, List.length_append, List.length_cons] at hlength
  have htake : nonce.take (inside.length + 1) = inside ++ [0x7d] := by
    have hboth := congrArg (List.take (inside.length + 1)) h
    rwa [List.take_take, Nat.min_eq_left (by omega), List.take_length_add_append] at hboth
  cases nonce with
  | nil => cases hopens
  | cons b bs =>
    rw [tag?, if_pos (Option.some.inj hopens)]
    dsimp only
    rw [hwhile, if_pos (by simp only [maxTag]; omega), htake]

/-- No tag is found exactly in a nonce that is not tagged. -/
lemma tag?_eq_none_iff : tag? nonce = none ↔ ¬ IsTagged nonce := by
  refine ⟨fun h htagged => ?_, tag?_of_not_isTagged⟩
  obtain ⟨inside, more, hsplit, hinside⟩ := List.eq_append_cons_of_mem htagged.2
  rw [tag?_of_closed htagged.1 hsplit hinside] at h
  cases h

/-- A tag is found exactly where the nonce carries it. -/
lemma tag?_eq_some_iff : tag? nonce = some t ↔ Carries nonce t := by
  constructor
  · intro h
    have htagged : IsTagged nonce := by
      by_contra hnot
      rw [tag?_of_not_isTagged hnot] at h
      cases h
    obtain ⟨inside, more, hsplit, hinside⟩ := List.eq_append_cons_of_mem htagged.2
    rw [tag?_of_closed htagged.1 hsplit hinside] at h
    obtain rfl := Option.some.inj h
    have hstarts : inside ++ [0x7d] <+: nonce.take 20 :=
      ⟨more, by rw [hsplit, List.append_assoc]; rfl⟩
    obtain ⟨hstarts, hshort⟩ := List.prefix_take_iff.mp hstarts
    exact ⟨htagged.1, hstarts, ⟨inside, rfl, hinside⟩, hshort⟩
  · rintro ⟨hopens, hstarts, ⟨inside, rfl, hinside⟩, hshort⟩
    obtain ⟨more, hmore⟩ := List.prefix_take_iff.mpr ⟨hstarts, hshort⟩
    exact tag?_of_closed hopens (by rw [← hmore, List.append_assoc]; rfl) hinside

/-! ### Challenges -/

/-- The messages that are answered, each with its answer. -/
inductive Answers (mac : Mac) (secret : Bytes) : Bytes → Bytes → Prop
  | plain {nonce : Bytes} (hlong : 20 ≤ nonce.length) (huntagged : ¬ IsTagged nonce) :
    Answers mac secret (marker ++ nonce) (mac secret nonce)
  | tagged {nonce : Bytes} (hlong : 20 ≤ nonce.length) (htag : Carries nonce tag) :
    Answers mac secret (marker ++ nonce) (tag ++ mac secret nonce)

/-- The messages that are not answered, each with the first thing that is wrong with it. -/
inductive Faulty : Bytes → AuthError → Prop
  | unmarked {message : Bytes} (h : ¬ marker <+: message) :
      Faulty message (.noChallenge message.length)
  | short {nonce : Bytes} (hshort : nonce.length < 20) :
    Faulty (marker ++ nonce) (.challengeTooShort nonce.length)
  | unsupported {nonce t : Bytes} (hlong : 20 ≤ nonce.length) (hcarries : Carries nonce t)
      (hother : t ≠ tag) :
    Faulty (marker ++ nonce) (.unsupportedDigest t)

/-- A nonce after the marker is answered, unless it is too short. -/
lemma reply_append (mac : Mac) (secret nonce : Bytes) : reply mac secret (marker ++ nonce) =
    if nonce.length < 20 then .error (.challengeTooShort nonce.length)
    else respond mac secret nonce := by
  rw [reply, after?_append]
  rfl

/-- A challenge that is answered has this response. -/
lemma reply_of_answers (h : Answers mac secret message response) :
    reply mac secret message = .ok response := by
  cases h with
  | plain hlong huntagged =>
    rw [reply_append, if_neg (Nat.not_lt.mpr hlong), respond, tag?_of_not_isTagged huntagged]
  | tagged hlong htag =>
    rw [reply_append, if_neg (Nat.not_lt.mpr hlong), respond, tag?_eq_some_iff.mpr htag]
    exact if_pos rfl

/-- A faulty challenge has none. -/
lemma reply_of_faulty {e : AuthError} (h : Faulty message e) :
    reply mac secret message = .error e := by
  cases h with
  | unmarked h => rw [reply, after?_eq_none_iff.mpr h]
  | short hshort => rw [reply_append, if_pos hshort]
  | unsupported hlong hcarries hother =>
    rw [reply_append, if_neg (Nat.not_lt.mpr hlong), respond, tag?_eq_some_iff.mpr hcarries]
    exact if_neg hother

/-- A message is answered, or something is wrong with it. -/
lemma answers_or_faulty (mac : Mac) (secret message : Bytes) :
    (∃ response, Answers mac secret message response) ∨ ∃ e, Faulty message e := by
  by_cases hmarked : marker <+: message
  · obtain ⟨nonce, rfl⟩ := hmarked
    by_cases hlong : 20 ≤ nonce.length
    · cases htag : tag? nonce with
      | none => exact .inl ⟨_, .plain hlong (tag?_eq_none_iff.mp htag)⟩
      | some t =>
        have hcarries : Carries nonce t := tag?_eq_some_iff.mp htag
        by_cases ht : t = tag
        · exact .inl ⟨_, .tagged hlong (ht ▸ hcarries)⟩
        · exact .inr ⟨_, .unsupported hlong hcarries ht⟩
    · exact .inr ⟨_, .short (Nat.not_le.mp hlong)⟩
  · exact .inr ⟨_, .unmarked hmarked⟩

/-! ### The end that is challenged -/

/-- What the end that is challenged does with the verdict on its answer. -/
def judged : Dialogue :=
  .receive fun verdict => .done (if verdict = welcome then .ok () else .error .rejected)

/-- The verdict decides, and what comes after it is left alone. -/
lemma run_judged_of_begins {verdict last : Bytes}
    (h : Frame.Begins maxMessage rest verdict last) :
    judged.run rest = ⟨if verdict = welcome then .ok () else .error .rejected, [], last⟩ := by
  rw [judged, run_receive h]
  rfl

/-- Without a whole verdict there is only the fault of the stream. -/
lemma run_judged_of_not_begins
    (h : ∀ verdict last, ¬ Frame.Begins maxMessage rest verdict last) :
    ∃ f last, Frame.receive maxMessage rest = (.error f, last) ∧
      judged.run rest = ⟨.error (.wire f), [], last⟩ := by
  obtain ⟨f, last, hreceive, hrun⟩ := run_receive_of_not_begins h
  exact ⟨f, last, hreceive, hrun _⟩

lemma written_judged (rest : Bytes) : (judged.run rest).written = [] := by
  rcases run_receive_cases rest _ with ⟨verdict, last, -, hrun⟩ | ⟨f, last, -, hrun⟩
  · rw [judged, hrun]
    rfl
  · rw [judged, hrun]

/-- A welcome is the only good verdict. -/
lemma result_judged_eq_ok_iff :
    (judged.run rest).result = .ok () ↔ ∃ last, Frame.Begins maxMessage rest welcome last := by
  constructor
  · intro hok
    rcases run_receive_cases rest _ with ⟨verdict, last, h, -⟩ | ⟨f, last, -, hrun⟩
    · rw [run_judged_of_begins h] at hok
      dsimp only at hok
      split_ifs at hok with hwelcome
      exact ⟨last, hwelcome ▸ h⟩
    · rw [judged, hrun] at hok
      cases hok
  · rintro ⟨last, h⟩
    rw [run_judged_of_begins h, if_pos rfl]

/-- A challenge that is answered is followed by the response and the wait for a verdict. -/
lemma run_answer_of_answers (h : Frame.Begins maxMessage s message rest)
    (hanswers : Answers mac secret message response) :
    (answer mac secret).run s
      = ⟨(judged.run rest).result, [response], (judged.run rest).rest⟩ := by
  have hrun : (answer mac secret).run s
      = { judged.run rest with written := response :: (judged.run rest).written } := by
    rw [answer, run_receive h, reply_of_answers hanswers]
    rfl
  rw [hrun, written_judged]

/-- A faulty challenge ends the handshake, and nothing is sent. -/
lemma run_answer_of_faulty {e : AuthError} (h : Frame.Begins maxMessage s message rest)
    (hfaulty : Faulty message e) : (answer mac secret).run s = ⟨.error e, [], rest⟩ := by
  rw [answer, run_receive h, reply_of_faulty hfaulty]
  rfl

lemma run_answer_of_not_begins (h : ∀ message rest, ¬ Frame.Begins maxMessage s message rest) :
    ∃ f rest, Frame.receive maxMessage s = (.error f, rest) ∧
      (answer mac secret).run s = ⟨.error (.wire f), [], rest⟩ := by
  obtain ⟨f, rest, hreceive, hrun⟩ := run_receive_of_not_begins h
  exact ⟨f, rest, hreceive, hrun _⟩

/-- A challenge is heard and answered, or all is over and nothing was sent. -/
lemma answered_or_over (mac : Mac) (secret s : Bytes) :
    (∃ message rest response, Frame.Begins maxMessage s message rest ∧
      Answers mac secret message response) ∨
      ∃ e rest, (answer mac secret).run s = ⟨.error e, [], rest⟩ := by
  rcases run_receive_cases s _ with ⟨message, rest, h, -⟩ | ⟨f, rest, -, hrun⟩
  · rcases answers_or_faulty mac secret message with ⟨response, hanswers⟩ | ⟨e, hfaulty⟩
    · exact .inl ⟨message, rest, response, h, hanswers⟩
    · exact .inr ⟨e, rest, run_answer_of_faulty h hfaulty⟩
  · exact .inr ⟨.wire f, rest, hrun⟩

/-- Something is sent exactly if the stream begins with a challenge that is answered. -/
lemma written_answer_ne_nil_iff : ((answer mac secret).run s).written ≠ [] ↔
    ∃ message rest response, Frame.Begins maxMessage s message rest ∧
      Answers mac secret message response := by
  constructor
  · intro hwritten
    rcases answered_or_over mac secret s with hanswered | ⟨e, rest, hrun⟩
    · exact hanswered
    · rw [hrun] at hwritten
      exact absurd rfl hwritten
  · rintro ⟨message, rest, response, h, hanswers⟩
    rw [run_answer_of_answers h hanswers]
    exact List.cons_ne_nil response []

/-- The handshake succeeds exactly if a challenge that is answered and a welcome come. -/
lemma result_answer_eq_ok_iff : ((answer mac secret).run s).result = .ok () ↔
    ∃ message rest response last, Frame.Begins maxMessage s message rest ∧
      Answers mac secret message response ∧ Frame.Begins maxMessage rest welcome last := by
  constructor
  · intro hok
    rcases answered_or_over mac secret s
      with ⟨message, rest, response, h, hanswers⟩ | ⟨e, rest, hrun⟩
    · rw [run_answer_of_answers h hanswers] at hok
      obtain ⟨last, hlast⟩ := result_judged_eq_ok_iff.mp hok
      exact ⟨message, rest, response, last, h, hanswers, hlast⟩
    · rw [hrun] at hok
      cases hok
  · rintro ⟨message, rest, response, last, h, hanswers, hlast⟩
    rw [run_answer_of_answers h hanswers]
    exact result_judged_eq_ok_iff.mpr ⟨last, hlast⟩

/-- Whatever the peer sends, it is sent one frame if it sends a challenge that is answered, and
nothing otherwise. The frame is the answer, and all goes well if and only if the next frame of
the peer is a welcome. No more than these two frames is taken in; without the first one, or
without a challenge in it, it is said what is wrong, and so it is without the second one. -/
theorem answered_if_challenged (mac : Mac) (secret s : Bytes) :
    let outcome := (answer mac secret).run s
    (outcome.written ≠ [] ↔
        ∃ message rest response, Frame.Begins 256 s message rest ∧
          Answers mac secret message response) ∧
      (∀ message rest response, Frame.Begins 256 s message rest →
        Answers mac secret message response →
        (∀ verdict last, Frame.Begins 256 rest verdict last →
          outcome = ⟨if verdict = welcome then .ok () else .error .rejected, [response], last⟩) ∧
        ((∀ verdict last, ¬ Frame.Begins 256 rest verdict last) → ∃ f last,
          Frame.receive 256 rest = (.error f, last) ∧
            outcome = ⟨.error (.wire f), [response], last⟩)) ∧
      (outcome.result = .ok () ↔ ∃ message rest response last, Frame.Begins 256 s message rest ∧
        Answers mac secret message response ∧ Frame.Begins 256 rest welcome last) ∧
      (∀ message rest, Frame.Begins 256 s message rest →
        ((∃ response, Answers mac secret message response) ∨ ∃ e, Faulty message e) ∧
        ∀ e, Faulty message e → outcome = ⟨.error e, [], rest⟩) ∧
      ((∀ message rest, ¬ Frame.Begins 256 s message rest) → ∃ f rest,
        Frame.receive 256 s = (.error f, rest) ∧ outcome = ⟨.error (.wire f), [], rest⟩) := by
  intro outcome
  refine ⟨written_answer_ne_nil_iff, fun message rest response h hanswers => ?_,
    result_answer_eq_ok_iff,
    fun message rest h =>
      ⟨answers_or_faulty mac secret message, fun e => run_answer_of_faulty h⟩,
    run_answer_of_not_begins⟩
  have hrun : outcome = _ := run_answer_of_answers h hanswers
  rw [hrun]
  constructor
  · -- a whole verdict
    intro verdict last hlast
    rw [run_judged_of_begins hlast]
  · intro hnone
    obtain ⟨f, last, hreceive, hlast⟩ := run_judged_of_not_begins hnone
    exact ⟨f, last, hreceive, by rw [hlast]⟩

/-- A tagged nonce and a welcome, and a nonce with the tag of another digest. -/
theorem answered_if_challenged_tagged :
    let nonce : Bytes := tag ++ List.replicate 40 7
    let other : Bytes := [0x7b, 0x6d, 0x64, 0x35, 0x7d]
    let foreign : Bytes := other ++ List.replicate 40 7
    (answer Hmac.digest [1]).run
      (Frame.encode (marker ++ nonce) ++ (Frame.encode welcome ++ [9]))
        = ⟨.ok (), [tag ++ Hmac.digest [1] nonce], [9]⟩ ∧
      (answer Hmac.digest [1]).run (Frame.encode (marker ++ foreign) ++ [9])
        = ⟨.error (.unsupportedDigest other), [], [9]⟩ := by
  intro nonce other foreign
  have hbegins : ∀ p : Bytes, p.length ≤ 256 → ∀ rest,
      Frame.Begins 256 (Frame.encode p ++ rest) p rest :=
    fun p hp => Frame.begins_encode (by omega) hp
  have hchallenge := hbegins (marker ++ nonce) (by decide +kernel) (Frame.encode welcome ++ [9])
  have hverdict := hbegins welcome (by decide +kernel) [9]
  have hforeign := hbegins (marker ++ foreign) (by decide +kernel) [9]
  have htag : Carries nonce tag := tag?_eq_some_iff.mp (tag?_nonce (List.replicate 40 7))
  have hother : Carries foreign other := tag?_eq_some_iff.mp rfl
  obtain ⟨-, hanswered, -, -, -⟩ := answered_if_challenged Hmac.digest [1]
    (Frame.encode (marker ++ nonce) ++ (Frame.encode welcome ++ [9]))
  obtain ⟨-, -, -, hfaulty, -⟩ := answered_if_challenged Hmac.digest [1]
    (Frame.encode (marker ++ foreign) ++ [9])
  constructor
  · exact (hanswered _ _ _ hchallenge (.tagged (by decide +kernel) htag)).1 welcome [9] hverdict
  · exact (hfaulty _ _ hforeign).2 _
      (.unsupported (by decide +kernel) hother (by decide +kernel))

end RemoteDebugger.Challenge
