import RemoteDebugger.Digest.Hmac
import RemoteDebugger.Handshake.Challenge
import RemoteDebugger.Proofs.Handshake.Exchange
import RemoteDebugger.Proofs.Wire.Delivery

/-!
# The two ends agree

One end connects, the other listens, and each challenges the other. In whatever order they take
their turns, either both come to trust each other and the connection is theirs from there on, or
one finds the digest wrong and the other is told.
-/

namespace RemoteDebugger

/-! ### Dialogues in a row -/

namespace Dialogue

variable {a b : Dialogue}

/-- Messages that are sent, one after the other. -/
def say : List Bytes → Dialogue
  | []      => .done (.ok ())
  | m :: ms => .send m (say ms)

lemma andThen_assoc (a b c : Dialogue) : (a.andThen b).andThen c = a.andThen (b.andThen c) := by
  induction a with
  | done r => cases r <;> rfl
  | send m next ih => exact congrArg (send m) ih
  | receive next ih => exact congrArg receive (funext ih)

lemma andThen_done (a : Dialogue) : a.andThen (.done (.ok ())) = a := by
  induction a with
  | done r => cases r <;> rfl
  | send m next ih => exact congrArg (send m) ih
  | receive next ih => exact congrArg receive (funext ih)

/-- Brief dialogues after each other are brief. -/
lemma IsBrief.andThen (ha : a.IsBrief) (hb : b.IsBrief) : (a.andThen b).IsBrief := by
  induction a with
  | done r =>
    cases r
    · trivial
    · exact hb
  | send m next ih => exact ⟨ha.1, ih ha.2⟩
  | receive next ih => exact fun m => ih m (ha m)

/-- An end that only sends takes one turn for each message. -/
lemma turns_say (ms : List Bytes) (b : Dialogue) (toA toB : List Bytes) :
    Exchange.Turns ms.length (exchange (say ms) b toA toB)
      (exchange (.done (.ok ())) b toA (toB ++ ms)) := by
  induction ms generalizing toB with
  | nil =>
    rw [List.append_nil]
    exact .refl _
  | cons m ms ih =>
    have hrest := ih (toB ++ [m])
    rw [List.append_assoc] at hrest
    exact .head (turn_send m (say ms) b toA toB) hrest

end Dialogue

namespace Challenge

open Dialogue Exchange

variable {mac : Mac}

/-! ### One challenge -/

lemma after?_append (start s : Bytes) : after? start (start ++ s) = some s := by
  rw [after?, if_pos (List.isPrefixOf_iff_prefix.mpr (List.prefix_append start s)),
    List.drop_left]

lemma tag_eq : tag = [0x7b, 0x73, 0x68, 0x61, 0x32, 0x35, 0x36, 0x7d] := by decide +kernel

lemma length_marker : marker.length = 11 := by decide +kernel

/-- The nonce of a challenge is tagged with the digest that both ends know. -/
lemma tag?_nonce (random : Bytes) : tag? (nonce random) = some tag := by
  simp [tag?, nonce, tag_eq, maxTag]

/-- A challenge is answered by the digest of its nonce, with the tag in front of it. -/
lemma reply_nonce {random : Bytes} (hrandom : random.length = nonceLength) (secret : Bytes) :
    reply mac secret (marker ++ nonce random) = .ok (tag ++ mac secret (nonce random)) := by
  have hlong : ¬ (nonce random).length < minNonce := by
    rw [nonce, List.length_append, hrandom]
    decide +kernel
  rw [reply, after?_append]
  dsimp only
  rw [if_neg hlong, respond, tag?_nonce]
  exact if_pos rfl

/-- A tagged answer is right if its digest is. -/
lemma verify_tagged (secret nonce digest : Bytes) :
    verify mac secret nonce (tag ++ digest) = (digest == mac secret nonce) := by
  rw [verify, after?_append, Option.getD_some]

lemma brief_challenge {random : Bytes} (hrandom : random.length = nonceLength) :
    (marker ++ nonce random).length ≤ maxMessage := by
  rw [List.length_append, nonce, List.length_append, hrandom, length_marker, tag_eq]
  decide

/-- A response is short enough to be received. -/
lemma brief_response (hmac : ∀ key message, (mac key message).length = 32)
    {secret nonce response : Bytes} (h : respond mac secret nonce = .ok response) :
    response.length ≤ maxMessage := by
  rw [respond] at h
  split at h
  · cases h
    rw [hmac]
    decide
  · split_ifs at h
    cases h
    rw [List.length_append, hmac, tag_eq]
    decide

lemma brief_verdict : welcome.length ≤ maxMessage ∧ failure.length ≤ maxMessage := by
  decide +kernel

/-- The end that answers sends nothing too long. -/
lemma isBrief_answer (hmac : ∀ key message, (mac key message).length = 32) (secret : Bytes) :
    (answer mac secret).IsBrief := by
  intro message
  dsimp only
  cases hreply : reply mac secret message with
  | error e => trivial
  | ok response =>
    refine ⟨?_, fun verdict => trivial⟩
    rw [reply] at hreply
    split at hreply
    · cases hreply
    · split_ifs at hreply
      exact brief_response hmac hreply

/-- Nor does the end that challenges. -/
lemma isBrief_deliver {random : Bytes} (hrandom : random.length = nonceLength) (secret : Bytes) :
    (deliver mac secret random).IsBrief := by
  refine ⟨brief_challenge hrandom, fun response => ?_⟩
  dsimp only
  split_ifs
  · exact ⟨brief_verdict.1, trivial⟩
  · exact ⟨brief_verdict.2, trivial⟩

/-- How one challenge comes out: both ends go on, or one has found the digest wrong and the other
was told. -/
lemma turns_challenge (hmac : ∀ key message, (mac key message).length = 32) {random : Bytes}
    (hrandom : random.length = nonceLength) (secret peerSecret : Bytes)
    (next peerNext : Dialogue) :
    Turns 6
      (exchange ((deliver mac secret random).andThen next)
        ((answer mac peerSecret).andThen peerNext) [] [])
      (if mac peerSecret (nonce random) = mac secret (nonce random)
        then exchange next peerNext [] []
        else exchange (.done (.error .wrongDigest)) (.done (.error .rejected)) [] []) := by
  have hresponse : (tag ++ mac peerSecret (nonce random)).length ≤ maxMessage := by
    rw [List.length_append, hmac, tag_eq]
    decide
  -- the challenge goes over, then the response, and then the verdict
  refine .head (turn_send _ _ _ _ _)
    (.head (turn_receive_back (brief_challenge hrandom) _ _ _ _) ?_)
  dsimp only
  rw [reply_nonce hrandom]
  refine .head (turn_send_back _ _ _ _ _) (.head (turn_receive hresponse _ _ _ _) ?_)
  dsimp only
  rw [verify_tagged]
  by_cases hright : mac peerSecret (nonce random) = mac secret (nonce random)
  · rw [if_pos hright, if_pos (beq_iff_eq.mpr hright)]
    exact .head (turn_send _ _ _ _ _)
      (.head (turn_receive_back brief_verdict.1 _ _ _ _) (.refl _))
  · rw [if_neg hright, if_neg fun h => hright (beq_iff_eq.mp h)]
    exact .head (turn_send _ _ _ _ _)
      (.head (turn_receive_back brief_verdict.2 _ _ _ _) (.refl _))

/-! ### Both challenges -/

/-- Whether two secrets give the same digests of the nonces of both ends. -/
def Agree (mac : Mac) (secret random peerSecret peerRandom : Bytes) : Prop :=
  mac secret (nonce peerRandom) = mac peerSecret (nonce peerRandom) ∧
    mac secret (nonce random) = mac peerSecret (nonce random)

/-- The results of two ends of which one has found the digest of the other wrong. -/
def IsRefusal (r r' : Except AuthError Unit) : Prop :=
  r = .error .wrongDigest ∧ r' = .error .rejected ∨ r = .error .rejected ∧
    r' = .error .wrongDigest

/-- How the challenges of both ends come out. -/
lemma turns_handshake (hmac : ∀ key message, (mac key message).length = 32)
    {random peerRandom : Bytes} (hrandom : random.length = nonceLength)
    (hpeerRandom : peerRandom.length = nonceLength) (secret peerSecret : Bytes) :
    ∃ r r' n, n ≤ maxSteps ∧
      (Agree mac secret random peerSecret peerRandom ∧ r = .ok () ∧ r' = .ok () ∨
        ¬ Agree mac secret random peerSecret peerRandom ∧ IsRefusal r r') ∧
      ∀ next peerNext, Turns n
        (exchange ((connect mac secret random).andThen next)
          ((listen mac peerSecret peerRandom).andThen peerNext) [] [])
        (exchange ((Dialogue.done r).andThen next)
          ((Dialogue.done r').andThen peerNext) [] []) := by
  -- the end that listens challenges first
  have hfirst : ∀ next peerNext, Turns 6
      (exchange ((connect mac secret random).andThen next)
        ((listen mac peerSecret peerRandom).andThen peerNext) [] [])
      (if mac secret (nonce peerRandom) = mac peerSecret (nonce peerRandom)
        then exchange ((answer mac peerSecret).andThen peerNext)
          ((deliver mac secret random).andThen next) [] []
        else exchange (.done (.error .wrongDigest)) (.done (.error .rejected)) [] []).swap := by
    intro next peerNext
    rw [connect, listen, andThen_assoc, andThen_assoc]
    exact (turns_challenge hmac hpeerRandom peerSecret secret _ _).swap
  have hsecond := turns_challenge hmac hrandom secret peerSecret
  by_cases hagree : mac secret (nonce peerRandom) = mac peerSecret (nonce peerRandom)
  · simp only [if_pos hagree] at hfirst
    by_cases hagree' : mac peerSecret (nonce random) = mac secret (nonce random)
    · simp only [if_pos hagree'] at hsecond
      refine ⟨.ok (), .ok (), 12, by decide, .inl ⟨⟨hagree, hagree'.symm⟩, rfl, rfl⟩,
        fun next peerNext => ?_⟩
      exact (hfirst next peerNext).trans (hsecond next peerNext)
    · simp only [if_neg hagree'] at hsecond
      refine ⟨.error .wrongDigest, .error .rejected, 12, by decide,
        .inr ⟨fun h => hagree' h.2.symm, .inl ⟨rfl, rfl⟩⟩, fun next peerNext => ?_⟩
      exact (hfirst next peerNext).trans (hsecond next peerNext)
  · simp only [if_neg hagree] at hfirst
    exact ⟨.error .rejected, .error .wrongDigest, 6, by decide,
      .inr ⟨fun h => hagree h.1, .inr ⟨rfl, rfl⟩⟩, hfirst⟩

/-- The results are never the end of the stream. -/
lemma ne_endOfStream {r r' : Except AuthError Unit}
    (h : r = .ok () ∧ r' = .ok () ∨ IsRefusal r r') :
    r ≠ .error (.wire .endOfStream) ∧ r' ≠ .error (.wire .endOfStream) := by
  rcases h with ⟨rfl, rfl⟩ | ⟨rfl, rfl⟩ | ⟨rfl, rfl⟩ <;> exact ⟨nofun, nofun⟩

/-- Payloads that were sent are received as they were, one after the other. -/
lemma receiveTimes_of_sent {limit : Nat} {payloads : List Bytes}
    (hsize : ∀ p ∈ payloads, p.length < 2 ^ 64) (hlimit : ∀ p ∈ payloads, p.length ≤ limit) :
    Frame.receiveTimes limit payloads.length (payloads.flatMap Frame.encode)
      = payloads.map .ok := by
  have hall := Frame.receiveTimes_flatMap_encode (fun p hp => ⟨hsize p hp, hlimit p hp⟩) 0 []
  rwa [Nat.add_zero, List.append_nil, Frame.receiveTimes, List.append_nil] at hall

/-- One end connects and the other listens, with any secrets and any nonces. In whatever order
they take their turns, the exchange ends with both of them done. Either both have agreed, which
they do if and only if their secrets give the same digests, as equal secrets do, or one has found
the digest of the other wrong, which is told so. Once they have agreed, all that is under way are
the frames of what they have sent each other since, which are received as they were sent. -/
theorem handshake_agrees (mac : Mac) (hmac : ∀ key message, (mac key message).length = 32)
    (secret random peerSecret peerRandom : Bytes) (hrandom : random.length = 40)
    (hpeerRandom : peerRandom.length = 40) (payloads peerPayloads : List Bytes)
    (hsize : ∀ p ∈ payloads, p.length < 2 ^ 64)
    (hpeerSize : ∀ p ∈ peerPayloads, p.length < 2 ^ 64) :
    ∃ r r' last,
      (exchange ((connect mac secret random).andThen (say payloads))
        ((listen mac peerSecret peerRandom).andThen (say peerPayloads)) [] []).ComesTo last ∧
      last.first = .done r ∧ last.second = .done r' ∧
      meet mac secret random peerSecret peerRandom = ⟨some r, some r', [], []⟩ ∧
      (r = .ok () ↔ r' = .ok ()) ∧ (secret = peerSecret → r = .ok () ∧ r' = .ok ()) ∧
      (r = .ok () ↔ Agree mac secret random peerSecret peerRandom) ∧
      (¬ (r = .ok () ∧ r' = .ok ()) → IsRefusal r r') ∧
      (r = .ok () → last.toSecond = payloads.flatMap Frame.encode ∧
        last.toFirst = peerPayloads.flatMap Frame.encode ∧
        ∀ limit, (∀ p ∈ payloads ++ peerPayloads, p.length ≤ limit) →
          Frame.receiveTimes limit payloads.length last.toSecond = payloads.map .ok ∧
          Frame.receiveTimes limit peerPayloads.length last.toFirst = peerPayloads.map .ok) := by
  obtain ⟨r, r', n, hn, hresults, hturns⟩ :=
    turns_handshake hmac hrandom hpeerRandom secret peerSecret
  have hmeet : meet mac secret random peerSecret peerRandom = ⟨some r, some r', [], []⟩ := by
    -- the handshake alone, with nothing said after it
    have halone := hturns (.done (.ok ())) (.done (.ok ()))
    rw [andThen_done, andThen_done, andThen_done, andThen_done] at halone
    obtain ⟨hr, hr'⟩ := ne_endOfStream (hresults.imp And.right And.right)
    exact meetFor_eq halone
      ((isBrief_answer hmac secret).andThen (isBrief_deliver hrandom secret))
      ((isBrief_deliver hpeerRandom peerSecret).andThen (isBrief_answer hmac peerSecret)) hn rfl
        hr hr'
  have hequal : secret = peerSecret → Agree mac secret random peerSecret peerRandom := by
    rintro rfl
    exact ⟨rfl, rfl⟩
  rcases hresults with ⟨hagree, rfl, rfl⟩ | ⟨hrefused, hrefusal⟩
  -- the ends agree, and each says what it has to say
  · have hsaid := (turns_say payloads (say peerPayloads) [] []).trans
      (turns_say peerPayloads (.done (.ok ())) payloads []).swap
    have hall := (hturns (say payloads) (say peerPayloads)).trans hsaid
    refine ⟨.ok (), .ok (), _, hall.comesTo (isOver_of_done rfl rfl), rfl, rfl, hmeet, Iff.rfl,
      fun _ => ⟨rfl, rfl⟩, iff_of_true rfl hagree, fun h => absurd ⟨rfl, rfl⟩ h, fun _ =>
        ⟨rfl, rfl, ?_⟩⟩
    intro limit hlimit
    obtain ⟨hlimit, hpeerLimit⟩ := List.forall_mem_append.mp hlimit
    exact ⟨receiveTimes_of_sent hsize hlimit, receiveTimes_of_sent hpeerSize hpeerLimit⟩
  · obtain ⟨e, e', rfl, rfl⟩ : ∃ e e', r = .error e ∧ r' = .error e' := by
      rcases hrefusal with ⟨rfl, rfl⟩ | ⟨rfl, rfl⟩ <;> exact ⟨_, _, rfl, rfl⟩
    -- they do not, and nothing is said
    have hall := hturns (say payloads) (say peerPayloads)
    exact ⟨.error e, .error e', _, hall.comesTo (isOver_of_done rfl rfl), rfl, rfl, hmeet,
      iff_of_false nofun nofun, fun h => absurd (hequal h) hrefused, iff_of_false nofun hrefused,
      fun _ => hrefusal, nofun⟩

/-- The keyed digest has the length that the handshake relies on. -/
lemma length_digest (key message : Bytes) : (Hmac.digest key message).length = 32 := by
  simp [Hmac.digest, Sha256.digest, Sha256.State.bytes]

/-- With equal secrets both ends agree, and with other ones one of them is refused. -/
theorem handshake_agrees_hmac :
    let zeros := List.replicate 40 0
    let ones := List.replicate 40 1
    (zeros : Bytes).length = 40 ∧ (ones : Bytes).length = 40 ∧
      meet Hmac.digest [1] zeros [1] ones = ⟨some (.ok ()), some (.ok ()), [], []⟩ ∧
      ∃ r r', IsRefusal r r' ∧ meet Hmac.digest [1] zeros [2] ones
        = ⟨some r, some r', [], []⟩ := by
  have hsize : ∀ p ∈ ([[7], [8, 9]] : List Bytes), p.length < 2 ^ 64 := by decide
  refine ⟨rfl, rfl, ?_, ?_⟩
  · obtain ⟨r, r', -, -, -, -, hmeet, -, hequal, -⟩ :=
      handshake_agrees Hmac.digest length_digest [1] (List.replicate 40 0) [1]
        (List.replicate 40 1) rfl rfl [[7], [8, 9]] [] hsize (List.forall_mem_nil _)
    obtain ⟨rfl, rfl⟩ := hequal rfl
    exact hmeet
  · obtain ⟨r, r', -, -, -, -, hmeet, -, -, hagree, hrefused, -⟩ :=
      handshake_agrees Hmac.digest length_digest [1] (List.replicate 40 0) [2]
        (List.replicate 40 1) rfl rfl [[7], [8, 9]] [] hsize (List.forall_mem_nil _)
    have hdiffer : Hmac.digest [1] (nonce (List.replicate 40 1))
        ≠ Hmac.digest [2] (nonce (List.replicate 40 1)) := by
      decide +kernel
    exact ⟨r, r', hrefused fun hok => hdiffer (hagree.mp hok.1).1, hmeet⟩

end Challenge

end RemoteDebugger
