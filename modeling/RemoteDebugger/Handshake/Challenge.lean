import RemoteDebugger.Digest.Hmac
import RemoteDebugger.Handshake.Dialogue

/-!
# Challenges

Two ends that share a secret prove it to each other. One end sends a challenge with a random
nonce, the other answers with the keyed digest of the nonce, and the first one welcomes or
refuses it. Then they change places. The keyed digest is a parameter throughout.
-/

namespace RemoteDebugger

/-- A keyed digest, by key and message. -/
abbrev Mac := Bytes → Bytes → Bytes

namespace Challenge

/-- What every challenge begins with. -/
def marker : Bytes := Utf8.encode "#CHALLENGE#"
/-- The verdict on a right digest. -/
def welcome : Bytes := Utf8.encode "#WELCOME#"
/-- The verdict on a wrong digest. -/
def failure : Bytes := Utf8.encode "#FAILURE#"
/-- The name of the digest, in front of nonces and digests. -/
def tag : Bytes := Utf8.encode "\x7bsha256\x7d"

def nonceLength : Nat := 40
/-- The shortest nonce that is answered. -/
def minNonce : Nat := 20
/-- A tag ends within this many bytes. -/
def maxTag : Nat := 20

/-- What is left of `s` after `start`, if it begins so. -/
def after? (start s : Bytes) : Option Bytes :=
  if start.isPrefixOf s then some (s.drop start.length) else none

/-- The tag that a nonce carries: from an opening brace in its first byte to the first closing
one. -/
def tag? (nonce : Bytes) : Option Bytes :=
  match nonce with
  | []     => none
  | b :: _ =>
    if b = 0x7b then
      let inside := (nonce.take maxTag).takeWhile (· != 0x7d)
      if inside.length < maxTag ∧ inside.length < nonce.length
        then some (nonce.take (inside.length + 1)) else none
    else none

/-- The answer to a nonce. It is tagged as the nonce is. -/
def respond (mac : Mac) (secret nonce : Bytes) : Except AuthError Bytes :=
  match tag? nonce with
  | none   => .ok (mac secret nonce)
  | some t => if t = tag then .ok (tag ++ mac secret nonce) else .error (.unsupportedDigest t)

/-- Whether an answer to a nonce is right. It may be tagged or not. -/
def verify (mac : Mac) (secret nonce response : Bytes) : Bool :=
  (after? tag response).getD response == mac secret nonce

/-- The answer to the message of a peer that challenges. -/
def reply (mac : Mac) (secret message : Bytes) : Except AuthError Bytes :=
  match after? marker message with
  | none       => .error (.noChallenge message.length)
  | some nonce =>
    if nonce.length < minNonce then .error (.challengeTooShort nonce.length)
    else respond mac secret nonce

/-- The part of the end that is challenged. -/
def answer (mac : Mac) (secret : Bytes) : Dialogue :=
  .receive fun message =>
    match reply mac secret message with
    | .error e     => .done (.error e)
    | .ok response =>
      .send response <| .receive fun verdict =>
        .done (if verdict = welcome then .ok () else .error .rejected)

/-- The nonce made of random bytes. -/
def nonce (random : Bytes) : Bytes := tag ++ random

/-- The part of the end that challenges. -/
def deliver (mac : Mac) (secret random : Bytes) : Dialogue :=
  .send (marker ++ nonce random) <| .receive fun response =>
    if verify mac secret (nonce random) response then .send welcome (.done (.ok ()))
    else .send failure (.done (.error .wrongDigest))

/-- The part of the end that connects: it is challenged first. -/
def connect (mac : Mac) (secret random : Bytes) : Dialogue :=
  (answer mac secret).andThen (deliver mac secret random)

/-- The part of the end that listens: it challenges first. -/
def listen (mac : Mac) (secret random : Bytes) : Dialogue :=
  (deliver mac secret random).andThen (answer mac secret)

/-- More steps than any two dialogues of these take together. -/
def maxSteps : Nat := 32

/-- One end that connects and one that listens. -/
def meet (mac : Mac) (secret random peerSecret peerRandom : Bytes) : Dialogue.Meeting :=
  Dialogue.meetFor maxSteps (connect mac secret random) (listen mac peerSecret peerRandom) [] []

end Challenge

end RemoteDebugger
