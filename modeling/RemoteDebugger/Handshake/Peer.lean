import RemoteDebugger.Handshake.Challenge

/-!
# Peers under challenge

The ways in which a peer may answer a challenge, the right ones and those that come close.
-/

namespace RemoteDebugger.Challenge

/-- How a peer answers a nonce. -/
inductive Peer where
  /-- The digest with its tag. -/
  | tagged
  /-- The digest alone. -/
  | raw
  /-- The digest with its tag twice. -/
  | doubleTag
  /-- The digest with another tag. -/
  | otherTag (tag : Bytes)
  /-- The digest of the nonce without its tag. -/
  | untaggedNonce
  /-- The first bytes of the digest. -/
  | truncated (length : Nat)
  /-- The digest and more bytes. -/
  | extended (tail : Bytes)
  /-- The digest with one bit changed, the lowest of a byte. -/
  | flip (index : Nat)
  /-- The nonce itself. -/
  | echo
  /-- Some other message. -/
  | payload (message : Bytes)
  /-- Bytes without a frame. -/
  | stream (bytes : Bytes)

/-- The bytes that a peer sends for a nonce. -/
def Peer.bytes (mac : Mac) (secret nonce : Bytes) (p : Peer) : Bytes :=
  let d := mac secret nonce
  match p with
  | .tagged        => Frame.encode (tag ++ d)
  | .raw           => Frame.encode d
  | .doubleTag     => Frame.encode (tag ++ tag ++ d)
  | .otherTag t    => Frame.encode (t ++ d)
  | .untaggedNonce => Frame.encode (mac secret (nonce.drop tag.length))
  | .truncated n   => Frame.encode (d.take n)
  | .extended t    => Frame.encode (d ++ t)
  | .flip i        => Frame.encode (d.modify i (· ^^^ 1))
  | .echo          => Frame.encode nonce
  | .payload m     => Frame.encode m
  | .stream s      => s

/-- A challenge delivered to a peer. -/
def challenge (mac : Mac) (secret random peerSecret : Bytes) (p : Peer) : Dialogue.Outcome :=
  (deliver mac secret random).run (p.bytes mac peerSecret (nonce random))

end RemoteDebugger.Challenge
