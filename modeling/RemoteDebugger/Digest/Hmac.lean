import RemoteDebugger.Digest.Sha256

/-!
# Keyed digests

HMAC with SHA-256: the digest of a message that only those who know the key can make.
-/

namespace RemoteDebugger.Hmac

/-- The size of a block of the digest in bytes. -/
def blockSize : Nat := 64

/-- A key of exactly one block: a longer one gives way to its digest, a shorter one is filled
with zeros. -/
def blockKey (key : Bytes) : Bytes :=
  let key := if blockSize < key.length then Sha256.digest key else key
  key ++ List.replicate (blockSize - key.length) 0

/-- The keyed digest of a message, 32 bytes. -/
def digest (key message : Bytes) : Bytes :=
  let key := blockKey key
  let inner := Sha256.digest (key.map (· ^^^ 0x36) ++ message)
  Sha256.digest (key.map (· ^^^ 0x5c) ++ inner)

end RemoteDebugger.Hmac
