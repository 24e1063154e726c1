/-
  ObjectStream.Digest.Hmac

  Keyed digests: the digest of a message under a secret key, with SHA-1 inside.
-/
import ObjectStream.Digest.Sha1

namespace ObjectStream.Hmac

/-- A key that is longer than a block is hashed; what results is filled with zeros to one block. -/
def blockKey (key : Bytes) : Bytes :=
  let short := if key.length > Sha1.blockLength then Sha1.digest key else key
  short ++ List.replicate (Sha1.blockLength - short.length) 0

/-- Each byte of the block key combined with the byte of a pad. -/
def padded (key : Bytes) (pad : UInt8) : Bytes :=
  (blockKey key).map (· ^^^ pad)

/-- The keyed digest of a message: the key under one pad and the message are hashed, then the key
under the other pad and that digest. -/
def digest (key message : Bytes) : Bytes :=
  let inner := ((Sha1.Hasher.new.update (padded key 0x36)).update message).digest
  ((Sha1.Hasher.new.update (padded key 0x5c)).update inner).digest

/-- A block key fills a block exactly. -/
theorem length_blockKey (key : Bytes) : (blockKey key).length = Sha1.blockLength := by
  have h20 : (Sha1.digest key).length = 20 := Sha1.length_digest key
  unfold blockKey Sha1.blockLength
  split
  · simp [h20]
  · simp; omega

/-- A keyed digest has twenty bytes. -/
theorem length_digest (key message : Bytes) : (digest key message).length = Sha1.digestLength :=
  Sha1.Hasher.length_digest _

end ObjectStream.Hmac
