/-
  ObjectStream.Digest.Standard

  The SHA-1 digest as FIPS 180-4 defines it, and keyed digests as RFC 2104 defines
  them: functions of a whole message, in terms of the words and blocks at each
  place of the padded message. Nothing here knows how a message arrives.
-/
import ObjectStream.Bytes
import ObjectStream.Positional

namespace ObjectStream.Standard

/-- A 32-bit word; sums are modulo 2^32. -/
abbrev Word := BitVec 32

/-- A number in `count` bytes, most significant first; what does not fit is dropped. -/
def bigEndian (count n : Nat) : Bytes := (Positional.digits 256 count n).map UInt8.ofNat

/-- The word whose first byte is at place `i`. -/
def wordAt (bytes : Bytes) (i : Nat) : Word :=
  BitVec.ofNat 32 (Positional.value 256 ([bytes.getD i 0, bytes.getD (i + 1) 0, bytes.getD (i + 2) 0,
    bytes.getD (i + 3) 0].map UInt8.toNat))

/-! ## Functions and constants -/

def ch (x y z : Word) : Word := (x &&& y) ^^^ (~~~x &&& z)

def parity (x y z : Word) : Word := x ^^^ y ^^^ z

def maj (x y z : Word) : Word := (x &&& y) ^^^ (x &&& z) ^^^ (y &&& z)

/-- The function of step `t`. -/
def f (t : Nat) : Word → Word → Word → Word :=
  if t < 20 then ch else if t < 40 then parity else if t < 60 then maj else parity

/-- The constant of step `t`. -/
def k (t : Nat) : Word :=
  if t < 20 then 0x5a827999#32
  else if t < 40 then 0x6ed9eba1#32
  else if t < 60 then 0x8f1bbcdc#32
  else 0xca62c1d6#32

/-! ## One block -/

/-- The five words of a hash value, and the five working variables. -/
structure Words where
  a : Word
  b : Word
  c : Word
  d : Word
  e : Word

/-- The initial hash value. -/
def initial : Words :=
  ⟨0x67452301#32, 0xefcdab89#32, 0x98badcfe#32, 0x10325476#32, 0xc3d2e1f0#32⟩

/-- Word `t` of the message schedule of a block with the words `m`. -/
def schedule (m : Nat → Word) (t : Nat) : Word :=
  if t < 16 then m t
  else
    (schedule m (t - 3) ^^^ schedule m (t - 8) ^^^ schedule m (t - 14) ^^^
      schedule m (t - 16)).rotateLeft 1

/-- Step `t`. -/
def step (w : Nat → Word) (v : Words) (t : Nat) : Words :=
  ⟨v.a.rotateLeft 5 + f t v.b v.c v.d + v.e + k t + w t, v.a, v.b.rotateLeft 30, v.c, v.d⟩

/-- The hash value after a block with the words `m`. -/
def compress (h : Words) (m : Nat → Word) : Words :=
  let v := (List.range 80).foldl (step (schedule m)) h
  ⟨h.a + v.a, h.b + v.b, h.c + v.c, h.d + v.d, h.e + v.e⟩

/-! ## Whole messages -/

/-- How many zero bytes stand behind the one bit that ends a message of `length` bytes. -/
def zeroCount (length : Nat) : Nat := (119 - length % 64) % 64

/-- There are as few of them as make 56 bytes, modulo 64, with the message and the byte of the one
bit. -/
theorem zeroCount_least (length : Nat) :
    (length + 1 + zeroCount length) % 64 = 56 ∧
      ∀ n, (length + 1 + n) % 64 = 56 → zeroCount length ≤ n := by
  unfold zeroCount
  exact ⟨by omega, fun n h => by omega⟩

/-- A message with its padding: a one bit, zeros, and its length in bits. -/
def padded (message : Bytes) : Bytes :=
  message ++ 0x80 :: List.replicate (zeroCount message.length) 0 ++ bigEndian 8 (8 * message.length)

/-- The padded message consists of whole blocks. -/
theorem length_padded (message : Bytes) : (padded message).length % 64 = 0 := by
  have hzeros := (zeroCount_least message.length).1
  simp only [padded, bigEndian, List.length_append, List.length_cons, List.length_replicate,
    List.length_map, Positional.length_digits]
  omega

/-- Word `t` of block `i`. -/
def blockWord (bytes : Bytes) (i t : Nat) : Word := wordAt bytes (64 * i + 4 * t)

/-- The SHA-1 digest of a message. -/
def sha1 (message : Bytes) : Bytes :=
  let m := padded message
  let h := (List.range (m.length / 64)).foldl (fun h i => compress h (blockWord m i)) initial
  [h.a, h.b, h.c, h.d, h.e].flatMap fun w => bigEndian 4 w.toNat

/-! ## Keyed digests -/

/-- The key of a keyed digest: hashed if it is longer than a block, and filled with zeros to one
block. -/
def keyBlock (hash : Bytes → Bytes) (blockLength : Nat) (key : Bytes) : Bytes :=
  let key := if key.length ≤ blockLength then key else hash key
  key ++ List.replicate (blockLength - key.length) 0

/-- The keyed digest of a message, over a digest of blocks of some length. -/
def hmac (hash : Bytes → Bytes) (blockLength : Nat) (key message : Bytes) : Bytes :=
  let k := keyBlock hash blockLength key
  hash (k.map (· ^^^ 0x5c) ++ hash (k.map (· ^^^ 0x36) ++ message))

end ObjectStream.Standard
