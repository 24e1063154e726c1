/-
  ObjectStream.Base64.InPlace

  Base64 as it is written over the front of an output buffer: group by group, each
  into a slot of four places. The bytes of a group are joined to a number of 24
  bits, and each character is looked up for six of them. A place that is looked for
  outside of a group, of the alphabet or of a slot gives none.
-/
import ObjectStream.Base64.Standard

namespace ObjectStream.Base64.InPlace

/-- Three bytes as one number, the first one in front. -/
def joined (a b c : UInt8) : UInt32 := a.toUInt32 <<< 16 ||| b.toUInt32 <<< 8 ||| c.toUInt32

/-- The character of the six bits of a number above its lowest `shift` ones. -/
def symbolAt? (n shift : UInt32) : Option UInt8 :=
  Standard.alphabet[(n >>> shift).toNat &&& 0x3f]?

/-- The characters of a group of one, two or three bytes. -/
def group? (group : Bytes) : Option Bytes := do
  -- bytes that are missing count as zero, and no character stands for them alone
  let n := joined (← group[0]?) (group[1]?.getD 0) (group[2]?.getD 0)
  return [← symbolAt? n 18, ← symbolAt? n 12,
    ← if 1 < group.length then symbolAt? n 6 else some pad,
    ← if 2 < group.length then symbolAt? n 0 else some pad]

/-- The slots after the groups are written, for as long as there are groups and slots. -/
def writeGroups? (bytes slots : Bytes) : Option Bytes :=
  if bytes = [] ∨ slots = [] then some slots
  else do
    let text ← group? (bytes.take 3)
    let slot ← Bytes.overwrite? (slots.take 4) 0 4 text
    return slot ++ (← writeGroups? (bytes.drop 3) (slots.drop 4))
termination_by bytes.length
decreasing_by
  rename_i h
  have := List.length_pos_iff.mpr (not_or.mp h).1
  rw [List.length_drop]
  omega

/-- Writes the text of `bytes` over the front of a buffer that has room for it. -/
def encodeInto? (bytes buffer : Bytes) : Option (Except WriteError (Nat × Bytes)) :=
  let needed := encodedLength bytes.length
  if buffer.length < needed then some (.error .bufferTooSmall)
  else (writeGroups? bytes buffer).map fun written => .ok (needed, written)

/-- The text that is written over a new buffer of its length. -/
def encodeText? (bytes : Bytes) : Option (Except WriteError String) :=
  (encodeInto? bytes (List.replicate (encodedLength bytes.length) 0)).map fun result =>
    result.map fun (_, written) => String.ofList (written.map fun b => Char.ofNat b.toNat)

end ObjectStream.Base64.InPlace
