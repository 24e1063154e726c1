/-
  ObjectStream.Yaml.Token.Property

  What stands before a node or a document: anchors, aliases, tags and
  directives.
-/
import ObjectStream.Text.Number
import ObjectStream.Text.Utf8
import ObjectStream.Yaml.Token

namespace ObjectStream.Yaml.Property

/-! ## Anchors -/

/-- Whether the name of an anchor may end before some text. -/
def endsName : List Char → Bool
  | [] => true
  | c :: _ => isBlank c || isBreak c || ['?', ':', ',', ']', '\x7d', '%', '@', '\x60'].contains c

/-- Reads the name of an anchor, from behind its sign. -/
def readName (c : Cursor) : Except Malformed (String × Cursor) :=
  let (name, after) := c.takeWhile isWord
  if name.isEmpty || !endsName after.rest then after.fail "did not find expected name of an anchor"
  else .ok (String.ofList name, after)

/-! ## Tags -/

/-- The signs of a tag besides the characters of a word. -/
def tagSigns : List Char :=
  [';', '/', '?', ':', '@', '&', '=', '+', '$', '.', '!', '~', '*', '\'', '(', ')']

/-- A character that stands for itself in a tag; some only where the tag is closed by a bracket or a
line. -/
def isTagChar (verbatim : Bool) (c : Char) : Bool :=
  isWord c || tagSigns.contains c || (verbatim && [',', '[', ']'].contains c)

/-- How many bytes follow the first byte of a character, as the byte tells. -/
def following? (octet : Nat) : Option Nat :=
  if octet < 0x80 then some 0
  else if octet < 0xC0 then none
  else if octet < 0xE0 then some 1
  else if octet < 0xF0 then some 2
  else if octet < 0xF8 then some 3
  else none

/-- The number of bytes that are due after an escaped byte. -/
def dueAfter? (due octet : Nat) : Option Nat :=
  if due = 0 then following? octet
  else if 0x80 ≤ octet && octet < 0xC0 then some (due - 1)
  else none

/-- Reads the characters of a tag as bytes, behind those in `bytes`, newest first. Bytes may be escaped;
`due` of them must be, to end a character. -/
def readTagBytes (verbatim : Bool) (due : Nat) (bytes : Bytes) (m : Mark) :
    List Char → Except Malformed (Bytes × Cursor)
  | '%' :: rest =>
    match rest with
    | high :: low :: rest =>
      match Ascii.hexDigit? high, Ascii.hexDigit? low with
      | some high, some low =>
        match dueAfter? due (high * 16 + low) with
        | some due => readTagBytes verbatim due (UInt8.ofNat (high * 16 + low) :: bytes) (m.advance 3) rest
        | none => .error ⟨"found an escaped byte that is part of no character", m⟩
      | _, _ => .error ⟨"did not find an escaped byte", m⟩
    | _ => .error ⟨"did not find an escaped byte", m⟩
  | [] =>
    if due = 0 then .ok (bytes, ⟨[], m⟩) else .error ⟨"did not find an escaped byte", m⟩
  | c :: rest =>
    if due ≠ 0 then .error ⟨"did not find an escaped byte", m⟩
    else if isTagChar verbatim c then readTagBytes verbatim 0 (UInt8.ofNat c.toNat :: bytes) m.next rest
    else .ok (bytes, ⟨c :: rest, m⟩)

/-- Reads the characters of a tag. A NUL, which only an escape can bring, ends the text but not the
reading. -/
def readTagText (verbatim : Bool) (c : Cursor) : Except Malformed (String × Cursor) := do
  let (bytes, after) ← readTagBytes verbatim 0 [] c.mark c.rest
  return (Utf8.decodeLossy (bytes.reverse.takeWhile (· ≠ 0)), after)

/-- Reads the characters of a tag, of which there must be one. -/
def readNonemptyTag (verbatim : Bool) (c : Cursor) : Except Malformed (String × Cursor) := do
  let (text, after) ← readTagText verbatim c
  if after.mark = c.mark then after.fail "did not find expected tag" else return (text, after)

/-- Reads what starts like a handle: an exclamation mark and a word; with the mark that closes a handle,
if it is there. -/
def readHandle (c : Cursor) : String × Cursor :=
  let (word, after) := (c.advance 1).takeWhile isWord
  if after.rest.head? = some '!' then (String.ofList ('!' :: word ++ ['!']), after.advance 1)
  else (String.ofList ('!' :: word), after)

/-- Whether what starts like a handle is one. -/
def isHandle (text : String) : Bool :=
  1 < text.length && text.toList.getLast? = some '!'

/-- Whether a tag may end before some text. -/
def endsTag (inFlow : Bool) (text : List Char) : Bool :=
  startsBlank text || (inFlow && text.head? = some ',')

/-- Reads handle and suffix of a tag, from its exclamation mark on. The handle is empty where the suffix
is the whole tag. -/
def readTagParts (c : Cursor) : Except Malformed (String × String × Cursor) := do
  if (c.rest.drop 1).head? = some '<' then
    let (tag, after) ← readNonemptyTag true (c.advance 2)
    if after.rest.head? = some '>' then return ("", tag, after.advance 1)
    else after.fail "did not find the expected '>'"
  else
    let (handle, behind) := readHandle c
    if isHandle handle then
      let (suffix, after) ← readNonemptyTag false behind
      return (handle, suffix, after)
    else
      let (more, after) ← readTagText false behind
      let suffix := (handle.drop 1).toString ++ more
      return if suffix.isEmpty then ("", "!", after) else ("!", suffix, after)

/-- Reads a tag, from its exclamation mark on. -/
def readTag (inFlow : Bool) (c : Cursor) : Except Malformed (TokenKind × Cursor) := do
  let (handle, suffix, after) ← readTagParts c
  if endsTag inFlow after.rest then return (.tag handle suffix, after)
  else after.fail "did not find expected blank or line break behind a tag"

/-! ## Directives -/

/-- Reads a number of a version. -/
def readVersionNumber (c : Cursor) : Except Malformed (Nat × Cursor) :=
  let (digits, after) := c.takeWhile Char.isDigit
  match Number.natIn? 10 digits with
  | none => c.fail "did not find expected version number"
  | some n =>
    if 9 < digits.length then c.fail "found extremely long version number" else .ok (n, after)

/-- Reads the value of a version directive. -/
def readVersion (c : Cursor) : Except Malformed (TokenKind × Cursor) := do
  let (major, c) ← readVersionNumber (c.skipWhile isBlank)
  if c.rest.head? = some '.' then
    let (minor, c) ← readVersionNumber (c.advance 1)
    return (.versionDirective major minor, c)
  else c.fail "did not find expected digit or '.' character"

/-- Reads the value of a tag directive. -/
def readTagDirective (c : Cursor) : Except Malformed (TokenKind × Cursor) := do
  let c := c.skipWhile isBlank
  let starts := c.rest.head? = some '!'
  let (handle, c) := readHandle c
  if !starts || (handle ≠ "!" && !isHandle handle) then c.fail "did not find expected '!'"
  else if !(c.rest.head?.any isBlank) then c.fail "did not find expected blank behind a handle"
  else
    let (lead, c) ← readNonemptyTag true (c.skipWhile isBlank)
    if startsBlank c.rest then return (.tagDirective handle lead, c)
    else c.fail "did not find expected blank or line break"

/-- Reads a directive, from its percent sign to the start of the next line. -/
def readDirective (c : Cursor) : Except Malformed (TokenKind × Cursor) := do
  let (name, c) := (c.advance 1).takeWhile isWord
  if !startsBlank c.rest then c.fail "found unexpected character in the name of a directive"
  else
    let (kind, c) ← match String.ofList name with
      | "YAML" => readVersion c
      | "TAG" => readTagDirective c
      | _ => c.fail "found unknown directive name"
    return (kind, ← c.endLine)

end ObjectStream.Yaml.Property
