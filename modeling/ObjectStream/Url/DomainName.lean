/-
  ObjectStream.Url.DomainName

  Domain names in host position, brought into their ASCII form: characters are
  replaced as the mapping says, the text is put into its composed normal form,
  and each label with other characters than ASCII is written in Punycode. A label
  that is in Punycode already must be the one that this would give.
-/
import ObjectStream.Text.Direction
import ObjectStream.Text.Joining
import ObjectStream.Text.Mark
import ObjectStream.Text.NormalForm
import ObjectStream.Url.DomainName.Mapping
import ObjectStream.Url.Punycode

namespace ObjectStream.Url.DomainName

/-- The ASCII characters that no domain name holds. -/
def isForbidden (c : Char) : Bool :=
  c.toNat ≤ 0x20 || c.toNat = 0x7F || "%#/:<>?@[\\]^|".toList.contains c

/-- Whether a text is ASCII. -/
def isAscii (text : List Char) : Bool := text.all fun c => c.toNat < 0x80

/-- What a label in Punycode starts with. -/
def encodedMark : List Char := ['x', 'n', '-', '-']

/-- Whether a label is marked as Punycode. -/
def isEncoded (label : List Char) : Bool := encodedMark.isPrefixOf label

/-! ## Mapping -/

/-- A name with its characters replaced and in normal form; none if a character may not be there. -/
def mapped? (name : List Char) : Option (List Char) := do
  let name := NormalForm.compose (← name.mapM Mapping.ofChar?).flatten
  if name.any isForbidden then none else some name

/-- The labels of a name. -/
def labels (name : List Char) : List (List Char) :=
  name.splitOnP (· = '.')

/-- The most characters of a label that is written in Punycode. -/
def longestEncoded : Nat := 1000

/-- The most Punycode that is read. -/
def longestDecoded : Nat := 2000

/-- A label in its two forms. -/
structure Label where
  text : List Char
  ascii : List Char

/-- The label in Punycode behind its mark. What Punycode hides must need it, must be mapped and normal,
and may not look like Punycode. -/
def Label.ofEncoded? (code : List Char) : Option Label := do
  if longestDecoded < code.length then none
  else
    let text ← Punycode.decode? code
    if isAscii text || !text.all Mapping.isValid || NormalForm.compose text ≠ text || isEncoded text then
      none
    else some ⟨text, encodedMark ++ code⟩

/-- A label of a mapped name. -/
def Label.ofText? (text : List Char) : Option Label :=
  if isEncoded text then Label.ofEncoded? (text.drop encodedMark.length)
  else if isAscii text then some ⟨text, text⟩
  else if longestEncoded < text.length then none
  else some ⟨text, encodedMark ++ Punycode.encode text⟩

/-! ## Joiners -/

/-- The character that joins its neighbours. -/
def joiner : Char := Char.ofNat 0x200D

/-- The character that keeps its neighbours from joining. -/
def nonJoiner : Char := Char.ofNat 0x200C

/-- Whether the first character that is not transparent is of a class. -/
def seesFirst (p : Char → Bool) (text : List Char) : Bool :=
  ((text.dropWhile Joining.transparent.contains).head?).any p

/-- Whether joiners stand only where they make a difference: behind a sign that takes the vowel, or, if
they keep apart, between letters that would join. `before` is the text before, its last character
first. -/
def joinersFit (before : List Char) : List Char → Bool
  | [] => true
  | c :: rest =>
    let fits :=
      if c = joiner || c = nonJoiner then
        (before.head?.any fun last => CombiningClass.ofChar last = CombiningClass.virama) ||
          (c = nonJoiner && seesFirst Joining.joinsNext before && seesFirst Joining.joinsPrevious rest)
      else true
    fits && joinersFit (c :: before) rest

/-- Whether a label may stand in a name by itself. -/
def isLabel (label : List Char) : Bool :=
  !(label.head?.any TextMark.isMark) && joinersFit [] label

/-! ## Directions -/

/-- The roles that may stand in a label from right to left. -/
def rightToLeftRoles : List Direction :=
  [.rightToLeft, .arabicLetter, .arabicNumber, .europeanNumber, .europeanSeparator, .commonSeparator,
    .europeanTerminator, .otherNeutral, .boundaryNeutral, .nonspacingMark]

/-- The roles that may stand in a label from left to right. -/
def leftToRightRoles : List Direction :=
  [.leftToRight, .europeanNumber, .europeanSeparator, .commonSeparator, .europeanTerminator,
    .otherNeutral, .boundaryNeutral, .nonspacingMark]

/-- The role of the last character that is no mark. -/
def lastRole? (roles : List Direction) : Option Direction :=
  (roles.reverse.dropWhile (· = .nonspacingMark)).head?

/-- Whether the characters of a label have roles that cannot be mistaken for those of its neighbours. -/
def rolesFit (roles : List Direction) : Bool :=
  match roles.head? with
  | none => true
  | some .leftToRight =>
    roles.all leftToRightRoles.contains &&
      (lastRole? roles).any [.leftToRight, .europeanNumber].contains
  | some .rightToLeft | some .arabicLetter =>
    roles.all rightToLeftRoles.contains &&
      (lastRole? roles).any [.rightToLeft, .arabicLetter, .europeanNumber, .arabicNumber].contains &&
      !(roles.contains .europeanNumber && roles.contains .arabicNumber)
  | some _ => false

/-- Whether a role makes a name one with two directions. -/
def runsLeft (role : Direction) : Bool :=
  [.rightToLeft, .arabicLetter, .arabicNumber].contains role

/-- Whether the labels of a name can be told apart in two directions, if it has two. -/
def directionsFit (labels : List (List Char)) : Bool :=
  let roles := labels.map (·.map Direction.ofChar)
  !(roles.any (·.any runsLeft)) || roles.all rolesFit

/-! ## The ASCII form -/

/-- The ASCII form of a domain name, if it has one. Labels of ASCII characters alone always fit. -/
def toAscii? (name : List Char) : Option (List Char) := do
  let labels ← (labels (← mapped? name)).mapM Label.ofText?
  let texts := labels.map (·.text)
  if texts.all isAscii || (texts.all isLabel && directionsFit texts) then
    some (List.intercalate ['.'] (labels.map (·.ascii)))
  else none

end ObjectStream.Url.DomainName
