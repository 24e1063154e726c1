/-
  ObjectStream.Yaml.Token.Fold

  The text of a scalar while it is read, with the blanks and breaks that wait
  until it is known whether more text follows. A single break between two pieces
  of text becomes a space; of several, the first is dropped.
-/
import ObjectStream.Yaml.Cursor

namespace ObjectStream.Yaml

/-- Text under way, newest characters first. -/
structure Folding where
  /-- The text that is settled. -/
  text : List Char
  /-- Blanks after it, on the same line. -/
  blanks : List Char
  /-- The first break after it. -/
  firstBreak : List Char
  /-- The breaks after that one. -/
  moreBreaks : List Char
  /-- Whether the line of the text has ended. -/
  broken : Bool

namespace Folding

/-- No text. -/
def empty : Folding := ⟨[], [], [], [], false⟩

/-- After a blank. Blanks at the start of a line do not count. -/
def addBlank (f : Folding) (c : Char) : Folding :=
  if f.broken then f else { f with blanks := c :: f.blanks }

/-- After a break. Blanks before it do not count. -/
def addBreak (f : Folding) (c : Char) : Folding :=
  if f.broken then { f with moreBreaks := keptBreak c :: f.moreBreaks }
  else { f with blanks := [], firstBreak := [keptBreak c], broken := true }

/-- What waits is settled, since text follows. -/
def settle (f : Folding) : Folding :=
  let text :=
    if f.broken then
      if f.firstBreak = ['\n'] then
        if f.moreBreaks.isEmpty then ' ' :: f.text else f.moreBreaks ++ f.text
      else f.moreBreaks ++ f.firstBreak ++ f.text
    else f.blanks ++ f.text
  ⟨text, [], [], [], false⟩

/-- After a break that was escaped: what came before it is text, and nothing of it is kept. -/
def addEscapedBreak (f : Folding) : Folding := { f.settle with broken := true }

/-- After a character of text. -/
def push (f : Folding) (c : Char) : Folding :=
  let f := f.settle
  { f with text := c :: f.text }

/-- The settled text. -/
def result (f : Folding) : String := String.ofList f.text.reverse

end Folding

end ObjectStream.Yaml
