/-
  ObjectStream.Yaml.Token.Plain

  Plain scalars: text without quotes, which ends at an indicator, at a comment,
  between documents, or where a line is not indented enough.
-/
import ObjectStream.Yaml.Token.Fold

namespace ObjectStream.Yaml.Plain

/-- Where a plain scalar is read: whether inside brackets, and the least column of its later lines. -/
structure Context where
  inFlow : Bool
  indent : Int

/-- The characters that end a plain scalar inside brackets. -/
def isFlowIndicator (c : Char) : Bool := [',', '[', ']', '\x7b', '\x7d'].contains c

/-- What a plain scalar comes to. -/
structure Result where
  folding : Folding
  /-- Where its last character ends. -/
  stop : Mark
  cursor : Cursor

/-- Whether a plain scalar ends before some text; `fresh` tells that a blank, a break or the start of the
scalar comes before it. -/
def endsBefore (ctx : Context) (fresh broken : Bool) (m : Mark) (text : List Char) : Bool :=
  match text with
  | [] => true
  | c :: rest =>
    (fresh && (c = '#' || (m.column = 0 && startsDocumentMark text))) ||
      (broken && !ctx.inFlow && (m.column : Int) < ctx.indent) ||
      (c = ':' && startsBlank rest) || (ctx.inFlow && isFlowIndicator c)

/-- Whether a colon stands where it may not: inside brackets, before an indicator. -/
def hasStrayColon (ctx : Context) (text : List Char) : Bool :=
  match text with
  | ':' :: c :: _ => ctx.inFlow && (isFlowIndicator c || c = '?')
  | _ => false

/-- Reads a plain scalar. -/
def read (ctx : Context) (fresh : Bool) (f : Folding) (stop m : Mark) :
    List Char → Except Malformed Result
  | [] => .ok ⟨f, stop, ⟨[], m⟩⟩
  | '\r' :: '\n' :: rest => read ctx true (f.addBreak '\n') stop (m.newLine 2) rest
  | c :: rest =>
    if isBreak c then read ctx true (f.addBreak c) stop (m.newLine 1) rest
    else if isBlank c then
      if f.broken && (m.column : Int) < ctx.indent && c = '\t' then
        .error ⟨"found a tab character that violates indentation", m⟩
      else read ctx true (f.addBlank c) stop m.next rest
    else if fresh && endsBefore ctx fresh f.broken m (c :: rest) then .ok ⟨f, stop, ⟨c :: rest, m⟩⟩
    else if hasStrayColon ctx (c :: rest) then .error ⟨"found unexpected ':'", m⟩
    else if endsBefore ctx fresh f.broken m (c :: rest) then .ok ⟨f, stop, ⟨c :: rest, m⟩⟩
    else read ctx false (f.push c) m.next m.next rest

end ObjectStream.Yaml.Plain
