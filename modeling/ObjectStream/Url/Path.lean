/-
  ObjectStream.Url.Path

  Paths of URLs: the segments between slashes, with dot segments resolved while
  they are read.
-/
import ObjectStream.Url.Percent

namespace ObjectStream.Url

/-- A path: segments, or the text after a scheme that no slash follows. -/
inductive Path where
  | opaqueText (text : String)
  | segments (list : List String)
deriving DecidableEq, Repr

/-- The groups of schemes that are read differently. -/
inductive SchemeKind where
  /-- A scheme of the web, whose host must not be empty. -/
  | web
  | file
  | other
deriving DecidableEq, Repr

/-- Whether a backslash counts as a slash. -/
def SchemeKind.isSpecial : SchemeKind → Bool
  | .other => false
  | _ => true

/-- Whether a character separates segments. -/
def SchemeKind.isSlash (kind : SchemeKind) (c : Char) : Bool :=
  c = '/' || (kind.isSpecial && c = '\\')

namespace Path

/-- A segment that stands for its place. -/
def isDot (segment : List Char) : Bool :=
  [".".toList, "%2e".toList].contains (segment.map Char.toLower)

/-- A segment that stands for the place above. -/
def isDotDot (segment : List Char) : Bool :=
  ["..".toList, ".%2e".toList, "%2e.".toList, "%2e%2e".toList].contains (segment.map Char.toLower)

/-- A letter and a colon or a bar. -/
def isDrive : List Char → Bool
  | [letter, mark] => letter.isAlpha && (mark = ':' || mark = '|')
  | _ => false

/-- The segments read so far, newest first, and whether one of them is a drive at the start of a path of
the file scheme. -/
structure Walk where
  newestFirst : List (List Char)
  drive : Bool

/-- The path one place above; a drive stays. -/
def Walk.up (w : Walk) (kind : SchemeKind) : Walk :=
  match w.newestFirst with
  | [segment] => if kind = .file && isDrive segment then w else { w with newestFirst := [] }
  | newestFirst => { w with newestFirst := newestFirst.drop 1 }

/-- The walk after a segment. A dot segment at the end leaves an empty segment. -/
def Walk.step (w : Walk) (kind : SchemeKind) (segment : List Char) (last : Bool) : Walk :=
  let ended (w : Walk) := if last then { w with newestFirst := [] :: w.newestFirst } else w
  if isDotDot segment then ended (w.up kind)
  else if isDot segment then ended w
  else if kind = .file && w.newestFirst.isEmpty && isDrive segment then
    { newestFirst := [segment.take 1 ++ [':']], drive := true }
  else { w with newestFirst := Percent.encode Percent.inPath segment :: w.newestFirst }

/-- The pieces of a path text between slashes. -/
def split (kind : SchemeKind) : List Char → List (List Char)
  | [] => [[]]
  | c :: rest =>
    if kind.isSlash c then [] :: split kind rest
    else
      match split kind rest with
      | [] => [[c]]
      | piece :: pieces => (c :: piece) :: pieces

/-- Walks along all pieces. -/
def walk (kind : SchemeKind) : Walk → List (List Char) → Walk
  | w, [] => w
  | w, [segment] => w.step kind segment true
  | w, segment :: rest => walk kind (w.step kind segment false) rest

/-- Reads the text of a path after the authority: its segments, and whether it starts with a drive. -/
def read (kind : SchemeKind) (text : List Char) : Path × Bool :=
  let relative := match text with
    | c :: rest => if kind.isSlash c then rest else text
    | [] => []
  if text.isEmpty && !kind.isSpecial then (.segments [], false)
  else
    let w := walk kind ⟨[], false⟩ (split kind relative)
    (.segments (w.newestFirst.reverse.map String.ofList), w.drive)

/-- The path as text. -/
def text : Path → String
  | opaqueText t => t
  | segments list => String.join (list.map ("/" ++ ·))

end Path

end ObjectStream.Url
