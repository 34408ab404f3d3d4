import OrderDesk.Text.Basic
import OrderDesk.Url.Percent

/-!
# Paths

The path of an address is a list of segments with a slash before each, or, for an address that names
nothing on a host, a text of its own.  Reading resolves dot segments: one dot stands for the place
where it is, two dots take back the segment before.  A dot may be written as `%2e`.  A segment that
is the letter of a drive is never taken back.
-/

namespace OrderDesk.Url

/-- A path. -/
inductive Path where
  /-- A text without structure. -/
  | plain (s : List Char)
  | segments (parts : List (List Char))
  deriving DecidableEq, Repr

namespace Path

/-- A segment with its encoded dots as dots. -/
def dots : List Char → List Char
  | '%' :: '2' :: 'e' :: s => '.' :: dots s
  | '%' :: '2' :: 'E' :: s => '.' :: dots s
  | c :: s => c :: dots s
  | [] => []

/-- One dot. -/
def isHere (part : List Char) : Bool := dots part == ['.']

/-- Two dots. -/
def isBack (part : List Char) : Bool := dots part == ['.', '.']

/-- The letter of a drive: a letter and a colon or a bar. -/
def isDrive : List Char → Bool
  | [c, d] => c.isAlpha && (d == ':' || d == '|')
  | _ => false

/-- Takes the last segment back. -/
def back : List (List Char) → List (List Char)
  | [] => []
  | last :: parts => if isDrive last then last :: parts else parts

/-- Resolves segments; those before are given, the last one first.  A dot segment at the end leaves
an empty segment. -/
def resolve : List (List Char) → List (List Char) → List (List Char)
  | done, [] => done.reverse
  | done, part :: parts =>
    if isBack part then resolve (if parts.isEmpty then [] :: back done else back done) parts
    else if isHere part then resolve (if parts.isEmpty then [] :: done else done) parts
    else resolve (part :: done) parts

/-- Reads the text after the first slash; with a special scheme a backslash is a slash. -/
def ofText (special : Bool) (s : List Char) : List (List Char) :=
  let s := if special then s.map fun c => if c = '\\' then '/' else c else s
  resolve [] ((Text.splitOn '/' s).map (encode inPath))

/-- The segments of a file: a drive is written with a colon, and no empty segments stand in front.
-/
def ofFile (parts : List (List Char)) : List (List Char) :=
  let parts := parts.map fun part => if isDrive part then part.take 1 ++ [':'] else part
  match parts.dropWhile List.isEmpty with
  | [] => [[]]
  | parts => parts

/-- The text of a path. -/
def text : Path → List Char
  | plain s => s
  | segments parts => parts.flatMap fun part => '/' :: part

end Path

end OrderDesk.Url
