import OrderDesk.Decimal.Integer
import OrderDesk.Pattern.Node
import OrderDesk.Text.Basic
import OrderDesk.Uuid

/-!
# Reading patterns

The grammar of regular expressions without look-around and without references back: literals,
classes with set operations, escapes, groups, choices, counted repetitions, and flags `imsUxRu`.
Flags set inside a group hold to its end.
-/

namespace OrderDesk.Pattern

/-- What the flags say. -/
structure Modes where
  /-- Letters stand for both cases. -/
  caseless : Bool
  /-- Line ends count as text ends. -/
  multiline : Bool
  /-- The dot matches line feeds. -/
  dotAll : Bool
  /-- Greed is the other way round, which decides nothing here. -/
  swapGreed : Bool
  /-- Classes are those of Unicode. -/
  unicode : Bool
  /-- Blanks and comments in the pattern are skipped. -/
  spaced : Bool
  /-- Carriage returns end lines too. -/
  crlf : Bool
  deriving Repr

/-- The modes at the start of a pattern. -/
def Modes.start : Modes := ⟨false, false, false, false, true, false, false⟩

/-- Sets the mode of a flag. -/
def Modes.set? (m : Modes) (flag : Char) (value : Bool) : Option Modes :=
  match flag with
  | 'i' => some { m with caseless := value }
  | 'm' => some { m with multiline := value }
  | 's' => some { m with dotAll := value }
  | 'U' => some { m with swapGreed := value }
  | 'u' => some { m with unicode := value }
  | 'x' => some { m with spaced := value }
  | 'R' => some { m with crlf := value }
  | _ => none

/-- Skips blanks and comments where the modes say so. -/
def skipSpaced : Nat → List Char → List Char
  | 0, s => s
  | fuel + 1, s =>
    match s.dropWhile Text.isBlank with
    | '#' :: s => skipSpaced fuel (s.dropWhile (· != '\n'))
    | s => s

/-- Skips blanks and comments where the modes say so. -/
def Modes.skip (m : Modes) (s : List Char) : List Char :=
  if m.spaced then skipSpaced (s.length + 1) s else s

/-! ## Characters and classes in the given modes -/

/-- The set with the case counterparts of its members where the modes say so. -/
def Modes.close (m : Modes) (set : CharSet) : CharSet :=
  if m.caseless then (if m.unicode then set.caseClosure else set.asciiCaseClosure) else set

/-- A literal character. -/
def Modes.literal (m : Modes) (c : Char) : Node := .char (m.close (.single c))

/-- What the dot stands for; without Unicode it could split a character, which is refused. -/
def Modes.dot? (m : Modes) : Option Node :=
  if !m.unicode then none
  else if m.dotAll then some (.char .full)
  else some (.char ((CharSet.ofRanges (if m.crlf then [(0xa, 0xa), (0xd, 0xd)] else [(0xa, 0xa)])).compl))

/-- The start anchor. -/
def Modes.caret (m : Modes) : Place :=
  if m.multiline then (if m.crlf then .crlfStart else .lineStart) else .textStart

/-- The end anchor. -/
def Modes.dollar (m : Modes) : Place :=
  if m.multiline then (if m.crlf then .crlfEnd else .lineEnd) else .textEnd

/-- Word characters. -/
def Modes.word (m : Modes) : CharSet := if m.unicode then .word else .asciiWord

/-- A set turned round; without Unicode the result must not hold parts of characters. -/
def Modes.compl? (m : Modes) (set : CharSet) : Option CharSet :=
  if m.unicode || set.compl.isAscii then some set.compl else none

/-! ## Escapes -/

/-- What an escape stands for. -/
inductive Escape where
  | literal (c : Char)
  | class (set : CharSet)
  | place (p : Place)
  deriving Repr

/-- The character with the given code point. -/
def scalar? (n : Nat) : Option Char :=
  if n < 0xd800 ∨ (0xdfff < n ∧ n ≤ CharSet.maxCode) then some (Char.ofNat n) else none

/-- A code point in hexadecimal: digits in braces, or exactly `width` digits.  Without Unicode two
digits stand for a byte, which has to be a character by itself. -/
def hexadecimal? (m : Modes) (width : Nat) (s : List Char) : Option (Char × List Char) :=
  match m.skip s with
  | '\x7b' :: s => do
    let inner := s.takeWhile (· != '\x7d')
    let digits := if m.spaced then inner.filter (!Text.isBlank ·) else inner
    guard (!digits.isEmpty)
    match s.drop inner.length with
    | _ :: rest =>
      let n ← Uuid.readHexadecimal? digits
      return (← scalar? n, rest)
    | [] => none
  | s => do
    guard ((s.take width).length = width)
    let n ← Uuid.readHexadecimal? (s.take width)
    guard (m.unicode || width ≠ 2 || n < 0x80)
    return (← scalar? n, s.drop width)

/-- The kind of place after `\b`: the names in braces, else a boundary. -/
def boundary? (m : Modes) (s : List Char) : Option (Place × List Char) :=
  match s with
  | '\x7b' :: inner =>
    let isNameChar (c : Char) : Bool := c.isAlpha || c == '-'
    match m.skip inner with
    | [] => none
    | c :: inner' =>
      if isNameChar c then
        let name := (c :: inner').takeWhile isNameChar
        match (c :: inner').drop name.length |> m.skip with
        | '\x7d' :: rest =>
          match String.ofList name with
          | "start" => some (.wordStart m.word, rest)
          | "end" => some (.wordEnd m.word, rest)
          | "start-half" => some (.notAfterWord m.word, rest)
          | "end-half" => some (.notBeforeWord m.word, rest)
          | _ => none
        | _ => none
      else some (.boundary m.word, s)
  | _ => some (.boundary m.word, s)

/-- An escape after its backslash. -/
def escape? (m : Modes) : List Char → Option (Escape × List Char)
  | [] => none
  | c :: s =>
    let className (unicode ascii : CharSet) : CharSet := if m.unicode then unicode else ascii
    match c with
    | 'x' => (hexadecimal? m 2 s).map fun (c, s) => (.literal c, s)
    | 'u' => (hexadecimal? m 4 s).map fun (c, s) => (.literal c, s)
    | 'U' => (hexadecimal? m 8 s).map fun (c, s) => (.literal c, s)
    | 'd' => some (.class (className .digit .asciiDigit), s)
    | 's' => some (.class (className .space .asciiSpace), s)
    | 'w' => some (.class (className .word .asciiWord), s)
    | 'D' => (m.compl? (className .digit .asciiDigit)).map fun set => (.class set, s)
    | 'S' => (m.compl? (className .space .asciiSpace)).map fun set => (.class set, s)
    | 'W' => (m.compl? (className .word .asciiWord)).map fun set => (.class set, s)
    | 'a' => some (.literal '\x07', s)
    | 'f' => some (.literal '\x0c', s)
    | 't' => some (.literal '\t', s)
    | 'n' => some (.literal '\n', s)
    | 'r' => some (.literal '\r', s)
    | 'v' => some (.literal '\x0b', s)
    | 'A' => some (.place .textStart, s)
    | 'z' => some (.place .textEnd, s)
    | 'b' => (boundary? m s).map fun (p, s) => (.place p, s)
    | 'B' => some (.place (.inside m.word), s)
    | '<' => some (.place (.wordStart m.word), s)
    | '>' => some (.place (.wordEnd m.word), s)
    | c => if c.toNat < 0x80 && !c.isAlphanum then some (.literal c, s) else none

/-! ## Classes -/

/-- An operation between sets. -/
inductive SetOperation where
  /-- Members of both. -/
  | inter
  /-- Members of the first only. -/
  | diff
  /-- Members of exactly one. -/
  | symmDiff
  deriving Repr

/-- Carries a waiting operation out. -/
def finishOperation (waiting : Option (CharSet × SetOperation)) (set : CharSet) : CharSet :=
  match waiting with
  | none => set
  | some (left, .inter) => left.inter set
  | some (left, .diff) => left.diff set
  | some (left, .symmDiff) => left.symmDiff set

/-- A class of ASCII characters by name after the bracket that opens it, and whether it is turned
round. -/
def namedClass? : List Char → Option (CharSet × Bool × List Char)
  | ':' :: s => do
    let (negated, s) := match s with
      | '^' :: s => (true, s)
      | s => (false, s)
    let name := s.takeWhile (· != ':')
    match s.drop name.length with
    | ':' :: ']' :: rest =>
      let set ← CharSet.asciiClass? (String.ofList name)
      return (set, negated, rest)
    | _ => none
  | _ => none

/-- A member of a class: a character or a class.  Without Unicode a character has to be one of
ASCII. -/
def member? (m : Modes) (s : List Char) : Option (Escape × List Char) := do
  let (e, rest) ← match s with
    | [] => none
    | '\\' :: s => escape? m s
    | c :: s => some (.literal c, s)
  match e with
  | .literal c => guard (m.unicode || c.toNat < 0x80)
  | _ => pure ()
  return (e, rest)

/-- A member or a range of a class. -/
def range? (m : Modes) (s : List Char) : Option (CharSet × List Char) := do
  let (first, s) ← member? m s
  let s := m.skip s
  let alone : Option (CharSet × List Char) := match first with
    | .literal c => some (m.close (.single c), s)
    | .class set => some (m.close set, s)
    | .place _ => none
  match s with
  | [] => none
  | '-' :: rest =>
    match m.skip rest with
    | [] => none
    | ']' :: _ => alone
    | '-' :: _ => alone
    | _ =>
      let (last, rest) ← member? m (m.skip rest)
      match first, last with
      | .literal a, .literal b =>
        if a.toNat ≤ b.toNat then some (m.close ⟨[(a.toNat, b.toNat)]⟩, rest) else none
      | _, _ => none
  | _ => alone

/-- Hyphens at the start of a class, which stand for themselves. -/
def leadingHyphens (m : Modes) : Nat → List Char → Bool → Bool × List Char
  | 0, s, found => (found, s)
  | fuel + 1, s, found =>
    match s with
    | '-' :: s => leadingHyphens m fuel (m.skip s) true
    | s => (found, s)

mutual

/-- A class after the bracket that opens it. -/
def class? (m : Modes) : Nat → List Char → Option (CharSet × List Char)
  | 0, _ => none
  | fuel + 1, s => do
    let (negated, s) := match m.skip s with
      | '^' :: s => (true, m.skip s)
      | s => (false, s)
    let (hyphen, s) := leadingHyphens m s.length s false
    let start : CharSet := if hyphen then .single '-' else .empty
    let (start, s) := match hyphen, s with
      | false, ']' :: s => (CharSet.single ']', m.skip s)
      | _, s => (start, s)
    let (set, s) ← classItems? m fuel none start s
    if negated then return (← m.compl? set, s) else return (set, s)

/-- The rest of a class, with the operation that waits and the set on its right so far. -/
def classItems? (m : Modes) :
    Nat → Option (CharSet × SetOperation) → CharSet → List Char → Option (CharSet × List Char)
  | 0, _, _, _ => none
  | fuel + 1, waiting, set, s =>
    let operation (op : SetOperation) (s : List Char) :=
      classItems? m fuel (some (finishOperation waiting set, op)) .empty s
    match m.skip s with
    | [] => none
    | ']' :: s => some (finishOperation waiting set, s)
    | '[' :: s =>
      match namedClass? s with
      | some (named, negated, s) => do
        let named ← if negated then m.compl? (m.close named) else some (m.close named)
        classItems? m fuel waiting (set.union named) s
      | none => do
        let (inner, s) ← class? m fuel s
        classItems? m fuel waiting (set.union inner) s
    | '&' :: '&' :: s => operation .inter s
    | '-' :: '-' :: s => operation .diff s
    | '~' :: '~' :: s => operation .symmDiff s
    | s => do
      let (found, s) ← range? m s
      classItems? m fuel waiting (set.union found) s

end

/-! ## Groups and repetitions -/

/-- The head of a group: its flags, whether it is only a change of flags, its name, and the rest. -/
structure GroupHead where
  modes : Modes
  /-- The group is nothing but a change of flags. -/
  flagsOnly : Bool
  name : Option (List Char)

/-- Flags up to a colon or a closing parenthesis. -/
def flags? : List Char → Modes → Bool → Bool → List Char → Option (Modes × List Char)
  | [], _, _, _, _ => none
  | c :: s, m, negated, dangling, seen =>
    if c = ':' ∨ c = ')' then (if dangling then none else some (m, c :: s))
    else if c ∈ seen then none
    else if c = '-' then flags? s m true true (c :: seen)
    else do
      let m ← m.set? c (!negated)
      flags? s m negated false (c :: seen)

/-- A character that may stand in the name of a group. -/
def isNameChar (first : Bool) (c : Char) : Bool :=
  c == '_' || (CharSet.word.mem c && !CharSet.digit.mem c) ||
    (!first && (c == '.' || c == '[' || c == ']' || CharSet.digit.mem c))

/-- The name of a group up to the closing angle. -/
def groupName? (s : List Char) : Option (List Char × List Char) :=
  let name := s.takeWhile (· != '>')
  match name, s.drop name.length with
  | c :: cs, _ :: rest =>
    if isNameChar true c && cs.all (isNameChar false) then some (name, rest) else none
  | _, _ => none

/-- The head of a group after its opening parenthesis. -/
def groupHead? (m : Modes) (s : List Char) : Option (GroupHead × List Char) :=
  match m.skip s with
  | '?' :: 'P' :: '<' :: s => (groupName? s).map fun (name, s) => (⟨m, false, some name⟩, s)
  | '?' :: '<' :: s => (groupName? s).map fun (name, s) => (⟨m, false, some name⟩, s)
  | '?' :: s => do
    let (modes, rest) ← flags? s m false false []
    match rest with
    | ':' :: rest => return (⟨modes, false, none⟩, rest)
    | ')' :: rest => if s.head? = some ')' then none else return (⟨modes, true, none⟩, rest)
    | _ => none
  | s => some (⟨m, false, none⟩, s)

/-- A number in a counted repetition, with blanks around it. -/
def count? (s : List Char) : Option Nat × List Char :=
  let s := s.dropWhile Text.isBlank
  let digits := s.takeWhile fun c => (Decimal.digit? c).isSome
  let n := (Decimal.natural? digits).filter (· < UInt32.size)
  (n, (s.drop digits.length).dropWhile Text.isBlank)

/-- The bounds of a counted repetition after its opening brace. -/
def bounds? (m : Modes) (s : List Char) : Option ((Nat × Option Nat) × List Char) := do
  let (least, s) := count? (m.skip s)
  match s with
  | ',' :: s =>
    match m.skip s with
    | '\x7d' :: s => return ((← least, none), s)
    | s =>
      let least ← least
      let (most, s) := count? s
      let most ← most
      guard (least ≤ most)
      match s with
      | '\x7d' :: s => return ((least, some most), s)
      | _ => none
  | '\x7d' :: s => return ((← least, ← least), s)
  | _ => none

/-- Drops the mark of a lazy repetition. -/
def dropLazy : List Char → List Char
  | '?' :: s => s
  | s => s

/-- The items of a sequence, the last one first; a change of flags is no item that could repeat. -/
def sequence (items : List (Option Node)) : Node :=
  match items.reverse.filterMap id with
  | [] => .empty
  | first :: rest => rest.foldl .both first

/-- The choice between the branches, the last one first. -/
def choice (last : Node) (earlier : List Node) : Node :=
  earlier.foldl (fun node branch => .either branch node) last

/-- Reads up to the end of a group, or of the pattern at depth 0.  The arguments are the depth, the
modes, the names of groups so far, the finished branches and the items of the branch at hand, last
ones first. -/
def group? : Nat → Nat → Modes → List (List Char) → List Node → List (Option Node) → List Char →
    Option (Node × List (List Char) × List Char)
  | 0, _, _, _, _, _, _ => none
  | fuel + 1, depth, m, names, branches, items, s =>
    let item (node : Node) (s : List Char) := group? fuel depth m names branches (some node :: items) s
    let repeatLast (least : Nat) (most : Option Nat) (s : List Char) :=
      match items with
      | some node :: items =>
        group? fuel depth m names branches (some (.repeated node least most) :: items) (dropLazy s)
      | _ => none
    match m.skip s with
    | [] => if depth = 0 then some (choice (sequence items) branches, names, []) else none
    | ')' :: s => if depth = 0 then none else some (choice (sequence items) branches, names, s)
    | '|' :: s => group? fuel depth m names (sequence items :: branches) [] s
    | '(' :: s => do
      let (head, s) ← groupHead? m s
      if head.flagsOnly then group? fuel depth head.modes names branches (none :: items) s
      else
        let names ← match head.name with
          | some name => if name ∈ names then none else some (name :: names)
          | none => some names
        let (node, names, s) ← group? fuel (depth + 1) head.modes names [] [] s
        group? fuel depth m names branches (some node :: items) s
    | '[' :: s => do
      let (set, s) ← class? m (2 * s.length + 2) s
      item (.char set) s
    | '*' :: s => repeatLast 0 none s
    | '+' :: s => repeatLast 1 none s
    | '?' :: s => repeatLast 0 (some 1) s
    | '\x7b' :: s => do
      let ((least, most), s) ← bounds? m s
      repeatLast least most s
    | '.' :: s => do item (← m.dot?) s
    | '^' :: s => item (.place m.caret) s
    | '$' :: s => item (.place m.dollar) s
    | '\\' :: s => do
      let (e, s) ← escape? m s
      match e with
      | .literal c => item (m.literal c) s
      | .class set => item (.char (m.close set)) s
      | .place p => item (.place p) s
    | c :: s => item (m.literal c) s

end OrderDesk.Pattern

namespace OrderDesk

/-- A pattern with the text it was read from. -/
structure Pattern where
  source : String
  /-- What it says. -/
  node : Pattern.Node
  deriving Repr

namespace Pattern

/-- Reads a pattern, unless it is too heavy. -/
def ofText? (source : String) : Option Pattern :=
  match group? (2 * source.length + 2) 0 .start [] [] [] source.toList with
  | some (node, _, _) => if node.weight ≤ maxWeight then some ⟨source, node⟩ else none
  | none => none

end Pattern

end OrderDesk
