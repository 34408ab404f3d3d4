import OrderDesk.Phrase.Message

/-!
# Reading phrase files

The grammar of Fluent.  An entry that does not follow it spoils the whole file.

A value may run over several lines.  Its further lines are indented, and the indentation common to
those lines that begin with text is taken away; a placeable at the very start of a line makes it
zero.  Blank lines inside a value are kept.
-/

namespace OrderDesk.Phrase

/-! ## Blanks and names -/

/-- Drops blanks within the line and counts them. -/
def skipInline (s : List Char) : Nat × List Char :=
  ((s.takeWhile (· == ' ')).length, s.dropWhile (· == ' '))

/-- Drops one line end. -/
def skipLineEnd? : List Char → Option (List Char)
  | '\n' :: s => some s
  | '\r' :: '\n' :: s => some s
  | _ => none

/-- Drops lines that are blank up to their end. -/
def skipBlankLines : Nat → List Char → List Char
  | 0, s => s
  | fuel + 1, s =>
    match skipLineEnd? (skipInline s).2 with
    | some rest => skipBlankLines fuel rest
    | none => s

/-- Drops blanks and line ends. -/
def skipBlank : List Char → List Char
  | ' ' :: s => skipBlank s
  | '\n' :: s => skipBlank s
  | '\r' :: '\n' :: s => skipBlank s
  | s => s

/-- A letter of ASCII. -/
def isLetter (c : Char) : Bool := c.isAlpha

/-- A character that may stand in a name after its first. -/
def isNameChar (c : Char) : Bool := c.isAlphanum || c == '_' || c == '-'

/-- A name. -/
def name? (s : List Char) : Option (String × List Char) :=
  match s with
  | c :: _ =>
    if isLetter c then
      some (String.ofList (s.takeWhile isNameChar), s.dropWhile isNameChar)
    else none
  | [] => none

/-- At least one digit. -/
def digits? (s : List Char) : Option (List Char × List Char) :=
  match s.takeWhile Char.isDigit with
  | [] => none
  | ds => some (ds, s.dropWhile Char.isDigit)

/-- A number. -/
def number? (s : List Char) : Option (List Char × List Char) := do
  let (sign, s) := match s with
    | '-' :: s => (['-'], s)
    | s => ([], s)
  let (whole, s) ← digits? s
  match s with
  | '.' :: s =>
    let (fraction, s) ← digits? s
    return (sign ++ whole ++ '.' :: fraction, s)
  | s => return (sign ++ whole, s)

/-- A hexadecimal digit. -/
def isHex (c : Char) : Bool := c.isDigit || ('a' ≤ c && c ≤ 'f') || ('A' ≤ c && c ≤ 'F')

/-- The text of a literal after its opening quote, escapes kept. -/
def quoted? : Nat → List Char → Option (List Char × List Char)
  | 0, _ => none
  | fuel + 1, s =>
    let continueWith (front rest : List Char) := (quoted? fuel rest).map fun (t, s) => (front ++ t, s)
    match s with
    | '"' :: s => some ([], s)
    | '\\' :: '\\' :: s => continueWith ['\\', '\\'] s
    | '\\' :: '\x7b' :: s => continueWith ['\\', '\x7b'] s
    | '\\' :: '"' :: s => continueWith ['\\', '"'] s
    | '\\' :: 'u' :: s =>
      if (s.take 4).length = 4 ∧ (s.take 4).all isHex then continueWith ('\\' :: 'u' :: s.take 4) (s.drop 4)
      else none
    | '\\' :: 'U' :: s =>
      if (s.take 6).length = 6 ∧ (s.take 6).all isHex then continueWith ('\\' :: 'U' :: s.take 6) (s.drop 6)
      else none
    | '\\' :: _ => none
    | '\n' :: _ => none
    | c :: s => continueWith [c] s
    | [] => none

/-! ## Text of a value -/

/-- Where in a value a piece of text begins. -/
inductive Origin where
  /-- Right after the equals sign. -/
  | start
  /-- At the start of a further line. -/
  | lineStart
  /-- After a placeable. -/
  | continuation
  deriving DecidableEq

/-- What ends a piece of text. -/
inductive TextEnd where
  /-- A line feed, which belongs to the piece. -/
  | lineFeed
  /-- A carriage return before a line feed. -/
  | carriageReturn
  /-- An opening brace. -/
  | placeable
  | file
  deriving DecidableEq

/-- Text up to a line end or a brace; a closing brace is refused. -/
def textPiece? : List Char → Option (List Char × TextEnd × List Char)
  | [] => some ([], .file, [])
  | '\n' :: s => some (['\n'], .lineFeed, s)
  | '\r' :: '\n' :: s => some ([], .carriageReturn, '\n' :: s)
  | '\x7b' :: s => some ([], .placeable, '\x7b' :: s)
  | '\x7d' :: _ => none
  | c :: s => (textPiece? s).map fun (t, e, s) => (c :: t, e, s)

/-- A piece of a value before the common indentation is known. -/
inductive Piece where
  /-- Text with the blanks before it, and where it begins. -/
  | text (indent : Nat) (s : List Char) (origin : Origin)
  | placeable (e : Expression)

/-- The piece counts when the end of a value is looked for. -/
def Piece.isSolid : Piece → Bool
  | .text _ s _ => s.any fun c => c != ' ' && c != '\n'
  | .placeable _ => true

/-- Drops blanks and line ends at the back. -/
def trimEnd (s : List Char) : List Char :=
  (s.reverse.dropWhile fun c => c == ' ' || c == '\r' || c == '\n').reverse

/-- A piece with the common indentation taken away. -/
def Piece.element (common : Option Nat) : Piece → Element
  | .placeable e => .placeable e
  | .text indent s .lineStart =>
    let kept := match common with
      | some common => indent - min indent common
      | none => 0
    .text (List.replicate kept ' ' ++ s)
  | .text _ s _ => .text s

/-- Trims the text of a last element. -/
def trimLast : List Element → List Element
  | [] => []
  | [.text s] => [.text (trimEnd s)]
  | e :: es => e :: trimLast es

/-- The value made of the pieces, the last one first; nothing if there is only blank text. -/
def templateOf? (common : Option Nat) (pieces : List Piece) : Option Template :=
  match pieces.dropWhile (!·.isSolid) with
  | [] => none
  | solid => some (trimLast (solid.reverse.map (Piece.element common)))

/-- A line may begin with this character and still belong to the value above. -/
def continuesValue (c : Char) : Bool := c != '.' && c != '\x7d' && c != '[' && c != '*'

/-- A text to be read on belongs to the value: how many blanks stand before it, or nothing when the
value has ended. -/
def continuation? (origin : Origin) (s : List Char) : Option Nat :=
  if origin = .lineStart then
    let (indent, rest) := skipInline s
    match rest with
    | [] => none
    | c :: _ =>
      if indent = 0 then (if c = '\r' ∨ c = '\n' then some 0 else none)
      else if continuesValue c then some indent else none
  else some 0

/-- What follows a value that has ended: blanks before the end of the file belong to the value. -/
def behindValue (s : List Char) : List Char := if s.all (· == ' ') then [] else s

/-- Narrows the common indentation by a piece of text at the start of a line. -/
def narrow (common : Option Nat) (indent : Nat) : Option Nat :=
  match common with
  | some common => some (min common indent)
  | none => some indent

/-! ## Placeables and values -/

/-- Names of functions are in capital letters. -/
def isFunctionName (name : String) : Bool :=
  name.toList.all fun c => c.isUpper || c.isDigit || c == '_' || c == '-'

/-- What may decide a choice. -/
def maySelect : Inline → Bool
  | .message _ _ => false
  | .term _ attr _ => attr.isSome
  | .nested _ => false
  | _ => true

/-- A literal, as which alone the value of a named argument can be given. -/
def literal? (s : List Char) : Option (Inline × List Char) :=
  match s with
  | '"' :: s => (quoted? (s.length + 1) s).map fun (t, s) => (.text t, s)
  | c :: _ => if c.isDigit then (number? s).map fun (n, s) => (.number n, s) else none
  | [] => none

/-- The attribute after a reference. -/
def accessor? (s : List Char) : Option (Option String × List Char) :=
  match s with
  | '.' :: s => (name? s).map fun (id, s) => (some id, s)
  | s => some (none, s)

mutual

/-- The contents of a placeable, a choice apart. -/
def inline? : Nat → List Char → Option (Inline × List Char)
  | 0, _ => none
  | fuel + 1, s =>
    match s with
    | '"' :: _ => literal? s
    | '$' :: s => (name? s).map fun (id, s) => (.argument id, s)
    | '\x7b' :: s => (placeable? fuel s).map fun (e, s) => (.nested e, s)
    | '-' :: rest =>
      match name? rest with
      | some (id, s) => do
        let (attr, s) ← accessor? s
        let (arguments, s) ← arguments? fuel s
        return (.term id attr arguments, s)
      | none => (number? s).map fun (n, s) => (.number n, s)
    | c :: _ =>
      if c.isDigit then literal? s
      else do
        let (id, s) ← name? s
        let (arguments, s) ← arguments? fuel s
        match arguments with
        | some arguments => if isFunctionName id then return (.call id arguments, s) else none
        | none =>
          let (attr, s) ← accessor? s
          return (.message id attr, s)
    | [] => none

/-- Arguments in parentheses, if there are any. -/
def arguments? : Nat → List Char → Option (Option Arguments × List Char)
  | 0, _ => none
  | fuel + 1, s =>
    match skipBlank s with
    | '(' :: s => argumentList? fuel [] [] (skipBlank s)
    | s => some (none, s)

/-- The rest of a list of arguments; those already read are given with the last one first. -/
def argumentList? : Nat → List Inline → List Argument → List Char → Option (Option Arguments × List Char)
  | 0, _, _, _ => none
  | fuel + 1, plain, named, s =>
    let next (plain : List Inline) (named : List Argument) (s : List Char) :=
      match skipBlank s with
      | ',' :: s => argumentList? fuel plain named (skipBlank s)
      | s => argumentList? fuel plain named s
    match s with
    | [] => none
    | ')' :: s => some (some (.mk plain.reverse named.reverse), s)
    | s => do
      let (e, s) ← inline? fuel s
      let asPlain (s : List Char) := if named.isEmpty then next (e :: plain) named s else none
      match e with
      | .message id none =>
        match skipBlank s with
        | ':' :: s =>
          if named.any (fun (.mk n _) => n == id) then none
          else do
            let (v, s) ← literal? (skipBlank s)
            next plain (.mk id v :: named) s
        | s => asPlain s
      | _ => asPlain s

/-- A placeable after its opening brace. -/
def placeable? : Nat → List Char → Option (Expression × List Char)
  | 0, _ => none
  | fuel + 1, s => do
    let (e, s) ← expression? fuel (skipBlank s)
    match (skipInline s).2 with
    | '\x7d' :: s => return (e, s)
    | _ => none

/-- The contents of a placeable. -/
def expression? : Nat → List Char → Option (Expression × List Char)
  | 0, _ => none
  | fuel + 1, s => do
    let (e, s) ← inline? fuel s
    match skipBlank s with
    | '-' :: '>' :: s =>
      guard (maySelect e)
      let s ← skipLineEnd? (skipInline s).2
      let (variants, s) ← variants? fuel [] false (skipBlank s)
      return (.select e variants, s)
    | s =>
      match e with
      | .term _ (some _) _ => none
      | e => return (.inline e, s)

/-- The variants of a choice; those already read are given with the last one first. -/
def variants? : Nat → List Variant → Bool → List Char → Option (List Variant × List Char)
  | 0, _, _, _ => none
  | fuel + 1, variants, hasDefault, s => do
    let (isDefault, s) := match s with
      | '*' :: s => (true, s)
      | s => (false, s)
    guard (!(isDefault && hasDefault))
    let hasDefault := hasDefault || isDefault
    match s with
    | '[' :: s =>
      let s := skipBlank s
      let isNumber := match s with
        | c :: _ => c == '-' || c.isDigit
        | [] => false
      let (key, s) ← if isNumber then number? s else (name? s).map fun (id, s) => (id.toList, s)
      match skipBlank s with
      | ']' :: s =>
        let (value, s) ← template? fuel s
        variants? fuel (.mk key isNumber (← value) isDefault :: variants) hasDefault (skipBlank s)
      | _ => none
    | s => if hasDefault then return (variants.reverse, s) else none

/-- A value, if there is one, and what follows it. -/
def template? : Nat → List Char → Option (Option Template × List Char)
  | 0, _ => none
  | fuel + 1, s =>
    let s := (skipInline s).2
    match skipLineEnd? s with
    | some s => pieces? fuel [] none .lineStart (skipBlankLines s.length s)
    | none => pieces? fuel [] none .start s

/-- The pieces of a value; those already read are given with the last one first. -/
def pieces? : Nat → List Piece → Option Nat → Origin → List Char → Option (Option Template × List Char)
  | 0, _, _, _, _ => none
  | fuel + 1, pieces, common, origin, s =>
    match s with
    | [] => some (templateOf? common pieces, [])
    | '\x7b' :: s => do
      let common := if origin = .lineStart then some 0 else common
      let (e, s) ← placeable? fuel s
      pieces? fuel (.placeable e :: pieces) common .continuation s
    | s =>
      match continuation? origin s with
      | none => some (templateOf? common pieces, behindValue s)
      | some indent => do
        let (text, ending, rest) ← textPiece? (s.drop indent)
        let solid := text.any fun c => c != ' ' && c != '\n'
        let common := if origin = .lineStart ∧ solid then narrow common indent else common
        let keep := !text.isEmpty && (origin ≠ .lineStart || solid || ending = .lineFeed)
        let pieces := if keep then .text indent text origin :: pieces else pieces
        let origin := match ending with
          | .lineFeed => .lineStart
          | .carriageReturn => .lineStart
          | _ => .continuation
        pieces? fuel pieces common origin rest

end

/-! ## Entries -/

/-- Attributes; those already read are given with the last one first. -/
def attributes? : Nat → List (String × Template) → List Char → Option (List (String × Template) × List Char)
  | 0, _, _ => none
  | fuel + 1, attributes, s =>
    match (skipInline s).2 with
    | '.' :: s => do
      let (id, s) ← name? s
      match (skipInline s).2 with
      | '=' :: s =>
        let (value, s) ← template? (3 * s.length + 3) s
        attributes? fuel ((id, ← value) :: attributes) s
      | _ => none
    | _ => some (attributes.reverse, s)

/-- Drops a comment of one or more lines after its hash. -/
def skipComment : Nat → List Char → List Char
  | 0, s => s
  | fuel + 1, s =>
    match s.dropWhile (· != '\n') with
    | '\n' :: '#' :: s => skipComment fuel s
    | '\n' :: s => s
    | s => s

/-- A message or a term after the hyphen that marks it. -/
def entry? (isTerm : Bool) (s : List Char) : Option (Entry × List Char) := do
  let (id, s) ← name? s
  match (skipInline s).2 with
  | '=' :: s =>
    let (value, s) ← template? (3 * s.length + 3) s
    let s := skipBlankLines s.length s
    let (attributes, s) ← attributes? (s.length + 1) [] s
    guard (value.isSome || (!isTerm && !attributes.isEmpty))
    return (⟨id, isTerm, value, attributes⟩, s)
  | _ => none

/-- All entries of a file. -/
def entries? : Nat → List Char → Option (List Entry)
  | 0, _ => none
  | fuel + 1, s =>
    match skipBlankLines s.length s with
    | [] => some []
    | '#' :: s => entries? fuel (skipComment s.length s)
    | '-' :: s => do
      let (entry, s) ← entry? true s
      return entry :: (← entries? fuel s)
    | s => do
      let (entry, s) ← entry? false s
      return entry :: (← entries? fuel s)

end OrderDesk.Phrase
