import OrderDesk.Json.Value
import OrderDesk.Decimal.Integer
import OrderDesk.Uuid

/-!
# Reading JSON

The grammar of JSON: one value with blanks around it and nothing else.  Repeated keys are kept.
An escape for half of a surrogate pair is let through, and marks its text as unpaired.
-/

namespace OrderDesk.Json

/-- The blanks between tokens. -/
def isSpace (c : Char) : Bool := c == ' ' || c == '\n' || c == '\r' || c == '\t'

/-- Drops blanks at the front. -/
def skipSpace (s : List Char) : List Char := s.dropWhile isSpace

/-! ## Texts -/

/-- A piece of a text: a character, or half of a surrogate pair. -/
inductive Unit16 where
  | char (c : Char)
  /-- An escaped half of a surrogate pair. -/
  | half (n : Nat)
  deriving Repr, DecidableEq

/-- Four hexadecimal digits. -/
def fourDigits? : List Char → Option (Nat × List Char)
  | a :: b :: c :: d :: s => (Uuid.readHexadecimal? [a, b, c, d]).map (·, s)
  | _ => none

/-- The pieces of a text up to its closing quote. -/
def pieces? : Nat → List Char → Option (List Unit16 × List Char)
  | 0, _ => none
  | _ + 1, [] => none
  | _ + 1, '"' :: s => some ([], s)
  | fuel + 1, '\\' :: s =>
    let continueWith (p : Unit16) (s : List Char) := (pieces? fuel s).map fun (ps, s) => (p :: ps, s)
    match s with
    | '"' :: s => continueWith (.char '"') s
    | '\\' :: s => continueWith (.char '\\') s
    | '/' :: s => continueWith (.char '/') s
    | 'b' :: s => continueWith (.char '\x08') s
    | 'f' :: s => continueWith (.char '\x0c') s
    | 'n' :: s => continueWith (.char '\n') s
    | 'r' :: s => continueWith (.char '\r') s
    | 't' :: s => continueWith (.char '\t') s
    | 'u' :: s => do
      let (n, s) ← fourDigits? s
      continueWith (if 0xd800 ≤ n ∧ n < 0xe000 then .half n else .char (Char.ofNat n)) s
    | _ => none
  | fuel + 1, c :: s =>
    if c.toNat < 0x20 then none
    else (pieces? fuel s).map fun (ps, s) => (.char c :: ps, s)

/-- Joins the halves of surrogate pairs; nothing when a half stands alone. -/
def joinHalves? : List Unit16 → Option (List Char)
  | [] => some []
  | .char c :: ps => (joinHalves? ps).map (c :: ·)
  | .half hi :: .half lo :: ps =>
    if hi < 0xdc00 ∧ 0xdc00 ≤ lo then
      (joinHalves? ps).map (Char.ofNat (0x10000 + (hi - 0xd800) * 0x400 + (lo - 0xdc00)) :: ·)
    else none
  | .half _ :: _ => none

/-- A text after its opening quote: its characters, or nothing for an unpaired one, and the rest. -/
def text? (s : List Char) : Option (Option String × List Char) :=
  (pieces? (s.length + 1) s).map fun (ps, s) => ((joinHalves? ps).map String.ofList, s)

/-! ## Numerals -/

/-- Digits at the front and the rest. -/
def digits (s : List Char) : List Char × List Char :=
  (s.takeWhile fun c => (Decimal.digit? c).isSome, s.dropWhile fun c => (Decimal.digit? c).isSome)

/-- The whole part of a numeral: a zero alone, or digits that start with another one. -/
def wholePart? (s : List Char) : Option (List Char × List Char) :=
  match s with
  | '0' :: rest =>
    match rest with
    | c :: _ => if (Decimal.digit? c).isSome then none else some (['0'], rest)
    | [] => some (['0'], [])
  | _ => match digits s with
    | ([], _) => none
    | found => some found

/-- The part after the point, with it, or nothing. -/
def pointPart? : List Char → Option (List Char × List Char)
  | '.' :: s => match digits s with
    | ([], _) => none
    | (ds, rest) => some ('.' :: ds, rest)
  | s => some ([], s)

/-- The exponent, or nothing. -/
def exponentPart? : List Char → Option (List Char × List Char)
  | [] => some ([], [])
  | c :: s =>
    if c = 'e' ∨ c = 'E' then
      let (sign, s) := match s with
        | '+' :: s => (['+'], s)
        | '-' :: s => (['-'], s)
        | s => ([], s)
      match digits s with
      | ([], _) => none
      | (ds, rest) => some (c :: sign ++ ds, rest)
    else some ([], c :: s)

/-- A numeral. -/
def numeral? (s : List Char) : Option (Value × List Char) := do
  let (negative, body) := match s with
    | '-' :: s => (true, s)
    | s => (false, s)
  let (whole, rest) ← wholePart? body
  let (point, rest) ← pointPart? rest
  let (exponent, rest) ← exponentPart? rest
  let n := Decimal.valueOf (whole.filterMap Decimal.digit?)
  let plain := point.isEmpty && exponent.isEmpty && !(negative && n == 0)
  let sign := if negative then ['-'] else []
  return (if plain then .integer (if negative then -(n : Int) else n)
    else .decimal (String.ofList (sign ++ whole ++ point ++ exponent)), rest)

/-! ## Values -/

/-- Reads the given word. -/
def word? (w : List Char) (s : List Char) : Option (List Char) :=
  if s.take w.length = w then some (s.drop w.length) else none

/-- The object with the given fields, or the unpaired value when a key is. -/
def objectOf (fields : List (Option String × Value)) : Value :=
  match fields.mapM fun (key, v) => key.map (·, v) with
  | some fields => .object fields
  | none => .unpaired

mutual

/-- A value at the front of a text, without blanks before it. -/
def value? : Nat → List Char → Option (Value × List Char)
  | 0, _ => none
  | fuel + 1, s =>
    match s with
    | '"' :: s => (text? s).map fun (t, s) => (match t with | some t => .string t | none => .unpaired, s)
    | '[' :: s =>
      match skipSpace s with
      | ']' :: s => some (.array [], s)
      | s => (items? fuel s).map fun (vs, s) => (.array vs, s)
    | '\x7b' :: s =>
      match skipSpace s with
      | '\x7d' :: s => some (.object [], s)
      | s => (fields? fuel s).map fun (fs, s) => (objectOf fs, s)
    | 'n' :: _ => (word? ['n', 'u', 'l', 'l'] s).map (.null, ·)
    | 't' :: _ => (word? ['t', 'r', 'u', 'e'] s).map (.bool true, ·)
    | 'f' :: _ => (word? ['f', 'a', 'l', 's', 'e'] s).map (.bool false, ·)
    | s => numeral? s

/-- The items of a list up to its closing bracket. -/
def items? : Nat → List Char → Option (List Value × List Char)
  | 0, _ => none
  | fuel + 1, s => do
    let (v, s) ← value? fuel s
    match skipSpace s with
    | ',' :: s => (items? fuel (skipSpace s)).map fun (vs, s) => (v :: vs, s)
    | ']' :: s => some ([v], s)
    | _ => none

/-- The fields of an object up to its closing brace. -/
def fields? : Nat → List Char → Option (List (Option String × Value) × List Char)
  | 0, _ => none
  | fuel + 1, s =>
    match s with
    | '"' :: s => do
      let (key, s) ← text? s
      match skipSpace s with
      | ':' :: s =>
        let (v, s) ← value? fuel (skipSpace s)
        match skipSpace s with
        | ',' :: s => (fields? fuel (skipSpace s)).map fun (fs, s) => ((key, v) :: fs, s)
        | '\x7d' :: s => some ([(key, v)], s)
        | _ => none
      | _ => none
    | _ => none

end

/-- Reads a whole text. -/
def ofList? (s : List Char) : Option Value :=
  match value? (s.length + 1) (skipSpace s) with
  | some (v, rest) => if (skipSpace rest).isEmpty then some v else none
  | none => none

/-- Reads a whole text. -/
def ofText? (s : String) : Option Value := ofList? s.toList

end OrderDesk.Json
