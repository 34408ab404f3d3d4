import OrderDesk.Decimal.Reader
import OrderDesk.Decimal.Shortest
import OrderDesk.Phrase.Reader
import OrderDesk.Uuid

/-!
# Phrase books

A book looks messages up by name and fills them in.  A reference that leads nowhere, or back to a
pattern that is being filled in, leaves its own text in braces.  At most a hundred placeables are
filled in for one message.

Which variant of a choice a number takes goes by its Russian plural category: by the last two digits
of a whole number, and every number written with a fraction is `other`.
-/

namespace OrderDesk.Phrase

/-- The phrases of one language. -/
structure Book where
  /-- Messages and terms. -/
  entries : List Entry
  /-- A bound on how deep the phrases are nested. -/
  depth : Nat

/-- Why a file gives no book. -/
inductive BookError where
  /-- The file cannot be read. -/
  | unreadable
  /-- An entry does not follow the grammar. -/
  | malformed
  /-- Two entries have one name. -/
  | duplicate
  deriving DecidableEq, Repr

/-- No name occurs twice. -/
def distinct : List String → Bool
  | [] => true
  | id :: ids => !ids.contains id && distinct ids

/-- Reads the text of a phrase file. -/
def Book.ofText (source : String) : Except BookError Book :=
  let s := source.toList
  match entries? (s.length + 1) s with
  | none => .error .malformed
  | some entries =>
    if distinct (entries.map (·.id)) then .ok ⟨entries, 102 * (3 * s.length + 10)⟩ else .error .duplicate

/-- A book without phrases. -/
def Book.empty : Book := ⟨[], 0⟩

instance : Inhabited Book := ⟨.empty⟩

/-! ## Plural categories -/

/-- The category of a number by its whole part and the number of digits after its point. -/
def pluralCategory (whole fractionDigits : Nat) : String :=
  if fractionDigits ≠ 0 then "other"
  else
    let one := whole % 10
    let two := whole % 100
    if one = 1 ∧ two ≠ 11 then "one"
    else if 2 ≤ one ∧ one ≤ 4 ∧ ¬(12 ≤ two ∧ two ≤ 14) then "few"
    else "many"

/-! ## Values -/

/-- The value of an expression. -/
inductive Value where
  | text (s : List Char)
  /-- A number with at least as many digits after the point as given. -/
  | number (x : Float) (places : Option Nat)
  /-- No value. -/
  | missing

/-- The value of a numeral. -/
def Value.ofNumeral (raw : List Char) : Value :=
  match Decimal.float? (String.ofList raw) with
  | some x =>
    let fraction := (raw.dropWhile (· != '.')).drop 1
    .number x (if raw.contains '.' then some fraction.length else none)
  | none => .text raw

/-- The text of a number. -/
def numberText (x : Float) (places : Option Nat) : List Char :=
  let digits := (Decimal.shortest x).toList
  match places with
  | none => digits
  | some places =>
    let fraction := (digits.dropWhile (· != '.')).drop 1
    (if digits.contains '.' then digits else digits ++ ['.']) ++ List.replicate (places - fraction.length) '0'

/-- The text of a value. -/
def Value.written : Value → List Char
  | text s => s
  | number x places => numberText x places
  | missing => []

/-- The plural category of a number. -/
def categoryOf (x : Float) (places : Option Nat) : String :=
  let digits := ((Decimal.shortest x).toList).dropWhile (· == '-')
  let whole := Decimal.valueOf ((digits.takeWhile (· != '.')).filterMap Decimal.digit?)
  let fraction := (digits.dropWhile (· != '.')).drop 1
  pluralCategory whole (max fraction.length (places.getD 0))

/-- The key of a variant fits a value. -/
def keyFits (key : List Char) (isNumber : Bool) (value : Value) : Bool :=
  match isNumber, value with
  | false, .text s => key == s
  | false, .number x places => String.ofList key == categoryOf x places
  | true, .number x places =>
    match Value.ofNumeral key with
    | .number y places' => x == y && places == places'
    | _ => false
  | _, _ => false

/-- The replacement for a character that an escape does not stand for. -/
def unknownChar : Char := '\ufffd'

/-- The character of an escape with the given digits. -/
def escapedChar (digits : List Char) : Char :=
  match Uuid.readHexadecimal? digits with
  | some n => if n < 0xd800 ∨ (0xdfff < n ∧ n < 0x110000) then Char.ofNat n else unknownChar
  | none => unknownChar

/-- The text that a literal stands for. -/
def unescape : Nat → List Char → List Char
  | 0, _ => []
  | fuel + 1, s =>
    match s with
    | '\\' :: '\\' :: s => '\\' :: unescape fuel s
    | '\\' :: '"' :: s => '"' :: unescape fuel s
    | '\\' :: 'u' :: s => escapedChar (s.take 4) :: unescape fuel (s.drop 4)
    | '\\' :: 'U' :: s => escapedChar (s.take 6) :: unescape fuel (s.drop 6)
    | '\\' :: _ :: s => unknownChar :: unescape fuel s
    | c :: s => c :: unescape fuel s
    | [] => []

/-! ## Filling in -/

/-- The text of a reference that cannot be filled in. -/
def Inline.label : Inline → List Char
  | .message id none => id.toList
  | .message id (some attr) => id.toList ++ '.' :: attr.toList
  | .term id none _ => '-' :: id.toList
  | .term id (some attr) _ => '-' :: id.toList ++ '.' :: attr.toList
  | .call id _ => id.toList ++ ['(', ')']
  | .argument id => '$' :: id.toList
  | _ => []

/-- The text of a placeable that cannot be filled in. -/
def Expression.label : Expression → List Char
  | .inline e => e.label
  | .select e _ => e.label

/-- A text in braces. -/
def braced (s : List Char) : List Char := '\x7b' :: (s ++ ['\x7d'])

/-- The most placeables that are filled in for one message. -/
def maxPlaceables : Nat := 100

/-- What is known while a message is filled in. -/
structure Scope where
  /-- The patterns that are being filled in. -/
  active : List Template
  /-- Placeables so far. -/
  placeables : Nat
  /-- There were too many placeables. -/
  exceeded : Bool
  /-- The arguments of the term that is being filled in. -/
  localArguments : Option (List (String × Value))

/-- The value of an argument: inside a term its own, else those of the message. -/
def argument? (arguments : List (String × Value)) (scope : Scope) (id : String) : Option Value :=
  (scope.localArguments.getD arguments).lookup id

namespace Book

variable (book : Book) (arguments : List (String × Value))

/-- The message with the given name. -/
def message? (id : String) : Option Entry := book.entries.find? fun e => e.id == id && !e.isTerm

/-- The term with the given name. -/
def term? (id : String) : Option Entry := book.entries.find? fun e => e.id == id && e.isTerm

mutual

/-- Fills in a pattern. -/
def fill : Nat → Template → Template → Scope → List Char × Scope
  | 0, _, _, scope => ([], scope)
  | _ + 1, _, [], scope => ([], scope)
  | fuel + 1, whole, e :: es, scope =>
    if scope.exceeded then ([], scope)
    else match e with
      | .text s =>
        let (rest, scope) := fill fuel whole es scope
        (s ++ rest, scope)
      | .placeable e =>
        let scope := { scope with placeables := scope.placeables + 1 }
        if maxPlaceables < scope.placeables then ([], { scope with exceeded := true })
        else
          let scope := if scope.active.isEmpty then { scope with active := [whole] } else scope
          let (text, scope) := fillExpression fuel e scope
          let text := if scope.exceeded then text ++ braced e.label else text
          let (rest, scope) := fill fuel whole es scope
          (text ++ rest, scope)

/-- Fills in a pattern that is referred to, unless it is being filled in already. -/
def fillReferred : Nat → Template → Inline → Scope → List Char × Scope
  | 0, _, _, scope => ([], scope)
  | fuel + 1, template, e, scope =>
    if scope.active.any (sameElements template) then (braced e.label, scope)
    else
      let (text, after) := fill fuel template template { scope with active := template :: scope.active }
      (text, { after with active := scope.active })

/-- Fills in the contents of a placeable. -/
def fillExpression : Nat → Expression → Scope → List Char × Scope
  | 0, _, scope => ([], scope)
  | fuel + 1, .inline e, scope => fillInline fuel e scope
  | fuel + 1, .select e variants, scope =>
    let (value, scope) := valueOf fuel e scope
    let fits : Variant → Bool := fun (.mk key isNumber _ _) => keyFits key isNumber value
    let isDefault : Variant → Bool := fun (.mk _ _ _ isDefault) => isDefault
    match variants.find? fits <|> variants.find? isDefault with
    | some (.mk _ _ template _) => fill fuel template template scope
    | none => ([], scope)

/-- Fills in something simple. -/
def fillInline : Nat → Inline → Scope → List Char × Scope
  | 0, _, scope => ([], scope)
  | fuel + 1, e, scope =>
    match e with
    | .text raw => (unescape (raw.length + 1) raw, scope)
    | .number raw => ((Value.ofNumeral raw).written, scope)
    | .argument id =>
      match argument? arguments scope id with
      | some value => (value.written, scope)
      | none => (braced e.label, scope)
    | .nested e => fillExpression fuel e scope
    | .message id attr =>
      match book.message? id with
      | none => (braced e.label, scope)
      | some entry =>
        match attr.elim entry.value (entry.attributes.lookup ·) with
        | some template => fillReferred fuel template e scope
        | none => (braced e.label, scope)
    | .term id attr given =>
      let (named, scope) := match given with
        | some given => valuesOf fuel given scope
        | none => ([], scope)
      let scope := { scope with localArguments := some named }
      let (text, scope) := match book.term? id with
        | none => (braced e.label, scope)
        | some entry =>
          match attr.elim entry.value (entry.attributes.lookup ·) with
          | some template => fillReferred fuel template e scope
          | none => (braced e.label, scope)
      (text, { scope with localArguments := none })
    | .call _ given =>
      let (_, scope) := valuesOf fuel given scope
      (braced e.label, scope)

/-- The value of something simple. -/
def valueOf : Nat → Inline → Scope → Value × Scope
  | 0, _, scope => (.missing, scope)
  | fuel + 1, e, scope =>
    match e with
    | .text raw => (.text (unescape (raw.length + 1) raw), scope)
    | .number raw => (.ofNumeral raw, scope)
    | .argument id => ((argument? arguments scope id).getD .missing, scope)
    | .call _ given =>
      let (_, scope) := valuesOf fuel given scope
      (.missing, scope)
    | e =>
      let (text, scope) := fillInline fuel e scope
      (.text text, scope)

/-- The values of named arguments; the plain ones are filled in too and count. -/
def valuesOf : Nat → Arguments → Scope → List (String × Value) × Scope
  | 0, _, scope => ([], scope)
  | fuel + 1, .mk plain named, scope =>
    let scope := valuesOfPlain fuel plain scope
    valuesOfNamed fuel named scope

/-- Fills in plain arguments for their effect on the count. -/
def valuesOfPlain : Nat → List Inline → Scope → Scope
  | 0, _, scope => scope
  | _ + 1, [], scope => scope
  | fuel + 1, e :: es, scope => valuesOfPlain fuel es (valueOf fuel e scope).2

/-- The values of named arguments. -/
def valuesOfNamed : Nat → List Argument → Scope → List (String × Value) × Scope
  | 0, _, scope => ([], scope)
  | _ + 1, [], scope => ([], scope)
  | fuel + 1, .mk name e :: rest, scope =>
    let (value, scope) := valueOf fuel e scope
    let (values, scope) := valuesOfNamed fuel rest scope
    ((name, value) :: values, scope)

end

/-- There is a message with the given name. -/
def has (id : String) : Bool := (book.message? id).isSome

/-- The message with the given name, filled in with arguments; the last of several with one name
counts. -/
def getWith (id : String) (arguments : List (String × String)) : String :=
  match book.message? id with
  | none => "Missing translation: " ++ id
  | some entry =>
    match entry.value with
    | none => "Missing value for key: " ++ id
    | some template =>
      let values := arguments.reverse.map fun (name, s) => (name, Value.text s.toList)
      String.ofList (book.fill values book.depth template template ⟨[], 0, false, none⟩).1

/-- The message with the given name, without arguments. -/
def get (id : String) : String := book.getWith id []

end Book

end OrderDesk.Phrase
