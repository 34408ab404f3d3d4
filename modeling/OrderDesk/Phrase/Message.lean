/-!
# Phrases

A phrase file holds messages and terms.  Each has a value, attributes or both, and all of them are
patterns: text with placeables in braces.  A placeable holds a literal, a reference, or a choice
between variants.

Literals keep the text they were read from, because two patterns count as the same when they are
written the same way (`Pattern.same`).
-/

namespace OrderDesk.Phrase

mutual

/-- What stands in a placeable, a choice apart. -/
inductive Inline where
  /-- A text in quotes, escapes and all. -/
  | text (raw : List Char)
  | number (raw : List Char)
  /-- A message or an attribute of it. -/
  | message (id : String) (attr : Option String)
  /-- A term or an attribute of it, with named arguments. -/
  | term (id : String) (attr : Option String) (arguments : Option Arguments)
  | argument (id : String)
  | call (id : String) (arguments : Arguments)
  /-- A placeable inside a placeable. -/
  | nested (e : Expression)

/-- Arguments of a call: first the plain ones, then the named ones. -/
inductive Arguments where
  | mk (plain : List Inline) (named : List Argument)

/-- A named argument. -/
inductive Argument where
  | mk (name : String) (value : Inline)

/-- The contents of a placeable. -/
inductive Expression where
  /-- Something simple. -/
  | inline (e : Inline)
  /-- A choice by the value of the first part. -/
  | select (selector : Inline) (variants : List Variant)

/-- One variant of a choice. -/
inductive Variant where
  /-- Key, whether the key is a number, value, and whether it is the default. -/
  | mk (key : List Char) (isNumber : Bool) (value : List Element) (isDefault : Bool)

/-- A piece of a pattern. -/
inductive Element where
  | text (s : List Char)
  | placeable (e : Expression)

end

/-- A value: text and placeables in turn. -/
abbrev Template := List Element

/-! ## Patterns written the same way -/

mutual

/-- Written the same way. -/
def Inline.same : Inline → Inline → Bool
  | .text a, .text b => a == b
  | .number a, .number b => a == b
  | .message a x, .message b y => a == b && x == y
  | .term a x none, .term b y none => a == b && x == y
  | .term a x (some p), .term b y (some q) => a == b && x == y && p.same q
  | .argument a, .argument b => a == b
  | .call a p, .call b q => a == b && p.same q
  | .nested a, .nested b => a.same b
  | _, _ => false

/-- Written the same way. -/
def Arguments.same : Arguments → Arguments → Bool
  | .mk p m, .mk q n => sameInlines p q && sameArguments m n

/-- Written the same way, one by one. -/
def sameInlines : List Inline → List Inline → Bool
  | [], [] => true
  | a :: as, b :: bs => a.same b && sameInlines as bs
  | _, _ => false

/-- Written the same way, one by one. -/
def sameArguments : List Argument → List Argument → Bool
  | [], [] => true
  | a :: as, b :: bs => a.same b && sameArguments as bs
  | _, _ => false

/-- Written the same way. -/
def Argument.same : Argument → Argument → Bool
  | .mk a v, .mk b w => a == b && v.same w

/-- Written the same way. -/
def Expression.same : Expression → Expression → Bool
  | .inline a, .inline b => a.same b
  | .select a vs, .select b ws => a.same b && sameVariants vs ws
  | _, _ => false

/-- Written the same way, one by one. -/
def sameVariants : List Variant → List Variant → Bool
  | [], [] => true
  | a :: as, b :: bs => a.same b && sameVariants as bs
  | _, _ => false

/-- Written the same way. -/
def Variant.same : Variant → Variant → Bool
  | .mk a m v d, .mk b n w e => a == b && m == n && sameElements v w && d == e

/-- Written the same way, one by one. -/
def sameElements : List Element → List Element → Bool
  | [], [] => true
  | a :: as, b :: bs => a.same b && sameElements as bs
  | _, _ => false

/-- Written the same way. -/
def Element.same : Element → Element → Bool
  | .text a, .text b => a == b
  | .placeable a, .placeable b => a.same b
  | _, _ => false

end

/-- A message or a term. -/
structure Entry where
  /-- Name. -/
  id : String
  /-- A term can be used by other phrases only. -/
  isTerm : Bool
  value : Option Template
  /-- Attributes in the order of the file. -/
  attributes : List (String × Template)

end OrderDesk.Phrase
