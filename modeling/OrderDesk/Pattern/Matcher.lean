import OrderDesk.Pattern.Node

/-!
# Matching

A pattern takes a set of places in a text to the set of places where a match begun at one of them
can end. A text is accepted when a match begins anywhere and ends anywhere.  Sets of places are
ascending lists.
-/

namespace OrderDesk.Pattern

/-- The places of either list, both ascending. -/
def joinPlaces : List Nat → List Nat → List Nat
  | [], ys => ys
  | xs, [] => xs
  | x :: xs, y :: ys =>
    if x < y then x :: joinPlaces xs (y :: ys)
    else if y < x then y :: joinPlaces (x :: xs) ys
    else x :: joinPlaces xs ys

/-- The places of the first list that are not in the second, both ascending. -/
def dropPlaces : List Nat → List Nat → List Nat
  | [], _ => []
  | xs, [] => xs
  | x :: xs, y :: ys =>
    if x < y then x :: dropPlaces xs (y :: ys)
    else if y < x then dropPlaces (x :: xs) ys
    else dropPlaces xs ys

/-- The character before a place. -/
def before? (text : Array Char) (i : Nat) : Option Char := if i = 0 then none else text[i - 1]?

/-- The character before a place lies in a set. -/
def isAfter (text : Array Char) (set : CharSet) (i : Nat) : Bool := (before? text i).any set.mem

/-- The character after a place lies in a set. -/
def isBefore (text : Array Char) (set : CharSet) (i : Nat) : Bool := (text[i]?).any set.mem

/-- A place is of the given kind. -/
def Place.holds (text : Array Char) (i : Nat) : Place → Bool
  | textStart => i == 0
  | textEnd => i == text.size
  | lineStart => i == 0 || before? text i == some '\n'
  | lineEnd => i == text.size || text[i]? == some '\n'
  | crlfStart => i == 0 || before? text i == some '\n' ||
      (before? text i == some '\r' && text[i]? != some '\n')
  | crlfEnd => i == text.size || text[i]? == some '\r' ||
      (text[i]? == some '\n' && before? text i != some '\r')
  | boundary w => isAfter text w i != isBefore text w i
  | inside w => isAfter text w i == isBefore text w i
  | wordStart w => !isAfter text w i && isBefore text w i
  | wordEnd w => isAfter text w i && !isBefore text w i
  | notAfterWord w => !isAfter text w i
  | notBeforeWord w => !isBefore text w i

/-- Applies a step `n` times. -/
def times (step : List Nat → List Nat) : Nat → List Nat → List Nat
  | 0, places => places
  | n + 1, places => times step n (step places)

/-- All places that up to `n` further steps reach from the newly found ones, with those already
found. -/
def upTo (step : List Nat → List Nat) : Nat → List Nat → List Nat → List Nat
  | 0, found, _ => found
  | n + 1, found, new =>
    let new := dropPlaces (step new) found
    if new.isEmpty then found else upTo step n (joinPlaces found new) new

/-- Where matches that begin at the given places end. -/
def Node.ends (text : Array Char) : Node → List Nat → List Nat
  | .empty, places => places
  | .char set, places => (places.filter (isBefore text set)).map (· + 1)
  | .place p, places => places.filter fun i => p.holds text i
  | .both a b, places => b.ends text (a.ends text places)
  | .either a b, places => joinPlaces (a.ends text places) (b.ends text places)
  | .repeated a least most, places =>
    let start := times (a.ends text) least places
    let further := match most with
      | some most => min (most - least) (text.size + 1)
      | none => text.size + 1
    upTo (a.ends text) further start start

/-- A match is found somewhere in the text. -/
def Node.accepts (node : Node) (s : String) : Bool :=
  let text := s.toList.toArray
  !(node.ends text (List.range (text.size + 1))).isEmpty

end OrderDesk.Pattern
