import OrderDesk.Url.Host
import OrderDesk.Url.Path

/-!
# Addresses on the web

Reading an address takes every spelling that is commonly understood, and writing it gives one
spelling: scheme and host in lower case, the port left out where it is the usual one, dot segments
resolved, and characters encoded that may not stand where they are.  An address has to begin with a
scheme.  The schemes in `usualPort?` and `file` are special: their addresses always have a host,
files apart, and a backslash is a slash in them.
-/

namespace OrderDesk.Url

/-- Who and where. -/
structure Authority where
  /-- User name, encoded. -/
  user : List Char
  /-- Password, encoded. -/
  password : List Char
  host : Host
  /-- Port, if it is not the usual one. -/
  port : Option Nat
  deriving DecidableEq, Repr

/-- An address. -/
structure Address where
  /-- Scheme, in lower case. -/
  scheme : List Char
  /-- Who and where. -/
  authority : Option Authority
  path : Path
  /-- Query, encoded. -/
  query : Option (List Char)
  /-- Fragment, encoded. -/
  fragment : Option (List Char)
  deriving DecidableEq, Repr

/-! ## Schemes -/

/-- The usual port of a special scheme. -/
def usualPort? (scheme : List Char) : Option Nat :=
  [("http", 80), ("https", 443), ("ws", 80), ("wss", 443), ("ftp", 21)].lookup (String.ofList scheme)

/-- The scheme of files. -/
def fileScheme : List Char := ['f', 'i', 'l', 'e']

/-- A scheme whose addresses are special. -/
def isSpecial (scheme : List Char) : Bool := (usualPort? scheme).isSome || scheme == fileScheme

/-- A character of a scheme. -/
def isSchemeChar (c : Char) : Bool := c.isAlphanum || c ∈ ['+', '-', '.']

/-- The scheme and what follows its colon. -/
def scheme? (s : List Char) : Option (List Char × List Char) :=
  match s.takeWhile isSchemeChar, s.dropWhile isSchemeChar with
  | c :: scheme, ':' :: rest => if c.isAlpha then some ((c :: scheme).map Char.toLower, rest) else none
  | _, _ => none

/-! ## Who and where -/

/-- The host ends here. -/
def endsHost (special : Bool) (c : Char) : Bool :=
  c ∈ ['/', '?', '#'] || (special && c == '\\')

/-- The host and what follows it; colons in brackets belong to the host. -/
def splitHost (inside : Bool) : List Char → List Char × List Char
  | [] => ([], [])
  | c :: s =>
    if c = ':' ∧ inside = false then ([], c :: s)
    else
      let (host, rest) := splitHost (c == '[' || (inside && c != ']')) s
      (c :: host, rest)

/-- The port after a host and what follows it. -/
def port? (usual : Option Nat) : List Char → Option (Option Nat × List Char)
  | ':' :: s => do
    let digits := s.takeWhile fun c => (Decimal.digit? c).isSome
    let rest := s.drop digits.length
    guard (rest.isEmpty ∨ rest.head? = some '\\')
    let n ← Host.numberOf? 10 digits
    guard (n < UInt16.size)
    return (if digits.isEmpty ∨ some n = usual then none else some n, rest)
  | s => some (none, s)

/-- The user name and the password, encoded. -/
def credentials (s : List Char) : List Char × List Char :=
  (encode inCredentials (s.takeWhile (· != ':')), encode inCredentials ((s.dropWhile (· != ':')).drop 1))

/-- Reads who and where, given what follows it; also what is left in front of that. -/
def authority? (special : Bool) (usual : Option Nat) (s behind : List Char) :
    Option (Authority × List Char) := do
  let (who, place) := (Text.splitLast? '@' s).getD ([], s)
  guard (s.head? ≠ some '@' ∨ ¬place.isEmpty ∨ behind.isEmpty)
  let (user, password) := credentials who
  let (hostText, rest) := splitHost false place
  let host ← if special then Host.ofSpecial? hostText else Host.ofPlain? hostText
  guard (host ≠ .name [] ∨ (rest.isEmpty ∧ user.isEmpty ∧ password.isEmpty))
  let (port, rest) ← port? usual rest
  return (⟨user, password, host, port⟩, rest)

/-! ## Reading -/

/-- Characters that are left out wherever they stand. -/
def isDropped (c : Char) : Bool := c ∈ ['\t', '\n', '\r']

/-- The text without controls and blanks at its ends. -/
def stripped (s : List Char) : List Char :=
  let drop (s : List Char) : List Char := (s.dropWhile (· ≤ ' ')).reverse
  drop (drop s)

/-- The path, and query and fragment still together. -/
def untilQuery (s : List Char) : List Char × List Char :=
  (s.takeWhile (· ∉ ['?', '#']), s.dropWhile (· ∉ ['?', '#']))

/-- Query and fragment. -/
def queryAndFragment (special : Bool) (s : List Char) : Option (List Char) × Option (List Char) :=
  let fragment (s : List Char) : Option (List Char) :=
    match s with
    | '#' :: s => some (encode inFragment s)
    | _ => none
  match s with
  | '?' :: s =>
    (some (encode (if special then inSpecialQuery else inQuery) (s.takeWhile (· != '#'))),
      fragment (s.dropWhile (· != '#')))
  | s => (none, fragment s)

/-- Reads what follows the scheme of a file. -/
def fileParts? (s : List Char) : Option (Option Authority × List (List Char) × List Char) := do
  let isSlash (c : Char) : Bool := c == '/' || c == '\\'
  let hostText := (s.drop 2).takeWhile fun c => !endsHost true c
  let hasHost := (s.take 2).all isSlash && 2 ≤ s.length && !Path.isDrive hostText
  let host ← if hasHost && !hostText.isEmpty then Host.ofSpecial? hostText else some (.name [])
  let (path, rest) := untilQuery (if hasHost then s.drop (2 + hostText.length) else s)
  let parts := Path.ofFile (Path.ofText true path)
  let isLocal := host = .name "localhost".toList ∨ parts.any Path.isDrive
  return (some ⟨[], [], if isLocal then .name [] else host, none⟩, parts, rest)

/-- Reads what follows a special scheme. -/
def specialParts? (usual : Option Nat) (s : List Char) :
    Option (Option Authority × List (List Char) × List Char) := do
  let s := s.dropWhile fun c => c == '/' || c == '\\'
  let behind := s.dropWhile fun c => !endsHost true c
  let (authority, _) ← authority? true usual (s.takeWhile fun c => !endsHost true c) behind
  let (path, rest) := untilQuery behind
  return (some authority, Path.ofText true (path.drop 1), rest)

/-- Reads what follows any other scheme. -/
def plainParts? (s : List Char) : Option (Option Authority × Path × List Char) :=
  match s with
  | '/' :: '/' :: s => do
    let behind := s.dropWhile fun c => !endsHost false c
    let (authority, rest) ← authority? false none (s.takeWhile fun c => !endsHost false c) behind
    let (path, rest) := untilQuery (rest ++ behind)
    let parts := match path with
      | [] => []
      | '/' :: path => Path.ofText false path
      | path => Path.ofText false path
    return (some authority, .segments parts, rest)
  | '/' :: s =>
    let (path, rest) := untilQuery s
    some (none, .segments (Path.ofText false path), rest)
  | s =>
    let (path, rest) := untilQuery s
    some (none, .plain (encode isControl path), rest)

/-- Reads an address. -/
def Address.ofText? (s : List Char) : Option Address := do
  let (scheme, s) ← scheme? ((stripped s).filter fun c => !isDropped c)
  let (authority, path, rest) ←
    if scheme = fileScheme then do
      let (authority, parts, rest) ← fileParts? s
      pure (authority, Path.segments parts, rest)
    else if isSpecial scheme then do
      let (authority, parts, rest) ← specialParts? (usualPort? scheme) s
      pure (authority, Path.segments parts, rest)
    else plainParts? s
  let (query, fragment) := queryAndFragment (isSpecial scheme) rest
  return { scheme, authority, path, query, fragment }

/-! ## Writing -/

/-- The text of who and where. -/
def Authority.text (a : Authority) : List Char :=
  let who := a.user ++ (if a.password.isEmpty then [] else ':' :: a.password)
  let port := match a.port with
    | some n => ':' :: Decimal.naturalText n
    | none => []
  '/' :: '/' :: ((if who.isEmpty then [] else who ++ ['@']) ++ a.host.text ++ port)

/-- What stands between scheme and path; without a host, no path may look like one. -/
def Address.beforePath (a : Address) : List Char :=
  match a.authority, a.path with
  | some authority, _ => authority.text
  | none, .segments ([] :: _ :: _) => ['/', '.']
  | none, _ => []

/-- The text of an address. -/
def Address.text (a : Address) : List Char :=
  let part (mark : Char) : Option (List Char) → List Char
    | some s => mark :: s
    | none => []
  a.scheme ++ ':' :: (a.beforePath ++ a.path.text ++ part '?' a.query ++ part '#' a.fragment)

/-- The one spelling of an address. -/
def normalized? (s : String) : Option String :=
  (Address.ofText? s.toList).map fun a => String.ofList a.text

end OrderDesk.Url
