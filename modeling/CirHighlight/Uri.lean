import CirHighlight.Uri.Host
import CirHighlight.Uri.Path

namespace CirHighlight

/-- An identifier in normal form. The authority is the part after two slashes; a path that does
not start with a slash belongs to an identifier without authority. -/
structure Uri where
  scheme : String
  authority : Option String
  path : String
  query : Option String
  fragment : Option String
deriving DecidableEq

namespace Uri

/-- The service number that a scheme has when none is given; the schemes that have one are
special, as is `file`. -/
def defaultService? : String → Option Nat
  | "http" | "ws" => some 80
  | "https" | "wss" => some 443
  | "ftp" => some 21
  | _ => none

/-- Whether identifiers of a scheme always have an authority and take backslashes for slashes. -/
def isSpecial (scheme : String) : Bool :=
  scheme = "file" || (defaultService? scheme).isSome

def isSlash (special : Bool) (c : Char) : Bool :=
  c = '/' || (special && c = '\\')

/-- The normal form of a path that is not a file's, after an authority or its first slash. -/
def normalPath (special : Bool) (path : List Char) : List Char :=
  match path with
  | [] => if special then ['/'] else []
  | c :: rest =>
    let segments := if isSlash special c then rest else path
    (Walk.resolve false {} (Text.splitWhere (isSlash special) segments)).path

/-- Cuts a host from what follows it, at the first colon outside brackets. -/
def splitHost (inside : Bool) : List Char → List Char × List Char
  | [] => ([], [])
  | c :: rest =>
    if c = ':' && !inside then ([], c :: rest)
    else
      let (host, after) := splitHost (c = '[' || (inside && c ≠ ']')) rest
      (c :: host, after)

/-- The normal form of what follows a host: a service number, or nothing where it is the scheme's
own, and what stands after a backslash, which belongs to the path. -/
def service? (scheme : String) (text : List Char) : Option (List Char × List Char) :=
  match text with
  | [] => some ([], [])
  | _ :: text =>
    let (digits, rest) := text.span Char.isDigit
    let value := Text.decimalValue digits
    if 65535 < value || !(rest.isEmpty || rest.head? = some '\\') then none
    else if digits.isEmpty || defaultService? scheme = some value then some ([], rest)
    else some (':' :: (toString value).toList, rest)

def normalUser (text : List Char) : List Char :=
  let (name, password) := Text.breakWhere (· = ':') text
  let name := encode userSet name
  let password := encode userSet (password.drop 1)
  if name.isEmpty && password.isEmpty then []
  else name ++ (if password.isEmpty then [] else ':' :: password) ++ ['@']

/-- The normal form of an authority, which holds user, host and service number, and what of it
belongs to the path. A lone `@` must be the end of the identifier. -/
def authority? (scheme : String) (last : Bool) (text : List Char) :
    Option (List Char × List Char) := do
  let (afterAt, beforeAt) := Text.breakWhere (· = '@') text.reverse
  guard (text ≠ ['@'] || last)
  let user := normalUser beforeAt.tail.reverse
  let (host, service) := splitHost false afterAt.reverse
  guard (!host.isEmpty || (!isSpecial scheme && user.isEmpty && service.isEmpty))
  let host ← Host.parse? (isSpecial scheme) host
  let (service, rest) ← service? scheme service
  return (user ++ host ++ service, rest)

/-- The authority and the path of an identifier, from what follows the slashes. -/
def withAuthority? (scheme : String) (last : Bool) (rest : List Char) :
    Option (Option (List Char) × List Char) := do
  let special := isSpecial scheme
  let (authority, path) := Text.breakWhere (isSlash special) rest
  let (authority, more) ← authority? scheme (last && path.isEmpty) authority
  return (some authority, normalPath special (more ++ path))

/-- The host and the path of a file's identifier, from what follows the scheme. A host before a
path that starts at a drive is dropped. -/
def file? (rest : List Char) : Option (List Char × List Char) := do
  let resolve := fun path => Walk.resolve true {} (Text.splitWhere (isSlash true) path)
  match rest.span (isSlash true) with
  | ([], path) => return ([], (resolve path).filePath)
  | ([_], path) => return ([], (resolve path).filePath)
  | _ =>
    let (host, path) := Text.breakWhere (isSlash true) (rest.drop 2)
    if isDrive host then return ([], (resolve (rest.drop 2)).filePath)
    else if host.isEmpty then return ([], (resolve path).filePath)
    else
      let host ← Host.parse? true host
      if host = "localhost".toList then return ([], (resolve path).filePath)
      else
        let walk := resolve (path.drop 1)
        return (if walk.drive then [] else host, walk.filePath)

/-- The authority and the path of an identifier, in normal form, from what follows the scheme;
`last` says whether the identifier ends with it. -/
def hierarchy? (scheme : String) (last : Bool) (rest : List Char) :
    Option (Option (List Char) × List Char) :=
  if scheme = "file" then (file? rest).map fun (host, path) => (some host, path)
  else if isSpecial scheme then withAuthority? scheme last (rest.dropWhile (isSlash true))
  else
    match rest with
    | '/' :: '/' :: rest => withAuthority? scheme last rest
    | '/' :: _ => some (none, normalPath false rest)
    | _ => some (none, encode [] rest)

def isSchemeChar (c : Char) : Bool :=
  c.isAlphanum || c = '+' || c = '-' || c = '.'

/-- The scheme of a text, in lower case, and what follows its colon. -/
def scheme? (text : List Char) : Option (List Char × List Char) :=
  match text.span isSchemeChar with
  | (first :: scheme, ':' :: rest) =>
    if first.isAlpha then some (Text.asciiLower (first :: scheme), rest) else none
  | _ => none

/-- The text without blanks and control characters at its ends, and without line breaks and tabs
anywhere. -/
def trim (text : List Char) : List Char :=
  let isBlank := fun c : Char => decide (c.toNat ≤ 0x20)
  let text := ((text.dropWhile isBlank).reverse.dropWhile isBlank).reverse
  text.filter fun c => c ≠ '\t' ∧ c ≠ '\n' ∧ c ≠ '\r'

def parse? (text : String) : Option Uri :=
  match scheme? (trim text.toList) with
  | none => none
  | some (scheme, rest) =>
    let scheme := String.ofList scheme
    let (rest, fragment) := Text.breakWhere (· = '#') rest
    let (rest, query) := Text.breakWhere (· = '?') rest
    match hierarchy? scheme (query.isEmpty && fragment.isEmpty) rest with
    | none => none
    | some (authority, path) =>
      some
        { scheme
          authority := authority.map String.ofList
          path := String.ofList path
          query :=
            if query.isEmpty then none
            else some (String.ofList (encode (querySet (isSpecial scheme)) (query.drop 1)))
          fragment :=
            if fragment.isEmpty then none
            else some (String.ofList (encode fragmentSet (fragment.drop 1))) }

end Uri

end CirHighlight
