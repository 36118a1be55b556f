import IntentPolicy.Web.Host
import IntentPolicy.Web.Url

namespace IntentPolicy

/-!
# Reading URLs

Reading normalizes: the scheme and a domain are put in lower case, the default port and
dot segments go away, and characters are percent-encoded where their part needs it.
-/

namespace Url

/-- The character opens a query or a fragment. -/
def opensSuffix (character : Char) : Bool :=
  character == '?' || character == '#'

/-- Read what follows a path: an optional query and an optional fragment. -/
def readSuffix (isSpecial : Bool) (characters : List Char) : Option String × Option String :=
  let escapes (character : Char) : Bool :=
    escapedInQuery character || (isSpecial && character == '\'')
  let (front, behind) := splitBefore (· == '#') characters
  let query := match front with
    | '?' :: query => some (String.ofList (percentEncode escapes query))
    | _ => none
  let fragment := match behind with
    | '#' :: fragment => some (String.ofList (percentEncode escapedInFragment fragment))
    | _ => none
  (query, fragment)

/-- Read a port; the default port of the scheme is left out. -/
def readPort (scheme : String) (digits : List Char) : Except UrlError (Option Nat) :=
  if !digits.all Char.isDigit || 65535 < digitsValue digits then .error .invalidPort
  else if digits.isEmpty || defaultPort? scheme = some (digitsValue digits) then .ok none
  else .ok (some (digitsValue digits))

/-- Split a host from the port behind it; a colon within brackets is part of the host. -/
def splitPort (inBrackets : Bool) : List Char → List Char × Option (List Char)
  | [] => ([], none)
  | character :: rest =>
      if character = ':' ∧ !inBrackets then ([], some rest)
      else
        let inside :=
          if character = '[' then true else if character = ']' then false else inBrackets
        let (host, port) := splitPort inside rest
        (character :: host, port)

/-- Read a host and a port, and hand on what a backslash behind the port separates from them. -/
def readHostAndPort (scheme : String) (characters : List Char) :
    Except UrlError (String × Option Nat × List Char) := do
  let (hostCharacters, portCharacters) := splitPort false characters
  let host ←
    if isSpecialScheme scheme then Host.readWeb hostCharacters else Host.readOpaque hostCharacters
  if host.isEmpty && portCharacters.isSome then throw .emptyHost
  let (digits, behind) := splitBefore (· == '\\') (portCharacters.getD [])
  let port ← readPort scheme digits
  return (String.ofList host, port, behind)

/-- Split the user's part from the place, at the last mark between them. -/
def splitUser (characters : List Char) : Option (List Char) × List Char :=
  if characters.contains '@' then
    let reversed := characters.reverse
    let place := (reversed.takeWhile (· != '@')).reverse
    (some ((reversed.dropWhile (· != '@')).drop 1).reverse, place)
  else (none, characters)

/-- Read an authority, and hand on what belongs to the path behind it. -/
def readAuthority (scheme : String) (characters : List Char) :
    Except UrlError (Authority × List Char) := do
  let (given, place) := splitUser characters
  let (name, secret) := splitBefore (· == ':') (given.getD [])
  let user := String.ofList (percentEncode escapedInUserInfo name)
  let password :=
    if secret.length ≤ 1 then none
    else some (String.ofList (percentEncode escapedInUserInfo (secret.drop 1)))
  let (host, port, behind) ← readHostAndPort scheme place
  if host.isEmpty && (!user.isEmpty || password.isSome) then throw .emptyHost
  return (⟨user, password, host, port⟩, behind)

/-- Read what follows the slashes in front of an authority. -/
def readBehindSlashes (scheme : String) (characters : List Char) : Except UrlError Url := do
  let isSpecial := isSpecialScheme scheme
  let ends (character : Char) : Bool :=
    character == '/' || opensSuffix character || (isSpecial && character == '\\')
  let (authorityCharacters, rest) := splitBefore ends characters
  if authorityCharacters = ['@'] && !rest.isEmpty then throw .emptyHost
  let (authority, behind) ← readAuthority scheme authorityCharacters
  let (path, suffix) := splitBefore opensSuffix (behind ++ rest)
  let (query, fragment) := readSuffix isSpecial suffix
  let segments := UrlPath.readSegments isSpecial path
  return ⟨scheme, some authority, .hierarchical segments, query, fragment⟩

/-- Read what follows a scheme without rules of its own. -/
def readOrdinary (scheme : String) (characters : List Char) : Except UrlError Url :=
  match characters with
  | '/' :: '/' :: rest => readBehindSlashes scheme rest
  | _ =>
      let (path, suffix) := splitBefore opensSuffix characters
      let (query, fragment) := readSuffix false suffix
      let path := match path with
        | '/' :: _ => UrlPath.hierarchical (UrlPath.readSegments false path)
        | _ => .opaqueText (String.ofList (percentEncode isControlOrForeign path))
      .ok ⟨scheme, none, path, query, fragment⟩

/-- The character separates the parts of the place of a file. -/
def isFileSlash (character : Char) : Bool :=
  character == '/' || character == '\\'

/-- Read the host of a file, and hand on what stands behind the root of its path.  The host
may be missing, and a drive in its place belongs to the path. -/
def readFileHost (characters : List Char) : Except UrlError (List Char × List Char) := do
  match characters with
  | first :: second :: behind =>
      if isFileSlash first && isFileSlash second then
        let ends (character : Char) : Bool := isFileSlash character || opensSuffix character
        let (given, rest) := splitBefore ends behind
        if given.isEmpty || UrlPath.isDrive given then return ([], behind)
        let host ← Host.readWeb given
        if host = "localhost".toList then return ([], rest)
        else return (host, if rest.head?.any isFileSlash then rest.drop 1 else rest)
      else return ([], if isFileSlash first then second :: behind else characters)
  | [single] => return ([], if isFileSlash single then [] else characters)
  | [] => return ([], [])

/-- Read what follows the scheme of a file; a path on a drive needs no host. -/
def readFile (characters : List Char) : Except UrlError Url := do
  let (host, rest) ← readFileHost characters
  let (path, suffix) := splitBefore opensSuffix rest
  let (query, fragment) := readSuffix true suffix
  let (segments, isOnDrive) := UrlPath.readFileSegments path
  let shown := if isOnDrive then "" else String.ofList host
  return ⟨"file", some ⟨"", none, shown, none⟩, .hierarchical segments, query, fragment⟩

/-- Split a scheme off the front. -/
def readScheme? (characters : List Char) : Option (String × List Char) :=
  let isSchemeCharacter (character : Char) : Bool :=
    character.isAlphanum || character == '+' || character == '-' || character == '.'
  let scheme := characters.takeWhile isSchemeCharacter
  match scheme.head?, characters.dropWhile isSchemeCharacter with
  | some first, ':' :: rest =>
      if first.isAlpha then some (String.ofList (scheme.map asciiLower), rest) else none
  | _, _ => none

/-- The characters of a text that are read: no controls or blanks at its ends, no line breaks. -/
def readable (text : String) : List Char :=
  let isEdge (character : Char) : Bool := character.toNat ≤ 0x20
  let trimmed := ((text.toList.dropWhile isEdge).reverse.dropWhile isEdge).reverse
  trimmed.filter fun character => character != '\t' && character != '\n' && character != '\r'

/-- Read a URL. -/
def ofText (text : String) : Except UrlError Url :=
  match readScheme? (readable text) with
  | none => .error .relativeWithoutBase
  | some (scheme, rest) =>
      if scheme = "file" then readFile rest
      else if isSpecialScheme scheme then
        readBehindSlashes scheme (rest.dropWhile fun character =>
          character == '/' || character == '\\')
      else readOrdinary scheme rest

end Url

end IntentPolicy
