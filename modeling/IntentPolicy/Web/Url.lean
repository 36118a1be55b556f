import IntentPolicy.Web.Path

namespace IntentPolicy

/-!
# URLs

A URL in its parts, and its one written form.  Other segments can be appended to a URL
whose path is made of segments.
-/

/-- Who and where a URL leads to. -/
structure Authority where
  user : String
  password : Option String
  host : String
  port : Option Nat
  deriving Repr, DecidableEq

/-- A URL in its parts, each in the form in which it is written. -/
structure Url where
  scheme : String
  authority : Option Authority
  path : UrlPath
  query : Option String
  fragment : Option String
  deriving Repr, DecidableEq

/-- The default port of a scheme for web addresses; none for another scheme. -/
def defaultPort? (scheme : String) : Option Nat :=
  match scheme with
  | "http" | "ws" => some 80
  | "https" | "wss" => some 443
  | "ftp" => some 21
  | _ => none

/-- The scheme has rules of its own. -/
def isSpecialScheme (scheme : String) : Bool :=
  (defaultPort? scheme).isSome || scheme == "file"

namespace Authority

/-- The written form of an authority. -/
def text (authority : Authority) : String :=
  let password := match authority.password with
    | some password => ":" ++ password
    | none => ""
  let user :=
    if authority.user.isEmpty && authority.password.isNone then ""
    else authority.user ++ password ++ "@"
  let port := match authority.port with
    | some port => ":" ++ toString port
    | none => ""
  user ++ authority.host ++ port

end Authority

namespace Url

/-- What follows the path: the query with its mark. -/
def queryText (url : Url) : String :=
  match url.query with
  | some query => "?" ++ query
  | none => ""

/-- The path and the query, as they are sent to a server. -/
def target (url : Url) : String :=
  url.path.text ++ url.queryText

/-- The written form of a URL. -/
def text (url : Url) : String :=
  let authority := match url.authority with
    | some authority => "//" ++ authority.text
    | none => if url.path.text.startsWith "//" then "/." else ""
  let fragment := match url.fragment with
    | some fragment => "#" ++ fragment
    | none => ""
  url.scheme ++ ":" ++ authority ++ url.target ++ fragment

/-- The path is made of segments, so that others can be appended. -/
def hasSegments (url : Url) : Bool :=
  match url.path with
  | .hierarchical _ => true
  | .opaqueText _ => false

/-- Append texts as segments, in place of an empty last segment. -/
def appending (url : Url) (texts : List String) : Url :=
  { url with path := url.path.appending (isSpecialScheme url.scheme) texts }

end Url

end IntentPolicy
