import IntentPolicy.Text.Json
import IntentPolicy.Web.Url

namespace IntentPolicy

/-!
# Requests and answers

What is sent to a server and what comes back, as far as the decision point is concerned,
with the names of statuses and the headers that identify a client.
-/

/-- What is asked of a resource. -/
inductive HttpMethod where
  | get
  | post
  | delete
  deriving Repr, DecidableEq

/-- The name of a method. -/
def HttpMethod.name : HttpMethod → String
  | .get => "GET"
  | .post => "POST"
  | .delete => "DELETE"

/-- A request to a server. -/
structure HttpRequest where
  method : HttpMethod
  url : Url
  authorization : Option String
  body : Option Json

/-- An answer of a server. -/
structure HttpResponse where
  status : Nat
  body : String
  deriving Repr, DecidableEq

/-- Sends a request and waits for the answer, if one comes. -/
abbrev Transport (State : Type) : Type :=
  HttpRequest → StateM State (Option HttpResponse)

/-- The name of a status. -/
def statusName? : Nat → Option String
  | 100 => some "Continue"
  | 101 => some "Switching Protocols"
  | 102 => some "Processing"
  | 103 => some "Early Hints"
  | 200 => some "OK"
  | 201 => some "Created"
  | 202 => some "Accepted"
  | 203 => some "Non Authoritative Information"
  | 204 => some "No Content"
  | 205 => some "Reset Content"
  | 206 => some "Partial Content"
  | 207 => some "Multi-Status"
  | 208 => some "Already Reported"
  | 226 => some "IM Used"
  | 300 => some "Multiple Choices"
  | 301 => some "Moved Permanently"
  | 302 => some "Found"
  | 303 => some "See Other"
  | 304 => some "Not Modified"
  | 305 => some "Use Proxy"
  | 307 => some "Temporary Redirect"
  | 308 => some "Permanent Redirect"
  | 400 => some "Bad Request"
  | 401 => some "Unauthorized"
  | 402 => some "Payment Required"
  | 403 => some "Forbidden"
  | 404 => some "Not Found"
  | 405 => some "Method Not Allowed"
  | 406 => some "Not Acceptable"
  | 407 => some "Proxy Authentication Required"
  | 408 => some "Request Timeout"
  | 409 => some "Conflict"
  | 410 => some "Gone"
  | 411 => some "Length Required"
  | 412 => some "Precondition Failed"
  | 413 => some "Payload Too Large"
  | 414 => some "URI Too Long"
  | 415 => some "Unsupported Media Type"
  | 416 => some "Range Not Satisfiable"
  | 417 => some "Expectation Failed"
  | 418 => some "I'm a teapot"
  | 421 => some "Misdirected Request"
  | 422 => some "Unprocessable Entity"
  | 423 => some "Locked"
  | 424 => some "Failed Dependency"
  | 425 => some "Too Early"
  | 426 => some "Upgrade Required"
  | 428 => some "Precondition Required"
  | 429 => some "Too Many Requests"
  | 431 => some "Request Header Fields Too Large"
  | 451 => some "Unavailable For Legal Reasons"
  | 500 => some "Internal Server Error"
  | 501 => some "Not Implemented"
  | 502 => some "Bad Gateway"
  | 503 => some "Service Unavailable"
  | 504 => some "Gateway Timeout"
  | 505 => some "HTTP Version Not Supported"
  | 506 => some "Variant Also Negotiates"
  | 507 => some "Insufficient Storage"
  | 508 => some "Loop Detected"
  | 510 => some "Not Extended"
  | 511 => some "Network Authentication Required"
  | _ => none

/-- A status by its number and its name. -/
def statusText (status : Nat) : String :=
  toString status ++ " " ++ (statusName? status).getD "<unknown status code>"

/-- The request was done. -/
def HttpResponse.isSuccess (response : HttpResponse) : Bool :=
  200 ≤ response.status && response.status < 300

/-- The answer settles the request; most statuses below 200 announce another answer. -/
def HttpResponse.isFinal (response : HttpResponse) : Bool :=
  response.status == 101 || (200 ≤ response.status && response.status ≤ 999)

/-- The body of an answer; the statuses 101, 204 and 304 come without one. -/
def HttpResponse.content? (response : HttpResponse) : Option String :=
  if [101, 204, 304].contains response.status then none else some response.body

/-- The text can be sent as the value of a header. -/
def isHeaderValue (text : String) : Bool :=
  text.toList.all fun character =>
    character == '\t' || (0x20 ≤ character.toNat && character.toNat ≠ 0x7F)

/-- The greatest number of bytes in the URL of a request. -/
def longestRequestUrl : Nat := 65534

/-- A request can be made for the URL: its scheme is one for web pages, and neither the
characters of its host nor its length stand in the way. -/
def Url.isRequestable (url : Url) : Bool :=
  let host := (url.authority.map (·.host)).getD ""
  ["http", "https"].contains url.scheme
    && !host.toList.any ("\"`\x7b\x7d".toList.contains ·)
    && url.text.utf8ByteSize ≤ longestRequestUrl

/-- One of the sixty-four digits for bytes. -/
def sextetDigit (value : Nat) : Char :=
  ("ABCDEFGHIJKLMNOPQRSTUVWXYZabcdefghijklmnopqrstuvwxyz0123456789+/".toList)[value]?.getD '='

/-- Bytes in digits of six bits each, filled up to groups of four. -/
def sextetText : List UInt8 → List Char
  | [] => []
  | [a] =>
      let value := a.toNat * 16
      [sextetDigit (value / 64), sextetDigit (value % 64), '=', '=']
  | [a, b] =>
      let value := (a.toNat * 256 + b.toNat) * 4
      [sextetDigit (value / 4096), sextetDigit (value / 64 % 64), sextetDigit (value % 64), '=']
  | a :: b :: c :: rest =>
      let value := (a.toNat * 256 + b.toNat) * 256 + c.toNat
      sextetDigit (value / 262144) :: sextetDigit (value / 4096 % 64)
        :: sextetDigit (value / 64 % 64) :: sextetDigit (value % 64) :: sextetText rest

/-- The header that identifies a client by the user of a URL, if it names one. -/
def Authority.credentials? (authority : Authority) : Option String := do
  let user ← percentDecode? authority.user.toList
  let password := authority.password.bind fun password => percentDecode? password.toList
  if user.isEmpty && password.isNone then none
  else
    let pair := user ++ ":" ++ password.getD ""
    return "Basic " ++ String.ofList (sextetText pair.toUTF8.toList)

end IntentPolicy
