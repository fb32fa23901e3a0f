import SourceAtlas.Text.Case
import SourceAtlas.Text.Utf8

/-!
# Requests over HTTP

Just enough of the protocol to say what the program's own transport sends and how a reply's status
reads.  An address is split into the server and the target; in the target, dots are resolved and
characters that may not stand there are written as percent signs with two digits.  Of hosts, only
plain names and numbers are read.
-/

namespace SourceAtlas
namespace Http

/-- An address of a server with a plain host, and a resource on it. -/
structure Address where
  /-- The scheme and the authority. -/
  server : String
  /-- The path and the query. -/
  target : String
  deriving DecidableEq, Repr

/-- A digit in base sixteen, capital. -/
def upperHex (n : Nat) : Char := "0123456789ABCDEF".toList.getD n '0'

/-- The octets of a character, each as a percent sign and two digits. -/
def percentEncode (c : Char) : List Char :=
  (Text.encode (String.singleton c)).flatMap fun b =>
    ['%', upperHex (b.toNat / 16), upperHex (b.toNat % 16)]

/-- Characters outside the visible ASCII range. -/
def isUnprintable (c : Char) : Bool := c.toNat ≤ 0x20 || 0x7F ≤ c.toNat

/-- A segment of a path as it is sent. -/
def encodePath (s : List Char) : List Char :=
  s.flatMap fun c =>
    if isUnprintable c || "\"#<>?`\x7b\x7d".toList.contains c then percentEncode c else [c]

/-- A query as it is sent. -/
def encodeQuery (s : List Char) : List Char :=
  s.flatMap fun c => if isUnprintable c || "\"#<>'".toList.contains c then percentEncode c else [c]

/-- A segment with its percent-encoded dots written plainly, for comparison. -/
def plainDots : List Char → List Char
  | '%' :: '2' :: 'e' :: rest => '.' :: plainDots rest
  | '%' :: '2' :: 'E' :: rest => '.' :: plainDots rest
  | c :: rest => c :: plainDots rest
  | [] => []

/-- The segments of a path with single and double dots resolved; going up from the top stays there.
What is resolved so far stands in `done`, last first. -/
def resolveDots (done : List (List Char)) : List (List Char) → List (List Char)
  | [] => done.reverse
  | s :: rest =>
    let plain := plainDots s
    let dotted := if rest.isEmpty then [[]] else []
    if plain = ['.'] then resolveDots (dotted ++ done) rest
    else if plain = ['.', '.'] then resolveDots (dotted ++ done.tail) rest
    else resolveDots (s :: done) rest

/-- Whether a character separates the segments of a path; a backslash counts as a slash. -/
def isSlash (c : Char) : Bool := c = '/' || c = '\\'

/-- The target of an address: everything after the authority, without a fragment. -/
def targetOf (s : List Char) : List Char :=
  let beforeFragment := s.takeWhile (· ≠ '#')
  let path := beforeFragment.takeWhile (· ≠ '?')
  let query := beforeFragment.dropWhile (· ≠ '?')
  let segments := match path with
    | [] => [[]]
    | _ :: rest => resolveDots [] (rest.splitOnP isSlash)
  segments.flatMap (fun seg => '/' :: encodePath seg) ++
    match query with
    | [] => []
    | _ :: q => '?' :: encodeQuery q

/-- Whether the part of an authority after the host is a port. -/
def isPort (s : List Char) : Bool :=
  match s with
  | [] => true
  | ':' :: digits =>
    digits.all Char.isDigit && digits.foldl (fun n c => n * 10 + (c.toNat - 0x30)) 0 < 65536
  | _ => false

/-- Whether an authority has a host and, if anything else, a port. -/
def isAuthority (s : List Char) : Bool :=
  let host := s.takeWhile (· ≠ ':')
  let refused := "<>^|%[]@\\\"`\x7b\x7d".toList
  !host.isEmpty && host.all (fun c => !isUnprintable c && !refused.contains c) &&
    isPort (s.dropWhile (· ≠ ':'))

/-- Reads an address.  Blanks and control characters around it do not count, nor do tabs and line
breaks inside it. -/
def Address.parse? (s : String) : Option Address :=
  let isEdge (c : Char) : Bool := c.toNat ≤ 0x20
  let trimmed := ((s.toList.dropWhile isEdge).reverse.dropWhile isEdge).reverse
  let chars := trimmed.filter fun c => c ≠ '\t' && c ≠ '\n' && c ≠ '\r'
  match chars.span (· ≠ ':') with
  | (scheme, ':' :: rest) =>
    let name := String.ofList (scheme.map Text.asciiSmall)
    if name = "http" || name = "https" then
      let (authority, tail) :=
        (rest.dropWhile isSlash).span fun c => !isSlash c && c ≠ '?' && c ≠ '#'
      if isAuthority authority then
        some ⟨name ++ "://" ++ String.ofList authority, String.ofList (targetOf tail)⟩
      else none
    else none
  | _ => none

/-- Whether a text may be the value of a header: no control characters but the tab. -/
def isHeaderValue (s : String) : Bool :=
  s.toList.all fun c => c = '\t' || (0x20 ≤ c.toNat && c.toNat ≠ 0x7F)

/-- The standard phrase of a status. -/
def reason? : Nat → Option String
  | 100 => "Continue" | 101 => "Switching Protocols" | 102 => "Processing"
  | 200 => "OK" | 201 => "Created" | 202 => "Accepted"
  | 203 => "Non Authoritative Information" | 204 => "No Content" | 205 => "Reset Content"
  | 206 => "Partial Content" | 207 => "Multi-Status" | 208 => "Already Reported" | 226 => "IM Used"
  | 300 => "Multiple Choices" | 301 => "Moved Permanently" | 302 => "Found" | 303 => "See Other"
  | 304 => "Not Modified" | 305 => "Use Proxy" | 307 => "Temporary Redirect"
  | 308 => "Permanent Redirect"
  | 400 => "Bad Request" | 401 => "Unauthorized" | 402 => "Payment Required" | 403 => "Forbidden"
  | 404 => "Not Found" | 405 => "Method Not Allowed" | 406 => "Not Acceptable"
  | 407 => "Proxy Authentication Required" | 408 => "Request Timeout" | 409 => "Conflict"
  | 410 => "Gone" | 411 => "Length Required" | 412 => "Precondition Failed"
  | 413 => "Payload Too Large" | 414 => "URI Too Long" | 415 => "Unsupported Media Type"
  | 416 => "Range Not Satisfiable" | 417 => "Expectation Failed" | 418 => "I'm a teapot"
  | 421 => "Misdirected Request" | 422 => "Unprocessable Entity" | 423 => "Locked"
  | 424 => "Failed Dependency" | 425 => "Too Early" | 426 => "Upgrade Required"
  | 428 => "Precondition Required" | 429 => "Too Many Requests"
  | 431 => "Request Header Fields Too Large" | 451 => "Unavailable For Legal Reasons"
  | 500 => "Internal Server Error" | 501 => "Not Implemented" | 502 => "Bad Gateway"
  | 503 => "Service Unavailable" | 504 => "Gateway Timeout" | 505 => "HTTP Version Not Supported"
  | 506 => "Variant Also Negotiates" | 507 => "Insufficient Storage" | 508 => "Loop Detected"
  | 510 => "Not Extended" | 511 => "Network Authentication Required"
  | _ => none

/-- A status with its phrase. -/
def renderStatus (status : Nat) : String :=
  toString status ++ " " ++ (reason? status).getD "<unknown status code>"

/-- Whether a status means success. -/
def isSuccess (status : Nat) : Bool := 200 ≤ status && status < 300

/-- Whether replies of a status never have a body. -/
def isBodiless (status : Nat) : Bool := status = 204 || status = 304

end Http
end SourceAtlas
