import PodPlacement.Json.Basic

/-!
Requests and responses of HTTP, as far as a client of a JSON interface needs them.
-/

namespace PodPlacement

inductive Method
  | get
  | put
  | post
  | delete
deriving DecidableEq, Repr

def Method.text : Method → String
  | get => "GET"
  | put => "PUT"
  | post => "POST"
  | delete => "DELETE"

structure HttpRequest where
  method : Method
  url : String
  /-- A body is sent as JSON. -/
  body : Option Json := none

structure HttpResponse where
  status : Nat
  body : String
deriving DecidableEq, Repr

namespace HttpResponse

def isSuccess (r : HttpResponse) : Bool := 200 ≤ r.status && r.status < 300

def reasons : List (Nat × String) :=
  [(100, "Continue"), (101, "Switching Protocols"), (102, "Processing"), (200, "OK"),
    (201, "Created"), (202, "Accepted"), (203, "Non Authoritative Information"),
    (204, "No Content"), (205, "Reset Content"), (206, "Partial Content"), (207, "Multi-Status"),
    (208, "Already Reported"), (226, "IM Used"), (300, "Multiple Choices"),
    (301, "Moved Permanently"), (302, "Found"), (303, "See Other"), (304, "Not Modified"),
    (305, "Use Proxy"), (307, "Temporary Redirect"), (308, "Permanent Redirect"),
    (400, "Bad Request"), (401, "Unauthorized"), (402, "Payment Required"), (403, "Forbidden"),
    (404, "Not Found"), (405, "Method Not Allowed"), (406, "Not Acceptable"),
    (407, "Proxy Authentication Required"), (408, "Request Timeout"), (409, "Conflict"),
    (410, "Gone"), (411, "Length Required"), (412, "Precondition Failed"),
    (413, "Payload Too Large"), (414, "URI Too Long"), (415, "Unsupported Media Type"),
    (416, "Range Not Satisfiable"), (417, "Expectation Failed"), (418, "I'm a teapot"),
    (421, "Misdirected Request"), (422, "Unprocessable Entity"), (423, "Locked"),
    (424, "Failed Dependency"), (425, "Too Early"), (426, "Upgrade Required"),
    (428, "Precondition Required"), (429, "Too Many Requests"),
    (431, "Request Header Fields Too Large"), (451, "Unavailable For Legal Reasons"),
    (500, "Internal Server Error"), (501, "Not Implemented"), (502, "Bad Gateway"),
    (503, "Service Unavailable"), (504, "Gateway Timeout"), (505, "HTTP Version Not Supported"),
    (506, "Variant Also Negotiates"), (507, "Insufficient Storage"), (508, "Loop Detected"),
    (510, "Not Extended"), (511, "Network Authentication Required")]

def statusText (r : HttpResponse) : String :=
  toString r.status ++ " " ++ (reasons.lookup r.status).getD "<unknown status code>"

end HttpResponse

/-! ### What a server sees of an address -/

def needsPercent (inQuery : Bool) (c : Char) : Bool :=
  c.toNat ≤ 0x20 || 0x7e < c.toNat || "\"<>".toList.contains c ||
    (if inQuery then c = '\'' else c.toNat = 0x60 || c.toNat = 0x7b || c.toNat = 0x7d)

def percentByte (b : UInt8) : List Char :=
  let digit (n : Nat) : Char := (Nat.digitChar n).toUpper
  ['%', digit (b.toNat / 16), digit (b.toNat % 16)]

def percentEncode (inQuery : Bool) (cs : List Char) : List Char :=
  cs.flatMap fun c ↦
    if needsPercent inQuery c then (String.singleton c).toUTF8.toList.flatMap percentByte else [c]

def dots? : List Char → Option Nat
  | [] => some 0
  | '.' :: cs => (dots? cs).map (· + 1)
  | '%' :: '2' :: e :: cs => if e = 'e' ∨ e = 'E' then (dots? cs).map (· + 1) else none
  | _ => none

/-- One more segment of a path; dots step back or stay. The last segment keeps its place. -/
def pushSegment (isLast : Bool) (path : List (List Char)) (segment : List Char) :
    List (List Char) :=
  match dots? segment with
  | some 2 => if isLast then path.dropLast ++ [[]] else path.dropLast
  | some 1 => if isLast then path ++ [[]] else path
  | _ => path ++ [segment]

def normalizePath (segments : List (List Char)) : List (List Char) :=
  let last := segments.length - 1
  segments.zipIdx.foldl (fun path (s, i) ↦ pushSegment (i == last) path s) []

def requestTarget (address : String) : String :=
  let cs := address.toList.filter fun c ↦ c != '\t' && c != '\n' && c != '\r'
  let cs := ((cs.reverse.dropWhile (·.toNat ≤ 0x20)).reverse).takeWhile (· != '#')
  let path := cs.takeWhile (· != '?')
  let query := cs.dropWhile (· != '?')
  let slashed := path.map fun c ↦ if c = '\\' then '/' else c
  let segments := normalizePath ((slashed.splitOn '/').drop 1)
  let path := segments.flatMap fun s ↦ '/' :: percentEncode false s
  String.ofList ((if path.isEmpty then ['/'] else path) ++ percentEncode true query)

end PodPlacement
