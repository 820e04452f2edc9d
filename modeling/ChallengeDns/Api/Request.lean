import ChallengeDns.Text.Utf8
import ChallengeDns.Text.Table
/-!
# Requests

What the update interface is asked.  Paths are taken out of their targets, with escapes resolved;
the names of headers are compared without case.
-/

namespace ChallengeDns

structure Request where
  method : Text
  /-- The path with its query as it was sent, perhaps with a host in front. -/
  target : Text
  /-- Names and values in order; a value is one line. -/
  headers : List (Text × Text)
  body : Bytes
  /-- The client's address as it was told. -/
  client : Text

namespace Request

/-- A header's name as it is compared. -/
def headerName (t : Text) : Text :=
  (Text.toLowerAscii t).map fun c => if c = .scalar '_' then .scalar '-' else c

/-- All values of a header, in one text. -/
def header? (r : Request) (name : Text) : Option Text :=
  match r.headers.filter fun h => headerName h.1 == headerName name with
  | [] => none
  | hs => some (Text.join ", " (hs.map (·.2)))

/-- The first value of a header. -/
def firstHeader? (r : Request) (name : Text) : Option Text :=
  (r.headers.find? fun h => headerName h.1 == headerName name).map (·.2)

/-- The octets of a path; a percent sign and two hexadecimal digits are one octet. -/
def unescape : Text → Bytes
  | .scalar '%' :: .scalar a :: .scalar b :: rest =>
    match Table.hexDigit? a, Table.hexDigit? b with
    | some x, some y => (x * 16 + y).toUInt8 :: unescape rest
    | _, _ => 0x25 :: unescape (.scalar a :: .scalar b :: rest)
  | c :: rest => Text.utf8 [c] ++ unescape rest
  | [] => []

def isScheme (t : Text) : Bool :=
  t.all (fun c => c.char?.any fun c => c.isAlphanum || "+-.".toList.contains c)
    && (t.head?.bind CodePoint.char?).any Char.isAlpha

/-- The target without its scheme. -/
def dropScheme (t : Text) : Text :=
  match Text.cut? ':' t with
  | some (scheme, rest) => if isScheme scheme then rest else t
  | none => t

/-- The target without the host, which stands between two slashes and the next one. -/
def dropHost : Text → Text
  | .scalar '/' :: .scalar '/' :: rest => rest.dropWhile (· ≠ .scalar '/')
  | t => t

/-- The path that a request is for.  It starts with exactly one slash. -/
def path (r : Request) : Text :=
  let target := r.target.takeWhile fun c => c ≠ .scalar '?' ∧ c ≠ .scalar '#'
  let path := Text.decodeReplacing 0 (unescape (dropHost (dropScheme target)))
  .scalar '/' :: path.dropWhile (· = .scalar '/')

def mediaType (r : Request) : Text :=
  let blank (c : CodePoint) : Bool := c = .scalar ' ' || c = .scalar '\t'
  Text.toLowerAscii (Text.trim blank
    (((r.firstHeader? "Content-Type").getD []).takeWhile (· ≠ .scalar ';')))

def isJson (r : Request) : Bool :=
  let t := r.mediaType
  t == ("application/json" : Text)
    || (Text.ofString "application/").isPrefixOf t && (Text.ofString "+json").isSuffixOf t

end Request

end ChallengeDns
