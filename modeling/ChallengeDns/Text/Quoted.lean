import ChallengeDns.Text.Printable
import ChallengeDns.Text.Utf8
/-!
# Quoted text

How a text or a sequence of octets is shown inside a message: between single quotes, or between
double quotes when it holds a single quote and no double one.  Line ends, tabs, backslashes and the
quote itself are escaped, and so is every character that cannot be printed.
-/

namespace ChallengeDns

namespace Text

/-- The quote that a text is put between. -/
def quoteFor (t : Text) : CodePoint :=
  if t.contains (.scalar '\'') && !t.contains (.scalar '"') then .scalar '"' else .scalar '\''

/-- A code point inside quotes. -/
def quotedPoint (quote c : CodePoint) : Text :=
  if c = quote || c = .scalar '\\' then [.scalar '\\', c]
  else if c = .scalar '\t' then "\\t"
  else if c = .scalar '\n' then "\\n"
  else if c = .scalar '\r' then "\\r"
  else if c.isPrintable then [c]
  else if c.value < 0x100 then "\\x" ++ hex 2 c.value
  else if c.value < 0x10000 then "\\u" ++ hex 4 c.value
  else "\\U" ++ hex 8 c.value

def quoted (t : Text) : Text :=
  let quote := quoteFor t
  quote :: t.flatMap (quotedPoint quote) ++ [quote]

/-- Octets between quotes, behind a `b`; those that are no visible ASCII character or blank are
written in hexadecimal. -/
def quotedBytes (bytes : Bytes) : Text :=
  let shown : Text := bytes.map fun b => .scalar (Char.ofNat b.toNat)
  let quote := quoteFor shown
  let octet (b : UInt8) : Text :=
    let c : CodePoint := .scalar (Char.ofNat b.toNat)
    if c = quote || c = .scalar '\\' then [.scalar '\\', c]
    else if b = 9 then "\\t"
    else if b = 10 then "\\n"
    else if b = 13 then "\\r"
    else if b < 0x20 || 0x7F ≤ b then "\\x" ++ hex 2 b.toNat
    else [c]
  .scalar 'b' :: quote :: bytes.flatMap octet ++ [quote]

end Text

end ChallengeDns
