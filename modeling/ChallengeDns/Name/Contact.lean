import ChallengeDns.Name.Reader
/-!
# The administrator's address as a name

The contact of a zone is a mail address written as a name: the local part is one label, so the dots
in it are escaped, and the first `@` that no backslash precedes becomes the dot behind it.
-/

namespace ChallengeDns.Contact

/-- The local part and the domain around the first `@` that does not follow a backslash. -/
def split? : Option CodePoint → Text → Option (Text × Text)
  | _, [] => none
  | previous, c :: rest =>
    if c = .scalar '@' && previous ≠ some (.scalar '\\') then some ([], rest)
    else (split? (some c) rest).map fun (user, domain) => (c :: user, domain)

/-- The address in the text form of a name; text without a separating `@` stays as it is. -/
def nameText (address : Text) : Text :=
  match split? none address with
  | none => address
  | some (user, domain) => Text.replace '.' "\\." user ++ "." ++ domain

/-- The name of the administrator's mailbox. -/
def name (address : Text) : Except NameError Name := Name.readAbsolute (nameText address)

end ChallengeDns.Contact
