/-!
The media types of bodies, as the content type header names them: a type, a subtype, and parameters
after semicolons.
-/

namespace AccountDirectory.Http.MediaType

/-- Whether a character may stand in a name. -/
def isNameChar (c : Char) : Bool :=
  c.isAlphanum || "!#$%&'*+-.^_\x60|~".toList.contains c

/-- Whether a character may stand between quotes. -/
def isQuotedChar (c : Char) : Bool :=
  31 < c.toNat && c.toNat ≠ 127

/-- A place in the parameters. -/
inductive Place where
  | start
  | name
  /-- After the equals sign. -/
  | value
  | bareValue
  /-- After the opening quote. -/
  | quote
  | quotedValue
  | afterQuote
deriving DecidableEq, Repr

namespace Place

/-- The place after one more character. A quoted value has at least one character. -/
def next (p : Place) (c : Char) : Option Place :=
  match p with
  | start => if c = ' ' then some start else if isNameChar c then some name else none
  | name => if c = '=' then some value else if isNameChar c then some name else none
  | value => if c = '"' then some quote else if isNameChar c then some bareValue else none
  | bareValue => if c = ';' then some start else if isNameChar c then some bareValue else none
  | quote => if isQuotedChar c then some quotedValue else none
  | quotedValue =>
    if c = '"' then some afterQuote else if isQuotedChar c then some quotedValue else none
  | afterQuote => if c = ';' then some start else if c = ' ' then some afterQuote else none

/-- Whether the parameters may end here. -/
def mayEnd : Place → Bool
  | start | value | bareValue | afterQuote => true
  | name | quote | quotedValue => false

end Place

/-- Whether the text after the first semicolon is a list of parameters. -/
def areParameters (l : List Char) : Bool :=
  ((l.foldlM Place.next .start).map Place.mayEnd).getD false

/-- The type and the subtype of a content type, in lower case. -/
def essence? (contentType : String) : Option (List Char × List Char) :=
  let (type, rest) := contentType.toList.span isNameChar
  match rest with
  | '/' :: rest =>
    let (subtype, rest) := rest.span isNameChar
    let parametersFollow := match rest with
      | [] => true
      | c :: rest => c = ';' && subtype ≠ [] && areParameters rest
    if type ≠ [] && parametersFollow then some (type.map Char.toLower, subtype.map Char.toLower)
    else none
  | _ => none

/-- The parts of a subtype before and after its last plus sign. -/
def splitSuffix? (subtype : List Char) : Option (List Char × List Char) :=
  let (suffix, rest) := subtype.reverse.span (· ≠ '+')
  match rest with
  | _ :: base => if base = [] then none else some (base.reverse, suffix.reverse)
  | [] => none

/-- Whether a content type says that the body is JSON, plain or as the base of another format. -/
def isJson (contentType : String) : Bool :=
  match essence? contentType with
  | some (type, subtype) =>
    let json := "json".toList
    type = "application".toList &&
      match splitSuffix? subtype with
      | some (base, suffix) => base = json || suffix = json
      | none => subtype = json
  | none => false

end AccountDirectory.Http.MediaType
