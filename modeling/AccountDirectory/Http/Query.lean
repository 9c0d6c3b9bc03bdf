import AccountDirectory.Http.Forms
import AccountDirectory.Text.Percent

/-!
Queries: names and values with ampersands between them.
-/

namespace AccountDirectory.Http

/-- Why a query does not ask for a part of a list. -/
inductive QueryError where
  | duplicateField (name : String)
  | notInteger (e : NumeralError)
deriving DecidableEq, Repr

def QueryError.message : QueryError → String
  | duplicateField name => (Json.Cause.duplicateField name).message
  | notInteger e => e.message

namespace Query

/-- A plus sign stands for a blank. -/
def unescape (bytes : List UInt8) : List UInt8 :=
  Text.Percent.decode (bytes.map fun b => if b = 0x2B then 0x20 else b)

/-- The name and the value of a part, before and after its first equals sign. -/
def pair (part : List UInt8) : List UInt8 × List UInt8 :=
  (unescape (part.takeWhile (· ≠ 0x3D)), unescape ((part.dropWhile (· ≠ 0x3D)).drop 1))

/-- The names and values, in bytes. Empty parts count for nothing. -/
def pairs (query : String) : List (List UInt8 × List UInt8) :=
  (((Text.utf8 query).splitOnP (· == 0x26)).filter fun part => !part.isEmpty).map pair

/-- An integer of 64 bits. A byte that is no ASCII stands for a character that is no digit. -/
def integer (value : List UInt8) : Except QueryError Int :=
  (Numeral.int64 (Text.ofAscii value)).mapError .notInteger

end Query

namespace PageQuery

/-- Takes a name and its value into account. Other names count for nothing. -/
def assign (q : PageQuery) (p : List UInt8 × List UInt8) : Except QueryError PageQuery := do
  if p.1 = Text.ascii "offset" then
    if q.offset.isSome then throw (.duplicateField "offset")
    return { q with offset := some (← Query.integer p.2) }
  else if p.1 = Text.ascii "limit" then
    if q.limit.isSome then throw (.duplicateField "limit")
    return { q with limit := some (← Query.integer p.2) }
  else return q

def ofQuery (query : String) : Except QueryError PageQuery :=
  (Query.pairs query).foldlM assign { offset := none, limit := none }

end PageQuery

end AccountDirectory.Http
