/-!
White space of a text: the characters of the Unicode property White_Space, and trimming.
-/

namespace AccountDirectory.Text

/-- The 25 characters with the property White_Space. -/
def isBlank (c : Char) : Bool :=
  let n := c.toNat
  (9 ≤ n && n ≤ 13) || n == 0x20 || n == 0x85 || n == 0xA0 || n == 0x1680 ||
    (0x2000 ≤ n && n ≤ 0x200A) || n == 0x2028 || n == 0x2029 || n == 0x202F || n == 0x205F ||
    n == 0x3000

/-- What is left of `l` without the elements at its two ends that satisfy `p`. -/
def stripBoth {α : Type} (p : α → Bool) (l : List α) : List α :=
  ((l.dropWhile p).reverse.dropWhile p).reverse

/-- A text without the white space at its ends. -/
def trim (s : String) : String :=
  String.ofList (stripBoth isBlank s.toList)

/-- The number of characters between the white space at the ends of a text. -/
def trimmedLength (s : String) : Nat :=
  (stripBoth isBlank s.toList).length

/-- Whether a text has no character but white space. -/
def isAllBlank (s : String) : Bool :=
  s.toList.all isBlank

end AccountDirectory.Text
