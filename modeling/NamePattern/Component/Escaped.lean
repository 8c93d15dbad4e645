import NamePattern.Component

/-! The escaped form of a component: plain ASCII, one spelling for each value. -/
namespace NamePattern.Component

/-- Bytes that stand for themselves: `0-9 A-Z a-z + - . _`. -/
def isPlain (b : UInt8) : Bool :=
  (48 ≤ b && b ≤ 57) || (65 ≤ b && b ≤ 90) || (97 ≤ b && b ≤ 122) ||
    b == 43 || b == 45 || b == 46 || b == 95

/-- The digit `0-9 A-F` of a number below sixteen. -/
def hexDigit (n : UInt8) : Char :=
  if n < 10 then Char.ofUInt8 (48 + n) else Char.ofUInt8 (55 + n)

/-- The value of a hexadecimal digit in either case. -/
def hexValue? (b : UInt8) : Option UInt8 :=
  if 48 ≤ b && b ≤ 57 then some (b - 48)
  else if 65 ≤ b && b ≤ 70 then some (b - 55)
  else if 97 ≤ b && b ≤ 102 then some (b - 87)
  else none

/-- A byte as it is if plain, and as `%XX` otherwise. -/
def escapeByte (b : UInt8) : List Char :=
  if isPlain b then [Char.ofUInt8 b] else ['%', hexDigit (b / 16), hexDigit (b % 16)]

/-- Whether a value consists of periods only. The empty value does. -/
def isPeriods (bytes : List UInt8) : Bool := bytes.all (· == 46)

/-- The canonical escaped form. A value made of periods gets three more, so that it differs from
the empty path segment and from the segments `.` and `..`, which name no component. -/
def escaped (c : Component) : List Char :=
  if isPeriods c.bytes then List.replicate (c.length + 3) '.'
  else c.bytes.flatMap escapeByte

/-- Decodes every `%XX`. A `%` before two bytes that are not both hexadecimal digits is kept
together with these two bytes, and one before fewer than two bytes is kept. -/
def unescape : List UInt8 → List UInt8
  | b :: h :: l :: rest =>
    if b = 37 then
      match hexValue? h, hexValue? l with
      | some x, some y => (x * 16 + y) :: unescape rest
      | _, _ => b :: h :: l :: unescape rest
    else b :: unescape (h :: l :: rest)
  | short => short

/-- Blanks that may surround a URI and its parts. -/
def isBlank (c : Char) : Bool := c == ' ' || c == '\n' || c == '\r' || c == '\t'

/-- A text without the blanks at its two ends. -/
def trim (s : List Char) : List Char :=
  ((s.dropWhile isBlank).reverse.dropWhile isBlank).reverse

/-- Reads one escaped component. The empty segment, `.` and `..` name no component, whether
written plainly or escaped. -/
def ofEscaped? (s : List Char) : Option Component :=
  let value := unescape (Text.utf8 (trim s))
  if isPeriods value then
    if value.length ≤ 2 then none else some ⟨value.drop 3⟩
  else some ⟨value⟩

/-- How a component is shown to a reader. -/
def display (c : Component) : String := "Component(" ++ String.ofList c.escaped ++ ")"

end NamePattern.Component
