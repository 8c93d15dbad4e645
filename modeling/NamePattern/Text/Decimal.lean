/-! Decimal numbers of limited size. -/
namespace NamePattern.Text

/-- The greatest number that patterns and templates can hold. -/
def maxNumber : Nat := 18446744073709551615

/-- Whether a text is a number: one or more digits, in ASCII. -/
def isNumeral (s : List Char) : Bool := !s.isEmpty && s.all Char.isDigit

/-- The value of digits. -/
def numeralValue (s : List Char) : Nat := s.foldl (fun n c => n * 10 + (c.toNat - 48)) 0

end NamePattern.Text
