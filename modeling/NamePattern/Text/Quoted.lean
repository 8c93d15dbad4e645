import NamePattern.Text.Glyph

/-! Texts quoted in messages: always one line, with every character visible. -/
namespace NamePattern.Text

/-- Digits of a number in base sixteen, in lower case and without leading zeros. -/
def hexDigits (n : Nat) : List Char := Nat.toDigits 16 n

/-- How one character is written between double quotes. Characters without a glyph of their own
are written by their number. -/
def quotedChar (c : Char) : List Char :=
  if c = '"' || c = '\\' then ['\\', c]
  else if c = '\x00' then ['\\', '0']
  else if c = '\t' then ['\\', 't']
  else if c = '\r' then ['\\', 'r']
  else if c = '\n' then ['\\', 'n']
  else if hasGlyph c then [c]
  else ['\\', 'u', '{'] ++ hexDigits c.toNat ++ ['}']

/-- A text between double quotes. -/
def quoted (s : List Char) : String := "\"" ++ String.ofList (s.flatMap quotedChar) ++ "\""

end NamePattern.Text
