import NamePattern.Text.Utf8

/-! Components of hierarchical names. -/
namespace NamePattern

/-- One opaque segment of a name. Its value is a string of bytes, compared as such. -/
structure Component where
  bytes : List UInt8
deriving DecidableEq, Inhabited

namespace Component

/-- The component whose value is a text, byte for byte. -/
def ofText (s : List Char) : Component := ⟨Text.utf8 s⟩

def length (c : Component) : Nat := c.bytes.length

def isEmpty (c : Component) : Bool := c.bytes.isEmpty

/-- Components are ordered byte by byte, and a proper beginning comes before what it begins. -/
instance : Ord Component := ⟨fun a b => compare a.bytes b.bytes⟩

end Component

end NamePattern
