import NamePattern.Name.Relation
import NamePattern.NameRegex

/-! Rules that say which keys may sign which packets. -/
namespace NamePattern

/-- The name built from the key must stand in a relation to the name built from the packet. -/
structure TrustRule where
  packet : NameRegex
  key : NameRegex
  relation : Name.Relation

namespace TrustRule

/-- Why a rule cannot be read. -/
inductive Error where
  | compile (e : CompileError)
  | relation (e : Name.Relation.Unknown)
deriving DecidableEq

def Error.message : Error → String
  | compile e => e.message
  | relation e => e.message

/-- Reads a rule. Of several faults the first one counts: packet, key, relation. -/
def read (packet packetTemplate key keyTemplate relation : List Char) :
    Except Error TrustRule := do
  let packet ← (NameRegex.compile false packet packetTemplate).mapError .compile
  let key ← (NameRegex.compile false key keyTemplate).mapError .compile
  let relation ← (Name.Relation.read relation).mapError .relation
  return ⟨packet, key, relation⟩

/-- Whether a key may sign a packet. Names that their regexes do not match are refused before
anything is built from them. -/
def check (r : TrustRule) (packet key : Name) : Except ExpandError Bool :=
  match r.packet.captures packet, r.key.captures key with
  | some p, some k => do
    let packet ← p.expand r.packet.template
    let key ← k.expand r.key.template
    return r.relation.check key packet
  | _, _ => .ok false

end TrustRule

end NamePattern
