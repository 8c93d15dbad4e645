import NamePattern.Proofs.Quoting

/-! How compiling ends: with the trees of a pattern, with a fault, or where a counter of brackets
overflows. -/
namespace NamePattern

open NamePattern.Bracket (Balanced Crowded)

namespace Builder

end Builder

end NamePattern
