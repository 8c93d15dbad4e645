import NamePattern.CharRegex.CharSet

/-! Sets of characters as sequences of bytes that encode them. -/
namespace NamePattern.CharRegex

/-- All bytes from one to another. -/
abbrev ByteRun := Nat × Nat

/-- One run for each byte of an encoding. It stands for all encodings whose bytes lie in the
runs. -/
abbrev ByteRuns := List ByteRun

namespace ByteRuns

/-- Any byte behind the first one of an encoding. -/
def continuation : ByteRun := (0x80, 0xbf)

/-- The encodings of the numbers from `lo` to `hi` that have `n` bytes behind the first, in
ascending order. `offset` is added to the number in the first byte. Numbers that share all but
their last bytes are divided only where a last byte does not run through all values. -/
def ofNumbers : Nat → Nat → Nat → Nat → List ByteRuns
  | 0, offset, lo, hi => [[(offset + lo, offset + hi)]]
  | n + 1, offset, lo, hi =>
    let size := 64 ^ (n + 1)
    let (first, last) := (lo / size, hi / size)
    let behind (byte lo hi : Nat) : List ByteRuns :=
      (ofNumbers n 0x80 lo hi).map ((offset + byte, offset + byte) :: ·)
    if first = last then behind first (lo % size) (hi % size)
    else
      let front := if lo % size = 0 then [] else behind first (lo % size) (size - 1)
      let back := if hi % size = size - 1 then [] else behind last 0 (hi % size)
      let from' := if lo % size = 0 then first else first + 1
      let upTo := if hi % size = size - 1 then last + 1 else last
      let middle :=
        if from' < upTo then
          [(offset + from', offset + upTo - 1) :: List.replicate (n + 1) continuation]
        else []
      front ++ middle ++ back

/-- The code points whose encodings have the same number of bytes: the first and the last of them,
the number of bytes behind the first one, and the offset of that. -/
def widths : List (Nat × Nat × Nat × Nat) :=
  [(0, 0x7f, 0, 0), (0x80, 0x7ff, 1, 0xc0), (0x800, 0xd7ff, 2, 0xe0), (0xe000, 0xffff, 2, 0xe0),
   (0x10000, 0x10ffff, 3, 0xf0)]

/-- The encodings of a set of characters, in ascending order. -/
def ofSet (s : CharSet) : List ByteRuns :=
  s.runs.flatMap fun (lo, hi) => widths.flatMap fun (least, greatest, n, offset) =>
    if max lo least ≤ min hi greatest then ofNumbers n offset (max lo least) (min hi greatest)
    else []

end ByteRuns

end NamePattern.CharRegex
