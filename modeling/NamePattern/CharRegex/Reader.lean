import NamePattern.CharRegex.Tree
import NamePattern.Text.Letter

/-! Reading regexes over characters. Each function takes the text that is left and returns what
it has read and what is left then, or nothing if the text is malformed. -/
namespace NamePattern.CharRegex

/-- Skips blanks and comments from `#` to the end of the line. -/
def skipBlanks (inComment : Bool) : List Char → List Char
  | [] => []
  | c :: s =>
    if inComment then skipBlanks (c != '\n') s
    else if Text.isWhitespace c then skipBlanks false s
    else if c = '#' then skipBlanks true s
    else c :: s

/-- Blanks and comments have no meaning in the extended mode, and are literals otherwise. -/
def skip (extended : Bool) (s : List Char) : List Char :=
  if extended then skipBlanks false s else s

/-- The longest run of characters that pass a test, with what may be skipped before and between
them. -/
def takeSkipping (x : Bool) (p : Char → Bool) (inComment : Bool) :
    List Char → List Char × List Char
  | [] => ([], [])
  | c :: s =>
    if inComment then takeSkipping x p (c != '\n') s
    else if x && Text.isWhitespace c then takeSkipping x p false s
    else if x && c == '#' then takeSkipping x p true s
    else if p c then
      let (taken, rest) := takeSkipping x p false s
      (c :: taken, rest)
    else ([], c :: s)

/-- The value of a digit in a base up to sixteen. -/
def digitValue? (c : Char) : Option Nat :=
  if '0' ≤ c ∧ c ≤ '9' then some (c.toNat - 48)
  else if 'a' ≤ c ∧ c ≤ 'f' then some (c.toNat - 87)
  else if 'A' ≤ c ∧ c ≤ 'F' then some (c.toNat - 55)
  else none

def isHexDigit (c : Char) : Bool := (digitValue? c).isSome

/-- The number that digits write in a base. -/
def ofDigits (base : Nat) (digits : List Char) : Nat :=
  digits.foldl (fun n c => n * base + (digitValue? c).getD 0) 0

/-- Bounds of repetitions are below this number, the size of a word of 32 bits. -/
def boundLimit : Nat := 4294967296

/-- A decimal number, with blanks around it. -/
def readDecimal (x : Bool) (s : List Char) : Option (Nat × List Char) :=
  let s := s.dropWhile Text.isWhitespace
  let (digits, s) := takeSkipping x Char.isDigit false s
  let n := ofDigits 10 digits
  if digits.isEmpty ∨ boundLimit ≤ n then none else some (n, s.dropWhile Text.isWhitespace)

/-- The bounds of a counted repetition, after the opening brace and up to the closing one. -/
def readBounds (x : Bool) (s : List Char) : Option ((Nat × Option Nat) × List Char) := do
  let (min, s) ← readDecimal x (skip x s)
  match s with
  | '}' :: s => return ((min, some min), s)
  | ',' :: s =>
    match skip x s with
    | '}' :: s => return ((min, none), s)
    | s =>
      let (max, s) ← readDecimal x s
      match s with
      | '}' :: s => if min ≤ max then return ((min, some max), s) else none
      | _ => none
  | _ => none

/-- Whether a repetition is greedy: a question mark behind it makes it lazy. -/
def readGreedy : List Char → Bool × List Char
  | '?' :: s => (false, s)
  | s => (true, s)

/-- The character with a number, if there is one. -/
def scalar? (n : Nat) : Option Char := if n.isValidChar then some (Char.ofNat n) else none

/-- A fixed number of hexadecimal digits. -/
def readHexDigits (x : Bool) : Nat → List Char → Option (List Char × List Char)
  | 0, s => some ([], s)
  | _ + 1, [] => none
  | n + 1, c :: s =>
    if isHexDigit c then (readHexDigits x n (skip x s)).map fun (ds, s) => (c :: ds, s) else none

/-- A character by its number, after `\x`, `\u` or `\U`: in braces, or with a fixed number of
digits. -/
def readHex (x : Bool) (width : Nat) (s : List Char) : Option (Literal × List Char) :=
  match skip x s with
  | '{' :: s => do
    let s := skip x s
    let (digits, s) := takeSkipping x isHexDigit false s
    match s with
    | '}' :: s =>
      if digits.isEmpty then none
      else
        let c ← scalar? (ofDigits 16 digits)
        return (⟨c, false⟩, skip x s)
    | _ => none
  | s => do
    let (digits, s) ← readHexDigits x width s
    let c ← scalar? (ofDigits 16 digits)
    return (⟨c, width == 2⟩, s)

/-- The text before and after the first occurrence of a separator. -/
def cutAt? (separator : List Char) : List Char → Option (List Char × List Char)
  | [] => none
  | c :: s =>
    if separator.isPrefixOf (c :: s) then some ([], (c :: s).drop separator.length)
    else (cutAt? separator s).map fun (before, after) => (c :: before, after)

/-- A query in braces: a name, or a property and its value behind `!=`, `:` or `=`. The first of
the three separators asks for all characters that do not have the value, or after `\P` again for
those that have it. -/
def PropertyQuery.ofText (s : List Char) : Bool × PropertyQuery :=
  match cutAt? ['!', '='] s with
  | some (property, value) => (true, .valued property value)
  | none =>
    match cutAt? [':'] s <|> cutAt? ['='] s with
    | some (property, value) => (false, .valued property value)
    | none => (false, .named s)

/-- A property class, after `\p` or `\P`: whether the query is negated, and the query. -/
def readProperty (x : Bool) (s : List Char) : Option ((Bool × PropertyQuery) × List Char) :=
  match skip x s with
  | [] => none
  | '{' :: s =>
    let s := skip x s
    let (query, s) := takeSkipping x (· != '}') false s
    match s with
    | _ :: s => some (PropertyQuery.ofText query, s)
    | [] => none
  | c :: s => if c = '\\' then none else some ((false, .named [c]), skip x s)

/-- Characters with a meaning in some part of a regex. -/
def metacharacters : List Char :=
  ['\\', '.', '+', '*', '?', '(', ')', '|', '[', ']', '{', '}', '^', '$', '#', '&', '-', '~']

/-- Characters that a backslash turns into literals: all of ASCII but letters, digits and angle
brackets. -/
def isEscapable (c : Char) : Bool :=
  c.toNat < 128 && !c.isAlphanum && c != '<' && c != '>'

/-- What a backslash can introduce. -/
inductive Escape where
  | literal (l : Literal)
  | assertion (a : Assertion)
  | shorthand (negated : Bool) (s : Shorthand)
  | property (negated : Bool) (query : PropertyQuery)

/-- The rest of `\b`: a word boundary, or one end of a word if its name follows in braces. Braces
around something else are left for a repetition. -/
def readBoundary (x : Bool) : List Char → Option (Assertion × List Char)
  | '{' :: s =>
    let isNameChar (c : Char) := c.isAlpha || c == '-'
    match skip x s with
    | [] => none
    | c :: t =>
      if isNameChar c then
        let (name, t) := takeSkipping x isNameChar false (c :: t)
        match String.ofList name, t with
        | "start", '}' :: t => some (.wordStart, t)
        | "end", '}' :: t => some (.wordEnd, t)
        | "start-half", '}' :: t => some (.wordStartHalf, t)
        | "end-half", '}' :: t => some (.wordEndHalf, t)
        | _, _ => none
      else some (.wordBoundary, '{' :: s)
  | s => some (.wordBoundary, s)

/-- What follows a backslash. -/
def readEscape (x : Bool) : List Char → Option (Escape × List Char)
  | [] => none
  | c :: s =>
    let plain (l : Char) : Option (Escape × List Char) := some (.literal ⟨l, false⟩, s)
    let placed (a : Assertion) : Option (Escape × List Char) := some (.assertion a, s)
    match c with
    | 'x' => (readHex x 2 s).map fun (l, s) => (.literal l, s)
    | 'u' => (readHex x 4 s).map fun (l, s) => (.literal l, s)
    | 'U' => (readHex x 8 s).map fun (l, s) => (.literal l, s)
    | 'p' => (readProperty x s).map fun ((negated, q), s) => (.property negated q, s)
    | 'P' => (readProperty x s).map fun ((negated, q), s) => (.property (!negated) q, s)
    | 'd' => some (.shorthand false .digit, s)
    | 's' => some (.shorthand false .space, s)
    | 'w' => some (.shorthand false .word, s)
    | 'D' => some (.shorthand true .digit, s)
    | 'S' => some (.shorthand true .space, s)
    | 'W' => some (.shorthand true .word, s)
    | 'a' => plain '\x07'
    | 'f' => plain '\x0c'
    | 't' => plain '\t'
    | 'n' => plain '\n'
    | 'r' => plain '\r'
    | 'v' => plain '\x0b'
    | 'A' => placed .textStart
    | 'z' => placed .textEnd
    | 'B' => placed .notWordBoundary
    | '<' => placed .wordStart
    | '>' => placed .wordEnd
    | 'b' => (readBoundary x s).map fun (a, s) => (.assertion a, s)
    | c => if isEscapable c then plain c else none

/-- The runs of ASCII that a class such as `[:alpha:]` names. -/
def asciiRuns? : String → Option (List (Char × Char))
  | "alnum" => some [('0', '9'), ('A', 'Z'), ('a', 'z')]
  | "alpha" => some [('A', 'Z'), ('a', 'z')]
  | "ascii" => some [('\x00', '\x7f')]
  | "blank" => some [('\t', '\t'), (' ', ' ')]
  | "cntrl" => some [('\x00', '\x1f'), ('\x7f', '\x7f')]
  | "digit" => some [('0', '9')]
  | "graph" => some [('!', '~')]
  | "lower" => some [('a', 'z')]
  | "print" => some [(' ', '~')]
  | "punct" => some [('!', '/'), (':', '@'), ('[', '\x60'), ('\x7b', '~')]
  | "space" => some [('\t', '\r'), (' ', ' ')]
  | "upper" => some [('A', 'Z')]
  | "word" => some [('0', '9'), ('A', 'Z'), ('_', '_'), ('a', 'z')]
  | "xdigit" => some [('0', '9'), ('A', 'F'), ('a', 'f')]
  | _ => none

/-- A class such as `[:alpha:]`, after its opening bracket. -/
def readAsciiClass : List Char → Option (ClassTree × List Char)
  | ':' :: s =>
    let (negated, s) := match s with
      | '^' :: s => (true, s)
      | s => (false, s)
    match asciiRuns? (String.ofList (s.takeWhile (· != ':'))), s.dropWhile (· != ':') with
    | some runs, ':' :: ']' :: s => some (.ascii negated runs, s)
    | _, _ => none
  | _ => none

/-- One end of a range, or one item of a class. -/
def readClassItem (x : Bool) : List Char → Option (Escape × List Char)
  | [] => none
  | '\\' :: s => readEscape x s
  | c :: s => some (.literal ⟨c, false⟩, s)

/-- The character that decides what a hyphen in a class means, given what follows the hyphen. In
the extended mode it is the next one that is neither blank nor a first `#`. -/
def afterHyphen? (x : Bool) (s : List Char) : Option Char :=
  if x then
    match s.dropWhile Text.isWhitespace with
    | '#' :: t => (t.dropWhile Text.isWhitespace).head? <|> s.head?
    | t => t.head? <|> s.head?
  else s.head?

/-- A range, or a single item of a class. A hyphen makes no range before `]` or `-`. -/
def readClassRange (x : Bool) (s : List Char) : Option (ClassTree × List Char) := do
  let (first, s) ← readClassItem x s
  let single : Option ClassTree :=
    match first with
    | .literal l => some (.literal l)
    | .shorthand n k => some (.shorthand n k)
    | .property n q => some (.property n q)
    | .assertion _ => none
  match skip x s with
  | [] => none
  | '-' :: s =>
    if afterHyphen? x s = some ']' ∨ afterHyphen? x s = some '-' then
      return (← single, '-' :: s)
    else
      let (last, s) ← readClassItem x (skip x s)
      match first, last with
      | .literal a, .literal b =>
        if a.char ≤ b.char then return (.range a b, s) else none
      | _, _ => none
  | s => return (← single, s)

/-- The left side of a class operator that waits for its right side. -/
abbrev Pending := Option (SetOperator × ClassTree)

def Pending.close (left : Pending) (right : ClassTree) : ClassTree :=
  match left with
  | some (op, left) => .operation op left right
  | none => right

/-- The front of a class after its opening bracket: whether it is negated, and hyphens or a closing
bracket, which are literals there. -/
def readClassFront (x : Bool) (s : List Char) : Bool × List ClassTree × List Char :=
  let s := skip x s
  let (negated, s) := match s with
    | '^' :: s => (true, skip x s)
    | s => (false, s)
  match takeSkipping x (· == '-') false s with
  | ([], ']' :: s) => (negated, [.literal ⟨']', false⟩], skip x s)
  | (hyphens, s) => (negated, hyphens.map fun c => .literal ⟨c, false⟩, s)

/-- The items of a class up to its closing bracket. `items` holds those read since the last
operator, the latest first. The number bounds how many steps are made. -/
def readClassItems (x : Bool) : Nat → List ClassTree → Pending → List Char →
    Option (ClassTree × List Char)
  | 0, _, _, _ => none
  | n + 1, items, left, s =>
    let operator (op : SetOperator) (s : List Char) :=
      readClassItems x n [] (some (op, left.close (.ofItems items.reverse))) s
    match skip x s with
    | [] => none
    | ']' :: s => some (left.close (.ofItems items.reverse), s)
    | '&' :: '&' :: s => operator .intersection s
    | '-' :: '-' :: s => operator .difference s
    | '~' :: '~' :: s => operator .symmetricDifference s
    | '[' :: s =>
      match readAsciiClass s with
      | some (item, s) => readClassItems x n (item :: items) left s
      | none => do
        let (negated, front, s) := readClassFront x s
        let (body, s) ← readClassItems x n front.reverse none s
        readClassItems x n (.bracketed negated body :: items) left s
    | s => do
      let (item, s) ← readClassRange x s
      readClassItems x n (item :: items) left s

/-- A bracketed class, after its opening bracket, in at most `n` steps. -/
def readClass (x : Bool) (n : Nat) (s : List Char) : Option (Tree × List Char) := do
  let (negated, front, s) := readClassFront x s
  let (body, s) ← readClassItems x n front.reverse none s
  return (.bracketed negated body, s)

/-- The flags of a group, after `(?`, with the character that ends them and the text behind it.
No flag is named twice, and a minus sign stands before the flags it turns off. -/
def readFlags (change : FlagChange) (minus dangling : Bool) :
    List Char → Option (FlagChange × Char × List Char)
  | [] => none
  | c :: s =>
    if c = ':' ∨ c = ')' then
      if dangling then none else some (change, c, s)
    else if c = '-' then
      if minus then none else readFlags change true true s
    else
      match Flag.ofChar? c with
      | none => none
      | some f =>
        if (change.get? f).isSome then none
        else readFlags (change ++ [(f, !minus)]) minus false s

/-- The name of a group, up to the closing angle bracket. -/
def readGroupName (s : List Char) : Option (List Char × List Char) :=
  let name := s.takeWhile (· != '>')
  match name, s.dropWhile (· != '>') with
  | first :: others, _ :: rest =>
    let isNameChar (c : Char) :=
      c == '_' || c == '.' || c == '[' || c == ']' || Text.isLetterOrNumber c
    if (first == '_' || Text.isLetter first) && others.all isNameChar then some (name, rest)
    else none
  | _, _ => none

/-- The state of reading: what is left, how many groups have been opened, the names they have,
and whether the extended mode is on. -/
structure Progress where
  rest : List Char
  groups : Nat
  names : List (List Char)
  extended : Bool

/-- What a parenthesis opens. -/
inductive Opening where
  | capture (index : Nat)
  | group (change : FlagChange)
  /-- Flags for the rest of the enclosing group. -/
  | flags (change : FlagChange)

/-- What follows an opening parenthesis up to the body of the group. -/
def readOpening (p : Progress) (s : List Char) : Option (Opening × Progress) :=
  let index := p.groups + 1
  let named (s : List Char) : Option (Opening × Progress) := do
    let (name, s) ← readGroupName s
    if p.names.contains name then none
    else return (.capture index, { p with rest := s, groups := index, names := name :: p.names })
  match skip p.extended s with
  | '?' :: '=' :: _ => none
  | '?' :: '!' :: _ => none
  | '?' :: '<' :: '=' :: _ => none
  | '?' :: '<' :: '!' :: _ => none
  | '?' :: 'P' :: '<' :: s => named s
  | '?' :: '<' :: s => named s
  | '?' :: s => do
    let (change, stop, s) ← readFlags [] false false s
    if stop = ':' then return (.group change, { p with rest := s })
    else if change.isEmpty then none
    else return (.flags change, { p with rest := s })
  | s => some (.capture index, { p with rest := s, groups := index })

/-- Whether a part can carry a repetition. -/
def Tree.repeatable : Tree → Bool
  | .empty | .flags _ => false
  | _ => true

mutual

/-- Alternatives up to the end of the group or of the text. The number bounds the recursion. -/
def readAlternatives : Nat → Progress → Option (Tree × Progress)
  | 0, _ => none
  | n + 1, p => do
    let (first, p) ← readSequence n [] p
    match p.rest with
    | '|' :: s =>
      let (rest, p) ← readAlternatives n { p with rest := s }
      return (.alt first rest, p)
    | _ => return (first, p)

/-- Parts in sequence up to the end of the alternative. `parts` holds those read so far, the
latest first. -/
def readSequence : Nat → List Tree → Progress → Option (Tree × Progress)
  | 0, _, _ => none
  | n + 1, parts, p =>
    let s := skip p.extended p.rest
    let part (t : Tree) (s : List Char) := readSequence n (t :: parts) { p with rest := s }
    let repetition (min : Nat) (max : Option Nat) (s : List Char) :=
      match parts with
      | [] => none
      | t :: ts =>
        if t.repeatable then
          let (greedy, s) := readGreedy s
          readSequence n (.repeated min max greedy t :: ts) { p with rest := s }
        else none
    match s with
    | [] => some (.ofParts parts.reverse, { p with rest := s })
    | ')' :: _ => some (.ofParts parts.reverse, { p with rest := s })
    | '|' :: _ => some (.ofParts parts.reverse, { p with rest := s })
    | '(' :: s => do
      let (opening, q) ← readOpening p s
      match opening with
      | .flags change =>
        let extended := (change.get? .extended).getD p.extended
        readSequence n (.flags change :: parts) { q with extended }
      | .group change =>
        let extended := (change.get? .extended).getD p.extended
        let (body, q) ← readAlternatives n { q with extended }
        match q.rest with
        | ')' :: s =>
          readSequence n (.group change body :: parts)
            { q with rest := s, extended := p.extended }
        | _ => none
      | .capture index =>
        let (body, q) ← readAlternatives n q
        match q.rest with
        | ')' :: s =>
          readSequence n (.capture index body :: parts)
            { q with rest := s, extended := p.extended }
        | _ => none
    | '?' :: s => repetition 0 (some 1) s
    | '*' :: s => repetition 0 none s
    | '+' :: s => repetition 1 none s
    | '{' :: s => do
      let ((min, max), s) ← readBounds p.extended s
      repetition min max (skip p.extended s)
    | '[' :: s => do
      let (t, s) ← readClass p.extended n s
      part t s
    | '.' :: s => part .any s
    | '^' :: s => part (.assertion .lineStart) s
    | '$' :: s => part (.assertion .lineEnd) s
    | '\\' :: s => do
      let (e, s) ← readEscape p.extended s
      match e with
      | .literal l => part (.literal l) s
      | .assertion a => part (.assertion a) s
      | .shorthand negated k => part (.shorthand negated k) s
      | .property negated q => part (.property negated q) s
    | c :: s => part (.literal ⟨c, false⟩) s

end

/-- Reads a whole regex, unless it nests too deeply. -/
def Tree.read? (s : List Char) : Option Tree := do
  let (t, p) ← readAlternatives (2 * s.length + 2) ⟨s, 0, [], false⟩
  if p.rest.isEmpty ∧ t.depth .none ≤ nestLimit then return t else none

end NamePattern.CharRegex
