import MockScaffold.Log.Pattern.Basic
import MockScaffold.Number.Basic

namespace MockScaffold.Log

namespace CharSet

def named? (letter : Char) : Option CharSet :=
  let set? : Char → Option CharSet
    | 'd' => some digit
    | 'w' => some word
    | 's' => some blank
    | _ => none
  if letter.isUpper then (set? letter.toLower).map complement else set? letter

def controlChars : List (Char × Char) :=
  [('a', '\x07'), ('f', '\x0c'), ('t', '\t'), ('n', '\n'), ('r', '\r'), ('v', '\x0b')]

def codeLengths : List (Char × Nat) :=
  [('x', 2), ('u', 4), ('U', 8)]

def coded? (size : Nat) (text : List Char) : Option CharSet :=
  let digits := text.take size
  let code := Number.ofDigits 16 digits
  if digits.length = size && digits.all (Number.isDigitOf 16) && code.isValidChar then
    some (single (Char.ofNat code))
  else none

/-- Any other ASCII character that is no letter or digit stands for itself, but for `<` and `>`. -/
def isEscapable (c : Char) : Bool :=
  c.toNat < 0x80 && !c.isAlphanum && c != '<' && c != '>'

def escaped? : List Char → Option (CharSet × List Char)
  | [] => none
  | c :: rest =>
    match codeLengths.lookup c with
    | some size => (coded? size rest).map (·, rest.drop size)
    | none =>
      let self := if isEscapable c then some c else none
      ((named? c).or (((controlChars.lookup c).or self).map single)).map (·, rest)

/-- A member of a set, which `&&`, `--` and `~~` are not. -/
def member? : List Char → Option (CharSet × List Char)
  | [] => none
  | '\\' :: rest => escaped? rest
  | c :: rest =>
    if c == '[' || ("&-~".toList.contains c && rest.head? == some c) then none
    else some (single c, rest)

def span? (text : List Char) : Option (CharSet × List Char) := do
  let (first, rest) ← member? text
  match rest with
  | '-' :: ']' :: _ => some (first, rest)
  | '-' :: rest =>
    let (last, rest) ← member? rest
    match first, last with
    | range low _, range high _ => if low ≤ high then some (range low high, rest) else none
    | _, _ => none
  | _ => some (first, rest)

def spans? : Nat → CharSet → List Char → Option (CharSet × List Char)
  | _, set, ']' :: rest => some (set, rest)
  | 0, _, _ => none
  | fuel + 1, set, text => do
    let (next, rest) ← span? text
    spans? fuel (union set next) rest

/-- A dash in front stands for itself, and so does a closing bracket that would leave the set
empty. -/
def inBrackets? (text : List Char) : Option (CharSet × List Char) := do
  let dashes := text.takeWhile (· == '-')
  let rest := text.dropWhile (· == '-')
  let (first, rest) ←
    match dashes, rest with
    | '-' :: _, _ => some (single '-', rest)
    | _, ']' :: rest => some (single ']', rest)
    | _, _ => span? rest
  spans? rest.length first rest

def bracketed? (text : List Char) : Option (CharSet × List Char) :=
  match text with
  | '^' :: rest => (inBrackets? rest).map fun (set, rest) => (complement set, rest)
  | _ => inBrackets? text

end CharSet

namespace Pattern

def single? : List Char → Option (Pattern × List Char)
  | [] => none
  | '\\' :: 'A' :: rest => some (atStart, rest)
  | '\\' :: 'z' :: rest => some (atEnd, rest)
  | '\\' :: rest => (CharSet.escaped? rest).map fun (set, rest) => (one set, rest)
  | '[' :: rest => (CharSet.bracketed? rest).map fun (set, rest) => (one set, rest)
  | '.' :: rest => some (one (.complement (.single '\n')), rest)
  | '^' :: rest => some (atStart, rest)
  | '$' :: rest => some (atEnd, rest)
  | c :: rest => if "*+?()|\x7b".toList.contains c then none else some (one (.single c), rest)

def times? (p : Pattern) (greedy : Bool) : Char → Option Pattern
  | '*' => some (many greedy p)
  | '+' => some (both p (many greedy p))
  | '?' => some (optional greedy p)
  | _ => none

def takeRepeats (p : Pattern) : List Char → Pattern × List Char
  | [] => (p, [])
  | [c] =>
    match p.times? true c with
    | some q => (q, [])
    | none => (p, [c])
  | c :: d :: rest =>
    match p.times? (d != '?') c with
    | some q => if d == '?' then takeRepeats q rest else takeRepeats q (d :: rest)
    | none => (p, c :: d :: rest)

mutual

/-- Takes a pattern from the front, for which three units of fuel for each character are enough. -/
def take? : Nat → List Char → Option (Pattern × List Char)
  | 0, _ => none
  | fuel + 1, text => do
    let (p, rest) ← takeSequence? fuel text
    match rest with
    | '|' :: rest =>
      let (q, rest) ← take? fuel rest
      some (either p q, rest)
    | _ => some (p, rest)

def takeSequence? : Nat → List Char → Option (Pattern × List Char)
  | 0, _ => none
  | fuel + 1, text =>
    match text with
    | [] | '|' :: _ | ')' :: _ => some (empty, text)
    | _ => do
      let (p, rest) ← takeAtom? fuel text
      let (p, rest) := takeRepeats p rest
      let (q, rest) ← takeSequence? fuel rest
      some (both p q, rest)

def takeAtom? : Nat → List Char → Option (Pattern × List Char)
  | 0, _ => none
  | fuel + 1, text =>
    match text with
    | '(' :: '?' :: ':' :: body | '(' :: body =>
      match take? fuel body with
      | some (p, ')' :: rest) => some (p, rest)
      | _ => none
    | _ => single? text

end

def ofText? (text : List Char) : Option Pattern :=
  match take? (3 * (text.length + 1)) text with
  | some (p, []) => some p
  | _ => none

end Pattern

end MockScaffold.Log
