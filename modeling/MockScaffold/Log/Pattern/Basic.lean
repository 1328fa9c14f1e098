import MockScaffold.Text.Letter

namespace MockScaffold.Log

inductive CharSet where
  | range (low high : Char)
  | digit
  | word
  | blank
  | union (a b : CharSet)
  | complement (a : CharSet)
  deriving DecidableEq, Repr

namespace CharSet

def has : CharSet → Char → Bool
  | range low high, c => low ≤ c && c ≤ high
  | digit, c => c.isDigit
  | word, c => Text.isAlphanumeric c || c == '_'
  | blank, c => Text.isBlank c
  | union a b, c => a.has c || b.has c
  | complement a, c => !a.has c

def single (c : Char) : CharSet :=
  range c c

end CharSet

/-- An `either` prefers its first pattern, a greedy `many` to go on and any other to stop. -/
inductive Pattern where
  | empty
  | one (set : CharSet)
  | atStart
  | atEnd
  | both (p q : Pattern)
  | either (p q : Pattern)
  | many (greedy : Bool) (p : Pattern)
  deriving DecidableEq, Repr

namespace Pattern

def optional (greedy : Bool) (p : Pattern) : Pattern :=
  if greedy then either p empty else either empty p

abbrev Rest : Type :=
  List Char → Option (List Char)

/-- Runs `step` any number of times, where a step that takes up nothing is the last. -/
def repeated (greedy : Bool) (step : Rest → Rest) (next : Rest) : Nat → Rest
  | 0, text => next text
  | fuel + 1, text =>
    -- Each further round takes up a character, so that the number of characters is fuel enough.
    let again := step fun rest =>
      if rest.length < text.length then repeated greedy step next fuel rest else next rest
    if greedy then (again text).or (next text) else (next text).or (again text)

/-- What the first match leaves, in a text of which `size` characters are the whole. -/
def rest? (size : Nat) : Pattern → Rest → Rest
  | empty, next, text => next text
  | one set, next, text =>
    match text with
    | c :: rest => if set.has c then next rest else none
    | [] => none
  | atStart, next, text => if text.length = size then next text else none
  | atEnd, next, text => if text.isEmpty then next text else none
  | both p q, next, text => rest? size p (rest? size q next) text
  | either p q, next, text => (rest? size p next text).or (rest? size q next text)
  | many greedy p, next, text => repeated greedy (rest? size p) next text.length text

def accepts (p : Pattern) (text : List Char) : Bool :=
  rest? text.length p some text == some []

end Pattern

end MockScaffold.Log
