import MockScaffold.Number.Basic

namespace MockScaffold.Json

def hexValue? (digits : List Char) : Option Nat :=
  if digits.all (Number.isDigitOf 16) then some (Number.ofDigits 16 digits) else none

def isHighSurrogate (n : Nat) : Bool :=
  0xD800 ≤ n && n < 0xDC00

def isLowSurrogate (n : Nat) : Bool :=
  0xDC00 ≤ n && n < 0xE000

def unescape? : Char → Option Char
  | '"' => some '"'
  | '\\' => some '\\'
  | '/' => some '/'
  | 'b' => some '\x08'
  | 'f' => some '\x0c'
  | 'n' => some '\n'
  | 'r' => some '\r'
  | 't' => some '\t'
  | _ => none

def prepend (c : Char) (tail : Option (List Char) × List Char) : Option (List Char) × List Char :=
  (tail.1.map (c :: ·), tail.2)

/-- Gives the text up if the first half of a surrogate pair is open before it. -/
def unlessOpen (half : Option Nat) (tail : Option (List Char) × List Char) :
    Option (List Char) × List Char :=
  if half.isSome then (none, tail.2) else tail

def joinSurrogates (high low : Nat) : Char :=
  Char.ofNat (0x10000 + (high - 0xD800) * 0x400 + (low - 0xDC00))

/-- The text up to the closing quote and what follows that, when `half` is the first half of a
surrogate pair just read. -/
def unquoteAfter? (half : Option Nat) : List Char → Option (Option (List Char) × List Char)
  | [] => none
  | '"' :: rest => some (unlessOpen half (some [], rest))
  | '\\' :: 'u' :: a :: b :: c :: d :: rest =>
    match hexValue? [a, b, c, d] with
    | none => none
    | some n =>
      if isHighSurrogate n then (unquoteAfter? (some n) rest).map (unlessOpen half)
      else if isLowSurrogate n then
        match half with
        | some high => (unquoteAfter? none rest).map (prepend (joinSurrogates high n))
        | none => (unquoteAfter? none rest).map fun tail => (none, tail.2)
      else (unquoteAfter? none rest).map fun tail => unlessOpen half (prepend (Char.ofNat n) tail)
  | '\\' :: c :: rest =>
    match unescape? c with
    | some e => (unquoteAfter? none rest).map fun tail => unlessOpen half (prepend e tail)
    | none => none
  | c :: rest =>
    if c.toNat < 0x20 then none
    else (unquoteAfter? none rest).map fun tail => unlessOpen half (prepend c tail)

def unquote? (cs : List Char) : Option (Option (List Char) × List Char) :=
  unquoteAfter? none cs

def hexChar (n : Nat) : Char :=
  if n < 10 then Char.ofNat ('0'.toNat + n) else Char.ofNat ('a'.toNat + (n - 10))

/-- Only quotes, backslashes and control characters are escaped. -/
def escape (c : Char) : List Char :=
  match c with
  | '"' => ['\\', '"']
  | '\\' => ['\\', '\\']
  | '\x08' => ['\\', 'b']
  | '\x0c' => ['\\', 'f']
  | '\n' => ['\\', 'n']
  | '\r' => ['\\', 'r']
  | '\t' => ['\\', 't']
  | c =>
    if c.toNat < 0x20 then ['\\', 'u', '0', '0', hexChar (c.toNat / 16), hexChar (c.toNat % 16)]
    else [c]

def quote (text : String) : String :=
  String.ofList ('"' :: text.toList.flatMap escape ++ ['"'])

end MockScaffold.Json
