import MockScaffold.Number.Basic

namespace MockScaffold.Toml

def isGap (c : Char) : Bool :=
  c == ' ' || c == '\t'

/-- Characters that may stand in a text: of the control characters only the tab. -/
def isPlain (c : Char) : Bool :=
  c == '\t' || (0x20 ≤ c.toNat && c.toNat != 0x7F)

def escaped? : Char → Option Char
  | 'b' => some '\x08'
  | 't' => some '\t'
  | 'n' => some '\n'
  | 'f' => some '\x0c'
  | 'r' => some '\r'
  | '"' => some '"'
  | '\\' => some '\\'
  | _ => none

/-- The character with a number in hexadecimal digits; half of a surrogate pair is none. -/
def scalar? (digits : List Char) : Option Char :=
  let n := Number.ofDigits 16 digits
  if digits.all (Number.isDigitOf 16) && (n < 0xD800 || (0xDFFF < n && n < 0x110000)) then
    some (Char.ofNat n)
  else none

def before (c : Char) (tail : Option (List Char × List Char)) : Option (List Char × List Char) :=
  tail.map fun (text, rest) => (c :: text, rest)

def basicText? : List Char → Option (List Char × List Char)
  | [] => none
  | '"' :: rest => some ([], rest)
  | '\\' :: 'u' :: a :: b :: c :: d :: rest =>
    (scalar? [a, b, c, d]).bind (before · (basicText? rest))
  | '\\' :: 'U' :: a :: b :: c :: d :: e :: f :: g :: h :: rest =>
    (scalar? [a, b, c, d, e, f, g, h]).bind (before · (basicText? rest))
  | '\\' :: c :: rest => (escaped? c).bind (before · (basicText? rest))
  | c :: rest => if isPlain c then before c (basicText? rest) else none

def literalText? : List Char → Option (List Char × List Char)
  | [] => none
  | '\'' :: rest => some ([], rest)
  | c :: rest => if isPlain c then before c (literalText? rest) else none

/-- A line feed just after the opening quotes is no part of the text. -/
def dropFirstNewline : List Char → List Char
  | '\n' :: rest => rest
  | '\r' :: '\n' :: rest => rest
  | cs => cs

/-- Whether a backslash before this text ends its line. -/
def endsLine (cs : List Char) : Bool :=
  match cs.dropWhile isGap with
  | '\n' :: _ => true
  | '\r' :: '\n' :: _ => true
  | _ => false

/-- A basic text over several lines, after its opening quotes, where white space is passed over
while `joining` lines. -/
def basicLines? (joining : Bool) : List Char → Option (List Char × List Char)
  | [] => none
  -- Up to two quotes may stand before the closing three.
  | '"' :: '"' :: '"' :: '"' :: '"' :: rest => some (['"', '"'], rest)
  | '"' :: '"' :: '"' :: '"' :: rest => some (['"'], rest)
  | '"' :: '"' :: '"' :: rest => some ([], rest)
  | '\r' :: '\n' :: rest =>
    if joining then basicLines? true rest else before '\n' (basicLines? false rest)
  | '\n' :: rest =>
    if joining then basicLines? true rest else before '\n' (basicLines? false rest)
  | '\\' :: 'u' :: a :: b :: c :: d :: rest =>
    (scalar? [a, b, c, d]).bind (before · (basicLines? false rest))
  | '\\' :: 'U' :: a :: b :: c :: d :: e :: f :: g :: h :: rest =>
    (scalar? [a, b, c, d, e, f, g, h]).bind (before · (basicLines? false rest))
  | '\\' :: c :: rest =>
    match escaped? c with
    | some e => before e (basicLines? false rest)
    | none => if endsLine (c :: rest) then basicLines? true (c :: rest) else none
  | c :: rest =>
    if joining && isGap c then basicLines? true rest
    else if isPlain c then before c (basicLines? false rest)
    else none

def literalLines? : List Char → Option (List Char × List Char)
  | [] => none
  | '\'' :: '\'' :: '\'' :: '\'' :: '\'' :: rest => some (['\'', '\''], rest)
  | '\'' :: '\'' :: '\'' :: '\'' :: rest => some (['\''], rest)
  | '\'' :: '\'' :: '\'' :: rest => some ([], rest)
  | '\r' :: '\n' :: rest => before '\n' (literalLines? rest)
  | '\n' :: rest => before '\n' (literalLines? rest)
  | c :: rest => if isPlain c then before c (literalLines? rest) else none

def quotedText? (cs : List Char) : Option (List Char × List Char) :=
  match cs with
  | '"' :: '"' :: '"' :: rest => basicLines? false (dropFirstNewline rest)
  | '\'' :: '\'' :: '\'' :: rest => literalLines? (dropFirstNewline rest)
  | '"' :: rest => basicText? rest
  | '\'' :: rest => literalText? rest
  | _ => none

end MockScaffold.Toml
