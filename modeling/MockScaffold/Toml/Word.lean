import MockScaffold.Number.Basic
import MockScaffold.Toml.Table

namespace MockScaffold.Toml

def isWordChar (c : Char) : Bool :=
  c.isAlphanum || ['_', '+', '-', '.', ':'].contains c

def groupedDigits? (base : Nat) : List Char → Option (List Char)
  | [] => none
  | [c] => if Number.isDigitOf base c then some [c] else none
  | c :: '_' :: rest =>
    if Number.isDigitOf base c then (groupedDigits? base rest).map (c :: ·) else none
  | c :: rest =>
    if Number.isDigitOf base c then (groupedDigits? base rest).map (c :: ·) else none

/-- Decimal digits without a needless leading zero. -/
def wholeDigits? (cs : List Char) : Option (List Char) :=
  match groupedDigits? 10 cs with
  | some ('0' :: _ :: _) => none
  | digits => digits

def splitSign (cs : List Char) : Bool × List Char :=
  match cs with
  | '-' :: rest => (true, rest)
  | '+' :: rest => (false, rest)
  | _ => (false, cs)

def magnitude? (base : Nat) (cs : List Char) : Option Int :=
  (groupedDigits? base cs).map fun digits => (Number.ofDigits base digits : Int)

/-- Integers have 64 bits; those with a base have no sign. -/
def integer? (cs : List Char) : Option Int := do
  let n ← match cs with
    | '0' :: 'x' :: rest => magnitude? 16 rest
    | '0' :: 'o' :: rest => magnitude? 8 rest
    | '0' :: 'b' :: rest => magnitude? 2 rest
    | _ =>
      let (negative, rest) := splitSign cs
      (wholeDigits? rest).map fun digits =>
        if negative then -(Number.ofDigits 10 digits : Int) else Number.ofDigits 10 digits
  if Int64.minValue.toInt ≤ n ∧ n ≤ Int64.maxValue.toInt then some n else none

def exponent? (cs : List Char) : Option Int :=
  match cs with
  | [] => some 0
  | _ :: rest =>
    let (negative, digits) := splitSign rest
    (groupedDigits? 10 digits).map fun ds =>
      if negative then -(Number.ofDigits 10 ds : Int) else Number.ofDigits 10 ds

def fraction? (cs : List Char) : Option (List Char) :=
  match cs with
  | [] => some []
  | _ :: rest => groupedDigits? 10 rest

/-- A float has a fraction or an exponent, or says that it is not finite; one above the doubles is
refused, and one below them counts as minus infinity. -/
def isFloat (cs : List Char) : Bool :=
  let (negative, unsigned) := splitSign cs
  let isExponentMark (c : Char) := c == 'e' || c == 'E'
  let mantissa := unsigned.takeWhile (!isExponentMark ·)
  let tail := unsigned.dropWhile (!isExponentMark ·)
  let whole := mantissa.takeWhile (· != '.')
  let fraction := mantissa.dropWhile (· != '.')
  if unsigned == "inf".toList || unsigned == "nan".toList then true
  else if fraction.isEmpty && tail.isEmpty then false
  else
    match wholeDigits? whole, fraction? fraction, exponent? tail with
    | some ds, some fs, some e =>
      negative || Number.fitsDouble (Number.ofDigits 10 (ds ++ fs)) (e - fs.length)
    | _, _, _ => false

def twoDigits? (low high : Nat) (cs : List Char) : Option (Nat × List Char) :=
  match cs with
  | a :: b :: rest =>
    let n := Number.ofDigits 10 [a, b]
    if a.isDigit && b.isDigit && low ≤ n && n ≤ high then some (n, rest) else none
  | _ => none

def expect? (c : Char) (cs : List Char) : Option (List Char) :=
  match cs with
  | d :: rest => if c == d then some rest else none
  | [] => none

def isLeapYear (year : Nat) : Bool :=
  year % 4 == 0 && (year % 100 != 0 || year % 400 == 0)

def daysIn (year month : Nat) : Nat :=
  if month == 2 then (if isLeapYear year then 29 else 28)
  else if [4, 6, 9, 11].contains month then 30
  else 31

def date? (cs : List Char) : Option (List Char) := do
  let (century, cs) ← twoDigits? 0 99 cs
  let (years, cs) ← twoDigits? 0 99 cs
  let (month, cs) ← twoDigits? 1 12 (← expect? '-' cs)
  let (_, cs) ← twoDigits? 1 (daysIn (100 * century + years) month) (← expect? '-' cs)
  some cs

def time? (cs : List Char) : Option (List Char) := do
  let (_, cs) ← twoDigits? 0 23 cs
  let (_, cs) ← twoDigits? 0 59 (← expect? ':' cs)
  let (_, cs) ← twoDigits? 0 60 (← expect? ':' cs)
  match cs with
  | '.' :: rest =>
    let after := rest.dropWhile Char.isDigit
    if after.length < rest.length then some after else none
  | _ => some cs

/-- Nothing, `Z`, or a signed distance in hours and minutes. -/
def isOffset (cs : List Char) : Bool :=
  match cs with
  | [] | ['Z'] | ['z'] => true
  | sign :: rest =>
    (sign == '+' || sign == '-') &&
      ((do
        let (_, cs) ← twoDigits? 0 23 rest
        let (_, cs) ← twoDigits? 0 59 (← expect? ':' cs)
        some cs) == some [])

def isDateTime (cs : List Char) : Bool :=
  match date? cs with
  | some [] => true
  | some (mark :: rest) => ['T', 't', ' '].contains mark && (time? rest).any isOffset
  | none => time? cs == some []

/-- The word at the front of a text; a date and a time with a space between them are one word. -/
def takeWord (cs : List Char) : List Char × List Char :=
  let word := cs.takeWhile isWordChar
  let rest := cs.dropWhile isWordChar
  match rest with
  | ' ' :: a :: b :: ':' :: more =>
    if date? word == some [] && a.isDigit && b.isDigit then
      let time := a :: b :: ':' :: more
      (word ++ ' ' :: time.takeWhile isWordChar, time.dropWhile isWordChar)
    else (word, rest)
  | _ => (word, rest)

def ofWord? (word : List Char) : Option Item :=
  if word == "true".toList then some (.boolean true)
  else if word == "false".toList then some (.boolean false)
  else
    match integer? word with
    | some n => some (.integer n)
    | none =>
      if isFloat word then some .float
      else if isDateTime word then some .dateTime
      else none

end MockScaffold.Toml
