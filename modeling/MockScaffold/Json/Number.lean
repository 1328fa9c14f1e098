import MockScaffold.Number.Basic

namespace MockScaffold.Json

def takeSign (cs : List Char) (signs : List Char) : List Char × List Char :=
  match cs with
  | c :: rest => if signs.contains c then ([c], rest) else ([], cs)
  | [] => ([], [])

def takeInteger? (cs : List Char) : Option (List Char × List Char) :=
  match cs.span Char.isDigit with
  | ([], _) => none
  | ('0' :: _ :: _, _) => none
  | (digits, rest) => some (digits, rest)

def takeFraction? (cs : List Char) : Option (List Char × List Char) :=
  match cs with
  | '.' :: rest =>
    match rest.span Char.isDigit with
    | ([], _) => none
    | (digits, after) => some (digits, after)
  | _ => some ([], cs)

def takeExponent? (cs : List Char) : Option (List Char × List Char × List Char) :=
  match cs with
  | c :: rest =>
    if c == 'e' || c == 'E' then
      let (sign, afterSign) := takeSign rest ['+', '-']
      match afterSign.span Char.isDigit with
      | ([], _) => none
      | (digits, after) => some (sign, digits, after)
    else some ([], [], cs)
  | [] => some ([], [], [])

/-- The number that the digits after those of `n` make with it, as far as it has 64 bits, and how
many digits are left over. -/
def leading (n : Nat) : List Char → Nat × Nat
  | [] => (n, 0)
  | c :: rest =>
    let next := Number.addDigit 10 n c
    if next < UInt64.size then leading next rest else (n, rest.length + 1)

/-- Whether the number of these digits, times `10 ^ e`, can be held when both factors and their
product are rounded. -/
def isHeld (digits : List Char) (e : Int) : Bool :=
  -- Digits past the leading ones only count as places.
  let (n, places) := leading 0 digits
  let power := e + places
  if n = 0 ∨ power ≤ 0 then true
  else if 308 < power then false
  else
    Number.roundToDouble n * Number.roundToDouble (Nat.pow 10 power.toNat) < Number.overflow

def takeNumber? (cs : List Char) : Option (List Char × Bool × List Char) := do
  let (_, afterSign) := takeSign cs ['-']
  let (whole, afterWhole) ← takeInteger? afterSign
  let (fraction, afterFraction) ← takeFraction? afterWhole
  let (sign, exponent, rest) ← takeExponent? afterFraction
  let size := Number.ofDigits 10 exponent
  let e : Int := (if sign == ['-'] then -(size : Int) else size) - fraction.length
  let written := cs.take (cs.length - rest.length)
  some (written, isHeld (whole ++ fraction) e, rest)

end MockScaffold.Json
