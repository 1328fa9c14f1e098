namespace MockScaffold.Number

def digit? (c : Char) : Option Nat :=
  if c.isDigit then some (c.toNat - '0'.toNat)
  else if 'a' ≤ c ∧ c ≤ 'f' then some (c.toNat - 'a'.toNat + 10)
  else if 'A' ≤ c ∧ c ≤ 'F' then some (c.toNat - 'A'.toNat + 10)
  else none

def isDigitOf (base : Nat) (c : Char) : Bool :=
  (digit? c).any (· < base)

/-- The number that `n` becomes when one more digit is written after it, zero for what does not
count as a digit. -/
def addDigit (base n : Nat) (c : Char) : Nat :=
  base * n + (digit? c).getD 0

def ofDigits (base : Nat) (digits : List Char) : Nat :=
  digits.foldl (addDigit base) 0

def roundHalfEven (num den : Nat) : Nat :=
  let q := num / den
  let r := num % den
  if 2 * r < den then q
  else if den < 2 * r then q + 1
  else if q % 2 = 0 then q else q + 1

/-- The nearest number with at most 53 significant bits, as a double holds it. -/
def roundToDouble (n : Nat) : Nat :=
  let excess := n.log2 + 1 - 53
  let unit := Nat.pow 2 excess
  roundHalfEven n unit * unit

/-- The least number that does not round to a finite double. -/
def overflow : Nat :=
  Nat.pow 2 1024 - Nat.pow 2 970

/-- Whether `m · 10 ^ e` rounds to a finite double, which the size of the exponent may tell
without any huge power. -/
def fitsDouble (m : Nat) (e : Int) : Bool :=
  if m = 0 then true
  else if 308 < e then false
  else if 0 ≤ e then m * Nat.pow 10 e.toNat < overflow
  else if (-e).toNat ≤ (toString m).length then m < overflow * Nat.pow 10 (-e).toNat
  else true

end MockScaffold.Number
