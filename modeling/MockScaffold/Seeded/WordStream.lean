import MockScaffold.Number.Basic

namespace MockScaffold.Seeded

abbrev Block := Vector UInt32 16

def rotateLeft (x n : UInt32) : UInt32 :=
  (x <<< n) ||| (x >>> (32 - n))

def mix (s : Block) (a b d : Fin 16) (turn : UInt32) : Block :=
  let x := s[a] + s[b]
  (s.set a x).set d (rotateLeft (s[d] ^^^ x) turn)

def quarterRound (s : Block) (a b c d : Fin 16) : Block :=
  mix (mix (mix (mix s a b d 16) c d b 12) a b d 8) c d b 7

def columnRound (s : Block) : Block :=
  quarterRound (quarterRound (quarterRound (quarterRound s 0 4 8 12) 1 5 9 13) 2 6 10 14) 3 7 11 15

def diagonalRound (s : Block) : Block :=
  quarterRound (quarterRound (quarterRound (quarterRound s 0 5 10 15) 1 6 11 12) 2 7 8 13) 3 4 9 14

def scramble (s : Block) : Block :=
  (List.range 6).foldl (fun t _ => diagonalRound (columnRound t)) s

def advance (state : UInt64) : UInt64 :=
  state * 6364136223846793005 + 11634580027462260723

def keyWord (state : UInt64) : UInt32 :=
  let x := (((state >>> 18) ^^^ state) >>> 27).toUInt32
  let turn := (state >>> 59).toUInt32
  if turn = 0 then x else (x >>> turn) ||| (x <<< (32 - turn))

def keyWords : Nat → UInt64 → List UInt32
  | 0, _ => []
  | n + 1, state => keyWord (advance state) :: keyWords n (advance state)

/-- Constants, key, block number and a zero stream number. -/
def input (seed : UInt64) (number : UInt64) : Block :=
  let key := keyWords 8 seed
  #v[0x61707865, 0x3320646e, 0x79622d32, 0x6b206574,
    key.getD 0 0, key.getD 1 0, key.getD 2 0, key.getD 3 0,
    key.getD 4 0, key.getD 5 0, key.getD 6 0, key.getD 7 0,
    number.toUInt32, (number >>> 32).toUInt32, 0, 0]

def block (seed : UInt64) (number : UInt64) : Block :=
  let s := input seed number
  s.zipWith (· + ·) (scramble s)

structure WordStream where
  seed : UInt64
  position : Nat := 0
  deriving DecidableEq, Repr

namespace WordStream

def ofSeed (seed : UInt64) : WordStream :=
  { seed }

def word (s : WordStream) : UInt32 :=
  (block s.seed (UInt64.ofNat (s.position / 16))).toArray.getD (s.position % 16) 0

def next32 (s : WordStream) : UInt32 × WordStream :=
  (s.word, { s with position := s.position + 1 })

def next64 (s : WordStream) : UInt64 × WordStream :=
  let (low, s) := s.next32
  let (high, s) := s.next32
  ((high.toUInt64 <<< 32) ||| low.toUInt64, s)

end WordStream

end MockScaffold.Seeded

namespace MockScaffold.Seeded.WordStream

/-- A whole number below 100, where a second word evens out the bias of the first if the low half
of the product asks for it. -/
def smallInt (s : WordStream) : Nat × WordStream :=
  let (x, s) := s.next32
  let product := x.toNat * 100
  let high := product / UInt32.size
  let low := product % UInt32.size
  if UInt32.size - 100 < low then
    let (y, s) := s.next32
    (if UInt32.size ≤ low + y.toNat * 100 / UInt32.size then high + 1 else high, s)
  else
    (high, s)

/-- The tenths of `k · 2⁻⁵³ · 100`, where the product is a double. -/
def tenths (k : Nat) : Nat :=
  Number.roundHalfEven (Number.roundToDouble (k * 100) * 10) (Nat.pow 2 53)

def oneDecimal (tenths : Nat) : String :=
  toString (tenths / 10) ++ "." ++ toString (tenths % 10)

def smallDecimal (s : WordStream) : String × WordStream :=
  let (x, s) := s.next64
  (oneDecimal (tenths (x >>> 11).toNat), s)

end MockScaffold.Seeded.WordStream
