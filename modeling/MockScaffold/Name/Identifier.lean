import MockScaffold.Text.Case
import MockScaffold.Text.Letter

namespace MockScaffold.Name

def isIdentifierStart (c : Char) : Bool :=
  Text.isAlphabetic c || c == '_' || c == '$'

def isIdentifierPart (c : Char) : Bool :=
  Text.isAlphanumeric c || c == '_' || c == '$'

def isIdentifier (name : String) : Bool :=
  match name.toList with
  | [] => false
  | c :: rest => isIdentifierStart c && rest.all isIdentifierPart

def isSeparator (c : Char) : Bool :=
  c == '_' || c == '$' || c == '-'

def beginsWord (prev c : Char) (next : Option Char) : Bool :=
  Text.isUpper c &&
    (Text.isLower prev || prev.isDigit || (Text.isUpper prev && next.any Text.isLower))

def finished (word : List Char) : List (List Char) :=
  if word.isEmpty then [] else [word]

/-- The words of a text whose open word so far is `word`. -/
def wordsAfter (word : List Char) : List Char → List (List Char)
  | [] => finished word
  | c :: rest =>
    if isSeparator c then finished word ++ wordsAfter [] rest
    else if word.getLast?.any (beginsWord · c rest.head?) then word :: wordsAfter [c] rest
    else wordsAfter (word ++ [c]) rest

def words (name : List Char) : List (List Char) :=
  wordsAfter [] name

def lowerCamel : List (List Char) → List Char
  | [] => []
  | first :: rest => Text.lower first ++ rest.flatMap fun w => Text.capitalize (Text.lower w)

def upperSnake (ws : List (List Char)) : List Char :=
  ['_'].intercalate (ws.map Text.upper)

/-- The letters of a name from the second on, with `_` before each capital. -/
def snakeTail : List Char → List Char
  | [] => []
  | c :: rest => (if Text.isUpper c then ['_'] else []) ++ Text.toUpper c ++ snakeTail rest

/-- The constant that stands for a variable: `retryCount` gives `RETRY_COUNT`, and `orderID` gives
`ORDER_I_D`. -/
def constantName (name : String) : String :=
  match name.toList with
  | [] => ""
  | c :: rest => String.ofList (Text.toUpper c ++ snakeTail rest)

def capitalized (name : String) : String :=
  String.ofList (Text.capitalize name.toList)

def decapitalized (name : String) : String :=
  String.ofList (Text.decapitalize name.toList)

end MockScaffold.Name
