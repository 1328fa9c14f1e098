import MockScaffold.JavaType.Basic

namespace MockScaffold

inductive TypeToken where
  | name (text : String)
  | mark (c : Char)
  deriving DecidableEq, Repr

namespace TypeToken

/-- Dots belong to names, so that a qualified name is one token. -/
def isNameChar (c : Char) : Bool :=
  c.isAlphanum || c == '_' || c == '$' || c == '.'

def isSpace (c : Char) : Bool :=
  c == ' ' || c == '\t' || c == '\n' || c == '\x0c' || c == '\r'

def ofRun (run : List Char) : List TypeToken :=
  if run.isEmpty then [] else [.name (String.ofList run)]

/-- The tokens of a text that continues the open run `run`. -/
def scanAfter (run : List Char) : List Char → List TypeToken
  | [] => ofRun run
  | c :: rest =>
    if isNameChar c then scanAfter (run ++ [c]) rest
    else if isSpace c then ofRun run ++ scanAfter [] rest
    else ofRun run ++ .mark c :: scanAfter [] rest

def scan (text : List Char) : List TypeToken :=
  scanAfter [] text

end TypeToken

inductive TypeFault where
  | expectedName
  | malformedName
  | unterminatedArguments
  | expectedBracket
  | trailing
  deriving DecidableEq, Repr

def TypeFault.reason : TypeFault → String
  | expectedName => "expected a type name"
  | malformedName => "malformed qualified name"
  | unterminatedArguments => "unterminated type arguments"
  | expectedBracket => "expected `]`"
  | trailing => "trailing characters"

def TypeFault.message (fault : TypeFault) (text : String) : String :=
  "invalid type `" ++ text ++ "`: " ++ fault.reason

namespace TypeRef

abbrev Reading (α : Type) := Except TypeFault (α × List TypeToken)

def hasDotPair : List Char → Bool
  | '.' :: '.' :: _ => true
  | _ :: rest => hasDotPair rest
  | [] => false

def isMalformed (name : String) : Bool :=
  let cs := name.toList
  cs.head? == some '.' || cs.getLast? == some '.' || hasDotPair cs

def ofKeyword? (word : String) : Option TypeRef :=
  if word == "void" then some .void else (Primitive.ofKeyword? word).map .primitive

def readDimensions (t : TypeRef) : List TypeToken → Reading TypeRef
  | .mark '[' :: .mark ']' :: rest => readDimensions (.array t) rest
  | .mark '[' :: _ => .error .expectedBracket
  | rest => .ok (t, rest)

/-- What a wildcard stands for: nothing if there is none, else the tokens after `?`, and whether a
bound has to follow. -/
def wildcard? : List TypeToken → Option (Bool × List TypeToken)
  | .mark '?' :: .name word :: rest =>
    if word == "extends" || word == "super" then some (true, rest)
    else some (false, .name word :: rest)
  | .mark '?' :: rest => some (false, rest)
  | _ => none

mutual

/-- Two units of fuel per token are enough, and two more at the start. -/
def readType : Nat → List TypeToken → Reading TypeRef
  | fuel + 1, .name name :: rest =>
    if isMalformed name then .error .malformedName
    else
      match ofKeyword? name with
      | some t => readDimensions t rest
      | none =>
        match rest with
        | .mark '<' :: inside =>
          match readArguments fuel inside with
          | .ok (args, after) => readDimensions (.named name args) after
          | .error fault => .error fault
        | _ => readDimensions (.named name []) rest
  | _, _ => .error .expectedName

def readArguments : Nat → List TypeToken → Reading (List TypeRef)
  | 0, _ => .error .expectedName
  | fuel + 1, tokens =>
    let first : Reading TypeRef :=
      match wildcard? tokens with
      | some (false, rest) => .ok (ofClass "java.lang.Object", rest)
      | some (true, rest) => readType fuel rest
      | none => readType fuel tokens
    match first with
    | .error fault => .error fault
    | .ok (arg, .mark ',' :: rest) =>
      match readArguments fuel rest with
      | .ok (args, after) => .ok (arg :: args, after)
      | .error fault => .error fault
    | .ok (arg, .mark '>' :: after) => .ok ([arg], after)
    | .ok _ => .error .unterminatedArguments

end

def parse (text : String) : Except TypeFault TypeRef :=
  let tokens := TypeToken.scan text.toList
  match readType (2 * tokens.length + 2) tokens with
  | .ok (t, []) => .ok t
  | .ok _ => .error .trailing
  | .error fault => .error fault

end TypeRef

end MockScaffold
