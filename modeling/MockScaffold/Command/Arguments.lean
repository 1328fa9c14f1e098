import MockScaffold.Number.Basic

namespace MockScaffold.Command

def path? (text : String) : Option String :=
  if text.isEmpty then none else some text

/-- A number of 64 bits without sign; a plus before it is allowed. -/
def seed? (text : String) : Option UInt64 :=
  let digits := match text.toList with
    | '+' :: rest => rest
    | cs => cs
  let n := Number.ofDigits 10 digits
  if digits.isEmpty || !digits.all Char.isDigit || UInt64.size ≤ n then none
  else some (UInt64.ofNat n)

inductive OptionKind where
  | flag
  | path
  | number
  deriving DecidableEq, Repr

def OptionKind.allows (value : String) : OptionKind → Bool
  | flag => true
  | path => (path? value).isSome
  | number => (seed? value).isSome

structure OptionSpec where
  name : String
  letter : Option Char := none
  kind : OptionKind := .flag
  isRequired : Bool := false
  about : String
  deriving DecidableEq, Repr

def OptionSpec.takesValue (spec : OptionSpec) : Bool :=
  spec.kind != .flag

/-- An option as it was given, a flag with an empty value; a positional value; or the wish for help,
after which nothing counts. -/
inductive Given where
  | option (name value : String)
  | positional (value : String)
  | help
  deriving DecidableEq, Repr

/-- A dash alone is a value; what else begins with one is an option. -/
def looksLikeValue (arg : List Char) : Bool :=
  arg.head? != some '-' || arg == ['-']

/-- The value that an option of one letter has in its own argument, after an `=` if there is one. -/
def attachedToLetter? (rest : List Char) : Option (List Char) :=
  match rest with
  | [] => none
  | '=' :: value => some value
  | value => some value

def splitLong (rest : List Char) : List Char × Option (List Char) :=
  let name := rest.takeWhile (· != '=')
  (name, (rest.dropWhile (· != '=')).tail?)

def optionOf? (specs : List OptionSpec) (arg : List Char) :
    Option (OptionSpec × Option (List Char)) :=
  match arg with
  | '-' :: '-' :: rest =>
    let (name, attached) := splitLong rest
    (specs.find? (·.name.toList == name)).map (·, attached)
  | '-' :: letter :: rest =>
    (specs.find? (·.letter == some letter)).map (·, attachedToLetter? rest)
  | _ => none

/-- Letters of flags may be written together, so that more may follow the `h`. -/
def asksForHelp (arg : List Char) : Bool :=
  arg == "--help".toList || ['-', 'h'].isPrefixOf arg

/-- All arguments in order, where after `--` every one is positional; nothing if one of them is
not understood. -/
def readArguments? (specs : List OptionSpec) : List String → Option (List Given)
  | [] => some []
  | arg :: rest =>
    if arg == "--" then some (rest.map .positional)
    else if looksLikeValue arg.toList then
      (readArguments? specs rest).map (.positional arg :: ·)
    else if asksForHelp arg.toList then some [.help]
    else
      match optionOf? specs arg.toList with
      | none => none
      | some (spec, some value) =>
        if spec.takesValue then
          (readArguments? specs rest).map (.option spec.name (String.ofList value) :: ·)
        else none
      | some (spec, none) =>
        if spec.takesValue then
          match rest with
          | value :: rest =>
            if looksLikeValue value.toList then
              (readArguments? specs rest).map (.option spec.name value :: ·)
            else none
          | [] => none
        else (readArguments? specs rest).map (.option spec.name "" :: ·)

def positionals (given : List Given) : List String :=
  given.filterMap fun
    | .positional value => some value
    | .option .. | .help => none

def valuesOf (given : List Given) (name : String) : List String :=
  given.filterMap fun
    | .option n value => if n == name then some value else none
    | .positional _ | .help => none

/-- An option may be given once at most; `read` tells which of its values are allowed. -/
def single? (read : String → Option α) (given : List Given) (name : String) : Option (Option α) :=
  match valuesOf given name with
  | [] => some none
  | [value] => (read value).map some
  | _ => none

def flag? (given : List Given) (name : String) : Option Bool :=
  (single? some given name).map (·.isSome)

end MockScaffold.Command
