import MockScaffold.Log.Event
import MockScaffold.Log.Pattern.Parser
import MockScaffold.Text.Letter

namespace MockScaffold

structure LogField where
  name : String
  value : Option String := none
  deriving DecidableEq, Repr

/-- No target stands for all targets, no span for all spans. -/
structure LogDirective where
  target : Option String := none
  span : Option String := none
  field : Option LogField := none
  level : LogLevel := .trace
  deriving DecidableEq, Repr

namespace LogField

def withoutSign : List Char → List Char
  | '+' :: rest | '-' :: rest => rest
  | text => text

def isNumber (text : List Char) : Bool :=
  let whole := (withoutSign text).takeWhile Char.isDigit
  let afterWhole := (withoutSign text).dropWhile Char.isDigit
  let afterPoint := if afterWhole.head? == some '.' then afterWhole.drop 1 else []
  let fraction := afterPoint.takeWhile Char.isDigit
  let exponent :=
    if afterWhole.head? == some '.' then afterPoint.dropWhile Char.isDigit else afterWhole
  let digits := withoutSign (exponent.drop 1)
  !(whole.isEmpty && fraction.isEmpty) &&
    (exponent.isEmpty || (exponent.head?.any (·.toLower == 'e') && !digits.isEmpty &&
      digits.all Char.isDigit))

/-- Truth values and numbers are no patterns, since a text is never one. -/
def isPlainValue (value : List Char) : Bool :=
  value == "true".toList || value == "false".toList || isNumber value

def pattern? (value : List Char) : Option (Option Log.Pattern) :=
  if isPlainValue value then some none else (Log.Pattern.ofText? value).map some

/-- A name, or a name and a value, which a second `=` ends. -/
def ofText? (text : List Char) : Option LogField :=
  let name := String.ofList (text.takeWhile (· != '='))
  match text.dropWhile (· != '=') with
  | [] => if text.isEmpty then none else some { name }
  | _ :: rest =>
    let value := rest.takeWhile (· != '=')
    (pattern? value).map fun _ => { name, value := some (String.ofList value) }

def accepts (field : LogField) (value : String) : Bool :=
  match field.value with
  | none => true
  | some wanted =>
    match pattern? wanted.toList with
    | some (some pattern) => pattern.accepts value.toList
    | _ => false

def text (field : LogField) : String :=
  match field.value with
  | some value => field.name ++ "=" ++ value
  | none => field.name

end LogField

namespace LogDirective

/-- A directive with a span or a field concerns all that happens in such spans. -/
def concernsSpans (d : LogDirective) : Bool :=
  d.span.isSome || d.field.isSome

/-- A directive without a span and a value concerns the events themselves. -/
def concernsEvents (d : LogDirective) : Bool :=
  d.span.isNone && d.field.all (·.value.isNone)

def spanText (d : LogDirective) : String :=
  let field := match d.field with
    | some f => "\x7b" ++ f.text ++ "\x7d"
    | none => ""
  if d.concernsSpans then "[" ++ d.span.getD "" ++ field ++ "]" else ""

def text (d : LogDirective) : String :=
  let subject := d.target.getD "" ++ d.spanText
  if subject.isEmpty then d.level.name else subject ++ "=" ++ d.level.name

def levelAfterMark? (text : List Char) : Option LogLevel :=
  if text.isEmpty then some .trace else LogLevel.ofText? text

def finalLevel? (text : List Char) : Option LogLevel :=
  match text with
  | '=' :: level => levelAfterMark? level
  | _ => if text.all Text.isBlank then some .trace else none

def ofSpanText? (target : Option String) (text : List Char) : Option LogDirective :=
  let isEnd (c : Char) := c == ']' || c == '\x7b'
  let name := String.ofList (text.takeWhile (!isEnd ·))
  match text.dropWhile (!isEnd ·) with
  | ']' :: rest => (finalLevel? rest).map fun level => { target, span := some name, level }
  | _ :: rest =>
    match rest.dropWhile (· != '\x7d') with
    | '\x7d' :: ']' :: after => do
      let field ← LogField.ofText? (rest.takeWhile (· != '\x7d'))
      let level ← finalLevel? after
      some { target, span := if name.isEmpty then none else some name, field := some field, level }
    | _ => none
  | [] => none

def beginsTarget (c : Char) : Bool :=
  Text.isAlphanumeric c || ['-', ':', '_'].contains c

def ofWordText? (text : List Char) : Option LogDirective :=
  let isEnd (c : Char) := c == '=' || c == '['
  let word := text.takeWhile (!isEnd ·)
  let target := some (String.ofList word)
  match text.dropWhile (!isEnd ·) with
  | '=' :: level => (levelAfterMark? level).map fun level => { target, level }
  | _ :: rest => ofSpanText? target rest
  | [] =>
    match LogLevel.ofText? word with
    | some level => some { level }
    | none => some { target }

def ofTrimmed? (text : List Char) : Option LogDirective :=
  match text with
  | '[' :: rest => ofSpanText? none rest
  | c :: _ => if beginsTarget c then ofWordText? text else none
  | [] => none

/-- A blank before a directive spoils it: with a level it is no directive any more, and without one
all of it is taken for a target. -/
def ofText? (text : List Char) : Option LogDirective :=
  match ofTrimmed? (Text.trimStart text) with
  | none => none
  | some d =>
    if !text.head?.any Text.isBlank then some d
    else if '=' ∈ text then none
    else some { target := some (String.ofList text) }

def splitCommas : List Char → List (List Char)
  | [] => [[]]
  | c :: cs =>
    if c = ',' then [] :: splitCommas cs
    else
      match splitCommas cs with
      | [] => [[c]]
      | part :: rest => (c :: part) :: rest

def listOfText? (text : List Char) : Option (List LogDirective) :=
  ((splitCommas text).filter (!·.isEmpty)).mapM ofText?

end LogDirective

end MockScaffold
