import MockScaffold.Json.Basic
import MockScaffold.Json.Number
import MockScaffold.Json.Quoted

namespace MockScaffold.Json

def isSpace (c : Char) : Bool :=
  c == ' ' || c == '\t' || c == '\n' || c == '\r'

def skipSpace (cs : List Char) : List Char :=
  cs.dropWhile isSpace

def held (levels : Nat) (j : Json) : Json :=
  if levels = 0 then .unreadable else j

def takeKeyword? (cs : List Char) : Option (Json × List Char) :=
  match cs with
  | 'n' :: 'u' :: 'l' :: 'l' :: rest => some (.null, rest)
  | 't' :: 'r' :: 'u' :: 'e' :: rest => some (.bool true, rest)
  | 'f' :: 'a' :: 'l' :: 's' :: 'e' :: rest => some (.bool false, rest)
  | _ => none

def ofMembers (members : List (Option String × Json)) : Json :=
  match members.mapM fun (key, j) => key.map (·, j) with
  | some known => .object known
  | none => .unreadable

mutual

/-- One value at the front of a text, where the fuel bounds the characters read and `levels` the
containers that may still be held in each other. -/
def readValue? : Nat → Nat → List Char → Option (Json × List Char)
  | 0, _, _ => none
  | fuel + 1, levels, cs =>
    match skipSpace cs with
    | '"' :: rest =>
      (unquote? rest).map fun (text, after) =>
        (((text.map String.ofList).map .string).getD .unreadable, after)
    | '[' :: rest =>
      match skipSpace rest with
      | ']' :: after => some (held levels (.array []), after)
      | inside =>
        (readItems? fuel (levels - 1) inside).map fun (items, after) =>
          (held levels (.array items), after)
    | '{' :: rest =>
      match skipSpace rest with
      | '}' :: after => some (held levels (.object []), after)
      | inside =>
        (readMembers? fuel (levels - 1) inside).map fun (members, after) =>
          (held levels (ofMembers members), after)
    | start =>
      (takeKeyword? start).or <|
        (takeNumber? start).map fun (text, fits, after) =>
          (if fits then .number (String.ofList text) else .unreadable, after)

def readItems? : Nat → Nat → List Char → Option (List Json × List Char)
  | 0, _, _ => none
  | fuel + 1, levels, cs =>
    match readValue? fuel levels cs with
    | none => none
    | some (item, rest) =>
      match skipSpace rest with
      | ']' :: after => some ([item], after)
      | ',' :: more =>
        (readItems? fuel levels more).map fun (items, after) => (item :: items, after)
      | _ => none

def readMembers? : Nat → Nat → List Char → Option (List (Option String × Json) × List Char)
  | 0, _, _ => none
  | fuel + 1, levels, cs =>
    match skipSpace cs with
    | '"' :: rest =>
      match unquote? rest with
      | none => none
      | some (text, afterKey) =>
        match skipSpace afterKey with
        | ':' :: beforeValue =>
          match readValue? fuel levels beforeValue with
          | none => none
          | some (value, afterValue) =>
            let entry := (text.map String.ofList, value)
            match skipSpace afterValue with
            | '}' :: after => some ([entry], after)
            | ',' :: more =>
              (readMembers? fuel levels more).map fun (members, after) =>
                (entry :: members, after)
            | _ => none
        | _ => none
    | _ => none

end

def deepest : Nat := 127

def parse? (text : String) : Option Json :=
  let cs := text.toList
  match readValue? (2 * cs.length + 1) deepest cs with
  | some (j, rest) => if (skipSpace rest).isEmpty then some j else none
  | none => none

end MockScaffold.Json
