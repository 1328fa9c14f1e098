import MockScaffold.Toml.Quoted
import MockScaffold.Toml.Table
import MockScaffold.Toml.Word

namespace MockScaffold.Toml

def skipGap (cs : List Char) : List Char :=
  cs.dropWhile isGap

def isKeyChar (c : Char) : Bool :=
  c.isAlphanum || c == '_' || c == '-'

def skipFiller (inComment : Bool) : List Char → List Char
  | [] => []
  | '\n' :: rest => skipFiller false rest
  | '\r' :: '\n' :: rest => skipFiller false rest
  | c :: rest =>
    if inComment then (if isPlain c then skipFiller true rest else c :: rest)
    else if isGap c then skipFiller false rest
    else if c == '#' then skipFiller true rest
    else c :: rest

def lineEnd? (cs : List Char) : Option (List Char) :=
  let afterComment := match skipGap cs with
    | '#' :: rest => rest.dropWhile isPlain
    | rest => rest
  match afterComment with
  | [] => some []
  | '\n' :: rest => some rest
  | '\r' :: '\n' :: rest => some rest
  | _ => none

/-- A bare or quoted key; quoted keys stand on one line. -/
def simpleKey? (cs : List Char) : Option (String × List Char) :=
  let text? := match cs with
    | '"' :: rest => basicText? rest
    | '\'' :: rest => literalText? rest
    | _ =>
      let word := cs.takeWhile isKeyChar
      if word.isEmpty then none else some (word, cs.dropWhile isKeyChar)
  text?.map fun (text, rest) => (String.ofList text, rest)

def keyPath? : Nat → List Char → Option (List String × List Char)
  | 0, _ => none
  | fuel + 1, cs =>
    match simpleKey? (skipGap cs) with
    | none => none
    | some (key, rest) =>
      match skipGap rest with
      | '.' :: more => (keyPath? fuel more).map fun (keys, after) => (key :: keys, after)
      | after => some ([key], after)

/-- How deep arrays and inline tables may be nested, and how long a dotted key may be. -/
def deepest : Nat := 79

def dottedKey? (cs : List Char) : Option (List String × String × List Char) :=
  match keyPath? cs.length cs with
  | none => none
  | some (keys, rest) =>
    if deepest < keys.length then none
    else keys.getLast?.map fun last => (keys.dropLast, last, rest)

mutual

/-- A value at the front of a text, with fuel for the characters read. -/
def value? : Nat → Nat → List Char → Option (Item × List Char)
  | 0, _, _ => none
  | fuel + 1, levels, cs =>
    match cs with
    | '[' :: rest =>
      if levels = 0 then none
      else (arrayItems? fuel (levels - 1) rest).map fun (items, after) => (.array items, after)
    | '\x7b' :: rest =>
      if levels = 0 then none
      else
        match skipGap rest with
        | '\x7d' :: after => some (.inlineTable [], after)
        | inside =>
          (inlineEntries? fuel (levels - 1) [] inside).map fun (entries, after) =>
            (.inlineTable entries, after)
    | c :: _ =>
      if c == '"' || c == '\'' then
        (quotedText? cs).map fun (text, after) => (.string (String.ofList text), after)
      else
        let (word, after) := takeWord cs
        (ofWord? word).map (·, after)
    | [] => none

def arrayItems? : Nat → Nat → List Char → Option (List Item × List Char)
  | 0, _, _ => none
  | fuel + 1, levels, cs =>
    match skipFiller false cs with
    | ']' :: after => some ([], after)
    | start =>
      match value? fuel levels start with
      | none => none
      | some (item, rest) =>
        match skipFiller false rest with
        | ']' :: after => some ([item], after)
        | ',' :: more =>
          (arrayItems? fuel levels more).map fun (items, after) => (item :: items, after)
        | _ => none

def inlineEntries? : Nat → Nat → Entries → List Char → Option (Entries × List Char)
  | 0, _, _, _ => none
  | fuel + 1, levels, entries, cs =>
    match dottedKey? cs with
    | some (path, key, '=' :: rest) =>
      match value? fuel levels (skipGap rest) with
      | none => none
      | some (item, afterItem) =>
        match addValue path key item .header entries with
        | none => none
        | some entries =>
          match skipGap afterItem with
          | '\x7d' :: after => some (entries, after)
          | ',' :: more => inlineEntries? fuel levels entries more
          | _ => none
    | _ => none

end

def keyValueLine? (current : List String) (doc : Entries) (cs : List Char) :
    Option (Entries × List Char) := do
  let (path, key, rest) ← dottedKey? cs
  let afterMark ← expect? '=' rest
  let (item, afterItem) ← value? (2 * cs.length) deepest (skipGap afterMark)
  let after ← lineEnd? afterItem
  let doc ← within false (addValue path key item) .header current doc
  some (doc, after)

def headerLine? (closing : List Char) (change : String → Entries → Option Entries) (doc : Entries)
    (cs : List Char) : Option (List String × Entries × List Char) := do
  let (path, key, rest) ← dottedKey? cs
  if closing.isPrefixOf rest then
    let after ← lineEnd? (rest.drop closing.length)
    let doc ← within false (fun _ => change key) .header path doc
    some (path ++ [key], doc, after)
  else none

def lines? : Nat → List String → Entries → List Char → Option Entries
  | 0, _, _, _ => none
  | fuel + 1, current, doc, cs =>
    match skipGap cs with
    | [] => some doc
    | '[' :: '[' :: rest =>
      (headerLine? [']', ']'] openElement doc rest).bind fun (current, doc, after) =>
        lines? fuel current doc after
    | '[' :: rest =>
      (headerLine? [']'] openTable doc rest).bind fun (current, doc, after) =>
        lines? fuel current doc after
    | start =>
      match lineEnd? start with
      | some after => lines? fuel current doc after
      | none =>
        (keyValueLine? current doc start).bind fun (doc, after) => lines? fuel current doc after

/-- The root table of a document, which may begin with a byte order mark. -/
def parse? (text : String) : Option Entries :=
  let cs := match text.toList with
    | '\uFEFF' :: rest => rest
    | cs => cs
  lines? (cs.length + 1) [] [] cs

end MockScaffold.Toml
