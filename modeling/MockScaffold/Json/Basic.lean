namespace MockScaffold

/-- A well-formed value that cannot be held (too deep, out of range, or with half of a surrogate
pair in a text) is `unreadable`: it may stand where nobody asks for it. -/
inductive Json where
  | null
  | bool (value : Bool)
  | number (text : String)
  | string (text : String)
  | array (items : List Json)
  | object (members : List (String × Json))
  | unreadable
  deriving Repr, Inhabited

namespace Json

def ofNat (n : Nat) : Json :=
  .number (toString n)

def ofOption (toJson : α → Json) (value : Option α) : Json :=
  (value.map toJson).getD .null

def strings (texts : List String) : Json :=
  .array (texts.map .string)

def listMember (key : String) (items : List Json) : List (String × Json) :=
  if items.isEmpty then [] else [(key, .array items)]

def optionMember (key : String) (value : Option Json) : List (String × Json) :=
  (value.map fun j => (key, j)).toList

def bool? : Json → Option Bool
  | .bool b => some b
  | _ => none

def string? : Json → Option String
  | .string s => some s
  | _ => none

def array? : Json → Option (List Json)
  | .array items => some items
  | _ => none

mutual

def depth : Json → Nat
  | .array items => depthAll items + 1
  | .object members => depthMembers members + 1
  | _ => 0

def depthAll : List Json → Nat
  | [] => 0
  | j :: js => max (depth j) (depthAll js)

def depthMembers : List (String × Json) → Nat
  | [] => 0
  | (_, j) :: rest => max (depth j) (depthMembers rest)

end

mutual

def isReadable : Json → Bool
  | .array items => allReadable items
  | .object members => allMembersReadable members
  | .unreadable => false
  | _ => true

def allReadable : List Json → Bool
  | [] => true
  | j :: js => isReadable j && allReadable js

def allMembersReadable : List (String × Json) → Bool
  | [] => true
  | (_, j) :: rest => isReadable j && allMembersReadable rest

end

/-- The known members of a record, which is an object without a repeated known key, or an array of
the values of the first few keys. -/
def record? (keys : List String) : Json → Option (List (String × Json))
  | .object members =>
    let known := members.filter fun (key, _) => keys.contains key
    if (known.map (·.1)).Nodup then some known else none
  | .array items => if items.length ≤ keys.length then some (keys.zip items) else none
  | _ => none

def closedRecord? (keys : List String) : Json → Option (List (String × Json))
  | .object members =>
    if members.all fun (key, _) => keys.contains key then record? keys (.object members) else none
  | j => record? keys j

def required? (read : Json → Option α) (members : List (String × Json)) (key : String) :
    Option α :=
  (members.lookup key).bind read

def withDefault? (read : Json → Option α) (default : α) (members : List (String × Json))
    (key : String) : Option α :=
  match members.lookup key with
  | some j => read j
  | none => some default

def optional? (read : Json → Option α) (members : List (String × Json)) (key : String) :
    Option (Option α) :=
  match members.lookup key with
  | none | some .null => some none
  | some j => (read j).map some

def list? (read : Json → Option α) (j : Json) : Option (List α) :=
  j.array?.bind (·.mapM read)

/-- A constant by its name, or by an object with that one key and the value `null`. -/
def constant? (ofName? : String → Option α) : Json → Option α
  | .string name => ofName? name
  | .object [(name, .null)] => ofName? name
  | _ => none

end Json

end MockScaffold
