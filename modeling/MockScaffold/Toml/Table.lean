namespace MockScaffold.Toml

/-- How a table came to be: by a header, as the parent of a header, or by a dotted key. -/
inductive TableOrigin where
  | header
  | implied
  | dotted
  deriving DecidableEq, Repr

inductive Item where
  | string (text : String)
  | integer (value : Int)
  | float
  | dateTime
  | boolean (value : Bool)
  | array (items : List Item)
  | inlineTable (entries : List (String × Item))
  | table (origin : TableOrigin) (entries : List (String × Item))
  | tables (elements : List (List (String × Item)))
  deriving Repr, Inhabited

abbrev Entries := List (String × Item)

namespace Item

def string? : Item → Option String
  | .string text => some text
  | _ => none

def integer? : Item → Option Int
  | .integer n => some n
  | _ => none

def boolean? : Item → Option Bool
  | .boolean b => some b
  | _ => none

/-- The entries of a record with the given keys and no others: a table, or an array of the values
of the first keys, of which what is left over is passed over. -/
def record? (keys : List String) : Item → Option Entries
  | .table _ entries | .inlineTable entries =>
    if entries.all fun (key, _) => keys.contains key then some entries else none
  | .array items => some (keys.zip items)
  | .tables elements => some (keys.zip (elements.map (.table .header)))
  | _ => none

end Item

def withDefault? (read : Item → Option α) (default : α) (entries : Entries) (key : String) :
    Option α :=
  match entries.lookup key with
  | some item => read item
  | none => some default

def setEntry (entries : Entries) (key : String) (item : Item) : Entries :=
  entries.map fun (k, old) => if k == key then (k, item) else (k, old)

/-- Changes the table at the end of a path, making the tables on the way that are not there. -/
def within (byDots : Bool) (change : TableOrigin → Entries → Option Entries) :
    TableOrigin → List String → Entries → Option Entries
  | origin, [], entries => change origin entries
  | _, key :: path, entries =>
    match entries.lookup key with
    | none =>
      let origin : TableOrigin := if byDots then .dotted else .implied
      (within byDots change origin path []).map fun inner =>
        entries ++ [(key, .table origin inner)]
    | some (.table origin inner) =>
      if byDots && origin == .header then none
      else
        (within byDots change origin path inner).map fun inner =>
          setEntry entries key (.table origin inner)
    -- An array of tables stands for its last element.
    | some (.tables elements) =>
      match elements.getLast? with
      | none => none
      | some last =>
        (within byDots change .header path last).map fun last =>
          setEntry entries key (.tables (elements.dropLast ++ [last]))
    | some _ => none

def addValue (path : List String) (key : String) (item : Item) (origin : TableOrigin)
    (entries : Entries) : Option Entries :=
  let add (origin : TableOrigin) (entries : Entries) : Option Entries :=
    if (path.isEmpty || origin == .dotted) && (entries.lookup key).isNone then
      some (entries ++ [(key, item)])
    else none
  within true add origin path entries

def openTable (key : String) (entries : Entries) : Option Entries :=
  match entries.lookup key with
  | none => some (entries ++ [(key, .table .header [])])
  | some (.table .implied inner) => some (setEntry entries key (.table .header inner))
  | some _ => none

def openElement (key : String) (entries : Entries) : Option Entries :=
  match entries.lookup key with
  | none => some (entries ++ [(key, .tables [[]])])
  | some (.tables elements) => some (setEntry entries key (.tables (elements ++ [[]])))
  | some _ => none

end MockScaffold.Toml
