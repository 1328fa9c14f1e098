import MockScaffold.Text.Affix

namespace MockScaffold

/-- What stands at a path: a directory, or a file with its text, unless that is not UTF-8. -/
inductive Node where
  | file (text : Option String)
  | directory
  deriving DecidableEq, Repr

structure Workspace where
  root : String
  node? : String → Option Node
  /-- The shortest path of what stands at a path, without links. -/
  canonical? : String → Option String
  accepts : String → Bool

namespace Workspace

def text? (ws : Workspace) (path : String) : Option String :=
  match ws.node? path with
  | some (.file text) => text
  | _ => none

def isFile (ws : Workspace) (path : String) : Bool :=
  match ws.node? path with
  | some (.file _) => true
  | _ => false

def absolute (ws : Workspace) (path : String) : String :=
  if Text.startsWith path "/" then path else ws.root ++ "/" ++ path

/-- A path that leads nowhere is kept as it is. -/
def canonical (ws : Workspace) (path : String) : String :=
  (ws.canonical? path).getD path

end Workspace

/-- Files by the names on the way from `/`, and the way to the working directory. -/
structure FileTree where
  root : List String
  files : List (List String × Option String)
  deriving Repr

/-- The devices that every tree has: one that is empty and keeps nothing, and the two streams that
a program writes to. -/
inductive Device where
  | null
  | output
  | errors
  deriving DecidableEq, Repr

/-- The directory of the devices, which takes no other file. -/
def Device.directory : List String :=
  ["dev"]

def Device.at? : List String → Option Device
  | ["dev", "null"] => some .null
  | ["dev", "stdout"] => some .output
  | ["dev", "stderr"] => some .errors
  | _ => none

/-- Only the empty device can be read to its end. -/
def Device.node : Device → Node
  | null => .file (some "")
  | output | errors => .file none

namespace FileTree

def longestName : Nat := 255

def longestPath : Nat := 4095

/-- The names between slashes, with an empty name for a slash at either end. -/
def splitSlashes : List Char → List (List Char)
  | [] => [[]]
  | c :: cs =>
    if c = '/' then [] :: splitSlashes cs
    else
      match splitSlashes cs with
      | [] => [[c]]
      | name :: rest => (c :: name) :: rest

def names (path : String) : List String :=
  (splitSlashes path.toList).map String.ofList

def pathTo (place : List String) : String :=
  "/" ++ "/".intercalate place

def isDirectory (tree : FileTree) (place : List String) : Bool :=
  place.isPrefixOf tree.root || place == Device.directory ||
    tree.files.any fun (names, _) => place.isPrefixOf names && place.length < names.length

def node? (tree : FileTree) (place : List String) : Option Node :=
  match Device.at? place, tree.files.lookup place with
  | some device, _ => some device.node
  | none, some text => some (.file text)
  | none, none => if tree.isDirectory place then some .directory else none

/-- Follows names from a place, where every name but a last one is looked up in a directory and an
empty name stays there as `.` does. -/
def follow? (tree : FileTree) : List String → List String → Option (List String)
  | place, [] => some place
  | place, name :: names =>
    if !tree.isDirectory place then none
    else if name.isEmpty || name == "." then follow? tree place names
    -- Nothing is above `/`.
    else if name == ".." then follow? tree place.dropLast names
    else if (tree.node? (place ++ [name])).isSome then follow? tree (place ++ [name]) names
    else none

/-- Where a path starts, and the names that lead on from there; nothing if it is too long. -/
def route? (tree : FileTree) (path : String) : Option (List String × List String) :=
  if longestPath < path.utf8ByteSize then none
  else
    match Text.withoutStart? path "/" with
    | some rest => some ([], names rest)
    | none => some (tree.root, names path)

def place? (tree : FileTree) (path : String) : Option (List String) :=
  (tree.route? path).bind fun (start, names) => tree.follow? start names

def isFileName (name : String) : Bool :=
  !(["", ".", ".."].contains name) && name.utf8ByteSize ≤ longestName

/-- The place of a file to be written: a name in a directory, where no directory stands. -/
def target? (tree : FileTree) (path : String) : Option (List String) := do
  let (start, names) ← tree.route? path
  let name ← names.getLast?
  let parent ← tree.follow? start names.dropLast
  let place := parent ++ [name]
  let isFree := (Device.at? place).isSome || parent != Device.directory
  if tree.isDirectory parent && isFileName name && !tree.isDirectory place && isFree then
    some place
  else none

/-- The tree with one file written, where what is written to a device does not stay. -/
def write (tree : FileTree) (path text : String) : FileTree :=
  match tree.target? path with
  | none => tree
  | some place =>
    let others := tree.files.filter fun (names, _) => names != place
    if (Device.at? place).isSome then tree else { tree with files := (place, some text) :: others }

def echoed (tree : FileTree) (path text : String) : String :=
  if (tree.target? path).bind Device.at? == some .output then text else ""

def workspace (tree : FileTree) : Workspace where
  root := pathTo tree.root
  node? path := (tree.place? path).bind tree.node?
  canonical? path := (tree.place? path).map pathTo
  accepts path := (tree.target? path).isSome

end FileTree

end MockScaffold
