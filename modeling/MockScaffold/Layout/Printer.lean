import MockScaffold.Layout.Head
import MockScaffold.Text.Letter

namespace MockScaffold.Layout

def splitLines : List Char → List (List Char)
  | [] => [[]]
  | c :: cs =>
    if c = '\n' then [] :: splitLines cs
    else
      match splitLines cs with
      | [] => [[c]]
      | line :: rest => (c :: line) :: rest

def indentLine (indent line : List Char) : List Char :=
  if line.all Text.isBlank then line else indent ++ line

def indentBlock (block indent : String) : String :=
  String.ofList (['\n'].intercalate ((splitLines block.toList).map (indentLine indent.toList)))

structure Style where
  indentWidth : Nat := 4
  newline : String := "\n"
  deriving DecidableEq, Repr

/-- The lines written so far, the last one first, where an entry may be a block of several lines. -/
abbrev Lines := List String

structure Page where
  style : Style
  namer : Namer

def write (page : Page) (depth : Nat) (lines : Lines) (text : String) : Lines :=
  (if text.isEmpty then "" else
    indentBlock text (String.ofList (List.replicate (depth * page.style.indentWidth) ' '))) :: lines

def writeAll (page : Page) (depth : Nat) (lines : Lines) (texts : List String) : Lines :=
  texts.foldl (write page depth) lines

/-- A blank line, unless the last one is blank or opens a block. -/
def gap : Lines → Lines
  | [] => []
  | last :: before =>
    if last.isEmpty || Text.endsWith last "\x7b" then last :: before else "" :: last :: before

def trimGaps (lines : Lines) : Lines :=
  lines.dropWhile (·.isEmpty)

def annotationTexts (page : Page) (uses : List AnnotationUse) : List String :=
  uses.map page.namer.annotationText

def writeGroup (page : Page) (depth : Nat) (lines : Lines) (texts : List String) : Lines :=
  if texts.isEmpty then lines else gap (writeAll page depth lines texts)

def writeField (page : Page) (depth : Nat) (lines : Lines) (f : FieldDecl) : Lines :=
  writeAll page depth lines (annotationTexts page f.annotations ++ [fieldLine page.namer f])

/-- A record has its fields in the head. -/
def writeFields (page : Page) (depth : Nat) (c : ClassDecl) (lines : Lines) : Lines :=
  if c.kind == .record || c.fields.isEmpty then lines
  else gap (c.fields.foldl (writeField page depth) (gap lines))

def writeMethod (page : Page) (depth : Nat) (owner : ClassDecl) (lines : Lines) (m : MethodDecl) :
    Lines :=
  let lines := writeAll page depth lines (annotationTexts page m.annotations)
  let head := methodHead page.namer owner m
  if isBodiless owner m then write page depth lines (head ++ ";")
  else
    let lines := write page depth lines (head ++ " \x7b")
    write page depth (writeAll page (depth + 1) lines m.body) "\x7d"

def writeMethods (page : Page) (depth : Nat) (c : ClassDecl) (lines : Lines) : Lines :=
  c.methods.foldl (fun lines m => gap (writeMethod page depth c (gap lines) m)) lines

def writeOpening (page : Page) (depth : Nat) (c : ClassDecl) (lines : Lines) : Lines :=
  let lines := writeAll page depth lines (annotationTexts page c.annotations)
  let lines := write page depth lines (classHead page.namer c)
  let lines := writeGroup page (depth + 1) lines
    (if c.enumConstants.isEmpty then [] else [enumLine c])
  writeMethods page (depth + 1) c (writeFields page (depth + 1) c lines)

mutual

def writeClass (page : Page) (depth : Nat) (lines : Lines) (c : ClassDecl) : Lines :=
  match c with
  | { innerClasses, .. } =>
    let lines := writeNested page (depth + 1) (writeOpening page depth c lines) innerClasses
    write page depth (trimGaps lines) "\x7d"

def writeNested (page : Page) (depth : Nat) (lines : Lines) : List ClassDecl → Lines
  | [] => lines
  | c :: cs => writeNested page depth (gap (writeClass page depth (gap lines) c)) cs

end

def writeClasses (page : Page) (lines : Lines) : List ClassDecl → Lines
  | [] => lines
  | [c] => writeClass page 0 lines c
  | c :: cs => writeClasses page (gap (writeClass page 0 lines c)) cs

def importLines (h : FileHeader) : List String :=
  h.plainImports.map fun i => "import " ++ i.path ++ ";"

def staticImportLines (h : FileHeader) : List String :=
  h.staticImports.map fun i => "import static " ++ i.path ++ ";"

def packageLines (h : FileHeader) : List String :=
  match h.package with
  | some p => ["package " ++ p ++ ";"]
  | none => []

def fileLines (style : Style) (file : SourceFile) : List String :=
  let page : Page := ⟨style, .ofFile file⟩
  let h := file.header
  let groups := [packageLines h, importLines h, staticImportLines h]
  let lines := groups.foldl (writeGroup page 0) []
  (trimGaps (writeClasses page lines file.classes)).reverse

def render (style : Style) (file : SourceFile) : String :=
  style.newline.intercalate (fileLines style file) ++ style.newline

end MockScaffold.Layout
