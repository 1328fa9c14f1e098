import MockScaffold.Decl.Class
import MockScaffold.Decl.Lombok

namespace MockScaffold

inductive Scope where
  | all
  | project
  deriving DecidableEq, Repr

inductive Provenance where
  | project
  | library
  deriving DecidableEq, Repr

structure IndexEntry where
  decl : ClassDecl
  provenance : Provenance
  deriving Repr

/-- At most one entry stands under a name. -/
structure ClassIndex where
  entries : List IndexEntry := []
  deriving Repr

namespace ClassIndex

def entry? (index : ClassIndex) (name : String) : Option IndexEntry :=
  index.entries.find? (·.decl.qualifiedName == name)

def find? (index : ClassIndex) (name : String) (scope : Scope) : Option ClassDecl :=
  match index.entry? name with
  | some entry =>
    if scope == .project && entry.provenance == .library then none else some entry.decl
  | none => none

def size (index : ClassIndex) : Nat :=
  index.entries.length

def resolve? (index : ClassIndex) (type : TypeRef) (scope : Scope) : Option ClassDecl :=
  type.className?.bind (index.find? · scope)

def put (index : ClassIndex) (entry : IndexEntry) : ClassIndex :=
  let name := entry.decl.qualifiedName
  ⟨entry :: index.entries.filter (·.decl.qualifiedName != name)⟩

/-- A library class is dropped if the project has a class of its name. -/
def offer (index : ClassIndex) (entry : IndexEntry) : ClassIndex :=
  if entry.provenance == .library &&
      (index.find? entry.decl.qualifiedName .project).isSome then index
  else index.put entry

mutual

/-- The nested classes go in before their owner. -/
def insert (index : ClassIndex) (provenance : Provenance) (c : ClassDecl) : ClassIndex :=
  match c with
  | { innerClasses, .. } => (insertAll index provenance innerClasses).offer ⟨c, provenance⟩

def insertAll (index : ClassIndex) (provenance : Provenance) : List ClassDecl → ClassIndex
  | [] => index
  | c :: cs => insertAll (insert index provenance c) provenance cs

end

def addProjectClass (index : ClassIndex) (c : ClassDecl) : ClassIndex :=
  index.insert .project c

def addLibraryClass (index : ClassIndex) (c : ClassDecl) : ClassIndex :=
  index.insert .library c

def extend (index : ClassIndex) (model : ProjectModel) (lombok : Bool) : ClassIndex :=
  let classes := if lombok then Lombok.expandAll model.classes else model.classes
  (index.insertAll .library model.libraries).insertAll .project classes

def ofProject (model : ProjectModel) (lombok : Bool) : ClassIndex :=
  extend {} model lombok

end ClassIndex

end MockScaffold

namespace MockScaffold.ClassIndex

variable {index : ClassIndex} {name : String} {scope : Scope} {c : ClassDecl}

theorem find?_eq_some (h : index.find? name scope = some c) :
    ∃ entry, index.entry? name = some entry ∧ entry.decl = c := by
  unfold find? at h
  split at h
  · rename_i entry hentry
    split at h
    · cases h
    · exact ⟨entry, hentry, Option.some.inj h⟩
  · cases h

theorem mem_of_find? (h : index.find? name scope = some c) :
    ∃ entry ∈ index.entries, entry.decl = c := by
  obtain ⟨entry, hentry, rfl⟩ := find?_eq_some h
  exact ⟨entry, List.mem_of_find?_eq_some hentry, rfl⟩

theorem qualifiedName_of_find? (h : index.find? name scope = some c) :
    c.qualifiedName = name := by
  obtain ⟨entry, hentry, rfl⟩ := find?_eq_some h
  unfold entry? at hentry
  have hname := List.find?_some hentry
  exact eq_of_beq hname

end MockScaffold.ClassIndex
