import MockScaffold.Decl.Validity
import MockScaffold.Json.Parser
import MockScaffold.Model.Decoding

namespace MockScaffold

inductive LoadFault where
  | unreadable
  | malformed
  | invalidClass (fault : ClassFault)
  deriving DecidableEq, Repr

def loadModel (ofJson? : Json → Option α) (classes : α → List ClassDecl) (content : Option String) :
    Except LoadFault α :=
  match content with
  | none => .error .unreadable
  | some text =>
    match (Json.parse? text).bind ofJson? with
    | none => .error .malformed
    | some model =>
      match ClassDecl.firstFault? (classes model) with
      | some fault => .error (.invalidClass fault)
      | none => .ok model

def SourceFile.load (content : Option String) : Except LoadFault SourceFile :=
  loadModel SourceFile.ofJson? (·.classes) content

def ProjectModel.load (content : Option String) : Except LoadFault ProjectModel :=
  loadModel ProjectModel.ofJson? (fun p => p.classes ++ p.libraries) content

end MockScaffold
