import MockScaffold.Index.Hierarchy
import MockScaffold.Scaffold.Imports
import MockScaffold.Text.Affix

namespace MockScaffold.Scaffold

/-- A value is stood for by a constant, a collection by a field for its elements, and what can be
mocked by a mock; for an unsupported type there is no field. -/
inductive Category where
  | value
  | collection (element : Option TypeRef)
  | mockable
  | unsupported
  deriving Repr

def valueClasses : List String :=
  [Known.uuid, Known.string, Known.instant, Known.zonedDateTime]

def collectionClasses : List String :=
  [Known.list, Known.set]

def isValueType (index : ClassIndex) (type : TypeRef) : Bool :=
  type.isPrimitive || index.isEnumType type || valueClasses.contains type.canonical

/-- Told by the beginning of the text, so that type arguments do not matter. -/
def isCollectionText (text : String) : Bool :=
  collectionClasses.any (Text.startsWith text)

def isCollection (index : ClassIndex) (type : TypeRef) : Bool :=
  isCollectionText type.canonical || (index.superTypeTexts type).any isCollectionText

def element? (index : ClassIndex) (type : TypeRef) : Option TypeRef :=
  type.firstArg?.or <|
    (index.resolve? type .all).bind fun c =>
      (c.superTypes.filter fun s => s.className?.any collectionClasses.contains).findSome?
        (·.firstArg?)

/-- A type that the index cannot resolve counts as open. -/
def isOpen (index : ClassIndex) (type : TypeRef) : Bool :=
  match index.resolve? type .all with
  | some c => !c.modifiers.isFinal
  | none => true

def classify (index : ClassIndex) (type : TypeRef) : Category :=
  if isValueType index type then .value
  else if isCollection index type then .collection (element? index type)
  else if isOpen index type then .mockable
  else .unsupported

variable {index : ClassIndex} {type : TypeRef}

theorem classify_eq_value_iff : classify index type = .value ↔ isValueType index type = true := by
  unfold classify
  cases isValueType index type with
  | true => simp
  | false => cases isCollection index type <;> cases isOpen index type <;> simp

theorem classify_eq_collection_iff {element : Option TypeRef} :
    classify index type = .collection element ↔
      isValueType index type = false ∧ isCollection index type = true ∧
        element? index type = element := by
  unfold classify
  cases isValueType index type with
  | true => simp
  | false => cases isCollection index type <;> cases isOpen index type <;> simp

theorem classify_eq_mockable_iff :
    classify index type = .mockable ↔
      isValueType index type = false ∧ isCollection index type = false ∧
        isOpen index type = true := by
  unfold classify
  cases isValueType index type with
  | true => simp
  | false => cases isCollection index type <;> cases isOpen index type <;> simp

/-- The element type is the first type argument or, without arguments, that of a super type `List`
or `Set`. -/
theorem element?_cases {element : TypeRef} (h : element? index type = some element) :
    type.firstArg? = some element ∨
      type.firstArg? = none ∧ ∃ c, index.resolve? type .all = some c ∧
        ∃ s ∈ c.superTypes, s.className?.any collectionClasses.contains = true ∧
          s.firstArg? = some element := by
  rcases Option.or_eq_some_iff.mp h with hown | ⟨hnone, hsuper⟩
  · exact .inl hown
  · obtain ⟨c, hc, hfound⟩ := Option.bind_eq_some_iff.mp hsuper
    obtain ⟨s, hs, hfirst⟩ := List.exists_of_findSome?_eq_some hfound
    obtain ⟨hs, hcollection⟩ := List.mem_filter.mp hs
    exact .inr ⟨hnone, c, hc, s, hs, hcollection, hfirst⟩

theorem isOpen_iff : isOpen index type = true ↔
    ∀ c, index.resolve? type .all = some c → c.modifiers.isFinal = false := by
  unfold isOpen
  cases index.resolve? type .all with
  | none => simp
  | some c => simp

theorem isValueType_eq_false_iff : isValueType index type = false ↔
    type.isPrimitive = false ∧ index.isEnumType type = false ∧ type.canonical ∉ valueClasses := by
  simp [isValueType, and_assoc]

end MockScaffold.Scaffold
