import MockScaffold.Proofs.Scaffold.Plan

namespace MockScaffold.Scaffold

open Seeded (WordStream)

/-- No value, and no class that is known to be final. -/
structure IsMockable (index : ClassIndex) (type : TypeRef) : Prop where
  notPrimitive : type.isPrimitive = false
  notEnum : index.isEnumType type = false
  notValueClass : type.canonical ∉ valueClasses
  notFinal : ∀ c, index.resolve? type .all = some c → c.modifiers.isFinal = false

section

variable {index : ClassIndex} {placement : Placement} {v : Variable} {p : PlannedField}

theorem isMockable_iff {type : TypeRef} :
    IsMockable index type ↔ isValueType index type = false ∧ isOpen index type = true := by
  rw [isValueType_eq_false_iff, isOpen_iff]
  constructor
  · exact fun h => ⟨⟨h.notPrimitive, h.notEnum, h.notValueClass⟩, h.notFinal⟩
  · rintro ⟨⟨hprimitive, henum, hclass⟩, hfinal⟩
    exact ⟨hprimitive, henum, hclass, hfinal⟩

theorem kind_of_isMarkedWith {stream : WordStream}
    (h : (p.declare index placement stream).1.isMarkedWith Known.mock = true) : p.kind = .mock := by
  cases hkind : p.kind with
  | mock => rfl
  | constant =>
    unfold PlannedField.declare at h
    rw [hkind] at h
    cases h

/-- A mock is planned either for the type of a variable that is no collection, or for the element
type of one that is. -/
theorem isMockable_of_planned? (h : planned? index v = some p) (hkind : p.kind = .mock) :
    IsMockable index p.type ∧ v.isStatic = false ∧
      (p.type = v.type ∧ isCollection index v.type = false ∨
        isCollection index v.type = true ∧ element? index v.type = some p.type) := by
  obtain ⟨hstatic, hstands⟩ := standsFor_of_planned? h
  cases hstands with
  | value | elementValue => cases hkind
  | mock hvalue hcollection hopen =>
    exact ⟨isMockable_iff.mpr ⟨hvalue, hopen⟩, hstatic, .inl ⟨rfl, hcollection⟩⟩
  | elementMock hcollection helement hvalue hopen =>
    exact ⟨isMockable_iff.mpr ⟨hvalue, hopen⟩, hstatic, .inr ⟨hcollection, helement⟩⟩

end

/-- Every mock that is added has a type that can be mocked as far as the index knows, that of a
variable that is no collection or else the element type of one that is. -/
theorem isMockable_of_insertMissing (index : ClassIndex) (placement : Placement) (draft : Draft)
    (vars : List Variable) :
    ∀ f ∈ (draft.insertMissing index placement vars).target.fields.drop draft.target.fields.length,
      f.isMarkedWith Known.mock = true →
        IsMockable index f.type ∧ ∃ v ∈ vars, v.isStatic = false ∧
          (f.type = v.type ∧ isCollection index v.type = false ∨
            isCollection index v.type = true ∧ element? index v.type = some f.type) := by
  intro f hf hmock
  rw [Draft.drop_insertMissing] at hf
  obtain ⟨v, hv, p, hplanned, s, rfl⟩ := exists_planned_of_mem hf
  rw [PlannedField.declare_type]
  obtain ⟨hmockable, hsource⟩ := isMockable_of_planned? hplanned (kind_of_isMarkedWith hmock)
  exact ⟨hmockable, v, hv, hsource⟩

/-- A class that can be mocked. -/
def orderIndex : ClassIndex :=
  ⟨[⟨.ofQualifiedName "shop.Order", .project⟩]⟩

def orderDraft : Draft where
  header := {}
  target := .ofQualifiedName "shop.CartTest"
  taken := []
  stream := .ofSeed 1

def orderVariables : List Variable :=
  [{ name := "batches"
     type := .named Known.list [.named Known.list [.ofClass "shop.Order"]] },
    { name := "orders", type := .array (.ofClass "shop.Order") }]

/-- The mock of the list that is an element of the other, and the mock of the array. -/
def orderMocks : List FieldDecl :=
  [{ name := "list"
     type := .named Known.list [.ofClass "shop.Order"]
     modifiers := { visibility := .privateAccess }
     annotations := [{ name := Known.mock }] },
    { name := "orders"
      type := .array (.ofClass "shop.Order")
      modifiers := { visibility := .privateAccess }
      annotations := [{ name := Known.mock }] }]

theorem fields_orderDraft :
    (orderDraft.insertMissing orderIndex .topLevel orderVariables).target.fields = orderMocks :=
  rfl

/-- The list is mocked as an element, though it is a collection itself. -/
theorem isMockable_of_insertMissing_list :
    ∃ f ∈ (orderDraft.insertMissing orderIndex .topLevel orderVariables).target.fields.drop
        orderDraft.target.fields.length,
      f.isMarkedWith Known.mock = true ∧ isCollection orderIndex f.type = true ∧
        IsMockable orderIndex f.type ∧ ∃ v ∈ orderVariables, v.isStatic = false ∧
          (f.type = v.type ∧ isCollection orderIndex v.type = false ∨
            isCollection orderIndex v.type = true ∧
              element? orderIndex v.type = some f.type) := by
  have hmem : orderMocks[0] ∈ (orderDraft.insertMissing orderIndex .topLevel
      orderVariables).target.fields.drop orderDraft.target.fields.length := by
    rw [fields_orderDraft]
    exact List.mem_cons_self
  refine ⟨orderMocks[0], hmem, by decide, by decide, ?_⟩
  exact isMockable_of_insertMissing orderIndex .topLevel orderDraft orderVariables _ hmem
    (by decide)

/-- The array is mocked, which is no class. -/
theorem not_forall_mock_of_class :
    ¬∀ (index : ClassIndex) (placement : Placement) (draft : Draft) (vars : List Variable),
        ∀ f ∈ (draft.insertMissing index placement vars).target.fields.drop
            draft.target.fields.length,
          f.isMarkedWith Known.mock = true →
            (∃ name args, f.type = .named name args) ∧ isCollection index f.type = false ∧
              IsMockable index f.type := by
  intro hall
  obtain ⟨⟨name, args, hclass⟩, -⟩ := hall orderIndex .topLevel orderDraft orderVariables
    orderMocks[1] (by rw [fields_orderDraft]; exact List.mem_of_getElem? (i := 1) rfl) (by decide)
  cases hclass

end MockScaffold.Scaffold
