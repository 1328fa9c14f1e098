import MockScaffold.Decl.Class

namespace MockScaffold.ClassDecl

/-- The class with further fields after its own. -/
def withFields (c : ClassDecl) (added : List FieldDecl) : ClassDecl :=
  { c with fields := c.fields ++ added }

theorem withFields_nil (c : ClassDecl) : c.withFields [] = c := by
  cases c
  simp [withFields]

theorem withFields_withFields (c : ClassDecl) (added added' : List FieldDecl) :
    (c.withFields added).withFields added' = c.withFields (added ++ added') := by
  simp [withFields]

@[simp] theorem withFields_name (c : ClassDecl) (added : List FieldDecl) :
    (c.withFields added).name = c.name :=
  rfl

@[simp] theorem withFields_qualifiedName (c : ClassDecl) (added : List FieldDecl) :
    (c.withFields added).qualifiedName = c.qualifiedName :=
  rfl

@[simp] theorem withFields_fields (c : ClassDecl) (added : List FieldDecl) :
    (c.withFields added).fields = c.fields ++ added :=
  rfl

@[simp] theorem withFields_innerClasses (c : ClassDecl) (added : List FieldDecl) :
    (c.withFields added).innerClasses = c.innerClasses :=
  rfl

@[simp] theorem withFields_fieldNames (c : ClassDecl) (added : List FieldDecl) :
    (c.withFields added).fieldNames = c.fieldNames ++ added.map (·.name) := by
  simp [fieldNames]

/-- The class with these nested classes in place of its own. -/
def withInnerClasses (c : ClassDecl) (inner : List ClassDecl) : ClassDecl :=
  { c with innerClasses := inner }

theorem withInnerClasses_self (c : ClassDecl) : c.withInnerClasses c.innerClasses = c := by
  cases c
  rfl

/-- The old classes keep their places, each with at most fields added at its end; new classes come
after them. -/
inductive NestedGrowth : List ClassDecl → List ClassDecl → Prop
  | new (added : List ClassDecl) : NestedGrowth [] added
  | kept (c : ClassDecl) (added : List FieldDecl) {cs ds : List ClassDecl} :
      NestedGrowth cs ds → NestedGrowth (c :: cs) (c.withFields added :: ds)

namespace NestedGrowth

theorem append (cs added : List ClassDecl) : NestedGrowth cs (cs ++ added) := by
  induction cs with
  | nil => exact new added
  | cons c cs ih =>
    have h := kept c [] ih
    rwa [withFields_nil] at h

theorem refl (cs : List ClassDecl) : NestedGrowth cs cs := by
  have h := append cs []
  rwa [List.append_nil] at h

theorem trans {cs ds es : List ClassDecl} (h : NestedGrowth cs ds) (h' : NestedGrowth ds es) :
    NestedGrowth cs es := by
  induction h generalizing es with
  | new added => exact new es
  | kept c added _ ih =>
    cases h' with
    | kept _ added' h' =>
      rw [withFields_withFields]
      exact kept c (added ++ added') (ih h')

/-- The first class of a name stays the first, with at most further fields. -/
theorem find? {cs ds : List ClassDecl} (h : NestedGrowth cs ds) {name : String} {c : ClassDecl}
    (hc : cs.find? (·.name == name) = some c) :
    ∃ added, ds.find? (·.name == name) = some (c.withFields added) := by
  induction h with
  | new added => cases hc
  | kept d added _ ih =>
    rw [List.find?_cons] at hc ⊢
    rw [withFields_name]
    split at hc
    · cases hc
      exact ⟨added, rfl⟩
    · exact ih hc

end NestedGrowth

/-- Annotations, fields and nested classes are added, and all else is as it was. -/
structure Grows (c d : ClassDecl) : Prop where
  name : d.name = c.name
  qualifiedName : d.qualifiedName = c.qualifiedName
  kind : d.kind = c.kind
  modifiers : d.modifiers = c.modifiers
  annotations : c.annotations <+: d.annotations
  superTypes : d.superTypes = c.superTypes
  enumConstants : d.enumConstants = c.enumConstants
  fields : c.fields <+: d.fields
  methods : d.methods = c.methods
  innerClasses : NestedGrowth c.innerClasses d.innerClasses

namespace Grows

theorem refl (c : ClassDecl) : c.Grows c :=
  ⟨rfl, rfl, rfl, rfl, List.prefix_refl _, rfl, rfl, List.prefix_refl _, rfl, .refl _⟩

theorem trans {c d e : ClassDecl} (h : c.Grows d) (h' : d.Grows e) : c.Grows e where
  name := h'.name.trans h.name
  qualifiedName := h'.qualifiedName.trans h.qualifiedName
  kind := h'.kind.trans h.kind
  modifiers := h'.modifiers.trans h.modifiers
  annotations := h.annotations.trans h'.annotations
  superTypes := h'.superTypes.trans h.superTypes
  enumConstants := h'.enumConstants.trans h.enumConstants
  fields := h.fields.trans h'.fields
  methods := h'.methods.trans h.methods
  innerClasses := h.innerClasses.trans h'.innerClasses

theorem addAnnotations (c : ClassDecl) (added : List AnnotationUse) :
    c.Grows { c with annotations := c.annotations ++ added } :=
  { refl c with annotations := List.prefix_append _ _ }

theorem addFields (c : ClassDecl) (added : List FieldDecl) : c.Grows (c.withFields added) :=
  { refl c with fields := List.prefix_append _ _ }

theorem nested {c : ClassDecl} {ds : List ClassDecl} (h : NestedGrowth c.innerClasses ds) :
    c.Grows (c.withInnerClasses ds) :=
  { refl c with innerClasses := h }

variable {c d : ClassDecl}

theorem isMarkedWith (h : c.Grows d) {qualified : String}
    (hc : c.isMarkedWith qualified = true) : d.isMarkedWith qualified = true := by
  rw [ClassDecl.isMarkedWith, List.any_eq_true] at hc ⊢
  obtain ⟨use, huse, hdenotes⟩ := hc
  exact ⟨use, h.annotations.subset huse, hdenotes⟩

theorem fieldNames_subset (h : c.Grows d) : c.fieldNames ⊆ d.fieldNames :=
  List.map_subset _ h.fields.subset

end Grows

theorem hasField_iff {c : ClassDecl} {name : String} :
    c.hasField name = true ↔ name ∈ c.fieldNames := by
  simp [hasField, fieldNames]

section InnerClass

variable {c inner : ClassDecl} {name : String}

theorem mem_of_innerClass? (h : c.innerClass? name = some inner) : inner ∈ c.innerClasses :=
  List.mem_of_find?_eq_some h

theorem name_of_innerClass? (h : c.innerClass? name = some inner) : inner.name = name := by
  unfold innerClass? at h
  have hname := List.find?_some h
  exact eq_of_beq hname

theorem exists_innerClass? (h : name ∈ c.innerClasses.map (·.name)) :
    ∃ inner, c.innerClass? name = some inner := by
  obtain ⟨inner, hinner, rfl⟩ := List.mem_map.mp h
  rw [innerClass?, ← Option.isSome_iff_exists, List.find?_isSome]
  exact ⟨inner, hinner, beq_self_eq_true _⟩

end InnerClass

end MockScaffold.ClassDecl
