import MockScaffold.Proofs.Decl.Growth

namespace MockScaffold

def Primitive.isNumeric (p : Primitive) : Bool :=
  p.isIntegral || p == .float || p == .double

namespace FieldDecl

/-- The field without its initializer, if that is a number. -/
def withoutNumber (f : FieldDecl) : FieldDecl :=
  if f.type.primitive?.any (·.isNumeric) then { f with initializer := none } else f

@[simp] theorem withoutNumber_name (f : FieldDecl) : f.withoutNumber.name = f.name := by
  unfold withoutNumber
  split <;> rfl

@[simp] theorem withoutNumber_annotations (f : FieldDecl) :
    f.withoutNumber.annotations = f.annotations := by
  unfold withoutNumber
  split <;> rfl

end FieldDecl

namespace ClassDecl

mutual

/-- The class without the numbers in its fields, at every level. -/
def withoutNumbers (c : ClassDecl) : ClassDecl :=
  match c with
  | { innerClasses, .. } =>
    { c with
      fields := c.fields.map (·.withoutNumber)
      innerClasses := withoutNumbersAll innerClasses }

def withoutNumbersAll : List ClassDecl → List ClassDecl
  | [] => []
  | c :: cs => withoutNumbers c :: withoutNumbersAll cs

end

mutual

/-- The class without the numbers in the fields that it has more than `old` has, at every level,
where nested classes are compared with those in their places. -/
def withoutNewNumbers (old c : ClassDecl) : ClassDecl :=
  match c with
  | { innerClasses, .. } =>
    { c with
      fields := c.fields.take old.fields.length ++
        (c.fields.drop old.fields.length).map (·.withoutNumber)
      innerClasses := withoutNewNumbersAll old.innerClasses innerClasses }

def withoutNewNumbersAll (olds : List ClassDecl) : List ClassDecl → List ClassDecl
  | [] => []
  | c :: cs =>
    match olds with
    | [] => withoutNumbers c :: withoutNewNumbersAll [] cs
    | old :: olds => withoutNewNumbers old c :: withoutNewNumbersAll olds cs

end

theorem withoutNumbersAll_eq_map (cs : List ClassDecl) :
    withoutNumbersAll cs = cs.map withoutNumbers := by
  induction cs with
  | nil => rfl
  | cons c cs ih => rw [withoutNumbersAll, ih, List.map_cons]

theorem withoutNumbers_eq (c : ClassDecl) :
    c.withoutNumbers =
      { c with
        fields := c.fields.map (·.withoutNumber)
        innerClasses := c.innerClasses.map withoutNumbers } := by
  rw [← withoutNumbersAll_eq_map]
  cases c
  rfl

theorem withoutNewNumbersAll_nil (cs : List ClassDecl) :
    withoutNewNumbersAll [] cs = cs.map withoutNumbers := by
  induction cs with
  | nil => rfl
  | cons c cs ih => rw [withoutNewNumbersAll, ih, List.map_cons]

/-- What is neither a field nor a nested class is as without any numbers. -/
theorem withoutNewNumbers_eq (old c : ClassDecl) :
    withoutNewNumbers old c =
      { c.withoutNumbers with
        fields := c.fields.take old.fields.length ++
          (c.fields.drop old.fields.length).map (·.withoutNumber)
        innerClasses := withoutNewNumbersAll old.innerClasses c.innerClasses } := by
  cases c
  rfl

section WithoutNumbers

variable (c : ClassDecl)

@[simp] theorem withoutNumbers_name : c.withoutNumbers.name = c.name := by
  rw [withoutNumbers_eq]

@[simp] theorem withoutNumbers_qualifiedName :
    c.withoutNumbers.qualifiedName = c.qualifiedName := by
  rw [withoutNumbers_eq]

@[simp] theorem withoutNumbers_annotations : c.withoutNumbers.annotations = c.annotations := by
  rw [withoutNumbers_eq]

@[simp] theorem withoutNumbers_fields :
    c.withoutNumbers.fields = c.fields.map (·.withoutNumber) := by
  rw [withoutNumbers_eq]

@[simp] theorem withoutNumbers_methods : c.withoutNumbers.methods = c.methods := by
  rw [withoutNumbers_eq]

@[simp] theorem withoutNumbers_innerClasses :
    c.withoutNumbers.innerClasses = c.innerClasses.map withoutNumbers := by
  rw [withoutNumbers_eq]

theorem withoutNumbers_withFields (added : List FieldDecl) :
    (c.withFields added).withoutNumbers =
      c.withoutNumbers.withFields (added.map (·.withoutNumber)) := by
  simp [withoutNumbers_eq, withFields]

theorem withoutNumbers_withInnerClasses (inner : List ClassDecl) :
    (c.withInnerClasses inner).withoutNumbers =
      c.withoutNumbers.withInnerClasses (inner.map withoutNumbers) := by
  simp [withoutNumbers_eq, withInnerClasses]

end WithoutNumbers

theorem find?_map_withoutNumbers (name : String) (cs : List ClassDecl) :
    (cs.map withoutNumbers).find? (·.name == name) =
      (cs.find? (·.name == name)).map withoutNumbers := by
  simp [List.find?_map, Function.comp_def]

mutual

theorem walk_withoutNumbers : ∀ c : ClassDecl,
    c.withoutNumbers.walk = c.walk.map withoutNumbers
  | { innerClasses, .. } => by
    rw [withoutNumbers, walk, walkAll_withoutNumbersAll innerClasses, walk, List.map_cons]
    rfl

theorem walkAll_withoutNumbersAll : ∀ cs : List ClassDecl,
    walkAll (withoutNumbersAll cs) = (walkAll cs).map withoutNumbers
  | [] => rfl
  | c :: cs => by
    rw [withoutNumbersAll, walkAll, walk_withoutNumbers c, walkAll_withoutNumbersAll cs, walkAll,
      List.map_append]

end

/-- The same but for numbers that fields start with. -/
def Alike (c d : ClassDecl) : Prop :=
  c.withoutNumbers = d.withoutNumbers

namespace Alike

variable {c d : ClassDecl}

theorem qualifiedName (h : c.Alike d) : c.qualifiedName = d.qualifiedName := by
  simpa using congrArg ClassDecl.qualifiedName h

theorem name (h : c.Alike d) : c.name = d.name := by
  simpa using congrArg ClassDecl.name h

theorem annotations (h : c.Alike d) : c.annotations = d.annotations := by
  simpa using congrArg ClassDecl.annotations h

theorem fields (h : c.Alike d) :
    c.fields.map (·.withoutNumber) = d.fields.map (·.withoutNumber) := by
  simpa using congrArg ClassDecl.fields h

theorem innerClasses (h : c.Alike d) :
    c.innerClasses.map withoutNumbers = d.innerClasses.map withoutNumbers := by
  simpa using congrArg ClassDecl.innerClasses h

theorem fieldNames (h : c.Alike d) : c.fieldNames = d.fieldNames := by
  simpa [ClassDecl.fieldNames, Function.comp_def] using congrArg ClassDecl.fieldNames h

theorem isMarkedWith (h : c.Alike d) (qualified : String) :
    c.isMarkedWith qualified = d.isMarkedWith qualified := by
  rw [ClassDecl.isMarkedWith, h.annotations, ClassDecl.isMarkedWith]

theorem withAnnotations (h : c.Alike d) (annotations : List AnnotationUse) :
    { c with annotations }.Alike { d with annotations } := by
  have hboth := congrArg (fun e : ClassDecl => { e with annotations }) h
  simpa only [Alike, withoutNumbers_eq] using hboth

theorem withFields (h : c.Alike d) {added added' : List FieldDecl}
    (hadded : added.map (·.withoutNumber) = added'.map (·.withoutNumber)) :
    (c.withFields added).Alike (d.withFields added') := by
  rw [Alike, withoutNumbers_withFields, withoutNumbers_withFields, hadded]
  exact congrArg (ClassDecl.withFields · _) h

theorem withInnerClasses (h : c.Alike d) {cs ds : List ClassDecl}
    (hinner : cs.map withoutNumbers = ds.map withoutNumbers) :
    (c.withInnerClasses cs).Alike (d.withInnerClasses ds) := by
  rw [Alike, withoutNumbers_withInnerClasses, withoutNumbers_withInnerClasses, hinner]
  exact congrArg (ClassDecl.withInnerClasses · _) h

end Alike

section Growth

variable {c d d' : ClassDecl}

/-- Of two alike results of growth the fields that were there before are the same. -/
theorem map_drop_withoutNumber {fields ds ds' : List FieldDecl} (h : fields <+: ds)
    (h' : fields <+: ds')
    (heq : ds.map (·.withoutNumber) = ds'.map (·.withoutNumber)) :
    ds.take fields.length ++ (ds.drop fields.length).map (·.withoutNumber) =
      ds'.take fields.length ++ (ds'.drop fields.length).map (·.withoutNumber) := by
  obtain ⟨added, rfl⟩ := h
  obtain ⟨added', rfl⟩ := h'
  rw [List.map_append, List.map_append, List.append_cancel_left_eq] at heq
  rw [List.take_left, List.take_left, List.drop_left, List.drop_left, heq]

theorem withoutNewNumbers_withFields (c : ClassDecl) (added : List FieldDecl) :
    withoutNewNumbers c (c.withFields added) =
      { c with
        fields := c.fields ++ added.map (·.withoutNumber)
        innerClasses := withoutNewNumbersAll c.innerClasses c.innerClasses } := by
  rw [withoutNewNumbers_eq, withoutNumbers_withFields]
  simp [withoutNumbers_eq, withFields]

theorem NestedGrowth.withoutNewNumbersAll_eq {cs ds ds' : List ClassDecl}
    (h : NestedGrowth cs ds) (h' : NestedGrowth cs ds')
    (heq : ds.map withoutNumbers = ds'.map withoutNumbers) :
    withoutNewNumbersAll cs ds = withoutNewNumbersAll cs ds' := by
  induction h generalizing ds' with
  | new added => rw [withoutNewNumbersAll_nil, withoutNewNumbersAll_nil, heq]
  | kept c added _ ih =>
    cases h' with
    | kept _ added' h' =>
      rw [List.map_cons, List.map_cons, List.cons.injEq, withoutNumbers_withFields,
        withoutNumbers_withFields] at heq
      have hadded := congrArg ClassDecl.fields heq.1
      rw [withFields_fields, withFields_fields, List.append_cancel_left_eq] at hadded
      rw [withoutNewNumbersAll, withoutNewNumbersAll, withoutNewNumbers_withFields,
        withoutNewNumbers_withFields, hadded, ih h' heq.2]

/-- What one class has grown into in two ways, alike but for numbers, differs only in numbers of
fields that it did not have. -/
theorem Grows.withoutNewNumbers_eq (h : c.Grows d) (h' : c.Grows d') (halike : d.Alike d') :
    withoutNewNumbers c d = withoutNewNumbers c d' := by
  have hfields := map_drop_withoutNumber h.fields h'.fields halike.fields
  have hinner := h.innerClasses.withoutNewNumbersAll_eq h'.innerClasses halike.innerClasses
  rw [Alike] at halike
  rw [ClassDecl.withoutNewNumbers_eq, ClassDecl.withoutNewNumbers_eq, hfields, hinner, halike]

end Growth

end ClassDecl

end MockScaffold
