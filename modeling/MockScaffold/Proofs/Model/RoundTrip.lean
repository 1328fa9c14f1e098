import MockScaffold.Proofs.Json.Record
import MockScaffold.Proofs.Model.Encoding
import MockScaffold.Proofs.Model.Written

namespace MockScaffold

open Json (Restores required? withDefault? optional? list? listMember optionMember cut)

theorem TypeRef.restores : Restores TypeRef.toJson TypeRef.ofJson? TypeRef.IsWritten := by
  intro levels t ht
  have hread : TypeRef.ofJson? ((TypeRef.toJson t).cut levels) = (parse t.canonical).toOption :=
    rfl
  rw [hread, parse_canonical ht]
  exact (if_pos (Nat.zero_le levels)).symm

theorem Visibility.restores :
    Restores (fun v : Visibility => .string v.word) (Json.constant? Visibility.ofWord?)
      fun _ => True := by
  intro levels v _
  have hread : Json.constant? Visibility.ofWord? (.string v.word) = some v := by
    cases v <;> rfl
  exact hread.trans (if_pos (Nat.zero_le levels)).symm

theorem ClassKind.restores :
    Restores (fun k : ClassKind => .string k.word) (Json.constant? ClassKind.ofWord?)
      fun _ => True := by
  intro levels k _
  have hread : Json.constant? ClassKind.ofWord? (.string k.word) = some k := by
    cases k <;> rfl
  exact hread.trans (if_pos (Nat.zero_le levels)).symm

theorem Modifiers.restores : Restores Modifiers.toJson Modifiers.ofJson? fun _ => True := by
  intro levels m _
  cases levels with
  | zero => rfl
  | succ levels =>
    have hdepth : m.toJson.depth = 1 := by
      simp [Modifiers.toJson, Json.depth, Json.depthMembers]
    have hread : Modifiers.ofJson? (m.toJson.cut (levels + 1)) = some m := by
      obtain ⟨visibility, isStatic, isFinal, isAbstract⟩ := m
      cases visibility <;> rfl
    rw [hread, hdepth, if_pos (Nat.le_add_left 1 levels)]

theorem AnnotationUse.restores :
    Restores AnnotationUse.toJson AnnotationUse.ofJson? fun _ => True := by
  refine Json.restores_record (by decide) (fun use => ?_) fun levels use _ => ?_
  · exact (List.Sublist.refl ["name"]).append (Json.keys_optionMember _ _)
  · generalize hms : ("name", Json.string use.name) ::
      optionMember "argument" (use.argument.map .string) = ms
    have hname := Json.restores_string.required ms "name" levels use.name trivial
      (by simp [← hms])
    have hargument := Json.restores_string.optionMember ms "argument"
      (fun _ _ h => by cases h) levels use.argument (fun _ _ => trivial)
      (by simp [← hms, List.lookup_cons])
    simp only [bind, hname, hargument, Json.bind_ite, Json.ite_ite]
    simp only [← hms, Json.depthMembers, Nat.max_le]

theorem MemberOrigin.restores :
    Restores MemberOrigin.toJson MemberOrigin.ofJson? fun _ => True := by
  intro levels origin _
  cases levels with
  | zero => cases origin <;> rfl
  | succ levels =>
    have hdepth : origin.toJson.depth = 1 := by
      cases origin <;> simp [MemberOrigin.toJson, Json.depth, Json.depthMembers]
    have hread : MemberOrigin.ofJson? (origin.toJson.cut (levels + 1)) = some origin := by
      cases origin <;> rfl
    rw [hread, hdepth, if_pos (Nat.le_add_left 1 levels)]

theorem Parameter.restores :
    Restores Parameter.toJson Parameter.ofJson? fun p => p.type.IsWritten := by
  refine Json.restores_record (by decide) (fun p => ?_) fun levels p hp => ?_
  · exact List.Sublist.refl ["name", "type"]
  generalize hms : [("name", Json.string p.name), ("type", p.type.toJson)] = ms
  have hname := Json.restores_string.required ms "name" levels p.name trivial (by simp [← hms])
  have htype := TypeRef.restores.required ms "type" levels p.type hp
    (by simp [← hms, List.lookup_cons])
  simp only [bind, hname, htype, Json.bind_ite, Json.ite_ite]
  simp [← hms, Json.depthMembers, Nat.max_le]

theorem FieldDecl.restores :
    Restores FieldDecl.toJson FieldDecl.ofJson? fun f => f.type.IsWritten := by
  refine Json.restores_record (by decide) (fun f => ?_) fun levels f hf => ?_
  · simp only [List.map_append]
    exact ((List.Sublist.refl ["name", "type", "modifiers"]).append
      (Json.keys_listMember _ _)).append (Json.keys_optionMember _ _)
  · generalize hms : [("name", Json.string f.name), ("type", f.type.toJson),
      ("modifiers", f.modifiers.toJson)] ++
        listMember "annotations" (f.annotations.map (·.toJson)) ++
        optionMember "initializer" (f.initializer.map .string) = ms
    have hname := Json.restores_string.required ms "name" levels f.name trivial
      (by simp [← hms])
    have htype := TypeRef.restores.required ms "type" levels f.type hf
      (by simp [← hms, List.lookup_cons])
    have hmodifiers := Modifiers.restores.withDefault ms "modifiers" levels {} f.modifiers trivial
      (by simp [← hms, List.lookup_cons])
    have hannotations := AnnotationUse.restores.listMember ms "annotations" levels f.annotations
      (fun _ _ => trivial) (by simp [← hms, List.lookup_cons, List.lookup_append])
    have hinitializer := Json.restores_string.optionMember ms "initializer"
      (fun _ _ h => by cases h) levels f.initializer (fun _ _ => trivial)
      (by simp [← hms, List.lookup_cons, List.lookup_append])
    simp only [bind, hname, htype, hmodifiers, hannotations, hinitializer, Json.bind_ite,
      Json.ite_ite]
    simp [← hms, Json.depthMembers, Json.depthMembers_append, Nat.max_le]

theorem MethodDecl.restores :
    Restores MethodDecl.toJson MethodDecl.ofJson? MethodDecl.IsWritten := by
  refine Json.restores_record (by decide) (fun m => ?_) fun levels m hm => ?_
  · simp only [List.map_append]
    exact (((((List.Sublist.refl ["name", "modifiers"]).append (Json.keys_listMember _ _)).append
      (Json.keys_listMember _ _)).append (Json.keys_optionMember _ _)).append
      (List.Sublist.refl ["constructor", "origin"])).append (Json.keys_listMember _ _)
  · generalize hms : [("name", Json.string m.name), ("modifiers", m.modifiers.toJson)] ++
      listMember "annotations" (m.annotations.map (·.toJson)) ++
      listMember "params" (m.params.map (·.toJson)) ++
      optionMember "return_type" (m.returnType.map (·.toJson)) ++
      [("constructor", .bool m.isConstructor), ("origin", m.origin.toJson)] ++
      listMember "body" (m.body.map .string) = ms
    have hname := Json.restores_string.required ms "name" levels m.name trivial
      (by simp [← hms])
    have hmodifiers := Modifiers.restores.withDefault ms "modifiers" levels {} m.modifiers trivial
      (by simp [← hms, List.lookup_cons])
    have hannotations := AnnotationUse.restores.listMember ms "annotations" levels m.annotations
      (fun _ _ => trivial) (by simp [← hms, List.lookup_cons, List.lookup_append])
    have hparams := Parameter.restores.listMember ms "params" levels m.params hm.params
      (by simp [← hms, List.lookup_cons, List.lookup_append])
    have hreturnType := TypeRef.restores.optionMember ms "return_type"
      (fun _ _ h => by cases h) levels m.returnType hm.returnType
      (by simp [← hms, List.lookup_cons, List.lookup_append])
    have hconstructor := Json.restores_bool.withDefault ms "constructor" levels false
      m.isConstructor trivial (by simp [← hms, List.lookup_cons, List.lookup_append])
    have horigin := MemberOrigin.restores.withDefault ms "origin" levels .source m.origin trivial
      (by simp [← hms, List.lookup_cons, List.lookup_append])
    have hbody := Json.restores_string.listMember ms "body" levels m.body (fun _ _ => trivial)
      (by simp [← hms, List.lookup_cons, List.lookup_append])
    simp only [bind, hname, hmodifiers, hannotations, hparams, hreturnType, hconstructor, horigin,
      hbody, Json.bind_ite, Json.ite_ite]
    simp [← hms, Json.depthMembers, Json.depthMembers_append, Nat.max_le]

theorem ClassDecl.depth_lt_of_mem {c d : ClassDecl} (hd : d ∈ c.innerClasses) :
    d.toJson.depth < c.toJson.depth := by
  have hne : ¬(c.innerClasses.map (·.toJson)).isEmpty = true := by
    simp [List.ne_nil_of_mem hd]
  have hle : d.toJson.depth ≤ Json.depthAll (c.innerClasses.map (·.toJson)) :=
    Json.depthAll_le_iff.mp (Nat.le_refl _) _ (List.mem_map_of_mem hd)
  have hmember : Json.depthMembers (listMember "inner_classes" (c.innerClasses.map (·.toJson))) =
      Json.depthAll (c.innerClasses.map (·.toJson)) + 1 := by
    rw [listMember, if_neg hne]
    simp [Json.depthMembers, Json.depth]
  rw [c.toJson_eq, Json.depth, Json.depthMembers_append, hmember]
  omega

theorem ClassDecl.restoresWithin (bound : Nat) :
    Restores ClassDecl.toJson (ClassDecl.ofJsonWithin? bound)
      fun c => c.IsWritten ∧ c.toJson.depth ≤ bound := by
  induction bound with
  | zero =>
    intro levels c hc
    rw [c.toJson_eq, Json.depth] at hc
    omega
  | succ bound ih =>
    have htoJson : ClassDecl.toJson = _ := funext ClassDecl.toJson_eq
    rw [htoJson]
    refine Json.restores_record (by decide) (fun c => ?_) fun levels c hc => ?_
    · simp only [List.map_append]
      exact ((((((List.Sublist.refl ["name", "qualified_name", "kind", "modifiers"]).append
        (Json.keys_listMember _ _)).append (Json.keys_listMember _ _)).append
        (Json.keys_listMember _ _)).append (Json.keys_listMember _ _)).append
        (Json.keys_listMember _ _)).append (Json.keys_listMember _ _)
    · have hdepth : c.toJson.depth ≤ bound + 1 := by
        rw [c.toJson_eq]
        exact hc.2
      have hinner : ∀ d ∈ c.innerClasses, d.IsWritten ∧ d.toJson.depth ≤ bound := fun d hd =>
        ⟨hc.1.innerClasses d hd,
          Nat.le_of_lt_succ (Nat.lt_of_lt_of_le (depth_lt_of_mem hd) hdepth)⟩
      generalize hms : [("name", Json.string c.name), ("qualified_name", .string c.qualifiedName),
        ("kind", .string c.kind.word), ("modifiers", c.modifiers.toJson)] ++
        listMember "annotations" (c.annotations.map (·.toJson)) ++
        listMember "super_types" (c.superTypes.map (·.toJson)) ++
        listMember "enum_constants" (c.enumConstants.map .string) ++
        listMember "fields" (c.fields.map (·.toJson)) ++
        listMember "methods" (c.methods.map (·.toJson)) ++
        listMember "inner_classes" (c.innerClasses.map (·.toJson)) = ms
      have hname := Json.restores_string.required ms "name" levels c.name trivial
        (by simp [← hms])
      have hqualifiedName := Json.restores_string.required ms "qualified_name" levels
        c.qualifiedName trivial (by simp [← hms, List.lookup_cons])
      have hkind := ClassKind.restores.withDefault ms "kind" levels .plain c.kind trivial
        (by simp [← hms, List.lookup_cons])
      have hmodifiers := Modifiers.restores.withDefault ms "modifiers" levels {} c.modifiers
        trivial (by simp [← hms, List.lookup_cons])
      have hannotations := AnnotationUse.restores.listMember ms "annotations" levels c.annotations
        (fun _ _ => trivial) (by simp [← hms, List.lookup_cons, List.lookup_append])
      have hsuperTypes := TypeRef.restores.listMember ms "super_types" levels c.superTypes
        hc.1.superTypes (by simp [← hms, List.lookup_cons, List.lookup_append])
      have henumConstants := Json.restores_string.listMember ms "enum_constants" levels
        c.enumConstants (fun _ _ => trivial)
        (by simp [← hms, List.lookup_cons, List.lookup_append])
      have hfields := FieldDecl.restores.listMember ms "fields" levels c.fields hc.1.fields
        (by simp [← hms, List.lookup_cons, List.lookup_append])
      have hmethods := MethodDecl.restores.listMember ms "methods" levels c.methods hc.1.methods
        (by simp [← hms, List.lookup_cons, List.lookup_append])
      have hinnerClasses := ih.listMember ms "inner_classes" levels c.innerClasses hinner
        (by simp [← hms, List.lookup_cons, List.lookup_append])
      simp only [bind, hname, hqualifiedName, hkind, hmodifiers, hannotations, hsuperTypes,
        henumConstants, hfields, hmethods, hinnerClasses, Json.bind_ite, Json.ite_ite]
      cases c
      simp [← hms, Json.depthMembers, Json.depthMembers_append, Nat.max_le]

theorem ClassDecl.ofJsonWithin?_succ {bound : Nat} {j : Json} {c : ClassDecl}
    (h : ofJsonWithin? bound j = some c) : ofJsonWithin? (bound + 1) j = some c := by
  induction bound generalizing j c with
  | zero => cases h
  | succ bound ih =>
    rw [ofJsonWithin?] at h ⊢
    simp only [bind, Option.bind_eq_some_iff] at h ⊢
    obtain ⟨members, hmembers, name, hname, qualifiedName, hqualifiedName, kind, hkind, modifiers,
      hmodifiers, annotations, hannotations, superTypes, hsuperTypes, enumConstants,
      henumConstants, fields, hfields, methods, hmethods, innerClasses, hinnerClasses, hc⟩ := h
    have hinner := Json.withDefault?_mono (fun _ _ => Json.list?_mono fun _ _ => ih) hinnerClasses
    exact ⟨members, hmembers, name, hname, qualifiedName, hqualifiedName, kind, hkind, modifiers,
      hmodifiers, annotations, hannotations, superTypes, hsuperTypes, enumConstants,
      henumConstants, fields, hfields, methods, hmethods, innerClasses, hinner, hc⟩

theorem ClassDecl.ofJsonWithin?_mono {bound bound' : Nat} (hle : bound ≤ bound') {j : Json}
    {c : ClassDecl} (h : ofJsonWithin? bound j = some c) : ofJsonWithin? bound' j = some c := by
  induction hle with
  | refl => exact h
  | step _ ih => exact ofJsonWithin?_succ ih

theorem ClassDecl.restores :
    Restores ClassDecl.toJson ClassDecl.ofJson? ClassDecl.IsWritten := by
  intro levels c hc
  by_cases hdepth : c.toJson.depth ≤ levels
  · have hread := restoresWithin c.toJson.depth levels c ⟨hc, Nat.le_refl _⟩
    rw [Json.cut_of_depth_le c.toJson hdepth] at hread ⊢
    exact hread
  -- The bound is the depth of what is read, which was cut and may be less than that of the class.
  · rw [if_neg hdepth, ofJson?, Option.eq_none_iff_forall_ne_some]
    intro d hd
    have hbound := ofJsonWithin?_mono (Nat.le_max_left _ c.toJson.depth) hd
    rw [restoresWithin _ levels c ⟨hc, Nat.le_max_right _ _⟩, if_neg hdepth] at hbound
    cases hbound

theorem ImportDecl.restores :
    Restores ImportDecl.toJson ImportDecl.ofJson? fun _ => True := by
  refine Json.restores_record (by decide) (fun i => ?_) fun levels i _ => ?_
  · have hstatic : ((if i.isStatic then [("static", Json.bool true)] else []).map (·.1)).Sublist
        ["static"] := by
      split
      · exact List.Sublist.refl _
      · exact List.nil_sublist _
    exact (List.Sublist.refl ["path"]).append hstatic
  · obtain ⟨path, isStatic⟩ := i
    cases isStatic <;> simp [Json.cutMembers, Json.cut, required?, withDefault?, Json.string?,
      Json.bool?, Json.depthMembers, Json.depth, List.lookup_cons]

theorem FileHeader.keys_members (h : FileHeader) :
    (h.members.map (·.1)).Sublist ["package", "imports"] := by
  rw [FileHeader.members, List.map_append]
  exact (Json.keys_optionMember _ _).append (Json.keys_listMember _ _)

theorem FileHeader.restores :
    Restores FileHeader.toJson FileHeader.ofJson? fun _ => True := by
  refine Json.restores_record (by decide) FileHeader.keys_members fun levels h _ => ?_
  generalize hms : h.members = ms
  have hpackage := Json.restores_string.optionMember ms "package" (fun _ _ h => by cases h) levels
    h.package (fun _ _ => trivial) (by simp [← hms, FileHeader.members, List.lookup_append])
  have himports := ImportDecl.restores.listMember ms "imports" levels h.imports
    (fun _ _ => trivial) (by simp [← hms, FileHeader.members, List.lookup_append])
  simp only [bind, hpackage, himports, Json.bind_ite, Json.ite_ite]
  simp [← hms, FileHeader.members, Json.depthMembers_append, Nat.max_le]

section SourceFile

variable (h : FileHeader) (levels : Nat) (name classes : Json)

/-- The members of a file that are not those of its header do not disturb reading the header. -/
theorem FileHeader.ofJson?_among :
    FileHeader.ofJson? (.object (Json.cutMembers levels
        (("name", name) :: h.members ++ [("classes", classes)]))) =
      if Json.depthMembers h.members ≤ levels then some h else none := by
  have hknown : Json.record? ["package", "imports"] (.object (Json.cutMembers levels
      (("name", name) :: h.members ++ [("classes", classes)]))) =
        Json.record? ["package", "imports"] (.object (Json.cutMembers levels h.members)) := by
    rw [List.cons_append, Json.cutMembers, Json.cutMembers_append]
    simp [Json.record?, Json.cutMembers, List.filter_append]
  have hread := FileHeader.restores (levels + 1) h trivial
  have hcut : h.toJson.cut (levels + 1) = .object (Json.cutMembers levels h.members) := by
    simp [FileHeader.toJson, Json.cut, Json.held]
  rw [hcut, FileHeader.toJson, Json.depth] at hread
  simp only [Nat.add_le_add_iff_right] at hread
  rw [← hread, FileHeader.ofJson?, FileHeader.ofJson?, hknown]

theorem SourceFile.all_readable (hdepth : Json.depthMembers h.members ≤ levels) :
    ((Json.cutMembers levels (("name", name) :: h.members ++ [("classes", classes)])).all
      fun member => member.1 == "name" || member.1 == "classes" || member.2.isReadable) =
        true := by
  have hreadable := Json.allMembersReadable_of_allMembersTextual h.allMembersTextual_members
  rw [List.cons_append, Json.cutMembers, Json.cutMembers_append,
    Json.cutMembers_of_depth_le h.members hdepth, List.all_cons, List.all_append,
    List.all_eq_true.mpr fun member hmember => by
      simp [Json.isReadable_of_mem hreadable hmember]]
  simp [Json.cutMembers]

end SourceFile

theorem SourceFile.restores :
    Restores SourceFile.toJson SourceFile.ofJson? fun f => ∀ c ∈ f.classes, c.IsWritten := by
  intro levels f hf
  cases levels with
  | zero => simp [SourceFile.toJson, SourceFile.ofJson?, Json.cut, Json.held, Json.depth]
  | succ levels =>
    have hcut : f.toJson.cut (levels + 1) = .object (Json.cutMembers levels
        (("name", .string f.name) :: f.header.members ++
          [("classes", .array (f.classes.map (·.toJson)))])) := by
      simp [SourceFile.toJson, Json.cut, Json.held, ClassDecl.allToJson_eq_map]
    have hheader := FileHeader.ofJson?_among f.header levels (.string f.name)
      (.array (f.classes.map (·.toJson)))
    have hreadable := SourceFile.all_readable f.header levels (.string f.name)
      (.array (f.classes.map (·.toJson)))
    have hkeys : ((("name", Json.string f.name) :: f.header.members ++
        [("classes", Json.array (f.classes.map (·.toJson)))]).map (·.1)).Sublist
          ["name", "package", "imports", "classes"] := by
      rw [List.map_append]
      exact ((f.header.keys_members).cons_cons "name").append (List.Sublist.refl ["classes"])
    have hdepth : f.toJson.depth ≤ levels + 1 ↔
        Json.depthMembers f.header.members ≤ levels ∧
          (Json.array (f.classes.map (·.toJson))).depth ≤ levels := by
      simp [SourceFile.toJson, Json.depth, Json.depthMembers, Json.depthMembers_append,
        ClassDecl.allToJson_eq_map, Nat.max_le]
    have hlookup : (("name", Json.string f.name) :: f.header.members ++
        [("classes", Json.array (f.classes.map (·.toJson)))]).lookup "classes" =
          some (.array (f.classes.map (·.toJson))) := by
      simp [FileHeader.members, List.lookup_cons, List.lookup_append]
    have hlookup' : (("name", Json.string f.name) :: f.header.members ++
        [("classes", Json.array (f.classes.map (·.toJson)))]).lookup "name" =
          some (.string f.name) :=
      List.lookup_cons_self
    rw [hcut]
    simp only [hdepth]
    generalize ("name", Json.string f.name) :: f.header.members ++
      [("classes", Json.array (f.classes.map (·.toJson)))] = ms at *
    have hname := Json.restores_string.required ms "name" levels f.name trivial hlookup'
    have hclasses :=
      ClassDecl.restores.list.withDefault ms "classes" levels [] f.classes hf hlookup
    have hknown := Json.record?_cutMembers (by decide) levels hkeys
    rw [SourceFile.ofJson?, Json.guard_bind]
    simp only [bind, hknown, hname, hheader, hclasses, Option.bind_some, Json.bind_ite,
      Json.ite_ite]
    -- The guard can only fail where the header is cut off as well.
    by_cases hd : Json.depthMembers f.header.members ≤ levels
    · simp [hreadable hd, hd, Json.depth]
    · simp [hd]

theorem ProjectModel.restores : Restores ProjectModel.toJson ProjectModel.ofJson?
    fun p => (∀ c ∈ p.classes, c.IsWritten) ∧ ∀ c ∈ p.libraries, c.IsWritten := by
  have htoJson : ProjectModel.toJson = fun p => .object
      [("classes", .array (p.classes.map (·.toJson))),
        ("libraries", .array (p.libraries.map (·.toJson)))] := by
    funext p
    rw [ProjectModel.toJson, ClassDecl.allToJson_eq_map, ClassDecl.allToJson_eq_map]
  rw [htoJson]
  refine Json.restores_closedRecord (by decide) (fun _ => ?_) fun levels p hp => ?_
  · exact List.Sublist.refl ["classes", "libraries"]
  generalize hms : [("classes", Json.array (p.classes.map (·.toJson))),
    ("libraries", Json.array (p.libraries.map (·.toJson)))] = ms
  have hclasses := ClassDecl.restores.list.withDefault ms "classes" levels [] p.classes hp.1
    (by simp [← hms])
  have hlibraries := ClassDecl.restores.list.withDefault ms "libraries" levels [] p.libraries
    hp.2 (by simp [← hms, List.lookup_cons])
  simp only [bind, hclasses, hlibraries, Json.bind_ite, Json.ite_ite]
  simp [← hms, Json.depthMembers, Nat.max_le]

end MockScaffold
