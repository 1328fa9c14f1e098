import Mathlib.Data.List.Forall2
import MockScaffold.Proofs.Decl.Growth

namespace MockScaffold.ClassDecl

theorem walk_eq (c : ClassDecl) : c.walk = c :: walkAll c.innerClasses := by
  cases c
  rw [walk]

theorem perm_append_append {β : Type _} {as as' bs bs' ms ns : List β}
    (ha : as'.Perm (as ++ ms)) (hb : bs'.Perm (bs ++ ns)) :
    (as' ++ bs').Perm (as ++ bs ++ (ms ++ ns)) := by
  refine (ha.append hb).trans ?_
  rw [List.append_assoc, List.append_assoc]
  exact (List.perm_append_comm_assoc ms bs ns).append_left as

section AddedBy

variable {β : Type _} (own : ClassDecl → List β) (more : ClassDecl → ClassDecl → List β)

mutual

/-- What the class lists more than `old` does, where `own` is what a class lists itself, `more`
what it lists itself beyond an older version, and nested classes are compared with those in their
places. -/
def addedBy (old c : ClassDecl) : List β :=
  match c with
  | { innerClasses, .. } => more old c ++ addedByAll old.innerClasses innerClasses

def addedByAll (olds : List ClassDecl) : List ClassDecl → List β
  | [] => []
  | c :: cs =>
    match olds with
    | [] => c.walk.flatMap own ++ addedByAll [] cs
    | old :: olds => addedBy old c ++ addedByAll olds cs

end

/-- A class that grows lists itself what it listed, and `more`. -/
def Tells : Prop :=
  ∀ c d : ClassDecl, c.Grows d → (own d).Perm (own c ++ more c d)

variable {own more} {c d e : ClassDecl} {cs ds es : List ClassDecl}

theorem addedBy_eq (old c : ClassDecl) :
    addedBy own more old c =
      more old c ++ addedByAll own more old.innerClasses c.innerClasses := by
  cases c
  rw [addedBy]

theorem addedByAll_nil (cs : List ClassDecl) :
    addedByAll own more [] cs = (walkAll cs).flatMap own := by
  induction cs with
  | nil => rfl
  | cons c cs ih => rw [addedByAll, ih, walkAll, List.flatMap_append]

theorem flatMap_walk (own : ClassDecl → List β) (c : ClassDecl) :
    c.walk.flatMap own = own c ++ (walkAll c.innerClasses).flatMap own := by
  rw [walk_eq, List.flatMap_cons]

namespace Tells

theorem more_self (h : Tells own more) (c : ClassDecl) : more c c = [] := by
  have hlength := (h c c (.refl c)).length_eq
  rw [List.length_append] at hlength
  exact List.eq_nil_of_length_eq_zero (by omega)

mutual

theorem addedBy_self (h : Tells own more) : ∀ c : ClassDecl, addedBy own more c c = []
  | { innerClasses, .. } => by
    rw [addedBy_eq, h.more_self, addedByAll_self h innerClasses, List.append_nil]

theorem addedByAll_self (h : Tells own more) :
    ∀ cs : List ClassDecl, addedByAll own more cs cs = []
  | [] => rfl
  | c :: cs => by rw [addedByAll, addedBy_self h c, addedByAll_self h cs, List.append_nil]

end

variable (h : Tells own more)
include h

theorem addedBy_of_same_inner (hinner : d.innerClasses = c.innerClasses) :
    addedBy own more c d = more c d := by
  rw [addedBy_eq, hinner, h.addedByAll_self, List.append_nil]

theorem addedByAll_append (cs added : List ClassDecl) :
    addedByAll own more cs (cs ++ added) = (walkAll added).flatMap own := by
  induction cs with
  | nil => exact addedByAll_nil added
  | cons c cs ih =>
    rw [List.cons_append, addedByAll, h.addedBy_self, List.nil_append]
    exact ih

theorem addedByAll_set {place : Nat} (hplace : cs[place]? = some c) (d : ClassDecl) :
    addedByAll own more cs (cs.set place d) = addedBy own more c d := by
  induction cs generalizing place with
  | nil => cases hplace
  | cons e cs ih =>
    cases place with
    | zero =>
      cases hplace
      rw [List.set_cons_zero, addedByAll, h.addedByAll_self, List.append_nil]
    | succ place =>
      rw [List.set_cons_succ, addedByAll, h.addedBy_self, List.nil_append]
      exact ih hplace

theorem perm_of_nestedGrowth (hgrowth : NestedGrowth cs ds) :
    ((walkAll ds).flatMap own).Perm
      ((walkAll cs).flatMap own ++ addedByAll own more cs ds) := by
  induction hgrowth with
  | new added =>
    rw [addedByAll_nil]
    exact .refl _
  | kept c added _ ih =>
    rw [walkAll, walkAll, List.flatMap_append, List.flatMap_append, addedByAll]
    refine perm_append_append ?_ ih
    -- Only the class itself has grown, and not what is nested in it.
    rw [flatMap_walk, flatMap_walk, addedBy_eq, withFields_innerClasses, h.addedByAll_self]
    refine perm_append_append (h c _ (.addFields c added)) ?_
    rw [List.append_nil]

theorem perm_of_grows (hgrows : c.Grows d) :
    (d.walk.flatMap own).Perm (c.walk.flatMap own ++ addedBy own more c d) := by
  rw [flatMap_walk, flatMap_walk, addedBy_eq]
  exact perm_append_append (h c d hgrows) (h.perm_of_nestedGrowth hgrows.innerClasses)

/-- Two growths in a row add what each of them adds. -/
theorem perm_added_of_nestedGrowth (hcd : NestedGrowth cs ds) (hde : NestedGrowth ds es) :
    (addedByAll own more cs es).Perm
      (addedByAll own more cs ds ++ addedByAll own more ds es) := by
  have hrow := (h.perm_of_nestedGrowth hde).trans ((h.perm_of_nestedGrowth hcd).append_right _)
  rw [List.append_assoc] at hrow
  exact (List.perm_append_left_iff _).mp ((h.perm_of_nestedGrowth (hcd.trans hde)).symm.trans hrow)

theorem perm_added_of_grows (hcd : c.Grows d) (hde : d.Grows e) :
    (addedBy own more c e).Perm (addedBy own more c d ++ addedBy own more d e) := by
  have hrow := (h.perm_of_grows hde).trans ((h.perm_of_grows hcd).append_right _)
  rw [List.append_assoc] at hrow
  exact (List.perm_append_left_iff _).mp ((h.perm_of_grows (hcd.trans hde)).symm.trans hrow)

theorem perm_of_forall₂ (hgrows : List.Forall₂ Grows cs ds) :
    ((walkAll ds).flatMap own).Perm
      ((walkAll cs).flatMap own ++ addedByAll own more cs ds) := by
  induction hgrows with
  | nil => exact .nil
  | cons hgrows _ ih =>
    rw [walkAll, walkAll, List.flatMap_append, List.flatMap_append, addedByAll]
    exact perm_append_append (h.perm_of_grows hgrows) ih

end Tells

end AddedBy

theorem walkAll_of_flat {cs : List ClassDecl} (h : ∀ c ∈ cs, c.innerClasses = []) :
    walkAll cs = cs := by
  induction cs with
  | nil => rfl
  | cons c cs ih =>
    rw [List.forall_mem_cons] at h
    rw [walkAll, walk_eq, h.1, ih h.2]
    rfl

section Lists

/-- The annotations on the class, its fields and its methods. -/
def allAnnotations (c : ClassDecl) : List AnnotationUse :=
  c.annotations ++ c.fields.flatMap (·.annotations) ++ c.methods.flatMap (·.annotations)

def ownName (c : ClassDecl) : List String :=
  [c.qualifiedName]

theorem length_flatMap_ownName (cs : List ClassDecl) :
    (cs.flatMap ownName).length = cs.length := by
  induction cs with
  | nil => rfl
  | cons c cs ih =>
    rw [List.flatMap_cons, List.length_append, ih, List.length_cons]
    exact Nat.add_comm _ _

def laterFields (old c : ClassDecl) : List FieldDecl :=
  c.fields.drop old.fields.length

/-- The annotations on the class after those of `old`, and on the fields after those of `old`. -/
def laterAnnotations (old c : ClassDecl) : List AnnotationUse :=
  c.annotations.drop old.annotations.length ++ (laterFields old c).flatMap (·.annotations)

/-- A class that grows keeps its name. -/
def laterNames (_ _ : ClassDecl) : List String :=
  []

theorem tells_laterFields : Tells fields laterFields := by
  intro c d h
  obtain ⟨added, hadded⟩ := h.fields
  rw [laterFields, ← hadded, List.drop_left]

theorem tells_laterAnnotations : Tells allAnnotations laterAnnotations := by
  intro c d h
  obtain ⟨annotations, hannotations⟩ := h.annotations
  obtain ⟨fields, hfields⟩ := h.fields
  rw [allAnnotations, allAnnotations, laterAnnotations, laterFields, h.methods, ← hannotations,
    ← hfields, List.drop_left, List.drop_left, List.flatMap_append]
  have hmethods : (c.methods.flatMap (·.annotations)).Perm
      (c.methods.flatMap (·.annotations) ++ []) := by
    rw [List.append_nil]
  have hall := perm_append_append (perm_append_append (.refl (c.annotations ++ annotations))
    (.refl (c.fields.flatMap (·.annotations) ++ fields.flatMap (·.annotations)))) hmethods
  rwa [List.append_nil] at hall

theorem tells_laterNames : Tells ownName laterNames := by
  intro c d h
  rw [ownName, ownName, h.qualifiedName]
  exact .refl _

variable {c d : ClassDecl} {cs ds : List ClassDecl}

/-- The names that nested growth adds are those behind the old classes. -/
theorem NestedGrowth.addedNames_eq (h : NestedGrowth cs ds) :
    addedByAll ownName laterNames cs ds = (walkAll (ds.drop cs.length)).flatMap ownName := by
  induction h with
  | new added => exact addedByAll_nil added
  | kept c added _ ih =>
    rw [addedByAll, tells_laterNames.addedBy_of_same_inner (c.withFields_innerClasses added), ih]
    rfl

theorem NestedGrowth.eq_of_nothing_added (h : NestedGrowth cs ds)
    (hfields : addedByAll fields laterFields cs ds = [])
    (hnames : addedByAll ownName laterNames cs ds = []) : ds = cs := by
  induction h with
  | new added =>
    cases added with
    | nil => rfl
    | cons c added =>
      rw [addedByAll_nil, walkAll, walk_eq] at hnames
      cases hnames
  | kept c added _ ih =>
    rw [addedByAll, List.append_eq_nil_iff] at hfields hnames
    have hadded := tells_laterFields.addedBy_of_same_inner (c.withFields_innerClasses added)
    rw [hadded, laterFields, withFields_fields, List.drop_left] at hfields
    rw [hfields.1, withFields_nil, ih hfields.2 hnames.2]

theorem Grows.eq_of_same (h : c.Grows d) (hannotations : d.annotations = c.annotations)
    (hfields : d.fields = c.fields) (hinner : d.innerClasses = c.innerClasses) : d = c := by
  obtain ⟨hname, hqualified, hkind, hmodifiers, -, hsuper, hconstants, -, hmethods, -⟩ := h
  cases c
  cases d
  dsimp only at *
  rw [hname, hqualified, hkind, hmodifiers, hannotations, hsuper, hconstants, hfields, hmethods,
    hinner]

theorem Grows.eq_of_nothing_added (h : c.Grows d)
    (hfields : addedBy ClassDecl.fields laterFields c d = [])
    (hannotations : addedBy allAnnotations laterAnnotations c d = [])
    (hnames : addedBy ownName laterNames c d = []) : d = c := by
  rw [addedBy_eq, List.append_eq_nil_iff] at hfields hannotations hnames
  have hlater := (List.append_eq_nil_iff.mp hannotations.1).1
  refine h.eq_of_same ?_ ?_ (h.innerClasses.eq_of_nothing_added hfields.2 hnames.2)
  · exact (h.annotations.eq_of_length_le (List.drop_eq_nil_iff.mp hlater)).symm
  · exact (h.fields.eq_of_length_le (List.drop_eq_nil_iff.mp hfields.1)).symm

theorem eq_of_nothing_added (h : List.Forall₂ Grows cs ds)
    (hfields : addedByAll fields laterFields cs ds = [])
    (hannotations : addedByAll allAnnotations laterAnnotations cs ds = [])
    (hnames : addedByAll ownName laterNames cs ds = []) : ds = cs := by
  induction h with
  | nil => rfl
  | cons hgrows _ ih =>
    rw [addedByAll, List.append_eq_nil_iff] at hfields hannotations hnames
    rw [hgrows.eq_of_nothing_added hfields.1 hannotations.1 hnames.1,
      ih hfields.2 hannotations.2 hnames.2]

end Lists

end MockScaffold.ClassDecl
