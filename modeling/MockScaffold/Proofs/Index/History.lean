import Mathlib.Data.Finset.Card
import MockScaffold.Index.Basic

namespace MockScaffold

namespace ClassDecl

mutual

/-- The class and every class nested in it, owners last. -/
def postorder (c : ClassDecl) : List ClassDecl :=
  match c with
  | { innerClasses, .. } => postorderAll innerClasses ++ [c]

def postorderAll : List ClassDecl → List ClassDecl
  | [] => []
  | c :: cs => postorder c ++ postorderAll cs

end

theorem postorderAll_eq_flatMap (cs : List ClassDecl) :
    postorderAll cs = cs.flatMap postorder := by
  induction cs with
  | nil => rfl
  | cons c cs ih => rw [postorderAll, ih, List.flatMap_cons]

end ClassDecl

theorem Lombok.expandAll_eq_map (cs : List ClassDecl) : expandAll cs = cs.map expand := by
  induction cs with
  | nil => rfl
  | cons c cs ih => rw [expandAll, ih, List.map_cons]

namespace ClassIndex

/-- One call that adds classes to an index. -/
inductive Addition where
  | projectClass (c : ClassDecl)
  | libraryClass (c : ClassDecl)
  | model (m : ProjectModel) (lombok : Bool)

def add (index : ClassIndex) : Addition → ClassIndex
  | .projectClass c => index.addProjectClass c
  | .libraryClass c => index.addLibraryClass c
  | .model m lombok => index.extend m lombok

def ofHistory (history : List Addition) : ClassIndex :=
  history.foldl add {}

/-- The entries that a class stands for. -/
def offers (provenance : Provenance) (c : ClassDecl) : List IndexEntry :=
  c.postorder.map (⟨·, provenance⟩)

def Addition.offers : Addition → List IndexEntry
  | projectClass c => ClassIndex.offers .project c
  | libraryClass c => ClassIndex.offers .library c
  | model m lombok =>
    m.libraries.flatMap (ClassIndex.offers .library) ++
      m.classes.flatMap fun c =>
        ClassIndex.offers .project (if lombok then Lombok.expand c else c)

/-- All entries that are offered in a history, each where its turn comes. -/
def offered (history : List Addition) : List IndexEntry :=
  history.flatMap (·.offers)

/-- The last one with this name among the entries of one provenance. -/
def lastNamed? (provenance : Provenance) (name : String) (entries : List IndexEntry) :
    Option IndexEntry :=
  (entries.filter fun e => e.provenance == provenance && e.decl.qualifiedName == name).getLast?

section Offers

variable (index : ClassIndex) (provenance : Provenance)

mutual

theorem insert_eq_foldl : ∀ (c : ClassDecl) (index : ClassIndex),
    index.insert provenance c = (offers provenance c).foldl offer index
  | { innerClasses, .. }, index => by
    rw [insert, insertAll_eq_foldl innerClasses index, offers, ClassDecl.postorder,
      List.map_append, List.foldl_append]
    rfl

theorem insertAll_eq_foldl : ∀ (cs : List ClassDecl) (index : ClassIndex),
    index.insertAll provenance cs =
      ((ClassDecl.postorderAll cs).map (⟨·, provenance⟩)).foldl offer index
  | [], _ => rfl
  | c :: cs, index => by
    rw [insertAll, insert_eq_foldl c index, insertAll_eq_foldl cs, ClassDecl.postorderAll,
      List.map_append, List.foldl_append]
    rfl

end

theorem insertAll_eq_foldl_flatMap (cs : List ClassDecl) :
    index.insertAll provenance cs = (cs.flatMap (offers provenance)).foldl offer index := by
  rw [insertAll_eq_foldl, ClassDecl.postorderAll_eq_flatMap, List.map_flatMap]
  rfl

theorem add_eq_foldl (a : Addition) : index.add a = a.offers.foldl offer index := by
  cases a with
  | projectClass c => exact insert_eq_foldl .project c index
  | libraryClass c => exact insert_eq_foldl .library c index
  | model m lombok =>
    have hclasses : (if lombok then Lombok.expandAll m.classes else m.classes) =
        m.classes.map fun c => if lombok then Lombok.expand c else c := by
      cases lombok <;> simp [Lombok.expandAll_eq_map]
    rw [add, extend, hclasses, insertAll_eq_foldl_flatMap, insertAll_eq_foldl_flatMap,
      ← List.foldl_append, List.flatMap_map]
    rfl

theorem ofHistory_eq_foldl (history : List Addition) :
    ofHistory history = (offered history).foldl offer {} := by
  have hfrom : ∀ index : ClassIndex,
      history.foldl add index = (offered history).foldl offer index := by
    induction history with
    | nil => exact fun _ => rfl
    | cons a history ih =>
      intro index
      rw [List.foldl_cons, ih, add_eq_foldl, ← List.foldl_append]
      rfl
  exact hfrom {}

end Offers

section Entries

variable {index : ClassIndex} {entry : IndexEntry} {provenance : Provenance} {name : String}

theorem entry?_put : entry? (index.put entry) name =
    if entry.decl.qualifiedName = name then some entry else index.entry? name := by
  change List.find? _ (entry :: List.filter _ _) = _
  by_cases h : entry.decl.qualifiedName = name
  · rw [if_pos h, List.find?_cons, beq_iff_eq.mpr h]
  · have hsame (e : IndexEntry) :
        decide ((e.decl.qualifiedName != entry.decl.qualifiedName) = true ∧
          (e.decl.qualifiedName == name) = true) = (e.decl.qualifiedName == name) := by
      by_cases he : e.decl.qualifiedName = name <;> simp [he, Ne.symm h]
    rw [if_neg h, List.find?_cons, beq_false_of_ne h, List.find?_filter]
    simp only [hsame]
    rfl

variable {found : Option IndexEntry}

theorem find?_all (h : index.entry? name = found) :
    index.find? name .all = found.map (·.decl) := by
  rw [find?, h]
  cases found with
  | none => rfl
  | some e => rfl

theorem find?_project (h : index.entry? name = found) :
    index.find? name .project = (found.filter (·.provenance == .project)).map (·.decl) := by
  rw [find?, h]
  cases found with
  | none => rfl
  | some e => cases hp : e.provenance <;> simp [hp, Option.filter]

theorem entry?_offer_project (h : entry.provenance = .project) :
    entry? (index.offer entry) name =
      if entry.decl.qualifiedName = name then some entry else index.entry? name := by
  rw [offer, h, if_neg (by simp)]
  exact entry?_put

/-- A library class only takes a place that no class of the project has. -/
theorem entry?_offer_library (h : entry.provenance = .library)
    (hfound : index.entry? name = found) :
    entry? (index.offer entry) name =
      if entry.decl.qualifiedName = name then
        (found.filter (·.provenance == .project)).or (some entry)
      else found := by
  by_cases hname : entry.decl.qualifiedName = name
  · rw [if_pos hname, offer, h, hname, find?_project hfound, Option.isSome_map]
    cases hproject : found.filter (·.provenance == .project) with
    | none =>
      have hput : entry? (index.put entry) name = some entry := by rw [entry?_put, if_pos hname]
      exact hput
    | some e =>
      have hkept : found = some e := (Option.filter_eq_some_iff.mp hproject).1
      exact hfound.trans hkept
  · rw [if_neg hname, offer]
    split
    · exact hfound
    · rw [entry?_put, if_neg hname, hfound]

theorem lastNamed?_append (entries entries' : List IndexEntry) :
    lastNamed? provenance name (entries ++ entries') =
      (lastNamed? provenance name entries').or (lastNamed? provenance name entries) := by
  rw [lastNamed?, List.filter_append, List.getLast?_append]
  rfl

theorem lastNamed?_append_singleton (entries : List IndexEntry) :
    lastNamed? provenance name (entries ++ [entry]) =
      if entry.provenance = provenance ∧ entry.decl.qualifiedName = name then some entry
      else lastNamed? provenance name entries := by
  rw [lastNamed?_append]
  split
  · rename_i h
    simp [lastNamed?, h.1, h.2]
  · rename_i h
    simp [lastNamed?, h]

theorem mem_of_lastNamed? {entries : List IndexEntry}
    (h : lastNamed? provenance name entries = some entry) :
    entry ∈ entries ∧ entry.provenance = provenance ∧ entry.decl.qualifiedName = name := by
  have hmem := List.mem_of_getLast? h
  rwa [List.mem_filter, Bool.and_eq_true, beq_iff_eq, beq_iff_eq] at hmem

/-- Of the two candidates for a name, its provenance tells the one of the project. -/
theorem filter_lastNamed? (name : String) (entries : List IndexEntry) :
    ((lastNamed? .project name entries).or (lastNamed? .library name entries)).filter
      (·.provenance == .project) = lastNamed? .project name entries := by
  cases hproject : lastNamed? .project name entries with
  | some e => simp [(mem_of_lastNamed? hproject).2.1]
  | none =>
    cases hlibrary : lastNamed? .library name entries with
    | none => rfl
    | some e => simp [(mem_of_lastNamed? hlibrary).2.1]

theorem entry?_foldl_offer (name : String) (entries : List IndexEntry) :
    entry? (entries.foldl offer {}) name =
      (lastNamed? .project name entries).or (lastNamed? .library name entries) := by
  -- The entry offered last is taken off, since what it finds in the index is what decides.
  induction entries using List.reverseRecOn with
  | nil => rfl
  | append_singleton entries e ih =>
    rw [List.foldl_append, List.foldl_cons, List.foldl_nil, lastNamed?_append_singleton,
      lastNamed?_append_singleton]
    cases hp : e.provenance with
    | project =>
      rw [entry?_offer_project hp, ih]
      by_cases hname : e.decl.qualifiedName = name <;> simp [hname]
    | library =>
      rw [entry?_offer_library hp ih, filter_lastNamed?]
      by_cases hname : e.decl.qualifiedName = name <;> simp [hname]

theorem entry?_foldl_offer_eq_none_iff {entries : List IndexEntry} :
    entry? (entries.foldl offer {}) name = none ↔
      ∀ e ∈ entries, e.decl.qualifiedName ≠ name := by
  rw [entry?_foldl_offer, Option.or_eq_none_iff, lastNamed?, lastNamed?,
    List.getLast?_eq_none_iff, List.getLast?_eq_none_iff, List.filter_eq_nil_iff,
    List.filter_eq_nil_iff]
  constructor
  · intro h e he hname
    cases hp : e.provenance with
    | project => exact h.1 e he (by simp [hp, hname])
    | library => exact h.2 e he (by simp [hp, hname])
  · intro h
    constructor
    · exact fun e he hboth => h e he (eq_of_beq (Bool.and_eq_true_iff.mp hboth).2)
    · exact fun e he hboth => h e he (eq_of_beq (Bool.and_eq_true_iff.mp hboth).2)

theorem entry?_ofHistory (name : String) (history : List Addition) :
    entry? (ofHistory history) name =
      (lastNamed? .project name (offered history)).or
        (lastNamed? .library name (offered history)) := by
  rw [ofHistory_eq_foldl, entry?_foldl_offer]

end Entries

section Size

variable {index : ClassIndex} {entry : IndexEntry} {name : String}

def names (index : ClassIndex) : List String :=
  index.entries.map (·.decl.qualifiedName)

theorem names_put : (index.put entry).names =
    entry.decl.qualifiedName :: index.names.filter (· != entry.decl.qualifiedName) := by
  rw [names, names, List.filter_map]
  rfl

theorem mem_names_of_find? {scope : Scope} (h : (index.find? name scope).isSome = true) :
    name ∈ index.names := by
  obtain ⟨c, hc⟩ := Option.isSome_iff_exists.mp h
  obtain ⟨e, he, rfl⟩ := mem_of_find? hc
  rw [← qualifiedName_of_find? hc]
  exact List.mem_map_of_mem he

theorem nodup_names_offer (h : index.names.Nodup) : (index.offer entry).names.Nodup := by
  unfold offer
  split
  · exact h
  · rw [names_put, List.nodup_cons]
    refine ⟨fun hmem => ?_, h.filter _⟩
    simpa using (List.mem_filter.mp hmem).2

theorem mem_names_offer : name ∈ (index.offer entry).names ↔
    name = entry.decl.qualifiedName ∨ name ∈ index.names := by
  unfold offer
  split
  · rename_i hshadowed
    rw [Bool.and_eq_true] at hshadowed
    have hmem := mem_names_of_find? hshadowed.2
    exact ⟨.inr, fun h => h.elim (fun hname => hname ▸ hmem) id⟩
  · rw [names_put, List.mem_cons, List.mem_filter, bne_iff_ne]
    by_cases hname : name = entry.decl.qualifiedName <;> simp [hname]

theorem size_foldl_offer (entries : List IndexEntry) :
    (entries.foldl offer {}).size = (entries.map (·.decl.qualifiedName)).toFinset.card := by
  have hnames : (entries.foldl offer {}).names.Nodup ∧
      ∀ name, name ∈ (entries.foldl offer {}).names ↔
        name ∈ entries.map (·.decl.qualifiedName) := by
    induction entries using List.reverseRecOn with
    | nil => exact ⟨List.nodup_nil, fun _ => .rfl⟩
    | append_singleton entries e ih =>
      rw [List.foldl_append, List.foldl_cons, List.foldl_nil]
      refine ⟨nodup_names_offer ih.1, fun name => ?_⟩
      rw [mem_names_offer, ih.2 name, List.map_append, List.mem_append, or_comm]
      simp
  have hsize : (entries.foldl offer {}).size = (entries.foldl offer {}).names.length :=
    (List.length_map _).symm
  rw [hsize, ← List.toFinset_card_of_nodup hnames.1, List.toFinset.ext hnames.2]

end Size

section Rearranged

theorem lastNamed?_eq_filter (provenance : Provenance) (name : String)
    (entries : List IndexEntry) :
    lastNamed? provenance name entries =
      ((entries.filter (·.provenance == provenance)).filter
        (·.decl.qualifiedName == name)).getLast? := by
  rw [List.filter_filter, lastNamed?]
  simp only [Bool.and_comm]

/-- Only the order within the project's classes and within the libraries' classes matters. -/
theorem find?_ofHistory_congr {history history' : List Addition}
    (h : ∀ provenance, (offered history).filter (·.provenance == provenance) =
      (offered history').filter (·.provenance == provenance)) (name : String) (scope : Scope) :
    (ofHistory history).find? name scope = (ofHistory history').find? name scope := by
  have hentry : entry? (ofHistory history) name = entry? (ofHistory history') name := by
    rw [entry?_ofHistory, entry?_ofHistory]
    simp only [lastNamed?_eq_filter, h]
  cases scope with
  | all => rw [find?_all hentry, find?_all rfl]
  | project => rw [find?_project hentry, find?_project rfl]

theorem offered_append (history history' : List Addition) :
    offered (history ++ history') = offered history ++ offered history' :=
  List.flatMap_append

theorem filter_offered_of_ne {history : List Addition} {provenance provenance' : Provenance}
    (h : ∀ e ∈ offered history, e.provenance = provenance) (hne : provenance ≠ provenance') :
    (offered history).filter (·.provenance == provenance') = [] := by
  rw [List.filter_eq_nil_iff]
  intro e he
  rw [h e he, beq_iff_eq]
  exact hne

/-- What only adds library classes may come before or after what only adds project classes. -/
theorem find?_swap {libraries projects : List Addition}
    (hlibraries : ∀ e ∈ offered libraries, e.provenance = .library)
    (hprojects : ∀ e ∈ offered projects, e.provenance = .project) (before after : List Addition)
    (name : String) (scope : Scope) :
    (ofHistory (before ++ libraries ++ projects ++ after)).find? name scope =
      (ofHistory (before ++ projects ++ libraries ++ after)).find? name scope := by
  refine find?_ofHistory_congr (fun provenance => ?_) name scope
  simp only [offered_append, List.filter_append]
  cases provenance with
  | project =>
    rw [filter_offered_of_ne hlibraries (by decide), List.append_nil, List.append_nil]
  | library =>
    rw [filter_offered_of_ne hprojects (by decide), List.append_nil, List.append_nil]

end Rearranged

/-- Under a name stands the last class of the project that was offered with it, in both scopes, or
else, among all classes, the last of a library, whichever of the two kinds was added first. -/
theorem lookup_ofHistory (history : List Addition) :
    (∀ name, (ofHistory history).find? name .project =
        (lastNamed? .project name (offered history)).map (·.decl)) ∧
      (∀ name, (ofHistory history).find? name .all =
        ((lastNamed? .project name (offered history)).or
          (lastNamed? .library name (offered history))).map (·.decl)) ∧
      (∀ name scope, ∀ c ∈ (ofHistory history).find? name scope, c.qualifiedName = name) ∧
      (ofHistory history).size =
        ((offered history).map (·.decl.qualifiedName)).toFinset.card ∧
      ∀ libraries projects : List Addition,
        (∀ e ∈ offered libraries, e.provenance = .library) →
        (∀ e ∈ offered projects, e.provenance = .project) →
        ∀ (before after : List Addition) (name : String) (scope : Scope),
          (ofHistory (before ++ libraries ++ projects ++ after)).find? name scope =
            (ofHistory (before ++ projects ++ libraries ++ after)).find? name scope := by
  refine ⟨fun name => ?_, fun name => ?_, fun name scope c hc => qualifiedName_of_find? hc, ?_,
    fun _ _ => find?_swap⟩
  · rw [find?_project (entry?_ofHistory name history), filter_lastNamed?]
  · exact find?_all (entry?_ofHistory name history)
  · rw [ofHistory_eq_foldl, size_foldl_offer]

/-- A class that both the project and a library have. -/
def sharedClass : ClassDecl :=
  { ClassDecl.ofQualifiedName "com.acme.Shared" with
    fields := [{ name := "local", type := .ofClass "java.lang.String" }] }

/-- A library's class of the same name, with a class nested in it. -/
def sharedLibraryClass : ClassDecl :=
  { ClassDecl.ofQualifiedName "com.acme.Shared" with
    innerClasses := [.ofQualifiedName "com.acme.Shared.Part"] }

def sharedProject : Addition :=
  .model { classes := [sharedClass] } true

/-- The outer library class is hidden, whichever comes first, and the one nested in it is not. -/
theorem lookup_ofHistory_shared :
    let history := [sharedProject, .libraryClass sharedLibraryClass]
    (ofHistory history).find? "com.acme.Shared" .all = some sharedClass ∧
      sharedClass.qualifiedName = "com.acme.Shared" ∧
      (ofHistory history).find? "com.acme.Shared.Part" .project = none ∧
      (ofHistory history).find? "com.acme.Shared.Part" .all =
        some (.ofQualifiedName "com.acme.Shared.Part") ∧
      (ofHistory history).size = 2 ∧
      (ofHistory [.libraryClass sharedLibraryClass, sharedProject]).find? "com.acme.Shared" .all =
        some sharedClass := by
  intro history
  obtain ⟨hproject, hall, hname, hsize, hswap⟩ := lookup_ofHistory history
  have hshared : (ofHistory history).find? "com.acme.Shared" .all = some sharedClass := by
    rw [hall]
    rfl
  refine ⟨hshared, hname _ _ _ hshared, ?_, ?_, ?_, ?_⟩
  · rw [hproject]
    rfl
  · rw [hall]
    rfl
  · rw [hsize]
    decide
  · exact (hswap [.libraryClass sharedLibraryClass] [sharedProject] (by decide) (by decide) [] []
      _ _).trans hshared

end ClassIndex

end MockScaffold
