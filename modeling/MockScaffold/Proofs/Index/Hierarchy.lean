import Mathlib.Data.List.Chain
import Mathlib.Data.List.GetD
import Mathlib.Data.List.Nodup
import Mathlib.Data.Nat.Find
import Mathlib.Logic.Relation
import MockScaffold.Index.Basic
import MockScaffold.Index.Hierarchy
import MockScaffold.Proofs.List.Firsts

namespace MockScaffold.ClassIndex

section FreshNames

variable {seen names : List String} {name : String}

theorem freshNames_eq_firstsBy (seen names : List String) :
    freshNames seen names = firstsBy id seen names := by
  induction names generalizing seen with
  | nil => rfl
  | cons first names ih => rw [freshNames, firstsBy, ih, ih, id]

theorem mem_freshNames : name ∈ freshNames seen names ↔ name ∈ names ∧ name ∉ seen := by
  have hmem : name ∈ (firstsBy id seen names).map id ↔ name ∈ names.map id ∧ name ∉ seen :=
    mem_map_firstsBy
  rwa [List.map_id, List.map_id, ← freshNames_eq_firstsBy] at hmem

theorem pairwise_idxOf_cons {first : String} {l : List String} (hne : ∀ a ∈ l, a ≠ first)
    (h : l.Pairwise fun a b => names.idxOf a < names.idxOf b) :
    l.Pairwise fun a b => (first :: names).idxOf a < (first :: names).idxOf b := by
  refine h.imp_of_mem fun {a b} ha hb hlt => ?_
  rw [List.idxOf_cons_ne _ (hne a ha).symm, List.idxOf_cons_ne _ (hne b hb).symm]
  exact Nat.succ_lt_succ hlt

/-- Fresh names stand in the order in which they are first mentioned. -/
theorem pairwise_freshNames (seen names : List String) :
    (freshNames seen names).Pairwise fun a b => names.idxOf a < names.idxOf b := by
  induction names generalizing seen with
  | nil => exact .nil
  | cons first names ih =>
    unfold freshNames
    split
    · rename_i hfirst
      refine pairwise_idxOf_cons (fun a ha heq => ?_) (ih seen)
      exact (mem_freshNames.mp ha).2 (heq ▸ hfirst)
    · have hne : ∀ a ∈ freshNames (first :: seen) names, a ≠ first := fun a ha heq =>
        (mem_freshNames.mp ha).2 (heq ▸ List.mem_cons_self)
      refine List.pairwise_cons.mpr ⟨fun a ha => ?_, pairwise_idxOf_cons hne (ih _)⟩
      rw [List.idxOf_cons_self, List.idxOf_cons_ne _ (hne a ha).symm]
      exact Nat.succ_pos _

end FreshNames

variable {index : ClassIndex} {c d e : ClassDecl} {seen : List String} {level : List ClassDecl}
  {levels : List (List ClassDecl)} {n : Nat}

/-- The names of super types, in the order in which the classes of a level mention them. -/
def mentions (level : List ClassDecl) : List String :=
  level.flatMap superNames

/-- The level after this one, if the names in `seen` have been seen. -/
def nextLevel (index : ClassIndex) (seen : List String) (level : List ClassDecl) :
    List ClassDecl :=
  (freshNames seen (mentions level)).filterMap (index.find? · .all)

/-- A walk that has come to its end, with the levels that it went through. -/
inductive Walk (index : ClassIndex) :
    List String → List ClassDecl → List (List ClassDecl) → Prop
  | done (seen : List String) : Walk index seen [] []
  | round {seen : List String} {level : List ClassDecl} {levels : List (List ClassDecl)}
      (hlevel : level ≠ [])
      (rest : Walk index (seen ++ freshNames seen (mentions level)) (nextLevel index seen level)
        levels) :
      Walk index seen level (level :: levels)

/-- `d` is what the index finds for a super type of `c`. -/
def IsSuper (index : ClassIndex) (c d : ClassDecl) : Prop :=
  ∃ type ∈ c.superTypes, index.resolve? type .all = some d

/-- So many steps, each to a super type that can be found, lead from `c` to `d`. -/
inductive Climb (index : ClassIndex) (c : ClassDecl) : Nat → ClassDecl → Prop
  | start : Climb index c 0 c
  | step {n : Nat} {d e : ClassDecl} (climb : Climb index c n d) (hsuper : IsSuper index d e) :
      Climb index c (n + 1) e

/-- So many steps lead from `c` to `d`, and no fewer. -/
def AtDistance (index : ClassIndex) (c : ClassDecl) (n : Nat) (d : ClassDecl) : Prop :=
  Climb index c n d ∧ ∀ m, Climb index c m d → n ≤ m

section Levels

theorem isSuper_iff :
    IsSuper index c d ↔ ∃ name ∈ superNames c, index.find? name .all = some d := by
  simp only [IsSuper, superNames, resolve?, List.mem_filterMap, Option.bind_eq_some_iff]
  constructor
  · rintro ⟨type, htype, name, hname, hfound⟩
    exact ⟨name, ⟨type, htype, hname⟩, hfound⟩
  · rintro ⟨name, ⟨type, htype, hname⟩, hfound⟩
    exact ⟨type, htype, name, hname, hfound⟩

theorem mem_nextLevel : d ∈ nextLevel index seen level ↔
    index.find? d.qualifiedName .all = some d ∧ d.qualifiedName ∉ seen ∧
      ∃ e ∈ level, IsSuper index e d := by
  simp only [nextLevel, List.mem_filterMap, mem_freshNames, mentions, List.mem_flatMap, isSuper_iff]
  constructor
  · rintro ⟨name, ⟨⟨e, he, hname⟩, hseen⟩, hfound⟩
    obtain rfl := qualifiedName_of_find? hfound
    exact ⟨hfound, hseen, e, he, _, hname, hfound⟩
  · rintro ⟨hfound, hseen, e, he, name, hname, hd⟩
    obtain rfl := qualifiedName_of_find? hd
    exact ⟨_, ⟨⟨e, he, hname⟩, hseen⟩, hd⟩

theorem mem_seen_append (hd : index.find? d.qualifiedName .all = some d) :
    d.qualifiedName ∈ seen ++ freshNames seen (mentions level) ↔
      d.qualifiedName ∈ seen ∨ d ∈ nextLevel index seen level := by
  rw [List.mem_append, nextLevel, List.mem_filterMap]
  refine or_congr_right ⟨fun h => ⟨_, h, hd⟩, ?_⟩
  rintro ⟨name, hname, hfound⟩
  rwa [qualifiedName_of_find? hfound]

end Levels

section Termination

/-- What the index holds under names that have not been seen. -/
def unseen (index : ClassIndex) (seen : List String) : List IndexEntry :=
  index.entries.filter fun entry => decide (entry.decl.qualifiedName ∉ seen)

theorem unseen_append (index : ClassIndex) (seen names : List String) :
    unseen index (seen ++ names) =
      (unseen index seen).filter fun entry => decide (entry.decl.qualifiedName ∉ names) := by
  simp only [unseen, List.filter_filter, List.mem_append, not_or, Bool.decide_and, Bool.and_comm]

theorem exists_unseen (hd : d ∈ nextLevel index seen level) :
    ∃ entry ∈ unseen index seen, entry.decl = d := by
  obtain ⟨hfound, hseen, -⟩ := mem_nextLevel.mp hd
  obtain ⟨entry, hentry, rfl⟩ := mem_of_find? hfound
  exact ⟨entry, List.mem_filter.mpr ⟨hentry, decide_eq_true hseen⟩, rfl⟩

/-- A further level is taken off what has not been seen. -/
theorem length_unseen_lt (hnext : nextLevel index seen level ≠ []) :
    (unseen index (seen ++ freshNames seen (mentions level))).length <
      (unseen index seen).length := by
  obtain ⟨d, hd⟩ := List.exists_mem_of_ne_nil _ hnext
  obtain ⟨entry, hentry, rfl⟩ := exists_unseen hd
  rw [unseen_append, List.length_filter_lt_length_iff_exists]
  refine ⟨entry, hentry, ?_⟩
  obtain ⟨name, hname, hfound⟩ := List.mem_filterMap.mp hd
  rw [qualifiedName_of_find? hfound]
  simpa using hname

theorem levelsFrom_succ (index : ClassIndex) (fuel : Nat) (seen : List String)
    (level : List ClassDecl) :
    levelsFrom index (fuel + 1) seen level =
      level ++ levelsFrom index fuel (seen ++ freshNames seen (mentions level))
        (nextLevel index seen level) :=
  rfl

theorem levelsFrom_nil (index : ClassIndex) (fuel : Nat) (seen : List String) :
    levelsFrom index fuel seen [] = [] := by
  induction fuel generalizing seen with
  | zero => rfl
  | succ fuel ih => exact ih _

/-- A walk ends if there is fuel for every class of the index that has not been seen. -/
theorem exists_walk {fuel : Nat} (hfuel : (unseen index seen).length ≤ fuel)
    (level : List ClassDecl) :
    ∃ levels, Walk index seen level levels ∧
      levelsFrom index fuel seen level = levels.flatten := by
  -- by induction on the fuel, of which each further level costs one unit
  induction fuel generalizing seen level with
  | zero =>
    by_cases hlevel : level = []
    · exact ⟨[], hlevel ▸ .done seen, hlevel⟩
    have hnext : nextLevel index seen level = [] := by
      apply List.eq_nil_iff_forall_not_mem.mpr
      intro d hd
      obtain ⟨entry, hentry, -⟩ := exists_unseen hd
      rw [List.eq_nil_of_length_eq_zero (Nat.le_zero.mp hfuel)] at hentry
      cases hentry
    refine ⟨[level], .round hlevel (hnext ▸ .done _), ?_⟩
    exact (List.append_nil level).symm
  | succ fuel ih =>
    by_cases hlevel : level = []
    · exact ⟨[], hlevel ▸ .done seen, hlevel ▸ levelsFrom_nil index _ seen⟩
    rw [levelsFrom_succ]
    by_cases hnext : nextLevel index seen level = []
    · refine ⟨[level], .round hlevel (hnext ▸ .done _), ?_⟩
      rw [hnext, levelsFrom_nil, List.flatten_singleton, List.append_nil]
    · have hless := length_unseen_lt hnext
      have hrest : (unseen index (seen ++ freshNames seen (mentions level))).length ≤ fuel := by
        omega
      obtain ⟨levels, hwalk, heq⟩ := ih hrest (nextLevel index seen level)
      refine ⟨level :: levels, .round hlevel hwalk, ?_⟩
      rw [heq, List.flatten_cons]

end Termination

section Distance

theorem Climb.find? (hc : index.find? c.qualifiedName .all = some c)
    (h : Climb index c n d) : index.find? d.qualifiedName .all = some d := by
  cases h with
  | start => exact hc
  | step _ hsuper =>
    obtain ⟨name, -, hfound⟩ := isSuper_iff.mp hsuper
    rwa [qualifiedName_of_find? hfound]

theorem exists_climb_iff :
    (∃ n, Climb index c n d) ↔ Relation.ReflTransGen (IsSuper index) c d := by
  constructor
  · rintro ⟨n, hclimb⟩
    induction hclimb with
    | start => exact .refl
    | step _ hsuper ih => exact ih.tail hsuper
  · intro hreach
    induction hreach with
    | refl => exact ⟨0, .start⟩
    | tail _ hsuper ih =>
      obtain ⟨n, hclimb⟩ := ih
      exact ⟨n + 1, hclimb.step hsuper⟩

theorem Climb.exists_atDistance (h : Climb index c n d) : ∃ m ≤ n, AtDistance index c m d := by
  classical
  have hex : ∃ m, Climb index c m d := ⟨n, h⟩
  refine ⟨Nat.find hex, Nat.find_min' hex h, Nat.find_spec hex, fun m hm => ?_⟩
  exact Nat.find_min' hex hm

theorem atDistance_zero : AtDistance index c 0 d ↔ d = c := by
  constructor
  · rintro ⟨hclimb, -⟩
    cases hclimb
    rfl
  · rintro rfl
    exact ⟨.start, fun m _ => m.zero_le⟩

/-- On a shortest climb, what comes before the last step is at its own distance. -/
theorem AtDistance.pred (h : AtDistance index c (n + 1) d) :
    ∃ e, AtDistance index c n e ∧ IsSuper index e d := by
  obtain ⟨hclimb, hleast⟩ := h
  cases hclimb with
  | @step _ e _ hclimb hsuper =>
    refine ⟨e, ⟨hclimb, fun m hm => ?_⟩, hsuper⟩
    exact Nat.le_of_succ_le_succ (hleast _ (hm.step hsuper))

theorem AtDistance.exists_of_add {i : Nat} (h : AtDistance index c (n + i) d) :
    ∃ e, AtDistance index c n e := by
  induction i generalizing d with
  | zero => exact ⟨d, h⟩
  | succ i ih =>
    obtain ⟨e, he, -⟩ := AtDistance.pred h
    exact ih he

/-- What holds when a round begins: the level is what is `n` steps away, and of what the index
finds, what is no further away has been seen. -/
structure Frontier (index : ClassIndex) (c : ClassDecl) (n : Nat) (seen : List String)
    (level : List ClassDecl) : Prop where
  mem_level : ∀ d, d ∈ level ↔ AtDistance index c n d
  mem_seen : ∀ d, index.find? d.qualifiedName .all = some d →
    (d.qualifiedName ∈ seen ↔ ∃ m ≤ n, AtDistance index c m d)

theorem Frontier.start (hc : index.find? c.qualifiedName .all = some c) :
    Frontier index c 0 [c.qualifiedName] [c] where
  mem_level d := List.mem_singleton.trans atDistance_zero.symm
  mem_seen d hd := by
    rw [List.mem_singleton]
    constructor
    · intro heq
      rw [heq, hc] at hd
      obtain rfl := Option.some.inj hd
      exact ⟨0, Nat.le_refl 0, atDistance_zero.mpr rfl⟩
    · rintro ⟨m, hm, hd⟩
      obtain rfl := Nat.le_zero.mp hm
      rw [atDistance_zero.mp hd]

theorem Frontier.next (hc : index.find? c.qualifiedName .all = some c)
    (h : Frontier index c n seen level) :
    Frontier index c (n + 1) (seen ++ freshNames seen (mentions level))
      (nextLevel index seen level) := by
  have hlevel : ∀ d, d ∈ nextLevel index seen level ↔ AtDistance index c (n + 1) d := by
    intro d
    rw [mem_nextLevel]
    constructor
    · rintro ⟨hfound, hseen, e, he, hsuper⟩
      obtain ⟨hclimb, -⟩ := (h.mem_level e).mp he
      refine ⟨hclimb.step hsuper, fun m hm => ?_⟩
      -- a shorter climb would have led to `d` before
      by_contra hlt
      obtain ⟨k, hk, hdist⟩ := hm.exists_atDistance
      exact hseen ((h.mem_seen d hfound).mpr ⟨k, by omega, hdist⟩)
    · intro hdist
      have hfound := hdist.1.find? hc
      obtain ⟨e, he, hsuper⟩ := hdist.pred
      refine ⟨hfound, fun hseen => ?_, e, (h.mem_level e).mpr he, hsuper⟩
      obtain ⟨m, hm, hd⟩ := (h.mem_seen d hfound).mp hseen
      have := hdist.2 m hd.1
      omega
  refine ⟨hlevel, fun d hd => ?_⟩
  rw [mem_seen_append hd, h.mem_seen d hd, hlevel]
  constructor
  · rintro (⟨m, hm, hdist⟩ | hdist)
    · exact ⟨m, Nat.le_succ_of_le hm, hdist⟩
    · exact ⟨n + 1, Nat.le_refl _, hdist⟩
  · rintro ⟨m, hm, hdist⟩
    obtain hm | rfl := Nat.le_succ_iff.mp hm
    · exact .inl ⟨m, hm, hdist⟩
    · exact .inr hdist

/-- The levels of a walk are the distances, counted from where it is. -/
theorem Walk.mem_getD (hc : index.find? c.qualifiedName .all = some c)
    (h : Walk index seen level levels) (hfront : Frontier index c n seen level) (i : Nat) :
    d ∈ levels.getD i [] ↔ AtDistance index c (n + i) d := by
  induction h generalizing n i with
  | done seen =>
    -- what is further away would have something before it on the level that is empty
    refine iff_of_false (by simp) fun hdist => ?_
    obtain ⟨e, he⟩ := hdist.exists_of_add
    cases (hfront.mem_level e).mpr he
  | round _ _ ih =>
    cases i with
    | zero => exact hfront.mem_level d
    | succ i =>
      rw [List.getD_cons_succ, ih (hfront.next hc) i, Nat.add_right_comm, Nat.add_assoc]

end Distance

section Order

/-- The classes of a level stand in the order in which the level before first mentions them. -/
def InMentionOrder (previous level : List ClassDecl) : Prop :=
  level.Pairwise fun d e =>
    (mentions previous).idxOf d.qualifiedName < (mentions previous).idxOf e.qualifiedName

theorem map_qualifiedName_nextLevel (index : ClassIndex) (seen : List String)
    (level : List ClassDecl) :
    (nextLevel index seen level).map (·.qualifiedName) =
      (freshNames seen (mentions level)).filter fun name => (index.find? name .all).isSome := by
  rw [nextLevel, List.map_filterMap, ← List.filterMap_eq_filter]
  congr 1
  funext name
  cases hfound : index.find? name .all with
  | none => simp [Option.guard, hfound]
  | some d => simp [Option.guard, hfound, qualifiedName_of_find? hfound]

theorem inMentionOrder_nextLevel (index : ClassIndex) (seen : List String)
    (level : List ClassDecl) : InMentionOrder level (nextLevel index seen level) := by
  have h := (pairwise_freshNames seen (mentions level)).filter
    fun name => (index.find? name .all).isSome
  rwa [← map_qualifiedName_nextLevel, List.pairwise_map] at h

theorem nodup_nextLevel (index : ClassIndex) (seen : List String) (level : List ClassDecl) :
    ((nextLevel index seen level).map (·.qualifiedName)).Nodup := by
  rw [map_qualifiedName_nextLevel]
  refine List.Nodup.filter _ ((pairwise_freshNames seen (mentions level)).imp ?_)
  rintro a b hlt rfl
  exact absurd hlt (Nat.lt_irrefl _)

theorem Walk.eq_of_mem_head? {next : List ClassDecl} (h : Walk index seen level levels)
    (hnext : next ∈ levels.head?) : next = level := by
  cases h with
  | done => cases hnext
  | round => exact (Option.some.inj hnext).symm

theorem Walk.isChain (h : Walk index seen level levels) : levels.IsChain InMentionOrder := by
  induction h with
  | done => exact .nil
  | round _ rest ih =>
    rw [List.isChain_cons]
    exact ⟨fun next hnext => rest.eq_of_mem_head? hnext ▸ inMentionOrder_nextLevel index _ _, ih⟩

theorem Walk.not_mem {names : List String} (h : Walk index seen level levels)
    (hsub : names ⊆ seen) (hlevel : ∀ d ∈ level, d.qualifiedName ∉ names) :
    ∀ d ∈ levels.flatten, d.qualifiedName ∉ names := by
  induction h with
  | done => simp
  | round _ _ ih =>
    intro d hd
    rw [List.flatten_cons, List.mem_append] at hd
    obtain hd | hd := hd
    · exact hlevel d hd
    · refine ih (List.subset_append_of_subset_left _ hsub) (fun e he hname => ?_) d hd
      exact (mem_nextLevel.mp he).2.1 (hsub hname)

/-- No class is met again: what a level has is seen by then, and what follows is not. -/
theorem Walk.nodup (h : Walk index seen level levels)
    (hlevel : (level.map (·.qualifiedName)).Nodup)
    (hseen : ∀ d ∈ level, d.qualifiedName ∈ seen) :
    (levels.flatten.map (·.qualifiedName)).Nodup := by
  induction h with
  | done => exact .nil
  | @round seen level levels _ rest ih =>
    have hrest := ih (nodup_nextLevel index seen level) fun d hd => by
      obtain ⟨hfound, -⟩ := mem_nextLevel.mp hd
      exact (mem_seen_append hfound).mpr (.inr hd)
    have hlater := rest.not_mem (List.subset_append_left seen _) fun d hd =>
      (mem_nextLevel.mp hd).2.1
    rw [List.flatten_cons, List.map_append, List.nodup_append']
    refine ⟨hlevel, hrest, fun name hname hmem => ?_⟩
    obtain ⟨d, hd, rfl⟩ := List.mem_map.mp hname
    obtain ⟨e, he, heq⟩ := List.mem_map.mp hmem
    exact hlater e he (heq ▸ hseen d hd)

end Order

theorem mem_flatten_iff_exists_getD : d ∈ levels.flatten ↔ ∃ n, d ∈ levels.getD n [] := by
  induction levels with
  | nil => simp
  | cons level levels ih =>
    rw [List.flatten_cons, List.mem_append, ih]
    constructor
    · rintro (hd | ⟨n, hd⟩)
      · exact ⟨0, hd⟩
      · exact ⟨n + 1, hd⟩
    · rintro ⟨n, hd⟩
      cases n with
      | zero => exact .inl hd
      | succ n => exact .inr ⟨n, hd⟩

/-- `levels` are the classes that can be reached from `c` through super types, each once, the
nearest first. -/
structure IsBreadthFirst (index : ClassIndex) (c : ClassDecl) (levels : List (List ClassDecl)) :
    Prop where
  head : levels.head? = some [c]
  nodup : (levels.flatten.map (·.qualifiedName)).Nodup
  mem_iff : ∀ d, d ∈ levels.flatten ↔ Relation.ReflTransGen (IsSuper index) c d
  distance : ∀ n d, d ∈ levels.getD n [] ↔ AtDistance index c n d
  order : levels.IsChain InMentionOrder

theorem Walk.isBreadthFirst (hc : index.find? c.qualifiedName .all = some c)
    (h : Walk index [c.qualifiedName] [c] levels) : IsBreadthFirst index c levels := by
  have hdist : ∀ n d, d ∈ levels.getD n [] ↔ AtDistance index c n d := fun n d => by
    rw [h.mem_getD hc (.start hc), Nat.zero_add]
  refine ⟨?_, h.nodup (List.nodup_singleton _) (by simp), fun d => ?_, hdist, h.isChain⟩
  · cases h
    rfl
  · rw [mem_flatten_iff_exists_getD, ← exists_climb_iff]
    simp only [hdist]
    constructor
    · rintro ⟨n, hclimb, -⟩
      exact ⟨n, hclimb⟩
    · rintro ⟨n, hclimb⟩
      obtain ⟨m, -, hd⟩ := hclimb.exists_atDistance
      exact ⟨m, hd⟩

/-- The walk that begins with a class of the index ends, and its levels are a breadth-first order of
all that can be reached. -/
theorem allFields_breadthFirst (h : index.find? c.qualifiedName .all = some c) :
    ∃ levels, Walk index [c.qualifiedName] [c] levels ∧
      index.allFields c = levels.flatten.flatMap (·.fields) ∧ IsBreadthFirst index c levels := by
  have hfuel : (unseen index [c.qualifiedName]).length ≤ index.size :=
    List.length_filter_le _ _
  obtain ⟨levels, hwalk, heq⟩ := exists_walk hfuel [c]
  refine ⟨levels, hwalk, ?_, hwalk.isBreadthFirst h⟩
  unfold allFields hierarchy
  rw [heq]

def extending (name : String) (supers : List String) (field : String) : ClassDecl :=
  { ClassDecl.ofQualifiedName name with
    superTypes := supers.map .ofClass
    fields := [{ name := field, type := .primitive .int }] }

def circleCart : ClassDecl :=
  extending "shop.Cart" ["shop.Basket", "lib.Gone", "lib.Audited"] "total"

/-- Two super types share a third one, which extends the class that the walk begins with. -/
def circleIndex : ClassIndex :=
  ⟨[⟨circleCart, .project⟩,
    ⟨extending "shop.Basket" ["lib.Entity"] "items", .project⟩,
    ⟨extending "lib.Audited" ["lib.Entity", "shop.Basket"] "author", .library⟩,
    ⟨extending "lib.Entity" ["shop.Cart"] "id", .library⟩]⟩

theorem allFields_breadthFirst_circleIndex :
    circleIndex.find? circleCart.qualifiedName .all = some circleCart ∧
      (circleIndex.allFields circleCart).map (·.name) = ["total", "items", "author", "id"] ∧
      ∃ levels, Walk circleIndex [circleCart.qualifiedName] [circleCart] levels ∧
        circleIndex.allFields circleCart = levels.flatten.flatMap (·.fields) ∧
        IsBreadthFirst circleIndex circleCart levels :=
  ⟨rfl, by decide, allFields_breadthFirst rfl⟩

end MockScaffold.ClassIndex
