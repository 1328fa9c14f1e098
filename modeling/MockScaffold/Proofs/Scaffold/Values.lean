import MockScaffold.Proofs.JavaType.RoundTrip
import MockScaffold.Scaffold.Category
import MockScaffold.Scaffold.Synthesis

namespace MockScaffold

namespace TypeRef

theorem getLast?_moreText (args : List TypeRef) : (moreText args).getLast? = some '>' := by
  induction args with
  | nil => rfl
  | cons arg args ih =>
    rw [moreText, ← List.cons_append, ← List.cons_append, List.getLast?_append, ih, Option.some_or]

/-- A text that is no keyword and ends with no bracket can only be that of a class without
arguments. -/
theorem eq_ofClass_of_canonical {type : TypeRef} {text : String} (h : type.canonical = text)
    (hkeyword : ofKeyword? text = none)
    (hend : text.toList.getLast? ≠ some '>' ∧ text.toList.getLast? ≠ some ']') :
    type = .ofClass text := by
  subst h
  cases type with
  | void => cases hkeyword
  | primitive p =>
    have hword : ofKeyword? p.keyword = some (.primitive p) := (isClassName_keyword p).2.2.2
    rw [canonical, spell, hword] at hkeyword
    cases hkeyword
  | array element =>
    refine absurd ?_ hend.2
    rw [toList_canonical_array, List.getLast?_append]
    rfl
  | named name args =>
    cases args with
    | nil => rw [← ofClass, canonical_ofClass]
    | cons arg args =>
      refine absurd ?_ hend.1
      rw [toList_canonical_args, ← List.cons_append, ← List.append_assoc, List.getLast?_append,
        getLast?_moreText, Option.some_or]

end TypeRef

namespace Scaffold

open Seeded (WordStream)

/-- A literal with which a constant of the primitive type can start. -/
inductive IsLiteral : Primitive → String → Prop
  | whole {p : Primitive} {n : Nat} : p.isIntegral = true → n < 100 → IsLiteral p (toString n)
  | double (tenths : Nat) : IsLiteral .double (WordStream.oneDecimal tenths)
  | float (tenths : Nat) : IsLiteral .float (WordStream.oneDecimal tenths ++ "f")
  | boolean : IsLiteral .boolean "true"
  | char : IsLiteral .char "'a'"

/-- What makes a value of a library class, for a constant of this name. -/
def libraryValues (fieldName : String) : List (String × String) :=
  [(Known.uuid, "UUID.randomUUID()"), (Known.instant, "Instant.now()"),
    (Known.zonedDateTime, "ZonedDateTime.now()"), (Known.string, "\"" ++ fieldName ++ "\"")]

/-- A text that stands for a value of the type: a literal of a primitive type, the first constant of
what the index has as an enumeration, and else a value of one of the library classes. -/
inductive IsValueText (index : ClassIndex) (fieldName : String) : TypeRef → String → Prop
  | literal {p : Primitive} {text : String} : IsLiteral p text →
      IsValueText index fieldName (.primitive p) text
  | enumConstant {type : TypeRef} {c : ClassDecl} {constant : String} {rest : List String} :
      index.resolve? type .all = some c → c.isEnum = true → c.enumConstants = constant :: rest →
      IsValueText index fieldName type (c.name ++ "." ++ constant)
  | library {name text : String} : index.isEnumType (.ofClass name) = false →
      (name, text) ∈ libraryValues fieldName → IsValueText index fieldName (.ofClass name) text

/-- The type is an enumeration that has no constants. -/
def IsEmptyEnum (index : ClassIndex) (type : TypeRef) : Prop :=
  ∃ c, index.resolve? type .all = some c ∧ c.isEnum = true ∧ c.enumConstants = []

section Literals

variable {p : Primitive} {text : String}

theorem smallInt_lt (stream : WordStream) : stream.smallInt.1 < 100 := by
  have hx := stream.next32.1.toNat_lt
  have hsize : UInt32.size = 4294967296 := rfl
  unfold WordStream.smallInt
  dsimp only
  rw [hsize]
  -- Rounding up never leads beyond 99, as the highest words leave no room for it.
  split
  · dsimp only
    split <;> omega
  · omega

theorem isLiteral_primitiveLiteral (p : Primitive) (stream : WordStream) :
    IsLiteral p (primitiveLiteral p stream).1 := by
  cases p with
  | boolean => exact .boolean
  | char => exact .char
  | double => exact .double _
  | float => exact .float _
  | byte | short | int | long => exact .whole rfl (smallInt_lt stream)

theorem ne_null_of_dot_mem (h : '.' ∈ text.toList) : text ≠ "null" := by
  rintro rfl
  revert h
  decide

theorem dot_mem_oneDecimal (tenths : Nat) : '.' ∈ (WordStream.oneDecimal tenths).toList := by
  simp [WordStream.oneDecimal]

theorem IsLiteral.ne_null (h : IsLiteral p text) : text ≠ "null" := by
  cases h with
  | @whole _ n _ hn =>
    revert n
    decide +kernel
  | double tenths => exact ne_null_of_dot_mem (dot_mem_oneDecimal tenths)
  | float tenths =>
    refine ne_null_of_dot_mem ?_
    rw [String.toList_append]
    exact List.mem_append_left _ (dot_mem_oneDecimal tenths)
  | boolean => decide
  | char => decide

end Literals

section Values

variable {index : ClassIndex} {type : TypeRef} {fieldName text : String} {stream : WordStream}

theorem initializer_of_isEnum {c : ClassDecl} (hc : index.resolve? type .all = some c)
    (henum : c.isEnum = true) : (initializer index type fieldName stream).1 = enumLiteral c := by
  cases type with
  | primitive p => cases hc
  | void | named | array =>
    unfold initializer
    dsimp only
    rw [hc]
    dsimp only
    rw [if_pos henum]

theorem initializer_of_class {name : String} (h : index.isEnumType (.ofClass name) = false) :
    (initializer index (.ofClass name) fieldName stream).1 =
      classLiteral (some name) fieldName := by
  unfold initializer
  dsimp only [TypeRef.ofClass]
  rw [ClassIndex.isEnumType, TypeRef.ofClass, Option.any_eq_false] at h
  split
  · rename_i c hc
    rw [if_neg (Bool.eq_false_iff.mp (h c hc))]
    rfl
  · rfl

theorem mem_libraryValues {name : String} (h : name ∈ valueClasses) (fieldName : String) :
    (name, classLiteral (some name) fieldName) ∈ libraryValues fieldName := by
  simp only [valueClasses, List.mem_cons, List.not_mem_nil, or_false] at h
  rcases h with rfl | rfl | rfl | rfl <;>
    simp [libraryValues, classLiteral, Known.uuid, Known.string, Known.instant,
      Known.zonedDateTime]

theorem ne_null_of_mem_libraryValues {name : String} (h : (name, text) ∈ libraryValues fieldName) :
    text ≠ "null" := by
  simp only [libraryValues, List.mem_cons, Prod.mk.injEq, List.not_mem_nil, or_false] at h
  rcases h with ⟨-, rfl⟩ | ⟨-, rfl⟩ | ⟨-, rfl⟩ | ⟨-, rfl⟩
  · decide
  · decide
  · decide
  · intro heq
    -- A quotation mark comes first, whatever the name is.
    have hhead := congrArg (fun text => text.toList.head?) heq
    simp at hhead

theorem IsValueText.ne_null (h : IsValueText index fieldName type text) : text ≠ "null" := by
  cases h with
  | literal hliteral => exact hliteral.ne_null
  | enumConstant => exact ne_null_of_dot_mem (by simp)
  | library _ hmem => exact ne_null_of_mem_libraryValues hmem

/-- A value type is primitive, an enumeration, or else one of the library classes. -/
theorem isValueType_cases (h : isValueType index type = true) :
    (∃ p, type = .primitive p) ∨
      (∃ c, index.resolve? type .all = some c ∧ c.isEnum = true) ∨
        index.isEnumType type = false ∧ ∃ name ∈ valueClasses, type = .ofClass name := by
  have hplain : ∀ name ∈ valueClasses, TypeRef.ofKeyword? name = none ∧
      name.toList.getLast? ≠ some '>' ∧ name.toList.getLast? ≠ some ']' := by
    decide +kernel
  cases henum : index.isEnumType type with
  | true => exact .inr (.inl ((Option.any_eq_true _ _).mp henum))
  | false =>
    rw [isValueType, henum, Bool.or_false, Bool.or_eq_true, List.contains_iff_mem] at h
    rcases h with hprimitive | hclass
    · cases type with
      | primitive p => exact .inl ⟨p, rfl⟩
      | void | named | array => cases hprimitive
    · obtain ⟨hkeyword, hend⟩ := hplain _ hclass
      exact .inr (.inr ⟨rfl, _, hclass, TypeRef.eq_ofClass_of_canonical rfl hkeyword hend⟩)

theorem initializer_of_isEmptyEnum (h : IsEmptyEnum index type) :
    (initializer index type fieldName stream).1 = "null" := by
  obtain ⟨c, hc, henum, hconstants⟩ := h
  rw [initializer_of_isEnum hc henum, enumLiteral, hconstants]

theorem isEmptyEnum_or_isValueText (h : isValueType index type = true) :
    IsEmptyEnum index type ∨
      IsValueText index fieldName type (initializer index type fieldName stream).1 := by
  rcases isValueType_cases h with ⟨p, rfl⟩ | ⟨c, hc, henum⟩ | ⟨hnone, name, hname, rfl⟩
  · exact .inr (.literal (isLiteral_primitiveLiteral p stream))
  · cases hconstants : c.enumConstants with
    | nil => exact .inl ⟨c, hc, henum, hconstants⟩
    | cons constant rest =>
      rw [initializer_of_isEnum hc henum, enumLiteral, hconstants]
      exact .inr (.enumConstant hc henum hconstants)
  · rw [initializer_of_class hnone]
    exact .inr (.library hnone (mem_libraryValues hname fieldName))

/-- Every value type has a value for its constants, an enumeration without constants alone
excepted, and no class is asked for one that is neither an enumeration nor one of the library. -/
theorem initializer_of_isValueType (index : ClassIndex) (type : TypeRef) (fieldName : String)
    (stream : WordStream) (h : isValueType index type = true) :
    let text := (initializer index type fieldName stream).1
    (text = "null" ↔ IsEmptyEnum index type) ∧
    (text ≠ "null" → IsValueText index fieldName type text) ∧
    (∀ p, type = .primitive p → IsLiteral p text) ∧
    (type.isPrimitive = false → index.isEnumType type = false →
      ∃ name ∈ valueClasses, type.className? = some name) := by
  intro text
  have hcases : IsEmptyEnum index type ∨ IsValueText index fieldName type text :=
    isEmptyEnum_or_isValueText h
  refine ⟨⟨fun heq => hcases.resolve_right fun hvalid => hvalid.ne_null heq,
    initializer_of_isEmptyEnum⟩, fun hne => ?_, ?_, fun hprimitive hnone => ?_⟩
  · exact hcases.resolve_left fun hempty => hne (initializer_of_isEmptyEnum hempty)
  · rintro p rfl
    exact isLiteral_primitiveLiteral p stream
  · rcases isValueType_cases h with ⟨p, rfl⟩ | ⟨c, hc, henum⟩ | ⟨-, name, hname, rfl⟩
    · cases hprimitive
    · rw [ClassIndex.isEnumType, hc, Option.any_some, henum] at hnone
      cases hnone
    · exact ⟨name, hname, rfl⟩

/-- A class of the index that extends `java.lang.Enum` is an enumeration even under the name of a
library class, and without constants it leaves nothing to start with. -/
theorem initializer_of_isValueType_instant :
    let type : TypeRef := .ofClass Known.instant
    let own : ClassIndex :=
      ⟨[⟨{ ClassDecl.ofQualifiedName Known.instant with
          superTypes := [.ofClass "java.lang.Enum"] }, .project⟩]⟩
    isValueType own type = true ∧ (initializer own type "AT" (.ofSeed 3)).1 = "null" ∧
      isValueType {} type = true ∧
        IsValueText {} "AT" type (initializer {} type "AT" (.ofSeed 3)).1 := by
  intro type own
  have hown : isValueType own type = true := by decide +kernel
  have hempty : isValueType {} type = true := by decide +kernel
  refine ⟨hown, (initializer_of_isValueType own type "AT" _ hown).1.mpr ⟨_, rfl, ?_, rfl⟩, hempty,
    (initializer_of_isValueType {} type "AT" _ hempty).2.1 ?_⟩
  · decide +kernel
  · decide +kernel

end Values

end Scaffold

end MockScaffold
