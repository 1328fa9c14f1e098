import MockScaffold.JavaType.Parser

namespace MockScaffold.TypeToken

def EndsRun (text : List Char) : Prop :=
  ∀ c ∈ text.head?, isNameChar c = false

theorem endsRun_nil : EndsRun [] := by
  intro c hc
  cases hc

theorem endsRun_cons {c : Char} (h : isNameChar c = false) (rest : List Char) :
    EndsRun (c :: rest) := by
  intro c' hc
  cases hc
  exact h

theorem scanAfter_append {name : List Char} (h : ∀ c ∈ name, isNameChar c = true)
    (run rest : List Char) : scanAfter run (name ++ rest) = scanAfter (run ++ name) rest := by
  induction name generalizing run with
  | nil => rw [List.nil_append, List.append_nil]
  | cons c name ih =>
    rw [List.cons_append, scanAfter, if_pos (h c List.mem_cons_self),
      ih (fun c' hc' => h c' (List.mem_cons_of_mem _ hc')), List.append_assoc]
    rfl

theorem scanAfter_of_endsRun {rest : List Char} (h : EndsRun rest) (run : List Char) :
    scanAfter run rest = ofRun run ++ scan rest := by
  cases rest with
  | nil => exact (List.append_nil (ofRun run)).symm
  | cons c rest =>
    have hc : ¬isNameChar c = true := by
      rw [h c rfl]
      exact Bool.false_ne_true
    rw [scan, scanAfter, scanAfter, if_neg hc, if_neg hc]
    split <;> rfl

theorem scan_name {name : String} (hne : name ≠ "") (h : name.toList.all isNameChar = true)
    {rest : List Char} (hrest : EndsRun rest) :
    scan (name.toList ++ rest) = .name name :: scan rest := by
  have hname : name.toList.isEmpty = false := by
    rw [List.isEmpty_eq_false_iff]
    exact fun hnil => hne (String.toList_eq_nil_iff.mp hnil)
  rw [scan, scanAfter_append (List.all_eq_true.mp h), List.nil_append,
    scanAfter_of_endsRun hrest, ofRun, hname]
  simp

theorem scan_mark {c : Char} (hname : isNameChar c = false) (hspace : isSpace c = false)
    (rest : List Char) : scan (c :: rest) = .mark c :: scan rest := by
  rw [scan, scanAfter, hname, hspace]
  rfl

theorem scan_blank (rest : List Char) : scan (' ' :: rest) = scan rest :=
  rfl

/-- A name token has at least one character, and only name characters. -/
def IsSound : TypeToken → Prop
  | .name text => text ≠ "" ∧ ∀ c ∈ text.toList, isNameChar c = true
  | .mark _ => True

theorem isSound_of_mem_ofRun {run : List Char} (h : ∀ c ∈ run, isNameChar c = true)
    {token : TypeToken} (htoken : token ∈ ofRun run) : token.IsSound := by
  unfold ofRun at htoken
  split at htoken
  · cases htoken
  · rename_i hne
    rw [List.mem_singleton.mp htoken]
    refine ⟨fun hempty => hne ?_, by rwa [String.toList_ofList]⟩
    have hnil := congrArg String.toList hempty
    rw [String.toList_ofList] at hnil
    rw [hnil]
    rfl

theorem isSound_of_mem_scanAfter {run text : List Char} (h : ∀ c ∈ run, isNameChar c = true)
    {token : TypeToken} (htoken : token ∈ scanAfter run text) : token.IsSound := by
  have hnil : ∀ c ∈ ([] : List Char), isNameChar c = true :=
    fun _ hc => absurd hc List.not_mem_nil
  induction text generalizing run with
  | nil => exact isSound_of_mem_ofRun h htoken
  | cons c rest ih =>
    unfold scanAfter at htoken
    split at htoken
    · rename_i hc
      refine ih (fun c' hc' => ?_) htoken
      rcases List.mem_append.mp hc' with hc' | hc'
      · exact h c' hc'
      · rwa [List.mem_singleton.mp hc']
    · split at htoken
      · rcases List.mem_append.mp htoken with htoken | htoken
        · exact isSound_of_mem_ofRun h htoken
        · exact ih hnil htoken
      · rcases List.mem_append.mp htoken with htoken | htoken
        · exact isSound_of_mem_ofRun h htoken
        · rcases List.mem_cons.mp htoken with rfl | htoken
          · trivial
          · exact ih hnil htoken

theorem isSound_of_mem_scan {text : List Char} {token : TypeToken}
    (htoken : token ∈ scan text) : token.IsSound :=
  isSound_of_mem_scanAfter (fun _ hc => absurd hc List.not_mem_nil) htoken

end MockScaffold.TypeToken
