import MockScaffold.Command.Invocation

namespace MockScaffold.Command

def Given.isOption (name : String) : Given → Bool
  | .option n _ => n == name
  | .positional _ | .help => false

/-- What is given besides the option of this name. -/
def without (name : String) (given : List Given) : List Given :=
  given.filter (!·.isOption name)

section Without

variable {name other : String} {given : List Given}

theorem valuesOf_without_self (name : String) (given : List Given) :
    valuesOf (without name given) name = [] := by
  refine List.filterMap_eq_nil_iff.mpr fun g hg => ?_
  obtain ⟨-, hkept⟩ := List.mem_filter.mp hg
  cases g with
  | option n value => simpa [Given.isOption] using hkept
  | positional | help => rfl

theorem valuesOf_without_of_ne (h : other ≠ name) (given : List Given) :
    valuesOf (without name given) other = valuesOf given other := by
  unfold valuesOf without
  rw [List.filterMap_filter]
  congr 1
  funext g
  cases g with
  | option n value =>
    by_cases hn : n = name
    · simp [Given.isOption, hn, h.symm]
    · simp [Given.isOption, hn]
  | positional | help => rfl

@[simp] theorem positionals_without (name : String) (given : List Given) :
    positionals (without name given) = positionals given := by
  unfold positionals without
  rw [List.filterMap_filter]
  congr 1
  funext g
  cases g with
  | option n value => exact ite_self none
  | positional | help => rfl

@[simp] theorem help_mem_without_iff : Given.help ∈ without name given ↔ Given.help ∈ given := by
  simp [without, Given.isOption]

@[simp] theorem single?_without_self (read : String → Option α) (name : String)
    (given : List Given) : single? read (without name given) name = some none := by
  rw [single?, valuesOf_without_self]

theorem single?_without_of_ne (h : other ≠ name) (read : String → Option α)
    (given : List Given) : single? read (without name given) other = single? read given other := by
  rw [single?, valuesOf_without_of_ne h, single?]

theorem flag?_without_of_ne (h : other ≠ name) (given : List Given) :
    flag? (without name given) other = flag? given other := by
  rw [flag?, single?_without_of_ne h, flag?]

@[simp] theorem onlyFile?_without (name : String) (given : List Given) :
    onlyFile? (without name given) = onlyFile? given := by
  rw [onlyFile?, positionals_without, onlyFile?]

theorem isProper_without {command : CommandSpec} (h : command.isProper given = true)
    (name : String) : command.isProper (without name given) = true := by
  unfold CommandSpec.isProper at h ⊢
  rw [positionals_without]
  dsimp only at h ⊢
  rw [Bool.and_eq_true, Bool.and_eq_true] at h ⊢
  refine ⟨⟨List.all_eq_true.mpr fun spec hspec => ?_, h.1.2⟩, h.2⟩
  by_cases hname : spec.name = name
  · rw [hname, valuesOf_without_self]
    rfl
  · rw [valuesOf_without_of_ne hname]
    exact List.all_eq_true.mp h.1.1 spec hspec

end Without

/-- An option that is written as `front` is left out with it, or stays with it. -/
theorem exists_readArguments?_without_cons {specs : List OptionSpec} {rest : List String}
    {n value name : String} {given : List Given} (front : List String)
    (hfront : ∀ rest, readArguments? specs (front ++ rest) =
      (readArguments? specs rest).map (.option n value :: ·))
    (hrest : ∃ args, args.Sublist rest ∧ readArguments? specs args = some (without name given)) :
    ∃ args, args.Sublist (front ++ rest) ∧
      readArguments? specs args = some (without name (.option n value :: given)) := by
  obtain ⟨args, hsub, hargs⟩ := hrest
  by_cases hn : n = name
  · refine ⟨args, hsub.trans (List.sublist_append_right _ _), ?_⟩
    rw [hargs]
    simp [without, Given.isOption, hn]
  · refine ⟨front ++ args, hsub.append_left front, ?_⟩
    rw [hfront, hargs]
    simp [without, Given.isOption, hn]

/-- A part of the command line gives what the whole gives without the option. -/
theorem exists_readArguments?_without {specs : List OptionSpec} {args : List String}
    {given : List Given} (h : readArguments? specs args = some given) (name : String) :
    ∃ args', args'.Sublist args ∧ readArguments? specs args' = some (without name given) := by
  -- one case for each way to read an argument; three of them read an option
  fun_induction readArguments? specs args generalizing given with
  | case1 =>
    cases h
    exact ⟨[], .refl _, rfl⟩
  | case2 arg rest hends =>
    cases h
    refine ⟨arg :: rest, .refl _, ?_⟩
    rw [readArguments?, if_pos hends, without, List.filter_eq_self.mpr]
    simp [Given.isOption]
  | case3 arg rest hends hvalue ih =>
    obtain ⟨given, hrest, rfl⟩ := Option.map_eq_some_iff.mp h
    obtain ⟨args, hsub, hargs⟩ := ih hrest
    refine ⟨arg :: args, hsub.cons_cons arg, ?_⟩
    rw [readArguments?, if_neg hends, if_pos hvalue, hargs]
    rfl
  | case4 arg rest hends hvalue hhelp =>
    cases h
    refine ⟨arg :: rest, .refl _, ?_⟩
    rw [readArguments?, if_neg hends, if_neg hvalue, if_pos hhelp]
    rfl
  | case6 arg rest hends hvalue hhelp spec value hoption htakes ih =>
    obtain ⟨given, hrest, rfl⟩ := Option.map_eq_some_iff.mp h
    refine exists_readArguments?_without_cons [arg] (fun rest => ?_) (ih hrest)
    simp [readArguments?, hends, hvalue, hhelp, hoption, htakes]
  | case8 arg hends hvalue hhelp spec hoption htakes value rest hlooks ih =>
    obtain ⟨given, hrest, rfl⟩ := Option.map_eq_some_iff.mp h
    refine exists_readArguments?_without_cons [arg, value] (fun rest => ?_) (ih hrest)
    simp [readArguments?, hends, hvalue, hhelp, hoption, htakes, hlooks]
  | case11 arg rest hends hvalue hhelp spec hoption hflag ih =>
    obtain ⟨given, hrest, rfl⟩ := Option.map_eq_some_iff.mp h
    refine exists_readArguments?_without_cons [arg] (fun rest => ?_) (ih hrest)
    simp [readArguments?, hends, hvalue, hhelp, hoption, hflag]
  | case5 | case7 | case9 | case10 => cases h

namespace Action

/-- Where the text of an action goes, if it is not printed. -/
def output? : Action → Option String
  | .generate args => args.output
  | .render _ output => output
  | .schema => none

def withoutOutput : Action → Action
  | .generate args => .generate { args with output := none }
  | .render file _ => .render file none
  | .schema => .schema

end Action

section Actions

variable {given : List Given} {action : Action}

theorem generateAction?_without (h : generateAction? given = some action) :
    generateAction? (without "output" given) = some action.withoutOutput := by
  simp only [generateAction?, Option.bind_eq_bind, Option.bind_eq_some_iff] at h
  obtain ⟨project, hproject, project, rfl, file, hfile, json, hjson, output, -, seed, hseed, force,
    hforce, heq⟩ := h
  obtain rfl := Option.some.inj heq
  rw [generateAction?, single?_without_of_ne (by decide), hproject, onlyFile?_without, hfile,
    flag?_without_of_ne (by decide), hjson, single?_without_self,
    single?_without_of_ne (by decide), hseed, flag?_without_of_ne (by decide), hforce]
  rfl

theorem renderAction?_without (h : renderAction? given = some action) :
    renderAction? (without "output" given) = some action.withoutOutput := by
  simp only [renderAction?, Option.bind_eq_bind, Option.bind_eq_some_iff] at h
  obtain ⟨file, hfile, output, -, heq⟩ := h
  obtain rfl := Option.some.inj heq
  rw [renderAction?, onlyFile?_without, hfile, single?_without_self]
  rfl

theorem schemaAction?_without (h : schemaAction? given = some action) :
    schemaAction? (without "output" given) = some action.withoutOutput := by
  unfold schemaAction? at h ⊢
  rw [positionals_without]
  split at h
  · rename_i hnone
    obtain rfl := Option.some.inj h
    exact if_pos hnone
  · cases h

end Actions

section Subcommand

variable {config config' : Option String} {command : CommandSpec}
  {action? : List Given → Option Action} {args : List String} {action : Action}

/-- What is needed of the arguments after the name of a command for the command to be run. -/
theorem subcommand_eq_run_iff :
    subcommand config command action? args = .run config' action ↔
      ∃ given own, readArguments? command.options args = some given ∧
        command.isProper given = true ∧ Given.help ∉ given ∧
          single? path? given "config" = some own ∧ action? given = some action ∧
            own.or config = config' := by
  unfold subcommand
  constructor
  · intro h
    split at h
    · cases h
    rename_i given hgiven
    split at h
    · cases h
    rename_i hproper
    split at h
    · cases h
    rename_i hhelp
    have hparsed := (Option.getD_eq_iff.mp h).resolve_right fun ⟨_, hrun⟩ => by cases hrun
    simp only [Option.bind_eq_bind, Option.bind_eq_some_iff] at hparsed
    obtain ⟨own, hown, parsed, haction, heq⟩ := hparsed
    obtain ⟨rfl, rfl⟩ := Invocation.run.inj (Option.some.inj heq)
    exact ⟨given, own, hgiven, by simpa using hproper, hhelp, hown, haction, rfl⟩
  · rintro ⟨given, own, hgiven, hproper, hhelp, hown, haction, rfl⟩
    simp [hgiven, hproper, hhelp, hown, haction]

theorem exists_subcommand_without
    (h : subcommand config command action? args = .run config' action)
    (haction : ∀ given, action? given = some action →
      action? (without "output" given) = some action.withoutOutput) :
    ∃ args', args'.Sublist args ∧
      subcommand config command action? args' = .run config' action.withoutOutput := by
  obtain ⟨given, own, hgiven, hproper, hhelp, hown, hsome, hconfig⟩ := subcommand_eq_run_iff.mp h
  obtain ⟨args', hsub, hargs'⟩ := exists_readArguments?_without hgiven "output"
  refine ⟨args', hsub, subcommand_eq_run_iff.mpr ⟨_, own, hargs', ?_, ?_, ?_, haction _ hsome,
    hconfig⟩⟩
  · exact isProper_without hproper "output"
  · exact fun hmem => hhelp (help_mem_without_iff.mp hmem)
  · rwa [single?_without_of_ne (by decide)]

end Subcommand

theorem helpFor_ne_run (names : List String) (config : Option String) (action : Action) :
    helpFor names ≠ .run config action := by
  unfold helpFor
  split
  · exact Invocation.noConfusion
  · split <;> exact Invocation.noConfusion
  · exact Invocation.noConfusion

/-- A command line from which a command is run has a part that runs the same without output. -/
theorem exists_readFrom_without {config config' : Option String} {args : List String}
    {action : Action} (h : readFrom config args = .run config' action) :
    ∃ args', args'.Sublist args ∧ readFrom config args' = .run config' action.withoutOutput := by
  -- what stands before the name of the command is kept as it is
  fun_induction readFrom config args with
  | case2 config rest =>
    obtain ⟨args, hsub, hargs⟩ := exists_subcommand_without h fun _ => generateAction?_without
    exact ⟨"generate" :: args, hsub.cons_cons _, hargs⟩
  | case3 config rest =>
    obtain ⟨args, hsub, hargs⟩ := exists_subcommand_without h fun _ => renderAction?_without
    exact ⟨"render" :: args, hsub.cons_cons _, hargs⟩
  | case4 config rest =>
    obtain ⟨args, hsub, hargs⟩ := exists_subcommand_without h fun _ => schemaAction?_without
    exact ⟨"schema" :: args, hsub.cons_cons _, hargs⟩
  | case5 config rest => exact absurd h (helpFor_ne_run rest config' action)
  | case8 arg hgenerate hrender hschema hhelp hversion hasks spec value rest hoption path hpath
      ih =>
    obtain ⟨args, hsub, hargs⟩ := ih h
    refine ⟨arg :: args, hsub.cons_cons arg, ?_⟩
    rw [readFrom.eq_6 _ _ _ hgenerate hrender hschema hhelp _ hoption, if_neg hversion,
      if_neg hasks, hpath]
    exact hargs
  | case10 arg hgenerate hrender hschema hhelp hversion hasks spec value rest hoption path hpath
      hlooks ih =>
    obtain ⟨args, hsub, hargs⟩ := ih h
    refine ⟨arg :: value :: args, (hsub.cons_cons value).cons_cons arg, ?_⟩
    rw [readFrom.eq_7 _ _ _ hgenerate hrender hschema hhelp _ hoption, if_neg hversion,
      if_neg hasks, hpath]
    exact (if_pos hlooks).trans hargs
  | case1 | case6 | case7 | case9 | case11 | case12 | case13 => cases h

end MockScaffold.Command
