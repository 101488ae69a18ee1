import ServerLauncher.Command.Standard
import ServerLauncher.Proofs.Acquisition
import ServerLauncher.Proofs.Results

/-!
# Command lines that are understood

What is relied on of the library for command lines, and that the one which the program runs with can
be relied on.  What a command line chooses can be read off its words; whether the values that it
gives may be used is a question about the files, but not which they are.

## Main definitions

* `Command.Interface.IsLawful`: what is relied on of a library for command lines.
* `Command.Interface.Understands`: a command line is understood as some choices and a task.
* `Command.Permits`: the values of some options may be used on a machine.

## Main statements

* `parseOptions_known`: only known options are read.
* `Command.standard_isLawful`: the library that the program runs with can be relied on.
* `Command.standard_understands`: the words that it understands.
-/

namespace ServerLauncher

namespace Command.Interface

/-- What is relied on of a library for command lines. -/
structure IsLawful (i : Interface) : Prop where
  /-- Words that were understood are understood again as long as the path of the configuration leads
  to no directory and that of the installation directory to no file. -/
  again : ∀ {words rest : List String} {choices : Choices} {m m' : Machine},
    i.choices words m = .ok (choices, rest) →
    (∀ path, choices.configPath = some path → m'.files.isDirectory m'.location path = false) →
    m'.files.isFile m'.location choices.installDir = false →
    i.choices words m' = .ok (choices, rest)
  /-- An error that is shown to the user is no success. -/
  failed : ∀ text, (i.failed text).exitCode ≠ 0

/-- The words of a command line are understood on a machine as some choices and a task.  The task
does not depend on the machine. -/
def Understands (i : Interface) (words : List String) (m : Machine) (choices : Choices)
    (task : Task) : Prop :=
  ∃ rest, i.choices words m = .ok (choices, rest) ∧ ∀ m', i.task rest m' = .ok task

end Command.Interface

/-! ## Options -/

section Options

variable {known : List CommandOption} {mixed : Bool} {words : List String} {line : CommandLine}

/-- A name is the main name of an option that is known. -/
def IsKnown (known : List CommandOption) (name : String) : Prop := ∃ o ∈ known, o.name = name

theorem mem_of_findOption {short : Bool} {name : String} {o : CommandOption}
    (h : findOption known short name = some o) : o ∈ known := by
  unfold findOption at h
  split_ifs at h
  exact List.mem_of_find?_eq_some h

theorem shortOptions_known {cs : List Char} {flags : List String}
    {last : Option (CommandOption × Option String)}
    (h : shortOptions known cs = .ok (flags, last)) :
    (∀ name ∈ flags, IsKnown known name) ∧ ∀ entry, last = some entry → entry.1 ∈ known := by
  induction cs generalizing flags with
  | nil =>
    cases h
    exact ⟨by simp, by simp⟩
  | cons c rest ih =>
    unfold shortOptions at h
    dsimp only at h
    rcases hfind : findOption known true (String.ofList ['-', c]) with _ | o
    · rw [hfind] at h
      cases h
    · rw [hfind] at h
      dsimp only at h
      have ho := mem_of_findOption hfind
      by_cases hvalue : o.takesValue
      · rw [if_pos hvalue] at h
        cases h
        exact ⟨by simp, by simp [ho]⟩
      · rw [if_neg hvalue] at h
        rcases hrest : shortOptions known rest with issue | ⟨flags', last'⟩
        · rw [hrest] at h
          cases h
        · rw [hrest] at h
          cases h
          obtain ⟨hflags, hlast⟩ := ih hrest
          exact ⟨List.forall_mem_cons.mpr ⟨⟨o, ho, rfl⟩, hflags⟩, hlast⟩

theorem optionsOf_known {word : String} {flags : List String}
    {last : Option (String × Option String)} (h : optionsOf known word = .ok (flags, last)) :
    (∀ name ∈ flags, IsKnown known name) ∧ ∀ entry, last = some entry → IsKnown known entry.1 := by
  unfold optionsOf at h
  generalize cutValue word = cut at h
  obtain ⟨name, value⟩ := cut
  dsimp only at h
  rcases hfind : findOption known false name with _ | o
  · rw [hfind] at h
    dsimp only at h
    split_ifs at h
    rcases hshort : shortOptions known (word.toList.drop 1) with issue | ⟨flags', last'⟩
    · rw [hshort] at h
      cases h
    · rw [hshort] at h
      cases h
      obtain ⟨hflags, hlast⟩ := shortOptions_known hshort
      refine ⟨hflags, fun entry hentry => ?_⟩
      obtain ⟨entry', heq, rfl⟩ := Option.map_eq_some_iff.mp hentry
      exact ⟨entry'.1, hlast entry' heq, rfl⟩
  · rw [hfind] at h
    dsimp only at h
    have ho : IsKnown known o.name := ⟨o, mem_of_findOption hfind, rfl⟩
    split_ifs at h
    · cases h
      exact ⟨by simp, by simp [ho]⟩
    · cases h
      exact ⟨by simp [ho], by simp⟩

theorem options_withFlags (flags : List String) (line : CommandLine) :
    (flags.foldr (fun name line => line.withOption name none) line).options =
      flags.map (·, none) ++ line.options := by
  induction flags with
  | nil => rfl
  | cons name rest ih =>
    rw [List.foldr_cons, CommandLine.withOption, ih]
    rfl

/-- Only known options are read. -/
theorem parseOptions_known (h : parseOptions known mixed words = .ok line) :
    ∀ entry ∈ line.options, IsKnown known entry.1 := by
  have hflags {flags : List String} (hknown : ∀ name ∈ flags, IsKnown known name)
      {line : CommandLine} (hline : ∀ entry ∈ line.options, IsKnown known entry.1) :
      ∀ entry ∈ (flags.foldr (fun name line => line.withOption name none) line).options,
        IsKnown known entry.1 := by
    rw [options_withFlags, List.forall_mem_append]
    refine ⟨fun entry hentry => ?_, hline⟩
    obtain ⟨name, hname, rfl⟩ := List.mem_map.mp hentry
    exact hknown name hname
  have hvalue {name : String} {value : Option String} (hname : IsKnown known name)
      {line : CommandLine} (hline : ∀ entry ∈ line.options, IsKnown known entry.1) :
      ∀ entry ∈ (line.withOption name value).options, IsKnown known entry.1 :=
    List.forall_mem_cons.mpr ⟨hname, hline⟩
  -- A value stands in the word of its option, in the next word, or is missing.
  fun_induction parseOptions known mixed words generalizing line with
  | case1 | case2 =>
    cases h
    simp
  | case3 => cases h
  | case4 word _ _ flags withFlags rest hoptions =>
    rename_i ih
    obtain ⟨line', hline, rfl⟩ := map_eq_ok_iff.mp h
    exact hflags (optionsOf_known hoptions).1 (ih hline)
  | case5 word _ _ flags withFlags name value rest hoptions =>
    rename_i ih
    obtain ⟨line', hline, rfl⟩ := map_eq_ok_iff.mp h
    obtain ⟨hknown, hlast⟩ := optionsOf_known hoptions
    exact hflags hknown (hvalue (hlast _ rfl) (ih hline))
  | case6 word _ _ flags withFlags name value rest hoptions =>
    rename_i ih
    obtain ⟨line', hline, rfl⟩ := map_eq_ok_iff.mp h
    obtain ⟨hknown, hlast⟩ := optionsOf_known hoptions
    exact hflags hknown (hvalue (hlast _ rfl) (ih hline))
  | case7 => cases h
  | case8 word rest _ _ _ ih =>
    obtain ⟨line', hline, rfl⟩ := map_eq_ok_iff.mp h
    have hoptions := ih hline
    exact hoptions
  | case9 =>
    cases h
    simp

end Options

namespace Command

variable {command : Option String} {known : List CommandOption} {standard : String → Option String}
  {mixed : Bool} {words : List String} {line : CommandLine} {m m' : Machine} {home : String}

/-! ## Values -/

/-- The values that some options give may be used on a machine. -/
def Permits (command : Option String) (known : List CommandOption)
    (standard : String → Option String) (line : CommandLine) (m : Machine) : Prop :=
  ∀ name ∈ checkOrder known line, ∀ value,
    (line.value? name).or (standard name) = some value → valueEnding? command m name value = none

theorem isKnown_of_mem_checkOrder (h : parseOptions known mixed words = .ok line) {name : String}
    (hname : name ∈ checkOrder known line) : IsKnown known name := by
  unfold checkOrder at hname
  rcases List.mem_append.mp hname with hgiven | hother
  · rw [Acquirer.mem_distinct] at hgiven
    obtain ⟨entry, hentry, rfl⟩ := List.mem_map.mp hgiven
    exact parseOptions_known h entry hentry
  · exact List.mem_map.mp (List.mem_of_mem_filter hother)

/-- Options whose values are texts are always permitted. -/
theorem permits_of_text (h : parseOptions known mixed words = .ok line)
    (htext : ∀ o ∈ known, valueKind o.name = .text) : Permits command known standard line m := by
  intro name hname value _
  obtain ⟨o, ho, rfl⟩ := isKnown_of_mem_checkOrder h hname
  rw [valueEnding?, htext o ho]

/-- Options are read if the words can be parsed, do not ask for the usage, and give only values that
may be used. -/
theorem readOptions_eq_ok_iff : readOptions command known standard mixed words m = .ok line ↔
    parseOptions known mixed words = .ok line ∧ line.has helpOption.name = false ∧
      Permits command known standard line m := by
  unfold readOptions
  rcases hparse : parseOptions known mixed words with issue | line'
  · simp
  dsimp only
  rw [Except.ok.injEq]
  have hpermits : ((checkOrder known line').findSome? fun name =>
      ((line'.value? name).or (standard name)).bind (valueEnding? command m name)) = none ↔
        Permits command known standard line' m := by
    simp only [List.findSome?_eq_none_iff, Option.bind_eq_none_iff, Permits]
  rcases hhelp : line'.has helpOption.name with _ | _
  · rw [if_neg Bool.false_ne_true]
    split
    next ending hending =>
      refine iff_of_false nofun ?_
      rintro ⟨rfl, -, hnone⟩
      exact nomatch hending.symm.trans (hpermits.mpr hnone)
    next hnone =>
      rw [Except.ok.injEq]
      constructor
      · rintro rfl
        exact ⟨rfl, hhelp, hpermits.mp hnone⟩
      · exact fun h => h.1
  · rw [if_pos rfl]
    refine iff_of_false nofun ?_
    rintro ⟨rfl, hno, -⟩
    exact nomatch hhelp.symm.trans hno

/-- Values that were permitted before the command are so again if no file has become a directory or
the other way round. -/
theorem permits_again {mixed : Bool} (hwords : parseOptions programOptions mixed words = .ok line)
    (h : Permits none programOptions (standardValue home) line m)
    (hconfig : ∀ path, (choicesOf home line).configPath = some path →
      m'.files.isDirectory m'.location path = false)
    (hdir : m'.files.isFile m'.location (choicesOf home line).installDir = false) :
    Permits none programOptions (standardValue home) line m' := by
  intro option hoption value hvalue
  have hbefore := h option hoption value hvalue
  obtain ⟨o, ho, rfl⟩ := isKnown_of_mem_checkOrder hwords hoption
  simp only [programOptions, List.mem_cons, List.not_mem_nil, or_false] at ho
  rcases ho with rfl | rfl | rfl | rfl
  · have hpath : (choicesOf home line).configPath = some value := by
      simpa [CommandOption.name, standardValue, choicesOf] using hvalue
    have hfile := hconfig value hpath
    simp only [valueEnding?, valueKind, CommandOption.name, List.headD_cons] at hbefore ⊢
    rw [hfile, if_neg Bool.false_ne_true]
    split_ifs at hbefore ⊢
    · rfl
    · rfl
  · have hpath : (choicesOf home line).installDir = value := by
      unfold choicesOf
      have hchosen : (line.value? "--install-dir").or (some (standardInstallDir home)) =
          some value := hvalue
      rw [Option.or_some, Option.some_inj] at hchosen
      exact hchosen
    rw [hpath] at hdir
    simp only [valueEnding?, valueKind, CommandOption.name, List.headD_cons] at hbefore ⊢
    rw [hdir, if_neg Bool.false_ne_true]
    split_ifs at hbefore ⊢
    rfl
  · exact hbefore
  · exact hbefore

/-! ## Command lines -/

variable {choices : Choices} {rest : List String}

theorem readProgramOptions_eq_ok_iff : readProgramOptions home words m = .ok (choices, rest) ↔
    ∃ line, readOptions none programOptions (standardValue home) false words m = .ok line ∧
      choices = choicesOf home line ∧ rest = line.arguments := by
  unfold readProgramOptions
  rw [bind_eq_ok_iff]
  constructor
  · rintro ⟨line, hline, hresult⟩
    cases hresult
    exact ⟨line, hline, rfl, rfl⟩
  · rintro ⟨line, hline, rfl, rfl⟩
    exact ⟨line, hline, rfl⟩

theorem readChoices_eq_ok_iff : readChoices home words m = .ok (choices, rest) ↔
    readProgramOptions home words m = .ok (choices, rest) ∧
      ∃ name own known, rest = name :: own ∧ commandOptions? name = some known := by
  unfold readChoices
  rcases readProgramOptions home words m with ending | ⟨choices', _ | ⟨name, own⟩⟩
  · simp
  · simp only [reduceCtorEq, false_iff, Except.ok.injEq, Prod.mk.injEq]
    rintro ⟨⟨-, rfl⟩, _, _, _, hrest, -⟩
    cases hrest
  · dsimp only
    rcases hknown : commandOptions? name with _ | known
    · simp only [reduceCtorEq, false_iff, Except.ok.injEq, Prod.mk.injEq]
      rintro ⟨⟨-, rfl⟩, _, _, _, hrest, hsome⟩
      cases hrest
      exact nomatch hknown.symm.trans hsome
    · simp only [Except.ok.injEq, Prod.mk.injEq]
      constructor
      · rintro ⟨rfl, rfl⟩
        exact ⟨⟨rfl, rfl⟩, name, own, known, rfl, hknown⟩
      · exact fun h => h.1

theorem mapError_eq_ok_iff {ε ε' α : Type} {x : Except ε α} {f : ε → ε'} {a : α} :
    x.mapError f = .ok a ↔ x = .ok a := by
  rcases x with e | b
  · simp [Except.mapError]
  · simp [Except.mapError]

/-- The library that the program runs with can be relied on. -/
theorem standard_isLawful (home : String) : (Interface.standard home).IsLawful where
  again h hconfig hdir := by
    obtain ⟨hchoices, hcommand⟩ := readChoices_eq_ok_iff.mp (mapError_eq_ok_iff.mp h)
    obtain ⟨line, hline, rfl, rfl⟩ := readProgramOptions_eq_ok_iff.mp hchoices
    obtain ⟨hparse, hhelp, hpermits⟩ := readOptions_eq_ok_iff.mp hline
    have hpermits' := permits_again hparse hpermits hconfig hdir
    have hline' := readOptions_eq_ok_iff.mpr ⟨hparse, hhelp, hpermits'⟩
    have hchoices' := readProgramOptions_eq_ok_iff.mpr ⟨line, hline', rfl, rfl⟩
    exact mapError_eq_ok_iff.mpr (readChoices_eq_ok_iff.mpr ⟨hchoices', hcommand⟩)
  failed _ := Nat.one_ne_zero

/-- Words are understood that can be parsed, do not ask for the usage and, before the command, give
only values that may be used.  Those of the command must be texts. -/
theorem standard_understands {line own : CommandLine} {name : String} {words' : List String}
    (hwords : parseOptions programOptions false words = .ok line)
    (hhelp : line.has helpOption.name = false)
    (hpermits : Permits none programOptions (standardValue home) line m)
    (harguments : line.arguments = name :: words') (hknown : commandOptions? name = some known)
    (htext : ∀ o ∈ known, valueKind o.name = .text)
    (hown : parseOptions known true words' = .ok own)
    (hownHelp : own.has helpOption.name = false) (hnone : own.arguments = []) :
    (Interface.standard home).Understands words m (choicesOf home line) (taskOf name own) := by
  have hline := readOptions_eq_ok_iff.mpr ⟨hwords, hhelp, hpermits⟩
  have hchoices := readProgramOptions_eq_ok_iff.mpr ⟨line, hline, rfl, harguments.symm⟩
  refine ⟨name :: words', mapError_eq_ok_iff.mpr (readChoices_eq_ok_iff.mpr
    ⟨hchoices, name, words', known, rfl, hknown⟩), fun m' => mapError_eq_ok_iff.mpr ?_⟩
  have hpermits' : Permits (some name) known (fun _ => none) own m' := permits_of_text hown htext
  have hcommand : readCommandOptions name known words' m' = .ok own := by
    unfold readCommandOptions
    rw [readOptions_eq_ok_iff.mpr ⟨hown, hownHelp, hpermits'⟩]
    simp [hnone, bind, Except.bind, pure, Except.pure]
  rw [readTask, hknown]
  dsimp only
  rw [hcommand]
  rfl

end Command

end ServerLauncher
