import ClientGen.Console.Invocation

/-!
# The flags for how much is said

A command line may say in front of its command that less is to be said, or more
([isVerbosityFlag]). Without these flags it asks for the same ([of_withoutVerbosity]), only that it
is quiet and verbose no more ([Invocation.muted]). This is so because an option in front of a
command never takes the next argument for its value: each argument is read by itself
([readOption_cases]), so taking one away leaves what is read of the others.
-/

namespace ClientGen.Console

/-! ## Arguments in front of a command -/

/-- Whether an argument is an option, and does not end the options. -/
def isLeading (arg : String) : Bool := isOption arg && arg != "--"

/-- The options in front of a command. -/
def leadingOptions (args : List String) : List String := args.takeWhile isLeading

/-- The short names for how much is said, without their dash. -/
def verbosityLetters : List Char := ['q', 'v']

/-- The options for how much is said. -/
def verbosityNames : List String := ["--quiet", "--verbose"]

/-- Whether an argument says only how much is said: by a long name, or by short names that may be
written together. -/
def isVerbosityFlag (arg : String) : Bool :=
  verbosityNames.contains arg ||
    isOption arg && !Text.startsWith arg "--" && (arg.toList.drop 1).all verbosityLetters.contains

/-- A command line without these arguments in front of its command. -/
def withoutVerbosity (args : List String) : List String :=
  (leadingOptions args).filter (!isVerbosityFlag ·) ++ args.dropWhile isLeading

/-! ## Reading one argument -/

/-- An option has a name if it is its own one or one of the others. -/
theorem isNamed_iff {o : OptionSpec} {name : String} :
    o.isNamed name = true ↔ name ∈ o.name :: o.others := by
  rw [OptionSpec.isNamed, Bool.or_eq_true, beq_iff_eq, List.contains_iff_mem, List.mem_cons,
    eq_comm]

/-- No option in front of a command takes a value. -/
theorem takesValue_common : ∀ o ∈ commonOptions, o.takesValue = false := by decide

/-- Only two of them have short names. -/
theorem short_common : ∀ o ∈ commonOptions, ∀ name ∈ o.name :: o.others,
    name.toList.length = 2 → name = String.ofList ['-', 'q'] ∨ name = String.ofList ['-', 'v'] := by
  decide

/-- Those for how much is said have no other names. -/
theorem names_common : ∀ o ∈ commonOptions, o.name ∈ verbosityNames →
    ∀ name ∈ o.name :: o.others, name ∈ verbosityNames ∨ Text.startsWith name "--" = false := by
  decide

/-- Short names that are written together are read just if each is one of the two. -/
theorem readShort_cases (cs : List Char) :
    (cs.all verbosityLetters.contains = true ∧ ∃ given,
        readShort commonOptions cs = .ok (given, none) ∧ ∀ e ∈ given, e.1 ∈ verbosityNames) ∨
      (cs.all verbosityLetters.contains = false ∧ ∃ fault,
        readShort commonOptions cs = .error fault) := by
  induction cs with
  | nil => exact .inl ⟨rfl, [], rfl, List.forall_mem_nil _⟩
  | cons c rest ih =>
    by_cases hc : c ∈ verbosityLetters
    · -- The option is known, so what is read depends on the rest.
      have hfound : ∃ o, commonOptions.find? (·.isNamed (String.ofList ['-', c])) = some o ∧
          o.takesValue = false ∧ o.name ∈ verbosityNames := by
        simp only [verbosityLetters, List.mem_cons, List.not_mem_nil, or_false] at hc
        rcases hc with rfl | rfl
        · exact ⟨{ name := "--quiet", others := ["-q"], takesValue := false }, rfl, rfl, by decide⟩
        · exact ⟨{ name := "--verbose", others := ["-v"], takesValue := false }, rfl, rfl,
            by decide⟩
      obtain ⟨o, ho, hvalue, hname⟩ := hfound
      rw [List.all_cons, List.contains_iff_mem.2 hc, Bool.true_and, readShort]
      simp only [ho, hvalue]
      rcases ih with ⟨hall, given, hread, hgiven⟩ | ⟨hall, fault, hread⟩
      · refine .inl ⟨hall, (o.name, "") :: given, by rw [hread]; rfl, ?_⟩
        exact List.forall_mem_cons.2 ⟨hname, hgiven⟩
      · exact .inr ⟨hall, fault, by rw [hread]; rfl⟩
    · have hnone : commonOptions.find? (·.isNamed (String.ofList ['-', c])) = none := by
        refine List.find?_eq_none.2 fun o ho hnamed => hc ?_
        have hlength : (String.ofList ['-', c]).toList.length = 2 := by
          rw [String.toList_ofList]
          rfl
        rcases short_common o ho _ (isNamed_iff.1 hnamed) hlength with heq | heq
        · obtain rfl : c = 'q' := by simpa using String.ofList_inj.1 heq
          exact List.mem_cons_self
        · obtain rfl : c = 'v' := by simpa using String.ofList_inj.1 heq
          exact List.mem_cons_of_mem _ List.mem_cons_self
      refine .inr ⟨?_, .unknownOption (String.ofList ['-', c]), ?_⟩
      · rw [List.all_cons, List.contains_eq_mem, decide_eq_false hc, Bool.false_and]
      · rw [readShort]
        simp only [hnone]

/-- A text that is not cut is the text before the cut. -/
theorem eq_of_cutAt {sep : Char} {s before : String} (h : Text.cutAt sep s = (before, none)) :
    before = s := by
  have hparts := List.takeWhile_append_dropWhile (p := (· != sep)) (l := s.toList)
  unfold Text.cutAt at h
  dsimp only at h
  split at h
  · next hdrop =>
    cases h
    rw [hdrop, List.append_nil] at hparts
    rw [hparts, String.ofList_toList]
  · cases h

/-- A long name that is read is for how much is said just if it is one of the two. -/
theorem readLong_cases {arg : String} (hlong : Text.startsWith arg "--" = true) :
    (∃ given, readLong commonOptions arg = .ok (given, none) ∧
        ∀ e ∈ given, e.1 ∈ verbosityNames ↔ arg ∈ verbosityNames) ∨
      arg ∉ verbosityNames ∧ ∃ fault, readLong commonOptions arg = .error fault := by
  by_cases hflag : arg ∈ verbosityNames
  · left
    simp only [verbosityNames, List.mem_cons, List.not_mem_nil, or_false] at hflag
    rcases hflag with rfl | rfl
    · exact ⟨[("--quiet", "")], rfl, by decide⟩
    · exact ⟨[("--verbose", "")], rfl, by decide⟩
  · rw [readLong]
    rcases hcut : Text.cutAt '=' arg with ⟨name, value⟩
    dsimp only
    cases hfind : commonOptions.find? (·.isNamed name) with
    | none => exact .inr ⟨hflag, _, rfl⟩
    | some o =>
      have ho := List.mem_of_find?_eq_some hfind
      cases value with
      | some v =>
        dsimp only
        rw [takesValue_common o ho]
        exact .inr ⟨hflag, _, rfl⟩
      | none =>
        obtain rfl := eq_of_cutAt hcut
        dsimp only
        rw [takesValue_common o ho]
        have hother : o.name ∉ verbosityNames := by
          intro hname
          have hnamed : o.isNamed name = true :=
            List.find?_some (p := fun o : OptionSpec => o.isNamed name) hfind
          rcases names_common o ho hname name (isNamed_iff.1 hnamed) with hmem | hshort
          · exact hflag hmem
          · rw [hlong] at hshort
            cases hshort
        refine .inl ⟨[(o.name, "")], rfl, fun e he => ?_⟩
        rw [List.mem_singleton.1 he]
        exact iff_of_false hother hflag

/-- Whether an argument is such a flag is seen in what is read of it. -/
theorem readOption_cases {arg : String} (h : isOption arg = true) :
    (∃ given, readOption commonOptions arg = .ok (given, none) ∧
        ∀ e ∈ given, e.1 ∈ verbosityNames ↔ isVerbosityFlag arg = true) ∨
      isVerbosityFlag arg = false ∧ ∃ fault, readOption commonOptions arg = .error fault := by
  rw [readOption]
  cases hlong : Text.startsWith arg "--" with
  | true =>
    have hflag : isVerbosityFlag arg = true ↔ arg ∈ verbosityNames := by
      simp [isVerbosityFlag, hlong]
    rw [if_pos rfl, ← Bool.not_eq_true, hflag]
    exact readLong_cases hlong
  | false =>
    have hname : verbosityNames.contains arg = false := by
      rw [List.contains_eq_mem, decide_eq_false_iff_not]
      intro hmem
      have hall : ∀ name ∈ verbosityNames, Text.startsWith name "--" = true := by decide
      rw [hall arg hmem] at hlong
      cases hlong
    have hflag : isVerbosityFlag arg = (arg.toList.drop 1).all verbosityLetters.contains := by
      rw [isVerbosityFlag, hname, h, hlong]
      rfl
    rw [if_neg Bool.false_ne_true, hflag]
    rcases readShort_cases (arg.toList.drop 1) with ⟨hall, given, hread, hgiven⟩ | hfault
    · exact .inl ⟨given, hread, fun e he => iff_of_true (hgiven e he) hall⟩
    · exact .inr hfault

/-! ## Reading the options in front of a command -/

/-- Arguments without the options for how much is said. -/
def Arguments.muted (a : Arguments) : Arguments :=
  { a with options := a.options.filter fun e => !verbosityNames.contains e.1 }

/-- Options that say how much is said are gone. -/
theorem Arguments.muted_withOptions {a : Arguments} {given : List (String × String)}
    (h : ∀ e ∈ given, e.1 ∈ verbosityNames) : (a.withOptions given).muted = a.muted := by
  have hgone : given.filter (fun e => !verbosityNames.contains e.1) = [] := by
    refine List.filter_eq_nil_iff.2 fun e he => ?_
    rw [List.contains_iff_mem.2 (h e he)]
    exact Bool.false_ne_true
  rw [muted, withOptions, List.filter_append, hgone]
  rfl

/-- The other ones stay. -/
theorem Arguments.muted_withOptions_other {a : Arguments} {given : List (String × String)}
    (h : ∀ e ∈ given, e.1 ∉ verbosityNames) :
    (a.withOptions given).muted = a.muted.withOptions given := by
  have hkept : given.filter (fun e => !verbosityNames.contains e.1) = given := by
    refine List.filter_eq_self.2 fun e he => ?_
    rw [List.contains_eq_mem, decide_eq_false (h e he)]
    rfl
  rw [muted, withOptions, List.filter_append, hkept]
  rfl

/-- An option in front of a command is read before the others. -/
theorem parse_cons {arg : String} (h : isLeading arg = true) (rest : List String)
    {given : List (String × String)} (hread : readOption commonOptions arg = .ok (given, none)) :
    parse commonOptions false (arg :: rest) =
      (parse commonOptions false rest).map (·.withOptions given) := by
  obtain ⟨hoption, hdashes⟩ := Bool.and_eq_true_iff.1 h
  rw [parse, parseFrom, if_neg (bne_iff_ne.1 hdashes), if_pos hoption, hread]
  rfl

/-- If it cannot be read, then nothing can. -/
theorem parse_cons_error {arg : String} (h : isLeading arg = true) (rest : List String)
    {fault : UsageFault} (hread : readOption commonOptions arg = .error fault) :
    parse commonOptions false (arg :: rest) = .error fault := by
  obtain ⟨hoption, hdashes⟩ := Bool.and_eq_true_iff.1 h
  rw [parse, parseFrom, if_neg (bne_iff_ne.1 hdashes), if_pos hoption, hread]

/-- Any other argument ends the options. -/
theorem exists_parse_cons {arg : String} (h : isLeading arg = false) (rest : List String) :
    ∃ positional, parse commonOptions false (arg :: rest) = .ok { positional := positional } := by
  rw [parse, parseFrom]
  by_cases hdashes : arg = "--"
  · exact ⟨rest, by rw [if_pos hdashes]⟩
  · have hoption : isOption arg = false := by
      rwa [isLeading, bne_iff_ne.2 hdashes, Bool.and_true] at h
    exact ⟨arg :: rest, by rw [if_neg hdashes, hoption]; rfl⟩

/-- Of the options in front of a command those for how much is said are left out. -/
theorem withoutVerbosity_cons {arg : String} (h : isLeading arg = true) (rest : List String) :
    withoutVerbosity (arg :: rest) =
      if isVerbosityFlag arg then withoutVerbosity rest else arg :: withoutVerbosity rest := by
  rw [withoutVerbosity, leadingOptions, List.takeWhile_cons_of_pos h, List.dropWhile_cons_of_pos h]
  cases hflag : isVerbosityFlag arg with
  | true =>
    rw [List.filter_cons_of_neg (by simp [hflag])]
    rfl
  | false =>
    rw [List.filter_cons_of_pos (by simp [hflag])]
    rfl

/-- From the first argument on that is no option all is kept. -/
theorem withoutVerbosity_of_not_leading {arg : String} (h : isLeading arg = false)
    (rest : List String) : withoutVerbosity (arg :: rest) = arg :: rest := by
  have hnot : ¬isLeading arg = true := Bool.eq_false_iff.1 h
  rw [withoutVerbosity, leadingOptions, List.takeWhile_cons_of_neg hnot,
    List.dropWhile_cons_of_neg hnot]
  rfl

/-- Without the flags the same arguments are read, but for what the flags give. -/
theorem parse_withoutVerbosity (args : List String) :
    parse commonOptions false (withoutVerbosity args) =
      (parse commonOptions false args).map Arguments.muted := by
  induction args with
  | nil => rfl
  | cons arg rest ih =>
    cases hleading : isLeading arg with
    | false =>
      obtain ⟨positional, hparse⟩ := exists_parse_cons hleading rest
      rw [withoutVerbosity_of_not_leading hleading, hparse]
      rfl
    | true =>
      have hoption : isOption arg = true := (Bool.and_eq_true_iff.1 hleading).1
      rw [withoutVerbosity_cons hleading]
      rcases readOption_cases hoption with ⟨given, hread, hgiven⟩ | ⟨hflag, fault, hread⟩
      · rw [parse_cons hleading rest hread]
        cases hflag : isVerbosityFlag arg with
        | true =>
          rw [if_pos rfl, ih]
          cases parse commonOptions false rest with
          | error fault => rfl
          | ok a =>
            exact congrArg Except.ok
              (Arguments.muted_withOptions fun e he => (hgiven e he).2 hflag).symm
        | false =>
          rw [if_neg Bool.false_ne_true, parse_cons hleading _ hread, ih]
          cases parse commonOptions false rest with
          | error fault => rfl
          | ok a =>
            refine congrArg Except.ok (Arguments.muted_withOptions_other fun e he hname => ?_).symm
            rw [(hgiven e he).1 hname] at hflag
            cases hflag
      · rw [hflag, if_neg Bool.false_ne_true, parse_cons_error hleading _ hread,
          parse_cons_error hleading _ hread]
        rfl

/-! ## What is asked for -/

/-- A run is reported in the same way, but nothing is left out and no details are told. -/
def Verbosity.muted (v : Verbosity) : Verbosity := { v with quiet := false, verbose := false }

/-- The same is asked for, to be reported so. -/
def Invocation.muted : Invocation → Invocation
  | .run v command => .run v.muted command
  | asked => asked

/-- Options of other names are found as before. -/
theorem Arguments.find?_muted {a : Arguments} {p : String × String → Bool}
    (h : ∀ e, p e = true → e.1 ∉ verbosityNames) : a.muted.options.find? p = a.options.find? p := by
  rw [muted, List.find?_filter]
  congr 1
  funext e
  cases hp : p e with
  | false => simp
  | true => simp [h e hp]

/-- So it is told in the same way whether they are given. -/
theorem Arguments.has_muted {a : Arguments} {name : String} (h : name ∉ verbosityNames) :
    a.muted.has name = a.has name := by
  have hname : ∀ e : String × String, (e.1 == name) = true → e.1 ∉ verbosityNames := by
    intro e he
    rwa [beq_iff_eq.1 he]
  rw [has, has, ← List.isSome_find?, ← List.isSome_find?, find?_muted hname]

/-- The options for how much is said are given no more. -/
theorem Arguments.has_muted_eq_false {a : Arguments} {name : String} (h : name ∈ verbosityNames) :
    a.muted.has name = false := by
  refine List.any_eq_false.2 fun e he heq => ?_
  have hkept := (List.mem_filter.1 he).2
  rw [beq_iff_eq.1 heq, List.contains_iff_mem.2 h] at hkept
  cases hkept

/-- How a run is reported depends on the other options as before. -/
theorem verbosity_muted (a : Arguments) : Verbosity.of a.muted = (Verbosity.of a).muted := by
  simp only [Verbosity.of, Verbosity.muted,
    Arguments.has_muted (show "--json" ∉ verbosityNames by decide),
    Arguments.has_muted (show "--plain" ∉ verbosityNames by decide),
    Arguments.has_muted (show "--no-color" ∉ verbosityNames by decide),
    Arguments.has_muted_eq_false (show "--quiet" ∈ verbosityNames by decide),
    Arguments.has_muted_eq_false (show "--verbose" ∈ verbosityNames by decide)]

/-- What is asked for in the place of a command does so, too. -/
theorem instead?_muted (a : Arguments) : Invocation.instead? a.muted = Invocation.instead? a := by
  have hother : ∀ name ∈ ["--version", "--help"], name ∉ verbosityNames := by decide
  rw [Invocation.instead?, Invocation.instead?, Arguments.firstOf?, Arguments.firstOf?,
    Arguments.find?_muted fun e he => hother e.1 (List.contains_iff_mem.1 he)]

/-- What is asked for in the place of a command is the version or the help. -/
theorem instead?_cases {a : Arguments} {asked : Invocation}
    (h : Invocation.instead? a = some asked) : asked = .version ∨ asked = .help := by
  obtain ⟨name, -, rfl⟩ := Option.map_eq_some_iff.1 h
  split
  · exact .inl rfl
  · exact .inr rfl

/-- So it is not reported in one way or another. -/
theorem muted_of_instead? {a : Arguments} {asked : Invocation}
    (h : Invocation.instead? a = some asked) : asked.muted = asked := by
  rcases instead?_cases h with rfl | rfl <;> rfl

/-- A command with its arguments is the same, however it is reported. -/
theorem commandOf_muted (v : Verbosity) (specs : List OptionSpec) (args : List String)
    (make : Arguments → Except UsageFault Command) :
    commandOf v.muted specs args make = (commandOf v specs args make).muted := by
  unfold commandOf
  cases parse specs true args with
  | error fault => rfl
  | ok a =>
    dsimp only
    split
    · rfl
    · cases make a with
      | error fault => rfl
      | ok command => cases a.positional <;> rfl

/-- So is the command of a name. -/
theorem ofCommand_muted (v : Verbosity) (name : String) (args : List String) :
    Invocation.ofCommand v.muted name args = (Invocation.ofCommand v name args).muted := by
  unfold Invocation.ofCommand
  split
  · exact commandOf_muted _ _ _ _
  split
  · exact commandOf_muted _ _ _ _
  split
  · exact commandOf_muted _ _ _ _
  cases parse commonOptions false (name :: args) with
  | error fault => rfl
  | ok a =>
    dsimp only
    cases hasked : Invocation.instead? a with
    | none => rfl
    | some asked => exact (muted_of_instead? hasked).symm

/-- Without the flags for how much is said the same is asked for, if anything is left. -/
theorem of_withoutVerbosity {args : List String} (h : withoutVerbosity args ≠ []) :
    Invocation.of (withoutVerbosity args) = (Invocation.of args).muted := by
  have hargs : args ≠ [] := by
    rintro rfl
    exact h rfl
  unfold Invocation.of
  rw [parse_withoutVerbosity, if_neg (by simpa using h), if_neg (by simpa using hargs)]
  cases parse commonOptions false args with
  | error fault => rfl
  | ok a =>
    have hpositional : a.muted.positional = a.positional := rfl
    simp only [Except.map, instead?_muted, hpositional, verbosity_muted, ofCommand_muted]
    cases hasked : Invocation.instead? a with
    | some asked => exact (muted_of_instead? hasked).symm
    | none => cases a.positional <;> rfl

/-! ## The format -/

/-- Whether a command line forbids colours and asks for a format that scripts read. -/
structure AsksPlainly (args : List String) : Prop where
  noColor : "--no-color" ∈ leadingOptions args
  format : "--json" ∈ leadingOptions args ∨ "--plain" ∈ leadingOptions args

instance (args : List String) : Decidable (AsksPlainly args) :=
  decidable_of_iff ("--no-color" ∈ leadingOptions args ∧
      ("--json" ∈ leadingOptions args ∨ "--plain" ∈ leadingOptions args))
    ⟨fun h => ⟨h.1, h.2⟩, fun h => ⟨h.noColor, h.format⟩⟩

/-- Then it is not empty without the flags for how much is said. -/
theorem AsksPlainly.withoutVerbosity_ne_nil {args : List String} (h : AsksPlainly args) :
    withoutVerbosity args ≠ [] := by
  have hkept : "--no-color" ∈ withoutVerbosity args :=
    List.mem_append_left _ (List.mem_filter.2 ⟨h.noColor, by decide⟩)
  exact List.ne_nil_of_mem hkept

/-- An option in front of a command is among its arguments. -/
theorem has_of_mem_leadingOptions {name : String}
    (hname : readOption commonOptions name = .ok ([(name, "")], none)) {args : List String}
    {a : Arguments} (hparse : parse commonOptions false args = .ok a)
    (h : name ∈ leadingOptions args) : a.has name = true := by
  induction args generalizing a with
  | nil => cases h
  | cons arg rest ih =>
    cases hleading : isLeading arg with
    | false =>
      rw [leadingOptions, List.takeWhile_cons_of_neg (by simp [hleading])] at h
      cases h
    | true =>
      have hoption : isOption arg = true := (Bool.and_eq_true_iff.1 hleading).1
      rw [leadingOptions, List.takeWhile_cons_of_pos hleading] at h
      rcases readOption_cases hoption with ⟨given, hread, -⟩ | ⟨-, fault, hread⟩
      · rw [parse_cons hleading rest hread] at hparse
        cases hrest : parse commonOptions false rest with
        | error fault =>
          rw [hrest] at hparse
          cases hparse
        | ok a' =>
          rw [hrest] at hparse
          cases hparse
          have hoptions : (a'.withOptions given).options = given ++ a'.options := rfl
          rw [Arguments.has, hoptions, List.any_append, Bool.or_eq_true]
          rcases List.mem_cons.1 h with rfl | hmem
          · cases hname.symm.trans hread
            exact .inl (by simp)
          · exact .inr (ih hrest hmem)
      · rw [parse_cons_error hleading rest hread] at hparse
        cases hparse

/-- A command is reported as it is asked for in front of it. -/
theorem verbosity_of_commandOf {v v' : Verbosity} {specs : List OptionSpec} {args : List String}
    {make : Arguments → Except UsageFault Command} {command : Command}
    (h : commandOf v specs args make = .run v' command) : v' = v := by
  unfold commandOf at h
  split at h
  · cases h
  · split at h
    · cases h
    · split at h
      · cases h
      · cases h
      · cases h
        rfl

/-- So is the command of a name. -/
theorem verbosity_of_ofCommand {v v' : Verbosity} {name : String} {args : List String}
    {command : Command} (h : Invocation.ofCommand v name args = .run v' command) : v' = v := by
  unfold Invocation.ofCommand at h
  split at h
  · exact verbosity_of_commandOf h
  split at h
  · exact verbosity_of_commandOf h
  split at h
  · exact verbosity_of_commandOf h
  split at h
  · cases h
  · next a _ =>
    cases hasked : Invocation.instead? a with
    | none =>
      rw [hasked] at h
      cases h
    | some asked =>
      rw [hasked] at h
      rcases instead?_cases hasked with rfl | rfl <;> cases h

/-- Where a command is asked for, the arguments in front of it were read. -/
theorem exists_parse_of_run {args : List String} {v : Verbosity} {command : Command}
    (h : Invocation.of args = .run v command) :
    ∃ a, parse commonOptions false args = .ok a ∧ v = Verbosity.of a := by
  unfold Invocation.of at h
  split at h
  · cases h
  · cases hparse : parse commonOptions false args with
    | error fault =>
      rw [hparse] at h
      cases h
    | ok a =>
      rw [hparse] at h
      dsimp only at h
      split at h
      · next asked _ hasked =>
        rcases instead?_cases hasked with rfl | rfl <;> cases h
      · cases h
      · exact ⟨a, rfl, verbosity_of_ofCommand h⟩

section
variable {args : List String} {v : Verbosity} {command : Command}

/-- A document is put out if one is asked for. -/
theorem format_of_json (h : "--json" ∈ leadingOptions args)
    (hrun : Invocation.of args = .run v command) : v.format = some .json := by
  obtain ⟨a, hparse, rfl⟩ := exists_parse_of_run hrun
  rw [Verbosity.of, if_pos (has_of_mem_leadingOptions rfl hparse h)]

/-- Colours are not allowed. -/
theorem AsksPlainly.noColor_eq (h : AsksPlainly args)
    (hrun : Invocation.of args = .run v command) : v.noColor = true := by
  obtain ⟨a, hparse, rfl⟩ := exists_parse_of_run hrun
  exact has_of_mem_leadingOptions rfl hparse h.noColor

/-- The format is one that scripts read. -/
theorem AsksPlainly.format_cases (h : AsksPlainly args)
    (hrun : Invocation.of args = .run v command) :
    v.format = some .json ∨ v.format = some .plain := by
  rcases h.format with hjson | hplain
  · exact .inl (format_of_json hjson hrun)
  · obtain ⟨a, hparse, rfl⟩ := exists_parse_of_run hrun
    rw [Verbosity.of, if_pos (has_of_mem_leadingOptions rfl hparse hplain)]
    split
    · exact .inl rfl
    · exact .inr rfl

end

end ClientGen.Console
