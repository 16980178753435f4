import Mailroom.Command.Perform
import Mailroom.Proofs.Command.Words
import Mailroom.Proofs.Report.Print

/-!
# Running a program

`run` adds nothing to the machine and takes nothing away. A cycle limit and numbers for the inbox,
written as words of a command line, arrive at the machine as they are. What comes back is the fault
of the program, or its result, and the two lines that are printed can be told back into the result
(`runLines_injective`), since the numbers of an output have no commas in them.

The words are followed through the two readers of the command line. The first knows only the name of
the command and passes on the rest unread; the second knows the options. `Call` gathers what a
command line has come to when the program is at last looked at, and `Call.execute_eq_performFile`
says that nothing is added to it afterwards but what goes to the second stream.
-/

set_option autoImplicit false
set_option maxRecDepth 10000

namespace Mailroom

open Text

/-! ## Lists of numbers -/

def afterCommas (as : List String) : List Char := as.flatMap fun a => ',' :: ' ' :: a.toList

theorem toList_intercalate_cons (a : String) (as : List String) :
    (", ".intercalate (a :: as)).toList = a.toList ++ afterCommas as := by
  induction as generalizing a with
  | nil => simp [afterCommas]
  | cons b as ih =>
    rw [String.intercalate_cons_cons, String.toList_append, ih b, afterCommas, afterCommas,
      List.flatMap_cons]
    simp

theorem append_afterCommas_inj {a b : List Char} {as bs : List String} (ha : ',' ∉ a)
    (hb : ',' ∉ b) (h : a ++ afterCommas as = b ++ afterCommas bs) :
    a = b ∧ afterCommas as = afterCommas bs := by
  -- the first comma is where the list starts
  have hcut : ∀ (c : List Char) (cs : List String), ',' ∉ c →
      (c ++ afterCommas cs).takeWhile (· != ',') = c := by
    intro c cs hc
    have hplain : ∀ d ∈ c, (d != ',') = true := by
      intro d hd
      rw [bne_iff_ne]
      rintro rfl
      exact hc hd
    rw [List.takeWhile_append_of_pos hplain]
    cases cs <;> simp [afterCommas]
  have hab : a = b := by rw [← hcut a as ha, h, hcut b bs hb]
  subst hab
  exact ⟨rfl, List.append_cancel_left h⟩

theorem afterCommas_inj {as bs : List String} (has : ∀ a ∈ as, ',' ∉ a.toList)
    (hbs : ∀ b ∈ bs, ',' ∉ b.toList) (h : afterCommas as = afterCommas bs) : as = bs := by
  induction as generalizing bs with
  | nil =>
    cases bs with
    | nil => rfl
    | cons b bs => cases h
  | cons a as ih =>
    cases bs with
    | nil => cases h
    | cons b bs =>
      have hrest : a.toList ++ afterCommas as = b.toList ++ afterCommas bs := by
        simpa [afterCommas] using h
      obtain ⟨hab, htail⟩ := append_afterCommas_inj (has a (by simp)) (hbs b (by simp)) hrest
      rw [String.toList_inj.mp hab, ih (fun c hc => has c (by simp [hc]))
        (fun c hc => hbs c (by simp [hc])) htail]

/-- Texts that are neither empty nor have commas in them can be told apart in a list. -/
theorem intercalate_inj {as bs : List String} (has : ∀ a ∈ as, a ≠ "" ∧ ',' ∉ a.toList)
    (hbs : ∀ b ∈ bs, b ≠ "" ∧ ',' ∉ b.toList) (h : ", ".intercalate as = ", ".intercalate bs) :
    as = bs := by
  have hnil : ∀ cs : List String, (∀ c ∈ cs, c ≠ "" ∧ ',' ∉ c.toList) →
      ", ".intercalate cs = "" → cs = [] := by
    intro cs hcs hempty
    cases cs with
    | nil => rfl
    | cons c cs =>
      rw [← String.toList_inj, toList_intercalate_cons] at hempty
      exact absurd hempty (by simp [(hcs c (by simp)).1])
  cases as with
  | nil => exact (hnil bs hbs h.symm).symm
  | cons a as =>
    cases bs with
    | nil => exact hnil _ has h
    | cons b bs =>
      have hafter : afterCommas (a :: as) = afterCommas (b :: bs) := by
        rw [← String.toList_inj, toList_intercalate_cons, toList_intercalate_cons] at h
        simpa [afterCommas] using h
      exact afterCommas_inj (fun c hc => (has c hc).2) (fun c hc => (hbs c hc).2) hafter

theorem Cell.shown_injective : Function.Injective Cell.shown := by
  intro c d h
  have hread := Command.readCell_shown c
  rw [h, Command.readCell_shown] at hread
  exact (Except.ok.inj hread).symm

theorem Cell.showList_injective : Function.Injective Cell.showList := by
  intro cs ds h
  have hplain : ∀ es : List Cell, ∀ a ∈ es.map Cell.shown, a ≠ "" ∧ ',' ∉ a.toList := by
    intro es a ha
    obtain ⟨e, -, rfl⟩ := List.mem_map.mp ha
    refine ⟨(isWord_toString e.value).ne_empty, fun hc => ?_⟩
    rcases mem_toString_int hc with hdigit | hdash
    · cases hdigit
    · cases hdash
  have hshown : ", ".intercalate (cs.map Cell.shown) = ", ".intercalate (ds.map Cell.shown) := by
    rw [← String.toList_inj] at h ⊢
    simpa only [Cell.showList, String.toList_append, List.append_cancel_left_eq,
      List.append_cancel_right_eq] using h
  exact List.map_injective_iff.mpr Cell.shown_injective
    (intercalate_inj (hplain cs) (hplain ds) hshown)

namespace Command

open Machine

/-! ## What is printed -/

def runLines (r : Result Cell) : List String :=
  ["Outbox: " ++ Cell.showList r.output, "Cycles: " ++ toString r.cycles]

theorem lines_runText (r : Result Cell) : lines (runText r) = runLines r := by
  apply lines_joinLines
  intro l hl
  have houtbox : Unbroken "Outbox: " := by decide
  have hcycles : Unbroken "Cycles: " := by decide
  simp only [List.mem_cons, List.not_mem_nil, or_false] at hl
  rcases hl with rfl | rfl
  · exact houtbox.append (unbroken_showList r.output)
  · exact hcycles.append (isWord_toString_nat r.cycles).unbroken

theorem runLines_injective : Function.Injective runLines := by
  intro r r' h
  obtain ⟨houtbox, hrest⟩ := List.cons.inj h
  obtain ⟨hcycles, -⟩ := List.cons.inj hrest
  rw [String.append_right_inj] at houtbox hcycles
  have houtput := Cell.showList_injective houtbox
  have hcount := toString_nat_injective hcycles
  cases r
  cases r'
  simp_all

/-! ## What is read -/

def runWords (limit : Nat) (input : List Cell) : List String :=
  ["--program", "p.hrm", "--cycle-limit", toString limit, "--input"] ++ input.map Cell.shown

variable {files : Files.View} {bytes : List UInt8} {limit : Nat} {input : List Cell}

def sortedRunWords (program cycleLimit inputs : WordKind) (limit : Nat) (input : List Cell) :
    List Word :=
  [⟨"--program", program⟩, ⟨"p.hrm", .value⟩, ⟨"--cycle-limit", cycleLimit⟩,
    ⟨toString limit, .value⟩, ⟨"--input", inputs⟩] ++ input.map fun c => ⟨c.shown, .value⟩

theorem map_text_sortedRunWords (program cycleLimit inputs : WordKind) (limit : Nat)
    (input : List Cell) :
    (sortedRunWords program cycleLimit inputs limit input).map Word.text =
      runWords limit input := by
  simp [sortedRunWords, runWords]

theorem sortAll_runWords {r : Reader} {program cycleLimit inputs : WordKind}
    (hprogram : Word.kindOf r "--program" = .ok program)
    (hpath : Word.kindOf r "p.hrm" = .ok .value)
    (hlimit : Word.kindOf r "--cycle-limit" = .ok cycleLimit)
    (hinput : Word.kindOf r "--input" = .ok inputs) (limit : Nat) (input : List Cell) :
    Word.sortAll r (runWords limit input) =
      .ok (sortedRunWords program cycleLimit inputs limit input) := by
  rw [← map_text_sortedRunWords program cycleLimit inputs]
  apply Word.sortAll_map_text
  intro w hw
  simp only [sortedRunWords, List.mem_append, List.mem_cons, List.not_mem_nil, or_false,
    List.mem_map] at hw
  rcases hw with (rfl | rfl | rfl | rfl | rfl) | ⟨c, -, rfl⟩
  · exact ⟨(by decide : "--program" ≠ "--"), hprogram⟩
  · exact ⟨by decide, hpath⟩
  · exact ⟨(by decide : "--cycle-limit" ≠ "--"), hlimit⟩
  · exact ⟨Word.toString_ne_mark limit, Word.kindOf_toString r limit⟩
  · exact ⟨(by decide : "--input" ≠ "--"), hinput⟩
  · exact ⟨Word.toString_ne_mark c.value, Word.kindOf_toString r c.value⟩

theorem tidyPath_program : Files.tidyPath "p.hrm" = "p.hrm" := by decide +kernel

theorem readBytes_program (hfile : files "p.hrm" = .file bytes) :
    Files.readBytes files "p.hrm" = .ok bytes := by
  simp [Files.readBytes, tidyPath_program, hfile]

theorem give_program (hfile : files "p.hrm" = .file bytes) :
    Arguments.give files {} .program ["p.hrm"] = .ok { program := .value "p.hrm" } := by
  have hpath : readPath files "p.hrm" = .ok "p.hrm" := by
    simp [readPath, Files.isThere, tidyPath_program, hfile, Files.Found.exists]
  rw [Arguments.give, readOne, if_neg (by decide), hpath]
  rfl

theorem checkLimit_natCast (hpos : 1 ≤ limit) : checkLimit (limit : Int) = some limit := by
  rw [checkLimit, if_neg (by omega), Int.toNat_natCast]

def runArguments (limit : Nat) (input : List Cell) : Arguments :=
  { program := .value "p.hrm", cycleLimit := .value limit, input := input }

theorem readWords_runWords (hfile : files "p.hrm" = .file bytes) (hlimit : limit < 10 ^ 4300) :
    readWords files (.command .run) 0 {}
      (sortedRunWords (.option .program "--program" none) (.option .cycleLimit "--cycle-limit" none)
        (.option .input "--input" none) limit input) = .ok (runArguments limit input) := by
  have hcycles : Arguments.give files { program := .value "p.hrm" } .cycleLimit [toString limit] =
      .ok { program := .value "p.hrm", cycleLimit := .value limit } := by
    have hread : readInteger (toString limit) = .ok (limit : Int) := by
      have hdecimal : readDecimal (toString limit) = .ok (limit : Int) :=
        readDecimal_toString (n := limit) hlimit
      rw [readInteger, hdecimal]
    have hmark : toString limit ≠ "--" := Word.toString_ne_mark limit
    rw [Arguments.give, readOne, if_neg hmark, hread]
    rfl
  have hinput : Arguments.give files { program := .value "p.hrm", cycleLimit := .value limit }
      .input (input.map Cell.shown) = .ok (runArguments limit input) := by
    rw [Arguments.give, readMany_shown]
    rfl
  have hvalues : (input.map fun c => (⟨c.shown, .value⟩ : Word)) =
      (input.map Cell.shown).map fun v => ⟨v, .value⟩ := by
    rw [List.map_map]
    rfl
  rw [sortedRunWords, List.cons_append, List.cons_append, readWords_one rfl (give_program hfile),
    List.cons_append, List.cons_append, readWords_one rfl hcycles, List.singleton_append, hvalues,
    readWords_many rfl hinput]

theorem parse_runWords (hfile : files "p.hrm" = .file bytes) (hlimit : limit < 10 ^ 4300) :
    parse files ("run" :: runWords limit input) = .ok ⟨.run, runArguments limit input⟩ := by
  -- to the program itself, only the name of the command means something
  have htop : Word.sortAll .top ("run" :: runWords limit input) =
      .ok (⟨"run", .value⟩ :: sortedRunWords .unknown .unknown .unknown limit input) := by
    rw [Word.sortAll, if_neg (by decide),
      sortAll_runWords (r := .top) rfl rfl rfl rfl limit input]
    rfl
  have hcommand : Word.sortAll (.command .run) (runWords limit input) = .ok (sortedRunWords
      (.option .program "--program" none) (.option .cycleLimit "--cycle-limit" none)
      (.option .input "--input" none) limit input) :=
    sortAll_runWords rfl rfl rfl rfl limit input
  have hname : Name.ofText? "run" = some .run := by decide
  have hread : readCommand files .run (runWords limit input) = .ok (runArguments limit input) := by
    rw [readCommand, sortWords, hcommand]
    refine bind_eq_ok_iff.mpr ⟨_, rfl, bind_eq_ok_iff.mpr ⟨_, readWords_runWords hfile hlimit, ?_⟩⟩
    rfl
  rw [parse, sortWords, htop]
  refine bind_eq_ok_iff.mpr ⟨_, rfl, ?_⟩
  simp only [readTop, hname, map_text_sortedRunWords, hread]
  rfl

/-! ## What comes of it -/

theorem ofFile_ne_nullInPath (hfile : files "p.hrm" = .file bytes) (header : String) :
    Program.ofFile header files "p.hrm" ≠ .error .nullInPath := by
  unfold Program.ofFile Files.readText
  rw [readBytes_program hfile]
  cases htext : Files.textOfBytes bytes with
  | error e => simp [htext]
  | ok source => cases hload : Program.load header source <;> simp [htext, hload]

theorem wellFormed_of_ofFile {header path : String} {p : Program}
    (h : Program.ofFile header files path = .ok p) : p.WellFormed := by
  unfold Program.ofFile at h
  split at h
  · rename_i source _
    cases hload : Program.load header source with
    | ok q =>
      rw [hload] at h
      cases h
      exact Program.wellFormed_of_load hload
    | error e =>
      rw [hload] at h
      cases h
  · cases h
  · cases h

theorem isProgramFault_of_run {p : Program} {fault : Fault} (hp : p.WellFormed)
    (h : (run p limit input).result = .error fault) : fault.isProgramFault = true := by
  rcases run_fault_of_wellFormed hp h with rfl | rfl | ⟨label, rfl, -⟩ | rfl
  all_goals rfl

section

variable {p : Program} (hp : Program.ofFile Program.defaultHeader files "p.hrm" = .ok p)

include hp

theorem performFile_of_finished [Yaml.Reach] {r : Result Cell}
    (hr : (run p limit input).result = .ok r) :
    performFile files ⟨.run, runArguments limit input⟩ "p.hrm" limit =
      .ok (⟨.status 0, runText r, ""⟩,
        p.loadedLine :: (run p limit input).events.map Event.logLine) := by
  have hrun : performRun p limit input =
      .ok (⟨.status 0, runText r, ""⟩, (run p limit input).events.map Event.logLine) := by
    simp only [performRun, hr]
  rw [performFile, hp]
  exact bind_eq_ok_iff.mpr ⟨_, hrun, rfl⟩

theorem performFile_of_failed [Yaml.Reach] {fault : Fault}
    (hr : (run p limit input).result = .error fault) :
    performFile files ⟨.run, runArguments limit input⟩ "p.hrm" limit =
      .ok (⟨.message ("error: " ++ fault.message), "", ""⟩,
        p.loadedLine :: (run p limit input).events.map Event.logLine) := by
  have hfault := isProgramFault_of_run (wellFormed_of_ofFile hp) hr
  have hrun : performRun p limit input = .ok (⟨.message ("error: " ++ fault.message), "", ""⟩,
      (run p limit input).events.map Event.logLine) := by
    simp only [performRun, hr, hfault, if_true]
  rw [performFile, hp]
  exact bind_eq_ok_iff.mpr ⟨_, hrun, rfl⟩

end

/-- A command line that calls a command with a positive limit on the program of a path. -/
structure Call (name : Name) (sources : Sources) (files : Files.View) (words : List String) where
  settings : Settings
  inv : Invocation
  logLevel : LogLevel
  cycleLimit : Int
  limit : Nat
  programPath : String
  settings_eq : Settings.load sources = .ok settings
  parse_eq : parse files words = .ok inv
  name_eq : inv.name = name
  logLevel_eq : valueOr .logLevel (defaultLevel settings) inv.arguments.logLevel = .ok logLevel
  cycleLimit_eq : valueOr .cycleLimit (settings.cycleLimit : Int) inv.arguments.cycleLimit =
    .ok cycleLimit
  limit_eq : checkLimit cycleLimit = some limit
  programPath_eq : inv.arguments.program = .value programPath

/-- A command line comes to what its command comes to on the file of the program. The log goes to
the second stream, after the warnings. -/
theorem Call.execute_eq_performFile [Yaml.Reach] {name : Name} {sources : Sources}
    {words : List String} (call : Call name sources files words) :
    execute sources files words =
      (performFile files call.inv call.programPath call.limit).map fun x =>
        { x.1 with stderr := Text.joinLines sources.warnings ++ logText call.logLevel x.2 } := by
  have hprogram : valueOr .program "" call.inv.arguments.program = .ok call.programPath := by
    rw [call.programPath_eq, valueOr]
  have hperform : perform (columnsIn sources.environment) files call.settings call.inv =
      (performFile files call.inv call.programPath call.limit).map fun x =>
        { x.1 with stderr := logText call.logLevel x.2 } := by
    simp only [perform, call.logLevel_eq, call.cycleLimit_eq, call.limit_eq, hprogram, bind,
      Except.bind]
    cases performFile files call.inv call.programPath call.limit <;> rfl
  rw [execute, call.settings_eq]
  dsimp only
  rw [respond, call.parse_eq]
  dsimp only
  rw [hperform]
  cases performFile files call.inv call.programPath call.limit <;> rfl

theorem execute_runWords [Yaml.Reach] {sources : Sources} {settings : Settings} {exit : Exit}
    {stdout : String} {log : List String} (hsettings : Settings.load sources = .ok settings)
    (hfile : files "p.hrm" = .file bytes) (hpos : 1 ≤ limit) (hlimit : limit < 10 ^ 4300)
    (h : performFile files ⟨.run, runArguments limit input⟩ "p.hrm" limit =
      .ok (⟨exit, stdout, ""⟩, log)) :
    ∃ stderr, execute sources files ("run" :: runWords limit input) =
      .ok ⟨exit, stdout, stderr⟩ := by
  let call : Call .run sources files ("run" :: runWords limit input) :=
    { settings, inv := ⟨.run, runArguments limit input⟩, logLevel := defaultLevel settings,
      cycleLimit := limit, limit, programPath := "p.hrm", settings_eq := hsettings,
      parse_eq := parse_runWords hfile hlimit, name_eq := rfl, logLevel_eq := rfl,
      cycleLimit_eq := rfl, limit_eq := checkLimit_natCast hpos, programPath_eq := rfl }
  have hexecute := call.execute_eq_performFile
  rw [h] at hexecute
  exact ⟨_, hexecute⟩

/-- **Running a program is running the machine.** Whatever the file holds, `run` with a cycle limit
and numbers for the inbox ends in one of three ways: with the fault of loading the file, with the
fault of the machine, or with the result of the machine, which can be told from the two lines that
are printed. -/
theorem run_is_the_machine [Yaml.Reach] (sources : Sources) (settings : Settings)
    (hsettings : Settings.load sources = .ok settings) (files : Files.View) (bytes : List UInt8)
    (hfile : files "p.hrm" = .file bytes) (limit : Nat) (hpos : 1 ≤ limit)
    (hlimit : limit < 10 ^ 4300) (input : List Cell) :
    (∃ outcome,
      execute sources files (["run", "--program", "p.hrm", "--cycle-limit", toString limit,
        "--input"] ++ input.map Cell.shown) = .ok outcome ∧
      ((∃ e, Program.ofFile Program.defaultHeader files "p.hrm" = .error (.load e) ∧
          outcome.exit = .message ("p.hrm: " ++ e.message) ∧ outcome.stdout = "") ∨
        (∃ p fault, Program.ofFile Program.defaultHeader files "p.hrm" = .ok p ∧
          (run p limit input).result = .error fault ∧
          outcome.exit = .message ("error: " ++ fault.message) ∧ outcome.stdout = "") ∨
        ∃ p r, Program.ofFile Program.defaultHeader files "p.hrm" = .ok p ∧
          (run p limit input).result = .ok r ∧
          outcome.exit = .status 0 ∧ lines outcome.stdout = runLines r)) ∧
    Function.Injective runLines := by
  refine ⟨?_, runLines_injective⟩
  cases hp : Program.ofFile Program.defaultHeader files "p.hrm" with
  | error f =>
    cases f with
    | nullInPath => exact absurd hp (ofFile_ne_nullInPath hfile _)
    | load e =>
      have hfails : performFile files ⟨.run, runArguments limit input⟩ "p.hrm" limit =
          .ok (⟨.message ("p.hrm: " ++ e.message), "", ""⟩, []) := by
        simp only [performFile, hp, fileMessage, tidyPath_program]
        rfl
      obtain ⟨stderr, hexecute⟩ := execute_runWords hsettings hfile hpos hlimit hfails
      exact ⟨_, hexecute, Or.inl ⟨e, rfl, rfl, rfl⟩⟩
  | ok p =>
    cases hr : (run p limit input).result with
    | error fault =>
      obtain ⟨stderr, hexecute⟩ :=
        execute_runWords hsettings hfile hpos hlimit (performFile_of_failed hp hr)
      exact ⟨_, hexecute, Or.inr (Or.inl ⟨p, fault, rfl, hr, rfl, rfl⟩)⟩
    | ok r =>
      obtain ⟨stderr, hexecute⟩ :=
        execute_runWords hsettings hfile hpos hlimit (performFile_of_finished hp hr)
      exact ⟨_, hexecute, Or.inr (Or.inr ⟨p, r, rfl, hr, rfl, lines_runText r⟩)⟩

/-- A program that puts out the first of two numbers, which is negative. -/
theorem run_is_the_machine_on_two_numbers :
    let bytes := (Program.defaultHeader ++ "\nINBOX\nOUTBOX\n").toList.map fun c =>
      UInt8.ofNat c.toNat
    let files : Files.View := fun path => if path = "p.hrm" then .file bytes else .missing
    ∃ outcome,
      execute ⟨[], .missing, []⟩ files
        ["run", "--program", "p.hrm", "--cycle-limit", "9", "--input", "-5", "7"] = .ok outcome ∧
      outcome.exit = .status 0 ∧ lines outcome.stdout = ["Outbox: [-5]", "Cycles: 2"] := by
  intro bytes files
  let p : Program := ⟨[.instruction .inbox, .instruction .outbox], []⟩
  let input : List Cell := [⟨-5, by decide⟩, ⟨7, by decide⟩]
  have hsettings : Settings.load ⟨[], .missing, []⟩ =
      .ok ⟨Settings.defaultCycleLimit, Settings.defaultLogLevel⟩ := by decide +kernel
  have hprogram : Program.ofFile Program.defaultHeader files "p.hrm" = .ok p := rfl
  have hlimit : 9 < 10 ^ 4300 := lt_pow_of_lt (show 9 < 10 ^ 1 by decide) (by decide)
  obtain ⟨⟨outcome, hexecute, hways⟩, -⟩ :=
    run_is_the_machine _ _ hsettings files bytes rfl 9 (by decide) hlimit input
  refine ⟨outcome, hexecute, ?_⟩
  rcases hways with ⟨e, he, -⟩ | ⟨q, fault, hq, hr, -⟩ | ⟨q, r, hq, hr, hexit, hlines⟩
  · rw [hprogram] at he
    cases he
  · rw [hprogram] at hq
    cases hq
    cases hr
  · rw [hprogram] at hq
    cases hq
    cases hr
    exact ⟨hexit, hlines.trans (by decide +kernel)⟩

end Command

end Mailroom
