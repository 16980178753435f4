import Mailroom.Proofs.Command.Run
import Mailroom.Proofs.Command.Verify
import Mailroom.Proofs.Level.Reported
import Mailroom.Proofs.Program.Print

/-!
# When verifying does not end as it should

`verify` prepares for every fault of a level, and for none of a scalar. A scalar may have too many
digits to be converted, or have a tag that does not fit it. What is nested too deep counts with
them: the collections of a document, the mappings that are merged into each other, and the values
inside each other that a message has to quote. A number of a level can also be too long to be
printed, which is found only when the program has been tried.

How deep is too deep differs from one reader to the next, so everything here is said of any reach.
For each of the faults there is something in the text that is to blame, and a text without any of
that is either read or refused, and the command ends as it should.
-/

set_option autoImplicit false
set_option maxRecDepth 10000

namespace Mailroom

open Machine Text

namespace Command

def Exit.IsVerdict : Exit → Prop
  | .status code => code = 0 ∨ code = 1
  | .message _ => True

/-- The command line ends with a status of 0 or 1, or with a message. -/
def Ends (r : Except Crash Outcome) : Prop := ∃ outcome, r = .ok outcome ∧ outcome.exit.IsVerdict

section

variable {p : Program} {limit : Nat} {level : Level}

theorem performVerify_isOk_iff (hp : p.WellFormed) (hsize : p.size < 2 ^ 1023) :
    (∃ x, performVerify p limit level = .ok x) ↔ level.Writable := by
  rw [performVerify_eq hp]
  constructor
  · rintro ⟨x, hx⟩
    cases hlines : (newReport p limit level).lines with
    | error e =>
      rw [Report.text, hlines] at hx
      cases hx
    | ok ls => exact writable_of_lines hlines
  · intro hlevel
    obtain ⟨speed, hspeed⟩ := exists_speedShown hsize limit level
    obtain ⟨text, htext, -⟩ := text_newReport hp hsize hlevel hspeed
    rw [htext]
    exact ⟨_, rfl⟩

theorem isVerdict_performVerify {x : Outcome × List String} (hp : p.WellFormed)
    (h : performVerify p limit level = .ok x) : x.1.exit.IsVerdict := by
  rw [performVerify_eq hp] at h
  split at h
  · cases h
  · cases h
    cases (newReport p limit level).passed <;> simp [Exit.IsVerdict]

/-- A command line that calls `verify` with a positive limit on a program that loads. -/
structure VerifyCall (sources : Sources) (files : Files.View) (words : List String)
    extends Call .verify sources files words where
  levelPath : String
  program : Program
  levelPath_eq : inv.arguments.level = .value levelPath
  program_eq : Program.ofFile Program.defaultHeader files programPath = .ok program
  /-- A bound that no memory reaches. -/
  size_lt : program.size < 2 ^ 1023

variable [Yaml.Reach] {sources : Sources} {files : Files.View} {words : List String}
  {path text : String}

theorem VerifyCall.execute_eq (call : VerifyCall sources files words) :
    execute sources files words =
      (verifyFile files call.program call.limit call.levelPath).map fun x =>
        { x.1 with stderr := Text.joinLines sources.warnings ++
            logText call.logLevel (call.program.loadedLine :: x.2) } := by
  have hon : performOn files call.inv call.program call.limit =
      verifyFile files call.program call.limit call.levelPath := by
    rw [performOn, call.name_eq, call.levelPath_eq]
    rfl
  have hfile : performFile files call.inv call.programPath call.limit =
      (verifyFile files call.program call.limit call.levelPath).map fun x =>
        (x.1, call.program.loadedLine :: x.2) := by
    rw [performFile, call.program_eq]
    dsimp only
    rw [hon]
    cases verifyFile files call.program call.limit call.levelPath <;> rfl
  rw [call.execute_eq_performFile, hfile]
  cases verifyFile files call.program call.limit call.levelPath <;> rfl

theorem verifyFile_isOk_iff (hp : p.WellFormed) (hsize : p.size < 2 ^ 1023) (limit : Nat)
    (htext : Files.readText files path = .ok text) :
    (∃ x, verifyFile files p limit path = .ok x) ↔
      Level.Reported (Level.ofTextAt path text) ∧
        ∀ level, Level.ofTextAt path text = .ok level → level.Writable := by
  simp only [verifyFile, Level.ofFile, htext]
  cases hread : Level.ofTextAt path text with
  | ok level =>
    have hwritable := @performVerify_isOk_iff p limit level hp hsize
    simpa [Level.Reported] using hwritable
  | error f =>
    cases f with
    | level e => simp [Level.Reported]
    | scalar e => simp [Level.Reported]

theorem isVerdict_verifyFile {x : Outcome × List String} (hp : p.WellFormed)
    (h : verifyFile files p limit path = .ok x) : x.1.exit.IsVerdict := by
  unfold verifyFile at h
  split at h
  · exact isVerdict_performVerify hp h
  all_goals cases h
  all_goals trivial

theorem VerifyCall.ends_iff (call : VerifyCall sources files words)
    (htext : Files.readText files call.levelPath = .ok text) :
    Ends (execute sources files words) ↔
      Level.Reported (Level.ofTextAt call.levelPath text) ∧
        ∀ level, Level.ofTextAt call.levelPath text = .ok level → level.Writable := by
  have hp := wellFormed_of_ofFile call.program_eq
  rw [← verifyFile_isOk_iff hp call.size_lt call.limit htext, Ends, call.execute_eq]
  constructor
  · rintro ⟨outcome, houtcome, -⟩
    cases hx : verifyFile files call.program call.limit call.levelPath with
    | error e =>
      rw [hx] at houtcome
      cases houtcome
    | ok x => exact ⟨x, rfl⟩
  · rintro ⟨x, hx⟩
    rw [hx]
    exact ⟨_, rfl, isVerdict_verifyFile hp hx⟩

theorem VerifyCall.ends_text_iff (call : VerifyCall sources files words)
    (htext : Files.readText files call.levelPath = .ok text)
    (hpath : Level.isYamlPath call.levelPath = false) (hlength : text.length < 10 ^ 4300) :
    Ends (execute sources files words) ↔ ¬ ∃ n, Level.HasOverlong text n := by
  have hread : Level.ofTextAt call.levelPath text = Level.ofText text := by
    rw [Level.ofTextAt, hpath]
    rfl
  rw [call.ends_iff htext, hread, Level.reported_ofText_iff]
  exact and_iff_left fun level hlevel => Level.writable_of_ofText hlevel hlength

end

/-- **When a bad level is reported as one.** A text is read or refused unless it has a setting with
too many digits. YAML is read or refused unless it does not load for a scalar, or a value in it is
to be quoted and cannot be for its depth. Where it does not load, its tokens are to blame, the
scalar itself or how deep they nest, or else the nodes of the document are. A value that cannot be
quoted has as many different values inside each other as the reach allows. A call of `verify` on
either format comes to an end exactly if the level is read or refused, and its numbers can be
printed; those of a text always can. -/
theorem verify_ends_unless_scalar_fails [Yaml.Reach] (text : String) :
    (Level.Reported (Level.ofText text) ↔ ¬ ∃ n, Level.HasOverlong text n) ∧
    (Level.Reported (Level.ofYaml text) ↔
      (∀ e, Yaml.load text ≠ .error (.scalar e)) ∧
        ∀ v a, Yaml.load text = .ok v → Level.Quotes v a → Layered.shown a ≠ .error .tooDeep) ∧
    (∀ e, Yaml.load text = .error (.scalar e) →
      Yaml.ScanFault text.toList e ∨
      (e = .endless ∧ Yaml.Reach.nodes < 2 * Yaml.nesting (Yaml.tokens text)) ∨
        ∃ d, Yaml.Document.ofText? text = .ok (some d) ∧ Yaml.Culprit d.nodes e) ∧
    (∀ a : Yaml.Value, Layered.shown a = .error .tooDeep →
      a.places.IsNested a.place Yaml.Reach.quotes) ∧
    ∀ (sources : Sources) (files : Files.View) (words : List String)
      (call : VerifyCall sources files words),
      Files.readText files call.levelPath = .ok text →
      (Ends (execute sources files words) ↔
        Level.Reported (Level.ofTextAt call.levelPath text) ∧
          ∀ level, Level.ofTextAt call.levelPath text = .ok level → level.Writable) ∧
      (Level.isYamlPath call.levelPath = false → text.length < 10 ^ 4300 →
        (Ends (execute sources files words) ↔ ¬ ∃ n, Level.HasOverlong text n)) := by
  refine ⟨Level.reported_ofText_iff, Level.reported_ofYaml_iff, fun e => Yaml.blame_of_load,
    fun a => Yaml.Value.isNested_of_shown, ?_⟩
  intro sources files words call htext
  exact ⟨call.ends_iff htext, call.ends_text_iff htext⟩

def sampleFiles (levelName level : String) : Files.View := fun path =>
  if path = "p.hrm" then .file (asBytes (Program.defaultHeader ++ "\nINBOX\nOUTBOX\n"))
  else if path = levelName then .file (asBytes level)
  else .missing
where
  asBytes (text : String) : List UInt8 := text.toList.map fun c => UInt8.ofNat c.toNat

def sampleWords (levelName : String) : List String :=
  ["verify", "--program", "p.hrm", "--level", levelName]

def sampleCall (level : String) : VerifyCall ⟨[], .missing, []⟩ (sampleFiles "l.level" level)
    (sampleWords "l.level") where
  settings := ⟨Settings.defaultCycleLimit, Settings.defaultLogLevel⟩
  inv := ⟨.verify, { program := .value "p.hrm", level := .value "l.level" }⟩
  logLevel := .warning
  cycleLimit := Settings.defaultCycleLimit
  limit := Settings.defaultCycleLimit
  programPath := "p.hrm"
  levelPath := "l.level"
  program := ⟨[.instruction .inbox, .instruction .outbox], []⟩
  settings_eq := by decide +kernel
  parse_eq := rfl
  name_eq := rfl
  logLevel_eq := rfl
  cycleLimit_eq := rfl
  limit_eq := rfl
  programPath_eq := rfl
  levelPath_eq := rfl
  program_eq := rfl
  size_lt := by
    have hpow : ∀ k, 2 < k → 2 < 2 ^ k := fun k hk => hk.trans Nat.lt_two_pow_self
    exact hpow 1023 (by decide)

theorem verify_ends_unless_scalar_fails_on_goals :
    Ends (execute ⟨[], .missing, []⟩ (sampleFiles "l.level" "goals:\nsize = 2\nspeed = 2\n")
      (sampleWords "l.level")) := by
  have hall := verify_ends_unless_scalar_fails "goals:\nsize = 2\nspeed = 2\n"
  have hread : Level.Reported (Level.ofText "goals:\nsize = 2\nspeed = 2\n") :=
    .inl ⟨⟨⟨2, 2⟩, []⟩, rfl⟩
  have hcall := hall.2.2.2.2 _ _ _ (sampleCall "goals:\nsize = 2\nspeed = 2\n") rfl
  have hends := hcall.2 (by decide +kernel) (lt_pow_of_lt (show _ < 10 ^ 2 by decide) (by decide))
  exact hends.mpr (hall.1.mp hread)

def longGoals (digits : Nat) : String :=
  Text.joinLines ["goals:", "size = " ++ String.ofList (List.replicate digits '9'), "speed = 1"]

theorem hasOverlong_longGoals {digits : Nat} (hlong : 4300 < digits) :
    Level.HasOverlong (longGoals digits) digits := by
  obtain ⟨nines, hnines⟩ : ∃ s, s = String.ofList (List.replicate digits '9') := ⟨_, rfl⟩
  have hdigits : ∀ c ∈ nines.toList, c = '9' := fun c hc => by
    rw [hnines, String.toList_ofList] at hc
    exact List.eq_of_mem_replicate hc
  have hlength : nines.length = digits := by
    rw [hnines, String.length_ofList, List.length_replicate]
  have hword : IsWord nines := by
    refine ⟨?_, fun c hc => hdigits c hc ▸ by decide⟩
    rintro rfl
    rw [← hlength] at hlong
    cases hlong
  have hgoals : Level.Says "goals:" (.heading "goals") := @Level.Says.heading "goals" (by decide)
  have hover : Level.Overlong ("size = " ++ nines) digits := by
    have h := @Level.Overlong.setting "size" " " " " nines (by decide)
      isBlank_of_mem_space isBlank_of_mem_space (fun c hc => hdigits c hc ▸ by decide)
      (hlength ▸ hlong)
    rwa [hlength] at h
  refine ⟨["goals:"], _, ["speed = 1"], [⟨"goals", []⟩], ?_, hover, by simp, .cons hgoals .nil,
    by simp⟩
  rw [longGoals, ← hnines]
  apply Text.filledLines_joinLines
  intro l hl
  simp only [List.mem_cons, List.not_mem_nil, or_false] at hl
  rcases hl with rfl | rfl | rfl
  · decide
  · exact @IsLine.append_space "size =" nines (by decide) hword.isLine
  · decide

/-- A number that is too long, and a truth value that is none. -/
theorem verify_crashes_on_scalars :
    Level.ofText (longGoals 4301) = .error (.scalar (.digitLimit 4301)) ∧
    Level.ofYaml "goals:\n  size: !!bool x\n  speed: 1\n" =
      .error (.scalar (.notBoolean [.char 'x'])) ∧
    execute ⟨[], .missing, []⟩
        (sampleFiles "l.yaml" "goals:\n  size: !!bool x\n  speed: 1\n") (sampleWords "l.yaml") =
      .error (.scalar (.notBoolean [.char 'x'])) := by
  refine ⟨Level.ofText_eq_scalar_iff.mpr ⟨4301, hasOverlong_longGoals (by decide), rfl⟩, ?_, ?_⟩
  · decide +kernel
  · decide +kernel

end Command

end Mailroom
