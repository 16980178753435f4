import Mailroom.Level.File
import Mailroom.Proofs.Level.Faults
import Mailroom.Proofs.Level.Quotes
import Mailroom.Proofs.Report.Print
import Mailroom.Proofs.Yaml.Load

/-!
# Levels that are read or reported

A level is reported if what keeps it from being read is its own fault. What else can go wrong is not
about levels: a scalar stands for no value, or there is no room for what is nested in a document.

In a text there are few scalars, so the condition for it is short. In YAML there are two occasions.
The document may have no value (`Yaml.blame_of_load` says why), and a value that the level's checks
have to quote may be nested too deep (`Yaml.Value.isNested_of_shown`).
-/

set_option autoImplicit false

namespace Mailroom

open Text

namespace Level

/-- There is a level, or a fault of the level. -/
def Reported (r : Except LevelFailure Level) : Prop :=
  (∃ level, r = .ok level) ∨ ∃ e, r = .error (.level e)

theorem reported_iff {r : Except LevelFailure Level} :
    Reported r ↔ ∀ e, r ≠ .error (.scalar e) := by
  rcases r with (e | e) | level
  · simp [Reported]
  · simp [Reported]
  · simp [Reported]

/-! ## As text -/

theorem reported_ofText_iff {text : String} :
    Reported (ofText text) ↔ ¬ ∃ n, HasOverlong text n := by
  rw [reported_iff]
  constructor
  · rintro h ⟨n, hn⟩
    exact h _ (ofText_eq_scalar_iff.mpr ⟨n, hn, rfl⟩)
  · rintro h e he
    obtain ⟨n, hn, -⟩ := ofText_eq_scalar_iff.mp he
    exact h ⟨n, hn⟩

theorem Says.setting_lt {line key : String} {n : Nat}
    (h : Says line (.statement (.setting key n))) : n < 10 ^ 4300 := by
  cases h with
  | setting hk hb ha hd hn => exact hn.natAbs_lt

theorem writable_of_ofText {text : String} {level : Level} (h : ofText text = .ok level)
    (htext : text.length < 10 ^ 4300) : level.Writable := by
  obtain ⟨ss, hd, hcounts⟩ := ofText_eq_ok_iff.mp h
  obtain ⟨goals, hgoals, hsize, hspeed⟩ := hcounts.goals
  have hshort : ∀ {key : String} {n : Nat}, FirstSetting key goals n → n < 10 ^ 4300 := by
    rintro key n ⟨before, after, hstatements, -⟩
    have hmem : .setting key (n : Int) ∈ goals := by simp [hstatements]
    obtain ⟨line, hline⟩ := hd.exists_says hgoals hmem
    exact hline.setting_lt
  refine ⟨hshort hsize, hshort hspeed, ?_⟩
  rw [← List.length_map TestCase.numbers]
  rcases hcounts.tests with ⟨tests, htests, hcases⟩ | ⟨-, hcases⟩
  · rw [hcases]
    exact ((List.length_filterMap_le ..).trans (hd.length_statements_le htests)).trans_lt htext
  · rw [hcases]
    exact (Nat.zero_le _).trans_lt htext

/-! ## As YAML -/

theorem reported_ofYaml_iff [Yaml.Reach] {text : String} :
    Reported (ofYaml text) ↔
      (∀ e, Yaml.load text ≠ .error (.scalar e)) ∧
        ∀ v a, Yaml.load text = .ok v → Quotes v a → Layered.shown a ≠ .error .tooDeep := by
  rw [reported_iff, ofYaml]
  rcases Yaml.load text with (_ | e) | v
  · simp
  · simp
  · constructor
    · intro h
      refine ⟨by simp, ?_⟩
      rintro v' a ⟨⟩ ha hshown
      exact h .unquotable (ofData_eq_scalar_iff.mpr ⟨rfl, a, ha, hshown⟩)
    · rintro ⟨-, h⟩ e he
      obtain ⟨-, a, ha, hshown⟩ := ofData_eq_scalar_iff.mp he
      exact h v a rfl ha hshown

end Level

end Mailroom
