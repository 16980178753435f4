import Mailroom.Command.Parse
import Mailroom.Proofs.Data.Failing
import Mailroom.Proofs.Text.Decimal

/-!
# Numbers on the command line

A negative number starts like an option. It is a value all the same, because no option has a digit
after its dash. So numbers can be handed to an option that takes many values, and arrive as the
cells that they were written for.

That words are sorted and read as expected is proved for the words of a call, in two steps: one for
an option with one value, after which reading goes on as before, and one for an option that takes
all that is left.
-/

set_option autoImplicit false

namespace Mailroom.Command

open Text

namespace Word

variable {r : Reader}

theorem second_of_spelling {s : String} {f : Flag} (h : (s, f) ∈ r.spellings) {c : Char}
    {cs : List Char} (hs : s.toList = '-' :: c :: cs) : c.isDigit = false := by
  have hall : r.spellings.all (fun x => !(x.1.toList.getD 1 '-').isDigit) = true := by
    rcases r with _ | ⟨_ | _ | _⟩ <;> decide
  have hs' := List.all_eq_true.mp hall _ h
  simpa [hs] using hs'

theorem isNegativeNumber_of_digits {d : Char} {ds : List Char} (hd : d.isDigit = true)
    (hds : ∀ c ∈ ds, c.isDigit = true) : isNegativeNumber ('-' :: d :: ds) = true := by
  have hall : ∀ c ∈ d :: ds, c.isDigit = true := List.forall_mem_cons.mpr ⟨hd, hds⟩
  -- the last character is a digit, hence no line feed
  have hlast : (d :: ds).getLast? ≠ some '\n' := by
    intro h
    exact absurd (hall _ (List.mem_of_getLast? h)) (by decide)
  have hdrop : (d :: ds).dropWhile Text.isDigit = [] := by
    rw [List.dropWhile_eq_nil_iff]
    intro c hc
    exact isDigit_of_ascii (hall c hc)
  simp [isNegativeNumber, hlast, hdrop]

section

variable {word : String} {d : Char} {ds : List Char}

theorem spelled?_of_digit (h : word.toList = '-' :: d :: ds) (hd : d.isDigit = true)
    (hequals : '=' ∉ word.toList) : spelled? r word = none := by
  have hlookup : r.spellings.lookup word = none := by
    rw [List.lookup_eq_none_iff]
    rintro ⟨s, f⟩ hs
    rw [bne_iff_ne]
    rintro rfl
    rw [second_of_spelling hs h] at hd
    cases hd
  have hsplit : word.toList.dropWhile (· != '=') = [] := by
    rw [List.dropWhile_eq_nil_iff]
    intro c hc
    rw [bne_iff_ne]
    rintro rfl
    exact hequals hc
  rw [spelled?, hlookup, splitEquals?, hsplit]

theorem candidates_of_digit (hd : d.isDigit = true) : candidates r ('-' :: d :: ds) = [] := by
  unfold candidates
  split
  · rename_i heq
    obtain ⟨-, rest⟩ := List.cons.inj heq
    obtain ⟨rfl, -⟩ := List.cons.inj rest
    cases hd
  · rw [shortCandidates, List.map_eq_nil_iff, List.filter_eq_nil_iff]
    rintro ⟨s, f⟩ hs hstart
    have hs' : s.toList = ['-', d] := by
      rw [beq_iff_eq.mp hstart]
      exact String.toList_ofList
    rw [second_of_spelling hs hs'] at hd
    cases hd

end

theorem kindOf_toString (r : Reader) (n : Int) : kindOf r (toString n) = .ok .value := by
  obtain ⟨d, ds, hd, hds, h | h⟩ := exists_toList_toString n
  · unfold kindOf
    rw [h]
    split
    · rename_i heq
      obtain ⟨rfl, -⟩ := List.cons.inj heq
      cases hd
    · rfl
  · have hequals : '=' ∉ (toString n).toList := by
      intro hc
      rcases mem_toString_int hc with hdigit | hdash
      · cases hdigit
      · cases hdash
    simp only [kindOf, h, sortDashed, spelled?_of_digit h hd hequals, candidates_of_digit hd,
      isNegativeNumber_of_digits hd hds, Bool.true_or, if_true]

theorem toString_ne_mark (n : Int) : toString n ≠ "--" := by
  intro hmark
  obtain ⟨d, ds, hd, -, h | h⟩ := exists_toList_toString n
  all_goals
    rw [hmark] at h
    cases h
    cases hd

theorem sortAll_map_text {ws : List Word}
    (h : ∀ w ∈ ws, w.text ≠ "--" ∧ kindOf r w.text = .ok w.kind) :
    sortAll r (ws.map Word.text) = .ok ws := by
  induction ws with
  | nil => rfl
  | cons w ws ih =>
    obtain ⟨hmark, hkind⟩ := h w (by simp)
    rw [List.map_cons, sortAll, if_neg hmark, hkind, ih fun v hv => h v (by simp [hv])]
    rfl

end Word

/-! ## Values -/

theorem readCell_shown (c : Cell) : readCell c.shown = .ok c := by
  have hlow := c.inRange.1
  have hhigh := c.inRange.2
  have hsmall : c.value.natAbs < 10 ^ 4300 :=
    lt_pow_of_lt (show c.value.natAbs < 10 ^ 5 by omega) (by decide)
  rw [readCell, Cell.shown, readDecimal_toString hsmall]
  simp only [Cell.ofInt, hlow, hhigh, dif_pos]

theorem readMany_shown (cs : List Cell) : readMany (cs.map Cell.shown) = .ok cs := by
  have hmark : "--" ∉ cs.map Cell.shown := by
    intro h
    obtain ⟨c, -, hc⟩ := List.mem_map.mp h
    exact Word.toString_ne_mark c.value hc
  rw [readMany, List.erase_of_not_mem hmark, mapM_eq_ok_iff, List.forall₂_map_left_iff,
    List.forall₂_same]
  intro c _
  exact readCell_shown c

/-! ## Options with their values -/

section

variable {files : Files.View} {r : Reader} {a b : Arguments}

theorem readWords_skip {k : Nat} {ws : List Word} (h : ws.length ≤ k) :
    readWords files r k a ws = .ok a := by
  induction ws generalizing k with
  | nil => rw [readWords]
  | cons w ws ih =>
    cases k with
    | zero => simp at h
    | succ k =>
      rw [readWords]
      exact ih (by simpa using h)

theorem readWords_one {flag : Flag} {text spelling value : String} {rest : List Word}
    (hflag : flag.arity = .one) (hgive : a.give files flag [value] = .ok b) :
    readWords files r 0 a (⟨text, .option flag spelling none⟩ :: ⟨value, .value⟩ :: rest) =
      readWords files r 0 b rest := by
  have htake : takeValues r flag none (⟨value, .value⟩ :: rest) = .ok ([value], 1) := by
    simp [takeValues, hflag]
  have hhelp : flag ≠ .help := by
    rintro rfl
    cases hflag
  simp [readWords, htake, hgive]

theorem readWords_many {flag : Flag} {text spelling : String} {values : List String}
    (hflag : flag.arity = .many) (hgive : a.give files flag values = .ok b) :
    readWords files r 0 a
      (⟨text, .option flag spelling none⟩ :: values.map fun v => ⟨v, .value⟩) = .ok b := by
  have htake : takeValues r flag none (values.map fun v => ⟨v, .value⟩) =
      .ok (values, values.length) := by
    have hall : values.takeWhile (fun _ => true) = values :=
      List.takeWhile_eq_self_iff.mpr fun _ _ => rfl
    simp [takeValues, hflag, List.takeWhile_map, Function.comp_def, hall]
  have hhelp : flag ≠ .help := by
    rintro rfl
    cases hflag
  simp [readWords, htake, hgive, readWords_skip]

end

end Mailroom.Command
