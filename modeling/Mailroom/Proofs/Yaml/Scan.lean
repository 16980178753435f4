import Mailroom.Proofs.Text.Decimal
import Mailroom.Proofs.Yaml.Blame
import Mailroom.Yaml.Text

/-!
# What reading a token can fail with

Almost every reading step fails in one way only. Two of them can meet a number that is too great: an
escape, which stands behind a backslash, and the version of a directive, which stands behind a
percent sign. So a text with neither of these characters never fails in such a way while its tokens
are read.

The invariant is that the cursor is within the text: each character that is left is one of the text.
So a character that a step has found is known to be there when the step fails. Each reading step has
one lemma, which says that it keeps the invariant and which faults it can have. A step that is made
of others has its lemma from theirs.
-/

set_option autoImplicit false

namespace Mailroom.Yaml

def Within (text : List Char) (c : Cursor) : Prop := ∀ ch ∈ c.rest, ch ∈ text

/-- The faults of scalars that are met while tokens are read. -/
inductive ScanFault (text : List Char) : ScalarError → Prop where
  | codePoint : '\\' ∈ text → ScanFault text .codePoint
  | codeOverflow : '\\' ∈ text → ScanFault text .codeOverflow
  | version {digits : Nat} : '%' ∈ text → Text.digitLimit < digits →
      ScanFault text (.digitLimit digits)

/-- A step that reads a part of the text, with a result as it should be. -/
abbrev ScansTo {α : Type} (text : List Char) (Q : α → Prop) (m : Scan α) : Prop :=
  Keeps (Within text) (ScanFault text) Q m

abbrev Scans {α : Type} (text : List Char) (m : Scan α) : Prop := ScansTo text (fun _ => True) m

def Token.Readable : Token → Prop
  | .unreadable _ => False
  | _ => True

variable {text : List Char}

/-! ## Places -/

theorem Within.next {c : Cursor} (h : Within text c) : Within text c.next := by
  unfold Cursor.next
  split
  · exact h
  · rename_i ch rest heq
    have hrest : ∀ d ∈ rest, d ∈ text := fun d hd => h d (by simp [heq, hd])
    dsimp only
    split
    · exact hrest
    · split <;> exact hrest

theorem Within.skip {c : Cursor} (h : Within text c) (n : Nat) : Within text (c.skip n) := by
  induction n generalizing c with
  | zero => exact h
  | succ n ih => exact ih h.next

theorem Within.ahead {c : Cursor} (h : Within text c) (n : Nat) :
    c.ahead n ∈ text ∨ c.ahead n = endOfText := by
  unfold Cursor.ahead
  rw [List.getD_eq_getElem?_getD]
  cases hn : c.rest[n]? with
  | none => exact Or.inr rfl
  | some ch => exact Or.inl (h ch (List.mem_of_getElem? hn))

theorem Within.mem_of_peek {c : Cursor} (h : Within text c) {ch : Char} (hpeek : c.peek = ch)
    (hch : ch ≠ endOfText) : ch ∈ text := by
  have hahead := h.ahead 0
  rw [show c.ahead 0 = ch from hpeek] at hahead
  exact hahead.resolve_right hch

namespace Scan

variable {α : Type} {Q : α → Prop}

@[grind ←] theorem scans_fail : ScansTo text Q (fail : Scan α) := keeps_throw

@[grind ←] theorem scans_ahead (n : Nat) : Scans text (ahead n) := by
  grind [ahead]

theorem scans_peek_mem : ScansTo text (fun c => c ≠ endOfText → c ∈ text) peek :=
  keeps_get_inv.bind fun _ hc => keeps_pure fun hend => hc.mem_of_peek rfl hend

@[grind ←] theorem scans_peek : Scans text peek := scans_ahead 0

@[grind ←] theorem scans_skip (n : Nat) : Scans text (skip n) :=
  keeps_modify fun _ hc => hc.skip n

@[grind ←] theorem scans_takeRun (p : Char → Bool) : Scans text (takeRun p) := by
  grind [takeRun]

@[grind ←] theorem scans_expect (p : Char → Bool) : Scans text (expect p) := by
  grind [expect]

@[grind ←] theorem scans_lineBreak : Scans text lineBreak := by
  grind [lineBreak]

@[grind ←] theorem scans_remaining : Scans text remaining := by
  grind [remaining]

@[grind ←] theorem scans_restOfLine : Scans text restOfLine := by
  grind [restOfLine]

@[grind ←] theorem scans_hexNumber (width : Nat) :
    Scans text (hexNumber width) := by
  grind [hexNumber]

/-! ## Names, tags and directives -/

@[grind ←] theorem scans_anchorName : Scans text anchorName := by
  unfold anchorName
  refine keeps_bind (scans_skip 1) fun _ => keeps_bind (scans_takeRun _) fun name => ?_
  extract_lets rest
  have hrest (u : Unit) : Scans text (rest u) :=
    keeps_bind (scans_expect _) fun _ => keeps_pure trivial
  clear_value rest
  grind

@[grind ←] theorem scans_tagHandle : Scans text tagHandle := by
  grind [tagHandle]

@[grind ←] theorem scans_percentBytes (n : Nat) :
    Scans text (percentBytes n) := by
  induction n with
  | zero => grind [percentBytes]
  | succ n ih => grind [percentBytes]

@[grind ←] theorem scans_tagParts (n : Nat) : Scans text (tagParts n) := by
  induction n with
  | zero => grind [tagParts]
  | succ n ih =>
    unfold tagParts
    refine keeps_bind (scans_takeRun _) fun run => keeps_bind scans_peek fun c => ?_
    grind

@[grind ←] theorem scans_tagText : Scans text tagText := by
  grind [tagText]

theorem scans_tag : ScansTo text Token.Readable tag := by
  unfold tag
  refine keeps_bind (scans_ahead 1) fun c => ?_
  extract_lets rest
  have hrest (handle : Option String) (suffix : String) :
      ScansTo text Token.Readable (rest (.tag handle suffix)) :=
    keeps_bind (scans_expect _) fun _ => keeps_pure trivial
  clear_value rest
  simp only [pure_bind]
  grind

theorem scans_takeRun_all (p : Char → Bool) :
    ScansTo text (fun run => ∀ c ∈ run, p c = true) (takeRun p) := by
  refine keeps_bind keeps_get fun c => keeps_bind (scans_skip _) fun _ => keeps_pure ?_
  exact fun d hd => List.mem_takeWhile_imp hd

/-- A number of a version has digits only, so nothing but their number can be wrong. -/
theorem scans_versionNumber (h : '%' ∈ text) : Scans text versionNumber := by
  refine (scans_takeRun_all _).bind fun digits hdigits => ?_
  extract_lets rest
  split
  · exact Keeps.bind (Q := fun _ => False) scans_fail fun _ hfalse => hfalse.elim
  · rename_i hne
    obtain ⟨ds, hds, -⟩ := Text.exists_digits (by simpa using hne) fun c hc =>
      Text.isDigit_of_ascii (by simpa [Char.isDigit, Char.le_def] using hdigits c hc)
    simp only [rest, hds.readInteger_eq]
    by_cases hlong : 4300 < ds.length
    · simp only [hlong, ↓reduceIte]
      exact fun _ _ => .scalar (.version h hlong)
    · simp only [hlong, ↓reduceIte]
      exact keeps_pure trivial

theorem scans_directive (h : '%' ∈ text) : ScansTo text Token.Readable directive := by
  have hversion := scans_versionNumber h
  unfold directive
  refine keeps_bind (scans_skip 1) fun _ => keeps_bind (scans_takeRun _) fun name => ?_
  extract_lets last rest
  have hlast (d : Directive) : ScansTo text Token.Readable (last d) :=
    keeps_bind scans_restOfLine fun _ => keeps_pure trivial
  clear_value last
  have hrest (u : Unit) : ScansTo text Token.Readable (rest u) := by
    refine keeps_bind (scans_expect _) fun _ => ?_
    grind
  clear_value rest
  grind

/-! ## Plain scalars -/

@[grind ←] theorem scans_gapBreaks (n : Nat) : Scans text (gapBreaks n) := by
  induction n with
  | zero => grind [gapBreaks]
  | succ n ih => grind [gapBreaks]

@[grind ←] theorem scans_plainGap : Scans text plainGap := by
  unfold plainGap
  refine keeps_bind (scans_takeRun _) fun spaces => keeps_bind scans_peek fun c => ?_
  grind

@[grind ←] theorem scans_plainParts (flow : Bool) (indent : Int) (n : Nat) (gap : Gap) :
    Scans text (plainParts flow indent n gap) := by
  induction n generalizing gap with
  | zero => grind [plainParts]
  | succ n ih => grind [plainParts]

@[grind ←] theorem scans_plainScalar (flow : Bool) (indent : Int) :
    Scans text (plainScalar flow indent) := by
  grind [plainScalar]

/-! ## Quoted scalars -/

@[grind ←] theorem scans_quotedBreaks (n : Nat) :
    Scans text (quotedBreaks n) := by
  induction n with
  | zero => grind [quotedBreaks]
  | succ n ih => grind [quotedBreaks]

@[grind ←] theorem scans_quotedGap : Scans text quotedGap := by
  grind [quotedGap]

theorem guarded_codePoint (h : '\\' ∈ text) (n : Nat) :
    Guarded (ScanFault text) (fun _ => True) (codePoint n) := by
  unfold codePoint
  split
  · exact .scalar (.codeOverflow h)
  · split
    · exact .scalar (.codePoint h)
    · exact .ok trivial

theorem scans_escape (h : '\\' ∈ text) : Scans text escape := by
  have hcode (n : Nat) : Scans text (liftM (codePoint n)) :=
    keeps_lift (guarded_codePoint h n)
  grind [escape]

@[grind ←] theorem scans_quotedRun (double : Bool) (n : Nat) :
    Scans text (quotedRun double n) := by
  induction n with
  | zero => grind [quotedRun]
  | succ n ih =>
    unfold quotedRun
    refine keeps_bind (scans_takeRun _) fun chars => ?_
    refine scans_peek_mem.bind fun c hc => ?_
    have hescape : c = '\\' → Scans text escape := by
      rintro rfl
      exact scans_escape (hc (by decide))
    grind

@[grind ←] theorem scans_quotedParts (double : Bool) (n : Nat) :
    Scans text (quotedParts double n) := by
  induction n with
  | zero => grind [quotedParts]
  | succ n ih => grind [quotedParts]

@[grind ←] theorem scans_quotedScalar (double : Bool) :
    Scans text (quotedScalar double) := by
  grind [quotedScalar]

/-! ## Block scalars -/

@[grind ←] theorem scans_chomping? : Scans text chomping? := by
  grind [chomping?]

@[grind ←] theorem scans_increment? : Scans text increment? := by
  grind [increment?]

@[grind ←] theorem scans_blockHead : Scans text blockHead := by
  grind [blockHead]

@[grind ←] theorem scans_leadingBreaks (n deepest : Nat) :
    Scans text (leadingBreaks n deepest) := by
  induction n generalizing deepest with
  | zero => grind [leadingBreaks]
  | succ n ih => grind [leadingBreaks]

@[grind ←] theorem scans_skipToColumn (indent : Nat) :
    Scans text (skipToColumn indent) := by
  grind [skipToColumn]

@[grind ←] theorem scans_blockBreaks (indent n : Nat) :
    Scans text (blockBreaks indent n) := by
  induction n with
  | zero => grind [blockBreaks]
  | succ n ih => grind [blockBreaks]

@[grind ←] theorem scans_atBlockLine (indent : Nat) :
    Scans text (atBlockLine indent) := by
  grind [atBlockLine]

@[grind ←] theorem scans_blockLines (folded : Bool) (indent n : Nat)
    (lastBreak breaks : List Char) :
    Scans text (blockLines folded indent n lastBreak breaks) := by
  induction n generalizing lastBreak breaks with
  | zero => grind [blockLines]
  | succ n ih =>
    unfold blockLines
    refine keeps_bind (scans_atBlockLine indent) fun atLine => ?_
    split
    · exact keeps_pure trivial
    · refine keeps_bind scans_peek fun _ => keeps_bind scans_peek fun _ => ?_
      refine keeps_bind (scans_takeRun _) fun line => keeps_bind scans_lineBreak fun ending => ?_
      refine keeps_bind scans_remaining fun left => ?_
      refine keeps_bind (scans_blockBreaks indent _) fun gaps => keeps_bind scans_peek fun _ => ?_
      refine keeps_bind (scans_atBlockLine indent) fun _ => ?_
      exact keeps_bind (ih ending gaps) fun more => keeps_pure trivial

@[grind ←] theorem scans_blockScalar (folded : Bool) (outer : Int) :
    Scans text (blockScalar folded outer) := by
  unfold blockScalar
  refine keeps_bind (scans_skip 1) fun _ => keeps_bind scans_blockHead fun head => ?_
  refine keeps_bind scans_remaining fun left => ?_
  simp only [pure_bind]
  grind

end Scan

end Mailroom.Yaml
