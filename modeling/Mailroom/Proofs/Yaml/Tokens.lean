import Mailroom.Proofs.Yaml.Scan
import Mailroom.Yaml.Tokens

/-!
# What the tokens of a text can end with

The reader of tokens puts down the fault of a step as the last token. All the others can be read on
from, so the tokens of a text contain the fault of a scalar only if a step of reading it has failed
with that fault (`scanFault_of_unreadable_mem`).

`Sound` is the invariant of the reader. Most of its state does not matter to it: possible keys,
columns and the nesting of flow collections decide which tokens there are, but not what can go wrong
with a scalar.
-/

set_option autoImplicit false

namespace Mailroom.Yaml

namespace Tokenizer

/-- What is left is part of the text, and all that was read are tokens to read on from. -/
structure Sound (text : List Char) (t : Tokenizer) : Prop where
  within : Within text t.cursor
  readable : ∀ token ∈ t.tokens, token.Readable

abbrev Sounds (text : List Char) (x : Except Error Tokenizer) : Prop :=
  Guarded (ScanFault text) (Sound text) x

variable {text : List Char} {t : Tokenizer}

theorem Sound.set (h : t.Sound text) {flow : Nat} {indent : Int} {outer : List Int}
    {allowKey : Bool} {keys : List (Nat × PossibleKey)} :
    Sound text ⟨t.cursor, t.tokens, flow, indent, outer, allowKey, keys⟩ :=
  ⟨h.within, h.readable⟩

theorem Sound.push (h : t.Sound text) {token : Token} (htoken : token.Readable) :
    (t.push token).Sound text := by
  refine ⟨h.within, fun other hother => ?_⟩
  rcases Array.mem_push.mp hother with hother | rfl
  · exact h.readable other hother
  · exact htoken

theorem Sound.pushMark (h : t.Sound text) (width : Nat) {token : Token}
    (htoken : token.Readable) : (t.pushMark width token).Sound text :=
  ⟨h.within.skip width, (h.push htoken).readable⟩

theorem sounds_scan {α : Type} {Q : α → Prop} {step : Scan α} (h : t.Sound text)
    (hstep : ScansTo text Q step) :
    Guarded (ScanFault text) (fun x => Q x.1 ∧ x.2.Sound text) (t.scan step) :=
  (hstep t.cursor h.within).bind fun _ hx => .ok ⟨hx.1, hx.2, h.readable⟩

theorem sounds_pushScan {step : Scan Token} (h : t.Sound text)
    (hstep : ScansTo text Token.Readable step) : Sounds text (t.pushScan step) :=
  (sounds_scan h hstep).bind fun _ hx => .ok (hx.2.push hx.1)

/-! ## Blocks -/

theorem readable_endBlocks (column indent : Int) (outer : List Int) (tokens : Array Token)
    (h : ∀ token ∈ tokens, token.Readable) :
    ∀ token ∈ (endBlocks column indent outer tokens).2.2, token.Readable := by
  induction outer generalizing indent tokens with
  | nil => exact h
  | cons around outer ih =>
    unfold endBlocks
    split
    · refine ih around _ fun token htoken => ?_
      rcases Array.mem_push.mp htoken with htoken | rfl
      · exact h token htoken
      · trivial
    · exact h

theorem Sound.unwind (h : t.Sound text) (column : Int) : (t.unwind column).Sound text := by
  unfold Tokenizer.unwind
  split
  · exact ⟨h.within, readable_endBlocks column t.indent t.outer t.tokens h.readable⟩
  · exact h

theorem Sound.openBlock? (h : t.Sound text) {column : Int} {opened : Tokenizer}
    (hopened : t.openBlock? column = some opened) : opened.Sound text := by
  unfold Tokenizer.openBlock? at hopened
  split at hopened
  · cases hopened
    exact h.set
  · cases hopened

theorem Sound.openBlock (h : t.Sound text) {token : Token} (htoken : token.Readable) :
    (t.openBlock token).Sound text := by
  unfold Tokenizer.openBlock
  split
  · rename_i opened hopened
    exact (h.openBlock? hopened).push htoken
  · exact h

/-! ## Possible keys -/

theorem sounds_dropStale (h : t.Sound text) : Sounds text t.dropStale := by
  unfold dropStale
  dsimp only
  split
  · exact .malformed
  · exact .ok h.set

theorem sounds_dropKey (h : t.Sound text) : Sounds text t.dropKey := by
  unfold dropKey
  dsimp only
  split
  · exact .malformed
  · exact .ok h.set

theorem sounds_noteKey (h : t.Sound text) : Sounds text t.noteKey := by
  unfold noteKey
  split
  · exact (sounds_dropKey h).bind fun _ ht => .ok ht.set
  · exact .ok h

theorem Sound.readable_extract (h : t.Sound text) {first last : Nat} :
    ∀ token ∈ t.tokens.extract first last, token.Readable := by
  intro token htoken
  obtain ⟨k, hk, rfl⟩ := Array.mem_extract_iff_getElem.mp htoken
  exact h.readable _ (Array.getElem_mem _)

theorem Sound.insertAt (h : t.Sound text) (place : Nat) {tokens : Array Token}
    (htokens : ∀ token ∈ tokens, token.Readable) : (t.insertAt place tokens).Sound text := by
  refine ⟨h.within, fun token htoken => ?_⟩
  simp only [Tokenizer.insertAt, Array.mem_append] at htoken
  rcases htoken with (hbefore | hinside) | hafter
  · exact h.readable_extract token hbefore
  · exact htokens token hinside
  · exact h.readable_extract token hafter

/-! ## One token -/

theorem Sound.toNextToken (h : t.Sound text) (n : Nat) : (t.toNextToken n).Sound text := by
  induction n generalizing t with
  | zero => exact h
  | succ n ih =>
    unfold Tokenizer.toNextToken
    extract_lets blanks c₁ c₂ t₁ width
    have hc₁ : Within text c₁ := h.within.skip blanks
    have hc₂ : Within text c₂ := by
      unfold c₂
      split
      · exact hc₁.skip _
      · exact hc₁
    split
    · exact ih ⟨hc₂.skip width, h.readable⟩
    · exact ⟨hc₂, h.readable⟩

theorem Sound.skipByteOrderMark (h : t.Sound text) : t.skipByteOrderMark.Sound text := by
  unfold Tokenizer.skipByteOrderMark
  split
  · exact ⟨h.within.next, h.readable⟩
  · exact h

theorem sounds_leaveBlocks (h : t.Sound text) : Sounds text t.leaveBlocks :=
  (sounds_dropKey (h.unwind (-1))).bind fun _ ht => .ok ht.set

theorem sounds_documentMark (h : t.Sound text) {token : Token} (htoken : token.Readable) :
    Sounds text (t.documentMark token) :=
  (sounds_leaveBlocks h).bind fun _ ht => .ok (ht.pushMark 3 htoken)

theorem sounds_flowStart (h : t.Sound text) {token : Token} (htoken : token.Readable) :
    Sounds text (t.flowStart token) :=
  (sounds_noteKey h).bind fun _ ht => .ok (ht.set.pushMark 1 htoken)

theorem sounds_flowEnd (h : t.Sound text) {token : Token} (htoken : token.Readable) :
    Sounds text (t.flowEnd token) := by
  refine (sounds_dropKey h).bind fun t' ht' => ?_
  dsimp only
  split
  · exact .malformed
  · exact .ok (ht'.set.pushMark 1 htoken)

theorem sounds_flowEntry (h : t.Sound text) : Sounds text t.flowEntry := by
  refine (sounds_dropKey h.set).bind fun t' ht' => ?_
  exact .ok (ht'.pushMark 1 trivial)

theorem Sound.opened (h : t.Sound text) {start : Token} (hstart : start.Readable) :
    Sound text (if t.inBlock then t.openBlock start else t) := by
  split
  · exact h.openBlock hstart
  · exact h

theorem sounds_opening (h : t.Sound text) {start token : Token} (hstart : start.Readable)
    (htoken : token.Readable) (allow : Tokenizer → Bool) :
    Sounds text (do
      if t.inBlock && !t.allowKey then throw .malformed
      let t := if t.inBlock then t.openBlock start else t
      let t ← { t with allowKey := allow t }.dropKey
      return t.pushMark 1 token) := by
  by_cases hguard : (t.inBlock && !t.allowKey) = true
  · rw [if_pos hguard]
    exact .malformed
  · rw [if_neg hguard]
    exact (sounds_dropKey (h.opened hstart).set).bind fun _ ht =>
      .ok (ht.pushMark 1 htoken)

theorem sounds_blockEntry (h : t.Sound text) : Sounds text t.blockEntry :=
  sounds_opening h (by trivial) (by trivial) fun _ => true

theorem sounds_key (h : t.Sound text) : Sounds text t.key :=
  sounds_opening h (by trivial) (by trivial) inBlock

theorem sounds_value (h : t.Sound text) : Sounds text t.value := by
  unfold value
  split
  · rename_i k _
    extract_lets t₁ opened t₂
    have ht₁ : t₁.Sound text := h.set
    have hopened : ∀ t' ∈ opened, t'.Sound text := by
      intro t' ht'
      unfold opened at ht'
      split at ht'
      · exact ht₁.openBlock? ht'
      · cases ht'
    have ht₂ : t₂.Sound text := by
      unfold t₂
      cases hcase : opened with
      | some t' => exact (hopened t' hcase).insertAt _ (by simp [Token.Readable])
      | none => exact ht₁.insertAt _ (by simp [Token.Readable])
    exact .ok (ht₂.pushMark 1 trivial)
  · exact sounds_opening h (by trivial) (by trivial) inBlock

theorem sounds_simple (h : t.Sound text) {step : Scan Token}
    (hstep : ScansTo text Token.Readable step) : Sounds text (t.simple step) :=
  (sounds_noteKey h).bind fun _ ht => sounds_pushScan ht.set hstep

theorem sounds_blockScalar (h : t.Sound text) (folded : Bool) :
    Sounds text (t.blockScalar folded) := by
  refine (sounds_dropKey h.set).bind fun t' ht' => sounds_pushScan ht' ?_
  exact keeps_bind (Scan.scans_blockScalar _ _) fun _ => keeps_pure trivial

theorem sounds_plain (h : t.Sound text) : Sounds text t.plain := by
  refine (sounds_noteKey h).bind fun t' ht' => ?_
  refine (sounds_scan ht' (Scan.scans_plainScalar _ _)).bind fun x hx => ?_
  exact .ok (hx.2.push (by trivial)).set

theorem sounds_token (h : t.Sound text) : Sounds text t.token := by
  have hquoted (double : Bool) :
      ScansTo text Token.Readable (return .scalar (← Scan.quotedScalar double) false) :=
    keeps_bind (Scan.scans_quotedScalar double) fun _ => keeps_pure trivial
  unfold token
  extract_lets c blankAfter quoted
  split
  · rename_i hpercent
    -- the sign is what a fault of the version number is blamed on
    have hpeek : c.peek = '%' := by simpa using (Bool.and_eq_true_iff.mp hpercent).2
    have hmem : '%' ∈ text := h.within.mem_of_peek hpeek (by decide)
    exact (sounds_leaveBlocks h).bind fun _ ht => sounds_pushScan ht (Scan.scans_directive hmem)
  · split
    · exact sounds_documentMark h trivial
    · split
      · exact sounds_documentMark h trivial
      · split
        · exact sounds_flowStart h trivial
        · exact sounds_flowStart h trivial
        · exact sounds_flowEnd h trivial
        · exact sounds_flowEnd h trivial
        · exact sounds_flowEntry h
        · exact sounds_simple h
            (keeps_bind Scan.scans_anchorName fun _ => keeps_pure trivial)
        · exact sounds_simple h
            (keeps_bind Scan.scans_anchorName fun _ => keeps_pure trivial)
        · exact sounds_simple h Scan.scans_tag
        · exact sounds_simple h (hquoted false)
        · exact sounds_simple h (hquoted true)
        · split_ifs
          · exact sounds_blockEntry h
          · exact sounds_key h
          · exact sounds_value h
          · exact sounds_blockScalar h false
          · exact sounds_blockScalar h true
          · exact sounds_plain h
          · exact .malformed

/-! ## All tokens -/

theorem sounds_toToken (h : t.Sound text) : Sounds text t.toToken := by
  unfold toToken
  extract_lets t₁
  have ht₁ : t₁.Sound text := h.skipByteOrderMark
  have ht₂ := ht₁.toNextToken (t₁.cursor.remaining + 1)
  generalize t₁.toNextToken (t₁.cursor.remaining + 1) = t₂ at ht₂
  exact (sounds_dropStale ht₂).bind fun _ ht => .ok (ht.unwind _)

theorem Sound.eq_of_unreadable_mem (h : t.Sound text) {e e' : Error}
    (hmem : .unreadable e' ∈ t.brokenOff e) : e' = e := by
  rcases Array.mem_push.mp hmem with hmem | heq
  · exact (h.readable_extract _ hmem).elim
  · exact Token.unreadable.inj heq

theorem scanFault_of_mem_brokenOff (h : t.Sound text) {α : Type} {Q : α → Prop} {e : Error}
    {e' : ScalarError} (he : Guarded (ScanFault text) Q (.error e))
    (hmem : .unreadable (.scalar e') ∈ t.brokenOff e) : ScanFault text e' := by
  rw [← h.eq_of_unreadable_mem hmem] at he
  cases he with
  | scalar h => exact h

attribute [local irreducible] toToken in
theorem run_succ (n : Nat) (t : Tokenizer) :
    run (n + 1) t =
      match t.toToken with
      | .error e => t.brokenOff e
      | .ok arrived =>
        match if arrived.cursor.rest.isEmpty then arrived.leaveBlocks else arrived.token with
        | .error e => t.brokenOff e
        | .ok next => if arrived.cursor.rest.isEmpty then next.tokens else run n next :=
  rfl

theorem scanFault_of_mem_run {n : Nat} (h : t.Sound text) {e : ScalarError}
    (hmem : .unreadable (.scalar e) ∈ run n t) : ScanFault text e := by
  induction n generalizing t with
  | zero => exact absurd (h.eq_of_unreadable_mem hmem) (by simp)
  | succ n ih =>
    have harrived := sounds_toToken h
    rw [run_succ] at hmem
    cases heq : t.toToken with
    | error e' =>
      rw [heq] at harrived hmem
      exact scanFault_of_mem_brokenOff h harrived hmem
    | ok arrived =>
      rw [heq] at hmem
      rw [heq] at harrived
      cases harrived with | ok harrived =>
      -- at the end of the text the open blocks are left, before it a token is read
      have hnext : Sounds text
          (if arrived.cursor.rest.isEmpty then arrived.leaveBlocks else arrived.token) := by
        split
        · exact sounds_leaveBlocks harrived
        · exact sounds_token harrived
      dsimp only at hmem
      split at hmem
      · rename_i e' heq'
        rw [heq'] at hnext
        exact scanFault_of_mem_brokenOff h hnext hmem
      · rename_i next heq'
        rw [heq'] at hnext
        cases hnext with | ok hnext =>
        split at hmem
        · exact (hnext.readable _ hmem).elim
        · exact ih hnext hmem

end Tokenizer

theorem scanFault_of_unreadable_mem {text : String} {e : ScalarError}
    (hmem : .unreadable (.scalar e) ∈ tokens text) : ScanFault text.toList e := by
  unfold tokens at hmem
  extract_lets cs at hmem
  split at hmem
  · exact Tokenizer.scanFault_of_mem_run ⟨fun _ hc => hc, by simp⟩ (Array.mem_toList_iff.mp hmem)
  · simp at hmem

end Mailroom.Yaml
