import Mailroom.Yaml.Cursor

/-!
# Steps with nothing to hide

Most of what goes wrong in a document is that it is malformed. The fault of a scalar is different,
since whoever reads a level does not expect it. `Guarded` says of a result that such a fault, if it
is one, is accounted for. `Takes` says so of a step, which moreover takes one kind of state to
another. Where the two are the same, and the result does not matter for the state, this is `Keeps`.

The rules for steps that keep the state as it should be are given to `grind`. It goes no deeper than
eight rules, so a step that is put together of more parts is taken apart by `keeps_bind` first. The
rules for other steps are applied by hand, since only the reader of a proof knows which state is
between two steps.
-/

set_option autoImplicit false

namespace Mailroom.Yaml

variable {α β σ : Type} {P : ScalarError → Prop} {Q : α → Prop} {R : β → Prop}

/-- There is a result as it should be, or the fault of a scalar that is accounted for, or another
fault. -/
inductive Guarded (P : ScalarError → Prop) (Q : α → Prop) : Except Error α → Prop where
  | ok {a : α} (h : Q a) : Guarded P Q (.ok a)
  | malformed : Guarded P Q (.error .malformed)
  | scalar {e : ScalarError} (h : P e) : Guarded P Q (.error (.scalar e))

theorem Guarded.self (x : Except Error α) :
    Guarded (fun e => x = .error (.scalar e)) (fun a => x = .ok a) x := by
  rcases x with (_ | e) | a
  · exact .malformed
  · exact .scalar rfl
  · exact .ok rfl

theorem Guarded.bind {x : Except Error α} {f : α → Except Error β} (hx : Guarded P Q x)
    (hf : ∀ a, Q a → Guarded P R (f a)) : Guarded P R (x >>= f) := by
  cases hx with
  | ok h => exact hf _ h
  | malformed => exact .malformed
  | scalar h => exact .scalar h

theorem Guarded.mono {P' : ScalarError → Prop} {Q' : α → Prop} {x : Except Error α}
    (hx : Guarded P Q x) (hP : ∀ e, P e → P' e) (hQ : ∀ a, Q a → Q' a) : Guarded P' Q' x := by
  cases hx with
  | ok h => exact .ok (hQ _ h)
  | malformed => exact .malformed
  | scalar h => exact .scalar (hP _ h)

/-! ## Steps from state to state -/

/-- Started in a state of one kind, a step ends in one of another, unless it fails. -/
def Takes (pre : σ → Prop) (P : ScalarError → Prop) (post : α → σ → Prop)
    (m : StateT σ (Except Error) α) : Prop :=
  ∀ s, pre s → Guarded P (fun x => post x.1 x.2) (m.run s)

variable {m : StateT σ (Except Error) α} {f : α → StateT σ (Except Error) β} {pre : σ → Prop}
  {mid : α → σ → Prop} {post : β → σ → Prop}

theorem takes_bind (hm : Takes pre P mid m) (hf : ∀ a, Takes (mid a) P post (f a)) :
    Takes pre P post (m >>= f) := by
  intro s hs
  exact Guarded.bind (hm s hs) fun x hx => hf x.1 x.2 hx

theorem takes_pure {b : β} (h : ∀ s, pre s → post b s) :
    Takes pre P post (pure b : StateT σ (Except Error) β) := fun s hs => .ok (h s hs)

theorem takes_throw : Takes pre P mid (throw .malformed : StateT σ (Except Error) α) :=
  fun _ _ => .malformed

theorem takes_get : Takes pre P (fun r s => r = s ∧ pre s) (get : StateT σ (Except Error) σ) :=
  fun _ hs => .ok ⟨rfl, hs⟩

theorem takes_modify {g : σ → σ} {last : σ → Prop} (h : ∀ s, pre s → last (g s)) :
    Takes pre P (fun _ => last) (modify g : StateT σ (Except Error) PUnit) :=
  fun s hs => .ok (h s hs)

theorem Takes.mono {pre' : σ → Prop} {mid' : α → σ → Prop} (h : Takes pre P mid m)
    (hpre : ∀ s, pre' s → pre s) (hmid : ∀ a s, mid a s → mid' a s) : Takes pre' P mid' m :=
  fun s hs => (h s (hpre s hs)).mono (fun _ he => he) fun _ hx => hmid _ _ hx

/-! ## Steps that keep the state as it should be -/

/-- Started in a state as it should be, a step ends in one, with a result as it should be, unless it
fails. -/
def Keeps (inv : σ → Prop) (P : ScalarError → Prop) (Q : α → Prop)
    (m : StateT σ (Except Error) α) : Prop :=
  Takes inv P (fun a s => Q a ∧ inv s) m

variable {inv : σ → Prop}

theorem Keeps.bind (hm : Keeps inv P Q m) (hf : ∀ a, Q a → Keeps inv P R (f a)) :
    Keeps inv P R (m >>= f) := by
  intro s hs
  exact Guarded.bind (hm s hs) fun x hx => hf x.1 hx.1 x.2 hx.2

@[grind ←] theorem keeps_bind (hm : Keeps inv P (fun _ => True) m) (hf : ∀ a, Keeps inv P R (f a)) :
    Keeps inv P R (m >>= f) :=
  hm.bind fun a _ => hf a

@[grind ←] theorem keeps_map {g : α → β} (hm : Keeps inv P (fun a => R (g a)) m) :
    Keeps inv P R (g <$> m) := by
  rw [← bind_pure_comp]
  exact hm.bind fun a ha s hs => .ok ⟨ha, hs⟩

@[grind ←] theorem keeps_pure {a : α} (h : Q a) : Keeps inv P Q (pure a) :=
  fun _ hs => .ok ⟨h, hs⟩

@[grind ←] theorem keeps_throw : Keeps inv P Q (throw .malformed) := fun _ _ => .malformed

@[grind ←] theorem keeps_get : Keeps inv P (fun _ => True) (get : StateT σ (Except Error) σ) :=
  fun _ hs => .ok ⟨trivial, hs⟩

theorem keeps_get_inv : Keeps inv P inv (get : StateT σ (Except Error) σ) :=
  fun _ hs => .ok ⟨hs, hs⟩

@[grind ←] theorem keeps_modify {g : σ → σ} (h : ∀ s, inv s → inv (g s)) :
    Keeps inv P (fun _ => True) (modify g : StateT σ (Except Error) PUnit) :=
  fun s hs => .ok ⟨trivial, h s hs⟩

theorem keeps_lift {x : Except Error α} (h : Guarded P Q x) :
    Keeps inv P Q (liftM x : StateT σ (Except Error) α) := by
  intro s hs
  exact h.bind fun a ha => .ok ⟨ha, hs⟩

theorem keeps_mapM {f : α → StateT σ (Except Error) β} (xs : List α)
    (h : ∀ a, Keeps inv P (fun _ => True) (f a)) : Keeps inv P (fun _ => True) (xs.mapM f) := by
  induction xs with
  | nil => exact keeps_pure trivial
  | cons a xs ih =>
    rw [List.mapM_cons]
    exact keeps_bind (h a) fun _ => keeps_bind ih fun _ => keeps_pure trivial

theorem keeps_forIn {f : α → β → StateT σ (Except Error) (ForInStep β)} (xs : List α) (b : β)
    (h : ∀ a b, Keeps inv P (fun _ => True) (f a b)) :
    Keeps inv P (fun _ => True) (forIn xs b f) := by
  induction xs generalizing b with
  | nil => exact keeps_pure trivial
  | cons a xs ih =>
    rw [List.forIn_cons]
    refine keeps_bind (h a b) fun step => ?_
    cases step with
    | done b => exact keeps_pure trivial
    | yield b => exact ih b

end Mailroom.Yaml
