import Mailroom.Machine.Session
import Mailroom.Proofs.Machine.History
import Mailroom.Proofs.Report.Trials

/-!
# Sessions remember nothing and lose nothing

A session keeps one machine over many tasks. `Session.Fresh` says what a task comes to when each of
its runs is the first of a new machine, and `perform_fresh` that this is what it comes to, whatever
the tasks before it have left behind.

The one thing that runs share is the stream. What a run has taken from it is read off the log, and
what it has not taken is what the session keeps. Together they are what there was
(`takenIn_append_rest`), however the run ended, so the runs cut the stream into pieces that lie end
to end.
-/

set_option autoImplicit false

namespace Mailroom.Machine

namespace Session

/-! ## One task -/

/-- What a task comes to when each of its runs is the first of a new machine: the state and the
stream that it leaves, its reply and its log. The session `s` is the one before the task. -/
inductive Fresh (p : Program) (limit : Nat) (s : Session) : Task → Done → Prop where
  | run {values : List Data} {cells : List Cell} (hv : Cell.listOfData values = .ok cells) :
      Fresh p limit s (.run values)
        { session := ⟨p, limit, (run p limit cells).left, s.stream⟩
          reply := replyOf (run p limit cells)
          events := (run p limit cells).events }
  | notConvertible {values : List Data} {e : Cell.ConversionError}
      (hv : Cell.listOfData values = .error e) :
      Fresh p limit s (.run values) ⟨s, .notConvertible e, []⟩
  | runStream :
      Fresh p limit s .runStream
        { session := ⟨p, limit, (run p limit s.stream).left, (run p limit s.stream).rest⟩
          reply := replyOf (run p limit s.stream)
          events := (run p limit s.stream).events }
  | reset : Fresh p limit s .reset ⟨⟨p, limit, .initial, s.stream⟩, .wasReset, []⟩
  | tests {cases : List Data} {tests : List TestCase}
      (hc : cases.mapM TestCase.check = .ok tests) (ht : ∀ test ∈ tests, Tried p limit test) :
      Fresh p limit s (.tests cases)
        { session := ⟨p, limit, stateAfter p limit s.state tests, s.stream⟩
          reply := .tried (newTrials p limit tests)
          events := tests.flatMap fun test => (run p limit test.input).events }
  /-- The trials end at the first case that comes upon a slot that is not an instruction. -/
  | testsEnded {cases : List Data} {front rest : List TestCase} {test : TestCase} {kind : String}
      (hc : cases.mapM TestCase.check = .ok (front ++ test :: rest))
      (hfront : ∀ t ∈ front, Tried p limit t)
      (hfault : (run p limit test.input).fault = some (.notInstruction kind)) :
      Fresh p limit s (.tests cases)
        { session := ⟨p, limit, (run p limit test.input).left, s.stream⟩
          reply := .faulted (.notInstruction kind)
          events := (front ++ [test]).flatMap fun t => (run p limit t.input).events }
  | invalidCase {cases : List Data} {issues : List Schema.Issue}
      (hc : cases.mapM TestCase.check = .error issues) :
      Fresh p limit s (.tests cases) ⟨s, .invalidCase issues, []⟩

theorem tryCases_fresh (s : Session) {cases : List Data} {tests : List TestCase}
    (hc : cases.mapM TestCase.check = .ok tests) :
    Fresh s.program s.limit s (.tests cases) (s.tryCases tests) := by
  unfold tryCases judge
  rcases tried_or_foreign s.program s.limit tests with
    htried | ⟨front, test, rest, kind, rfl, hfront, hfault⟩
  · rw [judgeFrom_of_tried htried]
    exact .tests hc htried
  · rw [judgeFrom_of_foreign hfront hfault]
    exact .testsEnded hc hfront hfault

theorem perform_fresh (s : Session) (t : Task) :
    Fresh s.program s.limit s t (s.perform t) := by
  cases t with
  | run values =>
    simp only [perform]
    cases hv : Cell.listOfData values with
    | ok cells =>
      simp only [runOn, rerun_eq_run]
      exact .run hv
    | error e => exact .notConvertible hv
  | runStream =>
    simp only [perform, runOnStream, rerun_eq_run]
    exact .runStream
  | reset => exact .reset
  | tests cases =>
    simp only [perform]
    cases hc : cases.mapM TestCase.check with
    | ok tests => exact s.tryCases_fresh hc
    | error issues => exact .invalidCase hc

theorem Fresh.program_limit {p : Program} {limit : Nat} {s : Session} {t : Task} {d : Done}
    (h : Fresh p limit s t d) (hp : s.program = p) (hl : s.limit = limit) :
    d.session.program = p ∧ d.session.limit = limit := by
  cases h with
  | notConvertible => exact ⟨hp, hl⟩
  | invalidCase => exact ⟨hp, hl⟩
  | run | runStream | reset | tests | testsEnded => exact ⟨rfl, rfl⟩

/-! ## Many tasks -/

def after (s : Session) : List Task → Session
  | [] => s
  | t :: ts => after (s.perform t).session ts

theorem after_program_limit (s : Session) (ts : List Task) :
    (s.after ts).program = s.program ∧ (s.after ts).limit = s.limit := by
  induction ts generalizing s with
  | nil => exact ⟨rfl, rfl⟩
  | cons t ts ih =>
    obtain ⟨hp, hl⟩ := (s.perform_fresh t).program_limit rfl rfl
    rw [after, (ih _).1, (ih _).2, hp, hl]
    exact ⟨rfl, rfl⟩

theorem after_append (s : Session) (ts us : List Task) :
    s.after (ts ++ us) = (s.after ts).after us := by
  induction ts generalizing s with
  | nil => rfl
  | cons t ts ih => exact ih _

theorem length_performAll (s : Session) (ts : List Task) :
    (s.performAll ts).length = ts.length := by
  induction ts generalizing s with
  | nil => rfl
  | cons t ts ih => exact congrArg Nat.succ (ih _)

theorem take_performAll (s : Session) (ts : List Task) (i : Nat) :
    (s.performAll ts).take i = s.performAll (ts.take i) := by
  induction ts generalizing s i with
  | nil => simp [performAll]
  | cons t ts ih =>
    cases i with
    | zero => rfl
    | succ i => exact congrArg _ (ih _ i)

theorem getElem?_performAll (s : Session) (ts : List Task) (i : Nat) :
    (s.performAll ts)[i]? = ts[i]?.map (s.after (ts.take i)).perform := by
  induction ts generalizing s i with
  | nil => rfl
  | cons t ts ih =>
    cases i with
    | zero => rfl
    | succ i => exact ih _ i

/-- What the runs on the stream have taken, run by run. -/
def streamTakes (tasks : List Task) (dones : List Done) : List (List Cell) :=
  (tasks.zip dones).filterMap fun x =>
    match x.1 with
    | .runStream => some (takenIn x.2.events)
    | _ => none

theorem streamTakes_append_stream (s : Session) (t : Task) :
    (streamTakes [t] [s.perform t]).flatten ++ (s.perform t).session.stream = s.stream := by
  have h := s.perform_fresh t
  generalize s.perform t = d at h
  cases h with
  | runStream =>
    simp only [streamTakes, List.zip_cons_cons, List.zip_nil_right, List.filterMap_cons,
      List.filterMap_nil, List.flatten_cons, List.flatten_nil, List.append_nil]
    exact takenIn_append_rest s.program s.limit s.stream
  | run | notConvertible | reset | tests | testsEnded | invalidCase => rfl

theorem streamTakes_performAll (s : Session) (ts : List Task) :
    (streamTakes ts (s.performAll ts)).flatten ++ (s.after ts).stream = s.stream := by
  induction ts generalizing s with
  | nil => rfl
  | cons t ts ih =>
    have hone := s.streamTakes_append_stream t
    have hsplit : streamTakes (t :: ts) (s.performAll (t :: ts)) =
        streamTakes [t] [s.perform t] ++ streamTakes ts ((s.perform t).session.performAll ts) := by
      unfold streamTakes
      rw [← List.filterMap_append]
      rfl
    rw [hsplit, List.flatten_append, List.append_assoc, after, ih, hone]

/-- **A session remembers nothing and loses nothing.** Whatever tasks a machine has been put to,
each run of the next one comes to the same result and leaves the same state as the first run of a
new machine; a run on the stream does so on the part that is not taken yet. The pieces that the runs
on the stream have taken lie end to end, and with what is left they are the stream. -/
theorem session_has_no_memory (p : Program) (limit : Nat) (stream : List Cell)
    (tasks : List Task) :
    let s := Session.start p limit stream
    let dones := s.performAll tasks
    dones.length = tasks.length ∧
    (∀ i t, tasks[i]? = some t →
      ∃ d, dones[i]? = some d ∧ Fresh p limit (s.after (tasks.take i)) t d ∧
        d.session = s.after (tasks.take (i + 1)) ∧
        (streamTakes (tasks.take i) (dones.take i)).flatten ++ (s.after (tasks.take i)).stream =
          stream) ∧
    (streamTakes tasks dones).flatten ++ (s.after tasks).stream = stream := by
  intro s dones
  refine ⟨s.length_performAll tasks, fun i t hi => ?_, s.streamTakes_performAll tasks⟩
  have hfresh := (s.after (tasks.take i)).perform_fresh t
  rw [(s.after_program_limit _).1, (s.after_program_limit _).2] at hfresh
  refine ⟨(s.after (tasks.take i)).perform t, ?_, hfresh, ?_, ?_⟩
  · rw [s.getElem?_performAll, hi, Option.map_some]
  · rw [List.take_add_one, hi, after_append]
    rfl
  · rw [s.take_performAll]
    exact s.streamTakes_performAll _

end Session

end Mailroom.Machine
