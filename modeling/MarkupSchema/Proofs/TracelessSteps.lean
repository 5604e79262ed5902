import MarkupSchema.Proofs.SessionHistory

/-!
# Steps that leave no trace

Three sorts of steps can be taken out of a session, and nobody who looks at the others
will notice: steps that fail, steps that only look something up, and writers that break
off. Of a lookup this is plain. A step that fails could have done a part of its work
before, because drafts are checked step by step and lists of drafts one after another,
and only the last part of it would be missing. And a writer that breaks off does leave
something behind, a mark on the lock which stays for the rest of the session.

None of this gets far. A draft is built before the session is touched, so there is
nothing to undo where building fails. Marks are seen by nobody, which is what the view
of shared sessions as sessions says. There the mark is gone, and each of the three sorts
of steps leaves the session just as it was.

Whether a step fails is known only when it is taken: the name of a generator is unknown
as long as none was made. So what is taken out is read off a run and not off the steps
alone, and the induction goes along the run.
-/

namespace MarkupSchema.Session

namespace Step

/-- Steps that look something up. -/
def isLookup : Step → Bool
  | .size | .tags | .get _ | .children _ | .fragment _ | .generate _ | .call _ | .compare _ => true
  | .register _ | .renew | .collect _ | .generator _ _ | .closure _ _ | .snapshot _
  | .breakOff => false

def isBreakOff : Step → Bool
  | .breakOff => true
  | _ => false

/-- What a step came to does not count for those that come after. -/
def isTraceless (next : Step) (answer : Except Fault Answer) : Bool :=
  !answer.isOk || next.isLookup || next.isBreakOff

end Step

/-- The steps that are left when all others are taken out, each with what it came to. -/
def remaining (steps : List Step) (answers : List (Except Fault Answer)) :
    List (Step × Except Fault Answer) :=
  (steps.zip answers).filter fun taken => !taken.1.isTraceless taken.2

/-! ## Single steps -/

theorem step_of_isLookup {s : Session} {next : Step} (h : next.isLookup = true) :
    (s.step next).1 = s := by
  cases next with
  | size | tags | get | children | fragment => rfl
  | generate id =>
      rw [step, perform]
      cases s.generators.lookup id <;> rfl
  | call id =>
      rw [step, perform]
      cases s.closures.lookup id <;> rfl
  | compare id =>
      rw [step, perform]
      cases s.snapshots.lookup id <;> rfl
  | register | renew | collect | generator | closure | snapshot | breakOff => cases h

theorem step_of_not_isOk {s : Session} {next : Step} (h : (s.step next).2.isOk = false) :
    (s.step next).1 = s := by
  rw [step] at h ⊢
  cases hdone : s.perform next with
  | error fault => rfl
  | ok done =>
      rw [hdone] at h
      cases h

theorem step_of_isTraceless {s : Session} {next : Step}
    (h : next.isTraceless (s.step next).2 = true) : (s.step next).1 = s := by
  rw [Step.isTraceless, Bool.or_eq_true, Bool.or_eq_true, Bool.not_eq_true'] at h
  rcases h with (hfailed | hlookup) | hbreak
  · exact step_of_not_isOk hfailed
  · exact step_of_isLookup hlookup
  · cases next with
    | breakOff => rfl
    | register | renew | collect | size | tags | get | children | fragment | generator | closure
    | generate | call | snapshot | compare => cases hbreak

/-! ## Runs -/

theorem remaining_run_cons (s : Session) (next : Step) (rest : List Step) :
    remaining (next :: rest) (s.run (next :: rest)) =
      if next.isTraceless (s.step next).2 then remaining rest (s.run rest)
      else (next, (s.step next).2) :: remaining rest ((s.step next).1.run rest) := by
  rw [run, remaining, List.zip_cons_cons, List.filter_cons]
  cases htrace : next.isTraceless (s.step next).2 with
  | true =>
      rw [step_of_isTraceless htrace]
      rfl
  | false => rfl

theorem after_remaining (s : Session) (steps : List Step) :
    s.after ((remaining steps (s.run steps)).map Prod.fst) = s.after steps := by
  induction steps generalizing s with
  | nil => rfl
  | cons next rest ih =>
      rw [remaining_run_cons, after_cons]
      cases htrace : next.isTraceless (s.step next).2 with
      | true => rw [if_pos rfl, ih, step_of_isTraceless htrace]
      | false => rw [if_neg Bool.false_ne_true, List.map_cons, after_cons, ih]

theorem run_remaining (s : Session) (steps : List Step) :
    s.run ((remaining steps (s.run steps)).map Prod.fst) =
      (remaining steps (s.run steps)).map Prod.snd := by
  induction steps generalizing s with
  | nil => rfl
  | cons next rest ih =>
      rw [remaining_run_cons]
      cases htrace : next.isTraceless (s.step next).2 with
      | true => rw [if_pos rfl, ih]
      | false => rw [if_neg Bool.false_ne_true, List.map_cons, run, ih, List.map_cons]

theorem drop_run_append (s : Session) (steps more : List Step) :
    (s.run (steps ++ more)).drop steps.length = (s.after steps).run more := by
  rw [run_append, List.drop_left' (length_run s steps)]

theorem run_remaining_append (s : Session) (steps more : List Step) :
    s.run ((remaining steps (s.run steps)).map Prod.fst ++ more) =
      (remaining steps (s.run steps)).map Prod.snd ++
        (s.run (steps ++ more)).drop steps.length := by
  rw [run_append, run_remaining, after_remaining, drop_run_append]

/-- When all steps are taken out that failed, that looked something up or that were
writers breaking off, the others come to what they came to before, and so does whatever
is done after them. This holds where a writer that breaks off leaves a mark as well. -/
theorem answers_without_traceless_steps :
    (∀ (s : Session) (steps more : List Step),
      s.run ((remaining steps (s.run steps)).map Prod.fst ++ more) =
        (remaining steps (s.run steps)).map Prod.snd ++
          (s.run (steps ++ more)).drop steps.length) ∧
    ∀ steps more : List Step,
      SharedSession.run {} ((remaining steps (SharedSession.run {} steps)).map Prod.fst ++ more) =
        (remaining steps (SharedSession.run {} steps)).map Prod.snd ++
          (SharedSession.run {} (steps ++ more)).drop steps.length := by
  refine ⟨run_remaining_append, fun steps more => ?_⟩
  simp only [SharedSession.run_eq_run]
  exact run_remaining_append {} steps more

end MarkupSchema.Session
