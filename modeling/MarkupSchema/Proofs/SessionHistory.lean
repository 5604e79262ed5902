import MarkupSchema.Proofs.SharedRegistry

/-!
# What generators answer

A generator should write the fragment of its component against the registry that
was current when it was made, with everything that has been registered there
since. None of that can be read off a session. A session knows one registry for
sure, the current one, and what it keeps for a generator depends on whether that
generator's registry has been replaced in the meantime. So the obvious invariant,
that a generator keeps the right registry, does not say enough: as long as the
registry is current nothing is kept at all, and the answer still grows.

The answer can be read off the steps. What matters in a step is its effect, and
there are three that count: another registry is opened, a component is registered,
a generator is made. The effect is known from the step alone, without the session
it is taken in, and so is the whole answer. Going back from a question, one finds
the step that made the generator, from there the step that opened its registry,
and then collects what was registered from there on until the next opening. `Told`
says this of a row of steps, and says nothing of sessions.

That a session agrees is shown forwards. Up to the making only the current
registry counts. From there the generator is followed through two states, one in
which it sees the current registry and one in which it keeps its own, and opening
a registry is the only step from the first to the second. There is none back.

What changes no answer comes from the steps as well. An opening ends what a
generator sees, so nothing that comes after it is collected. A writer that breaks
off has no effect. Two generators of one component are told the same if no
registry was opened between them, because what was registered between them is
collected for both, before the making for one and after it for the other.
-/

namespace MarkupSchema.Session

open Schema (Fragment)

/-! ## What a step does to generators -/

/-- The two kinds of generators. Each has names of its own. -/
inductive Kind where
  | bound
  | closure
  deriving DecidableEq

namespace Kind

/-- The step that asks a generator for its fragment. -/
def ask (kind : Kind) (id : String) : Step :=
  match kind with
  | .bound => .generate id
  | .closure => .call id

/-- The answer where nothing was made under a name. -/
def missing : Kind → Fault
  | .bound => .noGenerator
  | .closure => .noClosure

end Kind

/-- What a step can do to the registries that generators follow, and to the
generators. -/
inductive Effect where
  /-- Another registry is the current one, with these components to begin with. -/
  | opens (start : List Component)
  | registers (component : Component)
  | makes (kind : Kind) (id : String) (component : Component)
  | nothing

namespace Step

/-- The effect of a step. Whether there is one depends on the step alone. -/
def effect : Step → Effect
  | .register draft =>
      match build draft with
      | .ok component => .registers component
      | .error _ => .nothing
  | .renew => .opens []
  | .collect drafts =>
      match drafts.mapM build with
      | .ok components => .opens components
      | .error _ => .nothing
  | .generator id draft =>
      match build draft with
      | .ok component => .makes .bound id component
      | .error _ => .nothing
  | .closure id draft =>
      match build draft with
      | .ok component => .makes .closure id component
      | .error _ => .nothing
  | .size | .tags | .get _ | .children _ | .fragment _ | .generate _ | .call _ | .snapshot _
  | .compare _ | .breakOff => .nothing

def isOpening (next : Step) : Bool :=
  match next.effect with
  | .opens _ => true
  | _ => false

def isMaking (kind : Kind) (id : String) (next : Step) : Bool :=
  match next.effect with
  | .makes kind' id' _ => kind' = kind ∧ id' = id
  | _ => false

def registered (next : Step) : List Component :=
  match next.effect with
  | .registers component => [component]
  | _ => []

end Step

def undergo (s : Session) : Effect → Session
  | .opens start => s.replace (.ofList start)
  | .registers component => { s with current := s.current.register component }
  | .makes .bound id component => { s with generators := (id, { component }) :: s.generators }
  | .makes .closure id component => { s with closures := (id, { component }) :: s.closures }
  | .nothing => s

/-- A step does what its effect is, and may store a snapshot. -/
theorem step_eq_undergo (s : Session) (next : Step) :
    (s.step next).1 = { s.undergo next.effect with snapshots := (s.step next).1.snapshots } := by
  cases next with
  | register draft =>
      rw [step, perform, Step.effect]
      cases build draft <;> rfl
  | collect drafts =>
      rw [step, perform, Step.effect]
      cases drafts.mapM build <;> rfl
  | generator id draft | closure id draft =>
      rw [step, perform, Step.effect]
      cases build draft <;> rfl
  | generate id =>
      rw [step, perform]
      cases s.generators.lookup id <;> rfl
  | call id =>
      rw [step, perform]
      cases s.closures.lookup id <;> rfl
  | compare id =>
      rw [step, perform]
      cases s.snapshots.lookup id <;> rfl
  | renew | size | tags | get | children | fragment | snapshot | breakOff => rfl

/-- The generator that counts under a name. -/
def generator? (s : Session) (kind : Kind) (id : String) : Option Generator :=
  match kind with
  | .bound => s.generators.lookup id
  | .closure => s.closures.lookup id

theorem step_ask (s : Session) (kind : Kind) (id : String) :
    s.step (kind.ask id) =
      (s, match s.generator? kind id with
        | some g => .ok (.fragment (some (g.fragment s.current)))
        | none => .error kind.missing) := by
  cases kind with
  | bound =>
      rw [step, Kind.ask, perform, generator?]
      cases s.generators.lookup id <;> rfl
  | closure =>
      rw [step, Kind.ask, perform, generator?]
      cases s.closures.lookup id <;> rfl

theorem current_step_of_opens {s : Session} {next : Step} {start : List Component}
    (h : next.effect = .opens start) : (s.step next).1.current = .ofList start := by
  rw [step_eq_undergo, h]
  rfl

theorem current_step {s : Session} {next : Step} (h : next.isOpening = false) :
    (s.step next).1.current = .ofList (s.current.components ++ next.registered) := by
  have hsame : s.current = .ofList (s.current.components ++ []) := by
    rw [List.append_nil]
    rfl
  rw [Step.isOpening] at h
  rw [step_eq_undergo, Step.registered]
  cases heffect : next.effect with
  | opens start =>
      rw [heffect] at h
      cases h
  | registers component => rfl
  | makes kind id component =>
      rw [← hsame]
      cases kind <;> rfl
  | nothing => exact hsame

theorem generator?_step_of_makes {s : Session} {next : Step} {kind : Kind} {id : String}
    {component : Component} (h : next.effect = .makes kind id component) :
    (s.step next).1.generator? kind id = some { component } := by
  rw [step_eq_undergo, h]
  cases kind <;> exact List.lookup_cons_self

theorem generator?_step_of_isOpening {s : Session} {next : Step} {kind : Kind} {id : String}
    (h : next.isOpening = true) :
    (s.step next).1.generator? kind id
      = (s.generator? kind id).map fun g => g.retire s.current := by
  rw [Step.isOpening] at h
  split at h
  · next start heffect =>
      rw [step_eq_undergo, heffect]
      have hlookup := lookup_map_snd (fun g : Generator => g.retire s.current) id
      cases kind <;> exact hlookup _
  · cases h

theorem generator?_step {s : Session} {next : Step} {kind : Kind} {id : String}
    (hmaking : next.isMaking kind id = false) (hopening : next.isOpening = false) :
    (s.step next).1.generator? kind id = s.generator? kind id := by
  rw [Step.isMaking] at hmaking
  rw [Step.isOpening] at hopening
  rw [step_eq_undergo]
  cases heffect : next.effect with
  | opens start =>
      rw [heffect] at hopening
      cases hopening
  | registers component => rfl
  | makes kind' id' component =>
      rw [heffect] at hmaking
      have hne : kind' = kind → id' ≠ id := by simpa using hmaking
      have hbeq (hkind : kind' = kind) : (id == id') = false := beq_false_of_ne (hne hkind).symm
      cases kind <;> cases kind' <;> simp [undergo, generator?, List.lookup_cons, hbeq]
  | nothing => rfl

/-! ## Runs -/

def after (s : Session) (past : List Step) : Session :=
  past.foldl (fun s next => (s.step next).1) s

theorem after_cons (s : Session) (next : Step) (rest : List Step) :
    s.after (next :: rest) = (s.step next).1.after rest := rfl

theorem after_append (s : Session) (past rest : List Step) :
    s.after (past ++ rest) = (s.after past).after rest := List.foldl_append

theorem run_append (s : Session) (past rest : List Step) :
    s.run (past ++ rest) = s.run past ++ (s.after past).run rest := by
  induction past generalizing s with
  | nil => rfl
  | cons first past ih => rw [List.cons_append, run, run, ih, List.cons_append, after_cons]

theorem length_run (s : Session) (steps : List Step) : (s.run steps).length = steps.length := by
  induction steps generalizing s with
  | nil => rfl
  | cons next rest ih => rw [run, List.length_cons, ih, List.length_cons]

/-- What a step comes to stands in the run at the place of the step. -/
theorem getElem?_run (s : Session) (past rest : List Step) (next : Step) :
    (s.run (past ++ next :: rest))[past.length]? = some ((s.after past).step next).2 := by
  have hlength := s.length_run past
  rw [run_append, List.getElem?_append_right (Nat.le_of_eq hlength), hlength, Nat.sub_self]
  rfl

theorem current_after {s : Session} {steps : List Step}
    (h : ∀ next ∈ steps, next.isOpening = false) :
    (s.after steps).current = .ofList (s.current.components ++ steps.flatMap Step.registered) := by
  induction steps generalizing s with
  | nil =>
      rw [List.flatMap_nil, List.append_nil]
      rfl
  | cons next rest ih =>
      obtain ⟨hnext, hrest⟩ := List.forall_mem_cons.mp h
      rw [after_cons, ih hrest, current_step hnext, Registry.components_ofList, List.flatMap_cons,
        List.append_assoc]

/-- The steps up to the next that opens a registry. -/
def whileCurrent (steps : List Step) : List Step := steps.takeWhile fun next => !next.isOpening

theorem whileCurrent_cons (next : Step) (rest : List Step) :
    whileCurrent (next :: rest) = if next.isOpening then [] else next :: whileCurrent rest := by
  rw [whileCurrent, List.takeWhile_cons, whileCurrent]
  cases next.isOpening <;> rfl

/-- What does not follow the current registry stays as it is: a generator that
keeps one of its own, and a name under which nothing was made. -/
theorem generator?_after_of_map_retire {s : Session} {steps : List Step} {kind : Kind}
    {id : String} {found : Option Generator}
    (hsteps : ∀ next ∈ steps, next.isMaking kind id = false)
    (hretire : ∀ r, found.map (fun g => g.retire r) = found)
    (h : s.generator? kind id = found) : (s.after steps).generator? kind id = found := by
  induction steps generalizing s with
  | nil => exact h
  | cons next rest ih =>
      obtain ⟨hnext, hrest⟩ := List.forall_mem_cons.mp hsteps
      rw [after_cons]
      refine ih hrest ?_
      cases hopening : next.isOpening with
      | true => rw [generator?_step_of_isOpening hopening, h, hretire]
      | false => rw [generator?_step hnext hopening, h]

/-- A generator that follows the current registry sees what is registered until
another registry is opened. -/
theorem exists_generator?_after {s : Session} {steps : List Step} {kind : Kind} {id : String}
    {component : Component} (hsteps : ∀ next ∈ steps, next.isMaking kind id = false)
    (h : s.generator? kind id = some { component }) :
    ∃ g, (s.after steps).generator? kind id = some g ∧ g.component = component ∧
      g.registry (s.after steps).current
        = .ofList (s.current.components ++ (whileCurrent steps).flatMap Step.registered) := by
  induction steps generalizing s with
  | nil =>
      refine ⟨_, h, rfl, ?_⟩
      rw [whileCurrent, List.takeWhile_nil, List.flatMap_nil, List.append_nil]
      rfl
  | cons next rest ih =>
      obtain ⟨hnext, hrest⟩ := List.forall_mem_cons.mp hsteps
      rw [after_cons, whileCurrent_cons]
      cases hopening : next.isOpening with
      | true =>
          have hkept : (s.step next).1.generator? kind id = some ⟨component, some s.current⟩ := by
            rw [generator?_step_of_isOpening hopening, h]
            rfl
          -- The rest of the steps is not looked at, whatever it registers.
          refine ⟨_, generator?_after_of_map_retire hrest (fun _ => rfl) hkept, rfl, ?_⟩
          rw [if_pos rfl, List.flatMap_nil, List.append_nil]
          rfl
      | false =>
          have hsame := (generator?_step hnext hopening).trans h
          obtain ⟨g, hg, hcomponent, hregistry⟩ := ih hrest hsame
          refine ⟨g, hg, hcomponent, ?_⟩
          rw [hregistry, current_step hopening, Registry.components_ofList,
            if_neg Bool.false_ne_true, List.flatMap_cons, List.append_assoc]

/-! ## Histories -/

/-- Steps right after which a registry has been opened with these components. A
session begins with an empty one. -/
inductive Opened : List Step → List Component → Prop
  | beginning : Opened [] []
  | opening {older : List Step} {next : Step} {start : List Component}
      (h : next.effect = .opens start) : Opened (older ++ [next]) start

/-- What a generator answers, read off the steps taken so far. -/
inductive Told (past : List Step) (kind : Kind) (id : String) : Except Fault Answer → Prop
  /-- Nothing was made under the name. -/
  | missing (h : ∀ next ∈ past, next.isMaking kind id = false) :
      Told past kind id (.error kind.missing)
  /-- The last step that made something under the name bound it to the registry
  opened last before. There are the components it was opened with and those that
  were registered until the next one was opened, or until now. -/
  | made {older during later : List Step} {maker : Step} {start : List Component}
      {component : Component} (hpast : past = older ++ during ++ maker :: later)
      (hopened : Opened older start) (hduring : ∀ next ∈ during, next.isOpening = false)
      (hmaker : maker.effect = .makes kind id component)
      (hlater : ∀ next ∈ later, next.isMaking kind id = false) :
      Told past kind id (.ok (.fragment (some (.of component
        (.ofList (start ++ (during ++ whileCurrent later).flatMap Step.registered))))))

theorem forall_or_exists_last {α : Type} (p : α → Bool) (xs : List α) :
    (∀ x ∈ xs, p x = false) ∨
      ∃ front x back, xs = front ++ x :: back ∧ p x = true ∧ ∀ y ∈ back, p y = false := by
  induction xs with
  | nil => exact .inl (List.forall_mem_nil _)
  | cons x xs ih =>
      rcases ih with hnone | ⟨front, last, back, rfl, hlast, hback⟩
      · cases hx : p x with
        | true => exact .inr ⟨[], x, xs, rfl, hx, hnone⟩
        | false => exact .inl (List.forall_mem_cons.mpr ⟨hx, hnone⟩)
      · exact .inr ⟨x :: front, last, back, rfl, hlast, hback⟩

theorem exists_opened (past : List Step) :
    ∃ older during start, past = older ++ during ∧ Opened older start ∧
      ∀ next ∈ during, next.isOpening = false := by
  rcases forall_or_exists_last Step.isOpening past with hnone | hlast
  · exact ⟨[], past, [], rfl, .beginning, hnone⟩
  · obtain ⟨older, opening, during, hpast, hopening, hduring⟩ := hlast
    rw [Step.isOpening] at hopening
    split at hopening
    · next start heffect =>
        refine ⟨older ++ [opening], during, start, ?_, .opening heffect, hduring⟩
        rw [hpast, List.append_assoc, List.singleton_append]
    · cases hopening

theorem exists_told (past : List Step) (kind : Kind) (id : String) :
    ∃ answer, Told past kind id answer := by
  rcases forall_or_exists_last (Step.isMaking kind id) past with hnone | hlast
  · exact ⟨_, .missing hnone⟩
  · obtain ⟨before, maker, later, hpast, hmaker, hlater⟩ := hlast
    obtain ⟨older, during, start, rfl, hopened, hduring⟩ := exists_opened before
    rw [Step.isMaking] at hmaker
    split at hmaker
    · next kind' id' component heffect =>
        obtain ⟨rfl, rfl⟩ : kind' = kind ∧ id' = id := by simpa using hmaker
        exact ⟨_, .made hpast hopened hduring heffect hlater⟩
    · cases hmaker

theorem current_after_of_opened {older : List Step} {start : List Component}
    (h : Opened older start) : (after {} older).current = .ofList start := by
  cases h with
  | beginning => rfl
  | opening heffect =>
      rw [after_append]
      exact current_step_of_opens heffect

theorem Step.isOpening_of_makes {next : Step} {kind : Kind} {id : String} {component : Component}
    (h : next.effect = .makes kind id component) : next.isOpening = false := by
  rw [isOpening, h]

theorem Step.registered_of_makes {next : Step} {kind : Kind} {id : String} {component : Component}
    (h : next.effect = .makes kind id component) : next.registered = [] := by
  rw [registered, h]

/-- What a step comes to after others in a session. -/
def answerAfter (past : List Step) (next : Step) : Except Fault Answer :=
  ((after {} past).step next).2

theorem answerAfter_of_told {past : List Step} {kind : Kind} {id : String}
    {answer : Except Fault Answer} (h : Told past kind id answer) :
    answerAfter past (kind.ask id) = answer := by
  rw [answerAfter, step_ask]
  cases h with
  | missing hnone =>
      have hbegin : generator? {} kind id = none := by cases kind <;> rfl
      rw [generator?_after_of_map_retire hnone (fun _ => rfl) hbegin]
  | @made older during later maker start component hpast hopened hduring hmaker hlater =>
      have hopening := Step.isOpening_of_makes hmaker
      have hregistered := Step.registered_of_makes hmaker
      have hcurrent : (((after {} older).after during).step maker).1.current
          = .ofList (start ++ during.flatMap Step.registered) := by
        rw [current_step hopening, current_after hduring, current_after_of_opened hopened,
          hregistered, List.append_nil]
        rfl
      have hmade : (((after {} older).after during).step maker).1.generator? kind id
          = some { component } := generator?_step_of_makes hmaker
      obtain ⟨g, hg, hcomponent, hregistry⟩ := exists_generator?_after hlater hmade
      rw [hcurrent, Registry.components_ofList, List.append_assoc,
        ← List.flatMap_append] at hregistry
      rw [hpast, after_append, after_append, after_cons, hg]
      simp only [Generator.fragment, hregistry, hcomponent]

theorem answerAfter_iff (past : List Step) (kind : Kind) (id : String)
    (answer : Except Fault Answer) :
    answerAfter past (kind.ask id) = answer ↔ Told past kind id answer := by
  constructor
  · rintro rfl
    obtain ⟨answer, h⟩ := exists_told past kind id
    rwa [answerAfter_of_told h]
  · exact answerAfter_of_told

/-! ## What does not change an answer -/

theorem whileCurrent_append_of_isOpening {steps rest : List Step} {opening : Step}
    (h : opening.isOpening = true) :
    whileCurrent (steps ++ opening :: rest) = whileCurrent steps := by
  induction steps with
  | nil =>
      rw [List.nil_append, whileCurrent_cons, if_pos h]
      rfl
  | cons next steps ih => rw [List.cons_append, whileCurrent_cons, whileCurrent_cons, ih]

theorem whileCurrent_append_cons {steps rest : List Step} {next : Step}
    (hsteps : ∀ next ∈ steps, next.isOpening = false) (h : next.isOpening = false) :
    whileCurrent (steps ++ next :: rest) = steps ++ next :: whileCurrent rest := by
  induction steps with
  | nil => rw [List.nil_append, whileCurrent_cons, h, if_neg Bool.false_ne_true, List.nil_append]
  | cons first steps ih =>
      obtain ⟨hfirst, hsteps⟩ := List.forall_mem_cons.mp hsteps
      rw [List.cons_append, whileCurrent_cons, hfirst, if_neg Bool.false_ne_true, ih hsteps,
        List.cons_append]

theorem Step.isMaking_of_isOpening {next : Step} (h : next.isOpening = true) (kind : Kind)
    (id : String) : next.isMaking kind id = false := by
  rw [isOpening] at h
  rw [isMaking]
  split at h
  · next heffect => rw [heffect]
  · cases h

/-- Opening another registry puts an end to what a generator sees. -/
theorem Told.append_opening {past later : List Step} {opening : Step} {kind : Kind} {id : String}
    {answer : Except Fault Answer} (h : Told past kind id answer)
    (hopening : opening.isOpening = true) (hlater : ∀ next ∈ later, next.isMaking kind id = false) :
    Told (past ++ opening :: later) kind id answer := by
  have hrest : ∀ next ∈ opening :: later, next.isMaking kind id = false :=
    List.forall_mem_cons.mpr ⟨Step.isMaking_of_isOpening hopening kind id, hlater⟩
  cases h with
  | missing hnone => exact .missing (List.forall_mem_append.mpr ⟨hnone, hrest⟩)
  | made hpast hopened hduring hmaker hmore =>
      rw [← whileCurrent_append_of_isOpening hopening]
      refine .made ?_ hopened hduring hmaker (List.forall_mem_append.mpr ⟨hmore, hrest⟩)
      rw [hpast, List.append_assoc, List.cons_append]

theorem answerAfter_twins {past between later : List Step} {first second : Step} {kind kind' : Kind}
    {id id' : String} {component : Component} (hfirst : first.effect = .makes kind id component)
    (hsecond : second.effect = .makes kind' id' component)
    (hbetween : ∀ next ∈ between, next.isOpening = false)
    (hid : ∀ next ∈ between ++ second :: later, next.isMaking kind id = false)
    (hid' : ∀ next ∈ later, next.isMaking kind' id' = false) :
    answerAfter (past ++ first :: (between ++ second :: later)) (kind.ask id)
      = answerAfter (past ++ first :: (between ++ second :: later)) (kind'.ask id') := by
  obtain ⟨older, during, start, rfl, hopened, hduring⟩ := exists_opened past
  have hnone := Step.isOpening_of_makes hfirst
  have hnone' := Step.isOpening_of_makes hsecond
  have hall : ∀ next ∈ during ++ first :: between, next.isOpening = false :=
    List.forall_mem_append.mpr ⟨hduring, List.forall_mem_cons.mpr ⟨hnone, hbetween⟩⟩
  -- The steps between are collected after the first making and before the second.
  have htold := answerAfter_of_told (.made rfl hopened hduring hfirst hid)
  have htold' := answerAfter_of_told (.made rfl hopened hall hsecond hid')
  rw [whileCurrent_append_cons hbetween hnone'] at htold
  have hpast : older ++ (during ++ first :: between) ++ second :: later
      = older ++ during ++ first :: (between ++ second :: later) := by simp
  rw [hpast] at htold'
  rw [htold, htold']
  simp [Step.registered_of_makes hfirst, Step.registered_of_makes hsecond]

/-- A writer that breaks off leaves a mark behind and no more: all other answers
are the same without it. -/
theorem run_breakOff (past later : List Step) :
    (SharedSession.run {} (past ++ .breakOff :: later)).eraseIdx past.length
      = SharedSession.run {} (past ++ later) := by
  have hlength : past.length = (run {} past).length := (length_run {} past).symm
  rw [SharedSession.run_eq_run, SharedSession.run_eq_run, run_append, run_append, hlength,
    List.eraseIdx_append_of_length_le (Nat.le_refl _), Nat.sub_self]
  rfl

/-- Every step of a session comes to the same whether registries are shared behind
locks or not. What a generator answers can be read off the steps before: it is the
fragment of the component it was made of, against the registry that was current
when it was made, with all that was registered there. -/
theorem generators_answer_by_history :
    (∀ steps, SharedSession.run {} steps = run {} steps) ∧
    (∀ past rest next,
      (run {} (past ++ next :: rest))[past.length]? = some (answerAfter past next)) ∧
    (∀ past kind id answer, answerAfter past (kind.ask id) = answer ↔ Told past kind id answer) ∧
    (∀ past opening later kind id, opening.isOpening = true →
      (∀ next ∈ later, next.isMaking kind id = false) →
        answerAfter (past ++ opening :: later) (kind.ask id) = answerAfter past (kind.ask id)) ∧
    (∀ past later, (SharedSession.run {} (past ++ .breakOff :: later)).eraseIdx past.length
      = SharedSession.run {} (past ++ later)) ∧
    ∀ past between later first second kind kind' id id' component,
      first.effect = .makes kind id component → second.effect = .makes kind' id' component →
      (∀ next ∈ between, next.isOpening = false) →
      (∀ next ∈ between ++ second :: later, next.isMaking kind id = false) →
      (∀ next ∈ later, next.isMaking kind' id' = false) →
        answerAfter (past ++ first :: (between ++ second :: later)) (kind.ask id)
          = answerAfter (past ++ first :: (between ++ second :: later)) (kind'.ask id') := by
  refine ⟨SharedSession.run_eq_run, getElem?_run {}, answerAfter_iff, ?_, run_breakOff, ?_⟩
  · intro past opening later kind id hopening hlater
    have htold := (answerAfter_iff past kind id _).mp rfl
    exact answerAfter_of_told (htold.append_opening hopening hlater)
  · intro past between later first second kind kind' id id' component
    exact answerAfter_twins

/-- A child that comes after the generator shows up in what it answers, and one that
comes after another registry was opened does not. A closure made in between answers
the same. -/
theorem generators_answer_by_history_of_late_children :
    let column : Component.Draft := { tag := "mj-column" }
    let text : Component.Draft := { tag := "mj-text", steps := [.parent "mj-column"] }
    let image : Component.Draft := { tag := "mj-image", steps := [.parent "mj-column"] }
    let past : List Step := [.generator "g" column, .register text, .closure "c" column]
    let later : List Step := [.register image, .breakOff]
    let answer : Answer :=
      .fragment (some ⟨⟨"mj-column", by decide⟩, .structural [⟨"mj-text", by decide⟩], []⟩)
    Step.renew.isOpening = true ∧ (∀ next ∈ later, next.isMaking .bound "g" = false) ∧
      answerAfter (past ++ .renew :: later) (.generate "g") = .ok answer ∧
      answerAfter past (.generate "g") = answerAfter past (.call "c") := by
  obtain ⟨-, -, -, hfrozen, -, htwins⟩ := generators_answer_by_history
  refine ⟨rfl, by decide, (hfrozen _ .renew _ .bound "g" rfl (by decide)).trans (by rfl), ?_⟩
  exact htwins [] [.register { tag := "mj-text", steps := [.parent "mj-column"] }] []
    (.generator "g" { tag := "mj-column" }) (.closure "c" { tag := "mj-column" }) .bound .closure
    "g" "c" { tag := ⟨"mj-column", by decide⟩ } rfl rfl (by decide) (by decide) (by decide)

end MarkupSchema.Session
