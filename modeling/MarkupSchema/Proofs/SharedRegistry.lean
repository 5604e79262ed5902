import MarkupSchema.Session

/-!
# Registries behind locks

In a session the registry that is replaced is copied: every generator that
followed it takes it along. No copy is made where registries are shared. There a
generator holds on to a lock, the registry is behind the lock, and to replace
the current registry is to make another lock and to leave the old one to those
who hold it. Any number of generators may hold the same lock, and a lock can be
marked by a writer that broke off while it had it.

This file writes sessions down in that way and shows that nobody can tell the
difference: the same steps come to the same answers. A session is what one sees
of shared registries, and the proof is a view that takes every shared session to
a session and every step of the one to the same step of the other. What makes the
view work is that locks are numbered in the order in which they are made. A new
lock is then one that nobody holds yet, so the registry of an old generator is
left alone when the current one is replaced, and a registration, which is made
behind the last lock, reaches exactly those generators that hold it.

Marks are not in the view. A reader takes the registry from a marked lock just as
well, since registering is one append and leaves nothing half done.
-/

namespace MarkupSchema

open Schema (Fragment)

/-- A registry behind a lock. -/
structure Lock where
  registry : Registry := .empty
  /-- Whether a writer has broken off with the lock in hand. The mark stays. -/
  marked : Bool := false

namespace Lock

/-- Taking the lock. A marked lock gives its registry as an error. -/
def take (l : Lock) : Except Registry Registry :=
  if l.marked then .error l.registry else .ok l.registry

/-- The registry, taken from a marked lock as from any other. -/
def read (l : Lock) : Registry :=
  match l.take with
  | .ok r | .error r => r

@[simp] theorem read_eq_registry (l : Lock) : l.read = l.registry := by
  rw [read, take]
  cases l.marked <;> rfl

end Lock

theorem lookup_map_snd {α β : Type} (f : α → β) (id : String) (entries : List (String × α)) :
    (entries.map fun entry => (entry.1, f entry.2)).lookup id = (entries.lookup id).map f := by
  induction entries with
  | nil => rfl
  | cons entry entries ih =>
      obtain ⟨name, a⟩ := entry
      rw [List.map_cons, List.lookup_cons, List.lookup_cons, ih]
      cases id == name <;> rfl

/-- A component whose fragment is written later, from the registry behind a lock. -/
structure Holder where
  component : Component
  lock : Nat

/-- A session in which registries are shared. The last lock made is the current
one. -/
structure SharedSession where
  locks : Nat → Lock := fun _ => {}
  current : Nat := 0
  generators : List (String × Holder) := []
  closures : List (String × Holder) := []
  snapshots : List (String × Registry) := []

namespace SharedSession

open Session (Step Answer Fault build)

def lock (m : SharedSession) : Lock := m.locks m.current

def registry (m : SharedSession) : Registry := m.lock.read

/-- Changes what is behind the current lock, or its mark. -/
def write (m : SharedSession) (l : Lock) : SharedSession :=
  { m with locks := fun i => if i = m.current then l else m.locks i }

/-- Makes another lock the current one. -/
def replace (m : SharedSession) (r : Registry) : SharedSession :=
  { m with
    locks := fun i => if i = m.current + 1 then { registry := r } else m.locks i
    current := m.current + 1 }

theorem locks_write_of_ne {m : SharedSession} {i : Nat} (h : i ≠ m.current) (l : Lock) :
    (m.write l).locks i = m.locks i := if_neg h

theorem locks_replace_of_ne {m : SharedSession} {i : Nat} (h : i ≠ m.current + 1) (r : Registry) :
    (m.replace r).locks i = m.locks i := if_neg h

@[simp] theorem registry_write (m : SharedSession) (l : Lock) :
    (m.write l).registry = l.registry := by
  have hlock : (m.write l).lock = l := if_pos rfl
  rw [registry, hlock, Lock.read_eq_registry]

@[simp] theorem registry_replace (m : SharedSession) (r : Registry) :
    (m.replace r).registry = r := by
  have hlock : (m.replace r).lock = { registry := r } := if_pos rfl
  rw [registry, hlock, Lock.read_eq_registry]

/-- The fragment a holder writes now. -/
def fragment (m : SharedSession) (h : Holder) : Fragment :=
  .of h.component (m.locks h.lock).read

/-- The shared session and the answer after one step that succeeds. -/
def perform (m : SharedSession) : Step → Except Fault (SharedSession × Answer)
  | .register draft => do
      let component ← build draft
      let registry := m.registry.register component
      return (m.write { m.lock with registry }, .size registry.size)
  | .renew => return (m.replace .empty, .size 0)
  | .collect drafts => do
      let components ← drafts.mapM build
      return (m.replace (.ofList components), .size components.length)
  | .size => return (m, .extent m.registry.size)
  | .tags => return (m, .tags m.registry.tags)
  | .get tag => return (m, .component (m.registry.get? tag))
  | .children tag => return (m, .tags (m.registry.childrenOf tag))
  | .fragment tag =>
      return (m, .fragment ((m.registry.get? tag).map fun c => .of c m.registry))
  | .generator id draft => do
      let component ← build draft
      let generators := (id, ⟨component, m.current⟩) :: m.generators
      return ({ m with generators }, .component component)
  | .closure id draft => do
      let component ← build draft
      let closures := (id, ⟨component, m.current⟩) :: m.closures
      return ({ m with closures }, .done)
  | .generate id =>
      match m.generators.lookup id with
      | some h => return (m, .fragment (m.fragment h))
      | none => throw .noGenerator
  | .call id =>
      match m.closures.lookup id with
      | some h => return (m, .fragment (m.fragment h))
      | none => throw .noClosure
  | .snapshot id => return ({ m with snapshots := (id, m.registry) :: m.snapshots }, .done)
  | .compare id =>
      match m.snapshots.lookup id with
      | some r => return (m, .same (r.agrees m.registry))
      | none => throw .noSnapshot
  | .breakOff => return (m.write { m.lock with marked := true }, .brokenOff)

def step (m : SharedSession) (next : Step) : SharedSession × Except Fault Answer :=
  match m.perform next with
  | .ok (m', answer) => (m', .ok answer)
  | .error fault => (m, .error fault)

def run (m : SharedSession) : List Step → List (Except Fault Answer)
  | [] => []
  | next :: rest => (m.step next).2 :: run (m.step next).1 rest

/-! ## The view -/

/-- A holder of the current lock follows the current registry, and any other keeps
the one behind its lock. -/
def follow (m : SharedSession) (h : Holder) : Generator where
  component := h.component
  kept := if h.lock = m.current then none else some (m.locks h.lock).read

def view (m : SharedSession) : Session where
  current := m.registry
  generators := m.generators.map fun entry => (entry.1, m.follow entry.2)
  closures := m.closures.map fun entry => (entry.1, m.follow entry.2)
  snapshots := m.snapshots

/-- Nobody holds a lock that has not been made. -/
structure Bounded (m : SharedSession) : Prop where
  generators : ∀ entry ∈ m.generators, entry.2.lock ≤ m.current
  closures : ∀ entry ∈ m.closures, entry.2.lock ≤ m.current

theorem fragment_follow (m : SharedSession) (h : Holder) :
    (m.follow h).fragment m.registry = m.fragment h := by
  rw [Generator.fragment, Generator.registry, follow, fragment]
  by_cases hlock : h.lock = m.current
  · rw [if_pos hlock, hlock]
    rfl
  · rw [if_neg hlock]
    rfl

theorem follow_write (m : SharedSession) (l : Lock) (h : Holder) :
    (m.write l).follow h = m.follow h := by
  have hcurrent : (m.write l).current = m.current := rfl
  rw [follow, follow, hcurrent]
  by_cases hlock : h.lock = m.current
  · rw [if_pos hlock, if_pos hlock]
  · rw [if_neg hlock, if_neg hlock, locks_write_of_ne hlock]

theorem follow_replace {m : SharedSession} {h : Holder} (hbound : h.lock ≤ m.current)
    (r : Registry) : (m.replace r).follow h = (m.follow h).retire m.registry := by
  -- Nobody has got hold of the new lock yet, so nothing that is held changes.
  have hnew : h.lock ≠ m.current + 1 := Nat.ne_of_lt (Nat.lt_succ_of_le hbound)
  have hcurrent : (m.replace r).current = m.current + 1 := rfl
  rw [Generator.retire, Generator.registry, follow, follow, hcurrent, if_neg hnew,
    locks_replace_of_ne hnew]
  by_cases hlock : h.lock = m.current
  · rw [if_pos hlock, hlock]
    rfl
  · rw [if_neg hlock]
    rfl

theorem view_write (m : SharedSession) (l : Lock) :
    (m.write l).view = { m.view with current := l.registry } := by
  have hgenerators : (m.write l).generators = m.generators := rfl
  have hclosures : (m.write l).closures = m.closures := rfl
  have hsnapshots : (m.write l).snapshots = m.snapshots := rfl
  simp only [view, registry_write, follow_write, hgenerators, hclosures, hsnapshots]

theorem view_replace {m : SharedSession} (h : m.Bounded) (r : Registry) :
    (m.replace r).view = m.view.replace r := by
  have hentries {entries : List (String × Holder)}
      (hbound : ∀ entry ∈ entries, entry.2.lock ≤ m.current) :
      entries.map (fun entry => (entry.1, (m.replace r).follow entry.2))
        = (entries.map fun entry => (entry.1, m.follow entry.2)).map fun entry =>
          (entry.1, entry.2.retire m.registry) := by
    rw [List.map_map]
    refine List.map_congr_left fun entry hentry => ?_
    rw [follow_replace (hbound entry hentry)]
    rfl
  have hgenerators : (m.replace r).generators = m.generators := rfl
  have hclosures : (m.replace r).closures = m.closures := rfl
  have hsnapshots : (m.replace r).snapshots = m.snapshots := rfl
  simp only [Session.replace, view, registry_replace, hgenerators, hclosures, hsnapshots,
    hentries h.generators, hentries h.closures]

theorem follow_current (m : SharedSession) (component : Component) :
    m.follow ⟨component, m.current⟩ = { component } := by
  rw [follow, if_pos rfl]

theorem lookup_generators_view (m : SharedSession) (id : String) :
    m.view.generators.lookup id = (m.generators.lookup id).map m.follow :=
  lookup_map_snd m.follow id m.generators

theorem lookup_closures_view (m : SharedSession) (id : String) :
    m.view.closures.lookup id = (m.closures.lookup id).map m.follow :=
  lookup_map_snd m.follow id m.closures

/-- A step of a shared session is the same step of the session that is seen. -/
theorem perform_view {m : SharedSession} (h : m.Bounded) (next : Step) :
    m.view.perform next = (m.perform next).map fun done => (done.1.view, done.2) := by
  cases next with
  | register draft =>
      rw [Session.perform, perform]
      cases build draft with
      | error fault => rfl
      | ok component =>
          have hview := view_write m { m.lock with registry := m.registry.register component }
          exact congrArg (fun s => Except.ok (s, _)) hview.symm
  | renew => exact congrArg (fun s => Except.ok (s, _)) (view_replace h .empty).symm
  | collect drafts =>
      rw [Session.perform, perform]
      cases drafts.mapM build with
      | error fault => rfl
      | ok components => exact congrArg (fun s => Except.ok (s, _)) (view_replace h _).symm
  | size | tags | get | children | fragment | snapshot => rfl
  | generator id draft =>
      rw [Session.perform, perform]
      cases build draft with
      | error fault => rfl
      | ok component =>
          have hview : view { m with generators := (id, ⟨component, m.current⟩) :: m.generators }
              = { m.view with generators := (id, { component }) :: m.view.generators } := by
            rw [← follow_current m component]
            rfl
          exact congrArg (fun s => Except.ok (s, _)) hview.symm
  | closure id draft =>
      rw [Session.perform, perform]
      cases build draft with
      | error fault => rfl
      | ok component =>
          have hview : view { m with closures := (id, ⟨component, m.current⟩) :: m.closures }
              = { m.view with closures := (id, { component }) :: m.view.closures } := by
            rw [← follow_current m component]
            rfl
          exact congrArg (fun s => Except.ok (s, _)) hview.symm
  | generate id =>
      rw [Session.perform, perform, lookup_generators_view]
      cases m.generators.lookup id with
      | none => rfl
      | some holder =>
          have hfragment := m.fragment_follow holder
          exact congrArg (fun f => Except.ok (m.view, Answer.fragment (some f))) hfragment
  | call id =>
      rw [Session.perform, perform, lookup_closures_view]
      cases m.closures.lookup id with
      | none => rfl
      | some holder =>
          have hfragment := m.fragment_follow holder
          exact congrArg (fun f => Except.ok (m.view, Answer.fragment (some f))) hfragment
  | compare id =>
      have hsnapshots : m.view.snapshots = m.snapshots := rfl
      rw [Session.perform, perform, hsnapshots]
      cases m.snapshots.lookup id <;> rfl
  | breakOff =>
      have hregistry : m.lock.registry = m.view.current := (Lock.read_eq_registry m.lock).symm
      have hview := view_write m { m.lock with marked := true }
      rw [hregistry] at hview
      exact congrArg (fun s => Except.ok (s, _)) hview.symm

theorem Bounded.write {m : SharedSession} (h : m.Bounded) (l : Lock) : (m.write l).Bounded :=
  ⟨h.generators, h.closures⟩

theorem Bounded.replace {m : SharedSession} (h : m.Bounded) (r : Registry) :
    (m.replace r).Bounded where
  generators entry hentry := Nat.le_succ_of_le (h.generators entry hentry)
  closures entry hentry := Nat.le_succ_of_le (h.closures entry hentry)

/-- What a holder holds has been made: it is taken from the current lock. -/
theorem Bounded.perform {m m' : SharedSession} {next : Step} {answer : Answer} (h : m.Bounded)
    (hdone : m.perform next = .ok (m', answer)) : m'.Bounded := by
  cases next with
  | register draft =>
      obtain ⟨component, -, hdone⟩ := bind_eq_ok_iff.mp hdone
      cases hdone
      exact h.write _
  | renew =>
      cases hdone
      exact h.replace _
  | collect drafts =>
      obtain ⟨components, -, hdone⟩ := bind_eq_ok_iff.mp hdone
      cases hdone
      exact h.replace _
  | size | tags | get | children | fragment =>
      cases hdone
      exact h
  | generator id draft =>
      obtain ⟨component, -, hdone⟩ := bind_eq_ok_iff.mp hdone
      cases hdone
      exact ⟨List.forall_mem_cons.mpr ⟨Nat.le_refl _, h.generators⟩, h.closures⟩
  | closure id draft =>
      obtain ⟨component, -, hdone⟩ := bind_eq_ok_iff.mp hdone
      cases hdone
      exact ⟨h.generators, List.forall_mem_cons.mpr ⟨Nat.le_refl _, h.closures⟩⟩
  | generate id | call id | compare id =>
      rw [SharedSession.perform] at hdone
      split at hdone
      · cases hdone
        exact h
      · cases hdone
  | snapshot id =>
      cases hdone
      exact ⟨h.generators, h.closures⟩
  | breakOff =>
      cases hdone
      exact h.write _

theorem step_view {m : SharedSession} (h : m.Bounded) (next : Step) :
    (m.step next).1.Bounded ∧ m.view.step next = ((m.step next).1.view, (m.step next).2) := by
  rw [Session.step, perform_view h, step]
  cases hdone : m.perform next with
  | error fault => exact ⟨h, rfl⟩
  | ok done => exact ⟨h.perform hdone, rfl⟩

theorem run_view {m : SharedSession} (h : m.Bounded) (steps : List Step) :
    m.run steps = m.view.run steps := by
  induction steps generalizing m with
  | nil => rfl
  | cons next rest ih =>
      obtain ⟨hbounded, hstep⟩ := step_view h next
      rw [run, Session.run, hstep, ih hbounded]

/-- Steps come to the same answers whether registries are shared behind locks or
handed to the generators when they are replaced. -/
theorem run_eq_run (steps : List Step) : run {} steps = Session.run {} steps :=
  run_view ⟨List.forall_mem_nil _, List.forall_mem_nil _⟩ steps

end SharedSession

end MarkupSchema
