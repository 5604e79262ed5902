import MarkupSchema.Schema.Fragment

/-!
# Sessions

A session is a run of steps against one current registry. Steps register
components, replace the registry, look things up, and make generators: a
generator is a component whose fragment is written later, against the
registry that was current when the generator was made.

A generator follows its registry for as long as that registry is current, so
components registered after it was made show up in its fragment. When the
registry is replaced, nobody can register into it any more, and every
generator that followed it keeps it as it was at that moment. There are two
kinds of generator with names of their own, bound generators and closures,
and they differ in nothing but what making one answers.

A step that fails changes nothing, and neither does a writer that breaks off
in the middle: registering is a single append, so nothing half done is ever
seen.
-/

namespace MarkupSchema

open Schema (Fragment)

/-- A component whose fragment is written later. -/
structure Generator where
  component : Component
  /-- The registry it keeps, once that is no longer the current one. -/
  kept : Option Registry := none
  deriving DecidableEq

namespace Generator

/-- The registry a generator reads, given the current one. -/
def registry (g : Generator) (current : Registry) : Registry := g.kept.getD current

/-- The fragment a generator writes now. -/
def fragment (g : Generator) (current : Registry) : Fragment :=
  .of g.component (g.registry current)

/-- The generator after its registry, if current, has been replaced. -/
def retire (g : Generator) (current : Registry) : Generator :=
  { g with kept := some (g.registry current) }

end Generator

/-- The state of a session. Of entries under one name, the first counts. -/
structure Session where
  current : Registry := .empty
  generators : List (String × Generator) := []
  closures : List (String × Generator) := []
  snapshots : List (String × Registry) := []
  deriving DecidableEq

namespace Session

/-- One step of a session. Tags to look up are any texts; components come as
drafts, because a step checks them itself. -/
inductive Step where
  | register (component : Component.Draft)
  | renew
  | collect (components : List Component.Draft)
  | size
  | tags
  | get (tag : String)
  | children (tag : String)
  | fragment (tag : String)
  | generator (id : String) (component : Component.Draft)
  | closure (id : String) (component : Component.Draft)
  | generate (id : String)
  | call (id : String)
  | snapshot (id : String)
  | compare (id : String)
  | breakOff

/-- What a step answers. -/
inductive Answer where
  | done
  | size (count : Nat)
  | extent (count : Nat)
  | tags (tags : List Tag)
  | component (found : Option Component)
  | fragment (found : Option Fragment)
  | same (agree : Bool)
  | brokenOff

/-- Why a step fails. -/
inductive Fault where
  | tag (error : TagError)
  | noGenerator
  | noClosure
  | noSnapshot
  deriving DecidableEq, Repr

/-- The wording of a fault. -/
def Fault.message : Fault → String
  | .tag error => error.message
  | .noGenerator => "no such generator"
  | .noClosure => "no such closure"
  | .noSnapshot => "no such snapshot"

/-- Checks drafts in order. -/
def build (draft : Component.Draft) : Except Fault Component := draft.build.mapError .tag

/-- The session with another registry in place of the current one. -/
def replace (s : Session) (r : Registry) : Session :=
  { s with
    current := r
    generators := s.generators.map fun entry => (entry.1, entry.2.retire s.current)
    closures := s.closures.map fun entry => (entry.1, entry.2.retire s.current) }

/-- The session and the answer after one step that succeeds. -/
def perform (s : Session) : Step → Except Fault (Session × Answer)
  | .register draft => do
      let component ← build draft
      let current := s.current.register component
      return ({ s with current }, .size current.size)
  | .renew => return (s.replace .empty, .size 0)
  | .collect drafts => do
      let components ← drafts.mapM build
      return (s.replace (.ofList components), .size components.length)
  | .size => return (s, .extent s.current.size)
  | .tags => return (s, .tags s.current.tags)
  | .get tag => return (s, .component (s.current.get? tag))
  | .children tag => return (s, .tags (s.current.childrenOf tag))
  | .fragment tag =>
      return (s, .fragment ((s.current.get? tag).map fun c => .of c s.current))
  | .generator id draft => do
      let component ← build draft
      return ({ s with generators := (id, { component }) :: s.generators }, .component component)
  | .closure id draft => do
      let component ← build draft
      return ({ s with closures := (id, { component }) :: s.closures }, .done)
  | .generate id =>
      match s.generators.lookup id with
      | some g => return (s, .fragment (g.fragment s.current))
      | none => throw .noGenerator
  | .call id =>
      match s.closures.lookup id with
      | some g => return (s, .fragment (g.fragment s.current))
      | none => throw .noClosure
  | .snapshot id => return ({ s with snapshots := (id, s.current) :: s.snapshots }, .done)
  | .compare id =>
      match s.snapshots.lookup id with
      | some r => return (s, .same (r.agrees s.current))
      | none => throw .noSnapshot
  | .breakOff => return (s, .brokenOff)

/-- The session after one step, and what the step comes to. -/
def step (s : Session) (next : Step) : Session × Except Fault Answer :=
  match s.perform next with
  | .ok (s', answer) => (s', .ok answer)
  | .error fault => (s, .error fault)

/-- What the steps come to, one after another. -/
def run (s : Session) : List Step → List (Except Fault Answer)
  | [] => []
  | next :: rest => (s.step next).2 :: run (s.step next).1 rest

/-- The events an answer stands for: one for each fragment written. -/
def Answer.events : Answer → List Event
  | .fragment (some f) => [f.event]
  | _ => []

end Session

end MarkupSchema
