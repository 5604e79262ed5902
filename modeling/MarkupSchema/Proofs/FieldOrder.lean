import Mathlib.Data.List.Nodup
import MarkupSchema.Decode.Component
import MarkupSchema.Decode.Record

/-!
# Fields in any order

Records and components are read entry by entry into a draft, and each entry is
checked against the draft that the entries before it have left. So reading depends
on an order, and it is not plain from the code that what is read does not.

Three facts about single fields are enough to see it. Reading a field adds this field
to the draft and no other. Whether a value can be read as a field has nothing to do
with the draft. And two different fields may be read in either order, with the same
draft in the end. A `Form` is a way of reading entries together with these facts. It
says nothing of what the fields are or of where their values go, so one development
serves records and components in every notation.

What comes of the facts is that entries are taken in if and only if they name
different fields and each value fits its field. In the end the draft holds the fields
that were named, and each of them may be taken to be the one that was read last. That
is how to learn what a draft holds without going through the entries again.
-/

namespace MarkupSchema.Decode

/-- A way of reading entries into drafts, field by field. -/
structure Form (Field Draft Key Node Error : Type) where
  key : Key → Except Error String
  field? : String → Option Field
  has : Draft → Field → Bool
  read : Draft → Field → Node → Except Error Draft
  unknown : String → Error
  duplicate : String → Error
  has_read : ∀ {d d' : Draft} {f : Field} {node : Node}, read d f node = .ok d' →
    ∀ g, has d' g = true ↔ g = f ∨ has d g = true
  read_error : ∀ {d : Draft} {f : Field} {node : Node} {e : Error}, read d f node = .error e →
    ∀ d', read d' f node = .error e
  read_comm : ∀ {d d₁ d₂ : Draft} {f g : Field} {a b : Node}, f ≠ g → read d f a = .ok d₁ →
    read d₁ g b = .ok d₂ → ∃ d', read d g b = .ok d' ∧ read d' f a = .ok d₂

namespace Form

variable {Field Draft Key Node Error : Type} (form : Form Field Draft Key Node Error)

def take (draft : Draft) (entry : Key × Node) : Except Error Draft := do
  let name ← form.key entry.1
  match form.field? name with
  | none => throw (form.unknown name)
  | some field =>
      if form.has draft field then throw (form.duplicate name)
      else form.read draft field entry.2

/-- The field that a key names. -/
def fieldOf? (key : Key) : Option Field := (form.key key).toOption.bind form.field?

def named (entries : List (Key × Node)) : List (Option Field) :=
  entries.map fun entry => form.fieldOf? entry.1

variable {form}

theorem take_eq_ok_iff {d d' : Draft} {entry : Key × Node} :
    form.take d entry = .ok d' ↔
      ∃ f, form.fieldOf? entry.1 = some f ∧ form.has d f = false ∧
        form.read d f entry.2 = .ok d' := by
  constructor
  · intro h
    obtain ⟨name, hname, h⟩ := bind_eq_ok_iff.mp h
    split at h
    · cases h
    · next f hfield =>
        split at h
        · cases h
        · next hnew =>
            refine ⟨f, ?_, Bool.eq_false_iff.mpr hnew, h⟩
            rw [fieldOf?, hname]
            exact hfield
  · rintro ⟨f, hfield, hnew, hread⟩
    rw [fieldOf?] at hfield
    rw [take]
    cases hname : form.key entry.1 with
    | error e =>
        rw [hname] at hfield
        cases hfield
    | ok name =>
        rw [hname] at hfield
        replace hfield : form.field? name = some f := hfield
        simp only [bind, Except.bind, hfield, hnew]
        exact hread

theorem named_cons {entry : Key × Node} {f : Field} (h : form.fieldOf? entry.1 = some f)
    (rest : List (Key × Node)) : form.named (entry :: rest) = some f :: form.named rest := by
  rw [named, List.map_cons, h]
  rfl

theorem exists_read {d d₁ : Draft} {f : Field} {node : Node} (h : form.read d f node = .ok d₁)
    (e : Draft) : ∃ e₁, form.read e f node = .ok e₁ := by
  cases hread : form.read e f node with
  | ok e₁ => exact ⟨e₁, rfl⟩
  | error fault =>
      rw [form.read_error hread d] at h
      cases h

theorem has_eq_false_of_read {d d₁ : Draft} {f g : Field} {node : Node}
    (h : form.read d f node = .ok d₁) (hne : g ≠ f) (hnew : form.has d g = false) :
    form.has d₁ g = false := by
  have hnot : ¬ (g = f ∨ form.has d g = true) := not_or.mpr ⟨hne, by rw [hnew]; decide⟩
  exact Bool.eq_false_iff.mpr (mt (form.has_read h g).mp hnot)

theorem has_foldlM {d d' : Draft} {entries : List (Key × Node)}
    (h : entries.foldlM form.take d = .ok d') (f : Field) :
    form.has d' f = true ↔ some f ∈ form.named entries ∨ form.has d f = true := by
  induction entries generalizing d with
  | nil =>
      cases h
      simp [named]
  | cons entry rest ih =>
      rw [List.foldlM_cons] at h
      obtain ⟨d₁, htake, hrest⟩ := bind_eq_ok_iff.mp h
      obtain ⟨g, hfield, -, hread⟩ := take_eq_ok_iff.mp htake
      rw [ih hrest, form.has_read hread, named_cons hfield, List.mem_cons, Option.some.injEq]
      exact or_left_comm.trans or_assoc.symm

theorem has_foldlM_read {d d' : Draft} {pairs : List (Field × Node)}
    (h : pairs.foldlM (fun d pair => form.read d pair.1 pair.2) d = .ok d') (f : Field) :
    form.has d' f = true ↔ f ∈ pairs.map Prod.fst ∨ form.has d f = true := by
  induction pairs generalizing d with
  | nil =>
      cases h
      simp
  | cons pair rest ih =>
      rw [List.foldlM_cons] at h
      obtain ⟨d₁, hread, hrest⟩ := bind_eq_ok_iff.mp h
      rw [ih hrest, form.has_read hread, List.map_cons, List.mem_cons]
      exact or_left_comm.trans or_assoc.symm

theorem has_of_foldlM {d d' : Draft} {entries : List (Key × Node)}
    (h : entries.foldlM form.take d = .ok d') :
    (form.named entries).Nodup ∧
      ∀ o ∈ form.named entries, ∃ f, o = some f ∧ form.has d f = false := by
  induction entries generalizing d with
  | nil => exact ⟨List.nodup_nil, List.forall_mem_nil _⟩
  | cons entry rest ih =>
      rw [List.foldlM_cons] at h
      obtain ⟨d₁, htake, hrest⟩ := bind_eq_ok_iff.mp h
      obtain ⟨g, hfield, hnew, hread⟩ := take_eq_ok_iff.mp htake
      obtain ⟨hnodup, hfields⟩ := ih hrest
      have hlater (f : Field) (hf : form.has d₁ f = false) : f ≠ g ∧ form.has d f = false := by
        have hnot := mt (form.has_read hread f).mpr (by rw [hf]; decide)
        rw [not_or, Bool.not_eq_true] at hnot
        exact hnot
      rw [named_cons hfield]
      constructor
      · rw [List.nodup_cons]
        refine ⟨?_, hnodup⟩
        intro hmem
        obtain ⟨f, hsome, hf⟩ := hfields _ hmem
        exact (hlater f hf).1 (Option.some.inj hsome).symm
      · rw [List.forall_mem_cons]
        refine ⟨⟨g, rfl, hnew⟩, ?_⟩
        intro o ho
        obtain ⟨f, hsome, hf⟩ := hfields o ho
        exact ⟨f, hsome, (hlater f hf).2⟩

/-- Entries that name different fields are taken in if their values fit. -/
theorem exists_foldlM {d : Draft} {entries : List (Key × Node)}
    (hnodup : (form.named entries).Nodup)
    (hfit : ∀ entry ∈ entries, ∃ f d', form.fieldOf? entry.1 = some f ∧ form.has d f = false ∧
      form.read d f entry.2 = .ok d') :
    ∃ d', entries.foldlM form.take d = .ok d' := by
  induction entries generalizing d with
  | nil => exact ⟨d, rfl⟩
  | cons entry rest ih =>
      obtain ⟨hhead, hrest⟩ := List.forall_mem_cons.mp hfit
      obtain ⟨f, d₁, hfield, hnew, hread⟩ := hhead
      rw [named_cons hfield, List.nodup_cons] at hnodup
      have htake := take_eq_ok_iff.mpr ⟨f, hfield, hnew, hread⟩
      have hfit' : ∀ entry ∈ rest, ∃ g d', form.fieldOf? entry.1 = some g ∧
          form.has d₁ g = false ∧ form.read d₁ g entry.2 = .ok d' := by
        intro other hother
        obtain ⟨g, d', hfield', hnew', hread'⟩ := hrest other hother
        obtain ⟨d₂, hread''⟩ := exists_read hread' d₁
        have hne : g ≠ f := by
          rintro rfl
          exact hnodup.1 (List.mem_map.mpr ⟨other, hother, hfield'⟩)
        exact ⟨g, d₂, hfield', has_eq_false_of_read hread hne hnew', hread''⟩
      obtain ⟨d', hdone⟩ := ih hnodup.2 hfit'
      exact ⟨d', by rw [List.foldlM_cons, htake]; exact hdone⟩

theorem named_fields {key : Field → Key} {node : Field → Node}
    (hkey : ∀ f, form.fieldOf? (key f) = some f) (fields : List Field) :
    form.named (fields.map fun f => (key f, node f)) = fields.map some := by
  rw [named, List.map_map]
  exact List.map_congr_left fun f _ => hkey f

/-- Values that fit are taken in whatever the order of their entries. -/
theorem exists_foldlM_fields {key : Field → Key} {node : Field → Node} {fields : List Field}
    {d : Draft} {entries : List (Key × Node)} (hkey : ∀ f, form.fieldOf? (key f) = some f)
    (hnodup : fields.Nodup) (hnew : ∀ f ∈ fields, form.has d f = false)
    (hread : ∀ f ∈ fields, ∃ d', form.read d f (node f) = .ok d')
    (hperm : entries.Perm (fields.map fun f => (key f, node f))) :
    ∃ d', entries.foldlM form.take d = .ok d' := by
  have hnamed : (form.named entries).Nodup := by
    have hfields : (form.named entries).Perm (form.named (fields.map fun f => (key f, node f))) :=
      hperm.map _
    rw [hfields.nodup_iff, named_fields hkey]
    exact hnodup.map fun _ _ => Option.some.inj
  refine exists_foldlM hnamed ?_
  intro entry hentry
  obtain ⟨f, hf, rfl⟩ := List.mem_map.mp (hperm.mem_iff.mp hentry)
  obtain ⟨d', hd'⟩ := hread f hf
  exact ⟨f, d', hkey f, hnew f hf, hd'⟩

/-- The field read first might as well be read last. -/
theorem exists_read_last {d d₁ d' : Draft} {f : Field} {node : Node} {rest : List (Key × Node)}
    (hread : form.read d f node = .ok d₁) (hrest : rest.foldlM form.take d₁ = .ok d') :
    ∃ e, form.read e f node = .ok d' := by
  induction rest generalizing d d₁ with
  | nil =>
      cases hrest
      exact ⟨d, hread⟩
  | cons entry rest ih =>
      rw [List.foldlM_cons] at hrest
      obtain ⟨d₂, htake, hrest⟩ := bind_eq_ok_iff.mp hrest
      obtain ⟨g, -, hnew, hnext⟩ := take_eq_ok_iff.mp htake
      have hne : f ≠ g := by
        rintro rfl
        rw [(form.has_read hread f).mpr (.inl rfl)] at hnew
        cases hnew
      obtain ⟨e, -, hlast⟩ := form.read_comm hne hread hnext
      exact ih hlast hrest

/-- Of each entry the draft holds in the end what it would hold had the entry been
the last. -/
theorem exists_read_of_mem {d d' : Draft} {entries : List (Key × Node)} {entry : Key × Node}
    {f : Field} (h : entries.foldlM form.take d = .ok d') (hmem : entry ∈ entries)
    (hfield : form.fieldOf? entry.1 = some f) : ∃ e, form.read e f entry.2 = .ok d' := by
  induction entries generalizing d with
  | nil => cases hmem
  | cons head rest ih =>
      rw [List.foldlM_cons] at h
      obtain ⟨d₁, htake, hrest⟩ := bind_eq_ok_iff.mp h
      rcases List.mem_cons.mp hmem with rfl | hmem
      · obtain ⟨g, hfield', -, hread⟩ := take_eq_ok_iff.mp htake
        cases hfield.symm.trans hfield'
        exact exists_read_last hread hrest
      · exact ih hrest hmem

/-- Entries that name different fields are read like their values alone. -/
theorem foldlM_take_of_named {key : Field → Key} {node : Field → Node} {fields : List Field}
    {d d' : Draft} (hkey : ∀ f, form.fieldOf? (key f) = some f) (hnodup : fields.Nodup)
    (hnew : ∀ f ∈ fields, form.has d f = false) :
    (fields.map fun f => (key f, node f)).foldlM form.take d = .ok d' ↔
      fields.foldlM (fun d f => form.read d f (node f)) d = .ok d' := by
  induction fields generalizing d with
  | nil => exact Iff.rfl
  | cons f rest ih =>
      obtain ⟨hnot, hrest⟩ := List.nodup_cons.mp hnodup
      obtain ⟨hf, hothers⟩ := List.forall_mem_cons.mp hnew
      have htake (d₁ : Draft) :
          form.take d (key f, node f) = .ok d₁ ↔ form.read d f (node f) = .ok d₁ := by
        rw [take_eq_ok_iff]
        constructor
        · rintro ⟨g, hg, -, hread⟩
          cases (hkey f).symm.trans hg
          exact hread
        · intro hread
          exact ⟨f, hkey f, hf, hread⟩
      have hlater {d₁ : Draft} (hread : form.read d f (node f) = .ok d₁) :
          ∀ g ∈ rest, form.has d₁ g = false := by
        intro g hg
        have hne : g ≠ f := fun heq => hnot (heq ▸ hg)
        exact has_eq_false_of_read hread hne (hothers g hg)
      rw [List.map_cons, List.foldlM_cons, List.foldlM_cons, bind_eq_ok_iff, bind_eq_ok_iff]
      refine exists_congr fun d₁ => ?_
      rw [htake]
      exact and_congr_right fun hread => ih hrest (hlater hread)

end Form

/-! ## The two forms -/

theorem bind_pure_eq_error_iff {ε α β : Type} {x : Except ε α} {f : α → β} {e : ε} :
    (x >>= fun a => pure (f a)) = .error e ↔ x = .error e := by
  rw [bind_eq_error_iff]
  exact or_iff_left fun ⟨_, _, h⟩ => nomatch h

variable {Key Node Error : Type}

def recordForm (source : Source Key Node Error) :
    Form RecordField RecordDraft Key Node Error where
  key := source.key
  field? := RecordField.ofName?
  has := RecordDraft.has
  read := RecordDraft.read source
  unknown name := source.unknownField name (RecordField.all.map RecordField.name)
  duplicate := source.duplicateField
  has_read {_ _ f _} h g := by
    cases f
    all_goals
      obtain ⟨value, -, hdraft⟩ := bind_eq_ok_iff.mp h
      cases hdraft
      cases g <;> simp [RecordDraft.has]
  read_error {_ f _ _} h d' := by
    cases f
    all_goals
      have hvalue := bind_pure_eq_error_iff.mp h
      rw [RecordDraft.read, hvalue]
      rfl
  read_comm {_ _ _ f g _ _} hne hf hg := by
    cases f <;> cases g
    all_goals
      first
        | exact absurd rfl hne
        | obtain ⟨v, hv, hdraft⟩ := bind_eq_ok_iff.mp hf
          cases hdraft
          obtain ⟨w, hw, hdraft⟩ := bind_eq_ok_iff.mp hg
          cases hdraft
          exact ⟨_, by rw [RecordDraft.read, hw]; rfl, by rw [RecordDraft.read, hv]; rfl⟩

def componentForm (source : Source Key Node Error) :
    Form ComponentField ComponentDraft Key Node Error where
  key := source.key
  field? := ComponentField.ofName?
  has := ComponentDraft.has
  read := ComponentDraft.read source
  unknown name := source.unknownField name (ComponentField.all.map ComponentField.name)
  duplicate := source.duplicateField
  has_read {_ _ f _} h g := by
    cases f
    all_goals
      obtain ⟨value, -, hdraft⟩ := bind_eq_ok_iff.mp h
      cases hdraft
      cases g <;> simp [ComponentDraft.has]
  read_error {_ f _ _} h d' := by
    cases f
    all_goals
      have hvalue := bind_pure_eq_error_iff.mp h
      rw [ComponentDraft.read, hvalue]
      rfl
  read_comm {_ _ _ f g _ _} hne hf hg := by
    cases f <;> cases g
    all_goals
      first
        | exact absurd rfl hne
        | obtain ⟨v, hv, hdraft⟩ := bind_eq_ok_iff.mp hf
          cases hdraft
          obtain ⟨w, hw, hdraft⟩ := bind_eq_ok_iff.mp hg
          cases hdraft
          exact ⟨_, by rw [ComponentDraft.read, hw]; rfl, by rw [ComponentDraft.read, hv]; rfl⟩

theorem take_recordForm (source : Source Key Node Error) :
    (recordForm source).take = RecordDraft.take source := by
  funext draft entry
  rw [Form.take, RecordDraft.take]
  refine congrArg (source.key entry.1 >>= ·) (funext fun name => ?_)
  have hfield : (recordForm source).field? name = RecordField.ofName? name := rfl
  rw [hfield]
  cases RecordField.ofName? name <;> rfl

theorem take_componentForm (source : Source Key Node Error) :
    (componentForm source).take = ComponentDraft.take source := by
  funext draft entry
  rw [Form.take, ComponentDraft.take]
  refine congrArg (source.key entry.1 >>= ·) (funext fun name => ?_)
  have hfield : (componentForm source).field? name = ComponentField.ofName? name := rfl
  rw [hfield]
  cases ComponentField.ofName? name <;> rfl

end MarkupSchema.Decode
