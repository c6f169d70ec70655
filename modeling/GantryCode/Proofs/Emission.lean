import GantryCode.Emitter

namespace GantryCode

/-- The commands with which the laser is switched. -/
def Options.cutterCommands (options : Options) : List String :=
  [options.cutterThrough, options.cutterEtch, options.cutterVaporize, options.cutterOff]

namespace Emission

/-! What emitting leaves behind, however it ends.

A relation between the emitter before and the emitter after is a progress if it holds
of doing nothing and of doing one thing after the other. What every step keeps, the
whole keeps, also where it fails on the way.
-/

variable {ε σ α β : Type}

theorem bind_eq_ok {first : Except ε α} {next : α → Except ε β} {result : β} :
    first >>= next = .ok result ↔ ∃ middle, first = .ok middle ∧ next middle = .ok result := by
  cases first <;> simp [bind, Except.bind]

theorem map_eq_ok {given : Except ε α} {change : α → β} {result : β} :
    given.map change = .ok result ↔ ∃ found, given = .ok found ∧ change found = result := by
  cases given <;> simp [Except.map]

/-- What can be seen of a result tells that there is one. -/
theorem ok_of_shown {given : Except ε α} {view : α → β} {seen : β}
    (shown : given.toOption.map view = some seen) :
    ∃ found, given = .ok found ∧ view found = seen := by
  cases given with
  | error fault => cases shown
  | ok found => exact ⟨found, rfl, Option.some.inj shown⟩

/-- Whatever this fails with is of a kind. -/
def FailsOnly (kind : ε → Prop) (given : Except ε α) : Prop :=
  ∀ fault, given = .error fault → kind fault

theorem FailsOnly.ok {kind : ε → Prop} (result : α) : FailsOnly kind (.ok result) :=
  fun _ => nofun

theorem FailsOnly.weaken {kind wider : ε → Prop} {given : Except ε α}
    (fails : FailsOnly kind given) (wide : ∀ fault, kind fault → wider fault) :
    FailsOnly wider given :=
  fun fault failed => wide fault (fails fault failed)

theorem FailsOnly.chain {kind : ε → Prop} {first : Except ε α} {next : α → Except ε β}
    (fails : FailsOnly kind first) (later : ∀ result, FailsOnly kind (next result)) :
    FailsOnly kind (first >>= next) := by
  intro fault failed
  cases ended : first with
  | error cause =>
      rw [ended] at failed
      cases failed
      exact fails _ ended
  | ok result =>
      rw [ended] at failed
      exact later result fault failed

theorem mapError_eq_ok {δ : Type} {given : Except ε α} {change : ε → δ} {result : α} :
    given.mapError change = .ok result ↔ given = .ok result := by
  cases given with
  | error fault => exact ⟨nofun, nofun⟩
  | ok value => exact ⟨fun same => by cases same; rfl, fun same => by cases same; rfl⟩

section

variable {action : EStateM Fault σ α} {next : α → EStateM Fault σ β} {before after : σ}
  {result : α} {fault : Fault}

/-- The state that an action leaves, whether it ends well or not. -/
def leaves (action : EStateM Fault σ α) (before : σ) : σ :=
  match action before with
  | .ok _ after => after
  | .error _ after => after

/-- The action can end well with this result. -/
def Returns (action : EStateM Fault σ α) (result : α) : Prop :=
  ∃ before after, action before = .ok result after

theorem leaves_of_ok (ended : action before = .ok result after) : leaves action before = after := by
  rw [leaves, ended]

theorem leaves_of_error (ended : action before = .error fault after) :
    leaves action before = after := by
  rw [leaves, ended]

theorem bind_of_ok (ended : action before = .ok result after) :
    (action >>= next) before = next result after := by
  simp only [bind, EStateM.bind, ended]

theorem bind_of_error (ended : action before = .error fault after) :
    (action >>= next) before = .error fault after := by
  simp only [bind, EStateM.bind, ended]

/-- What does the same as something else from elsewhere also goes on alike. -/
theorem bind_of_eq {first second : EStateM Fault σ α} {middle : σ}
    (same : first before = second middle) :
    (first >>= next) before = (second >>= next) middle := by
  simp only [bind, EStateM.bind, same]

theorem leaves_of_eq {first second : EStateM Fault σ α} {middle : σ}
    (same : first before = second middle) : leaves first before = leaves second middle := by
  rw [leaves, leaves, same]

/-- What ends well in two steps ends well in both. -/
theorem bind_ok {final : β} (ended : (action >>= next) before = .ok final after) :
    ∃ result middle, action before = .ok result middle ∧ next result middle = .ok final after := by
  cases first : action before with
  | error fault middle => cases (bind_of_error first).symm.trans ended
  | ok result middle => exact ⟨result, middle, rfl, (bind_of_ok first).symm.trans ended⟩

theorem ofExcept_ok {given : Except Fault α}
    (ended : (MonadExcept.ofExcept given : EStateM Fault σ α) before = .ok result after) :
    given = .ok result ∧ after = before := by
  cases given with
  | error fault => cases ended
  | ok value =>
      cases ended
      exact ⟨rfl, rfl⟩

def endsWell (action : EStateM Fault σ α) (before : σ) : Bool :=
  match action before with
  | .ok _ _ => true
  | .error _ _ => false

/-- The fault that an action ends with, unless it ends well. -/
def fault? (action : EStateM Fault σ α) (before : σ) : Option Fault :=
  match action before with
  | .ok _ _ => none
  | .error fault _ => some fault

theorem error_of_fault? (failed : fault? action before = some fault) :
    action before = .error fault (leaves action before) := by
  unfold fault? at failed
  unfold leaves
  cases ended : action before with
  | ok result after => simp [ended] at failed
  | error reason after =>
      rw [ended] at failed
      rw [Option.some.inj failed]

theorem ok_of_endsWell {action : EStateM Fault σ Unit} (well : endsWell action before = true) :
    action before = .ok () (leaves action before) := by
  unfold endsWell at well
  unfold leaves
  cases ended : action before with
  | ok result after => rfl
  | error fault after => simp [ended] at well

@[simp] theorem pure_apply (result : α) (before : σ) :
    (pure result : EStateM Fault σ α) before = .ok result before := rfl

@[simp] theorem get_bind_apply (next : σ → EStateM Fault σ β) (before : σ) :
    ((get : EStateM Fault σ σ) >>= next) before = next before before := rfl

@[simp] theorem set_bind_apply (next : PUnit → EStateM Fault σ β) (before after : σ) :
    ((set after : EStateM Fault σ PUnit) >>= next) before = next ⟨⟩ after := rfl

@[simp] theorem ofExcept_bind_apply (given : Except Fault α) (next : α → EStateM Fault σ β)
    (before : σ) :
    ((MonadExcept.ofExcept given : EStateM Fault σ α) >>= next) before =
      match given with
      | .ok result => next result before
      | .error fault => .error fault before := by
  cases given <;> rfl

end

theorem code_bind_apply (feature : Feature) (next : Option String → Emission β)
    (emitter : Emitter) : (Emitter.code feature >>= next) emitter =
      next (emitter.writer.target.code? feature) emitter := rfl

/-- An emitter that runs with these options. -/
structure Serves (given : Options) (emitter : Emitter) : Prop where
  options : emitter.options = given
  mode : emitter.mode.command ∈ given.cutterCommands

/-- A relation that chains along steps, none of which changes the options. -/
structure Progress (relation : Emitter → Emitter → Prop) : Prop where
  refl : ∀ emitter, relation emitter emitter
  trans : ∀ {first second third}, relation first second → relation second third →
    relation first third
  serves : ∀ {options before after}, relation before after → Serves options before →
    Serves options after

/-- From any emitter with these options the action leaves one that is related to it. -/
def Keeps (options : Options) (relation : Emitter → Emitter → Prop) (action : Emission α) : Prop :=
  ∀ emitter, Serves options emitter → relation emitter (leaves action emitter)

namespace Keeps

variable {options : Options} {relation : Emitter → Emitter → Prop}

theorem nothing (progress : Progress relation) (result : α) :
    Keeps options relation (pure result : Emission α) :=
  fun emitter _ => progress.refl emitter

theorem failure (progress : Progress relation) (fault : Fault) :
    Keeps options relation (throw fault : Emission α) :=
  fun emitter _ => progress.refl emitter

theorem result (progress : Progress relation) (given : Except Fault α) :
    Keeps options relation (Emitter.fromResult given) := by
  cases given with
  | error fault => exact failure progress fault
  | ok value => exact nothing progress value

theorem change {update : Emitter → Emitter}
    (related : ∀ emitter, Serves options emitter → relation emitter (update emitter)) :
    Keeps options relation (modify update : Emission Unit) :=
  fun emitter serves => related emitter serves

theorem follow (progress : Progress relation) {action : Emission α} {next : α → Emission β}
    (first : Keeps options relation action)
    (later : ∀ result, Returns action result → Keeps options relation (next result)) :
    Keeps options relation (action >>= next) := by
  intro emitter serves
  have start := first emitter serves
  cases ended : action emitter with
  | error fault after =>
      rw [leaves_of_error ended] at start
      rw [leaves_of_error (bind_of_error ended)]
      exact start
  | ok value after =>
      rw [leaves_of_ok ended] at start
      have finish := later value ⟨emitter, after, ended⟩ after (progress.serves start serves)
      rw [leaves, bind_of_ok ended]
      exact progress.trans start finish

theorem chain (progress : Progress relation) {action : Emission α} {next : α → Emission β}
    (first : Keeps options relation action)
    (later : ∀ result, Keeps options relation (next result)) :
    Keeps options relation (action >>= next) :=
  follow progress first fun result _ => later result

theorem given (progress : Progress relation) {given : Except Fault α} {next : α → Emission β}
    (later : ∀ result, given = .ok result → Keeps options relation (next result)) :
    Keeps options relation (Emitter.fromResult given >>= next) := by
  cases given with
  | error fault => exact failure progress fault
  | ok result => exact later result rfl

theorem inspect {next : Emitter → Emission β}
    (later : ∀ emitter, Serves options emitter → Keeps options relation (next emitter)) :
    Keeps options relation ((get : Emission Emitter) >>= next) :=
  fun emitter serves => later emitter serves emitter serves

theorem code {feature : Feature} {next : Option String → Emission β}
    (later : ∀ target : Target, Keeps options relation (next (target.code? feature))) :
    Keeps options relation (Emitter.code feature >>= next) :=
  fun emitter serves => later emitter.writer.target emitter serves

theorem branch {condition : Prop} [Decidable condition] {left right : Emission α}
    (first : condition → Keeps options relation left)
    (second : ¬condition → Keeps options relation right) :
    Keeps options relation (if condition then left else right) := by
  split
  · next holds => exact first holds
  · next fails => exact second fails

theorem optional (progress : Progress relation) {condition : Prop} [Decidable condition]
    {action : Emission Unit} {next : Unit → Emission β}
    (first : condition → Keeps options relation action)
    (later : ∀ done, Keeps options relation (next done)) :
    Keeps options relation (if condition then action >>= next else next ()) :=
  branch (fun holds => chain progress (first holds) later) fun _ => later ()

/-- What runs the same from every emitter with these options. -/
theorem of_run {action other : Emission α}
    (run : ∀ emitter, Serves options emitter → action emitter = other emitter)
    (keeps : Keeps options relation other) : Keeps options relation action := by
  intro emitter serves
  rw [leaves_of_eq (run emitter serves)]
  exact keeps emitter serves

theorem weaken {wider : Emitter → Emitter → Prop} {action : Emission α}
    (keeps : Keeps options relation action)
    (wide : ∀ {before after}, Serves options before → relation before after →
      wider before after) : Keeps options wider action :=
  fun emitter serves => wide serves (keeps emitter serves)

end Keeps

end Emission

end GantryCode
