import GantryCode.Proofs.Emission

namespace GantryCode.Emission

/-! Two actions in step.

How two emitters are related is for each kind of comparison to say, and so is what a pair
of steps keeps from where the two started. Whatever it is, actions that are put together
from pairs in step are in step, and each pair comes to the same kind of end.
-/

/-- A relation of two emitters, with what is kept from one pair of them to a later one. -/
structure Pairing where
  related : Emitter → Emitter → Prop
  kept : Emitter → Emitter → Emitter → Emitter → Prop
  refl : ∀ {near far}, related near far → kept near far near far
  trans : ∀ {near far nearMiddle farMiddle nearAfter farAfter},
    kept near far nearMiddle farMiddle → kept nearMiddle farMiddle nearAfter farAfter →
    kept near far nearAfter farAfter
  still : ∀ {near far nearAfter farAfter}, kept near far nearAfter farAfter →
    related nearAfter farAfter

/-- Two results of the same kind: values that agree, or one fault. -/
inductive Ends {α β : Type} (agree : α → β → Prop) (states : Emitter → Emitter → Prop) :
    EStateM.Result Fault Emitter α → EStateM.Result Fault Emitter β → Prop where
  | ok {result : α} {other : β} {near far : Emitter} (values : agree result other)
      (reached : states near far) : Ends agree states (.ok result near) (.ok other far)
  | error {near far : Emitter} (fault : Fault) (reached : states near far) :
      Ends agree states (.error fault near) (.error fault far)

/-- From related emitters the two actions come to the same kind of end. -/
def InStep {α β : Type} (pairing : Pairing) (agree : α → β → Prop) (action : Emission α)
    (other : Emission β) : Prop :=
  ∀ near far, pairing.related near far →
    Ends agree (pairing.kept near far) (action near) (other far)

variable {pairing : Pairing} {α β γ δ : Type} {agree : α → β → Prop} {further : γ → δ → Prop}

namespace Ends

variable {near far : Emitter} {states wider : Emitter → Emitter → Prop}

theorem bind {action : Emission α} {other : Emission β} {next : α → Emission γ}
    {otherNext : β → Emission δ} (first : Ends agree states (action near) (other far))
    (later : ∀ result otherResult nearAfter farAfter, Returns action result →
      agree result otherResult → states nearAfter farAfter →
      Ends further wider (next result nearAfter) (otherNext otherResult farAfter))
    (weaken : ∀ nearAfter farAfter, states nearAfter farAfter → wider nearAfter farAfter) :
    Ends further wider ((action >>= next) near) ((other >>= otherNext) far) := by
  generalize ended : action near = outcome at first
  generalize endedToo : other far = outcomeToo at first
  cases first with
  | ok values reached =>
      rw [bind_of_ok ended, bind_of_ok endedToo]
      exact later _ _ _ _ ⟨near, _, ended⟩ values reached
  | error fault reached =>
      rw [bind_of_error ended, bind_of_error endedToo]
      exact .error fault (weaken _ _ reached)

/-- What ends alike leaves one fault or none. -/
theorem leaves {action : Emission α} {other : Emission β}
    (ends : Ends agree states (action near) (other far)) :
    fault? other far = fault? action near ∧
      states (Emission.leaves action near) (Emission.leaves other far) := by
  unfold fault? Emission.leaves
  generalize action near = outcome at ends ⊢
  generalize other far = outcomeToo at ends ⊢
  cases ends with
  | ok values reached => exact ⟨rfl, reached⟩
  | error fault reached => exact ⟨rfl, reached⟩

theorem weaken {outcome : EStateM.Result Fault Emitter α} {other : EStateM.Result Fault Emitter β}
    (ends : Ends agree states outcome other)
    (wide : ∀ near far, states near far → wider near far) : Ends agree wider outcome other := by
  cases ends with
  | ok values reached => exact .ok values (wide _ _ reached)
  | error fault reached => exact .error fault (wide _ _ reached)

end Ends

namespace InStep

theorem value {result : α} {other : β} (same : agree result other) :
    InStep pairing agree (pure result) (pure other) :=
  fun _ _ related => .ok same (pairing.refl related)

theorem nothing (result : α) : InStep pairing Eq (pure result) (pure result) :=
  value rfl

theorem failure (fault : Fault) :
    InStep pairing agree (throw fault : Emission α) (throw fault : Emission β) :=
  fun _ _ related => .error fault (pairing.refl related)

theorem result (given : Except Fault α) :
    InStep pairing Eq (Emitter.fromResult given) (Emitter.fromResult given) := by
  cases given with
  | error fault => exact failure fault
  | ok result => exact nothing result

theorem change {update otherUpdate : Emitter → Emitter}
    (kept : ∀ near far, pairing.related near far →
      pairing.kept near far (update near) (otherUpdate far)) :
    InStep pairing Eq (modify update : Emission Unit) (modify otherUpdate) :=
  fun near far related => .ok rfl (kept near far related)

theorem chain_returned {action : Emission α} {other : Emission β} {next : α → Emission γ}
    {otherNext : β → Emission δ} (first : InStep pairing agree action other)
    (later : ∀ result otherResult, Returns action result → agree result otherResult →
      InStep pairing further (next result) (otherNext otherResult)) :
    InStep pairing further (action >>= next) (other >>= otherNext) := by
  intro near far related
  refine (first near far related).bind ?_ fun _ _ => id
  intro result otherResult nearAfter farAfter returned same kept
  exact (later result otherResult returned same nearAfter farAfter (pairing.still kept)).weaken
    fun _ _ => pairing.trans kept

theorem chain {action : Emission α} {other : Emission β} {next : α → Emission γ}
    {otherNext : β → Emission δ} (first : InStep pairing agree action other)
    (later : ∀ result otherResult, agree result otherResult →
      InStep pairing further (next result) (otherNext otherResult)) :
    InStep pairing further (action >>= next) (other >>= otherNext) :=
  chain_returned first fun result otherResult _ => later result otherResult

/-- What goes on with the same value goes on alike. -/
theorem follow_returned {action other : Emission α} {next : α → Emission γ}
    {otherNext : α → Emission δ} (first : InStep pairing Eq action other)
    (later : ∀ result, Returns action result →
      InStep pairing further (next result) (otherNext result)) :
    InStep pairing further (action >>= next) (other >>= otherNext) :=
  chain_returned first fun result _ returned same => same ▸ later result returned

theorem follow {action other : Emission α} {next : α → Emission γ} {otherNext : α → Emission δ}
    (first : InStep pairing Eq action other)
    (later : ∀ result, InStep pairing further (next result) (otherNext result)) :
    InStep pairing further (action >>= next) (other >>= otherNext) :=
  follow_returned first fun result _ => later result

theorem inspect {next : Emitter → Emission α} {otherNext : Emitter → Emission β}
    (later : ∀ near far, pairing.related near far →
      InStep pairing agree (next near) (otherNext far)) :
    InStep pairing agree ((get : Emission Emitter) >>= next)
      ((get : Emission Emitter) >>= otherNext) :=
  fun near far related => later near far related near far related

theorem branch {condition : Prop} [Decidable condition] {left right : Emission α}
    {otherLeft otherRight : Emission β} (first : InStep pairing agree left otherLeft)
    (second : InStep pairing agree right otherRight) :
    InStep pairing agree (if condition then left else right)
      (if condition then otherLeft else otherRight) := by
  split
  · exact first
  · exact second

theorem optional {condition : Prop} [Decidable condition] {action other : Emission Unit}
    {next : Unit → Emission α} {otherNext : Unit → Emission β}
    (first : InStep pairing Eq action other)
    (later : ∀ done, InStep pairing agree (next done) (otherNext done)) :
    InStep pairing agree (if condition then action >>= next else next ())
      (if condition then other >>= otherNext else otherNext ()) :=
  branch (follow first later) (later ())

end InStep

end GantryCode.Emission
