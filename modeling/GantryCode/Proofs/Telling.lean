import GantryCode.Proofs.Commands

namespace GantryCode

/-! What the emitter tells the controller of its own accord.

After every operation the slots hold what a reader of the new lines knows, if before
them it knew what the slots held then; none of these lines selects a plane. Plane codes
and the commands that switch the laser are told elsewhere: the former are taken account
of in a slot of their own, and the latter are whatever the options say.
-/

/-- The feed rates of rapid moves are floating-point numbers by their type. An integer,
which a machine file may hold instead, is to be no larger than those. -/
structure Options.FeedsInRange (options : Options) : Prop where
  xy : ∃ rate, options.rapidFeedXY.toFloat .text = .ok rate
  z : ∃ rate, options.rapidFeedZ.toFloat .text = .ok rate

namespace Emitter

/-- What the operations on an emitter have in common. -/
structure Alike (before after : Emitter) : Prop where
  options : after.options = before.options
  mode : after.mode = before.mode ∨ after.mode.command ∈ before.options.cutterCommands
  precision : after.writer.precision = before.writer.precision

structure Writes (before after : Emitter) (lines : List Line) : Prop extends
    Alike before after where
  written : after.writer.written.toList = before.writer.written.toList ++ lines

/-- The slots of the letters hold what the new lines tell. -/
structure Tells (before after : Emitter) (lines : List Line) : Prop extends
    Writes before after lines where
  flat : ∀ line ∈ lines, line.IsFlat
  letters : before.options.FeedsInRange →
    after.slots.get = Registers.readLines before.slots.get lines

/-- The same of lines that have nothing to do with the plane. -/
structure TellsInPlane (before after : Emitter) (lines : List Line) : Prop extends
    Tells before after lines where
  plane : after.slots.plane = before.slots.plane
  planes : ∀ held, Reading.planeAfter held lines = held

/-- Lines that tell nothing, with nothing else changed that a later call depends on but the
mode of the laser. -/
structure Idles (before after : Emitter) (lines : List Line) : Prop extends
    Writes before after lines where
  flat : ∀ line ∈ lines, line.IsFlat
  slots : after.slots = before.slots
  position : after.position = before.position
  letters : ∀ registers, Registers.readLines registers lines = registers
  planes : ∀ held, Reading.planeAfter held lines = held

def Idle (before after : Emitter) : Prop :=
  ∃ lines, Idles before after lines

def Told (before after : Emitter) : Prop :=
  ∃ lines, Tells before after lines

def ToldInPlane (before after : Emitter) : Prop :=
  ∃ lines, TellsInPlane before after lines

variable {first second third before after emitter : Emitter} {lines more : List Line}
  {options : Options}

theorem Alike.refl (emitter : Emitter) : Alike emitter emitter :=
  ⟨rfl, .inl rfl, rfl⟩

theorem Alike.trans (start : Alike first second) (later : Alike second third) :
    Alike first third where
  options := later.options.trans start.options
  mode := by
    rcases later.mode with same | chosen
    · rw [same]
      exact start.mode
    · rw [start.options] at chosen
      exact .inr chosen
  precision := later.precision.trans start.precision

theorem Alike.withSlots (alike : Alike before after) (slots : Slots) :
    Alike before (after.withSlots slots) :=
  ⟨alike.options, alike.mode, alike.precision⟩

theorem Alike.serves (alike : Alike before after) (serves : Emission.Serves options before) :
    Emission.Serves options after where
  options := alike.options.trans serves.options
  mode := by
    rcases alike.mode with same | chosen
    · rw [same]
      exact serves.mode
    · rw [serves.options] at chosen
      exact chosen

theorem Alike.valueText (alike : Alike before after) :
    after.writer.valueText = before.writer.valueText := by
  funext whole value
  rw [Writer.valueText, Writer.valueText, alike.precision]

theorem Writes.refl (emitter : Emitter) : Writes emitter emitter [] :=
  ⟨.refl emitter, by simp⟩

theorem Writes.withSlots (writes : Writes before after lines) (slots : Slots) :
    Writes before (after.withSlots slots) lines :=
  ⟨writes.toAlike.withSlots slots, writes.written⟩

theorem Writes.trans (start : Writes first second lines) (later : Writes second third more) :
    Writes first third (lines ++ more) where
  toAlike := start.toAlike.trans later.toAlike
  written := by rw [later.written, start.written, List.append_assoc]

theorem Tells.trans (start : Tells first second lines) (later : Tells second third more) :
    Tells first third (lines ++ more) where
  toWrites := start.toWrites.trans later.toWrites
  flat := by
    intro line member
    rcases List.mem_append.mp member with early | late
    · exact start.flat line early
    · exact later.flat line late
  letters := by
    intro feeds
    have rest := later.letters (by rw [start.options]; exact feeds)
    rw [rest, start.letters feeds, Registers.readLines_append]

theorem Idles.tells (idles : Idles before after lines) : TellsInPlane before after lines where
  toWrites := idles.toWrites
  flat := idles.flat
  letters := fun _ => by rw [idles.slots, idles.letters]
  plane := by rw [idles.slots]
  planes := idles.planes

theorem idles_nothing (options : after.options = before.options)
    (mode : after.mode = before.mode ∨ after.mode.command ∈ before.options.cutterCommands)
    (precision : after.writer.precision = before.writer.precision)
    (written : after.writer.written = before.writer.written)
    (slots : after.slots = before.slots) (position : after.position = before.position) :
    Idles before after [] where
  options := options
  mode := mode
  precision := precision
  written := by rw [written, List.append_nil]
  flat := by simp
  slots := slots
  position := position
  letters := fun _ => rfl
  planes := fun _ => rfl

/-- What does not touch the writer tells nothing. -/
theorem tells_of_writer_eq (options : after.options = before.options)
    (mode : after.mode = before.mode ∨ after.mode.command ∈ before.options.cutterCommands)
    (writer : after.writer = before.writer) : TellsInPlane before after [] where
  options := options
  mode := mode
  precision := by rw [writer]
  written := by rw [writer, List.append_nil]
  flat := by simp
  letters := fun _ => by rw [slots, slots, writer]; rfl
  plane := by rw [slots, slots, writer]
  planes := fun _ => rfl

theorem TellsInPlane.relocated (tells : TellsInPlane before after lines)
    (notices : Array Notice) (position : Coordinates (Option Float)) :
    TellsInPlane before { after with notices, position } lines :=
  { tells with }

theorem TellsInPlane.trans (start : TellsInPlane first second lines)
    (later : TellsInPlane second third more) : TellsInPlane first third (lines ++ more) where
  toTells := start.toTells.trans later.toTells
  plane := later.plane.trans start.plane
  planes := by
    intro held
    rw [Reading.planeAfter_append, start.planes, later.planes]

theorem Idles.trans (start : Idles first second lines) (later : Idles second third more) :
    Idles first third (lines ++ more) where
  toWrites := start.toWrites.trans later.toWrites
  flat := (start.tells.trans later.tells).flat
  slots := later.slots.trans start.slots
  position := later.position.trans start.position
  letters := by
    intro registers
    rw [Registers.readLines_append, start.letters, later.letters]
  planes := (start.tells.trans later.tells).planes

theorem idle_progress : Emission.Progress Idle where
  refl := fun _ => ⟨[], idles_nothing rfl (.inl rfl) rfl rfl rfl rfl⟩
  trans := fun ⟨_, start⟩ ⟨_, later⟩ => ⟨_, start.trans later⟩
  serves := fun ⟨_, idles⟩ serves => idles.serves serves

theorem told_progress : Emission.Progress Told where
  refl := fun _ => ⟨[], (tells_of_writer_eq rfl (.inl rfl) rfl).toTells⟩
  trans := fun ⟨_, start⟩ ⟨_, later⟩ => ⟨_, start.trans later⟩
  serves := fun ⟨_, tells⟩ serves => tells.serves serves

theorem toldInPlane_progress : Emission.Progress ToldInPlane where
  refl := fun _ => ⟨[], tells_of_writer_eq rfl (.inl rfl) rfl⟩
  trans := fun ⟨_, start⟩ ⟨_, later⟩ => ⟨_, start.trans later⟩
  serves := fun ⟨_, tells⟩ serves => tells.serves serves

theorem ToldInPlane.told (tells : ToldInPlane before after) : Told before after := by
  obtain ⟨lines, tells⟩ := tells
  exact ⟨lines, tells.toTells⟩

theorem Idle.toldInPlane (idle : Idle before after) : ToldInPlane before after := by
  obtain ⟨lines, idles⟩ := idle
  exact ⟨lines, idles.tells⟩

theorem keepsInPlane_of_idle {α : Type} {action : Emission α}
    (keeps : Emission.Keeps options Idle action) : Emission.Keeps options ToldInPlane action :=
  keeps.weaken fun _ idle => idle.toldInPlane

section Commands

open Reading

variable {given : List (Option String)} {heard : List (List Char)}

def commanded (emitter : Emitter) (given : List (Option String)) (note : Option String) : Emitter :=
  { emitter with writer := emitter.writer.command given note }

theorem command_run (emitter : Emitter) (given : List (Option String)) (note : Option String) :
    command given note emitter = .ok () (emitter.commanded given note) := rfl

theorem writes_command (emitter : Emitter) (given : List (Option String)) (note : Option String) :
    Writes emitter (emitter.commanded given note)
      (emitter.writer.commandLine? given note).toList :=
  ⟨⟨rfl, .inl rfl, Writer.precision_command _ given note⟩, Writer.written_command _ given note⟩

@[simp] theorem slots_commanded (note : Option String) :
    (emitter.commanded given note).slots = emitter.slots :=
  Writer.slots_command emitter.writer given note

theorem tells_command (emitter : Emitter) (slots : Slots) (note : Option String)
    (body : tokens (commandBody given).toList = heard)
    (unnumbered : withoutNumber heard = heard)
    (flat : Text.IsFlat (commandBody given).toList)
    (letters : slots.get = Registers.readWords emitter.slots.get heard) :
    Tells emitter ((emitter.withSlots slots).commanded given note)
      (emitter.writer.commandLine? given note).toList where
  options := rfl
  mode := .inl rfl
  precision := Writer.precision_command _ given note
  written := Writer.written_command _ given note
  flat := fun line member => Writer.commandLine_flat _ note flat member
  letters := by
    intro _
    subst body
    rw [slots_commanded, Writer.readLines_command _ note _ unnumbered]
    exact letters

theorem tells_command_inPlane (emitter : Emitter) (slots : Slots) (note : Option String)
    (body : tokens (commandBody given).toList = heard)
    (unnumbered : withoutNumber heard = heard)
    (flat : Text.IsFlat (commandBody given).toList)
    (letters : slots.get = Registers.readWords emitter.slots.get heard)
    (plane : slots.plane = emitter.slots.plane) (planes : planeCodes heard = []) :
    TellsInPlane emitter ((emitter.withSlots slots).commanded given note)
      (emitter.writer.commandLine? given note).toList where
  toTells := tells_command emitter slots note body unnumbered flat letters
  plane := by
    rw [slots_commanded]
    exact plane
  planes := by
    intro held
    subst body
    rw [Writer.planeAfter_command _ note held unnumbered, planes]
    rfl

/-- Words that neither move nor home an axis nor select a plane. -/
def IsSilent (heard : List (List Char)) : Prop :=
  moveWords heard = [] ∧ homingWords heard = [] ∧ planeCodes heard = [] ∧
    withoutNumber heard = heard

instance (heard : List (List Char)) : Decidable (IsSilent heard) :=
  inferInstanceAs (Decidable (_ ∧ _))

theorem idles_silent (emitter : Emitter) (note : Option String)
    (flat : Text.IsFlat (commandBody given).toList)
    (silent : IsSilent (tokens (commandBody given).toList)) :
    Idles emitter (emitter.commanded given note)
      (emitter.writer.commandLine? given note).toList := by
  obtain ⟨still, away, planes, unnumbered⟩ := silent
  have unheard (registers : Registers) :
      registers.readWords (tokens (commandBody given).toList) = registers := by
    rw [Registers.readWords, still, away]
    rfl
  have told := tells_command_inPlane emitter emitter.slots note rfl unnumbered flat
    (unheard emitter.slots.get).symm rfl planes
  refine ⟨told.toWrites, told.flat, slots_commanded note, rfl, fun registers => ?_, told.planes⟩
  rw [Writer.readLines_command _ note registers unnumbered, unheard]

theorem idle_silent (emitter : Emitter) (note : Option String)
    (flat : Text.IsFlat (commandBody given).toList)
    (silent : IsSilent (tokens (commandBody given).toList)) :
    Idle emitter (emitter.commanded given note) :=
  ⟨_, idles_silent emitter note flat silent⟩

end Commands

end Emitter

end GantryCode
