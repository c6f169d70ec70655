import GantryCode.Proofs.Calls

namespace GantryCode

/-! Which plane the controller is in, and which one the emitter takes it to be in.

The two are one as long as every arc that selects a plane is written. An arc that is
refused for the precision of the output has filled the slot of the plane by then, so
from there on the slot holds a plane that the text has no code for.
-/

/-- The commands that switch the laser are lines of their own and select no plane. -/
structure Options.CuttersArePlaneless (options : Options) : Prop where
  flat : ∀ command ∈ options.cutterCommands, Text.IsFlat command.toList
  planeless : ∀ command ∈ options.cutterCommands,
    ∀ token ∈ Reading.tokens command.toList, Reading.isPlaneCode token = false

/-- The plane that was last asked for, and the plane of the last code that was written. -/
structure Planes where
  asked : Option Plane := none
  told : Option Plane := none
deriving DecidableEq

/-- A plane is asked for, and its code is written unless it was asked for before. -/
def Planes.select (planes : Planes) (plane : Plane) : Planes :=
  if planes.asked = some plane then planes else ⟨some plane, some plane⟩

/-- The plane that was asked for is the one that was told. -/
def Planes.Agree (planes : Planes) : Prop :=
  ∀ plane, planes.asked = some plane → planes.told = some plane

/-- An arc selects its plane. Where it is refused, the plane was asked for all the same. -/
def Planes.arc (planes : Planes) (plane : Option Plane) (refused : Bool) : Planes :=
  match plane with
  | some plane => if refused then { planes with asked := some plane } else planes.select plane
  | none => planes

namespace Reading

variable {heard : List (List Char)}

theorem planeCodes_of_planeless (planeless : ∀ word ∈ heard, isPlaneCode word = false) :
    planeCodes heard = [] := by
  unfold planeCodes
  split
  · rfl
  · exact List.filter_eq_nil_iff.mpr fun word member => by simp [planeless word member]

theorem mem_of_mem_withoutNumber {word : List Char} (member : word ∈ withoutNumber heard) :
    word ∈ heard := by
  unfold withoutNumber at member
  split at member
  · split at member
    · exact List.mem_cons_of_mem _ member
    · exact member
  · cases member

theorem isPlaneCode_numberChars (number : Nat) : isPlaneCode (Line.numberChars number) = false := by
  simp [isPlaneCode, Plane.all, Plane.code, Line.numberChars]

theorem planeAfter_planeless (writer : Writer) {given : List (Option String)}
    (note held : Option String)
    (planeless : ∀ token ∈ tokens (commandBody given).toList, isPlaneCode token = false) :
    planeAfter held (writer.commandLine? given note).toList = held := by
  cases written : writer.commandLine? given note with
  | none => rfl
  | some line =>
      have silent : planeCodes (words line.chars) = [] := by
        refine planeCodes_of_planeless fun word member => ?_
        unfold Writer.commandLine? at written
        split at written
        · cases written
          have token := mem_of_mem_withoutNumber member
          rw [tokens_command] at token
          rcases List.mem_append.mp token with numbered | said
          · obtain ⟨number, -, rfl⟩ := Option.map_eq_some_iff.mp (Option.mem_toList.mp numbered)
            exact isPlaneCode_numberChars number
          · exact planeless word said
        · cases written
      change readPlane held line.chars = held
      rw [readPlane, silent]
      rfl

end Reading

theorem Plane.code_injective {plane other : Plane} (same : plane.code = other.code) :
    plane = other := by
  revert same
  cases plane <;> cases other <;> decide

theorem Plane.map_code_eq {held : Option Plane} {plane : Plane} :
    held.map Plane.code = some plane.code ↔ held = some plane := by
  constructor
  · intro same
    obtain ⟨other, rfl, equal⟩ := Option.map_eq_some_iff.mp same
    rw [Plane.code_injective equal]
  · rintro rfl
    rfl

namespace Emitter

open Emission Reading

variable {options : Options} {emitter before after : Emitter} {plane : Plane}

/-- Whether the figures of an arc can be had: it starts somewhere, and its points can be
shifted. -/
def hasFigures (emitter : Emitter) (move : ArcMove) : Bool :=
  match move.start <|> emitter.position.complete? with
  | some start => (emitter.arcFigures move start).isOk
  | none => false

/-- The plane that a call selects or would select if the precision allowed it. -/
def arcPlane (emitter : Emitter) (move : ArcMove) : Option Plane :=
  if emitter.hasFigures move then move.plane else none

/-- Whether a call is an arc that is refused for the precision of the output. -/
def refuses (emitter : Emitter) : Call → Bool
  | .event (.circular move) =>
      (emitter.arcPlane move).isSome && emitter.writer.precisionFault?.isSome
  | _ => false

def replan (emitter : Emitter) (call : Call) (planes : Planes) : Planes :=
  match call with
  | .event (.startRun _) =>
      if endsWell (obey call) emitter then { planes with asked := none } else planes
  | .event (.startSection facts) => if facts.isFirst then ⟨some .xy, some .xy⟩ else planes
  | .event .endSection => planes.select .xy
  | .event (.circular move) => planes.arc (emitter.arcPlane move) (emitter.refuses call)
  | _ => planes

def planes (emitter : Emitter) (known : Planes) : List Call → Planes
  | [] => known
  | call :: rest => (leaves (obey call) emitter).planes (emitter.replan call known) rest

/-- Whether no arc of a run is refused for the precision of the output. -/
def refusesNone (emitter : Emitter) : List Call → Bool
  | [] => true
  | call :: rest => !emitter.refuses call && (leaves (obey call) emitter).refusesNone rest

/-- New lines that have nothing to do with the plane. -/
def InPlane (before after : Emitter) : Prop :=
  ∃ lines, Writes before after lines ∧ (∀ line ∈ lines, line.IsFlat) ∧
    after.slots.plane = before.slots.plane ∧ ∀ held, planeAfter held lines = held

theorem inPlane_progress : Progress InPlane where
  refl := fun emitter => ⟨[], .refl emitter, by simp, rfl, fun _ => rfl⟩
  trans := by
    rintro first second third ⟨lines, start, flat, same, kept⟩ ⟨more, later, even, equal, left⟩
    refine ⟨lines ++ more, start.trans later, ?_, equal.trans same, fun held => ?_⟩
    · intro line member
      rcases List.mem_append.mp member with early | late
      · exact flat line early
      · exact even line late
    · rw [planeAfter_append, kept, left]
  serves := fun ⟨_, writes, _⟩ serves => writes.serves serves

theorem ToldInPlane.inPlane (told : ToldInPlane before after) : InPlane before after := by
  obtain ⟨lines, tells⟩ := told
  exact ⟨lines, tells.toWrites, tells.flat, tells.plane, tells.planes⟩

theorem inPlane_of_toldInPlane {α : Type} {action : Emission α}
    (keeps : Keeps options ToldInPlane action) : Keeps options InPlane action :=
  keeps.weaken fun _ told => told.inPlane

theorem inPlane_of_idle {α : Type} {action : Emission α} (keeps : Keeps options Idle action) :
    Keeps options InPlane action :=
  inPlane_of_toldInPlane (keepsInPlane_of_idle keeps)

section Laser

variable (planeless : options.CuttersArePlaneless)

include planeless

theorem inPlane_laser {command : String} (emitter : Emitter) (note : Option String)
    (switch : command ∈ options.cutterCommands) :
    InPlane emitter (emitter.commanded [some command] note) := by
  refine ⟨_, writes_command emitter _ note,
    fun line member => Writer.commandLine_flat _ note
      (commandBody_single_flat (planeless.flat command switch)) member,
    congrArg Slots.plane (slots_commanded note), fun held => ?_⟩
  refine planeAfter_planeless emitter.writer note held ?_
  rw [tokens_commandBody_single]
  exact planeless.planeless command switch

theorem inPlane_laserOff : Keeps options InPlane (laserOff options) :=
  fun emitter _ => inPlane_laser planeless emitter _ (by simp [Options.cutterCommands])

theorem inPlane_power (on : Bool) : Keeps options InPlane (power on) := by
  refine Keeps.inspect fun emitter serves => ?_
  cases on with
  | true => exact fun before _ => inPlane_laser planeless before _ serves.mode
  | false =>
      refine fun before _ => inPlane_laser planeless before _ ?_
      rw [serves.options]
      simp [Options.cutterCommands]

theorem inPlane_endRun : Keeps options InPlane endRun := by
  refine Keeps.of_run (fun emitter serves => serves.options ▸ endRun_run emitter) ?_
  exact Keeps.chain inPlane_progress (inPlane_of_idle keeps_finishMoves) fun _ =>
    Keeps.chain inPlane_progress (inPlane_laserOff planeless) fun _ =>
      Keeps.chain inPlane_progress (inPlane_of_toldInPlane keeps_park) fun _ =>
        inPlane_of_idle keeps_powerDown

end Laser

/-- The slot of the plane holds the plane that was asked for, and the text ends in the
plane that was told. -/
structure Holds (options : Options) (emitter : Emitter) (planes : Planes) : Prop extends
    Serves options emitter where
  flat : ∀ line ∈ emitter.writer.written.toList, line.IsFlat
  slot : emitter.slots.plane = planes.asked.map Plane.code
  read : planeAfter none emitter.writer.written.toList = planes.told.map Plane.code

variable {planes : Planes}

theorem Holds.extend {next : Planes} {lines : List Line} (holds : Holds options before planes)
    (writes : Writes before after lines) (flat : ∀ line ∈ lines, line.IsFlat)
    (slot : after.slots.plane = next.asked.map Plane.code)
    (read : planeAfter (planes.told.map Plane.code) lines = next.told.map Plane.code) :
    Holds options after next where
  toServes := writes.serves holds.toServes
  flat := by
    intro line member
    rw [writes.written] at member
    rcases List.mem_append.mp member with early | late
    · exact holds.flat line early
    · exact flat line late
  slot := slot
  read := by rw [writes.written, planeAfter_append, holds.read, read]

theorem Holds.inPlane (holds : Holds options before planes) (kept : InPlane before after) :
    Holds options after planes := by
  obtain ⟨lines, writes, flat, same, silent⟩ := kept
  exact holds.extend writes flat (same.trans holds.slot) (silent _)

theorem Holds.selects {lines : List Line} (holds : Holds options before planes)
    (tells : Tells before after lines) (selected : after.slots.plane = some plane.code)
    (codes : ∀ held, planeAfter held lines = (before.slots.offerPlane plane <|> held)) :
    Holds options after (planes.select plane) := by
  rcases offerPlane_cases before.slots plane with ⟨held, left⟩ | ⟨other, written⟩
  · rw [holds.slot, Plane.map_code_eq] at held
    refine holds.extend tells.toWrites tells.flat ?_ ?_
    · rw [Planes.select, if_pos held, held, selected]
      rfl
    · rw [Planes.select, if_pos held, codes, left]
      rfl
  · rw [holds.slot, ne_eq, Plane.map_code_eq] at other
    refine holds.extend tells.toWrites tells.flat ?_ ?_
    · rw [Planes.select, if_neg other, selected]
      rfl
    · rw [Planes.select, if_neg other, codes, written]
      rfl

section Steps

/-- What ends well wherever it starts. -/
def Succeeds {α : Type} (action : Emission α) : Prop :=
  ∀ emitter, ∃ result after, action emitter = .ok result after

theorem Succeeds.chain {α β : Type} {action : Emission α} {next : α → Emission β}
    (first : Succeeds action) (later : ∀ result, Succeeds (next result)) :
    Succeeds (action >>= next) := by
  intro emitter
  obtain ⟨result, middle, ended⟩ := first emitter
  obtain ⟨final, after, finished⟩ := later result middle
  exact ⟨final, after, (bind_of_ok ended).trans finished⟩

theorem Succeeds.optional {β : Type} {condition : Prop} [Decidable condition]
    {action : Emission Unit} {next : Unit → Emission β} (first : Succeeds action)
    (later : Succeeds (next ())) : Succeeds (if condition then action >>= next else next ()) := by
  split
  · exact first.chain fun _ => later
  · exact later

theorem succeeds_home (axis : Axis) : Succeeds (home axis) :=
  fun emitter => ⟨(), _, home_run axis none emitter⟩

theorem succeeds_prepare (options : Options) : Succeeds (prepare options) := by
  have nothing : Succeeds (pure () : Emission Unit) := fun emitter => ⟨(), emitter, rfl⟩
  have second : Succeeds (if options.homeYStart = true then home .y else pure ()) := by
    split
    · exact succeeds_home .y
    · exact nothing
  refine Succeeds.chain (fun emitter => ⟨_, _, rfl⟩) fun code => ?_
  refine Succeeds.chain (fun emitter => ⟨_, _, command_run emitter _ _⟩) fun _ => ?_
  exact Succeeds.optional (succeeds_home .x) second

theorem Holds.forget (holds : Holds options emitter planes) (letters : List Letter) :
    Holds options (emitter.withSlots (emitter.slots.forget letters)) planes :=
  { holds with slot := (Slots.plane_forget _ _).trans holds.slot }

theorem Holds.startSection (planeless : options.CuttersArePlaneless)
    (holds : Holds options emitter planes) {facts : Section} (first : facts.isFirst = true) :
    Holds options (leaves (startSection facts) emitter) ⟨some .xy, some .xy⟩ := by
  have switched := inPlane_laserOff planeless emitter holds.toServes
  have stopped : laserOff options emitter =
      .ok () (emitter.commanded [some options.cutterOff] (some "Laser off")) := rfl
  rw [leaves_of_ok stopped] at switched
  have begun := holds.inPlane switched
  obtain ⟨_, middle, prepared⟩ := succeeds_prepare options
    (emitter.commanded [some options.cutterOff] (some "Laser off"))
  have told := keeps_prepare _ begun.toServes
  rw [leaves_of_ok prepared] at told
  have ready := begun.inPlane told.inPlane
  have forced : some Plane.xy.code = none ∨ some Plane.xy.code = some Plane.xy.code := .inr rfl
  obtain ⟨tells, codes⟩ := tells_plane middle forced (some "Circular interpolation: XY plane")
  have selected : Holds options middle.inXY ⟨some .xy, some .xy⟩ :=
    ready.extend tells.toWrites tells.flat (congrArg Slots.plane (slots_commanded _)) (codes _)
  have rest : Keeps options InPlane (settle options >>= fun _ => announce facts) :=
    Keeps.chain inPlane_progress (inPlane_of_toldInPlane keeps_settle) fun _ =>
      inPlane_of_idle (keeps_announce facts)
  have run : Emitter.startSection facts emitter =
      (settle options >>= fun _ => announce facts) middle.inXY := by
    have started : startup emitter = settle options middle.inXY := by
      refine (startup_run emitter).trans ?_
      rw [holds.options]
      exact (bind_of_ok stopped).trans
        ((bind_of_ok prepared).trans (bind_of_ok (selectXY_run middle)))
    rw [startSection_first first]
    exact bind_of_eq started
  rw [leaves_of_eq run]
  exact selected.inPlane (rest _ selected.toServes)

theorem Holds.endSection (holds : Holds options emitter planes) :
    Holds options (leaves Emitter.endSection emitter) (planes.select .xy) := by
  obtain ⟨tells, codes⟩ := tells_backInXY emitter
  have back : Holds options emitter.backInXY (planes.select .xy) :=
    holds.selects tells (congrArg Slots.plane (slots_commanded _)) codes
  rw [leaves_of_ok (endSection_run emitter)]
  exact back.forget _

theorem Holds.startRun (holds : Holds options emitter planes) (comment : Option String) :
    Holds options (leaves (Emitter.startRun comment) emitter)
      (emitter.replan (.event (.startRun comment)) planes) := by
  have run : Emitter.startRun comment emitter =
      (head options comment >>= fun _ => updateWriter Writer.forgetAll) emitter := by
    rw [← holds.options]
    exact startRun_run comment emitter
  have headed := holds.inPlane (inPlane_of_idle (keeps_head comment) emitter holds.toServes)
  change Holds options _ (if endsWell (Emitter.startRun comment) emitter then
    { planes with asked := none } else planes)
  cases ended : head options comment emitter with
  | error fault reached =>
      rw [leaves_of_error ended] at headed
      have failed := run.trans (bind_of_error ended)
      rw [leaves_of_error failed, endsWell, failed]
      exact headed
  | ok _ reached =>
      rw [leaves_of_ok ended] at headed
      have forgotten := run.trans (bind_of_ok ended)
      rw [endsWell, forgotten, leaves_of_eq forgotten]
      exact { headed with slot := rfl }

theorem inPlane_chorded {move : ArcMove} (outside : move.plane = none) :
    Keeps options InPlane (circular move) := by
  unfold circular
  rw [outside]
  split
  · exact Keeps.failure inPlane_progress _
  · exact Keeps.chain inPlane_progress (inPlane_of_idle (keeps_startPoint _)) fun _ =>
      inPlane_of_toldInPlane (keeps_chordedArc _ _ _)
  · next absent => cases absent

theorem Holds.planarArc (holds : Holds options emitter planes) {move : ArcMove}
    (inside : move.plane = some plane) {start : Coordinates Float}
    (known : (move.start <|> emitter.position.complete?) = some start) :
    Holds options (leaves (Emitter.planarArc move start plane) emitter)
      (planes.arc (emitter.arcPlane move) (emitter.refuses (.event (.circular move)))) := by
  have sent : Holds options (emitter.sentTo (move.finish.map some)) planes :=
    holds.inPlane ⟨[], (told_sentTo emitter _).toWrites, by simp, rfl, fun _ => rfl⟩
  rcases planarArc_outcome move start plane emitter with
    ⟨fault, failed, ended⟩ | ⟨figures, fault, found, possible, ended⟩ |
    ⟨offsets, finish, line, after, found, possible, -, ended, cuts⟩
  · have unplanned : emitter.arcPlane move = none := by
      simp [arcPlane, hasFigures, known, failed, Except.isOk, Except.toBool]
    rw [unplanned, leaves_of_error ended]
    exact sent
  · have planned : emitter.arcPlane move = some plane := by
      simp [arcPlane, hasFigures, known, found, inside, Except.isOk, Except.toBool]
    have refused : emitter.refuses (.event (.circular move)) = true := by
      simp [refuses, planned, possible]
    rw [planned, refused, leaves_of_error ended]
    have unwritten : Writes emitter
        ((emitter.sentTo (move.finish.map some)).withSlots (emitter.slots.inPlane plane)) [] :=
      ⟨⟨rfl, .inl rfl, rfl⟩, by simp [withSlots, sentTo]⟩
    exact holds.extend unwritten (by simp) rfl rfl
  · have planned : emitter.arcPlane move = some plane := by
      simp [arcPlane, hasFigures, known, found, inside, Except.isOk, Except.toBool]
    have allowed : emitter.refuses (.event (.circular move)) = false := by
      simp [refuses, possible]
    rw [planned, allowed, leaves_of_ok ended]
    exact sent.selects cuts.moves.tells cuts.selected cuts.planes

theorem Holds.circular (holds : Holds options emitter planes) (move : ArcMove) :
    Holds options (leaves (Emitter.circular move) emitter)
      (planes.arc (emitter.arcPlane move) (emitter.refuses (.event (.circular move)))) := by
  cases inside : move.plane with
  | none =>
      have unplanned : emitter.arcPlane move = none := by
        rw [arcPlane, inside, ite_self]
      rw [unplanned]
      exact holds.inPlane (inPlane_chorded inside emitter holds.toServes)
  | some plane =>
      have run := circular_planar inside emitter
      cases known : (move.start <|> emitter.position.complete?) with
      | none =>
          have unplanned : emitter.arcPlane move = none := by
            simp [arcPlane, hasFigures, known]
          rw [known] at run
          rw [unplanned, leaves_of_error run]
          exact holds
      | some start =>
          rw [known] at run
          have cut : Emitter.circular move emitter = Emitter.planarArc move start plane emitter :=
            run
          rw [leaves_of_eq cut]
          exact holds.planarArc inside known

theorem Holds.obey (planeless : options.CuttersArePlaneless)
    (holds : Holds options emitter planes) (call : Call) :
    Holds options (leaves (Emitter.obey call) emitter) (emitter.replan call planes) := by
  have stays {action : Emission Unit} (keeps : Keeps options InPlane action) :
      Holds options (leaves action emitter) planes :=
    holds.inPlane (keeps emitter holds.toServes)
  cases call with
  | precision places => exact ⟨⟨holds.options, holds.mode⟩, holds.flat, holds.slot, holds.read⟩
  | event event =>
      cases event with
      | startRun comment => exact holds.startRun comment
      | startSection facts =>
          change Holds options _ (if facts.isFirst then ⟨some .xy, some .xy⟩ else planes)
          cases first : facts.isFirst with
          | true => exact holds.startSection planeless first
          | false =>
              have announced := stays (inPlane_of_idle (keeps_announce facts))
              rw [← startSection_later first] at announced
              exact announced
      | endSection => exact holds.endSection
      | dwell seconds => exact stays (inPlane_of_idle (keeps_dwell seconds))
      | power on => exact stays (inPlane_power planeless on)
      | rapid target => exact stays (inPlane_of_toldInPlane (keeps_rapid target))
      | linear target feed => exact stays (inPlane_of_toldInPlane (keeps_linear target feed))
      | circular move => exact holds.circular move
      | endRun => exact stays (inPlane_endRun planeless)

theorem Holds.run (planeless : options.CuttersArePlaneless)
    (holds : Holds options emitter planes) (calls : List Call) :
    Holds options (emitter.after calls) (emitter.planes planes calls) := by
  induction calls generalizing emitter planes with
  | nil => exact holds
  | cons call rest ih => exact ih (holds.obey planeless call)

theorem agree_select (agree : planes.Agree) (plane : Plane) : (planes.select plane).Agree := by
  unfold Planes.select
  split
  · exact agree
  · exact fun _ asked => asked

theorem agree_replan (agree : planes.Agree) {call : Call} (allowed : emitter.refuses call = false) :
    (emitter.replan call planes).Agree := by
  cases call with
  | precision places => exact agree
  | event event =>
      cases event with
      | startRun comment =>
          change (if endsWell (obey (.event (.startRun comment))) emitter then
            { planes with asked := none } else planes).Agree
          split
          · intro plane asked
            cases asked
          · exact agree
      | startSection facts =>
          change (if facts.isFirst then (⟨some .xy, some .xy⟩ : Planes) else planes).Agree
          split
          · exact fun _ asked => asked
          · exact agree
      | endSection => exact agree_select agree .xy
      | circular move =>
          change (planes.arc (emitter.arcPlane move)
            (emitter.refuses (.event (.circular move)))).Agree
          rw [allowed]
          cases emitter.arcPlane move with
          | none => exact agree
          | some plane => exact agree_select agree plane
      | _ => exact agree

/-- Where no arc was refused, the planes agree. -/
theorem agree_planes (agree : planes.Agree) {calls : List Call}
    (allowed : emitter.refusesNone calls = true) : (emitter.planes planes calls).Agree := by
  induction calls generalizing emitter planes with
  | nil => exact agree
  | cons call rest ih =>
      rw [refusesNone, Bool.and_eq_true] at allowed
      exact ih (agree_replan agree (by simpa using allowed.1)) allowed.2

theorem IsFresh.holds (fresh : IsFresh options emitter) : Holds options emitter {} where
  toServes := fresh.toServes
  flat := by simp [fresh.written]
  slot := by rw [fresh.slots]; rfl
  read := by rw [fresh.written]; rfl

end Steps

end Emitter

end GantryCode
