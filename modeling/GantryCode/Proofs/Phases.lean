import GantryCode.Proofs.ArcMoves

namespace GantryCode

/-! The phases of a run: its head, its startup, the ends of its sections, its shutdown.

What startup and shutdown write themselves is told like any move; the commands that
switch the laser stand apart, as do the places where slots are emptied.
-/

namespace Emitter

open Emission Reading

variable {options : Options} {emitter : Emitter}

section Homing

def homeHeard (axis : Axis) (feed : Option String) : List (List Char) :=
  (([some Feature.home.usual, some axis.name, feed.map (Letter.f.name ++ ·)]).filterMap id).map
    String.toList

theorem homeHeard_eq (axis : Axis) (feed : Option String) :
    homeHeard axis feed = Feature.home.usual.toList :: axis.name.toList ::
      (feed.map (Letter.f.name ++ ·)).toList.map String.toList := by
  cases feed <;> rfl

theorem readWords_home (slots : Slots) (axis : Axis) (feed : Option String) :
    Registers.readWords slots.get (homeHeard axis feed) =
      ((slots.accept .f feed).set axis.letter none).get := by
  have still : moveWords (homeHeard axis feed) = [] := by
    rw [homeHeard_eq]
    simp [moveWords, isMove, isPlaneCode, Plane.all, Plane.code, Feature.usual]
  have away : homingWords (homeHeard axis feed) =
      axis.name.toList :: (feed.map (Letter.f.name ++ ·)).toList.map String.toList := by
    rw [homeHeard_eq, homingWords, if_pos rfl]
  have named (registers : Registers) : registers.noteHoming axis.name.toList =
      Function.update registers axis.letter none := by
    cases axis <;> rfl
  rw [Registers.readWords, still, away, List.foldl_nil, List.foldl_cons, named, Slots.get_set]
  cases feed with
  | none => rfl
  | some text =>
      have feedNoted (registers : Registers) :
          registers.noteHoming (Letter.f.name ++ text).toList =
            Function.update registers .f (some text) := by
        rw [Registers.noteHoming, ← Registers.note_name]
        simp [Axis.all, Axis.name, Axis.letter, Letter.name]
      rw [Slots.accept, Slots.get_set]
      change Registers.noteHoming _ (Letter.f.name ++ text).toList = _
      rw [feedNoted, Function.update_comm (Axis.f_ne_letter axis).symm]

def homed (emitter : Emitter) (axis : Axis) (feed : Option String) : Emitter :=
  { ((emitter.withSlots ((emitter.slots.accept .f feed).set axis.letter none)).commanded
      [some Feature.home.usual, some axis.name, feed.map (Letter.f.name ++ ·)]
      (some ("Home " ++ axis.name))) with
    notices := emitter.notices.push (.homing axis)
    position := emitter.position.set axis none }

@[simp] theorem slots_homed (emitter : Emitter) (axis : Axis) (feed : Option String) :
    (emitter.homed axis feed).slots = (emitter.slots.accept .f feed).set axis.letter none :=
  Writer.slots_command _ _ _

theorem forget_run (emitter : Emitter) (letter : Letter) :
    updateWriter (·.forget [letter]) emitter =
      .ok () (emitter.withSlots (emitter.slots.set letter none)) := rfl

/-- The line of homing at a feed rate, and what is forgotten with it. -/
def homeLine (axis : Axis) (rate : Option Float) : Emission Unit := do
  let feedWord ← word .f rate true
  command [some Feature.home.usual, some axis.name, feedWord] (some ("Home " ++ axis.name))
  updateWriter (·.forget [axis.letter])
  modify fun emitter => { emitter with position := emitter.position.set axis none }

theorem homeLine_run (axis : Axis) (rate : Option Float) (emitter : Emitter) :
    (notify (.homing axis) >>= fun _ => homeLine axis rate) emitter =
      .ok () (emitter.homed axis (rate.map feedText)) := by
  have offered :=
    word_feed rate true { emitter with notices := emitter.notices.push (.homing axis) }
  rw [Slots.offer_forced] at offered
  let filled := { emitter with notices := emitter.notices.push (.homing axis) }.withSlots
    (emitter.slots.accept .f (rate.map feedText))
  let written := filled.commanded
    [some Feature.home.usual, some axis.name, (rate.map feedText).map (Letter.f.name ++ ·)]
    (some ("Home " ++ axis.name))
  have forgotten : written.withSlots (written.slots.set axis.letter none) =
      (filled.withSlots (filled.slots.set axis.letter none)).commanded
        [some Feature.home.usual, some axis.name, (rate.map feedText).map (Letter.f.name ++ ·)]
        (some ("Home " ++ axis.name)) := by
    rw [withSlots_commanded, slots_commanded]
  refine (bind_of_ok offered).trans ((bind_of_ok (command_run filled _ _)).trans
    ((bind_of_ok (forget_run written axis.letter)).trans ?_))
  rw [forgotten]
  rfl

theorem mapM_amount (feed : Option Quantity) :
    feed.mapM amount = fromResult (feed.mapM (Quantity.toFloat .text)) := by
  cases feed with
  | none => rfl
  | some quantity =>
      funext emitter
      rw [Option.mapM_some, Option.mapM_some]
      unfold amount
      cases quantity.toFloat .text <;> rfl

theorem home_run (axis : Axis) (feed : Option Quantity) (emitter : Emitter) :
    home axis feed emitter =
      match feed.mapM (Quantity.toFloat .text) with
      | .ok rate => .ok () (emitter.homed axis (rate.map feedText))
      | .error fault =>
          .error fault { emitter with notices := emitter.notices.push (.homing axis) } := by
  have usual : emitter.writer.target.code? .home = some Feature.home.usual := by
    cases emitter.writer.target <;> rfl
  have begun : home axis feed emitter =
      (do
        let feedWord ← word .f (← feed.mapM amount) true
        command [emitter.writer.target.code? .home, some axis.name, feedWord]
          (some ("Home " ++ axis.name))
        updateWriter (·.forget [axis.letter])
        modify fun emitter => { emitter with position := emitter.position.set axis none } :
        Emission Unit) { emitter with notices := emitter.notices.push (.homing axis) } := rfl
  rw [begun, usual, mapM_amount]
  cases shown : feed.mapM (Quantity.toFloat .text) with
  | error fault => rfl
  | ok rate => exact homeLine_run axis rate emitter

theorem tells_homed (emitter : Emitter) (axis : Axis) {feed : Option String}
    (number : ∀ text, feed = some text → Decimal.IsNumberText text) :
    TellsInPlane emitter (emitter.homed axis feed)
      (emitter.writer.commandLine? [some Feature.home.usual, some axis.name,
        feed.map (Letter.f.name ++ ·)] (some ("Home " ++ axis.name))).toList := by
  have alone : ∀ token, some token ∈ [some Feature.home.usual, some axis.name,
      feed.map (Letter.f.name ++ ·)] → IsToken token.toList := by
    intro token member
    rcases List.mem_cons.mp member with same | member
    · cases same
      decide
    · rcases List.mem_cons.mp member with same | member
      · cases same
        cases axis <;> decide
      · obtain ⟨text, shown, rfl⟩ := Option.map_eq_some_iff.mp (List.mem_singleton.mp member).symm
        exact IsWord.isToken ⟨.f, text, rfl, number text shown⟩
  have planes : planeCodes (homeHeard axis feed) = [] := by
    rw [homeHeard_eq]
    cases feed with
    | none => cases axis <;> decide
    | some text =>
        cases axis <;>
          simp [planeCodes, Feature.usual, isPlaneCode, Plane.all, Plane.code, Axis.name,
            Axis.letter, Letter.name]
  have told := tells_command_inPlane emitter ((emitter.slots.accept .f feed).set axis.letter none)
    (some ("Home " ++ axis.name)) (tokens_commandBody alone)
    (by rw [← homeHeard, homeHeard_eq]; rfl)
    (commandBody_flat fun token member => (alone token member).flat)
    (readWords_home emitter.slots axis feed).symm (by simp) planes
  exact told.relocated _ _

theorem keeps_home (axis : Axis) (feed : Option Quantity) :
    Keeps options ToldInPlane (home axis feed) := by
  intro emitter _
  have run := home_run axis feed emitter
  cases shown : feed.mapM (Quantity.toFloat .text) with
  | error fault =>
      rw [shown] at run
      rw [leaves_of_error run]
      exact ⟨[], tells_of_writer_eq rfl (.inl rfl) rfl⟩
  | ok rate =>
      rw [shown] at run
      rw [leaves_of_ok run]
      exact ⟨_, tells_homed emitter axis fun _ => feedText_isNumberText _⟩

end Homing

section Forced

theorem keeps_rapidLine {feed : Quantity} (note : Option String) :
    Keeps options ToldInPlane (rapidLine [] feed note) := by
  intro emitter _
  have run := rapidLine_run [] feed note emitter
  cases shown : feed.toFloat .text with
  | error fault =>
      rw [shown] at run
      rw [leaves_of_error run]
      exact toldInPlane_progress.refl emitter
  | ok rate =>
      rw [shown] at run
      rw [leaves_of_ok run]
      have numbers : Slots.AreNumbers ⟨none, none, none⟩ := by
        intro axis text present
        cases axis <;> cases present
      have tells := tells_straight emitter note (by decide : isMove "G0".toList = true)
        List.nodup_nil numbers fun _ => feedText_isNumberText (some rate)
      rw [straightWords, List.map_nil, Slots.acceptAxes, Option.map_some] at tells
      exact ⟨_, tells⟩

def forced (emitter : Emitter) (axis : Axis) (text : String) (rate : Float)
    (note : Option String) : Emitter :=
  (emitter.withSlots ((emitter.slots.accept axis.letter (some text)).accept .f
    (some (feedText rate)))).commanded
      [some "G0", some (axis.letter.name ++ text), some (feedWord rate)] note

theorem forcedMove_outcome (axis : Axis) (value feed : Quantity) (note : Option String)
    (emitter : Emitter) :
    (∃ fault, forcedMove axis.letter value feed note emitter = .error fault emitter) ∨
    (∃ fault text, feed.toFloat .text = .error fault ∧
      forcedMove axis.letter value feed note emitter =
        .error fault (emitter.withSlots (emitter.slots.accept axis.letter (some text)))) ∨
    ∃ place text rate, value.toFloat .text = .ok place ∧
      emitter.writer.valueText false place = .ok text ∧
      forcedMove axis.letter value feed note emitter =
        .ok () (emitter.forced axis text rate note) := by
  have fraction : axis.letter.isWhole = false := by cases axis <;> rfl
  cases found : value.toFloat .text with
  | error fault =>
      refine .inl ⟨fault, bind_of_error ?_⟩
      rw [amount, found]
      rfl
  | ok place =>
      have begun : forcedMove axis.letter value feed note emitter =
          (word axis.letter (some place) true >>= fun axisWord =>
            rapidLine [axisWord] feed note) emitter := by
        refine bind_of_ok ?_
        rw [amount, found]
        rfl
      rw [begun, word_bind, fraction, Option.mapM_some]
      cases shown : emitter.writer.valueText false place with
      | error fault => exact .inl ⟨fault, rfl⟩
      | ok text =>
          have run := rapidLine_run [some (axis.letter.name ++ text)] feed note
            (emitter.withSlots (emitter.slots.accept axis.letter (some text)))
          have offered := Slots.offer_forced emitter.slots axis.letter (some text)
          cases rated : feed.toFloat .text with
          | error fault =>
              rw [rated] at run
              refine .inr (.inl ⟨fault, text, rfl, ?_⟩)
              change rapidLine [emitter.slots.offer axis.letter (some text) true] feed note _ = _
              rw [offered]
              exact run
          | ok rate =>
              rw [rated] at run
              refine .inr (.inr ⟨place, text, rate, rfl, shown, ?_⟩)
              change rapidLine [emitter.slots.offer axis.letter (some text) true] feed note _ = _
              rw [offered]
              exact run

/-- A forced move of an axis is told, if it can have its feed rate. -/
theorem keeps_forcedMove (axis : Axis) (value : Quantity) {feed : Quantity} (note : Option String)
    (inRange : options.FeedsInRange → ∃ rate, feed.toFloat .text = .ok rate) :
    Keeps options ToldInPlane (forcedMove axis.letter value feed note) := by
  intro emitter serves
  rcases forcedMove_outcome axis value feed note emitter with
    ⟨fault, failed⟩ | ⟨fault, text, rated, failed⟩ | ⟨place, text, rate, -, shown, ended⟩
  · rw [leaves_of_error failed]
    exact toldInPlane_progress.refl emitter
  · rw [leaves_of_error failed]
    refine ⟨[], tells_unread emitter (by simp) fun feeds => ?_⟩
    obtain ⟨rate, found⟩ := inRange (serves.options ▸ feeds)
    rw [rated] at found
    cases found
  · rw [leaves_of_ok ended]
    have numbers : ∀ token, some token ∈ [some (axis.letter.name ++ text), some (feedWord rate)] →
        IsWord token := by
      intro token member
      rcases List.mem_cons.mp member with same | member
      · cases same
        exact ⟨axis.letter, text, rfl, Writer.valueText_isNumberText shown⟩
      · cases List.mem_singleton.mp member
        exact feedWord_isWord rate
    have first := Registers.noteToken_offer emitter.slots axis.letter (some text) true
    have second := Registers.noteToken_offer (emitter.slots.accept axis.letter (some text)) .f
      (some (feedText rate)) true
    rw [Slots.offer_forced] at first second
    refine ⟨_, tells_move emitter _ note (by decide : isMove "G0".toList = true) numbers ?_
      (by simp)⟩
    rw [← second, ← first]
    rfl

end Forced

section Planes

variable {plane : Plane} {offer : Option String}

theorem tells_plane (emitter : Emitter) (offered : offer = none ∨ offer = some plane.code)
    (note : Option String) :
    Tells emitter ((emitter.withSlots (emitter.slots.inPlane plane)).commanded [offer] note)
        (emitter.writer.commandLine? [offer] note).toList ∧
      ∀ held, planeAfter held (emitter.writer.commandLine? [offer] note).toList =
        (offer <|> held) := by
  have alone : ∀ token, some token ∈ [offer] → IsToken token.toList := by
    intro token member
    rcases offered with rfl | rfl
    · cases List.mem_singleton.mp member
    · cases List.mem_singleton.mp member
      cases plane <;> decide
  have body := tokens_commandBody alone
  have unnumbered : withoutNumber (([offer].filterMap id).map String.toList) =
      ([offer].filterMap id).map String.toList := by
    rcases offered with rfl | rfl
    · rfl
    · exact withoutNumber_plane plane
  have silent : Registers.readWords emitter.slots.get (([offer].filterMap id).map String.toList) =
      emitter.slots.get := by
    rcases offered with rfl | rfl
    · rfl
    · cases plane <;> rfl
  refine ⟨tells_command emitter _ note body unnumbered
    (commandBody_flat fun token member => (alone token member).flat) ?_, fun held => ?_⟩
  · rw [silent, Slots.get_inPlane]
  · rw [Writer.planeAfter_command _ note held (by rw [body]; exact unnumbered), body]
    rcases offered with rfl | rfl
    · rfl
    · cases plane <;> rfl

/-- The plane that startup selects in any case. -/
def selectXY : Emission Unit := do
  let planeCode ← writing (Writer.planeCode Plane.xy.code true)
  command [planeCode] (some "Circular interpolation: XY plane")

def inXY (emitter : Emitter) : Emitter :=
  (emitter.withSlots (emitter.slots.inPlane .xy)).commanded [some Plane.xy.code]
    (some "Circular interpolation: XY plane")

theorem selectXY_run (emitter : Emitter) : selectXY emitter = .ok () emitter.inXY := by
  have selected : writing (Writer.planeCode Plane.xy.code true) emitter =
      .ok (some Plane.xy.code) (emitter.withSlots (emitter.slots.inPlane .xy)) := rfl
  exact bind_of_ok selected

theorem keeps_selectXY : Keeps options Told selectXY := by
  intro emitter _
  rw [leaves_of_ok (selectXY_run emitter)]
  exact ⟨_, (tells_plane emitter (.inr rfl) _).1⟩

/-- The emitter at the end of a section, before the slots of the moves are emptied. -/
def backInXY (emitter : Emitter) : Emitter :=
  (emitter.withSlots (emitter.slots.inPlane .xy)).commanded [emitter.slots.offerPlane .xy] none

theorem tells_backInXY (emitter : Emitter) :
    Tells emitter emitter.backInXY
        (emitter.writer.commandLine? [emitter.slots.offerPlane .xy] none).toList ∧
      ∀ held, planeAfter held
          (emitter.writer.commandLine? [emitter.slots.offerPlane .xy] none).toList =
        (emitter.slots.offerPlane .xy <|> held) := by
  refine tells_plane emitter ?_ none
  rcases offerPlane_cases emitter.slots .xy with ⟨-, left⟩ | ⟨-, written⟩
  · exact .inl left
  · exact .inr written

theorem endSection_run (emitter : Emitter) :
    endSection emitter =
      .ok () (emitter.backInXY.withSlots (emitter.backInXY.slots.forget [.x, .y, .z, .f])) := by
  refine (bind_of_ok (planeCode_run .xy emitter)).trans ?_
  exact bind_of_ok (command_run _ _ none)

end Planes

section Startup

/-- Takes an axis to a place of the options, if they have one. -/
def drive (axis : Axis) (place : Option Quantity) (feed : Quantity)
    (note : Option String := none) : Emission Unit := do
  if let some place := place then forcedMove axis.letter place feed note

theorem keeps_drive (axis : Axis) (place : Option Quantity) {feed : Quantity}
    (note : Option String)
    (inRange : options.FeedsInRange → ∃ rate, feed.toFloat .text = .ok rate) :
    Keeps options ToldInPlane (drive axis place feed note) := by
  cases place with
  | none => exact Keeps.nothing toldInPlane_progress ()
  | some place => exact keeps_forcedMove axis place note inRange

/-- What startup does before it selects a plane. -/
def prepare (options : Options) : Emission Unit := do
  command [← code .setUnitsMm] (some "Units are in millimeters")
  if options.homeXStart then home .x
  if options.homeYStart then home .y

/-- What startup does once the plane is selected. -/
def settle (options : Options) : Emission Unit := do
  command [← code .absolutePositioning] (some "Use absolute positioning")
  rapidLine [] options.rapidFeedXY (some "Rapid feed rate")
  if options.homeZStart then home .z (some options.rapidFeedZ)
  if let some height := options.startZ then
    forcedMove .z height options.rapidFeedZ (some "Start height")

def laserOff (options : Options) : Emission Unit :=
  command [some options.cutterOff] (some "Laser off")

theorem startup_run (emitter : Emitter) :
    startup emitter =
      (laserOff emitter.options >>= fun _ => prepare emitter.options >>= fun _ =>
        selectXY >>= fun _ => settle emitter.options) emitter := by
  unfold startup prepare settle selectXY laserOff
  rw [get_bind_apply]
  cases emitter.options.homeXStart <;> cases emitter.options.homeYStart <;>
    cases emitter.options.startZ <;>
    simp only [bind_assoc, pure_bind, if_true, if_false, Bool.false_eq_true]

theorem keeps_prepare : Keeps options ToldInPlane (prepare options) := by
  have progress := toldInPlane_progress
  refine Keeps.code fun target => ?_
  refine Keeps.chain progress (keepsInPlane_of_idle (keeps_command_code target .setUnitsMm _))
    fun _ => ?_
  refine Keeps.optional progress (fun _ => keeps_home .x none) fun _ => ?_
  exact Keeps.branch (fun _ => keeps_home .y none) fun _ => Keeps.nothing progress ()

theorem keeps_settle : Keeps options ToldInPlane (settle options) := by
  have progress := toldInPlane_progress
  refine Keeps.code fun target => ?_
  refine Keeps.chain progress
    (keepsInPlane_of_idle (keeps_command_code target .absolutePositioning _)) fun _ => ?_
  refine Keeps.chain progress (keeps_rapidLine _) fun _ => ?_
  refine Keeps.optional progress (fun _ => keeps_home .z _) fun _ => ?_
  exact keeps_drive .z options.startZ _ fun feeds => feeds.z

end Startup

section Shutdown

/-- Where shutdown sends the tool. -/
def park (options : Options) : Emission Unit := do
  if let some height := options.endZ then forcedMove .z height options.rapidFeedZ
  rapidLine [] options.rapidFeedXY
  if options.homeXEnd then home .x
  if let some place := options.endY then forcedMove .y place options.rapidFeedXY

/-- What shutdown does once the tool is parked. -/
def powerDown (options : Options) : Emission Unit := do
  if let some disable ← code .disableMotors then command [some disable] (some "Disable motors")
  if options.beepAtEnd then beep
  status "Finished"

def finishMoves : Emission Unit := do
  command [← code .finishMoves] (some "Finish moves")

theorem endRun_run (emitter : Emitter) :
    endRun emitter =
      (finishMoves >>= fun _ => laserOff emitter.options >>= fun _ =>
        park emitter.options >>= fun _ => powerDown emitter.options) emitter := by
  unfold endRun finishMoves laserOff park
  rw [get_bind_apply]
  cases emitter.options.endZ <;> cases emitter.options.homeXEnd <;>
    cases emitter.options.endY <;>
    simp only [bind_assoc, pure_bind, if_true, if_false, Bool.false_eq_true] <;> rfl

theorem keeps_finishMoves : Keeps options Idle finishMoves :=
  Keeps.code fun target => keeps_command_code target .finishMoves _

/-- Where shutdown sends the tool at the height that it then has. -/
def level (options : Options) : Emission Unit := do
  rapidLine [] options.rapidFeedXY
  if options.homeXEnd then home .x
  drive .y options.endY options.rapidFeedXY

theorem keeps_level : Keeps options ToldInPlane (level options) := by
  refine Keeps.chain toldInPlane_progress (keeps_rapidLine none) fun _ => ?_
  refine Keeps.optional toldInPlane_progress (fun _ => keeps_home .x none) fun _ => ?_
  exact keeps_drive .y options.endY none fun feeds => feeds.xy

theorem park_eq (options : Options) :
    park options = (drive .z options.endZ options.rapidFeedZ >>= fun _ => level options) := by
  unfold park
  cases options.endZ <;> rfl

theorem keeps_park : Keeps options ToldInPlane (park options) := by
  rw [park_eq]
  exact Keeps.chain toldInPlane_progress
    (keeps_drive .z options.endZ none fun feeds => feeds.z) fun _ => keeps_level

theorem keeps_powerDown : Keeps options Idle (powerDown options) := by
  have progress := idle_progress
  have beeped : Keeps options Idle (do
      if options.beepAtEnd then beep
      status "Finished") :=
    Keeps.optional progress (fun _ => keeps_beep) fun _ => keeps_status "Finished"
  refine Keeps.code fun target => ?_
  cases found : target.code? .disableMotors with
  | none => exact beeped
  | some disable =>
      refine Keeps.chain progress ?_ fun _ => beeped
      exact fun emitter _ => idle_code found (some "Disable motors")

end Shutdown

section Heads

/-- The comments at the head of a run. -/
def head (options : Options) (comment : Option String) : Emission Unit := do
  updateWriter (·.remark ("Generated by laserpost " ++ version))
  updateWriter fun writer => { writer with headerComments := [] }
  addHeaderComment ("Bed size: " ++ (← pointText [("X", options.bedX), ("Y", options.bedY)]))
  let offset := options.toolOffset
  if isOffset offset then
    addHeaderComment ("Tool offset: " ++
      (← pointText [("X", offset.x), ("Y", offset.y), ("Z", offset.z)]))
  updateWriter (·.header (comment.map .text))

theorem startRun_run (comment : Option String) (emitter : Emitter) :
    startRun comment emitter =
      (head emitter.options comment >>= fun _ => updateWriter Writer.forgetAll) emitter := by
  unfold startRun head
  rw [get_bind_apply]
  dsimp only
  split <;> simp only [bind_assoc]

theorem keeps_pointText (words : List (String × Quantity)) :
    Keeps options Idle (pointText words) :=
  Keeps.inspect fun _ _ => Keeps.given idle_progress fun texts _ =>
    Keeps.nothing idle_progress (" ".intercalate texts)

theorem keeps_addHeaderComment (text : String) :
    Keeps options Idle (addHeaderComment text) :=
  Keeps.change fun _ _ => ⟨[], idles_nothing rfl (.inl rfl) rfl rfl rfl rfl⟩

theorem keeps_head (comment : Option String) : Keeps options Idle (head options comment) := by
  have progress := idle_progress
  have emptied : Keeps options Idle
      (updateWriter fun writer => { writer with headerComments := [] }) :=
    Keeps.change fun _ _ => ⟨[], idles_nothing rfl (.inl rfl) rfl rfl rfl rfl⟩
  have headed : Keeps options Idle (updateWriter (·.header (comment.map .text))) :=
    Keeps.change fun emitter _ => idle_header emitter _
  refine Keeps.chain progress (keeps_remark _) fun _ => Keeps.chain progress emptied fun _ => ?_
  refine Keeps.chain progress (keeps_pointText _) fun size => ?_
  refine Keeps.chain progress (keeps_addHeaderComment _) fun _ => ?_
  refine Keeps.branch (fun _ => ?_) fun _ => headed
  refine Keeps.chain progress (keeps_pointText _) fun place => ?_
  exact Keeps.chain progress (keeps_addHeaderComment _) fun _ => headed

/-- What the start of a section does behind the startup. -/
def announce (facts : Section) : Emission Unit := do
  if facts.isJet then selectMode facts.jetMode
  match facts.comment with
  | none | some "" => pure ()
  | some text =>
      command [← code .finishMoves]
      status text

theorem startSection_first {facts : Section} (first : facts.isFirst = true) :
    startSection facts = (startup >>= fun _ => announce facts) := by
  unfold startSection announce
  exact if_pos first

theorem startSection_later {facts : Section} (later : facts.isFirst = false) :
    startSection facts = announce facts := by
  unfold startSection announce
  rw [later]
  rfl

theorem keeps_announce (facts : Section) : Keeps options Idle (announce facts) := by
  have progress := idle_progress
  have named : Keeps options Idle (match facts.comment with
      | none | some "" => pure ()
      | some text => do
          command [← code .finishMoves]
          status text) := by
    split
    · exact Keeps.nothing progress ()
    · exact Keeps.nothing progress ()
    · refine Keeps.code fun target => ?_
      exact Keeps.chain progress (keeps_command_code target .finishMoves none) fun _ =>
        keeps_status _
  exact Keeps.optional progress (fun _ => keeps_selectMode facts.jetMode) fun _ => named

end Heads

end Emitter

end GantryCode
