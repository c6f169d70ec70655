import GantryCode.Proofs.Phrases

namespace GantryCode

/-! Properties that an operation has because its steps have them.

The operations of an emitter are commands, words and remarks in a row, some of them only
where the options ask for it. A property of actions that holds of those steps and of
whatever is put together from actions with the property holds of the operations. Whether a
number of the options can be written may be a condition for it, and so may be that only
certain numbers are written.
-/

namespace Options

/-- What the options have of numbers that are written, or that places are moved by. -/
def quantities (options : Options) : List Quantity :=
  [options.rapidFeedXY, options.rapidFeedZ, options.toolOffset.x, options.toolOffset.y,
    options.toolOffset.z, options.bedX, options.bedY] ++
    options.startZ.toList ++ options.endZ.toList ++ options.endY.toList

/-- The options with other wishes for what is shown beside the commands. -/
def showing (options : Options) (comments numbers : Bool) : Options :=
  { options with showComments := comments, showLineNumbers := numbers }

/-- The places that startup and shutdown send the tool to. -/
def places (options : Options) : List Quantity :=
  options.startZ.toList ++ options.endZ.toList ++ options.endY.toList

end Options

namespace Emitter

/-- A number of a target as the controller sees it. -/
def Sends (offset : Coordinates Quantity) (target : Coordinates (Option Float)) (value : Float) :
    Prop :=
  ∃ place axis, shiftedTarget offset target = .ok place ∧ place.get axis = some value

/-- A number of an arc as the controller sees it: of its end, of its center relative to its
start, or its feed rate. -/
inductive Bends (offset : Coordinates Quantity) (move : ArcMove) (start : Coordinates Float)
    (plane : Plane) : Float → Prop where
  | finish {place : Coordinates Float} (axis : Axis)
      (sent : shifted offset move.finish = .ok place) :
      Bends offset move start plane (place.get axis)
  | center {center place : Coordinates Float} {axis : Axis} (among : axis ∈ plane.axes)
      (centered : shifted offset move.center = .ok center)
      (begun : shifted offset start = .ok place) :
      Bends offset move start plane (center.get axis - place.get axis)
  | feed {rate : Float} (fed : move.feed = some rate) : Bends offset move start plane rate

end Emitter

namespace Emission

open Emitter

section Results

variable {allows : Float → Prop} {letter : Letter} {force : Bool} {token : Option String}

theorem returns_result {α : Type} {given : Except Fault α} {result : α}
    (returned : Returns (fromResult given) result) : given = .ok result := by
  obtain ⟨before, after, ended⟩ := returned
  exact (ofExcept_ok ended).1

theorem returns_word {value : Option Float} (returned : Returns (word letter value force) token)
    (allowed : ∀ number ∈ value, allows number) : Spells allows letter token := by
  obtain ⟨before, after, ended⟩ := returned
  rw [word_run] at ended
  rintro text ⟨⟩
  cases value with
  | none => cases ended
  | some number =>
      cases shown : before.writer.valueText letter.isWhole number with
      | error fault => simp [shown] at ended
      | ok given =>
          rw [Option.mapM_some, shown] at ended
          obtain ⟨written, -⟩ := (EStateM.Result.ok.injEq ..).mp ended
          obtain ⟨_, ⟨⟩, rfl⟩ := Slots.offer_eq_some written
          obtain ⟨places, rfl⟩ := Writer.valueText_rounded shown
          exact ⟨number, places, allowed number rfl, rfl⟩

theorem returns_forced {number : Float}
    (returned : Returns (word letter (some number) true) token) :
    token.isSome := by
  obtain ⟨before, after, ended⟩ := returned
  rw [word_run, Option.mapM_some] at ended
  cases shown : before.writer.valueText letter.isWhole number with
  | error fault => simp [shown] at ended
  | ok given =>
      rw [shown] at ended
      obtain ⟨written, -⟩ := (EStateM.Result.ok.injEq ..).mp ended
      rw [← written, Slots.offer_forced]
      rfl

theorem returns_feed {feed : Option Float} (returned : Returns (word .f feed true) token) :
    token = feed.map feedWord := by
  obtain ⟨before, after, ended⟩ := returned
  rw [word_feed, Slots.offer_forced] at ended
  obtain ⟨written, -⟩ := (EStateM.Result.ok.injEq ..).mp ended
  rw [← written, Option.map_map]
  rfl

theorem returns_newFeed {feed : Option Float} {text : String}
    (returned : Returns (word .f feed false) (some text)) :
    ∃ rate, feed = some rate ∧ text = feedWord rate := by
  obtain ⟨before, after, ended⟩ := returned
  rw [word_feed] at ended
  obtain ⟨written, -⟩ := (EStateM.Result.ok.injEq ..).mp ended
  obtain ⟨shown, present, rfl⟩ := Slots.offer_eq_some written
  obtain ⟨rate, given, rfl⟩ := Option.map_eq_some_iff.mp present
  exact ⟨rate, given, rfl⟩

theorem returns_planeCode {plane : Plane}
    (returned : Returns (writing (Writer.planeCode plane.code force)) token) :
    ∀ text ∈ token, text = plane.code := by
  obtain ⟨before, after, ended⟩ := returned
  rintro text ⟨⟩
  cases force with
  | true =>
      have run : writing (Writer.planeCode plane.code true) before =
          .ok (some plane.code) (before.withSlots (before.slots.inPlane plane)) := rfl
      cases run.symm.trans ended
      rfl
  | false =>
      rw [planeCode_run] at ended
      obtain ⟨written, -⟩ := (EStateM.Result.ok.injEq ..).mp ended
      rcases offerPlane_cases before.slots plane with ⟨-, left⟩ | ⟨-, offered⟩
      · cases left.symm.trans written
      · exact (Option.some.inj (offered.symm.trans written)).symm

theorem returns_offsetWords {offsets : Coordinates Float} {axes : List Axis}
    {centers : List (Option String)} (returned : Returns (offsetWords offsets axes) centers)
    (allowed : ∀ axis ∈ axes, allows (offsets.get axis)) :
    List.Forall₂ (Spells allows) (axes.map Axis.offsetLetter) centers ∧
      ∀ word ∈ centers, word.isSome := by
  induction axes generalizing centers with
  | nil =>
      obtain ⟨before, after, ⟨⟩⟩ := returned
      exact ⟨.nil, by simp⟩
  | cons axis rest ih =>
      obtain ⟨before, after, ended⟩ := returned
      obtain ⟨first, middle, written, ended⟩ := bind_ok ended
      obtain ⟨others, reached, later, finished⟩ := bind_ok ended
      have given : Returns (word axis.offsetLetter (some (offsets.get axis)) true) first :=
        ⟨before, middle, written⟩
      obtain ⟨spelled, present⟩ := ih ⟨middle, reached, later⟩
        fun other member => allowed other (by simp [member])
      cases finished
      refine ⟨.cons (returns_word given fun number same => ?_) spelled, fun word member => ?_⟩
      · cases same
        exact allowed axis (by simp)
      · rcases List.mem_cons.mp member with rfl | later
        · exact returns_forced given
        · exact present word later

end Results

/-- A property that the steps of an operation have, if the numbers in them are admitted,
and that actions put together have. Of the options, an action may be judged by all but the
tool offset and what is shown. -/
structure Stepwise (options : Options) (admits : Quantity → Prop) (allows : Float → Prop)
    (property : {α : Type} → Emission α → Prop) : Prop where
  nothing : ∀ {α : Type} (result : α), property (pure result : Emission α)
  follow : ∀ {α β : Type} {action : Emission α} {next : α → Emission β}, property action →
    (∀ result, Returns action result → property (next result)) → property (action >>= next)
  target : ∀ {α : Type} {next : Target → Emission α}, (∀ target, property (next target)) →
    property ((get : Emission Emitter) >>= fun emitter => next emitter.writer.target)
  valueText : ∀ {α : Type} (value : Float) {next : String → Emission α},
    (∀ places, property (next (Decimal.rounded places value))) →
    property (do next (← fromResult ((← get).writer.valueText false value)))
  sameRun : ∀ {action other : Emission Unit}, (∀ emitter offset comments numbers,
      emitter.options = { options.showing comments numbers with toolOffset := offset } →
      action emitter = other emitter) → property other → property action
  notify : ∀ notice, property (notify notice)
  command : ∀ {tokens}, IsPhrase options allows tokens → ∀ note, property (command tokens note)
  remark : ∀ text, property (updateWriter (·.remark text))
  forget : ∀ letters, property (updateWriter (·.forget letters))
  amount : ∀ {quantity}, admits quantity → property (amount quantity)
  word : ∀ letter value force, property (word letter value force)
  planeCode : ∀ plane force, property (writing (Writer.planeCode (Plane.code plane) force))
  unplaced : ∀ axis, property (modify fun emitter : Emitter =>
    { emitter with position := emitter.position.set axis none })

variable {options : Options} {admits : Quantity → Prop} {allows : Float → Prop}
  {property : {α : Type} → Emission α → Prop} {α : Type}

namespace Stepwise

theorem branch {condition : Prop} [Decidable condition] {left right : Emission α}
    (first : condition → property left) (second : ¬condition → property right) :
    property (if condition then left else right) := by
  split
  · next holds => exact first holds
  · next fails => exact second fails

variable (steps : Stepwise options admits allows property)

include steps

theorem chain {β : Type} {action : Emission α} {next : α → Emission β} (first : property action)
    (later : ∀ result, property (next result)) : property (action >>= next) :=
  steps.follow first fun result _ => later result

theorem code {feature : Feature} {next : Option String → Emission α}
    (later : ∀ target : Target, property (next (target.code? feature))) :
    property (Emitter.code feature >>= next) :=
  steps.target later

theorem optional {condition : Prop} [Decidable condition] {action : Emission Unit}
    {next : Unit → Emission α} (first : condition → property action)
    (later : ∀ done, property (next done)) :
    property (if condition then action >>= next else next ()) :=
  branch (fun holds => steps.chain (first holds) later) fun _ => later ()

theorem rapidLine {letters : List Letter} {words : List (Option String)} {feed : Quantity}
    (among : letters ∈ rapidLetters) (spelled : List.Forall₂ (Spells allows) letters words)
    (moves : letters ≠ [] → ∃ word ∈ words, word.isSome) (rapid : feed ∈ options.rapidFeeds)
    (known : admits feed) (note : Option String) :
    property (Emitter.rapidLine words feed note) := by
  refine steps.follow (steps.amount known) fun rate rated => ?_
  refine steps.follow (steps.word .f _ true) fun token given => ?_
  cases returns_feed given
  exact steps.command (.rapid among spelled moves rapid (returns_result rated)) note

theorem feedLine {feed : Quantity} (rapid : feed ∈ options.rapidFeeds) (known : admits feed)
    (note : Option String) : property (Emitter.rapidLine [] feed note) :=
  steps.rapidLine (by simp [rapidLetters]) .nil (by simp) rapid known note

theorem forcedMove {letter : Letter} {value feed : Quantity} (among : [letter] ∈ rapidLetters)
    (place : admits value) (allowed : ∀ number, value.toFloat .text = .ok number → allows number)
    (rapid : feed ∈ options.rapidFeeds) (known : admits feed) (note : Option String) :
    property (Emitter.forcedMove letter value feed note) := by
  refine steps.follow (steps.amount place) fun number found => ?_
  refine steps.follow (steps.word letter _ true) fun token given => ?_
  refine steps.rapidLine among (.cons (returns_word given fun other same => ?_) .nil)
    (fun _ => ⟨token, by simp, returns_forced given⟩) rapid known note
  cases same
  exact allowed number (returns_result found)

theorem drive {axis : Axis} {place : Option Quantity} {feed : Quantity}
    (among : [axis.letter] ∈ rapidLetters) (known : ∀ quantity ∈ place, admits quantity)
    (allowed : ∀ quantity ∈ place, ∀ number, quantity.toFloat .text = .ok number → allows number)
    (rapid : feed ∈ options.rapidFeeds) (rate : admits feed) (note : Option String) :
    property (Emitter.drive axis place feed note) := by
  cases place with
  | none => exact steps.nothing ()
  | some place => exact steps.forcedMove among (known place rfl) (allowed place rfl) rapid rate note

theorem home (axis : Axis) {feed : Option Quantity}
    (known : ∀ quantity ∈ feed, admits quantity ∧ quantity = options.rapidFeedZ) :
    property (Emitter.home axis feed) := by
  have rated : property (feed.mapM Emitter.amount) := by
    cases feed with
    | none => exact steps.nothing none
    | some quantity =>
        rw [Option.mapM_some]
        exact steps.chain (steps.amount (known quantity rfl).1) fun _ => steps.nothing _
  have rapid (rate : Option Float) (returned : Returns (feed.mapM Emitter.amount) rate) :
      ∀ number ∈ rate, options.rapidFeedZ.toFloat .text = .ok number := by
    rw [mapM_amount] at returned
    have found := returns_result returned
    rintro number ⟨⟩
    cases feed with
    | none => cases found
    | some quantity =>
        rw [← (known quantity rfl).2]
        cases shown : quantity.toFloat .text with
        | error fault => simp [shown] at found
        | ok amount =>
            rw [Option.mapM_some, shown] at found
            cases found
            rfl
  refine steps.chain (steps.notify _) fun _ => steps.code fun _ => ?_
  refine steps.follow rated fun rate returned => ?_
  refine steps.follow (steps.word .f _ true) fun token given => ?_
  cases returns_feed given
  refine steps.chain (steps.command (.home _ axis (rapid rate returned)) _) fun _ => ?_
  exact steps.chain (steps.forget _) fun _ => steps.unplaced axis

theorem feature (target : Target) {feature : Feature} (among : feature ∈ Feature.commands)
    (note : Option String) : property (Emitter.command [target.code? feature] note) :=
  steps.command (.feature target among) note

theorem status (text : String) : property (Emitter.status text) := by
  refine steps.code fun target => ?_
  cases shown : target.code? .statusMessage with
  | none => exact steps.remark text
  | some message => exact steps.command (.display shown text) none

theorem beep : property Emitter.beep := by
  refine steps.code fun target => ?_
  cases found : target.code? .beep with
  | none => exact steps.target fun other => steps.notify (.cannotBeep other.name)
  | some sound =>
      have known := steps.feature target (by decide : Feature.beep ∈ Feature.commands) (some "Beep")
      rwa [found] at known

theorem finishMoves : property Emitter.finishMoves :=
  steps.code fun target => steps.feature target (by decide) _

theorem selectXY : property Emitter.selectXY :=
  steps.follow (steps.planeCode .xy true) fun _ selected =>
    steps.command (.plane (returns_planeCode selected)) _

theorem prepare : property (Emitter.prepare options) := by
  refine steps.code fun target => steps.chain (steps.feature target (by decide) _) fun _ => ?_
  refine steps.optional (fun _ => steps.home .x (by simp)) fun _ => ?_
  exact branch (fun _ => steps.home .y (by simp)) fun _ => steps.nothing ()

theorem powerDown : property (Emitter.powerDown options) := by
  have beeped : property (do
      if options.beepAtEnd then Emitter.beep
      Emitter.status "Finished") :=
    steps.optional (fun _ => steps.beep) fun _ => steps.status "Finished"
  refine steps.code fun target => ?_
  cases found : target.code? .disableMotors with
  | none => exact beeped
  | some disable =>
      have known := steps.feature target (by decide : Feature.disableMotors ∈ Feature.commands)
        (some "Disable motors")
      rw [found] at known
      exact steps.chain known fun _ => beeped

theorem endSection : property Emitter.endSection :=
  steps.follow (steps.planeCode .xy false) fun _ selected =>
    steps.chain (steps.command (.plane (returns_planeCode selected)) none) fun _ => steps.forget _

theorem dwell {seconds : Float} (lasts : allows (clampDwell seconds).1) :
    property (Emitter.dwell seconds) := by
  have written {seconds : Float} (lasts : allows seconds) : property (do
      let name := (← Emitter.code .dwellParam).getD ""
      let text ← fromResult ((← get).writer.valueText false seconds)
      Emitter.command [← Emitter.code .dwell, some (name ++ text)] (some "Dwell")) :=
    steps.code fun other => steps.valueText seconds fun places => steps.code fun target =>
      steps.command (.dwell target other places lasts) _
  unfold Emitter.dwell
  dsimp only
  cases (clampDwell seconds).2 with
  | none => exact written lasts
  | some notice => exact steps.chain (steps.notify notice) fun _ => written lasts

theorem announce {facts : Section}
    (selected : facts.isJet = true → property (selectMode facts.jetMode)) :
    property (Emitter.announce facts) := by
  unfold Emitter.announce
  refine steps.optional selected fun _ => ?_
  split
  · exact steps.nothing ()
  · exact steps.nothing ()
  · exact steps.code fun target => steps.chain (steps.feature target (by decide) none) fun _ =>
      steps.status _

theorem laserOff : property (Emitter.laserOff options) :=
  steps.command (.laser (by simp [Options.cutterCommands])) _

variable (known : ∀ quantity ∈ options.quantities, admits quantity)
  (allowed : ∀ quantity ∈ options.places, ∀ number, quantity.toFloat .text = .ok number →
    allows number)

include known allowed

theorem settle : property (Emitter.settle options) := by
  have feedXY : admits options.rapidFeedXY := known _ (by simp [Options.quantities])
  have feedZ : admits options.rapidFeedZ := known _ (by simp [Options.quantities])
  refine steps.code fun target => steps.chain (steps.feature target (by decide) _) fun _ => ?_
  refine steps.chain (steps.feedLine (by simp [Options.rapidFeeds]) feedXY _) fun _ => ?_
  refine steps.optional (fun _ => steps.home .z (by simpa using feedZ)) fun _ => ?_
  refine steps.drive (by decide : [Axis.z.letter] ∈ rapidLetters) (fun place held => ?_)
    (fun place held => ?_) (by simp [Options.rapidFeeds]) feedZ _
  · exact known _ (by simp [Options.quantities, Option.mem_def.mp held])
  · exact allowed _ (by simp [Options.places, Option.mem_def.mp held])

theorem startup : property Emitter.startup := by
  have run (emitter : Emitter) (offset : Coordinates Quantity) (comments numbers : Bool)
      (same : emitter.options =
        { options.showing comments numbers with toolOffset := offset }) :
      Emitter.startup emitter =
        (Emitter.laserOff options >>= fun _ => Emitter.prepare options >>= fun _ =>
          Emitter.selectXY >>= fun _ => Emitter.settle options) emitter := by
    rw [startup_run, same]
    rfl
  refine steps.sameRun run (steps.chain steps.laserOff fun _ => ?_)
  refine steps.chain steps.prepare fun _ => steps.chain steps.selectXY fun _ => ?_
  exact steps.settle known allowed

theorem startSection {facts : Section}
    (selected : facts.isJet = true → property (selectMode facts.jetMode)) :
    property (Emitter.startSection facts) := by
  cases first : facts.isFirst with
  | true =>
      rw [startSection_first first]
      exact steps.chain (steps.startup known allowed) fun _ => steps.announce selected
  | false =>
      rw [startSection_later first]
      exact steps.announce selected

theorem park : property (Emitter.park options) := by
  have feedXY : admits options.rapidFeedXY := known _ (by simp [Options.quantities])
  have feedZ : admits options.rapidFeedZ := known _ (by simp [Options.quantities])
  have height : property (Emitter.drive .z options.endZ options.rapidFeedZ none) := by
    refine steps.drive (by decide) (fun place held => ?_) (fun place held => ?_)
      (by simp [Options.rapidFeeds]) feedZ none
    · exact known _ (by simp [Options.quantities, Option.mem_def.mp held])
    · exact allowed _ (by simp [Options.places, Option.mem_def.mp held])
  have depth : property (Emitter.drive .y options.endY options.rapidFeedXY none) := by
    refine steps.drive (by decide) (fun place held => ?_) (fun place held => ?_)
      (by simp [Options.rapidFeeds]) feedXY none
    · exact known _ (by simp [Options.quantities, Option.mem_def.mp held])
    · exact allowed _ (by simp [Options.places, Option.mem_def.mp held])
  rw [park_eq]
  refine steps.chain height fun _ => ?_
  refine steps.chain (steps.feedLine (by simp [Options.rapidFeeds]) feedXY none) fun _ => ?_
  exact steps.optional (fun _ => steps.home .x (by simp)) fun _ => depth

theorem endRun : property Emitter.endRun := by
  have run (emitter : Emitter) (offset : Coordinates Quantity) (comments numbers : Bool)
      (same : emitter.options =
        { options.showing comments numbers with toolOffset := offset }) :
      Emitter.endRun emitter =
        (Emitter.finishMoves >>= fun _ => Emitter.laserOff options >>= fun _ =>
          Emitter.park options >>= fun _ => Emitter.powerDown options) emitter := by
    rw [endRun_run, same]
    rfl
  refine steps.sameRun run (steps.chain steps.finishMoves fun _ => ?_)
  refine steps.chain steps.laserOff fun _ => steps.chain (steps.park known allowed) fun _ => ?_
  exact steps.powerDown

end Stepwise

/-- Such a property that the parts of a move have as well. It may be judged by the tool
offset too. -/
structure Travelwise (options : Options) (admits : Quantity → Prop) (allows : Float → Prop)
    (property : {α : Type} → Emission α → Prop) : Prop extends
    Stepwise options admits allows property where
  sameMove : ∀ {action other : Emission Unit}, (∀ emitter comments numbers,
      emitter.options = options.showing comments numbers → action emitter = other emitter) →
    property other → property action
  updatePosition : ∀ target, property (updatePosition target)
  shiftedTarget : ∀ target, property (fromResult (shiftedTarget options.toolOffset target))
  shifted : ∀ point, property (fromResult (shifted options.toolOffset point))

/-- Such a property that switching the laser has too. -/
structure Movewise (options : Options) (admits : Quantity → Prop) (allows : Float → Prop)
    (property : {α : Type} → Emission α → Prop) : Prop extends
    Travelwise options admits allows property where
  power : ∀ on, property (power on)

namespace Travelwise

open Stepwise

variable (steps : Travelwise options admits allows property)

include steps

/-- The words of a target, each at its turn. -/
theorem axisWords {target place : Coordinates (Option Float)}
    {next : Option String → Option String → Option String → Emission α}
    (found : Emitter.shiftedTarget options.toolOffset target = .ok place)
    (asked : ∀ value, Sends options.toolOffset target value → allows value)
    (later : ∀ x y z, Spells allows .x x → Spells allows .y y → Spells allows .z z →
      property (next x y z)) :
    property (do
      next (← Emitter.word .x place.x) (← Emitter.word .y place.y)
        (← Emitter.word .z place.z)) := by
  have sent (axis : Axis) : ∀ number ∈ place.get axis, allows number :=
    fun number given => asked number ⟨place, axis, found, given⟩
  refine steps.follow (steps.word .x _ false) fun _ x => ?_
  refine steps.follow (steps.word .y _ false) fun _ y => ?_
  refine steps.follow (steps.word .z _ false) fun _ z => ?_
  exact later _ _ _ (returns_word x (sent .x)) (returns_word y (sent .y)) (returns_word z (sent .z))

theorem linearLine {feed : Option Float} {x y z : Option String}
    (fed : ∀ rate ∈ feed, allows rate) (spelledX : Spells allows .x x)
    (spelledY : Spells allows .y y) (spelledZ : Spells allows .z z) :
    property (Emitter.linearLine feed x y z) := by
  refine branch (fun moves => ?_) fun _ => ?_
  · refine steps.follow (steps.word .f feed true) fun token given => ?_
    cases returns_feed given
    have spelled : List.Forall₂ (Spells allows) [Letter.x, .y, .z] [x, y, z] :=
      .cons spelledX (.cons spelledY (.cons spelledZ .nil))
    refine steps.command (.cut spelled ?_ fed) none
    simpa [or_assoc] using moves
  · refine steps.follow (steps.word .f feed false) fun token given => ?_
    refine branch (fun new => ?_) fun _ => steps.nothing ()
    obtain ⟨text, rfl⟩ := Option.isSome_iff_exists.mp new
    obtain ⟨rate, rfl, rfl⟩ := returns_newFeed given
    exact steps.command (.feed (fed rate rfl)) none

theorem linear {target : Coordinates (Option Float)} {feed : Option Float}
    (asked : ∀ value, Sends options.toolOffset target value → allows value)
    (fed : ∀ rate ∈ feed, allows rate) : property (Emitter.linear target feed) := by
  have run (emitter : Emitter) (comments numbers : Bool)
      (same : emitter.options = options.showing comments numbers) :
      Emitter.linear target feed emitter =
        (Emitter.updatePosition target >>= fun _ =>
          fromResult (Emitter.shiftedTarget options.toolOffset target) >>= fun place => do
            Emitter.linearLine feed (← Emitter.word .x place.x) (← Emitter.word .y place.y)
              (← Emitter.word .z place.z)) emitter := by
    have start : Emitter.linear target feed emitter =
        (Emitter.updatePosition target >>= fun _ =>
          fromResult (Emitter.shiftedTarget emitter.options.toolOffset target) >>= fun place => do
            Emitter.linearLine feed (← Emitter.word .x place.x) (← Emitter.word .y place.y)
              (← Emitter.word .z place.z)) emitter := rfl
    rw [start, same]
    rfl
  refine steps.sameMove run (steps.chain (steps.updatePosition target) fun _ => ?_)
  refine steps.follow (steps.shiftedTarget target) fun place found => ?_
  exact steps.axisWords (returns_result found) asked fun _ _ _ => steps.linearLine fed

theorem linearThrough {feed : Option Float} {points : List (Coordinates Float)}
    (asked : ∀ point ∈ points, ∀ value, Sends options.toolOffset (point.map some) value →
      allows value)
    (fed : ∀ rate ∈ feed, allows rate) : property (Emitter.linearThrough feed points) := by
  induction points with
  | nil => exact steps.nothing ()
  | cons point rest ih =>
      refine steps.chain (steps.linear (asked point (by simp)) fed) fun _ => ?_
      exact ih fun other member => asked other (by simp [member])

theorem offsetWords (offsets : Coordinates Float) (axes : List Axis) :
    property (Emitter.offsetWords offsets axes) := by
  induction axes with
  | nil => exact steps.nothing []
  | cons axis rest ih =>
      exact steps.chain (steps.word axis.offsetLetter _ true) fun _ =>
        steps.chain ih fun _ => steps.nothing _

theorem planarArc {move : ArcMove} {start : Coordinates Float} {plane : Plane}
    (asked : ∀ value, Bends options.toolOffset move start plane value → allows value) :
    property (Emitter.planarArc move start plane) := by
  have run (emitter : Emitter) (comments numbers : Bool)
      (same : emitter.options = options.showing comments numbers) :
      Emitter.planarArc move start plane emitter =
        (Emitter.updatePosition (move.finish.map some) >>= fun _ => do
          let center ← fromResult (Emitter.shifted options.toolOffset move.center)
          let start ← fromResult (Emitter.shifted options.toolOffset start)
          let finish ← fromResult (Emitter.shifted options.toolOffset move.finish)
          arcLine move plane (center.zipWith (· - ·) start) finish) emitter := by
    have start : Emitter.planarArc move start plane emitter =
        (Emitter.updatePosition (move.finish.map some) >>= fun _ => do
          let center ← fromResult (Emitter.shifted emitter.options.toolOffset move.center)
          let start ← fromResult (Emitter.shifted emitter.options.toolOffset start)
          let finish ← fromResult (Emitter.shifted emitter.options.toolOffset move.finish)
          arcLine move plane (center.zipWith (· - ·) start) finish) emitter := rfl
    rw [start, same]
    rfl
  refine steps.sameMove run (steps.chain (steps.updatePosition _) fun _ => ?_)
  refine steps.follow (steps.shifted move.center) fun center centered => ?_
  refine steps.follow (steps.shifted start) fun place begun => ?_
  refine steps.follow (steps.shifted move.finish) fun finish sent => ?_
  have ends (axis : Axis) : ∀ number ∈ some (finish.get axis), allows number := by
    rintro number ⟨⟩
    exact asked _ (.finish axis (returns_result sent))
  refine steps.follow (steps.planeCode plane false) fun _ selected => ?_
  refine steps.follow (steps.word .x _ false) fun _ x => ?_
  refine steps.follow (steps.word .y _ false) fun _ y => ?_
  refine steps.follow (steps.word .z _ false) fun _ z => ?_
  refine steps.follow (steps.offsetWords _ plane.axes) fun _ turned => ?_
  refine steps.follow (steps.word .f move.feed true) fun token given => ?_
  cases returns_feed given
  obtain ⟨centers, present⟩ := returns_offsetWords turned fun axis among => by
    rw [Coordinates.get_zipWith]
    exact asked _ (.center among (returns_result centered) (returns_result begun))
  exact steps.command (.arc (returns_planeCode selected) move.clockwise
    (.cons (returns_word x (ends .x)) (.cons (returns_word y (ends .y))
      (.cons (returns_word z (ends .z)) .nil))) centers present
    fun rate fed => asked rate (.feed fed)) none

theorem rapidLines {x y z : Option String}
    (known : ∀ quantity ∈ options.quantities, admits quantity) (spelledX : Spells allows .x x)
    (spelledY : Spells allows .y y) (spelledZ : Spells allows .z z) :
    property (Emitter.rapidLines options x y z) := by
  have feedXY : admits options.rapidFeedXY := known _ (by simp [Options.quantities])
  have feedZ : admits options.rapidFeedZ := known _ (by simp [Options.quantities])
  rw [rapidLines_eq]
  refine steps.chain (branch (fun moves => ?_) fun _ => steps.nothing ()) fun _ =>
    branch (fun moves => ?_) fun _ => steps.nothing ()
  · exact steps.rapidLine (by decide : [Letter.x, .y] ∈ rapidLetters)
      (.cons spelledX (.cons spelledY .nil)) (fun _ => by simpa using moves)
      (by simp [Options.rapidFeeds]) feedXY none
  · exact steps.rapidLine (by decide : [Letter.z] ∈ rapidLetters) (.cons spelledZ .nil)
      (fun _ => by simpa using moves) (by simp [Options.rapidFeeds]) feedZ none

theorem rapid (known : ∀ quantity ∈ options.quantities, admits quantity)
    {target : Coordinates (Option Float)}
    (asked : ∀ value, Sends options.toolOffset target value → allows value) :
    property (Emitter.rapid target) := by
  have run (emitter : Emitter) (comments numbers : Bool)
      (same : emitter.options = options.showing comments numbers) :
      Emitter.rapid target emitter =
        (Emitter.updatePosition target >>= fun _ =>
          fromResult (Emitter.shiftedTarget options.toolOffset target) >>= fun place => do
            Emitter.rapidLines options (← Emitter.word .x place.x) (← Emitter.word .y place.y)
              (← Emitter.word .z place.z)) emitter := by
    have start : Emitter.rapid target emitter =
        (Emitter.updatePosition target >>= fun _ =>
          fromResult (Emitter.shiftedTarget emitter.options.toolOffset target) >>= fun place => do
            Emitter.rapidLines emitter.options (← Emitter.word .x place.x)
              (← Emitter.word .y place.y) (← Emitter.word .z place.z)) emitter := rfl
    rw [start, same]
    rfl
  refine steps.sameMove run (steps.chain (steps.updatePosition target) fun _ => ?_)
  refine steps.follow (steps.shiftedTarget target) fun place found => ?_
  exact steps.axisWords (returns_result found) asked fun _ _ _ => steps.rapidLines known

end Travelwise

end Emission

end GantryCode
