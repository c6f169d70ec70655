import GantryCode.Proofs.Completion
import GantryCode.Proofs.FreeText
import GantryCode.Proofs.NumberWords
import GantryCode.Proofs.PositiveWhole

namespace GantryCode

/-! The feed rates of rapid moves and of homing.

They come from the options alone and are written as whole numbers. Options are accepted if no
rapid feed rate is zero or below, which is about the number and not about its text: one of at
most one half is written as zero, and what is not finite as a word.
-/

open Decimal (IsFinite IsPositiveWhole)

open Emitter (feedWord)

namespace Reading

/-- The feed rates of a line that moves at rapid speed or sends home. -/
def rapidFeedWords : List (List Char) → List (List Char)
  | [] => []
  | code :: rest =>
      if code = "G0".toList ∨ code = Feature.home.usual.toList then
        rest.filter (·.head? == some 'F')
      else []

theorem feedWord_head (rate : Float) : ((feedWord rate).toList.head? == some 'F') = true := by
  rw [feedWord, String.toList_append]
  rfl

theorem rapidFeedWords_rated {code : List Char} {front : List (List Char)}
    (rapid : code = "G0".toList ∨ code = Feature.home.usual.toList)
    (others : front.filter (·.head? == some 'F') = []) (rate : Float) :
    rapidFeedWords (code :: (front ++ [(feedWord rate).toList])) = [(feedWord rate).toList] := by
  rw [rapidFeedWords, if_pos rapid, List.filter_append, others, List.nil_append,
    List.filter_eq_self]
  simpa using feedWord_head rate

/-- The letter with a positive whole number behind it. -/
def IsPositiveFeed (word : List Char) : Prop :=
  ∃ number, IsPositiveWhole number ∧ word = 'F' :: number

theorem isPositiveFeed_feedWord (rate : Float) :
    IsPositiveFeed (feedWord rate).toList ↔ IsFinite rate ∧ 0.5 < rate := by
  rw [← Decimal.rounded_isPositiveWhole_iff, feedWord, String.toList_append]
  constructor
  · rintro ⟨number, whole, same⟩
    cases same
    exact whole
  · exact fun whole => ⟨_, whole, rfl⟩

/-- Every rapid feed rate of the text is written as a positive whole number. -/
def HasPositiveFeeds (text : String) : Prop :=
  ∀ line ∈ Text.splitLines text.toList, ∀ word ∈ rapidFeedWords (words line), IsPositiveFeed word

end Reading

namespace Options

open Reading

/-- Every rapid feed rate that is a number is finite and above one half. -/
def RapidsAreFast (options : Options) : Prop :=
  ∀ feed ∈ options.rapidFeeds, ∀ rate, feed.toFloat .text = .ok rate → IsFinite rate ∧ 0.5 < rate

/-- The words of a line have one of the rapid feed rates, as a rapid move always has, or none. -/
inductive Rates (options : Options) (words : List (List Char)) : Prop where
  | unrated (still : words.head? ≠ some "G0".toList) (none : rapidFeedWords words = [])
  | rated {feed : Quantity} {rate : Float} (rapid : feed ∈ options.rapidFeeds)
      (found : feed.toFloat .text = .ok rate)
      (one : rapidFeedWords words = [(feedWord rate).toList])

theorem Rates.positive {options : Options} {words : List (List Char)} (rates : options.Rates words)
    (fast : options.RapidsAreFast) : ∀ word ∈ rapidFeedWords words, IsPositiveFeed word := by
  intro word member
  cases rates with
  | unrated _ none =>
      rw [none] at member
      cases member
  | rated rapid found one =>
      rw [one] at member
      rw [List.mem_singleton.mp member]
      exact (isPositiveFeed_feedWord _).mpr (fast _ rapid _ found)

theorem Rates.of_code {options : Options} {code : List Char} (rest : List (List Char))
    (still : code ≠ "G0".toList) (away : code ≠ Feature.home.usual.toList) :
    options.Rates (code :: rest) :=
  .unrated (fun same => still (Option.some.inj same)) (if_neg (not_or.mpr ⟨still, away⟩))

theorem Rates.nothing (options : Options) : options.Rates [] :=
  .unrated (by simp) rfl

end Options

namespace Spells

open Reading

variable {allows : Float → Prop} {letters : List Letter} {words : List (Option String)}

/-- The words of other letters are no feed rates. -/
theorem filter_feeds (spelled : List.Forall₂ (Spells allows) letters words)
    (others : Letter.f ∉ letters) :
    ((words.filterMap id).map String.toList).filter (·.head? == some 'F') = [] := by
  induction spelled with
  | nil => rfl
  | @cons letter token letters words spells _ ih =>
      obtain ⟨other, later⟩ := not_or.mp (List.mem_cons.not.mp others)
      cases token with
      | none => exact ih later
      | some text =>
          obtain ⟨value, places, -, rfl⟩ := spells text rfl
          have behind := ih later
          cases letter <;> first | exact absurd rfl other | simpa [Letter.name] using behind

end Spells

namespace IsPhrase

open Reading

variable {options : Options} {allows : Float → Prop} {given : List (Option String)}

theorem rates_laser (quiet : options.CuttersAreQuiet) {command : String}
    (among : command ∈ options.cutterCommands) : options.Rates (tokens command.toList) := by
  cases found : tokens command.toList with
  | nil => exact .nothing options
  | cons token rest =>
      have uncoded := startsCode_token (quiet.codeless _ among) found
      refine .of_code rest ?_ ?_ <;> rintro rfl <;> cases uncoded

theorem rates_coded {code : String} (rest : List (Option String)) (alone : IsToken code.toList)
    (unnumbered : isLineNumber code.toList = false) (still : code.toList ≠ "G0".toList)
    (away : code.toList ≠ Feature.home.usual.toList) :
    withoutNumber (tokens (commandBody (some code :: rest)).toList) =
        tokens (commandBody (some code :: rest)).toList ∧
      options.Rates (tokens (commandBody (some code :: rest)).toList) := by
  rw [tokens_commandBody_cons alone]
  exact ⟨by simp [withoutNumber, unnumbered], .of_code _ still away⟩

/-- The tokens of a command that moves at rapid speed. -/
theorem tokens_rapid {words : List (Option String)}
    (plain : ∀ token, some token ∈ words → IsWord token) (rate : Float) :
    tokens (commandBody (some "G0" :: (words ++ [some (feedWord rate)]))).toList = "G0".toList ::
      ((words.filterMap id).map String.toList ++ [(feedWord rate).toList]) := by
  have alone : ∀ token, some token ∈ words ++ [some (feedWord rate)] → IsToken token.toList := by
    intro token member
    rcases List.mem_append.mp member with early | late
    · exact (plain token early).isToken
    · cases List.mem_singleton.mp late
      exact (Emitter.feedWord_isWord rate).isToken
  rw [tokens_commandBody_cons (by decide), tokens_commandBody alone, List.filterMap_append,
    List.map_append]
  rfl

/-- A command has no line number in front, and its feed rate is that of the options where it
moves at rapid speed or sends home. -/
theorem rates (quiet : options.CuttersAreQuiet) (phrase : IsPhrase options allows given) :
    withoutNumber (tokens (commandBody given).toList) = tokens (commandBody given).toList ∧
      options.Rates (tokens (commandBody given).toList) := by
  cases phrase with
  | laser among =>
      rw [tokens_commandBody_single]
      exact ⟨withoutNumber_quiet (quiet.unnumbered _ among), rates_laser quiet among⟩
  | @feature target feature among =>
      have still : withoutNumber (tokens (commandBody [target.code? feature]).toList) =
          tokens (commandBody [target.code? feature]).toList ∧
          (tokens (commandBody [target.code? feature]).toList).head? ≠ some "G0".toList ∧
          rapidFeedWords (tokens (commandBody [target.code? feature]).toList) = [] := by
        simp only [Feature.commands, List.mem_cons, List.not_mem_nil, or_false] at among
        rcases among with rfl | rfl | rfl | rfl | rfl <;> cases target <;> decide
      exact ⟨still.1, .unrated still.2.1 still.2.2⟩
  | display shown text =>
      rw [message_code shown]
      exact rates_coded _ (by decide) (by decide) (by decide) (by decide)
  | @plane plane code selects =>
      cases code with
      | none => exact ⟨by decide, .nothing options⟩
      | some text =>
          rw [selects text rfl]
          refine rates_coded _ ?_ ?_ ?_ ?_ <;> cases plane <;> decide
  | @home target axis feed rated =>
      have code : target.code? .home = some "G28" := by cases target <;> rfl
      have named : IsToken axis.name.toList := by cases axis <;> decide
      have other : [axis.name.toList].filter (·.head? == some 'F') = [] := by cases axis <;> decide
      rw [code, tokens_commandBody_cons (by decide), tokens_commandBody_cons named]
      refine ⟨rfl, ?_⟩
      cases feed with
      | none =>
          have alone : rapidFeedWords ["G28".toList, axis.name.toList] = [] := by
            rw [rapidFeedWords, if_pos (.inr rfl), other]
          refine .unrated ?_ alone
          rintro ⟨⟩
      | some rate =>
          rw [tokens_commandBody fun token member => by
            cases List.mem_singleton.mp member
            exact (Emitter.feedWord_isWord rate).isToken]
          exact .rated (by simp [Options.rapidFeeds]) (rated rate rfl)
            (rapidFeedWords_rated (.inr rfl) other rate)
  | @rapid letters words feed rate among spelled moves rapid rated =>
      have others : ∀ letters ∈ rapidLetters, Letter.f ∉ letters := by decide
      rw [tokens_rapid (fun _ => Spells.words_isWord spelled)]
      exact ⟨rfl, .rated rapid rated
        (rapidFeedWords_rated (.inl rfl) (Spells.filter_feeds spelled (others _ among)) rate)⟩
  | @cut words feed spelled moves fed =>
      exact rates_coded _ (by decide) (by decide) (by decide) (by decide)
  | @feed rate fed => exact rates_coded _ (by decide) (by decide) (by decide) (by decide)
  | @arc plane planeCode words centers feed selects clockwise spelled centered given fed =>
      cases planeCode with
      | none =>
          rw [commandBody_none_cons]
          refine rates_coded _ ?_ ?_ ?_ ?_ <;> cases clockwise <;> decide
      | some code =>
          rw [selects code rfl]
          refine rates_coded _ ?_ ?_ ?_ ?_ <;> cases plane <;> decide
  | @dwell target other places seconds lasts =>
      have code : target.code? .dwell = some "G4" := by cases target <;> rfl
      rw [code]
      exact rates_coded _ (by decide) (by decide) (by decide) (by decide)

end IsPhrase

namespace Script

open Reading

variable {options : Options} {allows : Float → Prop} {script : List Phrase}

/-- Whatever is shown beside them, the feed rates of the lines are those of the commands. -/
theorem rates_lines (quiet : options.CuttersAreQuiet)
    (said : ∀ phrase ∈ script, phrase.IsSaid options allows) (comments numbers : Bool)
    (number : Nat) :
    ∀ line ∈ lines comments numbers number script, options.Rates (words line.chars) := by
  intro line member
  rcases mem_lines member with ⟨phrase, among, body, spoken, _, note, -, rfl⟩ | ⟨text, rfl⟩
  · cases phrase with
    | remark text => cases spoken
    | command tokens note =>
        obtain ⟨-, rfl⟩ := Phrase.body?_command spoken
        obtain ⟨unnumbered, rates⟩ := IsPhrase.rates quiet (said _ among)
        rw [words_command _ _ unnumbered]
        exact rates
  · rw [Emitter.words_ofComment]
    exact .nothing options

end Script

namespace Emitter

open Emission Reading

variable {options : Options} {stamp : String} {start : Emitter}

/-- Whatever is called, all that a new emitter says is of the known forms. -/
theorem said_after (created : create options stamp = .ok start) (calls : List Call) :
    ∃ script : List Phrase, (∀ phrase ∈ script, phrase.IsSaid options fun _ => True) ∧
      start.writer.Shows (start.after calls).writer script := by
  let rendition : Rendition := ⟨options, fun _ => True, Eq⟩
  obtain ⟨far, made, same⟩ := Rendition.create_match rendition created options.showComments
    options.showLineNumbers stamp
  cases created.symm.trans made
  have step {near far : Emitter} {call other : Call} (same : rendition.Match near far)
      (equal : call = other) :
      Ends Eq (rendition.Abreast near far) (obey call near) (obey other far) :=
    equal ▸ Rendition.ends_obey same (fun _ _ _ _ => trivial) fun _ _ _ _ => trivial
  have abreast : rendition.Abreast start start (start.after calls) (start.after calls) :=
    Rendition.abreast_after step (List.forall₂_eq_eq_eq ▸ rfl) same
  obtain ⟨script, _, shown, -, alike⟩ := abreast.said
  exact ⟨script, (Rendition.said_alike alike).1, shown⟩

theorem lines_after (created : create options stamp = .ok start)
    (cutters : ∀ command ∈ options.cutterCommands, Text.IsFlat command.toList) (calls : List Call) :
    Text.splitLines (start.after calls).writer.text.toList =
      (start.after calls).writer.written.toList.map Line.chars := by
  obtain ⟨script, said, shown⟩ := said_after created calls
  obtain ⟨written, -⟩ := shown.of_created created
  rw [Writer.text, written]
  exact Line.splitLines_joined (Script.isFlat_lines cutters said)

/-- The lines of any run rate what they rate by the options. -/
theorem rates_after (created : create options stamp = .ok start) (quiet : options.CuttersAreQuiet)
    (calls : List Call) :
    ∀ line ∈ Text.splitLines (start.after calls).writer.text.toList,
      options.Rates (words line) := by
  obtain ⟨script, said, shown⟩ := said_after created calls
  obtain ⟨written, -⟩ := shown.of_created created
  rw [lines_after created quiet.flat, written]
  intro chars member
  obtain ⟨line, among, rfl⟩ := List.mem_map.mp member
  exact Script.rates_lines quiet said _ _ _ line among

section Written

variable {emitter after : Emitter} {feed : Quantity} {rate : Float} {value : Float}

/-- The feed rate stands on one of the lines. -/
def WroteRate (emitter : Emitter) (rate : Float) : Prop :=
  ∃ line ∈ emitter.writer.written.toList,
    (feedWord rate).toList ∈ rapidFeedWords (words line.chars)

theorem wroteRate_rapidLine {given : List (Option String)} {note : Option String}
    (plain : ∀ token, some token ∈ given → IsWord token) (found : feed.toFloat .text = .ok rate)
    (returned : rapidLine given feed note emitter = .ok () after) : after.WroteRate rate := by
  have spoken := IsPhrase.tokens_rapid plain rate
  have run := rapidLine_run given feed note emitter
  rw [found, returned] at run
  cases run
  let slotted := emitter.withSlots (emitter.slots.accept .f (some (feedText rate)))
  obtain ⟨line, shown⟩ := Writer.exists_commandLine slotted.writer note
    (spoken ▸ List.cons_ne_nil _ _)
  refine ⟨line, ?_, ?_⟩
  · rw [(writes_command slotted _ note).written, shown]
    simp
  · rw [Writer.commandLine_words _ note (by rw [spoken]; rfl) shown, spoken, rapidFeedWords,
      if_pos (.inl rfl)]
    exact List.mem_filter.mpr ⟨by simp, feedWord_head rate⟩

theorem offerAxis_empty (texts : Coordinates (Option String)) (axis : Axis) :
    Slots.offerAxis {} texts axis = (texts.get axis).map (axis.name ++ ·) := by
  rw [Slots.offerAxis, Slots.offer]
  cases texts.get axis <;> cases axis <;> rfl

/-- The feed rate of a rapid move along the axis. -/
def rapidFeed (options : Options) : Axis → Quantity
  | .z => options.rapidFeedZ
  | _ => options.rapidFeedXY

/-- A target on one axis alone. -/
def along (axis : Axis) (value : Float) : Coordinates (Option Float) :=
  (⟨none, none, none⟩ : Coordinates (Option Float)).set axis (some value)

/-- A new emitter writes the feed rate of an axis when it is sent along it. -/
theorem wroteRate_along {axis : Axis} (fresh : emitter.slots = {})
    (found : (rapidFeed emitter.options axis).toFloat .text = .ok rate)
    (returned : rapid (along axis value) emitter = .ok () after) : after.WroteRate rate := by
  have run := rapid_run (along axis value) emitter
  rw [returned, fresh] at run
  cases shown : emitter.targetTexts (along axis value) with
  | error fault => rw [shown] at run; cases run
  | ok texts =>
      obtain ⟨point, -, lettered⟩ := targetTexts_point shown
      have number {axis : Axis} {text : String} (held : texts.get axis = some text) :
          IsWord (axis.name ++ text) :=
        ⟨axis.letter, text, rfl, Writer.axisTexts_isNumberText lettered held⟩
      have sent : (along axis value).get axis = some value := by cases axis <;> rfl
      obtain ⟨text, -, held⟩ := targetTexts_get shown sent
      have others (other : Axis) (apart : other ≠ axis) : texts.get other = none :=
        targetTexts_get_none shown (by cases axis <;> cases other <;> first | rfl | cases apart rfl)
      rw [shown] at run
      simp only [offerAxis_empty, rapidLines_eq] at run
      obtain ⟨_, middle, level, height⟩ := bind_ok run.symm
      cases axis with
      | x =>
          simp only [held, others .y (by decide), others .z (by decide)] at level height
          cases height
          exact wroteRate_rapidLine (by simpa using number held) found level
      | y =>
          simp only [held, others .x (by decide), others .z (by decide)] at level height
          cases height
          exact wroteRate_rapidLine (by simpa using number held) found level
      | z =>
          simp only [held, others .x (by decide), others .y (by decide)] at level height
          exact wroteRate_rapidLine (by simpa using number held) found height

/-- Every rapid feed rate that is a number is written by some run. -/
theorem exists_wroteRate (created : create options stamp = .ok start) (numbers : options.AreNumbers)
    (rapid : feed ∈ options.rapidFeeds) (found : feed.toFloat .text = .ok rate) :
    ∃ call, (start.after [call]).WroteRate rate := by
  obtain ⟨-, target, -, rfl⟩ := create_ok.mp created
  have can : CanWrite options (made options stamp target) :=
    ⟨⟨(by decide : (0 : Int) ≤ 3), (by decide : (3 : Int) ≤ Writer.precisionLimit)⟩, rfl⟩
  obtain ⟨axis, rfl⟩ : ∃ axis, feed = rapidFeed options axis := by
    simp only [Options.rapidFeeds, List.mem_cons, List.not_mem_nil, or_false] at rapid
    rcases rapid with rfl | rfl
    · exact ⟨.x, rfl⟩
    · exact ⟨.z, rfl⟩
  have completes : Completes options (perform (.rapid (along axis 0))) :=
    completes_perform numbers trivial (by simp)
  obtain ⟨_, after, returned, -⟩ := completes _ can
  refine ⟨.event (.rapid (along axis 0)), ?_⟩
  have same : (made options stamp target).after [.event (.rapid (along axis 0))] = after :=
    leaves_of_ok returned
  rw [same]
  exact wroteRate_along rfl found returned

end Written

/-- In any run, a line that moves at rapid speed has one of the rapid feed rates of the options,
and one that sends home has one or none. All of them are written as positive whole numbers if
those rates are finite and above one half. Otherwise some run writes another one, as long as
the options hold numbers. -/
theorem rapid_feeds_of_runs {options : Options} {stamp : String} {start : Emitter}
    (created : create options stamp = .ok start) (quiet : options.CuttersAreQuiet) :
    (∀ calls, ∀ line ∈ Text.splitLines (start.after calls).writer.text.toList,
      options.Rates (words line)) ∧
    (options.RapidsAreFast → ∀ calls, HasPositiveFeeds (start.after calls).writer.text) ∧
    (options.AreNumbers → (∀ calls, HasPositiveFeeds (start.after calls).writer.text) →
      options.RapidsAreFast) := by
  refine ⟨rates_after created quiet, ?_, ?_⟩
  · intro fast calls line among
    exact (rates_after created quiet calls line among).positive fast
  · intro numbers positive feed rapid rate found
    obtain ⟨call, line, among, word⟩ := exists_wroteRate created numbers rapid found
    refine (isPositiveFeed_feedWord rate).mp (positive [call] line.chars ?_ _ word)
    rw [lines_after created quiet.flat]
    exact List.mem_map_of_mem among

theorem rapid_feeds_of_startup :
    let options : Options :=
      { homeXStart := false, homeYStart := false, homeZStart := true, showComments := false }
    let start := fresh options
    let calls : List Call :=
      [.event (.startSection { isFirst := true }), .event (.rapid ⟨some 1, none, none⟩)]
    create options "" = .ok start ∧ options.CuttersAreQuiet ∧ options.RapidsAreFast ∧
      (start.after calls).writer.text =
        "M5\nG21\nG17\nG90\nG0 F3000\nG28 Z F300\nG0 X1 F3000\n" ∧
      HasPositiveFeeds (start.after calls).writer.text := by
  intro options start calls
  have created : create options "" = .ok start := create_fresh (by decide +kernel) rfl
  have quiet : options.CuttersAreQuiet := by constructor <;> decide +kernel
  have fast : options.RapidsAreFast := by
    simp only [options, Options.RapidsAreFast, Options.rapidFeeds, List.forall_mem_cons,
      List.not_mem_nil, false_implies, implies_true, and_true]
    constructor <;> rintro _ ⟨⟩ <;> decide +kernel
  refine ⟨created, quiet, fast, by decide +kernel, ?_⟩
  exact (rapid_feeds_of_runs created quiet).2.1 fast calls

/-- What is not a number is not below zero either, and what is above zero can be too small to
be written. -/
theorem stalled_rapid_is_written :
    let options : Options := { rapidFeedXY := .real (0 / 0), rapidFeedZ := .real 0.4 }
    let start := fresh options
    let text := (start.after [.event (.rapid ⟨some 1, none, some 1⟩)]).writer.text
    create options "" = .ok start ∧ options.CuttersAreQuiet ∧ text = "G0 X1 Fnan\nG0 Z1 F0\n" ∧
      "F0".toList ∈ rapidFeedWords (words "G0 Z1 F0".toList) ∧ ¬HasPositiveFeeds text := by
  intro options start text
  have shown : text = "G0 X1 Fnan\nG0 Z1 F0\n" := by decide +kernel
  have word : "F0".toList ∈ rapidFeedWords (words "G0 Z1 F0".toList) := by decide +kernel
  refine ⟨create_fresh (by decide +kernel) rfl, by constructor <;> decide +kernel, shown, word, ?_⟩
  rw [shown]
  intro positive
  obtain ⟨number, whole, same⟩ := positive "G0 Z1 F0".toList (by decide +kernel) _ word
  cases same
  exact absurd ((Decimal.isPositiveWhole_decimalDigits 0).mp whole) (by decide)

end Emitter

end GantryCode
