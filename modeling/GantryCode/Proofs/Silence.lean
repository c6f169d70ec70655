import GantryCode.Proofs.Telling

namespace GantryCode

/-! Operations that tell the controller of no position and no feed rate.

Remarks are no commands, and the codes that a dialect has for its own features are not
moves. A message for the display may hold whatever words it likes.
-/

namespace Emitter

open Emission Reading

variable {options : Options} {emitter : Emitter}

section Remarks

def onWriter (change : Writer → Writer) (emitter : Emitter) : Emitter :=
  { emitter with writer := change emitter.writer }

theorem idle_push (emitter : Emitter) {line : Line} (flat : line.IsFlat)
    (wordless : words line.chars = []) :
    Idle emitter (emitter.onWriter (·.push line)) := by
  refine ⟨[line], ?_⟩
  exact
    { options := rfl
      mode := .inl rfl
      precision := rfl
      written := by simp [onWriter, Writer.push]
      flat := by simpa using flat
      slots := rfl
      position := rfl
      letters := fun registers => by
        change Registers.read registers line.chars = registers
        rw [Registers.read, wordless]
        rfl
      planes := fun held => by
        change readPlane held line.chars = held
        rw [readPlane, wordless]
        rfl }

theorem words_ofComment (text : Option String) : words (Line.ofComment text).chars = [] := by
  unfold Line.ofComment
  split
  · exact words_remark _
  · exact words_blank

theorem idle_lines (emitter : Emitter) (texts : List (Option String)) :
    Idle emitter (emitter.onWriter fun writer =>
      texts.foldl (fun writer text => writer.push (.ofComment text)) writer) := by
  induction texts generalizing emitter with
  | nil => exact idle_progress.refl emitter
  | cons text rest ih =>
      exact idle_progress.trans
        (idle_push emitter (Line.isFlat_ofComment text) (words_ofComment text))
        (ih (emitter.onWriter (·.push (Line.ofComment text))))

theorem idle_comment (emitter : Emitter) (comment : Comment) :
    Idle emitter (emitter.onWriter (·.comment comment)) := by
  unfold onWriter Writer.comment
  dsimp only
  split
  · cases comment with
    | blank => exact idle_push emitter Line.isFlat_blank words_blank
    | text text => exact idle_push emitter (Line.isFlat_ofComment _) (words_ofComment _)
    | lines texts => exact idle_lines emitter texts
  · exact idle_progress.refl emitter

theorem idle_comments (emitter : Emitter) (comments : List Comment) :
    Idle emitter (emitter.onWriter fun writer => comments.foldl Writer.comment writer) := by
  induction comments generalizing emitter with
  | nil => exact idle_progress.refl emitter
  | cons comment rest ih =>
      exact idle_progress.trans (idle_comment emitter comment)
        (ih (emitter.onWriter (·.comment comment)))

theorem idle_header (emitter : Emitter) (comment : Option Comment) :
    Idle emitter (emitter.onWriter (·.header comment)) := by
  let dated := emitter.onWriter (·.remark ("Creation date: " ++ emitter.writer.stamp))
  let named := dated.onWriter (·.remark ("Target machine: " ++
    (dated.writer.target.code? .description).getD "None"))
  let rounded := named.onWriter (·.remark ("Output precision: " ++
    Text.signedDecimal named.writer.precision))
  let measured := rounded.onWriter (·.remark "Units: mm")
  have toDated : Idle emitter dated := idle_comment _ _
  have toNamed : Idle dated named := idle_comment _ _
  have toExact : Idle named rounded := idle_comment _ _
  have toMeasured : Idle rounded measured := idle_comment _ _
  have toEnd := idle_comments measured
    (measured.writer.headerComments ++ comment.toList)
  have progress := idle_progress
  exact progress.trans toDated (progress.trans toNamed (progress.trans toExact
    (progress.trans toMeasured toEnd)))

theorem keeps_remark (text : String) :
    Keeps options Idle (updateWriter (·.remark text)) :=
  Keeps.change fun emitter _ => idle_comment emitter (.text text)

end Remarks

section Codes

variable {target : Target} {feature : Feature} {code : String}

theorem code_silent (found : target.code? feature = some code) : IsSilent (tokens code.toList) := by
  revert found
  cases target <;> cases feature <;> intro found <;> cases found <;> decide

theorem code_flat (found : target.code? feature = some code) :
    Text.IsFlat code.toList := by
  revert found
  cases target <;> cases feature <;> intro found <;> cases found <;> decide

theorem idle_code (found : target.code? feature = some code) (note : Option String) :
    Idle emitter (emitter.commanded [some code] note) := by
  refine idle_silent emitter note (commandBody_single_flat (code_flat found)) ?_
  rw [tokens_commandBody_single]
  exact code_silent found

theorem keeps_command_code (target : Target) (feature : Feature) (note : Option String) :
    Keeps options Idle (command [target.code? feature] note) := by
  intro emitter _
  cases found : target.code? feature with
  | none => exact idle_silent emitter note (by decide) (by decide)
  | some code => exact idle_code found note

theorem keeps_status (text : String) : Keeps options Idle (status text) := by
  refine Keeps.code fun target => ?_
  cases found : target.code? .statusMessage with
  | none => exact keeps_remark text
  | some message =>
      intro emitter _
      have display : message = Feature.statusMessage.usual := by
        cases target <;> cases found <;> rfl
      subst display
      refine idle_silent emitter none (commandBody_flat ?_) ?_
      · intro token present
        rcases List.mem_cons.mp present with same | present
        · cases same
          decide
        · rw [Option.some.inj (List.mem_singleton.mp present)]
          exact fun c member => Remark.clean_flat member
      · rw [tokens_commandBody_cons (by decide)]
        exact ⟨by simp [moveWords, isMove, isPlaneCode, Feature.usual, Plane.all, Plane.code],
          by simp [homingWords, Feature.usual], by simp [planeCodes],
          by simp [withoutNumber, isLineNumber, Feature.usual]⟩

theorem keeps_notify (notice : Notice) : Keeps options Idle (notify notice) :=
  Keeps.change fun _ _ => ⟨[], idles_nothing rfl (.inl rfl) rfl rfl rfl rfl⟩

theorem keeps_beep : Keeps options Idle beep := by
  refine Keeps.code fun target => ?_
  cases found : target.code? .beep with
  | none => exact Keeps.inspect fun emitter _ => keeps_notify _
  | some sound => exact fun emitter _ => idle_code found (some "Beep")

theorem cuttingMode_mem (options : Options) (mode : Int) :
    (cuttingMode options mode).command ∈ options.cutterCommands := by
  unfold cuttingMode
  split <;> simp [Options.cutterCommands]

theorem keeps_selectMode (mode : Int) : Keeps options Idle (selectMode mode) := by
  have chosen : Keeps options Idle (modify fun emitter =>
      { emitter with mode := cuttingMode emitter.options mode }) :=
    Keeps.change fun emitter _ =>
      ⟨[], idles_nothing rfl (.inr (cuttingMode_mem emitter.options mode)) rfl rfl rfl rfl⟩
  exact Keeps.chain idle_progress (Keeps.result idle_progress _) fun _ =>
    Keeps.optional idle_progress (fun _ => keeps_notify _) fun _ => chosen

theorem isToken_dwellWord (target : Target) {text : String}
    (number : Decimal.IsNumberText text) :
    IsToken ((target.code? .dwellParam).getD "" ++ text).toList := by
  have name : IsToken ((target.code? .dwellParam).getD "").toList := by cases target <;> decide
  refine ⟨by simp [name.1], fun c member => ?_⟩
  rw [String.toList_append] at member
  rcases List.mem_append.mp member with front | behind
  · exact name.2 c front
  · exact ⟨Decimal.isNumberChar_isBlank (number c behind),
      Decimal.isNumberChar_ne_semicolon (number c behind)⟩

theorem dwell_isToken (target other : Target) {text : String} (number : Decimal.IsNumberText text)
    {token : String} (present : some token ∈
      [target.code? .dwell, some ((other.code? .dwellParam).getD "" ++ text)]) :
    IsToken token.toList := by
  have code : target.code? .dwell = some "G4" := by cases target <;> rfl
  rw [code] at present
  rcases List.mem_cons.mp present with same | present
  · cases same
    decide
  · cases List.mem_singleton.mp present
    exact isToken_dwellWord other number

theorem tokens_dwell (target other : Target) {text : String} (number : Decimal.IsNumberText text) :
    tokens (commandBody
        [target.code? .dwell, some ((other.code? .dwellParam).getD "" ++ text)]).toList =
      ["G4".toList, ((other.code? .dwellParam).getD "" ++ text).toList] := by
  rw [tokens_commandBody fun _ => dwell_isToken target other number]
  cases target <;> rfl

theorem idle_dwell (target other : Target) {text : String}
    (number : Decimal.IsNumberText text) :
    Idle emitter (emitter.commanded
      [target.code? .dwell, some ((other.code? .dwellParam).getD "" ++ text)] (some "Dwell")) := by
  refine idle_silent emitter _
    (commandBody_flat fun _ present => (dwell_isToken target other number present).flat) ?_
  rw [tokens_dwell target other number]
  cases other <;>
    simp [IsSilent, moveWords, isMove, isPlaneCode, Plane.all, Plane.code, homingWords, planeCodes,
      withoutNumber, isLineNumber, Feature.usual, Target.code?, Target.ownCode?]

theorem keeps_dwell (seconds : Float) : Keeps options Idle (dwell seconds) := by
  have written (seconds : Float) : Keeps options Idle (do
      let name := (← Emitter.code .dwellParam).getD ""
      let text ← fromResult ((← get).writer.valueText false seconds)
      command [← Emitter.code .dwell, some (name ++ text)] (some "Dwell")) := by
    refine Keeps.code fun other => Keeps.inspect fun before _ => ?_
    refine Keeps.given idle_progress fun text shown => Keeps.code fun target => ?_
    exact fun emitter _ => idle_dwell target other (Writer.valueText_isNumberText shown)
  unfold dwell
  dsimp only
  cases (clampDwell seconds).2 with
  | none => exact written _
  | some notice =>
      exact Keeps.chain idle_progress (keeps_notify notice) fun _ => written _

end Codes

end Emitter

end GantryCode
