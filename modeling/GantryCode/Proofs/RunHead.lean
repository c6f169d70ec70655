import GantryCode.Proofs.Phases

namespace GantryCode

/-! The head of a run.

It consists of remarks: the date, what is written and how, the size of the bed, the tool
offset if there is one, and the comment on the run. Either all of them are written but for
the first, or none.
-/

namespace Writer

variable (writer : Writer)

/-- The lines of some remarks, where remarks are shown. -/
def remarkLines (texts : List String) : List Line :=
  if writer.showComments then texts.map fun text => .ofComment (some text) else []

theorem remarkLines_append (first second : List String) :
    writer.remarkLines (first ++ second) =
      writer.remarkLines first ++ writer.remarkLines second := by
  unfold remarkLines
  split <;> simp

theorem foldl_comment (texts : List String) :
    (texts.map Comment.text).foldl Writer.comment writer =
      { writer with written := writer.written ++ writer.remarkLines texts } := by
  induction texts generalizing writer with
  | nil => simp [remarkLines]
  | cons text rest ih =>
      rw [List.map_cons, List.foldl_cons, ih]
      cases shown : writer.showComments <;> simp [comment, remarkLines, push, shown]

theorem remark_eq (text : String) :
    writer.remark text = { writer with written := writer.written ++ writer.remarkLines [text] } :=
  foldl_comment writer [text]

/-- What every head has in front of its own remarks. -/
def headTexts : List String :=
  ["Creation date: " ++ writer.stamp,
    "Target machine: " ++ (writer.target.code? .description).getD "None",
    "Output precision: " ++ Text.signedDecimal writer.precision, "Units: mm"]

theorem header_texts {texts : List String} (held : writer.headerComments = texts.map .text)
    (comment : Option String) :
    writer.header (comment.map .text) =
      { writer with
        written := writer.written ++
          writer.remarkLines (writer.headTexts ++ texts ++ comment.toList) } := by
  have comments : writer.headerComments ++ (comment.map Comment.text).toList =
      (texts ++ comment.toList).map .text := by
    rw [held, List.map_append]
    cases comment <;> rfl
  unfold header
  simp only [remark_eq]
  rw [comments, foldl_comment]
  cases shown : writer.showComments <;> simp [remarkLines, headTexts, shown]

def pointText (words : List (String × Quantity)) : Except Fault String := do
  return " ".intercalate (← words.mapM fun (name, quantity) => do
    return name ++ (← writer.valueText false (← quantity.toFloat .text)))

end Writer

namespace Options

def sizeWords (options : Options) : List (String × Quantity) :=
  [("X", options.bedX), ("Y", options.bedY)]

def offsetWords (options : Options) : List (String × Quantity) :=
  [("X", options.toolOffset.x), ("Y", options.toolOffset.y), ("Z", options.toolOffset.z)]

end Options

namespace Emitter

open Emission

variable {emitter : Emitter} {size place : String}

theorem pointText_run (words : List (String × Quantity)) (emitter : Emitter) :
    pointText words emitter =
      match emitter.writer.pointText words with
      | .ok text => .ok text emitter
      | .error fault => .error fault emitter := by
  unfold pointText Writer.pointText
  rw [get_bind_apply, fromResult, ofExcept_bind_apply]
  cases (words.mapM fun (name, quantity) => do
    return name ++ (← emitter.writer.valueText false (← quantity.toFloat .text)) :
    Except Fault (List String)) <;> rfl

def firstTexts : List String :=
  ["Generated by laserpost " ++ version]

def withHeader (emitter : Emitter) (texts : List String) : Emitter :=
  { emitter with writer := { emitter.writer with headerComments := texts.map .text } }

/-- The emitter behind the first remark of a run. -/
def begun (emitter : Emitter) : Emitter :=
  { emitter with
    writer :=
      { emitter.writer with
        headerComments := []
        written := emitter.writer.written ++ emitter.writer.remarkLines firstTexts } }

/-- The lines of a head that has some remarks of its own. -/
def headLines (emitter : Emitter) (texts : List String) (comment : Option String) : List Line :=
  emitter.writer.remarkLines
    (firstTexts ++ (emitter.writer.headTexts ++ texts ++ comment.toList))

/-- The emitter behind the head of a run. -/
def headed (emitter : Emitter) (texts : List String) (comment : Option String) : Emitter :=
  { emitter with
    writer :=
      { emitter.writer with
        headerComments := texts.map .text
        slots := emitter.writer.slots.cleared
        written := emitter.writer.written ++ emitter.headLines texts comment } }

/-- The size of the bed is remarked in any case, the tool offset if there is one. -/
theorem startRun_sized (comment : Option String) (emitter : Emitter) :
    startRun comment emitter =
      (pointText emitter.options.sizeWords >>= fun size =>
        addHeaderComment ("Bed size: " ++ size) >>= fun _ =>
          if isOffset emitter.options.toolOffset then
            pointText emitter.options.offsetWords >>= fun place =>
              addHeaderComment ("Tool offset: " ++ place) >>= fun _ =>
                updateWriter (·.header (comment.map .text)) >>= fun _ =>
                  updateWriter Writer.forgetAll
          else
            updateWriter (·.header (comment.map .text)) >>= fun _ =>
              updateWriter Writer.forgetAll) emitter.begun := by
  have first : emitter.begun =
      { emitter with
        writer :=
          { emitter.writer.remark ("Generated by laserpost " ++ version) with
            headerComments := [] } } := by
    rw [Writer.remark_eq]
    rfl
  rw [first]
  rfl

theorem startRun_error {fault : Fault} (comment : Option String)
    (failed : emitter.writer.pointText emitter.options.sizeWords = .error fault) :
    startRun comment emitter = .error fault emitter.begun := by
  have run := pointText_run emitter.options.sizeWords emitter.begun
  have same : emitter.begun.writer.pointText emitter.options.sizeWords = .error fault := failed
  rw [same] at run
  rw [startRun_sized]
  exact bind_of_error run

theorem header_run (emitter : Emitter) (texts : List String) (comment : Option String) :
    (updateWriter (·.header (comment.map .text)) >>= fun _ => updateWriter Writer.forgetAll)
        (emitter.begun.withHeader texts) = .ok () (emitter.headed texts comment) := by
  let start := emitter.begun.withHeader texts
  have run : (updateWriter (·.header (comment.map .text)) >>= fun _ =>
      updateWriter Writer.forgetAll) start =
      .ok () { start with writer := (start.writer.header (comment.map .text)).forgetAll } := rfl
  have lines : start.writer.written ++
      start.writer.remarkLines (start.writer.headTexts ++ texts ++ comment.toList) =
      emitter.writer.written ++ emitter.headLines texts comment := by
    change emitter.writer.written ++ emitter.writer.remarkLines firstTexts ++
      emitter.writer.remarkLines (emitter.writer.headTexts ++ texts ++ comment.toList) = _
    refine Array.toList_inj.mp ?_
    simp [headLines, Writer.remarkLines_append]
  rw [run, Writer.header_texts start.writer rfl comment, lines]
  rfl

theorem startRun_plain (comment : Option String)
    (sized : emitter.writer.pointText emitter.options.sizeWords = .ok size)
    (plain : isOffset emitter.options.toolOffset = false) :
    startRun comment emitter = .ok () (emitter.headed ["Bed size: " ++ size] comment) := by
  have run := pointText_run emitter.options.sizeWords emitter.begun
  have same : emitter.begun.writer.pointText emitter.options.sizeWords = .ok size := sized
  rw [same] at run
  rw [startRun_sized, bind_of_ok run, plain]
  exact header_run emitter ["Bed size: " ++ size] comment

/-- A tool offset that cannot be written ends the head behind its first remark. -/
theorem startRun_unplaced {fault : Fault} (comment : Option String)
    (sized : emitter.writer.pointText emitter.options.sizeWords = .ok size)
    (offset : isOffset emitter.options.toolOffset = true)
    (failed : emitter.writer.pointText emitter.options.offsetWords = .error fault) :
    startRun comment emitter = .error fault (emitter.begun.withHeader ["Bed size: " ++ size]) := by
  have run := pointText_run emitter.options.sizeWords emitter.begun
  have same : emitter.begun.writer.pointText emitter.options.sizeWords = .ok size := sized
  rw [same] at run
  have measured := pointText_run emitter.options.offsetWords
    (emitter.begun.withHeader ["Bed size: " ++ size])
  have sameToo : (emitter.begun.withHeader ["Bed size: " ++ size]).writer.pointText
      emitter.options.offsetWords = .error fault := failed
  rw [sameToo] at measured
  rw [startRun_sized, bind_of_ok run, offset]
  exact (bind_of_error measured).trans rfl

theorem startRun_offset (comment : Option String)
    (sized : emitter.writer.pointText emitter.options.sizeWords = .ok size)
    (offset : isOffset emitter.options.toolOffset = true)
    (placed : emitter.writer.pointText emitter.options.offsetWords = .ok place) :
    startRun comment emitter =
      .ok () (emitter.headed ["Bed size: " ++ size, "Tool offset: " ++ place] comment) := by
  have run := pointText_run emitter.options.sizeWords emitter.begun
  have same : emitter.begun.writer.pointText emitter.options.sizeWords = .ok size := sized
  rw [same] at run
  have measured := pointText_run emitter.options.offsetWords
    (emitter.begun.withHeader ["Bed size: " ++ size])
  have sameToo : (emitter.begun.withHeader ["Bed size: " ++ size]).writer.pointText
      emitter.options.offsetWords = .ok place := placed
  rw [sameToo] at measured
  rw [startRun_sized, bind_of_ok run, offset]
  refine (bind_of_ok measured).trans ?_
  exact header_run emitter ["Bed size: " ++ size, "Tool offset: " ++ place] comment

/-- The head of a run comes to the same end wherever values are written alike. -/
theorem startRun_alike {near far : Emitter} (options : far.options = near.options)
    (shown : far.writer.pointText = near.writer.pointText) (comment : Option String) :
    ∃ texts, (∃ fault, startRun comment near = .error fault (near.begun.withHeader texts) ∧
        startRun comment far = .error fault (far.begun.withHeader texts)) ∨
      startRun comment near = .ok () (near.headed texts comment) ∧
        startRun comment far = .ok () (far.headed texts comment) := by
  have size : far.writer.pointText far.options.sizeWords =
      near.writer.pointText near.options.sizeWords := by rw [shown, options]
  have place : far.writer.pointText far.options.offsetWords =
      near.writer.pointText near.options.offsetWords := by rw [shown, options]
  have shift : isOffset far.options.toolOffset = isOffset near.options.toolOffset := by
    rw [options]
  cases sized : near.writer.pointText near.options.sizeWords with
  | error fault =>
      exact ⟨[], .inl ⟨fault, startRun_error comment sized,
        startRun_error comment (size.trans sized)⟩⟩
  | ok text =>
      cases shifts : isOffset near.options.toolOffset with
      | false =>
          exact ⟨_, .inr ⟨startRun_plain comment sized shifts,
            startRun_plain comment (size.trans sized) (shift.trans shifts)⟩⟩
      | true =>
          cases placed : near.writer.pointText near.options.offsetWords with
          | error fault =>
              exact ⟨_, .inl ⟨fault, startRun_unplaced comment sized shifts placed,
                startRun_unplaced comment (size.trans sized) (shift.trans shifts)
                  (place.trans placed)⟩⟩
          | ok text =>
              exact ⟨_, .inr ⟨startRun_offset comment sized shifts placed,
                startRun_offset comment (size.trans sized) (shift.trans shifts)
                  (place.trans placed)⟩⟩

end Emitter

end GantryCode
