import GantryCode.Proofs.PlaneHistory
import GantryCode.Proofs.Memory

namespace GantryCode

/-! The words of an arc, and the plane that the controller is in when it reads them.

The words of the center are never left out, and their letters are those of the plane
that was asked for. The controller is in this plane unless the emitter only believes
that it had been told so, which takes an arc that was refused for its precision.
-/

namespace Reading

def isCenterWord (word : List Char) : Bool :=
  [Letter.i, Letter.j, Letter.k].any fun letter => letter.name.toList.isPrefixOf word

theorem isCenterWord_named (letter : Letter) (text : String) :
    isCenterWord (letter.name ++ text).toList = ([Letter.i, .j, .k].contains letter) := by
  cases letter <;> simp [isCenterWord, Letter.name, List.isPrefixOf]

end Reading

namespace Emitter

open Emission Reading

variable {options : Options} {emitter after : Emitter} {move : ArcMove} {plane : Plane}
  {offsets finish : Coordinates Float} {line : Line}

theorem planeCode_isMove (plane : Plane) : isMove plane.code.toList = false := by
  cases plane <;> decide

theorem IsWord.isMove {token : String} (word : IsWord token) : isMove token.toList = false := by
  obtain ⟨letter, text, rfl, -⟩ := word
  cases letter <;> simp [Reading.isMove, Letter.name]

theorem moveCodes_arc (heard : words line.chars = emitter.arcHeard move plane offsets finish) :
    (words line.chars).filter isMove = [(arcCode move).toList] := by
  have others : (((emitter.arcWords move plane offsets finish).filterMap id).map
      String.toList).filter isMove = [] := by
    refine List.filter_eq_nil_iff.mpr fun word member => ?_
    obtain ⟨token, present, rfl⟩ := List.mem_map.mp member
    have written := arcWords_isWord emitter move plane offsets finish token (by simpa using present)
    simp [IsWord.isMove written]
  have code := isMove_arcCode move
  rw [heard]
  rcases arcHeard_cases emitter move plane offsets finish with ⟨-, split⟩ | ⟨-, split⟩
  · rw [split, List.filter_cons_of_pos code, others]
  · rw [split, List.filter_cons_of_neg (by simp [planeCode_isMove]), List.filter_cons_of_pos code,
      others]

theorem centerWords_arc (heard : words line.chars = emitter.arcHeard move plane offsets finish) :
    (moveWords (words line.chars)).filter isCenterWord =
      plane.axes.map fun axis =>
        (axis.offsetLetter.name ++ emitter.placesText (offsets.get axis)).toList := by
  have axisWords : (((Axis.all.map (emitter.slots.offerAxis (emitter.arcTexts finish))).filterMap
      id).map String.toList).filter isCenterWord = [] := by
    refine List.filter_eq_nil_iff.mpr fun word member => ?_
    obtain ⟨token, present, rfl⟩ := List.mem_map.mp member
    obtain ⟨axis, -, offered⟩ := List.mem_map.mp (by simpa using present :
      some token ∈ Axis.all.map (emitter.slots.offerAxis (emitter.arcTexts finish)))
    obtain ⟨text, -, rfl⟩ := Slots.offer_eq_some offered
    rw [isCenterWord_named]
    cases axis <;> decide
  have feedWord : (([(move.feed.map feedText).map (Letter.f.name ++ ·)].filterMap id).map
      String.toList).filter isCenterWord = [] := by
    cases move.feed with
    | none => rfl
    | some rate =>
        refine List.filter_eq_nil_iff.mpr fun word member => ?_
        cases List.mem_singleton.mp member
        exact ne_of_eq_of_ne (isCenterWord_named .f _) (by decide)
  have centerWords : ((Slots.forcedWords (emitter.centerFigures offsets plane.axes)).filterMap
      id).map String.toList = plane.axes.map fun axis =>
        (axis.offsetLetter.name ++ emitter.placesText (offsets.get axis)).toList := by
    simp [Slots.forcedWords, centerFigures, List.filterMap_map, Function.comp_def]
  have kept : (plane.axes.map fun axis =>
      (axis.offsetLetter.name ++
        emitter.placesText (offsets.get axis)).toList).filter isCenterWord =
      plane.axes.map fun axis =>
        (axis.offsetLetter.name ++ emitter.placesText (offsets.get axis)).toList := by
    refine List.filter_eq_self.mpr fun word member => ?_
    obtain ⟨axis, -, rfl⟩ := List.mem_map.mp member
    rw [isCenterWord_named]
    cases axis <;> decide
  rw [moveWords_arc emitter move plane offsets finish heard, arcWords, List.filterMap_append,
    List.filterMap_append, List.map_append, List.map_append, List.filter_append,
    List.filter_append, axisWords, feedWord, centerWords, kept]
  simp

theorem told_select (planes : Planes) (plane : Plane) :
    (planes.select plane).told = some plane ↔
      (planes.asked = some plane → planes.told = some plane) := by
  unfold Planes.select
  split
  · next asked => simp [asked]
  · next other => simp [other]

theorem Holds.lastPlane {planes : Planes} (holds : Holds options emitter planes) :
    Reading.lastPlane emitter.writer.text = planes.told.map Plane.code := by
  rw [Writer.text, lastPlane_joined holds.flat, holds.read]

/-- The texts of the center of an arc that ends well are those of the places that the
controller sees. -/
theorem circular_words (serves : Serves options emitter) (inPlane : move.plane = some plane)
    (returned : perform (.circular move) emitter = .ok () after) :
    ∃ (line : Line) (begin center first : Coordinates Float) (texts : Axis → String),
      emitter.added (.event (.circular move)) = [line] ∧
      (move.start <|> emitter.position.complete?) = some begin ∧
      shifted options.toolOffset move.center = .ok center ∧
      shifted options.toolOffset begin = .ok first ∧
      (∀ axis : Axis, emitter.writer.valueText axis.offsetLetter.isWhole
        (center.get axis - first.get axis) = .ok (texts axis)) ∧
      (words line.chars).filter isMove = [(if move.clockwise then "G2" else "G3").toList] ∧
      (moveWords (words line.chars)).filter isCenterWord =
        plane.axes.map (fun axis => (axis.offsetLetter.name ++ texts axis).toList) := by
  obtain ⟨begin, offsets, finish, line, known, figures, possible, -, cuts⟩ :=
    circular_cuts inPlane returned
  obtain ⟨center, first, centered, begun, -, rfl⟩ := arcFigures_ok figures
  rw [serves.options] at centered begun
  have writes := (told_sentTo emitter (move.finish.map some)).toWrites.trans
    cuts.moves.tells.toWrites
  have same : leaves (obey (.event (.circular move))) emitter = after := leaves_of_ok returned
  have written : emitter.added (.event (.circular move)) = [line] :=
    added_of_writes (by rw [same]; exact writes)
  refine ⟨line, begin, center, first,
    fun axis => emitter.placesText (center.get axis - first.get axis), written, known, centered,
    begun, fun axis => ?_, moveCodes_arc cuts.words, ?_⟩
  · have fraction : axis.offsetLetter.isWhole = false := by cases axis <;> rfl
    rw [fraction]
    exact valueText_of_possible possible _
  · rw [centerWords_arc cuts.words]
    simp only [Coordinates.get_zipWith]
    rfl

theorem Holds.told_circular {planes : Planes} (holds : Holds options emitter planes)
    (inPlane : move.plane = some plane)
    (returned : perform (.circular move) emitter = .ok () after) :
    Holds options after (planes.select plane) := by
  obtain ⟨begin, _, _, _, known, figures, possible, -, -⟩ := circular_cuts inPlane returned
  have planned : emitter.arcPlane move = some plane := by
    simp [arcPlane, hasFigures, known, figures, inPlane, Except.isOk, Except.toBool]
  have allowed : emitter.refuses (.event (.circular move)) = false := by
    simp [refuses, possible]
  have ended : Emitter.circular move emitter = .ok () after := returned
  have later := holds.circular move
  rw [planned, allowed, leaves_of_ok ended] at later
  exact later

/-- After any run, an arc that ends well is one line with the code of its direction and
the two words of its center in its plane. The last plane code of the text up to this
line is that of its plane unless the emitter takes the plane to be told already and is
wrong; so it is behind the end of a section with the usual plane. As long as no arc was
refused for its precision, the emitter is right. -/
theorem planes_after_run {options : Options} {stamp : String} {start : Emitter}
    (created : create options stamp = .ok start) (planeless : options.CuttersArePlaneless)
    (calls : List Call) :
    let before := start.after calls
    let planes := start.planes {} calls
    Reading.lastPlane before.writer.text = planes.told.map Plane.code ∧
    (∀ move plane after, move.plane = some plane →
      perform (.circular move) before = .ok () after →
      ∃ (line : Line) (begin center first : Coordinates Float) (texts : Axis → String),
        before.added (.event (.circular move)) = [line] ∧
        (move.start <|> before.position.complete?) = some begin ∧
        shifted options.toolOffset move.center = .ok center ∧
        shifted options.toolOffset begin = .ok first ∧
        (∀ axis : Axis, before.writer.valueText axis.offsetLetter.isWhole
          (center.get axis - first.get axis) = .ok (texts axis)) ∧
        (words line.chars).filter isMove = [(if move.clockwise then "G2" else "G3").toList] ∧
        (moveWords (words line.chars)).filter isCenterWord =
          plane.axes.map (fun axis => (axis.offsetLetter.name ++ texts axis).toList) ∧
        (Reading.lastPlane after.writer.text = some plane.code ↔
          (planes.asked = some plane → planes.told = some plane))) ∧
    (∀ after, perform .endSection before = .ok () after →
      (Reading.lastPlane after.writer.text = some Plane.xy.code ↔
        (planes.asked = some .xy → planes.told = some .xy))) ∧
    (start.refusesNone calls = true → planes.Agree) := by
  intro before planes
  have holds : Holds options before planes :=
    (create_isFresh created).holds.run planeless calls
  refine ⟨holds.lastPlane, fun move plane after inPlane returned => ?_, fun after returned => ?_,
    fun allowed => ?_⟩
  · obtain ⟨line, begin, center, first, texts, written, known, centered, begun, shown, code,
      others⟩ := circular_words holds.toServes inPlane returned
    refine ⟨line, begin, center, first, texts, written, known, centered, begun, shown, code,
      others, ?_⟩
    rw [(holds.told_circular inPlane returned).lastPlane, Plane.map_code_eq]
    exact told_select planes plane
  · have later := holds.endSection
    have ended : endSection before = .ok () after := returned
    rw [leaves_of_ok ended] at later
    rw [later.lastPlane, Plane.map_code_eq]
    exact told_select planes .xy
  · exact agree_planes (fun _ asked => by cases asked) allowed

/-- A quarter of a circle around the origin. -/
def quarter (plane : Plane) : ArcMove where
  center := ⟨0, 0, 0⟩
  finish := ⟨1, 0, 1⟩
  feed := some 100
  plane := some plane
  start := some ⟨0, 0, 0⟩

theorem plane_of_repeated_arc :
    let again := Event.circular (quarter .zx)
    let start := fresh {}
    create {} "" = .ok start ∧ Options.CuttersArePlaneless {} ∧
      start.refusesNone [.event again] = true ∧
      ∃ after, perform again (start.after [.event again]) = .ok () after ∧
        after.writer.text = "G18 G3 X1 Y0 Z1 I0 K0 F100\nG3 I0 K0 F100\n" ∧
        Reading.lastPlane after.writer.text = some "G18" := by
  intro again start
  have created : create {} "" = .ok start := create_fresh (by decide +kernel) rfl
  have planeless : Options.CuttersArePlaneless {} := by constructor <;> decide +kernel
  have allowed : start.refusesNone [.event again] = true := by decide +kernel
  have ended : endsWell (perform again) (start.after [.event again]) = true := by decide +kernel
  obtain ⟨-, arcs, -, agree⟩ := planes_after_run created planeless [.event again]
  obtain ⟨_, _, _, _, _, -, -, -, -, -, -, -, selected⟩ :=
    arcs (quarter .zx) .zx _ rfl (ok_of_endsWell ended)
  exact ⟨created, planeless, allowed, _, ok_of_endsWell ended, by decide +kernel,
    selected.mpr (agree allowed .zx)⟩

/-- Behind an arc that was refused for its precision, the same arc is written without
the code of its plane. -/
theorem plane_behind_refused_arc :
    let arc := Event.circular (quarter .zx)
    let before := (fresh {}).after [.precision 2147483648, .event arc, .precision 3]
    create {} "" = .ok (fresh {}) ∧ endsWell (perform arc) before = true ∧
      (leaves (perform arc) before).writer.text = "G3 X1 Y0 Z1 I0 K0 F100\n" ∧
      Reading.lastPlane (leaves (perform arc) before).writer.text ≠ some "G18" := by
  intro arc before
  refine ⟨create_fresh (by decide +kernel) rfl, ?_, ?_, ?_⟩ <;> decide +kernel

end Emitter

end GantryCode
