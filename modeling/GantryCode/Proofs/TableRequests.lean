import GantryCode.Proofs.SlotTable

namespace GantryCode.Writer

/-! The table of what was last written, under the requests of the users of a writer.

A request changes no slot but those that it names. A name that is refused changes nothing, but a
reset that stops has emptied the slots in front of the name. There are no other slots than those of
the letters and the plane, until a value is forced into a name of several letters or of none.
-/

/-- What a user asks of the table of a writer. -/
inductive Request where
  | param (name : String) (value : Option Float) (force : Bool)
  | modal (group code : String) (force : Bool)
  | reset (names : Option (List String))
  | precision (places : Int)

namespace Request

def run : Request → Writing Unit
  | .param name value force => discard (Writer.param name value force)
  | .modal group code force => discard (Writer.modal group code force)
  | .reset names => Writer.reset names
  | .precision places => modify (·.setPrecision places)

/-- The writer behind the request, whether it was granted or failed. -/
def leaves (request : Request) (writer : Writer) : Writer :=
  match request.run writer with
  | .ok _ after => after
  | .error _ after => after

def fault? (request : Request) (writer : Writer) : Option Fault :=
  match request.run writer with
  | .ok _ _ => none
  | .error fault _ => some fault

end Request

section Requests

variable {name : String} {key : Slots.Key} {writer : Writer}

namespace Request

/-- The slots that a request names. -/
def Touches : Request → Slots.Key → Prop
  | .param name _ _, key => paramKey? name = some key
  | .modal group _ _, key => group = Slots.planeGroup ∧ key = .plane
  | .reset none, _ => True
  | .reset (some names), key => ∃ name ∈ names, Slots.keyOf name = key
  | .precision _, _ => False

/-- The request forces a value that can be written into a name of several letters or of none. -/
def Opens (request : Request) (writer : Writer) (name : String) : Prop :=
  ∃ spelled value text, request = .param spelled (some value) true ∧
    paramKey? spelled = some (.stretch name) ∧ writer.namedText name value = .ok text

theorem run_of_ok {α : Type} {action : Writing α} {result : α} {after : Writer}
    (done : action writer = .ok result after) : discard action writer = .ok () after := by
  change EStateM.map (fun _ => ()) action writer = _
  rw [EStateM.map, done]

theorem run_of_error {α : Type} {action : Writing α} {fault : Fault} {after : Writer}
    (failed : action writer = .error fault after) : discard action writer = .error fault after := by
  change EStateM.map (fun _ => ()) action writer = _
  rw [EStateM.map, failed]

theorem leaves_of_ok {request : Request} {after : Writer}
    (done : request.run writer = .ok () after) : request.leaves writer = after := by
  rw [leaves, done]

theorem leaves_of_error {request : Request} {fault : Fault} {after : Writer}
    (failed : request.run writer = .error fault after) : request.leaves writer = after := by
  rw [leaves, failed]

theorem fault?_of_error {request : Request} {fault : Fault} {after : Writer}
    (failed : request.run writer = .error fault after) : request.fault? writer = some fault := by
  rw [fault?, failed]

theorem fault?_of_ok {request : Request} {after : Writer}
    (done : request.run writer = .ok () after) : request.fault? writer = none := by
  rw [fault?, done]

theorem run_refused (unknown : paramKey? name = none) (value : Option Float) (force : Bool)
    (writer : Writer) : (param name value force).run writer =
      .error (.undefinedParameter (Text.upper name)) writer :=
  run_of_error (param_refused unknown value force writer)

/-- What a request for a value with a name that is taken comes to. -/
theorem run_param (taken : paramKey? name = some key) (value : Float) (force : Bool)
    (writer : Writer) : (param name (some value) force).run writer =
      match writer.namedText (Text.upper name) value with
      | .error fault => .error fault writer
      | .ok text =>
          if isNews force (writer.slots.find? key) text then
            .ok () (writer.setSlot key (some text))
          else if (writer.slots.find? key).isNone then .error (.noSlot (Text.upper name)) writer
          else .ok () writer := by
  have ran := param_run taken value force writer
  cases shown : writer.namedText (Text.upper name) value with
  | error fault =>
      rw [shown] at ran
      exact run_of_error ran
  | ok text =>
      rw [shown] at ran
      dsimp only at ran ⊢
      split at ran
      · next news =>
          rw [if_pos news]
          exact run_of_ok ran
      · next known =>
          rw [if_neg known]
          split at ran
          · next absent =>
              rw [if_pos absent]
              exact run_of_error ran
          · next there =>
              rw [if_neg there]
              exact run_of_ok ran

/-- A value for a name that is taken cannot be written, or it is stored, or there is no slot to
compare it with, or the slot holds it. -/
theorem run_param_cases (taken : paramKey? name = some key) (value : Float) (force : Bool)
    (writer : Writer) :
    (∃ fault, writer.namedText (Text.upper name) value = .error fault ∧
        (param name (some value) force).run writer = .error fault writer) ∨
      (∃ text, writer.namedText (Text.upper name) value = .ok text ∧
        isNews force (writer.slots.find? key) text = true ∧
        (param name (some value) force).run writer = .ok () (writer.setSlot key (some text))) ∨
      (param name (some value) force).run writer = .error (.noSlot (Text.upper name)) writer ∨
      (param name (some value) force).run writer = .ok () writer := by
  rw [run_param taken]
  cases writer.namedText (Text.upper name) value with
  | error fault => exact .inl ⟨fault, rfl, rfl⟩
  | ok text =>
      dsimp only
      by_cases news : isNews force (writer.slots.find? key) text = true
      · rw [if_pos news]
        exact .inr (.inl ⟨text, rfl, news, rfl⟩)
      · rw [if_neg news]
        split
        · exact .inr (.inr (.inl rfl))
        · exact .inr (.inr (.inr rfl))

theorem run_param_none (taken : paramKey? name = some key) (force : Bool) (writer : Writer) :
    (param name none force).run writer = .ok () writer := by
  have ran : Writer.param name none force writer = .ok none writer := by
    cases named : Letter.ofName? (Text.upper name) with
    | some letter =>
        rw [param_letter named]
        rfl
    | none =>
        rw [paramKey?_unnamed named] at taken
        rw [param_unnamed named]
        split at taken
        · next stretch =>
            rw [if_pos stretch]
            rfl
        · cases taken
  exact run_of_ok ran

/-- A value that is forced into a name that is taken is stored. -/
theorem leaves_forced {value : Float} {text : String} (taken : paramKey? name = some key)
    (shown : writer.namedText (Text.upper name) value = .ok text) :
    (param name (some value) true).leaves writer = writer.setSlot key (some text) := by
  refine leaves_of_ok ?_
  rw [run_param taken, shown]
  rfl

/-- A value for a name is stored in its slot, or nothing changes. It is stored without force only
where there is a slot. -/
theorem leaves_param (name : String) (value : Option Float) (force : Bool) (writer : Writer) :
    (param name value force).leaves writer = writer ∨
      ∃ key given text, paramKey? name = some key ∧ value = some given ∧
        writer.namedText (Text.upper name) given = .ok text ∧
        (force = true ∨ (writer.slots.find? key).isSome = true) ∧
        (param name value force).leaves writer = writer.setSlot key (some text) := by
  cases taken : paramKey? name with
  | none => exact .inl (leaves_of_error (run_refused taken value force writer))
  | some key =>
      cases value with
      | none => exact .inl (leaves_of_ok (run_param_none taken force writer))
      | some given =>
          rcases run_param_cases taken given force writer with
            ⟨fault, -, ran⟩ | ⟨text, shown, news, ran⟩ | ran | ran
          · exact .inl (leaves_of_error ran)
          · have there : force = true ∨ (writer.slots.find? key).isSome = true := by
              rw [isNews, Bool.or_eq_true] at news
              refine news.imp_right fun other => ?_
              cases held : writer.slots.find? key with
              | none => rw [held] at other; cases other
              | some old => rfl
            exact .inr ⟨key, given, text, rfl, rfl, shown, there, leaves_of_ok ran⟩
          · exact .inl (leaves_of_error ran)
          · exact .inl (leaves_of_ok ran)

theorem leaves_modal (group code : String) (force : Bool) (writer : Writer) :
    (modal group code force).leaves writer = writer ∨
      group = Slots.planeGroup ∧
        (modal group code force).leaves writer = writer.setSlot .plane (some code) := by
  by_cases plane : group = Slots.planeGroup
  · subst plane
    have ran : Writer.modal Slots.planeGroup code force writer =
        if !force && writer.slots.plane == some code then .ok none writer
        else .ok (some code) (writer.setSlot .plane (some code)) := by
      rw [Writer.modal, if_pos rfl, planeCode, Emission.get_bind_apply]
      split <;> rfl
    split at ran
    · exact .inl (leaves_of_ok (run_of_ok ran))
    · exact .inr ⟨rfl, leaves_of_ok (run_of_ok ran)⟩
  · have ran : Writer.modal group code force writer = .error (.undefinedGroup group) writer := by
      rw [Writer.modal, if_neg plane]
      rfl
    have failed : (modal group code force).run writer = .error (.undefinedGroup group) writer :=
      run_of_error ran
    exact .inl (leaves_of_error failed)

theorem run_reset_stopped {front : List String}
    (known : ∀ known ∈ front, writer.slots.knows known = true)
    (unknown : writer.slots.knows name = false) (behind : List String) :
    (reset (some (front ++ name :: behind))).run writer =
      .error (.undefinedParameter name) { writer with slots := writer.slots.emptied front } := by
  change resetNames (front ++ name :: behind) writer = _
  rw [resetNames_append known]
  refine resetNames_unknown ?_ behind
  change ((writer.slots.emptied front).find? (Slots.keyOf name)).isSome = false
  rw [Slots.find?_emptied, if_neg]
  · exact unknown
  · rintro ⟨other, among, same⟩
    have found := known other among
    rw [Slots.knows, same] at found
    exact absurd (unknown.symm.trans found) (by decide)

theorem leaves_reset (names : List String) (writer : Writer) :
    ∃ front, front ⊆ names ∧ (∀ known ∈ front, writer.slots.knows known = true) ∧
      (reset (some names)).leaves writer = { writer with slots := writer.slots.emptied front } := by
  rcases reset_split writer.slots names with all | ⟨front, name, behind, rfl, before, unknown⟩
  · exact ⟨names, List.Subset.refl names, all, leaves_of_ok (resetNames_all all)⟩
  · exact ⟨front, List.subset_append_left _ _, before,
      leaves_of_error (run_reset_stopped before unknown behind)⟩

/-- A request leaves the slots alone that it does not name. -/
theorem find?_leaves (request : Request) (writer : Writer) {key : Slots.Key}
    (untouched : ¬request.Touches key) :
    (request.leaves writer).slots.find? key = writer.slots.find? key := by
  cases request with
  | param name value force =>
      rcases leaves_param name value force writer with
        same | ⟨other, _, text, taken, -, -, -, stored⟩
      · rw [same]
      · rw [stored]
        exact Slots.find?_store_of_ne _ _ fun same => untouched (same ▸ taken)
  | modal group code force =>
      rcases leaves_modal group code force writer with same | ⟨plane, stored⟩
      · rw [same]
      · rw [stored]
        exact Slots.find?_store_of_ne _ _ fun same => untouched ⟨plane, same⟩
  | reset names =>
      cases names with
      | none => exact absurd trivial untouched
      | some names =>
          obtain ⟨front, among, -, left⟩ := leaves_reset names writer
          rw [left]
          change (writer.slots.emptied front).find? key = _
          rw [Slots.find?_emptied, if_neg]
          rintro ⟨name, member, same⟩
          exact untouched ⟨name, among member, same⟩
  | precision places => rfl

theorem isSome_find?_kept (request : Request) (writer : Writer) {key : Slots.Key}
    (there : (writer.slots.find? key).isSome = true) :
    ((request.leaves writer).slots.find? key).isSome = true := by
  have kept (other : Slots.Key) (text : Option String) :
      ((writer.slots.store other text).find? key).isSome = true := by
    rw [Slots.isSome_find?_store, there, Bool.or_true]
  cases request with
  | param name value force =>
      rcases leaves_param name value force writer with same | ⟨other, _, text, -, -, -, -, stored⟩
      · rwa [same]
      · rw [stored]
        exact kept other (some text)
  | modal group code force =>
      rcases leaves_modal group code force writer with same | ⟨-, stored⟩
      · rwa [same]
      · rw [stored]
        exact kept .plane (some code)
  | reset names =>
      cases names with
      | none => exact (Slots.isSome_find?_cleared writer.slots key).trans there
      | some names =>
          obtain ⟨front, -, -, left⟩ := leaves_reset names writer
          rw [left]
          change ((writer.slots.emptied front).find? key).isSome = true
          rw [Slots.find?_emptied]
          split
          · rfl
          · exact there
  | precision places => exact there

/-- A request takes no slot away, and opens one only by forcing a value into a stretch. -/
theorem isSome_find?_leaves (request : Request) (writer : Writer) (key : Slots.Key) :
    ((request.leaves writer).slots.find? key).isSome = true ↔
      (writer.slots.find? key).isSome = true ∨
        ∃ name, key = .stretch name ∧ request.Opens writer name := by
  constructor
  · intro there
    by_cases touched : request.Touches key
    · cases request with
      | param name value force =>
          rcases leaves_param name value force writer with
            same | ⟨other, given, text, taken, rfl, shown, forced, -⟩
          · exact .inl (same ▸ there)
          · cases taken.symm.trans touched
            rcases forced with rfl | held
            · cases key with
              | letter letter => exact .inl rfl
              | plane => exact .inl rfl
              | stretch stretch =>
                  exact .inr ⟨stretch, rfl, name, given, text, rfl, taken,
                    (stretch_upper taken).1 ▸ shown⟩
            · exact .inl held
      | modal group code force =>
          obtain ⟨-, rfl⟩ := touched
          exact .inl rfl
      | reset names =>
          cases names with
          | none => exact .inl ((Slots.isSome_find?_cleared writer.slots key).symm.trans there)
          | some names =>
              obtain ⟨front, -, known, left⟩ := leaves_reset names writer
              rw [left] at there
              change ((writer.slots.emptied front).find? key).isSome = true at there
              rw [Slots.find?_emptied] at there
              split at there
              · next named =>
                  obtain ⟨name, among, rfl⟩ := named
                  exact .inl (known name among)
              · exact .inl there
      | precision places => exact .inl there
    · rw [find?_leaves request writer touched] at there
      exact .inl there
  · rintro (there | ⟨name, rfl, spelled, value, text, rfl, taken, shown⟩)
    · exact isSome_find?_kept request writer there
    · rw [leaves_forced taken ((stretch_upper taken).1.symm ▸ shown)]
      change ((writer.slots.store (.stretch name) (some text)).find? (.stretch name)).isSome = true
      rw [Slots.find?_store]
      rfl

end Request

/-- The writer behind a run of requests. One that fails leaves what it did until then, and the run
goes on. -/
def afterRequests (writer : Writer) (requests : List Request) : Writer :=
  requests.foldl (fun writer request => request.leaves writer) writer

/-- A request of the run forced a value into this name of several letters or of none. -/
def Opened (start : Writer) (requests : List Request) (name : String) : Prop :=
  ∃ front request behind, requests = front ++ request :: behind ∧
    request.Opens (start.afterRequests front) name

theorem valueText_fault {whole : Bool} {value : Float} {fault : Fault}
    (failed : writer.valueText whole value = .error fault) (name : String) :
    fault ≠ .undefinedParameter name := by
  rintro rfl
  unfold valueText at failed
  dsimp only at failed
  repeat' split at failed
  all_goals cases failed

namespace Request

variable {value : Float} {force : Bool}

/-- A value is refused for its name iff the name is not taken. -/
theorem fault?_param_iff (name : String) (value : Float) (force : Bool) (writer : Writer) :
    (param name (some value) force).fault? writer = some (.undefinedParameter (Text.upper name)) ↔
      paramKey? name = none := by
  cases taken : paramKey? name with
  | none => exact iff_of_true (fault?_of_error (run_refused taken (some value) force writer)) rfl
  | some key =>
      refine iff_of_false (fun refused => ?_) (by simp)
      rcases run_param_cases taken value force writer with
        ⟨fault, unwritten, ran⟩ | ⟨text, -, -, ran⟩ | ran | ran
      · rw [fault?_of_error ran] at refused
        exact valueText_fault unwritten _ (Option.some.inj refused)
      · rw [fault?_of_ok ran] at refused
        cases refused
      · rw [fault?_of_error ran] at refused
        cases refused
      · rw [fault?_of_ok ran] at refused
        cases refused

theorem paramKey?_eq_none_iff (unnamed : Letter.ofName? (Text.upper name) = none) :
    paramKey? name = none ↔ ¬(Text.upper name).toList <:+: parameterLetters := by
  rw [paramKey?_unnamed unnamed, ← isStretchOf_iff, isParameterName]
  split
  · next stretch => exact iff_of_false (by simp) (not_not.mpr stretch)
  · next apart => exact iff_of_true rfl apart

/-- Where there is no slot, a value changes the slots iff it opens one. -/
theorem slots_leaves_param_iff (unnamed : Letter.ofName? (Text.upper name) = none)
    (absent : writer.slots.find? (.stretch (Text.upper name)) = none) (value : Float)
    (force : Bool) :
    ((param name (some value) force).leaves writer).slots = writer.slots ↔
      ¬(param name (some value) force).Opens writer (Text.upper name) := by
  constructor
  · intro same opens
    have there := (isSome_find?_leaves (param name (some value) force) writer _).mpr
      (.inr ⟨Text.upper name, rfl, opens⟩)
    rw [same, absent] at there
    cases there
  · intro closed
    rcases leaves_param name (some value) force writer with
      same | ⟨key, given, text, taken, made, shown, forced, -⟩
    · rw [same]
    · have stretch : key = .stretch (Text.upper name) := by
        have found := taken
        rw [paramKey?_unnamed unnamed] at found
        split at found
        · exact (Option.some.inj found).symm
        · cases found
      subst stretch
      rw [absent] at forced
      rcases forced with rfl | held
      · cases made
        exact absurd ⟨name, value, text, rfl, taken, shown⟩ closed
      · cases held

end Request

theorem afterRequests_concat (start : Writer) (requests : List Request) (request : Request) :
    start.afterRequests (requests ++ [request]) =
      request.leaves (start.afterRequests requests) := by
  simp [afterRequests]

theorem opened_concat {start : Writer} {requests : List Request} {request : Request}
    {name : String} : Opened start (requests ++ [request]) name ↔
      Opened start requests name ∨ request.Opens (start.afterRequests requests) name := by
  constructor
  · rintro ⟨front, opening, behind, split, opens⟩
    rcases behind.eq_nil_or_concat with rfl | ⟨middle, last, rfl⟩
    · obtain ⟨rfl, same⟩ := List.append_inj' split rfl
      cases same
      exact .inr opens
    · rw [List.concat_eq_append, ← List.cons_append, ← List.append_assoc] at split
      obtain ⟨rfl, -⟩ := List.append_inj' split rfl
      exact .inl ⟨front, opening, middle, rfl, opens⟩
  · rintro (⟨front, opening, behind, rfl, opens⟩ | opens)
    · exact ⟨front, opening, behind ++ [request], by simp, opens⟩
    · exact ⟨requests, request, [], rfl, opens⟩

/-- Behind a run there are the slots that were there before it, and one for each name of several
letters or of none into which a value was forced. -/
theorem isSome_find?_afterRequests (start : Writer) (requests : List Request) (key : Slots.Key) :
    ((start.afterRequests requests).slots.find? key).isSome = true ↔
      (start.slots.find? key).isSome = true ∨
        ∃ name, key = .stretch name ∧ Opened start requests name := by
  induction requests using List.reverseRecOn with
  | nil => simp [afterRequests, Opened]
  | append_singleton requests request ih =>
      rw [afterRequests_concat, Request.isSome_find?_leaves, ih, or_assoc, ← exists_or]
      simp only [← and_or_left, opened_concat]

/-- Letters and the plane have slots from the start, and nothing else has. -/
theorem isSome_find?_start {target stamp : String} {start : Writer}
    (created : ofTargetName target stamp = .ok start) (key : Slots.Key) :
    (start.slots.find? key).isSome = true ↔ key.IsUsual := by
  have fresh : start.slots = {} := by
    rw [ofTargetName] at created
    split at created
    · cases created
      rfl
    · cases created
  rw [fresh]
  cases key with
  | letter letter => exact iff_of_true rfl trivial
  | plane => exact iff_of_true rfl trivial
  | stretch name => exact iff_of_false (by simp [Slots.find?]) id

/-- Behind any run of requests to a new writer there are the slots of the letters and the plane,
and one for each name of several letters or of none into which a value was forced. A value for a
name that is no single letter is refused iff the name is no stretch of the letters in their order,
and then nothing changes; for a stretch without a slot the slots change iff the value is forced and
can be written. A reset that comes to a name without a slot fails with that name, and has emptied
the slots in front of it, so nothing changes iff these were empty. No request changes a slot that
it does not name. -/
theorem slots_after_requests {target stamp : String} {start : Writer}
    (created : ofTargetName target stamp = .ok start) (requests : List Request) :
    let writer := start.afterRequests requests
    (∀ key, (writer.slots.find? key).isSome = true ↔
        key.IsUsual ∨ ∃ name, key = .stretch name ∧ Opened start requests name) ∧
      (∀ name value force, Letter.ofName? (Text.upper name) = none →
        let request := Request.param name (some value) force
        (request.fault? writer = some (.undefinedParameter (Text.upper name)) ↔
            ¬(Text.upper name).toList <:+: parameterLetters) ∧
          (¬(Text.upper name).toList <:+: parameterLetters → request.leaves writer = writer) ∧
          (writer.slots.find? (.stretch (Text.upper name)) = none →
            ((request.leaves writer).slots = writer.slots ↔
              ¬request.Opens writer (Text.upper name)))) ∧
      (∀ front name behind, (∀ known ∈ front, writer.slots.knows known = true) →
        writer.slots.knows name = false →
        let request := Request.reset (some (front ++ name :: behind))
        request.fault? writer = some (.undefinedParameter name) ∧
          request.leaves writer = { writer with slots := writer.slots.emptied front } ∧
          ((request.leaves writer).slots = writer.slots ↔
            ∀ known ∈ front, writer.slots.find? (Slots.keyOf known) = some none)) ∧
      ∀ (request : Request) key, ¬request.Touches key →
        (request.leaves writer).slots.find? key = writer.slots.find? key := by
  intro writer
  refine ⟨fun key => ?_, fun name value force unnamed => ⟨?_, fun apart => ?_, fun absent => ?_⟩,
    fun front name behind known unknown => ?_, fun request key => request.find?_leaves writer⟩
  · rw [isSome_find?_afterRequests, isSome_find?_start created]
  · rw [Request.fault?_param_iff, Request.paramKey?_eq_none_iff unnamed]
  · have refused := (Request.paramKey?_eq_none_iff unnamed).mpr apart
    exact Request.leaves_of_error (Request.run_refused refused (some value) force writer)
  · exact Request.slots_leaves_param_iff unnamed absent value force
  · have stopped := Request.run_reset_stopped known unknown behind
    have left := Request.leaves_of_error stopped
    refine ⟨Request.fault?_of_error stopped, left, ?_⟩
    rw [left, ← Slots.emptied_eq_self_iff]

/-- A value for a letter that is named in lower case, and a reset that comes to an unknown letter
behind it. -/
theorem reset_of_unknown_letter :
    let start : Writer := { target := .grbl, stamp := "" }
    let writer := start.afterRequests [.param "x" (some 1.5) false]
    let request := Request.reset (some ["x", "plane", "Q", "Y"])
    (ofTargetName "GRBL" "" = .ok start ∧
        (∀ known ∈ ["x", "plane"], writer.slots.knows known = true) ∧
        writer.slots.knows "Q" = false ∧
        ¬(Request.param "x" none true).Touches (.letter .y)) ∧
      writer.slots.find? (.letter .x) = some (some "1.5") ∧
      request.fault? writer = some (.undefinedParameter "Q") ∧
      request.leaves writer = { writer with slots := writer.slots.emptied ["x", "plane"] } ∧
      ((Request.param "x" none true).leaves writer).slots.find? (.letter .y) =
        writer.slots.find? (.letter .y) := by
  intro start writer request
  have created : ofTargetName "GRBL" "" = .ok start := by
    have named : Target.ofName? "GRBL" = some .grbl := by decide +kernel
    rw [ofTargetName, named]
  have known : ∀ known ∈ ["x", "plane"], writer.slots.knows known = true := by decide
  have unknown : writer.slots.knows "Q" = false := by decide
  have apart : ¬(Request.param "x" none true).Touches (.letter .y) := by
    change ¬paramKey? "x" = some (.letter .y)
    decide
  obtain ⟨-, -, resets, untouched⟩ :=
    slots_after_requests created [.param "x" (some 1.5) false]
  obtain ⟨failed, left, -⟩ := resets ["x", "plane"] "Q" ["Y"] known unknown
  exact ⟨⟨created, known, unknown, apart⟩, by decide, failed, left, untouched _ _ apart⟩

/-- A value that is forced into two letters opens a ninth slot, and a reset that fails has emptied
the slots in front of the unknown letter. -/
theorem stretch_opens_slot :
    let writer := ({ target := .marlin, stamp := "" } : Writer).afterRequests
      [.param "X" (some 1) false, .param "XY" (some 1) true]
    (Request.param "XY" (some 1) true).fault? { target := .marlin, stamp := "" } = none ∧
      writer.slots.find? (.stretch "XY") = some (some "1") ∧
      writer.slots.find? (.letter .x) = some (some "1") ∧
      (Request.reset (some ["X", "Q"])).fault? writer = some (.undefinedParameter "Q") ∧
      ((Request.reset (some ["X", "Q"])).leaves writer).slots.find? (.letter .x) = some none := by
  refine ⟨by decide, by decide, by decide, by decide, by decide⟩

end Requests

end GantryCode.Writer
