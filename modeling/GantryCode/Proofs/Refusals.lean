import GantryCode.Proofs.EventSchema

namespace GantryCode

/-! What an object is refused for that is no event.

An event needs its fields to hold certain values, and they are read in a certain order. The
first need that is not met decides. If it is one of numbers, and numbers are there, but an
integer among them is too large for a double, then the object is not refused as a bad event:
the conversion fails in its own way. So does the look-up of a name that is a list or an
object, and so does the refusal itself where it cannot show the name or the plane that it
refuses.
-/

/-- What reading an object can end in besides a refusal. -/
def Fault.isSlip : Fault → Bool
  | .integerTooLarge | .integerTextTooLong | .shownTooDeep | .listAsName | .objectAsName => true
  | _ => false

namespace Event

theorem textOf_error {platform : Platform} {value : Value} {fault : Fault}
    (unshown : textOf platform value = .error fault) : fault.isSlip = true := by
  unfold textOf at unshown
  cases shown : value.asText platform.showDepth with
  | ok text =>
      rw [shown] at unshown
      cases unshown
  | error obstacle =>
      rw [shown] at unshown
      cases unshown
      cases obstacle <;> rfl

def IsOversized (value : Value) : Prop :=
  ∃ n, value = .int n ∧ Decimal.floatOfInt? n = none

/-- What an event needs of an object, and the slips that happen on the way to a need that is
not met. -/
structure Need where
  met : Value → Prop
  slips : Value → Fault → Prop := fun _ _ => False
  apart : ∀ value fault, slips value fault → ¬met value := by simp
  alone : ∀ value fault other, slips value fault → slips value other → fault = other := by simp
  kind : ∀ value fault, slips value fault → fault.isSlip = true := by simp

namespace Need

/-- How the reading of a need fails: with a slip, or as that of an object that is no event. -/
def FailsWith (need : Need) (value : Value) (fault : Fault) : Prop :=
  need.slips value fault ∨ (∀ slip, ¬need.slips value slip) ∧ ∃ reason, fault = .event none reason

/-- A field with a certain kind of value, numbers and planes aside. -/
def field {α : Type} (name : String) (holds : Option Value → α → Prop) : Need where
  met value := ∃ meaning, holds (value.field? name) meaning

/-- No name but the known ones is good for an event. -/
def known : Need where
  met _ := False

theorem not_numeral {value : Value} {x : Float} (large : IsOversized value) : ¬Numeral value x := by
  obtain ⟨n, rfl, large⟩ := large
  rintro ⟨⟩
  simp_all

/-- The field of a name is there and too large for what is needed. -/
structure Overflows (oversized : Value → Prop) (name : String) (value : Value) (fault : Fault) :
    Prop where
  given : ∃ given, value.field? name = some given ∧ oversized given
  fault : fault = .integerTooLarge

theorem Overflows.alone {oversized : Value → Prop} {name : String} (value : Value)
    (fault other : Fault) (first : Overflows oversized name value fault)
    (second : Overflows oversized name value other) : fault = other :=
  first.fault.trans second.fault.symm

theorem Overflows.kind {oversized : Value → Prop} {name : String} (value : Value) (fault : Fault)
    (slips : Overflows oversized name value fault) : fault.isSlip = true :=
  slips.fault ▸ rfl

def number (name : String) : Need where
  met value := ∃ x, Optional Numeral (value.field? name) x
  slips := Overflows IsOversized name
  apart := by
    rintro value _ ⟨⟨given, present, large⟩, -⟩ ⟨x, stands⟩
    rw [present] at stands
    cases stands with
    | null => exact nomatch large
    | given means => exact not_numeral large means
  alone := Overflows.alone
  kind := Overflows.kind

def requiredNumber (name : String) : Need where
  met value := ∃ x, Required Numeral (value.field? name) x
  slips := (number name).slips
  apart := by
    rintro value fault slips ⟨x, stands⟩
    exact (number name).apart value fault slips ⟨some x, required_iff.mp stands⟩
  alone := (number name).alone
  kind := (number name).kind

/-- Three numbers, not all of which are small enough. -/
def IsOversizedTriple (value : Value) : Prop :=
  ∃ first second third, value = .list [first, second, third] ∧
    (∀ part ∈ [first, second, third], isNumber part = true) ∧
    ∃ part ∈ [first, second, third], IsOversized part

theorem not_triple {value : Value} {point : Coordinates Float} (large : IsOversizedTriple value) :
    ¬Triple value point := by
  obtain ⟨first, second, third, rfl, -, part, member, large⟩ := large
  rintro ⟨x, y, z⟩
  simp only [List.mem_cons, List.not_mem_nil, or_false] at member
  rcases member with rfl | rfl | rfl
  · exact not_numeral large x
  · exact not_numeral large y
  · exact not_numeral large z

def point (name : String) : Need where
  met value := ∃ point, Optional Triple (value.field? name) point
  slips := Overflows IsOversizedTriple name
  apart := by
    rintro value _ ⟨⟨given, present, large⟩, -⟩ ⟨x, stands⟩
    rw [present] at stands
    cases stands with
    | null =>
        obtain ⟨_, _, _, list, -⟩ := large
        cases list
    | given means => exact not_triple large means
  alone := Overflows.alone
  kind := Overflows.kind

def requiredPoint (name : String) : Need where
  met value := ∃ point, Required Triple (value.field? name) point
  slips := (point name).slips
  apart := by
    rintro value fault slips ⟨x, stands⟩
    exact (point name).apart value fault slips ⟨some x, required_iff.mp stands⟩
  alone := (point name).alone
  kind := (point name).kind

/-- The plane of an arc. One that is unknown is shown, if that can be done. -/
def plane (platform : Platform) : Need where
  met value := ∃ plane, Defaulted Planar (some .xy) (value.field? "plane") plane
  slips value fault := ∃ given, value.field? "plane" = some given ∧ given ≠ .null ∧
    textOf platform given = .error fault
  apart := by
    rintro value fault ⟨given, present, shaped, unshown⟩ ⟨plane, stands⟩
    rw [present] at stands
    cases stands with
    | given means =>
        cases means with
        | null => exact shaped rfl
        | named => cases unshown
  alone := by
    rintro value fault other ⟨_, present, -, unshown⟩ ⟨_, again, -, unshownToo⟩
    cases present.symm.trans again
    cases unshown.symm.trans unshownToo
    rfl
  kind := fun _ _ ⟨_, _, _, unshown⟩ => textOf_error unshown

/-- The axis of an arc, which has to be there if the arc is in no principal plane. -/
def axis : Need where
  met value := ∃ axis, Optional Triple (value.field? "normal") axis ∧
    (Defaulted Planar (some .xy) (value.field? "plane") none → axis ≠ none)
  slips := (point "normal").slips
  apart := by
    rintro value fault slips ⟨axis, stands, -⟩
    exact (point "normal").apart value fault slips ⟨axis, stands⟩
  alone := (point "normal").alone
  kind := (point "normal").kind

end Need

open Need

/-- What the event of a name needs, in the order in which it is looked for. -/
def needs (platform : Platform) : String → List Need
  | "start_run" => [field "comment" (Optional Textual)]
  | "start_section" => [field "jet_mode" (Defaulted Integer 0),
      field "is_first" (Defaulted Flag false), field "is_jet" (Defaulted Flag true),
      field "comment" (Optional Textual)]
  | "end_section" => []
  | "dwell" => [requiredNumber "seconds"]
  | "power" => [field "on" (Required Flag)]
  | "rapid" => [number "x", number "y", number "z"]
  | "linear" => [number "x", number "y", number "z", requiredNumber "feed"]
  | "circular" => [plane platform, axis,
      field "clockwise" (Defaulted Flag false), requiredPoint "center", requiredPoint "end",
      requiredNumber "feed", point "start"]
  | "end_run" => []
  | _ => [known]

/-- The first need that the object does not meet ends in a slip. -/
def Slips (value : Value) (fault : Fault) : List Need → Prop
  | [] => False
  | need :: rest => need.slips value fault ∨ need.met value ∧ Slips value fault rest

/-- A result of reading an object: the needs are met, or it is refused, or there is a slip. -/
inductive Verdict (value : Value) (needs : List Need) {α : Type} : Except Fault α → Prop where
  | met {result : α} (all : ∀ need ∈ needs, need.met value) : Verdict value needs (.ok result)
  | refused {reason : EventFault} (unmet : ∃ need ∈ needs, ¬need.met value)
      (proper : ∀ fault, ¬Slips value fault needs) :
      Verdict value needs (.error (.event none reason))
  | slipped {fault : Fault} (slips : Slips value fault needs) : Verdict value needs (.error fault)

namespace Verdict

variable {α β : Type} {value : Value} {need : Need} {needs : List Need} {read : Except Fault α}
variable {fault : Fault}

theorem not_slips (all : ∀ need ∈ needs, need.met value) : ¬Slips value fault needs := by
  induction needs with
  | nil => exact id
  | cons need rest ih =>
      rintro (slips | ⟨-, later⟩)
      · exact need.apart value fault slips (all need (List.mem_cons_self ..))
      · exact ih (fun other member => all other (List.mem_cons_of_mem _ member)) later

theorem slips_alone {other : Fault} (slips : Slips value fault needs)
    (too : Slips value other needs) : fault = other := by
  induction needs with
  | nil => exact slips.elim
  | cons need rest ih =>
      rcases slips with slips | ⟨met, later⟩ <;> rcases too with too | ⟨metToo, laterToo⟩
      · exact need.alone value fault other slips too
      · exact absurd metToo (need.apart value fault slips)
      · exact absurd met (need.apart value other too)
      · exact ih later laterToo

theorem isSlip (slips : Slips value fault needs) : fault.isSlip = true := by
  induction needs with
  | nil => exact slips.elim
  | cons need rest ih => exact slips.elim (need.kind value fault) fun later => ih later.2

theorem error_of_slips (verdict : Verdict value needs read) (slips : Slips value fault needs) :
    read = .error fault := by
  cases verdict with
  | met all => exact absurd slips (not_slips all)
  | refused unmet proper => exact absurd slips (proper fault)
  | slipped too => rw [slips_alone too slips]

theorem unmet (missed : ¬need.met value) (fails : need.FailsWith value fault) :
    Verdict value [need] (.error fault : Except Fault α) := by
  rcases fails with slips | ⟨proper, reason, rfl⟩
  · exact .slipped (.inl slips)
  · refine .refused ⟨need, by simp, missed⟩ ?_
    rintro slip (slips | ⟨-, ⟨⟩⟩)
    exact proper slip slips

/-- One need is met exactly if there is a result, which is then what is read. -/
theorem single {holds : α → Prop} (means : need.met value ↔ ∃ result, holds result)
    (accepts : ∀ result, read = .ok result ↔ holds result)
    (fails : ∀ fault, read = .error fault → need.FailsWith value fault) :
    Verdict value [need] read := by
  cases ended : read with
  | ok result =>
      have met : need.met value := means.mpr ⟨result, (accepts result).mp ended⟩
      exact .met (by simpa using met)
  | error fault =>
      refine unmet (fun met => ?_) (fails fault ended)
      obtain ⟨result, stands⟩ := means.mp met
      cases ended.symm.trans ((accepts result).mpr stands)

theorem slips_append (front rest : List Need) :
    Slips value fault (front ++ rest) ↔
      Slips value fault front ∨ (∀ need ∈ front, need.met value) ∧ Slips value fault rest := by
  induction front with
  | nil => simp [Slips]
  | cons need front ih =>
      rw [List.cons_append, Slips, Slips, ih, List.forall_mem_cons]
      tauto

/-- What is read one after the other: the first need that is not met decides. -/
theorem chain {front : List Need} {next : α → Except Fault β} (first : Verdict value front read)
    (later : ∀ result, read = .ok result → Verdict value needs (next result)) :
    Verdict value (front ++ needs) (read >>= next) := by
  cases first with
  | @met result all =>
      have rest := later result rfl
      change Verdict value (front ++ needs) (next result)
      generalize next result = outcome at rest ⊢
      cases rest with
      | met others => exact .met (List.forall_mem_append.mpr ⟨all, others⟩)
      | refused unmet proper =>
          obtain ⟨need, member, missed⟩ := unmet
          refine .refused ⟨need, List.mem_append_right _ member, missed⟩ fun fault slips => ?_
          rcases (slips_append front needs).mp slips with early | ⟨-, late⟩
          · exact not_slips all early
          · exact proper fault late
      | slipped slips => exact .slipped ((slips_append front needs).mpr (.inr ⟨all, slips⟩))
  | refused unmet proper =>
      obtain ⟨need, member, missed⟩ := unmet
      refine .refused ⟨need, List.mem_append_left _ member, missed⟩ fun fault slips => ?_
      rcases (slips_append front needs).mp slips with early | ⟨all, -⟩
      · exact proper fault early
      · exact missed (all need member)
  | slipped slips => exact .slipped ((slips_append front needs).mpr (.inl slips))

theorem map (verdict : Verdict value needs read) (change : α → β) :
    Verdict value needs (read.map change) := by
  cases verdict with
  | met all => exact .met all
  | refused unmet proper => exact .refused unmet proper
  | slipped slips => exact .slipped slips

end Verdict

section Readers

variable {α : Type} {value : Value} {name : String}

theorem toFloat_error {fault : Fault} (failed : toFloat value = .error fault) :
    IsOversized value ∧ fault = .integerTooLarge := by
  unfold toFloat at failed
  split at failed
  · next n =>
      split at failed
      · cases failed
      · next large =>
          cases failed
          exact ⟨⟨n, rfl, large⟩, rfl⟩
  · cases failed
  · cases failed

/-- A field is read as it should be, or refused. -/
theorem verdict_field {holds : Option Value → α → Prop} {read : Except Fault α}
    (accepts : ∀ meaning, read = .ok meaning ↔ holds (value.field? name) meaning)
    (refuses : ∀ fault, read = .error fault → ∃ reason, fault = .event none reason) :
    Verdict value [field name holds] read :=
  Verdict.single Iff.rfl accepts fun fault failed => .inr ⟨fun _ => id, refuses fault failed⟩

theorem verdict_text : Verdict value [field name (Optional Textual)] (readText value name) := by
  refine verdict_field (fun _ => readText_iff) fun fault failed => ?_
  unfold readText at failed
  split at failed <;> cases failed
  exact ⟨_, rfl⟩

theorem readFlag_error {default : Option Bool} {fault : Fault}
    (failed : readFlag value name default = .error fault) :
    ∃ reason, fault = .event none reason := by
  unfold readFlag at failed
  split at failed <;> cases failed
  exact ⟨_, rfl⟩

theorem verdict_flag (usual : Bool) :
    Verdict value [field name (Defaulted Flag usual)] (readFlag value name (some usual)) :=
  verdict_field (fun _ => readFlag_defaulted) fun _ => readFlag_error

theorem verdict_requiredFlag :
    Verdict value [field name (Required Flag)] (readFlag value name none) :=
  verdict_field (fun _ => readFlag_required) fun _ => readFlag_error

theorem verdict_jetMode :
    Verdict value [field "jet_mode" (Defaulted Integer 0)] (readJetMode value) := by
  refine verdict_field (fun _ => readJetMode_iff) fun fault failed => ?_
  unfold readJetMode at failed
  split at failed <;> cases failed
  exact ⟨_, rfl⟩

theorem readPlane_error {platform : Platform} {fault : Fault}
    (failed : readPlane platform value = .error fault) :
    (plane platform).FailsWith value fault := by
  unfold readPlane at failed
  split at failed
  · cases failed
  · cases failed
  · next given shaped present =>
      cases shown : textOf platform given with
      | error slip =>
          rw [shown] at failed
          cases failed
          exact .inl ⟨given, present, fun null => shaped (null ▸ rfl), shown⟩
      | ok text =>
          refine .inr ⟨?_, ?_⟩
          · rintro slip ⟨again, same, -, unshown⟩
            cases present.symm.trans same
            cases shown.symm.trans unshown
          · rw [shown] at failed
            dsimp only [bind, Except.bind] at failed
            split at failed <;> cases failed
            exact ⟨_, rfl⟩

theorem verdict_plane {platform : Platform} :
    Verdict value [plane platform] (readPlane platform value) :=
  Verdict.single Iff.rfl (fun _ => readPlane_iff) fun _ => readPlane_error

theorem readNumber_error {fault : Fault} (failed : readNumber value name = .error fault) :
    (number name).FailsWith value fault := by
  unfold readNumber at failed
  split at failed
  · cases failed
  · next given kept =>
      obtain ⟨present, -⟩ := given?_eq_some kept
      split at failed
      · cases ended : toFloat given with
        | ok x => simp [ended, Except.map] at failed
        | error cause =>
            obtain ⟨large, rfl⟩ := toFloat_error ended
            rw [ended] at failed
            cases failed
            exact .inl ⟨⟨given, present, large⟩, rfl⟩
      · next wrong =>
          cases failed
          refine .inr ⟨?_, _, rfl⟩
          rintro _ ⟨⟨other, same, n, rfl, -⟩, -⟩
          cases present.symm.trans same
          exact wrong rfl

theorem verdict_number : Verdict value [number name] (readNumber value name) :=
  Verdict.single Iff.rfl (fun _ => readNumber_iff) fun _ => readNumber_error

/-- What has to be there is read as what may be absent. It fails as that does, and where there
is nothing. -/
theorem required_error (need : Need) {optional : Except Fault (Option α)}
    {next : Option α → Except Fault α} {missing : EventFault} {fault : Fault}
    (failed : optional >>= next = .error fault) (kept : ∀ x, next (some x) = .ok x)
    (lost : next none = reject missing)
    (met : ∀ found, optional = .ok found → need.met value)
    (fails : ∀ cause, optional = .error cause → need.FailsWith value cause) :
    need.FailsWith value fault := by
  cases optional with
  | error =>
      cases failed
      exact fails fault rfl
  | ok found =>
      cases found with
      | some x => cases (kept x).symm.trans failed
      | none =>
          cases lost.symm.trans failed
          exact .inr ⟨fun slip slips => need.apart value slip slips (met none rfl), missing, rfl⟩

theorem verdict_requiredNumber :
    Verdict value [requiredNumber name] (requireNumber value name) :=
  Verdict.single Iff.rfl (fun _ => requireNumber_iff) fun _ failed =>
    required_error (number name) failed (fun _ => rfl) rfl
      (fun found ended => ⟨found, readNumber_iff.mp ended⟩) fun _ => readNumber_error

/-- The first of three numbers that is too large is what their conversion fails for. -/
theorem triple_error {first second third : Value} {fault : Fault}
    (failed : (do
      .ok (some (⟨← toFloat first, ← toFloat second, ← toFloat third⟩ : Coordinates Float))) =
        .error fault) :
    ∃ part ∈ [first, second, third], IsOversized part ∧ fault = .integerTooLarge := by
  cases x : toFloat first with
  | error =>
      rw [x] at failed
      cases failed
      exact ⟨first, by simp, toFloat_error x⟩
  | ok _ =>
      cases y : toFloat second with
      | error =>
          rw [x, y] at failed
          cases failed
          exact ⟨second, by simp, toFloat_error y⟩
      | ok _ =>
          cases z : toFloat third with
          | error =>
              rw [x, y, z] at failed
              cases failed
              exact ⟨third, by simp, toFloat_error z⟩
          | ok _ =>
              rw [x, y, z] at failed
              cases failed

theorem readPoint_error {fault : Fault} (failed : readPoint value name = .error fault) :
    (point name).FailsWith value fault := by
  unfold readPoint at failed
  split at failed
  · cases failed
  · next first second third kept =>
      obtain ⟨present, -⟩ := given?_eq_some kept
      split at failed
      · next numbers =>
          simp only [Bool.and_eq_true] at numbers
          have parts : ∀ part ∈ [first, second, third], isNumber part = true := by
            simpa [and_assoc] using numbers
          obtain ⟨part, member, large, rfl⟩ := triple_error failed
          exact .inl ⟨⟨_, present, first, second, third, rfl, parts, part, member, large⟩, rfl⟩
      · next wrong =>
          cases failed
          refine .inr ⟨?_, _, rfl⟩
          rintro _ ⟨⟨other, same, a, b, c, rfl, numbers, -⟩, -⟩
          cases present.symm.trans same
          simp_all
  · next given shape kept =>
      cases failed
      refine .inr ⟨?_, _, rfl⟩
      rintro _ ⟨⟨other, same, a, b, c, rfl, -⟩, -⟩
      obtain ⟨present, -⟩ := given?_eq_some kept
      cases present.symm.trans same
      exact shape a b c rfl

theorem verdict_point : Verdict value [point name] (readPoint value name) :=
  Verdict.single Iff.rfl (fun _ => readPoint_iff) fun _ => readPoint_error

theorem verdict_requiredPoint : Verdict value [requiredPoint name] (requirePoint value name) :=
  Verdict.single Iff.rfl (fun _ => requirePoint_iff) fun _ failed =>
    required_error (point name) failed (fun _ => rfl) rfl
      (fun found ended => ⟨found, readPoint_iff.mp ended⟩) fun _ => readPoint_error

end Readers

section Objects

variable {platform : Platform} {value : Value}

theorem verdict_target :
    Verdict value [number "x", number "y", number "z"] (readTarget value) :=
  Verdict.chain verdict_number fun _ _ => Verdict.chain verdict_number fun _ _ =>
    Verdict.chain verdict_number fun _ _ => .met (by simp)

/-- The axis is read with a look at the plane. -/
def readAxis (value : Value) (plane : Option Plane) :
    Except Fault (Option (Coordinates Float)) := do
  let axis ← readPoint value "normal"
  if plane.isNone && axis.isNone then reject .missingNormal else .ok axis

theorem verdict_axis {plane : Option Plane} (placed : readPlane platform value = .ok plane) :
    Verdict value [axis] (readAxis value plane) := by
  have given (found : Option (Coordinates Float)) (read : readPoint value "normal" = .ok found) :
      readAxis value plane =
        if plane.isNone && found.isNone then reject .missingNormal else .ok found := by
    rw [readAxis, read]
    rfl
  cases read : readPoint value "normal" with
  | error cause =>
      have failed : readAxis value plane = .error cause := by
        rw [readAxis, read]
        rfl
      rw [failed]
      refine Verdict.unmet ?_ (readPoint_error read)
      rintro ⟨found, stands, -⟩
      cases read.symm.trans (readPoint_iff.mpr stands)
  | ok found =>
      have proper (slip : Fault) : ¬axis.slips value slip := fun slips =>
        (point "normal").apart value slip slips ⟨found, readPoint_iff.mp read⟩
      rw [given found read]
      split
      · next lost =>
          obtain ⟨planeless, axisless⟩ := Bool.and_eq_true_iff.mp lost
          rw [Option.isNone_iff_eq_none] at planeless axisless
          subst planeless axisless
          refine Verdict.unmet ?_ (.inr ⟨proper, _, rfl⟩)
          rintro ⟨other, stands, together⟩
          cases read.symm.trans (readPoint_iff.mpr stands)
          exact together (readPlane_iff.mp placed) rfl
      · next kept =>
          have met : axis.met value := by
            refine ⟨found, readPoint_iff.mp read, ?_⟩
            rintro planar rfl
            cases placed.symm.trans (readPlane_iff.mpr planar)
            exact kept rfl
          exact .met (by simpa using met)

theorem verdict_arc : Verdict value (needs platform "circular") (readArc platform value) := by
  have read : readArc platform value = (do
      let plane ← readPlane platform value
      let axis ← readAxis value plane
      let clockwise ← readFlag value "clockwise" (some false)
      let center ← requirePoint value "center"
      let finish ← requirePoint value "end"
      let feed ← requireNumber value "feed"
      let start ← readPoint value "start"
      .ok { clockwise, center, finish, feed := some feed, plane, start, axis }) := by
    unfold readArc readAxis
    cases readPlane platform value with
    | error fault => rfl
    | ok plane =>
        cases readPoint value "normal" with
        | error fault => rfl
        | ok axis => cases plane <;> cases axis <;> rfl
  rw [read]
  exact Verdict.chain verdict_plane fun plane placed =>
    Verdict.chain (verdict_axis placed) fun _ _ =>
    Verdict.chain (verdict_flag false) fun _ _ =>
    Verdict.chain verdict_requiredPoint fun _ _ =>
    Verdict.chain verdict_requiredPoint fun _ _ =>
    Verdict.chain verdict_requiredNumber fun _ _ =>
    Verdict.chain verdict_point fun _ _ => .met (by simp)

theorem verdict_named (name : String) :
    Verdict value (needs platform name) (ofNamed platform name value) := by
  unfold ofNamed
  split
  · exact verdict_text.map _
  · refine Verdict.map ?_ _
    exact Verdict.chain verdict_jetMode fun _ _ => Verdict.chain (verdict_flag false) fun _ _ =>
      Verdict.chain (verdict_flag true) fun _ _ =>
        Verdict.chain verdict_text fun _ _ => .met (by simp)
  · exact .met (by simp [needs])
  · exact verdict_requiredNumber.map _
  · exact verdict_requiredFlag.map _
  · exact verdict_target.map _
  · exact Verdict.chain verdict_target fun _ _ =>
      Verdict.chain verdict_requiredNumber fun _ _ => .met (by simp)
  · exact verdict_arc.map _
  · exact .met (by simp [needs])
  · have unknown : needs platform name = [known] := by
      unfold needs
      split <;> simp_all
    rw [unknown]
    exact Verdict.unmet id (.inr ⟨fun _ => id, _, rfl⟩)

/-- What a table can be searched for. -/
def isKey : Value → Bool
  | .list _ | .object _ => false
  | _ => true

/-- The object is no event, but that is not what it is refused for. -/
inductive Slip (platform : Platform) (value : Value) : Fault → Prop where
  | listAsName {items : List Value} (named : value.field? "event" = some (.list items)) :
      Slip platform value .listAsName
  | objectAsName {fields : List (String × Value)}
      (named : value.field? "event" = some (.object fields)) : Slip platform value .objectAsName
  | unshownName {given : Value} {fault : Fault} (named : value.field? "event" = some given)
      (key : isKey given = true) (unshown : textOf platform given = .error fault) :
      Slip platform value fault
  | needs {name : String} {fault : Fault} (named : value.field? "event" = some (.text name))
      (slips : Slips value fault (needs platform name)) : Slip platform value fault

theorem Slip.isSlip {fault : Fault} (slip : Slip platform value fault) : fault.isSlip = true := by
  cases slip with
  | listAsName | objectAsName => rfl
  | unshownName _ _ unshown => exact textOf_error unshown
  | needs _ slips => exact Verdict.isSlip slips

theorem Slip.ofValue {fault : Fault} (slip : Slip platform value fault) :
    ofValue platform value = .error fault := by
  cases slip with
  | needs named slips =>
      rw [ofValue_of_named named]
      exact (verdict_named _).error_of_slips slips
  | listAsName named | objectAsName named =>
      cases value with
      | object fields => simp only [Event.ofValue, named]
      | _ => cases named
  | @unshownName given fault named key unshown =>
      cases value with
      | object fields =>
          cases given with
          | text | list | object => first | cases unshown | cases key
          | _ =>
              simp only [Event.ofValue, named, unshown]
              rfl
      | _ => cases named

/-- What is no event is refused as that, unless there is a slip. -/
theorem ofValue_refused (undescribed : ∀ event, ¬Describes value event)
    (proper : ∀ fault, ¬Slip platform value fault) :
    ∃ reason, ofValue platform value = .error (.event none reason) := by
  cases ended : ofValue platform value with
  | ok event => exact absurd (ofValue_iff.mp ended) (undescribed event)
  | error fault =>
      unfold ofValue at ended
      split at ended
      · split at ended
        · next name named =>
            have verdict : Verdict _ _ (Except.error fault) := ended ▸ verdict_named name
            cases verdict with
            | refused => exact ⟨_, rfl⟩
            | slipped slips => exact absurd (.needs named slips) (proper _)
        · next named => exact absurd (.listAsName named) (proper _)
        · next named => exact absurd (.objectAsName named) (proper _)
        · next given textless listless fieldless named =>
            have key : isKey given = true := by
              cases given with
              | list items => exact absurd rfl (listless items)
              | object fields => exact absurd rfl (fieldless fields)
              | _ => rfl
            cases shown : textOf platform given with
            | error slip => exact absurd (.unshownName named key shown) (proper slip)
            | ok text =>
                rw [shown] at ended
                cases ended
                exact ⟨_, rfl⟩
        · cases ended
          exact ⟨_, rfl⟩
      · cases ended
        exact ⟨_, rfl⟩

end Objects

end Event

end GantryCode
