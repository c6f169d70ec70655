import GantryCode.Proofs.Uses
import GantryCode.Run
import Mathlib.Data.List.Nodup
import Mathlib.Data.String.Basic

namespace GantryCode

/-! Where the value of a setting comes from.

The last use on the command line counts, then the last key of the machine file that stands
for the name, then the usual value. Texts are converted as the setting says, other values of
the machine file are taken as they are. Names in the machine file that are no settings are
refused, whatever else is in it.
-/

namespace CommandLine

open Emission (bind_eq_ok mapError_eq_ok)

section Table

/-- The values of settings that nothing gives: those of the program itself, and those of the
options of the emitter. -/
def usualSettings : List (String × Value) :=
  [("events", .text "-"), ("config", .null), ("output_path", .text "-"),
    ("log_level", .text "WARNING"), ("log_filename", .null)] ++ Options.toSettings {}

/-- The usual values in the order of the settings, where the target comes first of the options
of the emitter. -/
def listedUsual : List (String × Value) :=
  usualSettings.take 5 ++ (usualSettings.drop 24).take 1 ++ (usualSettings.drop 5).take 19 ++
    usualSettings.drop 25

theorem settings_listed :
    (settings.map fun setting => (setting.1, setting.2.2)) = listedUsual := by
  have names : settings.map (·.1) = listedUsual.map (·.1) := by decide +kernel
  have values : settings.map (·.2.2) = listedUsual.map (·.2) := rfl
  calc
    _ = (settings.map (·.1)).zip (settings.map (·.2.2)) := List.zip_map'.symm
    _ = (listedUsual.map (·.1)).zip (listedUsual.map (·.2)) := by rw [names, values]
    _ = listedUsual := (List.zip_of_prod rfl rfl).symm

theorem settings_usual {name : String} {conversion : Conversion} {usual : Value}
    (declared : (name, conversion, usual) ∈ settings) : (name, usual) ∈ usualSettings := by
  have listed : (name, usual) ∈ listedUsual :=
    settings_listed ▸ List.mem_map.mpr ⟨_, declared, rfl⟩
  simp only [listedUsual, List.mem_append] at listed
  rcases listed with ((own | target) | rest) | last
  · exact List.mem_of_mem_take own
  · exact List.mem_of_mem_drop (List.mem_of_mem_take target)
  · exact List.mem_of_mem_drop (List.mem_of_mem_take rest)
  · exact List.mem_of_mem_drop last

theorem settingNames_listed : settingNames = listedUsual.map (·.1) := by
  rw [← settings_listed, List.map_map]
  rfl

theorem settingNames_nodup : settingNames.Nodup := by
  rw [settingNames_listed]
  decide +kernel

theorem setting_unique {name : String} {conversion other : Conversion} {usual value : Value}
    (declared : (name, conversion, usual) ∈ settings) (again : (name, other, value) ∈ settings) :
    other = conversion := by
  have same := List.inj_on_of_nodup_map settingNames_nodup again declared rfl
  cases same
  rfl

theorem config_converted {conversion : Conversion} {usual : Value}
    (declared : ("config", conversion, usual) ∈ settings) : conversion = .path := by
  have listed : ("config", Conversion.path) ∈
      settings.map fun setting => (setting.1, setting.2.1) := by
    decide +kernel
  obtain ⟨⟨name, other, value⟩, among, same⟩ := List.mem_map.mp listed
  cases same
  exact setting_unique among declared

/-- Whether a usual value stays as it is where texts are converted. -/
def isSettled : Conversion → Value → Bool
  | .text, _ | .choice _, _ => true
  | _, .text _ => false
  | _, _ => true

theorem readDefault_settled {conversion : Conversion} {usual : Value}
    (settled : isSettled conversion usual) : conversion.readDefault usual = .ok usual := by
  unfold isSettled at settled
  split at settled
  · cases usual <;> rfl
  · cases usual <;> rfl
  · cases settled
  · cases usual with
    | text => simp_all
    | _ => rfl

theorem readDefault_usual {name : String} {conversion : Conversion} {usual : Value}
    (declared : (name, conversion, usual) ∈ settings) :
    conversion.readDefault usual = .ok usual := by
  have all : settings.all (fun setting => isSettled setting.2.1 setting.2.2) := by decide +kernel
  exact readDefault_settled (List.all_eq_true.mp all _ declared)

end Table

section Machine

open MachineFile

/-- The keys of a mapping as names of settings, in the order of the mapping, if all of them can be
shown. -/
def namedKeys (depth : Nat) (entries : Yaml.Entries) :
    Except Value.Obstacle (List (String × Value)) :=
  entries.mapM fun entry => (entry.1.asText depth).map fun name => (optionName name, entry.2)

theorem namedKeys_cons (depth : Nat) (key value : Value) (rest : Yaml.Entries) :
    namedKeys depth ((key, value) :: rest) = (do
      let name ← key.asText depth
      let keys ← namedKeys depth rest
      return (optionName name, value) :: keys) := by
  rw [namedKeys, List.mapM_cons]
  cases key.asText depth <;> rfl

theorem optionsOf_eq (depth : Nat) (entries : Yaml.Entries) :
    optionsOf depth entries =
      match namedKeys depth entries with
      | .ok keys => .ok (setFields [] keys)
      | .error obstacle => .error (.crash (crashOf obstacle)) := by
  unfold optionsOf setFields
  generalize ([] : List (String × Value)) = start
  induction entries generalizing start with
  | nil => rfl
  | cons entry rest ih =>
      obtain ⟨key, value⟩ := entry
      rw [List.foldlM_cons, namedKeys_cons]
      dsimp only
      cases key.asText depth with
      | error obstacle => rfl
      | ok name =>
          refine (ih (setField (optionName name) value start)).trans ?_
          cases namedKeys depth rest <;> rfl

/-- What the machine file that the command line names gives settings, in the order of the mapping
that the loader makes of it. There is nothing if no file is named or if there is nothing in it. -/
inductive FileGives {σ : Type} (host : Host (StateM σ)) (start : σ)
    (given : List (String × Option String)) : List (String × Value) → Prop
  | unnamed (unused : lastField "config" given = none) : FileGives host start given []
  | empty {text : String} {bytes : List UInt8}
      (named : lastField "config" given = some (some text))
      (plain : Path.hasNul (Path.normal text) = false)
      (content : (host.readFile (Path.normal text) start).1 = .ok bytes)
      (loaded : host.load bytes = .ok .nothing) : FileGives host start given []
  | mapping {text : String} {bytes : List UInt8} {entries : Yaml.Entries}
      {keys : List (String × Value)} (named : lastField "config" given = some (some text))
      (plain : Path.hasNul (Path.normal text) = false)
      (content : (host.readFile (Path.normal text) start).1 = .ok bytes)
      (loaded : host.load bytes = .ok (.mapping entries))
      (shown : namedKeys host.platform.showDepth entries = .ok keys) :
      FileGives host start given keys

theorem ofFile_mapping {load : Loader} {depth : Nat} {bytes : List UInt8} {entries : Yaml.Entries}
    {keys : List (String × Value)} (loaded : load bytes = .ok (.mapping entries))
    (shown : namedKeys depth entries = .ok keys) :
    ofFile load depth (.ok bytes) = .ok (setFields [] keys) := by
  unfold ofFile
  simp only [loaded, optionsOf_eq, shown]

/-- The options of a machine file are its keys, given one after the other. -/
theorem gives_of_ofFile {σ : Type} {host : Host (StateM σ)} {start : σ}
    {given : List (String × Option String)} {text : String} {options : List (String × Value)}
    (named : lastField "config" given = some (some text))
    (plain : Path.hasNul (Path.normal text) = false)
    (made : ofFile host.load host.platform.showDepth
      (host.readFile (Path.normal text) start).1 = .ok options) :
    ∃ keys, FileGives host start given keys ∧ options = setFields [] keys := by
  unfold ofFile at made
  split at made
  · cases made
  · next bytes content =>
      split at made
      · next loaded =>
          cases made
          exact ⟨[], .empty named plain content loaded, rfl⟩
      · next entries loaded =>
          rw [optionsOf_eq] at made
          cases shown : namedKeys host.platform.showDepth entries with
          | ok keys =>
              rw [shown] at made
              cases made
              exact ⟨keys, .mapping named plain content loaded shown, rfl⟩
          | error obstacle =>
              rw [shown] at made
              cases made
      · cases made
      · cases made
      · cases made

end Machine

section Settling

/-- Where the value of a setting comes from: from its last use, else from the last key of the
machine file, else it is the usual one. -/
inductive Layered (given : List (String × Option String)) (keys : List (String × Value)) :
    String × Conversion × Value → String × Value → Prop
  | given {name : String} {conversion : Conversion} {usual value : Value} {use : Option String}
      (last : lastField name given = some use) (converted : readUse conversion use = .ok value) :
      Layered given keys (name, conversion, usual) (name, value)
  | fileText {name text : String} {conversion : Conversion} {usual value : Value}
      (unused : lastField name given = none) (last : lastField name keys = some (.text text))
      (converted : conversion.read text = .ok value) :
      Layered given keys (name, conversion, usual) (name, value)
  | file {name : String} {conversion : Conversion} {usual value : Value}
      (unused : lastField name given = none) (last : lastField name keys = some value)
      (other : ∀ text, value ≠ .text text) :
      Layered given keys (name, conversion, usual) (name, value)
  | usual {name : String} {conversion : Conversion} {usual value : Value}
      (unused : lastField name given = none) (absent : lastField name keys = none)
      (own : (name, value) ∈ usualSettings) :
      Layered given keys (name, conversion, usual) (name, value)

theorem settle_inv {defaults : List (String × Value)} {reading : Reading}
    {declared : List (String × Conversion × Value)} {values : List (String × Value)}
    (settled : settle defaults reading declared = .ok values) :
    List.Forall₂ (fun setting field => field.1 = setting.1 ∧
      (reading.given.lookup setting.1 = some field.2 ∨
        reading.given.lookup setting.1 = none ∧
          setting.2.1.readDefault ((defaults.lookup setting.1).getD setting.2.2) = .ok field.2))
      declared values := by
  induction declared generalizing values with
  | nil =>
      cases settled
      exact .nil
  | cons setting rest ih =>
      obtain ⟨name, conversion, usual⟩ := setting
      unfold settle at settled
      cases found : reading.given.lookup name with
      | some value =>
          rw [found] at settled
          obtain ⟨_, ⟨⟩, settled⟩ := bind_eq_ok.mp settled
          obtain ⟨tail, later, ⟨⟩⟩ := bind_eq_ok.mp settled
          exact .cons ⟨rfl, .inl found⟩ (ih later)
      | none =>
          rw [found] at settled
          obtain ⟨value, own, settled⟩ := bind_eq_ok.mp settled
          obtain ⟨tail, later, ⟨⟩⟩ := bind_eq_ok.mp settled
          exact .cons ⟨rfl, .inr ⟨found, mapError_eq_ok.mp own⟩⟩ (ih later)

theorem mem_unknownNames {name : String} {options : List (String × Value)} :
    name ∈ unknownNames options ↔ name ∈ options.map (·.1) ∧ name ∉ settingNames := by
  unfold unknownNames
  simp [List.mem_mergeSort]

theorem unknownNames_sorted {options : List (String × Value)}
    (distinct : (options.map (·.1)).Nodup) : (unknownNames options).Pairwise (· < ·) := by
  have sorted : (unknownNames options).Pairwise (· ≤ ·) := by
    refine (List.pairwise_mergeSort ?_ ?_ _).imp fun before => of_decide_eq_true before
    · simpa using fun _ _ _ => le_trans
    · simpa using fun _ _ => le_total _ _
  have unique : (unknownNames options).Nodup :=
    (List.mergeSort_perm _ _).nodup_iff.mpr (distinct.filter _)
  exact sorted.imp₂ (fun _ _ least other => lt_of_le_of_ne least other) unique

/-- A settled value is layered over what was given and the defaults. -/
theorem layered_of_settled {given : List (String × Option String)} {keys : List (String × Value)}
    {reading : Reading} {name : String} {conversion : Conversion} {usual value : Value}
    (declared : (name, conversion, usual) ∈ settings)
    (lookup : Option.Rel (fun use value => Reads (name, use) (name, value))
      (lastField name given) (reading.given.lookup name))
    (settled : reading.given.lookup name = some value ∨
      reading.given.lookup name = none ∧
        conversion.readDefault (((setFields [] keys).lookup name).getD usual) = .ok value) :
    Layered given keys (name, conversion, usual) (name, value) := by
  rcases settled with found | ⟨missing, converted⟩
  · rw [found] at lookup
    cases used : lastField name given with
    | none => simp [used] at lookup
    | some use =>
        rw [used] at lookup
        obtain ⟨-, other, value, among, read⟩ := Option.rel_some_some.mp lookup
        cases setting_unique declared among
        exact .given used read
  · have unused : lastField name given = none := by
      rw [missing] at lookup
      cases used : lastField name given with
      | none => rfl
      | some use => simp [used] at lookup
    rw [lookup_setFields_nil] at converted
    cases last : lastField name keys with
    | none =>
        rw [last, Option.getD_none, readDefault_usual declared] at converted
        cases converted
        exact .usual unused last (settings_usual declared)
    | some held =>
        rw [last, Option.getD_some] at converted
        cases held with
        | text chars => exact .fileText unused last converted
        | _ =>
            cases converted
            exact .file unused last (by simp)

theorem layered_of_settle {given : List (String × Option String)} {keys : List (String × Value)}
    {reading : Reading} {values : List (String × Value)}
    (lookup : ∀ name, Option.Rel (fun use value => Reads (name, use) (name, value))
      (lastField name given) (reading.given.lookup name))
    (settled : settle (setFields [] keys) reading settings = .ok values) :
    List.Forall₂ (Layered given keys) settings values := by
  have each := (List.forall₂_and_left _ _).mpr ⟨fun _ among => among, settle_inv settled⟩
  refine each.imp ?_
  rintro ⟨name, conversion, usual⟩ ⟨field, value⟩ ⟨declared, rfl, settled⟩
  exact layered_of_settled declared (lookup _) settled

end Settling

section Outcome

variable {arguments : List String} {meanings : List Argument} {reading : Reading}
  {defaults options values : List (String × Value)} {load : Loader} {depth : Nat} {path : String}
  {content : Except FileFault (List UInt8)}

theorem settled_inv (ended : read arguments = .ok reading)
    (done : settled defaults arguments = .ok values) :
    settle defaults reading settings = .ok values := by
  obtain ⟨_, again, done⟩ := bind_eq_ok.mp done
  cases ended.symm.trans again
  obtain ⟨all, made, done⟩ := bind_eq_ok.mp done
  split at done
  · cases done
    exact made
  · cases done

theorem withMachine_inv (done : withMachine load depth arguments path content = .ok values) :
    ∃ options, MachineFile.ofFile load depth content = .ok options ∧
      settled options arguments = .ok values := by
  unfold withMachine at done
  split at done
  · cases done
  · cases done
  · next options made =>
      split at done
      · exact ⟨options, made, mapError_eq_ok.mp done⟩
      · cases done

theorem withMachine_known (made : MachineFile.ofFile load depth content = .ok options)
    (known : unknownNames options = []) :
    withMachine load depth arguments path content =
      (settled options arguments).mapError .stop := by
  unfold withMachine
  simp only [made, known]

theorem withMachine_failed {fault : MachineFault}
    (failed : MachineFile.ofFile load depth content = .error (.fault fault)) :
    withMachine load depth arguments path content = .error (.machine path fault) := by
  unfold withMachine
  rw [failed]

theorem withMachine_broken {crash : MachineCrash}
    (broken : MachineFile.ofFile load depth content = .error (.crash crash)) :
    withMachine load depth arguments path content = .error (.crash crash) := by
  unfold withMachine
  rw [broken]

/-- Names that are no settings are refused before anything is settled. -/
theorem withMachine_unknown (made : MachineFile.ofFile load depth content = .ok options)
    (unknown : unknownNames options ≠ []) :
    withMachine load depth arguments path content =
      .error (.machine path (.unknownOptions (unknownNames options))) := by
  unfold withMachine
  rw [made]
  dsimp only
  split
  · contradiction
  · rfl

theorem machinePath_stopped {stop : Stop} (ended : read arguments = .error stop) :
    machinePath? arguments = .error (.stop stop) := by
  unfold machinePath?
  rw [ended]
  rfl

theorem machinePath_read (ended : read arguments = .ok reading) :
    machinePath? arguments =
      match reading.given.lookup "config" with
      | some (.text path) => .ok (some path)
      | some _ => .error (.crash .listAsPath)
      | none => .ok none := by
  unfold machinePath?
  rw [ended]
  rfl

theorem machinePath_eq (classified : classifyAll arguments = .ok meanings)
    (ended : read arguments = .ok reading) :
    machinePath? arguments =
      match lastField "config" (uses true meanings) with
      | none => .ok none
      | some (some text) => .ok (some (Path.normal text))
      | some none => .error (.crash .listAsPath) := by
  have given := given_lookup classified ended "config"
  rw [machinePath_read ended]
  cases used : lastField "config" (uses true meanings) with
  | none =>
      rw [used] at given
      cases found : reading.given.lookup "config" with
      | none => rfl
      | some value => simp [found] at given
  | some use =>
      cases found : reading.given.lookup "config" with
      | none => simp [used, found] at given
      | some value =>
          rw [used, found] at given
          obtain ⟨-, conversion, usual, declared, converted⟩ := Option.rel_some_some.mp given
          rw [config_converted declared] at converted
          cases use <;> cases converted <;> rfl

end Outcome

end CommandLine

namespace Run

open CommandLine MachineFile
open Emission (mapError_eq_ok ok_of_shown)

variable {σ : Type} {host : Host (StateM σ)} {start : σ}

theorem settingsOf_eq (host : Host (StateM σ)) (arguments : List String) (start : σ) :
    (Run.settingsOf host arguments start).1 =
      match machinePath? arguments with
      | .error failure => .error failure
      | .ok none => (settled [] arguments).mapError .stop
      | .ok (some path) =>
          if Path.hasNul path then .error (.crash .nulInPath)
          else withMachine host.load host.platform.showDepth arguments path
            (host.readFile path start).1 := by
  unfold Run.settingsOf
  cases machinePath? arguments with
  | error failure => rfl
  | ok path =>
      cases path with
      | none => rfl
      | some path =>
          by_cases nul : Path.hasNul path
          · simp only [nul, if_true]
            rfl
          · simp only [nul]
            rfl

section Examples

/-- A desk with a machine file. -/
def machineDesk (text : String) : Desk :=
  { stamp := "", files := [("machine.yaml", Desk.bytesOf text)] }

def isTaken (name : String) (test : Value → Bool) :
    Except CommandLine.Failure (List (String × Value)) → Bool
  | .ok values => (values.lookup name).any test
  | .error _ => false

theorem taken_of_isTaken {name : String} {test : Value → Bool}
    {taken : Except CommandLine.Failure (List (String × Value))} (held : isTaken name test taken) :
    ∃ values value, taken = .ok values ∧ values.lookup name = some value ∧ test value := by
  cases taken with
  | error failure => cases held
  | ok values =>
      cases found : values.lookup name with
      | none => simp [isTaken, found] at held
      | some value => exact ⟨values, value, rfl, found, by simpa [isTaken, found] using held⟩

/-- The value is this integer. -/
def isInteger (n : Int) : Value → Bool
  | .int other => other = n
  | _ => false

theorem eq_of_isInteger {n : Int} {value : Value} (held : isInteger n value) :
    value = .int n := by
  cases value with
  | int other => exact congrArg Value.int (of_decide_eq_true held)
  | _ => cases held

def isEmptyList : Value → Bool
  | .list [] => true
  | _ => false

theorem eq_of_isEmptyList {value : Value} (held : isEmptyList value) : value = .list [] := by
  cases value with
  | list members =>
      cases members with
      | nil => rfl
      | cons first rest => cases held
  | _ => cases held

/-- The entries of a mapping in which all keys are texts and all values integers. -/
def integersOf? : Yaml.Entries → Option (List (String × Int))
  | [] => some []
  | (.text key, .int n) :: rest => (integersOf? rest).map ((key, n) :: ·)
  | _ => none

def integerEntries (pairs : List (String × Int)) : Yaml.Entries :=
  pairs.map fun pair => (.text pair.1, .int pair.2)

theorem entries_of_integersOf {entries : Yaml.Entries} {pairs : List (String × Int)}
    (held : integersOf? entries = some pairs) : entries = integerEntries pairs := by
  fun_induction integersOf? entries generalizing pairs with
  | case1 =>
      cases held
      rfl
  | case2 key n rest ih =>
      obtain ⟨tail, later, rfl⟩ := Option.map_eq_some_iff.mp held
      rw [ih later]
      rfl
  | case3 => cases held

def holdsIntegers (bytes : List UInt8) (pairs : List (String × Int)) : Bool :=
  match Yaml.Content.read (.ofBytes bytes) with
  | .ok (.mapping entries) => integersOf? entries = some pairs
  | _ => false

theorem load_of_holdsIntegers {bytes : List UInt8} {pairs : List (String × Int)}
    (held : holdsIntegers bytes pairs) :
    Desk.host.load bytes = .ok (.mapping (integerEntries pairs)) := by
  change Yaml.load bytes = _
  unfold holdsIntegers at held
  unfold Yaml.load
  split at held
  · next entries read =>
      rw [read, entries_of_integersOf (of_decide_eq_true held)]
      rfl
  · cases held

theorem integerEntries_named (depth : Nat) (pairs : List (String × Int)) :
    namedKeys depth (integerEntries pairs) =
      .ok (pairs.map fun pair => (optionName pair.1, .int pair.2)) := by
  unfold namedKeys integerEntries
  induction pairs with
  | nil => rfl
  | cons pair rest ih =>
      rw [List.map_cons, List.mapM_cons, ih]
      rfl

/-- The scalars of the mapping that a text holds, key by key as they are written. -/
def writtenScalars (bytes : List UInt8) : List (String × String) :=
  match Yaml.Node.ofTokens (Yaml.Token.scan (.ofBytes bytes)).1 with
  | .ok (some (.mapping entries)) =>
      entries.filterMap fun
        | (.scalar key _, .scalar value _) => some (key, value)
        | _ => none
  | _ => []

end Examples

/-- Settings are taken from the command line, then from the machine file, then from the
program. -/
theorem settings_layered (host : Host (StateM σ)) (arguments : List String) (start : σ) :
    (∀ values, (Run.settingsOf host arguments start).1 = .ok values →
      ∃ meanings keys, classifyAll arguments = .ok meanings ∧
        FileGives host start (uses true meanings) keys ∧
        List.Forall₂ (Layered (uses true meanings) keys) settings values) ∧
    ∀ reading meanings keys, read arguments = .ok reading →
      classifyAll arguments = .ok meanings → FileGives host start (uses true meanings) keys →
      (∃ key ∈ keys, key.1 ∉ settingNames) →
        ∃ text names, lastField "config" (uses true meanings) = some (some text) ∧
          (Run.settingsOf host arguments start).1 =
            .error (.machine (Path.normal text) (.unknownOptions names)) ∧
          names.Pairwise (· < ·) ∧
          ∀ name, name ∈ names ↔ name ∈ keys.map (·.1) ∧ name ∉ settingNames := by
  constructor
  · intro values taken
    rw [settingsOf_eq] at taken
    cases ended : read arguments with
    | error stop =>
        rw [machinePath_stopped ended] at taken
        cases taken
    | ok reading =>
        obtain ⟨meanings, classified⟩ := classified_of_read ended
        have lookup := given_lookup classified ended
        rw [machinePath_eq classified ended] at taken
        cases used : lastField "config" (uses true meanings) with
        | none =>
            rw [used] at taken
            have done := mapError_eq_ok.mp taken
            exact ⟨meanings, [], classified, .unnamed used,
              layered_of_settle lookup (settled_inv ended done)⟩
        | some use =>
            cases use with
            | none => simp [used] at taken
            | some text =>
                simp only [used] at taken
                split at taken
                · cases taken
                · next plain =>
                    rw [Bool.not_eq_true] at plain
                    obtain ⟨options, made, done⟩ := withMachine_inv taken
                    obtain ⟨keys, gives, rfl⟩ := gives_of_ofFile used plain made
                    exact ⟨meanings, keys, classified, gives,
                      layered_of_settle lookup (settled_inv ended done)⟩
  · intro reading meanings keys ended classified gives unknown
    obtain ⟨⟨name, value⟩, among, stranger⟩ := unknown
    cases gives with
    | unnamed => cases among
    | empty => cases among
    | @mapping text bytes entries _ named plain content loaded shown =>
        have made := ofFile_mapping loaded shown
        rw [← content] at made
        have members : ∀ other, other ∈ unknownNames (setFields [] keys) ↔
            other ∈ keys.map (·.1) ∧ other ∉ settingNames := by
          intro other
          rw [mem_unknownNames, mem_setFields]
          simp
        have listed : name ∈ keys.map (·.1) := List.mem_map_of_mem (f := Prod.fst) among
        have held : name ∈ unknownNames (setFields [] keys) :=
          (members name).mpr ⟨listed, stranger⟩
        have sorted := unknownNames_sorted (nodup_setFields_nil keys)
        refine ⟨text, _, named, ?_, sorted, members⟩
        rw [settingsOf_eq, machinePath_eq classified ended, named]
        simp only [plain]
        exact withMachine_unknown made (List.ne_nil_of_mem held)

theorem bed_layered :
    (∃ values meanings keys,
      (Run.settingsOf Desk.host ["--config", "machine.yaml", "--bed-y", "5", "--bed-y=7"]
        (machineDesk "bed-x: 3\n")).1 = .ok values ∧
      classifyAll ["--config", "machine.yaml", "--bed-y", "5", "--bed-y=7"] = .ok meanings ∧
      FileGives Desk.host (machineDesk "bed-x: 3\n") (uses true meanings) keys ∧
      List.Forall₂ (Layered (uses true meanings) keys) settings values) ∧
    ∃ text names,
      (Run.settingsOf Desk.host ["--config", "machine.yaml"]
        (machineDesk "bed-w: 1\nbed-x: 3\nbed-u: 2\n")).1 =
          .error (.machine (Path.normal text) (.unknownOptions names)) ∧
      names.Pairwise (· < ·) ∧ "bed_w" ∈ names := by
  constructor
  · have held : isTaken "bed_x" (fun value => value.message = "3")
        (Run.settingsOf Desk.host ["--config", "machine.yaml", "--bed-y", "5", "--bed-y=7"]
          (machineDesk "bed-x: 3\n")).1 := by decide +kernel
    obtain ⟨values, -, taken, -⟩ := taken_of_isTaken held
    obtain ⟨meanings, keys, classified, gives, layered⟩ :=
      (settings_layered _ _ _).1 values taken
    exact ⟨values, meanings, keys, taken, classified, gives, layered⟩
  · have readable : (read ["--config", "machine.yaml"]).toOption.map (fun _ => ()) = some () := by
      decide +kernel
    have used : (classifyAll ["--config", "machine.yaml"]).toOption.map
        (fun meanings => lastField "config" (uses true meanings)) =
          some (some (some "machine.yaml")) := by decide +kernel
    obtain ⟨reading, ended, -⟩ := ok_of_shown readable
    obtain ⟨meanings, classified, named⟩ := ok_of_shown used
    have content : (Desk.host.readFile (Path.normal "machine.yaml")
        (machineDesk "bed-w: 1\nbed-x: 3\nbed-u: 2\n")).1 =
          .ok (Desk.bytesOf "bed-w: 1\nbed-x: 3\nbed-u: 2\n") := by decide +kernel
    have held : holdsIntegers (Desk.bytesOf "bed-w: 1\nbed-x: 3\nbed-u: 2\n")
        [("bed-w", 1), ("bed-x", 3), ("bed-u", 2)] := by decide +kernel
    have gives := @FileGives.mapping _ Desk.host (machineDesk "bed-w: 1\nbed-x: 3\nbed-u: 2\n")
      _ _ _ _ _ named (by decide +kernel) content (load_of_holdsIntegers held)
      (integerEntries_named _ _)
    have key : optionName "bed-w" = "bed_w" := by decide +kernel
    have stranger : "bed_w" ∉ settingNames := by
      rw [settingNames_listed]
      decide +kernel
    obtain ⟨text, names, -, refused, sorted, members⟩ :=
      (settings_layered _ _ _).2 reading meanings _ ended classified gives
        ⟨("bed_w", .int 1), by simp [key], stranger⟩
    exact ⟨text, names, refused, sorted, (members _).mpr ⟨by simp [key], stranger⟩⟩

/-- A key that is repeated in the machine file has its place where it is first, and is not the
last in front of another spelling. Two dashes behind an equals sign are no text. -/
theorem repeated_key_not_last :
    writtenScalars (Desk.bytesOf "bed-x: 1\nbed_x: 2\nbed-x: 3\n") =
        [("bed-x", "1"), ("bed_x", "2"), ("bed-x", "3")] ∧
      (∃ values, (Run.settingsOf Desk.host ["--config", "machine.yaml"]
        (machineDesk "bed-x: 1\nbed_x: 2\nbed-x: 3\n")).1 = .ok values ∧
        values.lookup "bed_x" = some (.int 2)) ∧
      ∃ values, (Run.settingsOf Desk.host ["--cutter-off=--"] { stamp := "" }).1 = .ok values ∧
        values.lookup "cutter_off" = some (.list []) := by
  refine ⟨by decide +kernel, ?_, ?_⟩
  · have held : holdsIntegers (Desk.bytesOf "bed-x: 1\nbed_x: 2\nbed-x: 3\n")
        [("bed-x", 3), ("bed_x", 2)] := by decide +kernel
    have content : (Desk.host.readFile "machine.yaml"
        (machineDesk "bed-x: 1\nbed_x: 2\nbed-x: 3\n")).1 =
          .ok (Desk.bytesOf "bed-x: 1\nbed_x: 2\nbed-x: 3\n") := by decide +kernel
    have dashed : optionName "bed-x" = "bed_x" := by decide +kernel
    have plain : optionName "bed_x" = "bed_x" := by decide +kernel
    have made : MachineFile.ofFile Desk.host.load Desk.host.platform.showDepth
        (Desk.host.readFile "machine.yaml"
          (machineDesk "bed-x: 1\nbed_x: 2\nbed-x: 3\n")).1 = .ok [("bed_x", .int 2)] := by
      rw [content]
      refine (ofFile_mapping (load_of_holdsIntegers held) (integerEntries_named _ _)).trans ?_
      simp [setFields, setField, dashed, plain]
    have path : machinePath? ["--config", "machine.yaml"] = .ok (some "machine.yaml") := by
      decide +kernel
    have named : Path.hasNul "machine.yaml" = false := by decide +kernel
    have outcome : (Run.settingsOf Desk.host ["--config", "machine.yaml"]
        (machineDesk "bed-x: 1\nbed_x: 2\nbed-x: 3\n")).1 =
          (settled [("bed_x", .int 2)] ["--config", "machine.yaml"]).mapError .stop := by
      rw [settingsOf_eq, path]
      dsimp only
      rw [named, if_neg Bool.false_ne_true, withMachine_known made (by decide +kernel)]
    have held : isTaken "bed_x" (isInteger 2)
        ((settled [("bed_x", .int 2)] ["--config", "machine.yaml"]).mapError .stop) := by
      decide +kernel
    rw [← outcome] at held
    obtain ⟨values, value, taken, found, two⟩ := taken_of_isTaken held
    exact ⟨values, taken, found.trans (congrArg some (eq_of_isInteger two))⟩
  · have held : isTaken "cutter_off" isEmptyList
        (Run.settingsOf Desk.host ["--cutter-off=--"] { stamp := "" }).1 := by decide +kernel
    obtain ⟨values, value, taken, found, empty⟩ := taken_of_isTaken held
    exact ⟨values, taken, found.trans (congrArg some (eq_of_isEmptyList empty))⟩

end Run

end GantryCode
