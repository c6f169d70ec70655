import GantryCode.Proofs.Views

namespace GantryCode

/-! A desk as a host.

A path leads to the same file as long as nothing happens but that files are written and created. So
what is done to a file is nothing to paths that lead to others, and a desk is a host that can be
relied upon. A path that starts from the directory of the desk never leads to a device.
-/

namespace Path

/-- Parts that a path can be put together from and taken apart into again. -/
def IsChain (parts : List (List Char)) : Prop :=
  ∀ part ∈ parts, '/' ∉ part ∧ isPart part = true

theorem IsChain.parts {chain : List (List Char)} (isChain : IsChain chain) :
    Path.parts (['/'].intercalate chain) = chain := by
  cases chain with
  | nil => rfl
  | cons first rest =>
      rw [Path.parts, List.splitOn_intercalate '/' (fun part among => (isChain part among).1)
        (by simp)]
      exact List.filter_eq_self.mpr fun part among => (isChain part among).2

end Path

namespace Place

/-- The file of the desk that this is, or would be. -/
def name? : Place → Option String
  | .file name => some name
  | .vacant name => name
  | _ => none

end Place

namespace Desk

open GantryCode.Path (IsChain)

variable {desk before after : Desk} {name path : String} {parts : List (List Char)}

section Names

theorem joined_injective {chain other : List (List Char)} (isChain : IsChain chain)
    (isChainToo : IsChain other) (same : joined chain = joined other) : chain = other := by
  have chars := String.ofList_injective same
  rw [← isChain.parts, chars, isChainToo.parts]

theorem isDirectory_iff : desk.isDirectory parts = true ↔
    ∃ name, desk.isFile name = true ∧ parts ∈ parents (Path.parts name.toList) := by
  have known (name : String) : desk.isFile name = true ↔ ∃ file ∈ desk.files, file.1 = name := by
    rw [isFile, List.lookup_isSome_iff]
    exact exists_congr fun file => and_congr_right fun _ => beq_iff_eq.trans eq_comm
  rw [isDirectory, List.any_eq_true]
  constructor
  · rintro ⟨file, among, above⟩
    exact ⟨file.1, (known _).mpr ⟨file, among, rfl⟩, by simpa using above⟩
  · rintro ⟨name, there, above⟩
    obtain ⟨file, among, rfl⟩ := (known _).mp there
    exact ⟨file, among, by simpa using above⟩

theorem isFile_setFile (bytes : List UInt8) (other : String) :
    (desk.setFile name bytes).isFile other = true ↔ other = name ∨ desk.isFile other = true := by
  rw [isFile, setFile]
  by_cases same : other = name
  · subst same
    simp [lookup_setField]
  · simp [lookup_setField_of_ne _ _ same, same, isFile]

theorem isDirectory_setFile (bytes : List UInt8) :
    (desk.setFile name bytes).isDirectory parts = true ↔
      parts ∈ parents (Path.parts name.toList) ∨ desk.isDirectory parts = true := by
  rw [isDirectory_iff, isDirectory_iff]
  simp only [isFile_setFile, or_and_right, exists_or, exists_eq_left]

end Names

/-- A file can be by this name: what is above it are directories, and it is none itself. -/
structure Fits (desk : Desk) (name : String) : Prop where
  above : ∀ parts ∈ parents (Path.parts name.toList), parts ≠ [] → desk.isDirectory parts = true
  free : ∀ parts, IsChain parts → joined parts = name → desk.isFile name = false →
    desk.isDirectory parts = false

theorem Fits.isDirectory (fits : desk.Fits name) (bytes : List UInt8) (nonempty : parts ≠ []) :
    (desk.setFile name bytes).isDirectory parts = desk.isDirectory parts := by
  rw [Bool.eq_iff_iff, isDirectory_setFile]
  exact or_iff_right_of_imp fun above => fits.above parts above nonempty

theorem mem_parents {chain : List (List Char)} :
    parts ∈ parents chain ↔ parts <+: chain ∧ parts ≠ chain := by
  rw [parents, List.mem_map]
  simp only [List.mem_range]
  constructor
  · rintro ⟨count, short, rfl⟩
    have front := List.take_prefix count chain
    refine ⟨front, fun whole => ?_⟩
    have length := congrArg List.length whole
    simp only [List.length_take] at length
    omega
  · rintro ⟨front, proper⟩
    refine ⟨parts.length, ?_, (List.prefix_iff_eq_take.mp front).symm⟩
    exact Nat.lt_of_le_of_ne front.length_le fun same => proper (front.eq_of_length same)

section Walks

/-- Where a walk has come to: a directory, by a chain of parts. -/
structure Reached (desk : Desk) (here : List (List Char)) : Prop where
  chain : IsChain here
  directory : here ≠ [] → desk.isDirectory here = true

theorem Reached.above {here above : List (List Char)} (reached : desk.Reached here)
    (front : above <+: here) : desk.Reached above where
  chain := fun part among => reached.chain part (front.subset among)
  directory := by
    intro nonempty
    by_cases whole : above = here
    · exact whole ▸ reached.directory (whole ▸ nonempty)
    · have below : here ≠ [] := by
        rintro rfl
        exact nonempty (List.prefix_nil.mp front)
      obtain ⟨name, there, higher⟩ := isDirectory_iff.mp (reached.directory below)
      obtain ⟨further, -⟩ := mem_parents.mp higher
      refine isDirectory_iff.mpr ⟨name, there, mem_parents.mpr ⟨front.trans further, ?_⟩⟩
      rintro rfl
      exact whole (front.eq_of_length (Nat.le_antisymm front.length_le further.length_le))

theorem Reached.fits {here : List (List Char)} {part : List Char} (reached : desk.Reached here)
    (chain : IsChain (here ++ [part])) (vacant : desk.isDirectory (here ++ [part]) = false) :
    desk.Fits (joined (here ++ [part])) where
  above := by
    intro parts above nonempty
    rw [joined, String.toList_ofList, chain.parts] at above
    obtain ⟨front, proper⟩ := mem_parents.mp above
    rcases List.prefix_concat_iff.mp front with whole | shorter
    · exact absurd whole proper
    · exact (reached.above shorter).directory nonempty
  free := by
    intro parts chainToo same _
    rw [joined_injective chainToo chain same]
    exact vacant

/-- What the rest of a path leads to from what is by its front. -/
def onward (desk : Desk) (path rest : List (List Char)) : Place :=
  if desk.isFile (joined path) then
    if rest.isEmpty then .file (joined path) else .nowhere .notADirectory
  else if desk.isDirectory path then desk.walk (some path) rest
  else if rest.isEmpty then .vacant (some (joined path))
  else .nowhere .missing

/-- The directory above. -/
def back (here : Option (List (List Char))) : Option (List (List Char)) :=
  here.bind fun path => if path.isEmpty then none else some path.dropLast

end Walks

section Places

end Places

section Files

/-- The file of the desk that a path leads to, or would lead to if it were created. -/
def target? (desk : Desk) (path : String) : Option String :=
  (desk.place path).name?

/-- What can be seen of a desk. What waits is on its way into the file that was created last. -/
def view : View Desk where
  File := String
  aim := target?
  held desk name := desk.files.lookup name
  input := Desk.input
  printed := Desk.out
  Sends desk path text := ∃ front, text = front ++ desk.waiting ∧
    desk.delivered = (bytesOf front).length ∧
      ∀ name, desk.target? path = some name → desk.files.lookup name = some (bytesOf front)

variable (change : List UInt8 → List UInt8) (path desk)

variable {change path desk}

end Files

section Laws

end Laws

end Desk

namespace Run

open Desk

variable {path : String} {log : Log} {emitter : Emitter} {lines : List String}
  {here there : Desk} {fault : StreamFault}

end Run

end GantryCode
