import GantryCode.Text.Utf8

namespace GantryCode.Yaml

/-! What can be wrong with a YAML file. -/

inductive Fault where
  | malformed
  | unfinished
  | undecodable (fault : Text.Utf8.Fault)
  | codeOutOfRange
  | codeTooLarge
  | badInteger (base : Nat) (digits : String)
  | tooManyDigits (count : Nat)
  | integerTooLarge
deriving DecidableEq, Repr

end GantryCode.Yaml
