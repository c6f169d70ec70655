import GantryCode.Binary64
import GantryCode.Writer.Basic
import Mathlib

namespace GantryCode

/-! Numbers up to the sign of a zero.

A sum with zero is the other number, except that it can be the other zero. Neither a
difference nor a text tells the two zeros apart.
-/

namespace Binary64

open Float.Model (Format UnpackedFloat)
open Float.Model.UnpackedFloat (packComponents unpackMantissa unpackExponent unpackSign
  packedNaN Sign)

section Packing

variable {bits : BitVec Format.binary64.numBits}

theorem toBitVec_ofBitVec (sign : BitVec 1) : (Sign.ofBitVec sign).toBitVec = sign := by
  revert sign
  decide

/-- A pattern of bits is what its three fields make. -/
theorem packComponents_fields {exponent : BitVec Format.binary64.exponentBits}
    {mantissa : BitVec Format.binary64.mantissaBitsWithoutImplicit}
    (exponentField : unpackExponent bits = exponent)
    (mantissaField : unpackMantissa bits = mantissa) :
    packComponents .binary64 (Sign.ofBitVec (unpackSign bits)) exponent mantissa = bits := by
  subst exponentField mantissaField
  rw [packComponents, toBitVec_ofBitVec]
  simp only [unpackSign, unpackExponent, unpackMantissa, BitVec.extractLsb]
  ext i inside
  grind

theorem toNat_implicit (mantissa : BitVec 52) :
    (1#1 ++ mantissa).toNat = 2 ^ 52 + mantissa.toNat := by
  rw [BitVec.toNat_append, ← Nat.shiftLeft_add_eq_or_of_lt mantissa.isLt]
  rfl

theorem log2_implicit (mantissa : BitVec 52) : (1#1 ++ mantissa).toNat.log2 = 52 := by
  have bound := mantissa.isLt
  rw [toNat_implicit]
  exact (Nat.log2_eq_iff (by omega)).mpr ⟨by omega, by omega⟩

/-- A mantissa without its first bit keeps its exponent field empty. -/
theorem pack_subnormal (sign : Sign) {mantissa : BitVec 52} (positive : 0 < mantissa.toNat) :
    UnpackedFloat.pack .binary64 (.finite sign mantissa.toNat (-1074) positive) =
      packComponents .binary64 sign 0#_ mantissa := by
  have small : mantissa.toNat.log2 < 52 :=
    (Nat.log2_lt (Nat.ne_of_gt positive)).mpr mantissa.isLt
  have short : ¬mantissa.toNat.log2 + 1 = Format.binary64.mantissaBits := by
    change ¬mantissa.toNat.log2 + 1 = 53
    omega
  rw [UnpackedFloat.pack, if_neg (by decide), if_neg short, BitVec.ofNat_toNat,
    BitVec.setWidth_eq]

/-- A mantissa with its first bit leaves that bit out. -/
theorem pack_normal (sign : Sign) {exponent : BitVec 11} (finite : exponent ≠ -1#11)
    (mantissa : BitVec 52) (positive : 0 < (1#1 ++ mantissa).toNat) :
    UnpackedFloat.pack .binary64
        (.finite sign (1#1 ++ mantissa).toNat ((exponent.toNat : Int) - 1075) positive) =
      packComponents .binary64 sign exponent mantissa := by
  have biased : ((exponent.toNat : Int) - 1075 + Format.binary64.exponentBias +
      Format.binary64.mantissaBitsWithoutImplicit).toNat = exponent.toNat := by
    change ((exponent.toNat : Int) - 1075 + 1023 + 52).toNat = exponent.toNat
    omega
  have below : ¬2 ^ Format.binary64.exponentBits ≤ exponent.toNat + 1 := by
    have bound := exponent.isLt
    have different : exponent.toNat ≠ 2 ^ 11 - 1 := fun same =>
      finite (BitVec.eq_of_toNat_eq same)
    change ¬2 ^ 11 ≤ exponent.toNat + 1
    omega
  have kept : BitVec.ofNat 52 (1#1 ++ mantissa).toNat = mantissa := by
    rw [toNat_implicit]
    refine BitVec.eq_of_toNat_eq ?_
    have bound := mantissa.isLt
    rw [BitVec.toNat_ofNat]
    omega
  have long : (1#1 ++ mantissa).toNat.log2 + 1 = Format.binary64.mantissaBits := by
    rw [log2_implicit]
    rfl
  rw [UnpackedFloat.pack]
  simp only [biased]
  rw [if_neg below, if_pos long, BitVec.ofNat_toNat, BitVec.setWidth_eq]
  exact congrArg _ kept

theorem pack_unpack_bits (valid : Format.binary64.Valid bits) :
    UnpackedFloat.pack .binary64 (UnpackedFloat.unpack .binary64 bits) = bits := by
  unfold UnpackedFloat.unpack
  dsimp only
  split
  · next infinite =>
      split
      · next empty => exact packComponents_fields infinite empty
      · next filled => exact (valid.eq_packedNaN infinite filled).symm
  · next finite =>
      split
      · next small =>
          split
          · next empty => exact packComponents_fields small empty
          · next filled =>
              have packed := pack_subnormal (Sign.ofBitVec (unpackSign bits))
                (Nat.pos_of_ne_zero fun zero => filled (BitVec.eq_of_toNat_eq zero))
              refine Eq.trans ?_ (packed.trans (packComponents_fields small rfl))
              congr 2
              rw [small]
              rfl
      · exact (pack_normal _ finite _ _).trans (packComponents_fields rfl rfl)

/-- A number is unpacked without loss. -/
theorem pack_unpack (x : Float) : Float.ofModel (.pack x.toModel.unpack) = x := by
  obtain ⟨bits, valid⟩ := x
  have same := pack_unpack_bits valid
  rw [Float.Model.unpack, Float.Model.pack]
  simp only [same, UInt64.ofBitVec_toBitVec]

end Packing

section Zeros

variable {x y z : Float}

def IsZero (x : Float) : Prop :=
  ∃ sign, x.toModel.unpack = .zero sign

theorem isZero_zero : IsZero 0 :=
  ⟨.positive, rfl⟩

theorem isZero_pack (sign : Sign) : IsZero (.ofModel (.pack (.zero sign))) :=
  ⟨sign, by cases sign <;> rfl⟩

/-- Comparison with zero does not see the sign. -/
theorem IsZero.beq (zero : IsZero x) : (x == 0) = true := by
  obtain ⟨sign, unpacked⟩ := zero
  change UnpackedFloat.beq x.toModel.unpack (.zero .positive) = true
  rw [unpacked]
  rfl

/-- Numbers that differ in nothing but the sign of a zero. -/
def SameValue (x y : Float) : Prop :=
  x = y ∨ IsZero x ∧ IsZero y

theorem SameValue.refl (x : Float) : SameValue x x :=
  .inl rfl

theorem SameValue.symm (same : SameValue x y) : SameValue y x :=
  same.imp Eq.symm And.symm

theorem SameValue.trans (first : SameValue x y) (second : SameValue y z) : SameValue x z := by
  rcases first with rfl | ⟨left, middle⟩
  · exact second
  · rcases second with rfl | ⟨-, right⟩
    · exact .inr ⟨left, middle⟩
    · exact .inr ⟨left, right⟩

/-- The same parts, or the parts of two zeros. -/
def SameParts (parts others : UnpackedFloat) : Prop :=
  parts = others ∨ (∃ sign, parts = .zero sign) ∧ ∃ sign, others = .zero sign

theorem SameParts.sameValue {parts others : UnpackedFloat} (same : SameParts parts others) :
    SameValue (.ofModel (.pack parts)) (.ofModel (.pack others)) := by
  rcases same with rfl | ⟨⟨sign, rfl⟩, other, rfl⟩
  · exact .refl _
  · exact .inr ⟨isZero_pack sign, isZero_pack other⟩

theorem sameParts_add_zero (parts : UnpackedFloat) (sign : Sign) :
    SameParts (.add .binary64 parts (.zero sign)) parts := by
  cases parts with
  | zero other =>
      refine .inr ⟨?_, other, rfl⟩
      rw [UnpackedFloat.add]
      split <;> exact ⟨_, rfl⟩
  | notANumber => exact .inl rfl
  | infinity other => exact .inl rfl
  | finite other mantissa exponent positive => exact .inl rfl

theorem sameParts_sub_zero (parts : UnpackedFloat) (sign other : Sign) :
    SameParts (.sub .binary64 parts (.zero sign)) (.sub .binary64 parts (.zero other)) := by
  cases parts with
  | zero first =>
      refine .inr ⟨?_, ?_⟩ <;> rw [UnpackedFloat.sub] <;> split <;> exact ⟨_, rfl⟩
  | notANumber => exact .inl rfl
  | infinity first => exact .inl rfl
  | finite first mantissa exponent positive => exact .inl rfl

theorem sameParts_zero_sub (sign other : Sign) (parts : UnpackedFloat) :
    SameParts (.sub .binary64 (.zero sign) parts) (.sub .binary64 (.zero other) parts) := by
  cases parts with
  | zero second =>
      refine .inr ⟨?_, ?_⟩ <;> rw [UnpackedFloat.sub] <;> split <;> exact ⟨_, rfl⟩
  | notANumber => exact .inl rfl
  | infinity second => exact .inl rfl
  | finite second mantissa exponent positive => exact .inl rfl

/-- Adding zero changes no value, except that it can change the sign of a zero. -/
theorem sameValue_add_zero (x : Float) (zero : IsZero z) : SameValue (x + z) x := by
  obtain ⟨sign, unpacked⟩ := zero
  have same := (sameParts_add_zero x.toModel.unpack sign).sameValue
  rw [← unpacked, pack_unpack] at same
  exact same

theorem sameValue_sub_zero (x : Float) (left : IsZero y) (right : IsZero z) :
    SameValue (x - y) (x - z) := by
  obtain ⟨sign, unpacked⟩ := left
  obtain ⟨other, unpackedToo⟩ := right
  have same := (sameParts_sub_zero x.toModel.unpack sign other).sameValue
  rw [← unpacked, ← unpackedToo] at same
  exact same

theorem sameValue_zero_sub (left : IsZero x) (right : IsZero y) (z : Float) :
    SameValue (x - z) (y - z) := by
  obtain ⟨sign, unpacked⟩ := left
  obtain ⟨other, unpackedToo⟩ := right
  have same := (sameParts_zero_sub sign other z.toModel.unpack).sameValue
  rw [← unpacked, ← unpackedToo] at same
  exact same

theorem SameValue.sub {x' y' : Float} (first : SameValue x x') (second : SameValue y y') :
    SameValue (x - y) (x' - y') := by
  have left : SameValue (x - y) (x' - y) := by
    rcases first with rfl | ⟨zero, zero'⟩
    · exact .refl _
    · exact sameValue_zero_sub zero zero' y
  have right : SameValue (x' - y) (x' - y') := by
    rcases second with rfl | ⟨zero, zero'⟩
    · exact .refl _
    · exact sameValue_sub_zero x' zero zero'
  exact left.trans right

end Zeros

end Binary64

namespace Decimal

open Binary64

/-- A zero is written without its sign and without places. -/
theorem rounded_isZero (places : Nat) {x : Float} (zero : IsZero x) : rounded places x = "0" := by
  obtain ⟨sign, unpacked⟩ := zero
  have whole : exactPlaces x = 0 := by rw [exactPlaces, unpacked]
  rw [rounded, whole, Nat.min_zero, fixedChars, unpacked]
  cases sign <;> decide

theorem rounded_sameValue (places : Nat) {x y : Float} (same : SameValue x y) :
    rounded places x = rounded places y := by
  rcases same with rfl | ⟨left, right⟩
  · rfl
  · rw [rounded_isZero places left, rounded_isZero places right]

end Decimal

theorem Writer.valueText_sameValue (writer : Writer) (whole : Bool) {x y : Float}
    (same : Binary64.SameValue x y) : writer.valueText whole x = writer.valueText whole y := by
  have shown := fun places => Decimal.rounded_sameValue places same
  simp only [valueText, shown]

end GantryCode
