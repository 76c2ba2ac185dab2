import PolySql.Proofs.Column.RoundTrip
import PolySql.Proofs.Column.Stored

namespace PolySql

namespace Binary64

open Float.Model
open UnpackedFloat (unpackExponent)

-- A number that has room for its exponent is packed as a finite one.
theorem unpackExponent_pack (s : UnpackedFloat.Sign) {m : Nat} {e : Int} (hm : 0 < m) (he : e < 972) :
    unpackExponent (UnpackedFloat.pack Format.binary64 (.finite s m e hm)) ≠ -1#11 := by
  have hbias : Format.exponentBias .binary64 = 1023 := rfl
  have hroom : ¬2 ^ 11 ≤ (e + 1023 + 52).toNat + 1 := by omega
  simp only [UnpackedFloat.pack, hbias, Nat.cast_ofNat, if_neg hroom]
  split
  case isTrue =>
    rw [UnpackedFloat.unpackExponent_packComponents]
    intro h
    have hbits : (e + 1023 + 52).toNat % 2 ^ 11 = 2047 := congrArg BitVec.toNat h
    omega
  case isFalse =>
    rw [UnpackedFloat.unpackExponent_packComponents]
    decide

theorem unpackExponent_pack_unpack {b : BitVec Format.binary64.numBits} (h : unpackExponent b ≠ -1#11) :
    unpackExponent (UnpackedFloat.pack Format.binary64 (UnpackedFloat.unpack Format.binary64 b)) ≠ -1#11 := by
  have hbias : Format.exponentBias .binary64 = 1023 := rfl
  have hlt : (unpackExponent b).toNat < 2047 := by
    have hle : (unpackExponent b).toNat < 2048 := (unpackExponent b).isLt
    have hne : (unpackExponent b).toNat ≠ 2047 := fun he => h (BitVec.eq_of_toNat_eq he)
    omega
  unfold UnpackedFloat.unpack
  dsimp only
  rw [if_neg h]
  split
  case isTrue hzero =>
    split
    case isTrue => simp [UnpackedFloat.pack, UnpackedFloat.packedZero]
    case isFalse =>
      have hzero : (unpackExponent b).toNat = 0 := congrArg BitVec.toNat hzero
      refine unpackExponent_pack _ _ ?_
      rw [hbias, hzero]
      decide
  case isFalse =>
    refine unpackExponent_pack _ _ ?_
    rw [hbias]
    omega

theorem isFinite_floatOfBits {u : UInt64} (h : u.toNat / 2 ^ 52 % 2 ^ 11 ≠ 2047) :
    (Float.ofBits u).isFinite = true := by
  have hexponent (b : BitVec Format.binary64.numBits) :
      unpackExponent b = -1#11 ↔ b.toNat / 2 ^ 52 % 2 ^ 11 = 2047 := by
    rw [← BitVec.toNat_inj]
    simp [unpackExponent, Nat.shiftRight_eq_div_pow]
  have hpack := unpackExponent_pack_unpack (mt (hexponent u.toBitVec).mp h)
  exact (isFinite_unpack _).mpr (mt (hexponent _).mpr hpack)

theorem isFinite_ofBits (negative : Bool) {magnitude : Nat} (h : magnitude < 2047 * 2 ^ 52) :
    isFinite (ofBits negative magnitude) = true := by
  have hsign : (if negative then twoTo 63 else 0) = if negative then 2 ^ 63 else 0 := rfl
  rw [isFinite_eq, ofBits, hsign]
  refine isFinite_floatOfBits ?_
  rw [UInt64.toNat_ofNat_of_lt']
  · split <;> omega
  · rw [UInt64.size]
    split <;> omega

theorem roundedDiv_le (num den : Nat) : roundedDiv num den ≤ num / den + 1 := by
  unfold roundedDiv
  dsimp only
  split_ifs <;> omega

theorem floorLog2_one {n : Nat} (h : n ≠ 0) : floorLog2 n 1 = n.log2 := by
  have hone : Nat.log2 1 = 0 := rfl
  have hle : 2 ^ n.log2 ≤ n := Nat.log2_self_le h
  simp [floorLog2, scaled, hone, hle]

-- An integer is scaled to 53 binary digits.
theorem scaled_div_lt (n : Nat) : (scaled n 1 (n.log2 - 52)).1 / (scaled n 1 (n.log2 - 52)).2 < 2 ^ 53 := by
  have hn : n < 2 ^ (n.log2 + 1) := Nat.lt_log2_self
  rw [scaled]
  split
  case isTrue =>
    have he : ((n.log2 : Int) - 52).toNat + 53 = n.log2 + 1 := by omega
    rw [Nat.one_mul]
    exact Nat.div_lt_of_lt_mul (by rwa [← he, Nat.pow_add] at hn)
  case isFalse =>
    have he : 53 = n.log2 + 1 + (-((n.log2 : Int) - 52)).toNat := by omega
    rw [Nat.div_one, he, Nat.pow_add]
    exact Nat.mul_lt_mul_of_pos_right hn (Nat.two_pow_pos _)

theorem isFinite_ofInt (i : Int64) : isFinite (ofInt i.toInt) = true := by
  rw [ofInt]
  split
  case isTrue => exact isFinite_ofBits _ (by decide)
  case isFalse h =>
    generalize hn : i.toInt.natAbs = n
    have hne : n ≠ 0 := by omega
    have hsize : n.log2 ≤ 63 := by
      have hlow := i.le_toInt
      have hhigh := i.toInt_lt
      rw [← Nat.lt_succ_iff, Nat.log2_lt hne]
      omega
    have hmost : max ((n.log2 : Int) - 52) (-1074) = n.log2 - 52 := by omega
    have hm := roundedDiv_le (scaled n 1 (n.log2 - 52)).1 (scaled n 1 (n.log2 - 52)).2
    have hdiv := scaled_div_lt n
    have htwo : twoTo 52 = 2 ^ 52 := rfl
    rw [ofRatio, if_neg hne, floorLog2_one hne]
    dsimp only
    rw [hmost, htwo]
    split
    case isTrue => exact isFinite_ofBits _ (by omega)
    case isFalse => exact isFinite_ofBits _ (by omega)

end Binary64

-- The double of a value, if it is a NaN or an infinity.
def Value.nonFinite? : Value → Option Float
  | .float x => if Binary64.isFinite x then none else some x
  | _ => none

namespace Dialect

variable (d : Dialect)

theorem nonFinite?_storedBool (b : Bool) : (d.storedBool b).nonFinite? = none := by
  rw [storedBool]
  split <;> rfl

theorem nonFinite?_storedDecimal (x : Decimal) : (d.storedDecimal x).nonFinite? = none := by
  rw [storedDecimal]
  split <;> rfl

theorem nonFinite?_storedUuid (u : Uuid) : (d.storedUuid u).nonFinite? = none := by
  rw [storedUuid]
  split <;> rfl

theorem nonFinite?_storedTemporal {native : Value} (h : native.nonFinite? = none) (s : List Char) :
    (d.storedTemporal native s).nonFinite? = none := by
  rw [storedTemporal]
  split
  case h_1 => exact h
  case h_2 => rfl

-- Without a column doubles are stored as they are.
theorem nonFinite?_stored (v : Value) : (d.stored v).nonFinite? = v.nonFinite? := by
  cases v
  case bool b => exact d.nonFinite?_storedBool b
  case decimal x => exact d.nonFinite?_storedDecimal x
  case uuid u => exact d.nonFinite?_storedUuid u
  case date | time | timestamp | timestampTz => exact d.nonFinite?_storedTemporal rfl _
  all_goals rfl

end Dialect

-- No column stores a NaN or an infinity. The integers of a column of doubles all have a double near them.
theorem ColumnType.nonFinite?_of_encode? {t : ColumnType} {d : Dialect} {v x : Value} (h : t.encode? d v = some x) :
    x.nonFinite? = none := by
  revert h
  fun_cases encode?
  case case4 hy =>
    rintro ⟨⟩
    exact if_pos hy
  case case6 =>
    rintro ⟨⟩
    exact if_pos (Binary64.isFinite_ofInt _)
  case case10 =>
    rw [Option.map_eq_some_iff]
    rintro ⟨u, -, rfl⟩
    exact d.nonFinite?_storedUuid u
  case case20 =>
    rw [Option.map_eq_some_iff]
    rintro ⟨n, -, rfl⟩
    split <;> rfl
  case case11 | case12 | case13 | case14 =>
    rintro ⟨⟩
    exact d.nonFinite?_storedTemporal rfl _
  case case7 | case9 | case18 | case19 =>
    rintro ⟨⟩
    simp only [d.nonFinite?_storedBool, d.nonFinite?_storedDecimal, d.nonFinite?_storedUuid]
  all_goals rintro ⟨⟩ <;> rfl

theorem Context.nonFinite?_of_stored {cx : Context} {hint : Option ColumnType} {v x : Value}
    (h : cx.stored hint v = .ok x) : x.nonFinite? = if hint.isSome then none else v.nonFinite? := by
  cases hint
  case none =>
    cases h
    exact cx.dialect.nonFinite?_stored v
  case some t => exact ColumnType.nonFinite?_of_encode? (ColumnType.encode_eq_ok.mp h)

end PolySql
