import Mathlib
import PolySql.ColumnType
import PolySql.Dialect.Builtin
import PolySql.Proofs.Text.Calendar
import PolySql.Proofs.Text.Printed

namespace PolySql

namespace Binary64

open Float.Model

-- A double is finite unless all bits of its exponent are set.
theorem isFinite_unpack (b : BitVec 64) :
    (UnpackedFloat.unpack Format.binary64 b).isFinite = true ↔ b.toNat / 2 ^ 52 % 2 ^ 11 ≠ 2047 := by
  have hexponent : @UnpackedFloat.unpackExponent Format.binary64 b = -1#11 ↔
      b.toNat / 2 ^ 52 % 2 ^ 11 = 2047 := by
    rw [← BitVec.toNat_inj]
    simp [UnpackedFloat.unpackExponent, Nat.shiftRight_eq_div_pow]
  simp only [UnpackedFloat.unpack]
  split
  case isTrue h =>
    simp only [hexponent.mp h, ne_eq, not_true_eq_false, iff_false]
    split <;> simp [UnpackedFloat.isFinite]
  case isFalse h =>
    simp only [mt hexponent.mpr h, ne_eq, not_false_eq_true, iff_true]
    split
    · split <;> rfl
    · rfl

theorem isFinite_eq (x : Float) : isFinite x = x.isFinite := by
  rw [Bool.eq_iff_iff]
  refine Iff.trans ?_ (isFinite_unpack x.toBits.toBitVec).symm
  have hbits : x.toBits.toBitVec.toNat / 2 ^ 52 % 2 ^ 11 = x.toBits.toNat / twoTo 52 % twoTo 11 := rfl
  rw [hbits]
  simp only [isFinite, parts]
  split_ifs <;> simp_all

end Binary64

theorem int64?_toInt (i : Int64) : int64? i.toInt = some i := by
  rw [int64?, if_pos ⟨i.le_toInt, i.toInt_lt⟩, Int64.ofInt_toInt]

theorem Decimal.sameNumber_unsignedZero (d : Decimal) : d.unsignedZero.sameNumber d = true := by
  rw [sameNumber, beq_iff_eq, scaledValue, scaledValue]
  by_cases h : d.coefficient = 0
  case pos => simp [unsignedZero, h]
  case neg => simp [unsignedZero, h]

namespace Value

-- The kind of a value that is not `NULL`.
def kind? : Value → Option Kind
  | null => none
  | bool _ => some .bool
  | int _ => some .int
  | float _ => some .float
  | decimal _ => some .decimal
  | text _ => some .text
  | bytes _ => some .bytes
  | uuid _ => some .uuid
  | date _ => some .date
  | time _ => some .time
  | timestamp _ => some .timestamp
  | timestampTz _ => some .timestampTz

-- Equality, but zero as a decimal may have lost its sign.
def Agrees : Value → Value → Prop
  | decimal a, decimal b => a.sameNumber b = true ∧ a.scale = b.scale
  | v, w => v = w

end Value

namespace ColumnType

def isTemporal : ColumnType → Bool
  | date | time | timestamp _ => true
  | _ => false

-- The values of its own kind that a column cannot hold.
def Refuses : ColumnType → Value → Prop
  | int width, .int i => i.toInt < -2 ^ (width.bits - 1) ∨ 2 ^ (width.bits - 1) ≤ i.toInt
  | float _, .float x => x.isFinite = false
  | string (some n), .text s => n < s.length
  | enum _ variants _, .text s => s ∉ variants.names
  | _, _ => False

-- A value has no representation if it is refused, and comes back from its representation if it is not.
structure Keeps (t : ColumnType) (d : Dialect) (v : Value) : Prop where
  refused : t.Refuses v → t.encode? d v = none
  stored : ¬t.Refuses v → ∃ x w, t.encode? d v = some x ∧ t.decode? x = some w ∧ w.Agrees v ∧ (x = .null ↔ v = .null)

variable {t : ColumnType} {d : Dialect} {v w x : Value}

theorem holds_iff {width : IntWidth} {i : Int64} : width.holds i.toInt = true ↔ ¬(int width).Refuses (.int i) := by
  have htwo : ((twoTo (width.bits - 1) : Nat) : Int) = 2 ^ (width.bits - 1) := by norm_cast
  simp only [IntWidth.holds, Refuses, htwo, Bool.and_eq_true, decide_eq_true_eq]
  omega

theorem isFinite_iff {width : FloatWidth} {y : Float} :
    Binary64.isFinite y = true ↔ ¬(float width).Refuses (.float y) := by
  rw [Binary64.isFinite_eq, Refuses, Bool.not_eq_false]

namespace Keeps

theorem of_refused (h : t.Refuses v) (he : t.encode? d v = none) : t.Keeps d v :=
  ⟨fun _ => he, fun hn => absurd h hn⟩

theorem of_stored (h : ¬t.Refuses v) (hv : v ≠ .null) (he : t.encode? d v = some x) (hx : x ≠ .null)
    (hd : t.decode? x = some w) (ha : w.Agrees v) : t.Keeps d v :=
  ⟨fun hr => absurd hr h, fun _ => ⟨x, w, he, hd, ha, iff_of_false hx hv⟩⟩

theorem null (t : ColumnType) (d : Dialect) : t.Keeps d .null := by
  have hrefuses : ¬t.Refuses .null := by cases t <;> simp [Refuses]
  have he : t.encode? d .null = some .null := by cases t <;> rfl
  exact ⟨fun h => absurd h hrefuses, fun _ => ⟨.null, .null, he, rfl, rfl, Iff.rfl⟩⟩

theorem int (width : IntWidth) (i : Int64) : (int width).Keeps d (.int i) := by
  by_cases h : (ColumnType.int width).Refuses (.int i)
  case pos => exact of_refused h (if_neg (by rwa [holds_iff, not_not]))
  case neg =>
    have hranged : decodeInt?.ranged width i.toInt = some i := (if_pos (holds_iff.mpr h)).trans (int64?_toInt i)
    exact of_stored h nofun (if_pos (holds_iff.mpr h)) nofun (congrArg (Option.map Value.int) hranged) rfl

theorem float (width : FloatWidth) (y : Float) : (float width).Keeps d (.float y) := by
  by_cases h : (ColumnType.float width).Refuses (.float y)
  case pos => exact of_refused h (if_neg (by rwa [isFinite_iff, not_not]))
  case neg => exact of_stored h nofun (if_pos (isFinite_iff.mpr h)) nofun rfl rfl

theorem bool (b : Bool) : bool.Keeps d (.bool b) := by
  have hdecode : d.storedBool b ≠ .null ∧ ColumnType.bool.decode? (d.storedBool b) = some (.bool b) := by
    rw [Dialect.storedBool]
    cases d.booleanForm
    case native => exact ⟨nofun, rfl⟩
    case integer => cases b <;> exact ⟨nofun, rfl⟩
  exact of_stored nofun nofun rfl hdecode.1 hdecode.2 rfl

theorem blob (bytes : List UInt8) : blob.Keeps d (.bytes bytes) :=
  of_stored nofun nofun rfl nofun rfl rfl

theorem uuid (u : Uuid) : uuid.Keeps d (.uuid u) := by
  have hdecode : d.storedUuid u ≠ .null ∧ ColumnType.uuid.decode? (d.storedUuid u) = some (.uuid u) := by
    rw [Dialect.storedUuid]
    cases d.uuidForm
    case native => exact ⟨nofun, rfl⟩
    case binary =>
      have hoctets : Uuid.ofOctets? u.octets = some u := dif_pos u.length_octets
      exact ⟨nofun, congrArg (Option.map Value.uuid) hoctets⟩
    case text =>
      have htext : decodeUuid? (.text (String.ofList u.text)) = some u := by
        rw [decodeUuid?, String.toList_ofList, Uuid.read?_text]
      have hdecode := congrArg (Option.map Value.uuid) htext
      exact ⟨nofun, hdecode⟩
  exact of_stored nofun nofun rfl hdecode.1 hdecode.2 rfl

theorem string (most : Option Nat) (s : String) : (string most).Keeps d (.text s) := by
  cases most
  case none => exact of_stored nofun nofun rfl nofun rfl rfl
  case some n =>
    by_cases h : n < s.length
    case pos => exact of_refused h (if_neg (Nat.not_le.mpr h))
    case neg => exact of_stored h nofun (if_pos (Nat.not_lt.mp h)) nofun rfl rfl

-- The text of a decimal comes back without the sign of a zero.
theorem decimal (precision scale : Option Nat) (y : Decimal) : (decimal precision scale).Keeps d (.decimal y) := by
  have hdecode : d.storedDecimal y ≠ .null ∧ ∃ z, (ColumnType.decimal precision scale).decode? (d.storedDecimal y) =
      some (.decimal z) ∧ z.sameNumber y = true ∧ z.scale = y.scale := by
    rw [Dialect.storedDecimal]
    cases d.decimalForm
    case native => exact ⟨nofun, y, rfl, beq_self_eq_true _, rfl⟩
    case text =>
      have htext : decodeDecimal? (.text (String.ofList y.text)) = some y.unsignedZero := by
        rw [decodeDecimal?, String.toList_ofList, DecimalText.read?_text]
      have hdecode := congrArg (Option.map Value.decimal) htext
      exact ⟨nofun, _, hdecode, y.sameNumber_unsignedZero, rfl⟩
  obtain ⟨hnull, z, hdecode, hagrees⟩ := hdecode
  exact of_stored nofun nofun rfl hnull hdecode hagrees

-- Of two variants with one name, the first one's position is stored.
theorem enum (name : String) (variants : Variants) (storage : EnumStorage) (s : String) :
    (enum name variants storage).Keeps d (.text s) := by
  by_cases h : s ∈ variants.names
  case neg =>
    have hnone : variants.names.idxOf? s = none := List.idxOf?_eq_none_iff.mpr h
    exact of_refused h (congrArg (Option.map _) hnone)
  case pos =>
    obtain ⟨i, hi⟩ := Option.isSome_iff_exists.mp (List.isSome_idxOf?.mpr h)
    have hencode (f : Nat → Value) : (variants.names.idxOf? s).map f = some (f i) := by rw [hi, Option.map_some]
    cases storage
    case name =>
      have hdecode : decodeEnum? variants (.text s) = some s := if_pos (List.contains_iff_mem.mpr h)
      exact of_stored (not_not.mpr h) nofun (hencode _) nofun (congrArg (Option.map Value.text) hdecode) rfl
    case ordinal =>
      obtain ⟨hlt, hget, -⟩ := List.idxOf?_eq_some_iff.mp hi
      have hordinal : (Int64.ofNat i).toInt = i := Int64.toInt_ofNat_of_lt (Nat.lt_of_lt_of_le hlt variants.length_le)
      have hdecode : decodeEnum? variants (.int (Int64.ofNat i)) = some s := by
        rw [decodeEnum?, hordinal, if_neg (by omega), Int.toNat_natCast, List.getElem?_eq_getElem hlt, hget]
      exact of_stored (not_not.mpr h) nofun (hencode _) nofun (congrArg (Option.map Value.text) hdecode) rfl

end Keeps

theorem keeps_of_kind (ht : t.isTemporal = false) (hv : ∀ k ∈ v.kind?, k = t.kind) : t.Keeps d v := by
  cases t
  case int => cases v <;> first | exact .null _ _ | exact .int _ _ | cases hv _ rfl
  case float => cases v <;> first | exact .null _ _ | exact .float _ _ | cases hv _ rfl
  case bool => cases v <;> first | exact .null _ _ | exact .bool _ | cases hv _ rfl
  case blob => cases v <;> first | exact .null _ _ | exact .blob _ | cases hv _ rfl
  case uuid => cases v <;> first | exact .null _ _ | exact .uuid _ | cases hv _ rfl
  case string => cases v <;> first | exact .null _ _ | exact .string _ _ | cases hv _ rfl
  case decimal => cases v <;> first | exact .null _ _ | exact .decimal _ _ _ | cases hv _ rfl
  case enum => cases v <;> first | exact .null _ _ | exact .enum _ _ _ _ | cases hv _ rfl
  all_goals cases ht

theorem encode_of_some (h : t.encode? d v = some x) : t.encode d v = .ok x := by
  rw [encode, h]

theorem decode_of_some (h : t.decode? v = some x) : t.decode v = .ok x := by
  rw [decode, h]

theorem stored_values_return (ht : t.isTemporal = false) (hv : ∀ k ∈ v.kind?, k = t.kind) :
    (t.Refuses v → t.encode d v = .error (v.mismatch t.text)) ∧
    (¬t.Refuses v → ∃ x w, t.encode d v = .ok x ∧ t.decode x = .ok w ∧ w.Agrees v ∧ (x = .null ↔ v = .null)) := by
  have hkeeps : t.Keeps d v := keeps_of_kind ht hv
  refine ⟨fun h => ?_, fun h => ?_⟩
  case refine_1 => rw [encode, hkeeps.refused h]
  case refine_2 =>
    obtain ⟨x, w, he, hd, hagrees⟩ := hkeeps.stored h
    exact ⟨x, w, encode_of_some he, decode_of_some hd, hagrees⟩

theorem size_stored_by_position :
    let size := enum "size" ⟨["S", "M", "M"], by decide⟩ .ordinal
    size.encode .oracle (.text "m") = .error ((Value.text "m").mismatch size.text) ∧
    ∃ x w, size.encode .oracle (.text "M") = .ok x ∧ size.decode x = .ok w ∧ w.Agrees (.text "M") ∧
      (x = .null ↔ Value.text "M" = .null) :=
  ⟨(stored_values_return rfl (by rintro _ ⟨⟩; rfl)).1 (by simp [Refuses]),
    (stored_values_return rfl (by rintro _ ⟨⟩; rfl)).2 (by simp [Refuses])⟩

theorem decode?_storedTemporal {native : Value} {text : List Char} (hnative : t.decode? native = some v)
    (htext : t.decode? (.text (String.ofList text)) = some v) : t.decode? (d.storedTemporal native text) = some v := by
  rw [Dialect.storedTemporal]
  cases d.temporalForm
  case native => exact hnative
  case text => exact htext

theorem decode?_date (y : Date) : date.decode? (d.storedTemporal (.date y) y.text) = some (.date y) := by
  refine decode?_storedTemporal rfl ?_
  simp [decode?, decodeDate?, Date.read?_text]

theorem decode?_time (y : Time) : time.decode? (d.storedTemporal (.time y) y.text) = some (.time y) := by
  refine decode?_storedTemporal rfl ?_
  simp [decode?, decodeTime?, Time.read?_text]

theorem decode?_timestamp (y : Timestamp) :
    (timestamp false).decode? (d.storedTemporal (.timestamp y) (y.text ' ')) = some (.timestamp y) := by
  refine decode?_storedTemporal rfl ?_
  simp [decode?, decodeTimestamp?, Timestamp.read?_text]

-- The text of a timestamp with a zone cannot be read if its year has a sign.
def Loses (d : Dialect) : Value → Prop
  | .timestampTz y => d.temporalForm = .text ∧ (y.date.year < 0 ∨ 9999 < y.date.year)
  | _ => False

theorem decode?_zoned (h : ¬Loses d (.timestampTz y)) :
    (timestamp true).decode? (d.storedTemporal (.timestampTz y) y.zonedText) = some (.timestampTz y) := by
  rw [Dialect.storedTemporal]
  cases hform : d.temporalForm
  case native => rfl
  case text =>
    have hyear : 0 ≤ y.date.year ∧ y.date.year ≤ 9999 := by
      simp [Loses, hform] at h
      omega
    simp [decode?, decodeTimestampTz?, Timestamp.readZoned?_text hyear]

theorem decode?_zoned_eq_none (h : Loses d (.timestampTz y)) :
    (timestamp true).decode? (d.storedTemporal (.timestampTz y) y.zonedText) = none := by
  obtain ⟨hform, hyear⟩ := h
  rw [Dialect.storedTemporal, hform]
  simp [decode?, decodeTimestampTz?, Timestamp.readZoned?_eq_none hyear]

theorem exists_stored (ht : t.isTemporal = true) (hv : ∀ k ∈ v.kind?, k = t.kind) (h : ¬Loses d v) :
    ∃ x, t.encode? d v = some x ∧ t.decode? x = some v := by
  cases t
  case date =>
    cases v
    case null => exact ⟨_, rfl, rfl⟩
    case date y => exact ⟨_, rfl, decode?_date y⟩
    all_goals cases hv _ rfl
  case time =>
    cases v
    case null => exact ⟨_, rfl, rfl⟩
    case time y => exact ⟨_, rfl, decode?_time y⟩
    all_goals cases hv _ rfl
  case timestamp zoned =>
    cases zoned <;> cases v
    case false.null | true.null => exact ⟨_, rfl, rfl⟩
    case false.timestamp y => exact ⟨_, rfl, decode?_timestamp y⟩
    case true.timestampTz y => exact ⟨_, rfl, decode?_zoned h⟩
    all_goals cases hv _ rfl
  all_goals cases ht

theorem exists_lost (ht : t.isTemporal = true) (hv : ∀ k ∈ v.kind?, k = t.kind) (h : Loses d v) :
    ∃ x, t.encode? d v = some x ∧ t.decode? x = none := by
  cases v
  case timestampTz y =>
    cases t
    case timestamp zoned =>
      cases zoned
      case false => cases hv _ rfl
      case true => exact ⟨_, rfl, decode?_zoned_eq_none h⟩
    case date | time => cases hv _ rfl
    all_goals cases ht
  all_goals cases h

theorem temporal_values_return (ht : t.isTemporal = true) (hv : ∀ k ∈ v.kind?, k = t.kind) :
    ∃ x, t.encode d v = .ok x ∧ (Loses d v → t.decode x = .error (x.mismatch t.text)) ∧
      (¬Loses d v → t.decode x = .ok v) := by
  by_cases h : Loses d v
  case pos =>
    obtain ⟨x, he, hd⟩ := exists_lost ht hv h
    refine ⟨x, encode_of_some he, fun _ => ?_, fun hn => absurd h hn⟩
    rw [decode, hd]
  case neg =>
    obtain ⟨x, he, hd⟩ := exists_stored ht hv h
    exact ⟨x, encode_of_some he, fun hl => absurd hl h, fun _ => decode_of_some hd⟩

def leapSecond : Timestamp :=
  ⟨⟨9999, 12, 31, by decide⟩, ⟨23, 59, 59, 1000000001, by decide⟩⟩

theorem leap_second_returns : ∃ x, (timestamp true).encode .sqlite (.timestampTz leapSecond) = .ok x ∧
    (timestamp true).decode x = .ok (.timestampTz leapSecond) := by
  obtain ⟨x, he, -, hd⟩ := temporal_values_return (t := timestamp true) (d := .sqlite) (v := .timestampTz leapSecond) rfl
    (by rintro _ ⟨⟩; rfl)
  exact ⟨x, he, hd (by simp [Loses, leapSecond])⟩

def farNewYear : Timestamp :=
  ⟨⟨10000, 1, 1, by decide⟩, ⟨0, 0, 0, 0, by decide⟩⟩

theorem signed_year_not_read : let text := Value.text "+10000-01-01T00:00:00Z"
    (timestamp true).encode .sqlite (.timestampTz farNewYear) = .ok text ∧
    (timestamp true).decode text = .error (text.mismatch (timestamp true).text) :=
  ⟨rfl, rfl⟩

end ColumnType

end PolySql
