import PolySql.Execution.Rows
import PolySql.Proofs.Column.RoundTrip
import PolySql.Proofs.Sql.Outcome
import PolySql.Query.TypedColumn

namespace PolySql

theorem Value.kind?_eq_none {v : Value} : v.kind? = none ↔ v = .null := by
  cases v <;> simp [kind?]

theorem toInt_of_int64? {n : Int} {i : Int64} (h : int64? n = some i) : i.toInt = n := by
  rw [int64?] at h
  split at h <;> cases h
  case isTrue hn => exact Int64.toInt_ofInt_of_le hn.1 hn.2

namespace ColumnType

variable {t : ColumnType} {d : Dialect} {v x : Value}

-- What is read is `NULL` exactly if the stored value is, and of the column's kind otherwise.
theorem kind?_of_decode? (h : t.decode? x = some v) : v.kind? = x.kind?.map fun _ => t.kind := by
  unfold decode? at h
  split at h
  case h_1 =>
    cases h
    rfl
  case h_2 x hx =>
    obtain ⟨k, hk⟩ := Option.ne_none_iff_exists'.mp (mt Value.kind?_eq_none.mp hx)
    rw [hk]
    cases t
    case blob =>
      dsimp only at h
      split at h <;> cases h
      rfl
    case timestamp zoned =>
      cases zoned
      all_goals
        obtain ⟨_, -, rfl⟩ := Option.map_eq_some_iff.mp h
        rfl
    all_goals
      obtain ⟨_, -, rfl⟩ := Option.map_eq_some_iff.mp h
      rfl

theorem eq_null_iff_of_decode? (h : t.decode? x = some v) : v = .null ↔ x = .null := by
  rw [← Value.kind?_eq_none, kind?_of_decode? h, Option.map_eq_none_iff, Value.kind?_eq_none]

theorem kind?_of_decode?_of_ne (h : t.decode? x = some v) (hv : v ≠ .null) : v.kind? = some t.kind := by
  obtain ⟨k, hk⟩ := Option.ne_none_iff_exists'.mp (mt Value.kind?_eq_none.mp hv)
  rw [kind?_of_decode? h] at hk ⊢
  obtain ⟨_, hx, -⟩ := Option.map_eq_some_iff.mp hk
  rw [hx, Option.map_some]

theorem kind_of_decode? (h : t.decode? x = some v) : ∀ k ∈ v.kind?, k = t.kind := by
  rw [kind?_of_decode? h]
  intro k hk
  obtain ⟨_, -, rfl⟩ := Option.map_eq_some_iff.mp hk
  rfl

theorem decode_eq_ok : t.decode x = .ok v ↔ t.decode? x = some v := by
  rw [decode]
  cases t.decode? x <;> simp

-- Whatever an integer was stored as, it is in the column's range.
theorem holds_of_decodeInt? {width : IntWidth} {i : Int64} (h : decodeInt? width x = some i) :
    width.holds i.toInt = true := by
  have hranged {n : Int} (h : decodeInt?.ranged width n = some i) : width.holds i.toInt = true := by
    rw [decodeInt?.ranged] at h
    split at h
    case isTrue hn => rwa [toInt_of_int64? h]
    case isFalse => cases h
  cases x
  case int | bool => exact hranged h
  case decimal =>
    rw [decodeInt?] at h
    split at h
    case isTrue => exact hranged h
    case isFalse => cases h
  case text =>
    obtain ⟨n, -, hn⟩ := Option.bind_eq_some_iff.mp h
    exact hranged hn
  all_goals cases h

theorem mem_of_decodeEnum? {variants : Variants} {s : String} (h : decodeEnum? variants x = some s) :
    s ∈ variants.names := by
  cases x
  case text =>
    rw [decodeEnum?] at h
    split at h <;> cases h
    case isTrue hs => exact List.contains_iff_mem.mp hs
  case int =>
    rw [decodeEnum?] at h
    split at h
    case isTrue => cases h
    case isFalse => exact List.mem_of_getElem? h
  all_goals cases h

-- The types that check a value when it is read as they do when it is stored.
def isChecked : ColumnType → Bool
  | int _ | enum .. => true
  | _ => false

theorem not_refuses_of_decode? (ht : t.isChecked = true) (h : t.decode? x = some v) : ¬t.Refuses v := by
  unfold decode? at h
  split at h
  case h_1 =>
    cases h
    cases t <;> simp [Refuses]
  case h_2 =>
    cases t
    case int width =>
      obtain ⟨i, hi, rfl⟩ := Option.map_eq_some_iff.mp h
      exact holds_iff.mp (holds_of_decodeInt? hi)
    case enum name variants storage =>
      obtain ⟨s, hs, rfl⟩ := Option.map_eq_some_iff.mp h
      exact not_not.mpr (mem_of_decodeEnum? hs)
    all_goals cases ht

-- Equality is all that agreement is for values other than decimals.
theorem eq_of_agrees {w : Value} (ht : t.isChecked = true) (hv : ∀ k ∈ v.kind?, k = t.kind) (h : w.Agrees v) :
    w = v := by
  cases v
  case decimal =>
    cases t
    case int | enum => nomatch hv _ rfl
    all_goals cases ht
  all_goals cases w <;> exact h

theorem stored_again (ht : t.isChecked = true) (h : t.decode? x = some v) (d : Dialect) :
    ∃ y, t.encode d v = .ok y ∧ t.decode y = .ok v := by
  have htemporal : t.isTemporal = false := by cases t <;> first | rfl | cases ht
  have hkind : ∀ k ∈ v.kind?, k = t.kind := kind_of_decode? h
  obtain ⟨y, w, he, hd, hagrees, -⟩ := (keeps_of_kind htemporal hkind).stored (not_refuses_of_decode? ht h)
  exact ⟨y, encode_of_some he, decode_of_some (eq_of_agrees ht hkind hagrees ▸ hd)⟩

end ColumnType

namespace HostType

variable {type : HostType} {v w : Value}

-- The size of the integers of the type, if it is a type of integers.
def integerBits? : HostType → Option Nat
  | int16 => some 16
  | int32 => some 32
  | int64 => some 64
  | option t => t.integerBits?
  | _ => none

-- The value is an integer, and the type has integers, but of too few bits for this one.
def Overflows (type : HostType) (v : Value) : Prop :=
  ∃ bits ∈ type.integerBits?, ∃ i : Int64, v = .int i ∧ ¬(-2 ^ (bits - 1) ≤ i.toInt ∧ i.toInt < 2 ^ (bits - 1))

theorem overflows_option : (option type).Overflows v ↔ type.Overflows v :=
  .rfl

-- A value of the type's kind is refused only for its size.
theorem convert?_eq_none_iff (h : v.kind? = some type.kind) : type.convert? v = none ↔ type.Overflows v := by
  induction type
  case option type ih =>
    have hconvert : (option type).convert? v = type.convert? v := by
      cases v <;> first | cases h | rfl
    rw [hconvert, overflows_option]
    exact ih h
  case int16 | int32 | int64 =>
    cases v
    case int i =>
      simp only [convert?, Overflows, integerBits?, Option.mem_some_iff, exists_eq_left', Value.int.injEq]
      split <;> simp_all [intBits, twoTo]
    all_goals cases h
  all_goals
    cases v
    all_goals cases h
    all_goals simp [convert?, convert?.number?, Overflows, integerBits?]

theorem convert_eq_error_iff : (∃ e, type.convert v = .error e) ↔ type.convert? v = none := by
  rw [convert]
  cases type.convert? v <;> simp

end HostType

theorem Row.get_eq {r : Row} {type : HostType} {i : Nat} {v : Value} (h : r.values[i]? = some v) :
    r.get type i = type.convert v := by
  rw [get, h]

namespace Rows

-- A cell whose column's type is known is read through the type.
theorem of_decodeCells {types : List (Option ColumnType)} {cells : Cells} {values : List Value} {i : Nat}
    (h : decodeCells types cells = .ok values) (ht : types[i]? = some (some t)) (hv : values[i]? = some v) :
    ∃ x, cells[i]? = some x ∧ t.decode x = .ok v := by
  induction cells generalizing types values i
  case nil =>
    rw [decodeCells] at h
    cases h
    nomatch hv
  case cons x cells ih =>
    obtain _ | ⟨type, types⟩ := types
    case nil => nomatch ht
    case cons =>
      cases type
      case none =>
        obtain ⟨values', hvalues, hcons⟩ := Result.bind_eq_ok.mp h
        cases hcons
        cases i
        case zero => nomatch ht
        case succ => exact ih hvalues ht hv
      case some type =>
        obtain ⟨w, hw, hrest⟩ := Result.bind_eq_ok.mp h
        obtain ⟨values', hvalues, hcons⟩ := Result.bind_eq_ok.mp hrest
        cases hcons
        cases i
        case zero =>
          cases ht
          cases hv
          exact ⟨x, rfl, hw⟩
        case succ => exact ih hvalues ht hv

end Rows

namespace TypedColumn

variable {c : Catalog} {type : HostType} {table : TableId} {name : String} {column : TypedColumn}

theorem of_ofName (h : ofName c type table name = .ok column) :
    ∃ t, c.columnType? column.id = some t ∧ t.kind = type.kind := by
  rw [ofName] at h
  split at h
  case h_1 => cases h
  case h_2 id _ =>
    split at h
    case h_1 => cases h
    case h_2 t ht =>
      split at h
      case isTrue => cases h
      case isFalse hkind =>
        cases h
        exact ⟨t, ht, not_not.mp hkind⟩

end TypedColumn

-- A host type that has too few bits for a value of the column has fewer than the column.
theorem ColumnType.narrower_of_overflows {t : ColumnType} {type : HostType} {v x : Value}
    (h : t.decode? x = some v) (hv : type.Overflows v) :
    ∃ width, t = .int width ∧ ∃ bits ∈ type.integerBits?, bits < width.bits := by
  obtain ⟨bits, hbits, i, rfl, hi⟩ := hv
  have hkind : t.kind = .int := (kind_of_decode? h _ rfl).symm
  cases t
  case int width =>
    refine ⟨width, rfl, bits, hbits, ?_⟩
    have hholds : width.holds i.toInt = true := holds_iff.mpr (not_refuses_of_decode? rfl h)
    have htwo : ((twoTo (width.bits - 1) : Nat) : Int) = 2 ^ (width.bits - 1) := by norm_cast
    simp only [IntWidth.holds, htwo, Bool.and_eq_true, decide_eq_true_eq] at hholds
    by_contra hle
    have hpow : (2 : Int) ^ (width.bits - 1) ≤ 2 ^ (bits - 1) := pow_le_pow_right₀ (by decide) (by omega)
    exact hi ⟨by omega, by omega⟩
  case timestamp zoned => cases zoned <;> cases hkind
  all_goals cases hkind

-- A stored value is read as a value of the column's kind, and as one that the column takes where it checks them. So a
-- column with the right host type fails to be read only where the host type has too few bits for an integer.
theorem decoding_respects_kinds :
    (∀ (t : ColumnType) (x v : Value), t.decode x = .ok v →
      (v = .null ↔ x = .null) ∧ (x ≠ .null → v.kind? = some t.kind) ∧
      (t.isChecked = true → ∀ d, ∃ y, t.encode d v = .ok y ∧ t.decode y = .ok v)) ∧
    ∀ (c : Catalog) (type : HostType) (table : TableId) (name : String) (column : TypedColumn),
      TypedColumn.ofName c type table name = .ok column →
      ∀ (rows : Rows) (cells : Cells) (row : Row) (i : Nat) (v : Value),
        rows.types[i]? = some (c.columnType? column.id) → rows.decode cells = .ok row →
        row.values[i]? = some v → v ≠ .null →
        ((∃ e, row.get type i = .error e) ↔ type.Overflows v) ∧
        (type.Overflows v → ∃ width, c.columnType? column.id = some (.int width) ∧
          ∃ bits ∈ type.integerBits?, bits < width.bits) := by
  constructor
  case left =>
    intro t x v h
    rw [ColumnType.decode_eq_ok] at h
    have hnull : v = .null ↔ x = .null := ColumnType.eq_null_iff_of_decode? h
    exact ⟨hnull, fun hx => ColumnType.kind?_of_decode?_of_ne h (mt hnull.mp hx),
      fun ht d => ColumnType.stored_again ht h d⟩
  case right =>
    intro c type table name column h rows cells row i v htypes hdecode hv hnull
    obtain ⟨t, ht, hkind⟩ := TypedColumn.of_ofName h
    obtain ⟨values, hvalues, hrow⟩ := Result.map_eq_ok.mp hdecode
    subst hrow
    obtain ⟨x, -, hx⟩ := Rows.of_decodeCells hvalues (ht ▸ htypes) hv
    rw [ColumnType.decode_eq_ok] at hx
    refine ⟨?_, fun ho => ?_⟩
    case refine_1 =>
      have hv' : v.kind? = some type.kind := hkind ▸ ColumnType.kind?_of_decode?_of_ne hx hnull
      rw [Row.get_eq hv, HostType.convert_eq_error_iff, HostType.convert?_eq_none_iff hv']
    case refine_2 =>
      obtain ⟨width, rfl, hbits⟩ := ColumnType.narrower_of_overflows hx ho
      exact ⟨width, ht, hbits⟩

theorem decoding_respects_kinds_of_short_integer :
    let c : Catalog := ⟨[⟨"people", [⟨"id", .int .bits64, false, false, false, none⟩,
      ⟨"age", .int .bits32, false, false, false, none⟩], [0], [], []⟩]⟩
    let column : TypedColumn := ⟨⟨0, 1⟩, .option .int16, none⟩
    let rows : Rows := ⟨["age"], [some (.int .bits32)], []⟩
    let cells : Cells := [.text " 40000 "]
    TypedColumn.ofName c (.option .int16) 0 "age" = .ok column ∧
    rows.decode cells = .ok ⟨["age"], [.int 40000]⟩ ∧
    (∃ e, (Row.mk ["age"] [.int 40000]).get (.option .int16) 0 = .error e) ∧
    ∃ y, (ColumnType.int .bits32).encode .oracle (.int 40000) = .ok y ∧
      (ColumnType.int .bits32).decode y = .ok (.int 40000) := by
  intro c column rows cells
  have hcolumn : TypedColumn.ofName c (.option .int16) 0 "age" = .ok column := rfl
  have hdecode : (ColumnType.int .bits32).decode (.text " 40000 ") = .ok (.int 40000) := rfl
  have hrow : rows.decode cells = .ok ⟨["age"], [.int 40000]⟩ := rfl
  refine ⟨hcolumn, hrow, ?_, ?_⟩
  case refine_1 =>
    refine ((decoding_respects_kinds.2 c _ 0 "age" column hcolumn rows cells _ 0 _ rfl hrow rfl nofun).1).mpr ?_
    exact ⟨16, rfl, 40000, rfl, by decide⟩
  case refine_2 => exact ((decoding_respects_kinds.1 _ _ _ hdecode).2.2 rfl) .oracle

end PolySql
