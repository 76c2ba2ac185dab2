import PolySql.Sql.Context

namespace PolySql

namespace Dialect

variable (d : Dialect)

theorem storedBool_ne_null (b : Bool) : d.storedBool b ≠ .null := by
  rw [storedBool]
  split <;> nofun

theorem storedDecimal_ne_null (x : Decimal) : d.storedDecimal x ≠ .null := by
  rw [storedDecimal]
  split <;> nofun

theorem storedUuid_ne_null (u : Uuid) : d.storedUuid u ≠ .null := by
  rw [storedUuid]
  split <;> nofun

theorem storedTemporal_ne_null {native : Value} (h : native ≠ .null) (s : List Char) :
    d.storedTemporal native s ≠ .null := by
  rw [storedTemporal]
  split
  case h_1 => exact h
  case h_2 => nofun

end Dialect

theorem ColumnType.encode_eq_ok {t : ColumnType} {d : Dialect} {v x : Value} :
    t.encode d v = .ok x ↔ t.encode? d v = some x := by
  rw [encode]
  split <;> simp [*]

-- Only `NULL` is stored as `NULL`.

theorem ColumnType.encode?_eq_null {t : ColumnType} {d : Dialect} {v : Value} (h : t.encode? d v = some .null) :
    v = .null := by
  revert h
  fun_cases encode?
  case case1 => exact fun _ => rfl
  case case20 =>
    rw [Option.map_eq_some_iff]
    rintro ⟨n, -, hn⟩
    split at hn <;> cases hn
  all_goals simp [d.storedBool_ne_null, d.storedDecimal_ne_null, d.storedUuid_ne_null, d.storedTemporal_ne_null]

theorem Dialect.stored_eq_null {d : Dialect} {v : Value} (h : d.stored v = .null) : v = .null := by
  cases v
  case null => rfl
  all_goals simp [stored, storedBool_ne_null, storedDecimal_ne_null, storedUuid_ne_null, storedTemporal_ne_null] at h

theorem Context.stored_eq_null {cx : Context} {hint : Option ColumnType} {v : Value}
    (h : cx.stored hint v = .ok .null) : v = .null := by
  cases hint
  case none => exact Dialect.stored_eq_null (Except.ok.inj h)
  case some t => exact ColumnType.encode?_eq_null (ColumnType.encode_eq_ok.mp h)

theorem Context.stored_null (cx : Context) (hint : Option ColumnType) : cx.stored hint .null = .ok .null := by
  cases hint
  case none => rfl
  case some t => cases t <;> rfl

end PolySql
