import PolySql.Proofs.Sql.Params
import PolySql.Proofs.Sql.Rendering

namespace PolySql

open Fragment

namespace Dialect

-- The dialect with or without a `LIKE` of its own that ignores case.
def withInsensitiveLike (d : Dialect) (native : Bool) : Dialect :=
  { d with supports := fun c => if c = .caseInsensitiveLike then native else d.supports c }

variable {d : Dialect}

theorem storedUuid_eq_text {u : Uuid} {s : String} :
    d.storedUuid u = .text s ↔ d.uuidForm = .text ∧ String.ofList u.text = s := by
  cases h : d.uuidForm <;> simp [storedUuid, h]

theorem storedDecimal_ne_int (x : Decimal) (i : Int64) : d.storedDecimal x ≠ .int i := by
  cases h : d.decimalForm <;> simp [storedDecimal, h]

end Dialect

namespace ColumnType

-- The values that a column of the type binds in the form in which they are bound without a column.
def Passes (d : Dialect) : ColumnType → Value → Prop
  | _, .null => True
  | int width, .int i => width.holds i.toInt = true
  | float _, .float x => Binary64.isFinite x = true
  | string (some n), .text s => s.length ≤ n
  | string none, .text _ => True
  | enum _ variants .name, .text s => s ∈ variants.names
  | uuid, .text s => d.uuidForm = .text ∧ ∃ u, Uuid.read? s.toList = some u ∧ String.ofList u.text = s
  | bool, .bool _ | blob, .bytes _ | uuid, .uuid _ | date, .date _ | time, .time _ => True
  | timestamp false, .timestamp _ | timestamp true, .timestampTz _ | decimal .., .decimal _ => True
  | _, _ => False

variable {d : Dialect} {t : ColumnType} {v : Value}

theorem encode?_eq_stored_iff : t.encode? d v = some (d.stored v) ↔ t.Passes d v := by
  cases t
  case uuid =>
    cases v <;> simp [encode?, Passes, Dialect.stored, Dialect.storedUuid_eq_text]
    case text => exact ⟨fun ⟨u, hu, hd, hs⟩ => ⟨hd, u, hu, hs⟩, fun ⟨hd, u, hu, hs⟩ => ⟨u, hu, hd, hs⟩⟩
  case timestamp zoned => cases zoned <;> cases v <;> simp [encode?, Passes, Dialect.stored]
  case string most => cases most <;> cases v <;> simp [encode?, Passes, Dialect.stored]
  case decimal => cases v <;> simp [encode?, Passes, Dialect.stored, Dialect.storedDecimal_ne_int]
  case enum name variants storage =>
    cases storage <;> cases v <;> simp [encode?, Passes, Dialect.stored]
    case name.text s => rw [← Option.isSome_iff_exists, List.isSome_idxOf?]
  all_goals cases v <;> simp [encode?, Passes, Dialect.stored]

end ColumnType

namespace Predicate

section

variable {cx : Context} {id : ColumnId} {aliasName : Option String} {v : Value}

theorem render_like_of_supports (h : cx.supports .caseInsensitiveLike = true) :
    (like (.physical id aliasName) (.param v) false).render cx =
      (cx.stored (cx.catalog.columnType? id) v).map fun x =>
        binary (cx.columnName (aliasName.getD (cx.catalog.tableName id.table)) (cx.catalog.columnName id)) "ILIKE"
          [.param x] := by
  have hright : (Column.param v).render cx (cx.catalog.columnType? id) =
      (cx.stored (cx.catalog.columnType? id) v).map fun x => [.param x] := rfl
  rw [render, if_pos (by simp [h])]
  dsimp only [Column.type?]
  rw [hright]
  cases cx.stored (cx.catalog.columnType? id) v
  case error => rfl
  case ok => rfl

theorem render_like_of_not_supports (h : cx.supports .caseInsensitiveLike = false) :
    (like (.physical id aliasName) (.param v) false).render cx =
      .ok (words "LOWER(" ++ cx.columnName (aliasName.getD (cx.catalog.tableName id.table)) (cx.catalog.columnName id) ++
        words ") LIKE LOWER(" ++ [.param (cx.dialect.stored v)] ++ words ")") := by
  rw [render, if_neg (by simp [h])]
  rfl

end

end Predicate

section

variable (c : Catalog) (d : Dialect) (version : Option Version) (id : ColumnId) (aliasName : Option String) (v : Value)

-- What a `LIKE` that ignores case binds, with the dialect's own or without one.
def Predicate.boundByLike (native : Bool) : Result (List Value) :=
  ((like (.physical id aliasName) (.param v) false).render (.new c (d.withInsensitiveLike native) version)).map
    Fragment.params

namespace Predicate

theorem boundByLike_of_not_supported
    (h : (d.withInsensitiveLike native).isSupported version .caseInsensitiveLike = false) :
    boundByLike c d version id aliasName v native = .ok [d.stored v] := by
  have h : (Context.new c (d.withInsensitiveLike native) version).supports .caseInsensitiveLike = false := h
  rw [boundByLike, render_like_of_not_supports h]
  simp only [Except.map, params_append, params_words, Context.params_columnName]
  rfl

theorem boundByLike_of_supported
    (h : (d.withInsensitiveLike native).isSupported version .caseInsensitiveLike = true) :
    boundByLike c d version id aliasName v native =
      (c.columnType? id).elim (.ok [d.stored v]) fun t => (t.encode d v).map ([·]) := by
  have h : (Context.new c (d.withInsensitiveLike native) version).supports .caseInsensitiveLike = true := h
  have hparams (owner column : String) (x : Value) : Fragment.params (binary
      ((Context.new c (d.withInsensitiveLike native) version).columnName owner column) "ILIKE" [.param x]) = [x] := by
    simp only [binary, params_append, Context.params_columnName, params_words]
    rfl
  rw [boundByLike, render_like_of_supports h]
  dsimp only [Context.new]
  cases c.columnType? id
  case none => exact congrArg Except.ok (hparams _ _ _)
  case some t =>
    have hstored : (Context.new c (d.withInsensitiveLike native) version).stored (some t) v = t.encode d v := rfl
    dsimp only [Context.new] at hstored
    rw [hstored, Option.elim_some]
    cases t.encode d v
    case error => rfl
    case ok => exact congrArg Except.ok (hparams _ _ _)

-- The two ways agree exactly if the type of the column would bind the pattern as it is, were it a value of the column.
theorem insensitiveLike_agrees_iff :
    boundByLike c d version id aliasName v false = .ok [d.stored v] ∧
    ((d.withInsensitiveLike true).isSupported version .caseInsensitiveLike = true →
      boundByLike c d version id aliasName v true =
        (c.columnType? id).elim (.ok [d.stored v]) fun t => (t.encode d v).map ([·])) ∧
    (boundByLike c d version id aliasName v true = boundByLike c d version id aliasName v false ↔
      ((d.withInsensitiveLike true).isSupported version .caseInsensitiveLike = true →
        ∀ t ∈ c.columnType? id, t.Passes d v)) := by
  have hfalse : boundByLike c d version id aliasName v false = .ok [d.stored v] :=
    boundByLike_of_not_supported c d version id aliasName v rfl
  refine ⟨hfalse, boundByLike_of_supported c d version id aliasName v, ?_⟩
  rw [hfalse]
  cases hs : (d.withInsensitiveLike true).isSupported version .caseInsensitiveLike
  case false => exact iff_of_true (boundByLike_of_not_supported c d version id aliasName v hs) nofun
  case true =>
    rw [boundByLike_of_supported c d version id aliasName v hs]
    cases c.columnType? id
    case none => exact iff_of_true rfl fun _ => nofun
    case some t =>
      have hpasses : (t.encode d v).map ([·]) = .ok [d.stored v] ↔ t.Passes d v := by
        rw [← ColumnType.encode?_eq_stored_iff, ColumnType.encode]
        cases t.encode? d v
        case none => exact iff_of_false nofun nofun
        case some x => simp [Except.map]
      simpa using hpasses

-- A pattern may be longer than the texts that it takes.
theorem insensitiveLike_refuses_long_pattern :
    let c : Catalog := ⟨[⟨"people", [⟨"name", .string (some 3), false, false, false, none⟩], [0], [], []⟩]⟩
    let pattern : Value := .text "%sam%"
    boundByLike c .postgres none ⟨0, 0⟩ none pattern true = .error (pattern.mismatch "string(3)") ∧
      boundByLike c .postgres none ⟨0, 0⟩ none pattern false = .ok [pattern] :=
  ⟨rfl, rfl⟩

end Predicate

end

end PolySql
