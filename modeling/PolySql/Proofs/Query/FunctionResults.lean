import PolySql.Proofs.Column.Functions
import PolySql.Proofs.Query.ResultTypes

namespace PolySql

open Text

namespace Rows

def Decodes (types : List (Option ColumnType)) (cells : Cells) : Prop :=
  ∃ row, decodeCells types cells = .ok row

theorem decodes_cons {type : Option ColumnType} {types : List (Option ColumnType)} {x : Value} {cells : Cells} :
    Decodes (type :: types) (x :: cells) ↔ (∀ t ∈ type, ∃ w, t.decode x = .ok w) ∧ Decodes types cells := by
  cases type
  case none => simp [Decodes, decodeCells, Result.bind_eq_ok, Pure.pure, Except.pure]
  case some t =>
    simp only [Decodes, decodeCells, Result.bind_eq_ok, Pure.pure, Except.pure, Option.mem_some_iff, forall_eq']
    constructor
    case mp =>
      rintro ⟨_, w, hw, row, hrow, -⟩
      exact ⟨⟨w, hw⟩, row, hrow⟩
    case mpr =>
      rintro ⟨⟨w, hw⟩, row, hrow⟩
      exact ⟨w :: row, w, hw, row, hrow, rfl⟩

theorem decodes_append {left right : List (Option ColumnType)} {cells cells' : Cells} (h : cells.length = left.length) :
    Decodes (left ++ right) (cells ++ cells') ↔ Decodes left cells ∧ Decodes right cells' := by
  induction left generalizing cells
  case nil =>
    obtain rfl := List.length_eq_zero_iff.mp h
    exact (and_iff_right ⟨[], rfl⟩).symm
  case cons type left ih =>
    cases cells
    case nil => nomatch h
    case cons x cells => simp only [List.cons_append, decodes_cons, ih (Nat.succ.inj h), and_assoc]

end Rows

open Rows

theorem Function.resultType?_eq (c : Catalog) (f : Function) :
    f.resultType? c = if f.kind.keepsType then Column.headType? c f.args else none := by
  cases f
  rfl

namespace Select

theorem resultTypes_function {c : Catalog} {s : Select} {f : Function} {before after : List Column}
    (hs : s.columns = before ++ .function f :: after) :
    s.resultTypes c = { s with columns := before }.resultTypes c ++
      f.resultType? c :: { s with columns := after }.resultTypes c := by
  simp only [resultTypes_eq, hs, List.flatMap_append, List.flatMap_cons]
  rfl

-- A row is read if its cells are, and the cell of a function is unless the function has left the values of the column.
theorem reads_function_iff {c : Catalog} {d : Dialect} {t : ColumnType} {s : Select} {f : Function}
    {before after : List Column} {id : ColumnId} (hd : d ∈ Dialect.builtins) (hkind : f.kind.keepsType = true)
    (hid : c.columnType? id = some t) (hargs : f.args.head? = some (.physical id aliasName))
    (hs : s.columns = before ++ .function f :: after) (m : CaseMap) :
    let left := { s with columns := before }.resultTypes c
    let right := { s with columns := after }.resultTypes c
    (∀ x cells cells', cells.length = left.length → (Decodes (s.resultTypes c) (cells ++ x :: cells') ↔
      Decodes left cells ∧ (∃ w, t.decode x = .ok w) ∧ Decodes right cells')) ∧
    (f.kind = .coalesce → f.argumentType? c = some t) ∧
    ∀ v stored, t.encode d v = .ok stored →
      ((∀ x, f.kind.Gives m stored x → ∃ w, t.decode x = .ok w) ↔ f.kind.Safe m d t v) := by
  obtain ⟨rest, hargs⟩ := List.head?_eq_some_iff.mp hargs
  have htype : f.resultType? c = some t := by
    rw [f.resultType?_eq, if_pos hkind, hargs]
    exact hid
  intro left right
  refine ⟨fun x cells cells' hlength => ?_, fun hcoalesce => ?_, fun v stored h => ?_⟩
  case refine_1 =>
    rw [resultTypes_function hs, htype, decodes_append hlength, decodes_cons]
    simp only [Option.mem_some_iff, forall_eq']
    rfl
  case refine_2 =>
    have hfirst : (Column.physical id aliasName).type? c = some t := hid
    rw [Function.argumentType?, if_pos hcoalesce, hargs, List.findSome?_cons, hfirst]
  case refine_3 =>
    simp only [ColumnType.exists_decode_iff]
    rw [ColumnType.encode_eq_ok] at h
    exact ⟨FunctionKind.safe_of_decodes hd hkind h, fun hsafe x => FunctionKind.decodes_of_safe hd h hsafe⟩

-- Small letters in the text of a timestamp.
theorem reads_lower_bookedAt :
    let column (name : String) (type : ColumnType) : ColumnDef := ⟨name, type, false, false, false, none⟩
    let bookings : TableDef :=
      ⟨"bookings", [column "id" (.int .bits32), column "bookedAt" (.timestamp true)], [0], [], []⟩
    let lower : Function := ⟨.lower, [.physical ⟨0, 1⟩ none], false, none⟩
    let s : Select := .new (.physical 0 none) [.physical ⟨0, 0⟩ none, .function lower]
    let noon : Timestamp := ⟨⟨2024, 2, 29, by decide⟩, ⟨12, 0, 0, 0, by decide⟩⟩
    let stored := Value.text "2024-02-29T12:00:00Z"
    let x := Value.text "2024-02-29t12:00:00z"
    (ColumnType.timestamp true).encode .sqlite (.timestampTz noon) = .ok stored ∧
      FunctionKind.lower.Gives .ascii stored x ∧ Decodes (s.resultTypes ⟨[bookings]⟩) [.int 7, x] := by
  intro column bookings lower s noon stored x
  have htext : String.ofList noon.zonedText = "2024-02-29T12:00:00Z" := by decide +kernel
  have hlower : String.ofList (CaseMap.ascii.lower noon.zonedText) = "2024-02-29t12:00:00z" := by decide +kernel
  have hencode : (ColumnType.timestamp true).encode .sqlite (.timestampTz noon) = .ok stored :=
    congrArg (Except.ok ∘ Value.text) htext
  have hgives : FunctionKind.lower.Gives .ascii stored x := by
    have h := FunctionKind.Gives.lower (m := .ascii) (String.ofList noon.zonedText)
    rwa [String.toList_ofList, htext, hlower] at h
  have hargs : lower.args.head? = some (.physical ⟨0, 1⟩ none) := rfl
  have hs : s.columns = [.physical ⟨0, 0⟩ none] ++ .function lower :: [] := rfl
  have hid : Catalog.columnType? ⟨[bookings]⟩ ⟨0, 1⟩ = some (.timestamp true) := rfl
  obtain ⟨hrow, -, hvalue⟩ := reads_function_iff (d := .sqlite) (by simp [Dialect.builtins]) rfl hid hargs hs .ascii
  have hsafe : lower.kind.Safe .ascii .sqlite (.timestamp true) (.timestampTz noon) :=
    ⟨by simp [ColumnType.Loses, noon], nofun, nofun⟩
  refine ⟨hencode, hgives, (hrow x [.int 7] [] rfl).mpr ⟨?_, (hvalue _ _ hencode).mpr hsafe x hgives, [], rfl⟩⟩
  exact ⟨[.int 7], rfl⟩

-- A variant's name in small letters is not a variant.
theorem lower_state_not_read :
    let column (name : String) (type : ColumnType) : ColumnDef := ⟨name, type, false, false, false, none⟩
    let state : ColumnType := .enum "state" ⟨["Draft", "Published"], by decide⟩ .name
    let posts : TableDef := ⟨"posts", [column "id" (.int .bits32), column "state" state], [0], [], []⟩
    let lower : Function := ⟨.lower, [.physical ⟨0, 1⟩ none], false, none⟩
    let s : Select := .new (.physical 0 none) [.function lower]
    let stored := Value.text "Draft"
    let x := Value.text "draft"
    Catalog.columnType? ⟨[posts]⟩ ⟨0, 1⟩ = some state ∧ lower.resultType? ⟨[posts]⟩ = some state ∧
      state.encode .postgres (.text "Draft") = .ok stored ∧ FunctionKind.lower.Gives .ascii stored x ∧
      state.decode x = .error (.typeMismatch "enum state" "Text(\"draft\")" "text") ∧
      decodeCells (s.resultTypes ⟨[posts]⟩) [x] = .error (.typeMismatch "enum state" "Text(\"draft\")" "text") := by
  intro column state posts lower s stored x
  exact ⟨rfl, rfl, rfl, .lower "Draft", rfl, rfl⟩

end Select

end PolySql
