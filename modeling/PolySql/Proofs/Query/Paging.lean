import Mathlib.Data.List.ReduceOption
import PolySql.Proofs.Sql.Entries
import PolySql.Proofs.Sql.Outcome
import PolySql.Proofs.Sql.Params
import PolySql.Proofs.Sql.Rendering

namespace PolySql

open Fragment

-- The query without the bounds on its rows.
def Select.unpaged (s : Select) : Select :=
  { s with limit := none, offset := none }

-- The rows that a query wants of all that it finds.
def Select.rows {α : Type} (s : Select) (rs : List α) : List α :=
  let rest := rs.drop ((s.offset.map Int64.toInt).getD 0).toNat
  match s.limit with
  | some n => rest.take n.toInt.toNat
  | none => rest

def Lexeme.token? : Lexeme → Option Token
  | token t => some t
  | value _ => none

-- What the clauses around a query say of its rows: the number in each of them, and whether an order that means
-- nothing stands before them.
structure Paging where
  top : Option Int
  isOrdered : Bool
  limit : Option Int
  offset : Option Int
  fetch : Option Int

namespace Paging

open Lexeme

-- The rows are counted after those that are left out, whatever clause counts them.
def rows {α : Type} (p : Paging) (rs : List α) : List α :=
  [p.top, p.limit, p.fetch].reduceOption.foldl (fun rs n => rs.take n.toNat) (rs.drop (p.offset.getD 0).toNat)

-- A number, as a parameter or in digits, and what follows it.
def count? : List Lexeme → Option (Int × List Lexeme)
  | .value (.int n) :: r => some (n.toInt, r)
  | .token ⟨.number, digits⟩ :: r => (Text.natural? digits).map (Int.ofNat ·, r)
  | _ => none

-- A clause may be missing.

def readTop (ls : List Lexeme) : Option (Option Int × List Lexeme) :=
  match after? ["TOP"] ls with
  | none => some (none, ls)
  | some [] => none
  | some (x :: r) => do
    let (n, r) ← count? r
    if x.role = .opening ∧ (← r.head?).role = .closing then return (some n, r.tail) else none

def readOrder (ls : List Lexeme) : Bool × List Lexeme :=
  match after? ["ORDER", "BY"] ls with
  | none => (false, ls)
  | some r => if (r.take 4).map role = [.opening, .select, .null, .closing] then (true, r.drop 4) else (false, ls)

-- What the vendor writes for a limit that leaves no row out is no number.
def readLimit (unbounded : List Token) (ls : List Lexeme) : Option (Option Int × List Lexeme) :=
  match after? ["LIMIT"] ls with
  | none => some (none, ls)
  | some (.value (.int n) :: r) => some (some n.toInt, r)
  | some r =>
    if (r.take unbounded.length).map token? = unbounded.map some then some (none, r.drop unbounded.length) else none

def readOffset (ls : List Lexeme) : Option (Option Int × List Lexeme) :=
  match after? ["OFFSET"] ls with
  | none => some (none, ls)
  | some r => do
    let (n, r) ← count? r
    return (some n, (after? ["ROWS"] r).getD r)

def readFetch (ls : List Lexeme) : Option (Option Int × List Lexeme) :=
  match after? ["FETCH", "NEXT"] ls with
  | none => some (none, ls)
  | some r => do
    let (n, r) ← count? r
    return (some n, ← after? ["ROWS", "ONLY"] r)

-- Reads what stands before the columns and what stands at the end. An offset comes before a number of rows to
-- fetch, and after a limit.
def ofLexemes (unbounded : List Token) (top window : List Lexeme) : Option Paging := do
  let (top, r) ← readTop top
  let (isOrdered, w) := readOrder window
  let (limit, w) ← readLimit unbounded w
  let (offset, w) ← readOffset w
  let (fetch, w) ← readFetch w
  if r.isEmpty && w.isEmpty then return ⟨top, isOrdered, limit, offset, fetch⟩ else none

end Paging

-- The words that come before an offset in place of a limit, where the vendor needs any.
def Dialect.unboundedWords (d : Dialect) : List Token :=
  (d.limitStyle.unbounded?.map d.lexis.words).getD []

theorem Fragment.lexemes_phrase {w : String} (ts : List Token) (hw : ∀ l ∈ Lexis.vendors, l.words w = ts)
    (d : Dialect) : (words w).lexemes d = ts.map .token := by
  rw [lexemes_words, hw _ d.lexis_mem_vendors]

open Lexeme

section

variable {n : Int64}

theorem Context.rowCount_of_neg (h : n.toInt < 0) (what : String) :
    ∃ m, rowCount what n = .error (.compilation m) := by
  rw [rowCount, if_pos h]
  exact ⟨_, rfl⟩

theorem Context.rowCount_of_nonneg (h : 0 ≤ n.toInt) (what : String) : rowCount what n = .ok [.param (.int n)] :=
  rowCount_eq_ok.mpr ⟨h, rfl⟩

theorem limitClause_of_nonneg (h : 0 ≤ n.toInt) :
    limitClause n = .ok (words "LIMIT " ++ ([.param (.int n)] : Fragment)) := by
  rw [limitClause, Context.limitCount, Context.rowCount_of_nonneg h]
  rfl

theorem offsetClause_of_nonneg (h : 0 ≤ n.toInt) :
    offsetClause n = .ok (words "OFFSET " ++ ([.param (.int n)] : Fragment)) := by
  rw [offsetClause, Context.offsetCount, Context.rowCount_of_nonneg h]
  rfl

end

namespace Select

open Paging

-- The clauses, where their numbers are not negative.

def limitRows : Option Int64 → Fragment
  | some n => words " " ++ (words "LIMIT " ++ [.param (.int n)])
  | none => []

-- A limit that leaves no row out, where there is none and the vendor needs one.
def unboundedRows : Option String → Option Int64 → Fragment
  | some all, none => words " LIMIT " ++ words all
  | _, _ => []

def skippedRows (unbounded : Option String) (limit : Option Int64) : Option Int64 → Fragment
  | some n => unboundedRows unbounded limit ++ (words " " ++ (words "OFFSET " ++ [.param (.int n)]))
  | none => []

def offsetRows (requiresOrder : Bool) : Option Int64 → Fragment
  | some n => words " " ++ (words "OFFSET " ++ [.param (.int n)]) ++ words " ROWS"
  | none => if requiresOrder then words " OFFSET 0 ROWS" else []

def fetchRows : Option Int64 → Fragment
  | some n => words " FETCH NEXT " ++ [.param (.int n)] ++ words " ROWS ONLY"
  | none => []

def anyOrder (isMissing : Bool) : Fragment :=
  if isMissing then words " ORDER BY (SELECT NULL)" else []

def topRows (n : Int64) : Fragment :=
  words "TOP (" ++ [.param (.int n)] ++ words ") "

section

variable (d : Dialect)

theorem lexemes_offsetClause (n : Int64) :
    lexemes d (words " " ++ (words "OFFSET " ++ [.param (.int n)])) = [word "OFFSET", .value (.int n)] := by
  rw [lexemes_append, lexemes_append, lexemes_phrase [] (by decide),
    lexemes_phrase [⟨.word, "OFFSET".toList⟩] (by decide)]
  rfl

theorem lexemes_limitRows (limit : Option Int64) :
    (limitRows limit).lexemes d = limit.elim [] fun n => [word "LIMIT", .value (.int n)] := by
  cases limit
  case none => rfl
  case some n =>
    rw [limitRows, lexemes_append, lexemes_append, lexemes_phrase [] (by decide),
      lexemes_phrase [⟨.word, "LIMIT".toList⟩] (by decide)]
    rfl

theorem lexemes_offsetRows (requiresOrder : Bool) (offset : Option Int64) :
    (offsetRows requiresOrder offset).lexemes d = match offset with
      | some n => [word "OFFSET", .value (.int n), word "ROWS"]
      | none => if requiresOrder then [word "OFFSET", .token ⟨.number, ['0']⟩, word "ROWS"] else [] := by
  cases offset
  case none =>
    cases requiresOrder
    case false => rfl
    case true =>
      exact lexemes_phrase [⟨.word, "OFFSET".toList⟩, ⟨.number, ['0']⟩, ⟨.word, "ROWS".toList⟩] (by decide) d
  case some n =>
    rw [offsetRows, lexemes_append, lexemes_offsetClause, lexemes_phrase [⟨.word, "ROWS".toList⟩] (by decide)]
    rfl

theorem lexemes_fetchRows (limit : Option Int64) : (fetchRows limit).lexemes d =
    limit.elim [] fun n => [word "FETCH", word "NEXT", .value (.int n), word "ROWS", word "ONLY"] := by
  cases limit
  case none => rfl
  case some n =>
    rw [fetchRows, lexemes_append, lexemes_append, lexemes_phrase [⟨.word, "FETCH".toList⟩, ⟨.word, "NEXT".toList⟩]
      (by decide), lexemes_phrase [⟨.word, "ROWS".toList⟩, ⟨.word, "ONLY".toList⟩] (by decide)]
    rfl

theorem lexemes_anyOrder (isMissing : Bool) : (anyOrder isMissing).lexemes d =
    if isMissing then
      [word "ORDER", word "BY", symbol '(', word "SELECT", word "NULL", symbol ')']
    else [] := by
  cases isMissing
  case false => rfl
  case true =>
    exact lexemes_phrase [⟨.word, "ORDER".toList⟩, ⟨.word, "BY".toList⟩, ⟨.symbol, ['(']⟩,
      ⟨.word, "SELECT".toList⟩, ⟨.word, "NULL".toList⟩, ⟨.symbol, [')']⟩] (by decide) d

theorem lexemes_topRows (n : Int64) :
    (topRows n).lexemes d = [word "TOP", symbol '(', .value (.int n), symbol ')'] := by
  rw [topRows, lexemes_append, lexemes_append, lexemes_phrase [⟨.word, "TOP".toList⟩, ⟨.symbol, ['(']⟩]
    (by decide), lexemes_phrase [⟨.symbol, [')']⟩] (by decide)]
  rfl

end

theorem readLimit_unbounded (all : List Token) (w : String) (r : List Lexeme) :
    readLimit all (word "LIMIT" :: (all.map .token ++ word w :: r)) = some (none, word w :: r) := by
  have htake : ((all.map Lexeme.token ++ word w :: r).take all.length).map token? = all.map some := by
    simp [Function.comp_def, token?]
  have hlimit (r : List Lexeme) : after? ["LIMIT"] (word "LIMIT" :: r) = some r := rfl
  rw [readLimit, hlimit]
  cases all
  case nil => rfl
  case cons t all =>
    rw [List.map_cons, List.cons_append]
    simpa using htake

theorem ofLexemes_limitOffset (d : Dialect) (unbounded : Option String) (limit offset : Option Int64) :
    Paging.ofLexemes ((unbounded.map d.lexis.words).getD []) []
      ((limitRows limit ++ skippedRows unbounded limit offset).lexemes d) =
    some ⟨none, false, limit.map Int64.toInt, offset.map Int64.toInt, none⟩ := by
  rw [lexemes_append, lexemes_limitRows]
  cases offset
  case none => cases limit <;> rfl
  case some n =>
    rw [skippedRows, lexemes_append, lexemes_offsetClause]
    cases limit
    case some => cases unbounded <;> rfl
    case none =>
      cases unbounded
      case none => rfl
      case some all =>
        have hlimit := readLimit_unbounded (d.lexis.words all) "OFFSET" [.value (.int n)]
        have horder (r : List Lexeme) : readOrder (word "LIMIT" :: r) = (false, word "LIMIT" :: r) := rfl
        have htop : readTop [] = some (none, []) := rfl
        have hwords : (unboundedRows (some all) none).lexemes d =
            word "LIMIT" :: (d.lexis.words all).map .token := by
          rw [unboundedRows, lexemes_append, lexemes_phrase [⟨.word, "LIMIT".toList⟩] (by decide), lexemes_words]
          rfl
        simp only [hwords, Option.map_some, Option.getD_some, Option.elim_none, List.nil_append, List.cons_append,
          Paging.ofLexemes, htop, horder, hlimit, Option.bind_eq_bind, Option.bind_some]
        rfl

theorem ofLexemes_offsetFetch (d : Dialect) (requiresOrder isMissing : Bool) (limit offset : Option Int64) :
    Paging.ofLexemes [] []
      ((anyOrder isMissing ++ offsetRows requiresOrder offset ++ fetchRows limit).lexemes d) =
    some ⟨none, isMissing, none, (offset.map Int64.toInt).or (if requiresOrder then some 0 else none),
      limit.map Int64.toInt⟩ := by
  simp only [lexemes_append, lexemes_anyOrder, lexemes_offsetRows, lexemes_fetchRows]
  cases isMissing <;> cases requiresOrder <;> cases limit <;> cases offset <;> rfl

theorem ofLexemes_top (d : Dialect) (n : Int64) :
    Paging.ofLexemes [] ((topRows n).lexemes d) [] = some ⟨some n.toInt, false, none, none, none⟩ := by
  rw [lexemes_topRows]
  rfl

end Select

-- Must a query have an order before it counts its rows?
def LimitStyle.requiresOrder : LimitStyle → Bool
  | .limitOffset _ => false
  | .offsetFetch requiresOrder _ => requiresOrder

-- The clauses state the rows that the query wants, in a form that the vendor takes.
structure Paging.Serves (p : Paging) (style : LimitStyle) (s : Select) : Prop where
  rows_eq : ∀ {α : Type} (rs : List α), p.rows rs = s.rows rs
  orderBy_eq : p.isOrdered = true → s.orderBy = none
  isOrdered_or : style.requiresOrder = true → (p.offset.or p.fetch).isSome = true →
    p.isOrdered = true ∨ s.orderBy.isSome = true
  offset_isSome : style.requiresOrder = true → p.fetch.isSome = true → p.offset.isSome = true
  top_alone : p.top.isSome = true → p.limit = none ∧ p.offset = none ∧ p.fetch = none

namespace Paging.Serves

-- The clauses of each style.

theorem limitOffset (unbounded : Option String) (s : Select) :
    Serves ⟨none, false, s.limit.map Int64.toInt, s.offset.map Int64.toInt, none⟩ (.limitOffset unbounded) s where
  rows_eq rs := by cases h : s.limit <;> simp [rows, Select.rows, h]
  orderBy_eq := nofun
  isOrdered_or := nofun
  offset_isSome := nofun
  top_alone := nofun

theorem offsetFetch (requiresOrder topAlone : Bool) (s : Select) :
    Serves ⟨none, requiresOrder && !s.orderBy.isSome, none,
      (s.offset.map Int64.toInt).or (if requiresOrder then some 0 else none), s.limit.map Int64.toInt⟩
      (.offsetFetch requiresOrder topAlone) s where
  rows_eq rs := by
    cases h : s.limit <;> cases ho : s.offset <;> cases requiresOrder <;>
      simp [rows, Select.rows, h, ho]
  orderBy_eq h := by simpa using (Bool.and_eq_true_iff.mp h).2
  isOrdered_or h _ := by
    rw [LimitStyle.requiresOrder] at h
    cases s.orderBy <;> simp [h]
  offset_isSome h _ := by
    rw [LimitStyle.requiresOrder] at h
    simp [h]
  top_alone := nofun

theorem top (style : LimitStyle) {s : Select} (hl : s.limit = some n) (ho : s.offset = none) :
    Serves ⟨some n.toInt, false, none, none, none⟩ style s where
  rows_eq rs := by simp [rows, Select.rows, hl, ho]
  orderBy_eq := nofun
  isOrdered_or _ := nofun
  offset_isSome _ := nofun
  top_alone _ := ⟨rfl, rfl, rfl⟩

theorem missing (style : LimitStyle) {s : Select} (hl : s.limit = none) (ho : s.offset = none) :
    Serves ⟨none, false, none, none, none⟩ style s where
  rows_eq rs := by simp [rows, Select.rows, hl, ho]
  orderBy_eq := nofun
  isOrdered_or _ := nofun
  offset_isSome _ := nofun
  top_alone := nofun

end Paging.Serves

namespace Select

open Paging

section

variable {limit offset : Option Int64} (hl : ∀ n ∈ limit, 0 ≤ n.toInt) (ho : ∀ n ∈ offset, 0 ≤ n.toInt)

include hl

theorem renderLimit_of_nonneg : renderLimit limit = .ok (limitRows limit) := by
  cases limit
  case none => rfl
  case some n =>
    rw [renderLimit, limitClause_of_nonneg (hl n rfl)]
    rfl

omit hl

include ho

theorem renderOffsetRows_of_nonneg (requiresOrder : Bool) :
    renderOffsetRows requiresOrder offset = .ok (offsetRows requiresOrder offset) := by
  cases offset
  case none => rfl
  case some n =>
    rw [renderOffsetRows, offsetClause_of_nonneg (ho n rfl)]
    rfl

include hl

theorem renderLimitOffset_of_nonneg (unbounded : Option String) :
    renderLimitOffset unbounded limit offset = .ok (limitRows limit ++ skippedRows unbounded limit offset) := by
  unfold renderLimitOffset
  rw [renderLimit_of_nonneg hl]
  cases offset
  case none => simp [skippedRows]
  case some n =>
    rw [skippedRows, ← List.append_assoc]
    simp only [offsetClause_of_nonneg (ho n rfl)]
    cases limit <;> cases unbounded <;> rfl

theorem renderOffsetFetch_of_nonneg (requiresOrder ordered : Bool) (hsome : (limit.isNone && offset.isNone) = false) :
    renderOffsetFetch requiresOrder ordered limit offset =
      .ok (anyOrder (requiresOrder && !ordered) ++ offsetRows requiresOrder offset ++ fetchRows limit) := by
  have hfetch : renderFetch limit = .ok (fetchRows limit) := by
    cases limit
    case none => rfl
    case some n =>
      rw [renderFetch, Context.limitCount, Context.rowCount_of_nonneg (hl n rfl)]
      rfl
  rw [renderOffsetFetch, hsome, renderOffsetRows_of_nonneg ho, hfetch]
  rfl

end

theorem usesTop_offsetFetch {limit offset : Option Int64} :
    usesTop (.offsetFetch requiresOrder topAlone) limit offset = true ↔
      topAlone = true ∧ (∃ n, limit = some n) ∧ offset = none := by
  cases topAlone <;> simp [usesTop, Option.isSome_iff_exists]

-- The clauses of a query whose bounds are not negative.
theorem exists_paging (style : LimitStyle) (s : Select) (hl : ∀ n ∈ s.limit, 0 ≤ n.toInt)
    (ho : ∀ n ∈ s.offset, 0 ≤ n.toInt) : ∃ top window, renderTop style s.limit s.offset = .ok top ∧
      renderWindow style s.orderBy.isSome s.limit s.offset = .ok window ∧
      top.params.length + window.params.length = s.limit.toList.length + s.offset.toList.length ∧
      ∀ d : Dialect, ∃ p, Paging.ofLexemes ((style.unbounded?.map d.lexis.words).getD []) (top.lexemes d)
        (window.lexemes d) = some p ∧ p.Serves style s := by
  cases style
  case limitOffset unbounded =>
    refine ⟨[], _, rfl, renderLimitOffset_of_nonneg hl ho unbounded, ?_, fun d => ?_⟩
    · cases s.limit <;> cases s.offset <;> cases unbounded <;> rfl
    · exact ⟨_, ofLexemes_limitOffset d unbounded s.limit s.offset, .limitOffset unbounded s⟩
  case offsetFetch requiresOrder topAlone =>
    cases htop : usesTop (.offsetFetch requiresOrder topAlone) s.limit s.offset
    case true =>
      obtain ⟨-, ⟨n, hn⟩, hnone⟩ := usesTop_offsetFetch.mp htop
      refine ⟨topRows n, [], ?_, ?_, ?_, fun d => ⟨_, ofLexemes_top d n, .top _ hn hnone⟩⟩
      · rw [hn] at htop ⊢
        simp only [renderTop, htop, Context.limitCount, Context.rowCount_of_nonneg (hl n hn)]
        rfl
      · simp only [renderWindow, htop, if_true]
      · rw [hn, hnone]
        rfl
    case false =>
      have hempty : renderTop (.offsetFetch requiresOrder topAlone) s.limit s.offset = .ok [] := by
        simp only [renderTop, htop]
      have hwindow : renderWindow (.offsetFetch requiresOrder topAlone) s.orderBy.isSome s.limit s.offset =
          renderOffsetFetch requiresOrder s.orderBy.isSome s.limit s.offset := by
        simp [renderWindow, htop]
      rw [hempty, hwindow]
      cases hnone : s.limit.isNone && s.offset.isNone
      case true =>
        simp only [Bool.and_eq_true, Option.isNone_iff_eq_none] at hnone
        refine ⟨[], [], rfl, ?_, ?_, fun d => ⟨_, rfl, .missing _ hnone.1 hnone.2⟩⟩
        · simp [renderOffsetFetch, hnone]
        · rw [hnone.1, hnone.2]
          rfl
      case false =>
        refine ⟨[], _, rfl, renderOffsetFetch_of_nonneg hl ho requiresOrder s.orderBy.isSome hnone, ?_, fun d =>
          ⟨_, ofLexemes_offsetFetch d requiresOrder _ s.limit s.offset, .offsetFetch requiresOrder topAlone s⟩⟩
        cases s.limit <;> cases s.offset <;> cases requiresOrder <;> cases s.orderBy.isSome <;> rfl

-- The start of a query, and the lock at its end.

def opening (s : Select) : Fragment :=
  words "SELECT " ++ if s.distinct then words "DISTINCT " else []

def lock (s : Select) : Fragment :=
  if s.forUpdate then words " FOR UPDATE" else []

theorem renderTop_none (style : LimitStyle) (offset : Option Int64) : renderTop style none offset = .ok [] := by
  unfold renderTop
  split
  case h_1 h => nomatch h
  case h_2 => rfl

theorem renderWindow_none (style : LimitStyle) (ordered : Bool) : renderWindow style ordered none none = .ok [] := by
  cases style
  case limitOffset => rfl
  case offsetFetch requiresOrder topAlone => cases topAlone <;> rfl

theorem renderForUpdate_eq_ok {cx : Context} {s : Select} (h : renderForUpdate cx s.forUpdate = .ok f) :
    f = s.lock := by
  unfold renderForUpdate at h
  rw [lock]
  split at h
  case isTrue hlock =>
    obtain ⟨-, -, h⟩ := Result.bind_eq_ok.mp h
    cases h
    rw [if_pos hlock]
  case isFalse hlock =>
    cases h
    rw [if_neg hlock]

-- The clauses stand around the rest of the query, which is the same without them.
theorem exists_body {cx : Context} (s : Select) (h : s.unpaged.render cx = .ok f) : ∃ body,
    f = s.opening ++ body ++ s.lock ∧ s.render cx = do
      let top ← renderTop cx.dialect.limitStyle s.limit s.offset
      let window ← renderWindow cx.dialect.limitStyle s.orderBy.isSome s.limit s.offset
      return s.opening ++ top ++ body ++ window ++ s.lock := by
  rw [render_eq] at h ⊢
  simp only [unpaged, renderTop_none, renderWindow_none] at h
  split at h
  case isTrue => nomatch h
  case isFalse hcolumns =>
    rw [if_neg hcolumns]
    simp only [Result.bind_eq_ok] at h
    obtain ⟨_, ⟨⟩, projected, hprojected, source, hsource, filter, hfilter, grouping, hgrouping, having, hhaving,
      order, horder, _, ⟨⟩, lock, hlock, h⟩ := h
    cases h
    have hl := renderForUpdate_eq_ok hlock
    simp only [hprojected, hsource, hfilter, hgrouping, hhaving, horder, hlock]
    refine ⟨joined ", " projected ++ words " FROM " ++ source ++ filter ++ grouping ++ having ++ order, ?_, ?_⟩
    all_goals
      simp [opening, hl]
      rfl

end Select

-- The computation fails, and says that a statement cannot be compiled.
def Result.Rejects {α : Type} (r : Result α) : Prop :=
  ∃ m, r = .error (.compilation m)

theorem Result.Rejects.bind {α β : Type} {r : Result α} (h : r.Rejects) (f : α → Result β) : (r >>= f).Rejects := by
  obtain ⟨m, rfl⟩ := h
  exact ⟨m, rfl⟩

namespace Select

section

variable {n : Int64} (h : n.toInt < 0)

include h

theorem rejects_limitClause : (limitClause n).Rejects :=
  Result.Rejects.bind (Context.rowCount_of_neg h "LIMIT") _

theorem rejects_offsetClause : (offsetClause n).Rejects :=
  Result.Rejects.bind (Context.rowCount_of_neg h "OFFSET") _

end

variable {limit offset : Option Int64} (h : ∃ n, (n ∈ limit ∨ n ∈ offset) ∧ n.toInt < 0)

include h

theorem rejects_renderLimitOffset (unbounded : Option String) :
    (renderLimitOffset unbounded limit offset).Rejects := by
  by_cases hl : ∀ n ∈ limit, 0 ≤ n.toInt
  case neg =>
    obtain ⟨n, rfl, hn⟩ := not_forall₂.mp hl
    exact .bind (.bind (rejects_limitClause (Int.not_le.mp hn)) _) _
  case pos =>
    obtain ⟨n, hlimit | rfl, hn⟩ := h
    case inl => exact absurd hn (Int.not_lt.mpr (hl n hlimit))
    case inr =>
      unfold renderLimitOffset
      rw [renderLimit_of_nonneg hl]
      exact .bind (rejects_offsetClause hn) _

theorem rejects_renderOffsetFetch (requiresOrder ordered : Bool) :
    (renderOffsetFetch requiresOrder ordered limit offset).Rejects := by
  have hsome : ¬(limit.isNone && offset.isNone) = true := by
    obtain ⟨n, rfl | rfl, -⟩ := h <;> simp
  unfold renderOffsetFetch
  rw [if_neg hsome]
  by_cases ho : ∀ n ∈ offset, 0 ≤ n.toInt
  case neg =>
    obtain ⟨n, rfl, hn⟩ := not_forall₂.mp ho
    exact .bind (.bind (rejects_offsetClause (Int.not_le.mp hn)) _) _
  case pos =>
    obtain ⟨n, rfl | hoffset, hn⟩ := h
    case inr => exact absurd hn (Int.not_lt.mpr (ho n hoffset))
    case inl =>
      simp only [renderOffsetRows_of_nonneg ho requiresOrder]
      exact .bind (.bind (Context.rowCount_of_neg hn "LIMIT") _) _

-- A query with a negative bound is given up at its clauses.
theorem rejects_paging (style : LimitStyle) (ordered : Bool) {α : Type} (f : Fragment → Fragment → Result α) :
    Result.Rejects (do
      let top ← renderTop style limit offset
      let window ← renderWindow style ordered limit offset
      f top window) := by
  cases style
  case limitOffset unbounded => exact .bind (rejects_renderLimitOffset h unbounded) _
  case offsetFetch requiresOrder topAlone =>
    cases htop : usesTop (.offsetFetch requiresOrder topAlone) limit offset
    case true =>
      obtain ⟨-, ⟨n, rfl⟩, rfl⟩ := usesTop_offsetFetch.mp htop
      have hn : n.toInt < 0 := by simpa using h
      simp only [renderTop, htop]
      exact .bind (.bind (Context.rowCount_of_neg hn "LIMIT") _) _
    case false =>
      simp only [renderTop, renderWindow, htop]
      exact .bind (rejects_renderOffsetFetch h requiresOrder ordered) _

omit h

-- A query that compiles without its bounds fails with them if one of them is negative or if their parameters
-- are too many, and in no other case. Otherwise the clauses around it state the rows that it wants.
theorem compile_paged {cx : Context} (s : Select) {c : Command}
    (h : (Statement.select s.unpaged).compile cx = .ok c) :
    (((Statement.select s).compile cx).Rejects ↔ (∃ n, (n ∈ s.limit ∨ n ∈ s.offset) ∧ n.toInt < 0) ∨
      cx.dialect.maxParameters < c.params.length + s.limit.toList.length + s.offset.toList.length) ∧
    (((Statement.select s).compile cx).Rejects ∨ ∃ body top window f p,
      c = ⟨(s.opening ++ body ++ s.lock).text cx.dialect 0, (s.opening ++ body ++ s.lock).params⟩ ∧
      f = s.opening ++ top ++ body ++ window ++ s.lock ∧
      (Statement.select s).compile cx = .ok ⟨f.text cx.dialect 0, f.params⟩ ∧
      Paging.ofLexemes cx.dialect.unboundedWords (top.lexemes cx.dialect) (window.lexemes cx.dialect) = some p ∧
      p.Serves cx.dialect.limitStyle s ∧
      (cx.dialect ∈ Dialect.builtins →
        cx.dialect.read 0 (f.text cx.dialect 0) f.params = some (f.lexemes cx.dialect))) := by
  obtain ⟨bare, hbare, hcommand⟩ := Result.bind_eq_ok.mp h
  obtain ⟨rfl, hle⟩ := Context.of_command hcommand
  obtain ⟨body, rfl, hrender⟩ := s.exists_body hbare
  by_cases hneg : ∃ n, (n ∈ s.limit ∨ n ∈ s.offset) ∧ n.toInt < 0
  case pos =>
    have hrejects : ((Statement.select s).compile cx).Rejects := by
      rw [Statement.compile, hrender]
      exact .bind (rejects_paging hneg _ _ _) _
    exact ⟨⟨fun _ => .inl hneg, fun _ => hrejects⟩, .inl hrejects⟩
  case neg =>
    have hnonneg (n : Int64) (hn : n ∈ s.limit ∨ n ∈ s.offset) : 0 ≤ n.toInt :=
      Int.not_lt.mp fun hlt => hneg ⟨n, hn, hlt⟩
    obtain ⟨top, window, htop, hwindow, hcount, hread⟩ :=
      s.exists_paging cx.dialect.limitStyle (fun n hn => hnonneg n (.inl hn)) fun n hn => hnonneg n (.inr hn)
    have hrender : s.render cx = .ok (s.opening ++ top ++ body ++ window ++ s.lock) := by
      rw [hrender, htop, hwindow]
      rfl
    have hcompile : (Statement.select s).compile cx = cx.command (s.opening ++ top ++ body ++ window ++ s.lock) := by
      rw [Statement.compile, hrender]
      rfl
    have hparams : (s.opening ++ top ++ body ++ window ++ s.lock).params.length =
        (s.opening ++ body ++ s.lock).params.length + s.limit.toList.length + s.offset.toList.length := by
      simp only [params_append, List.length_append]
      omega
    obtain ⟨p, hp, hserves⟩ := hread cx.dialect
    rw [hcompile, Context.command, hparams]
    split
    case isTrue hmany => exact ⟨⟨fun _ => .inr hmany, fun _ => ⟨_, rfl⟩⟩, .inl ⟨_, rfl⟩⟩
    case isFalse hfew =>
      refine ⟨⟨by rintro ⟨_, ⟨⟩⟩, fun h => (h.elim hneg hfew).elim⟩, .inr ⟨body, top, window, _, p, rfl, rfl, rfl, hp,
        hserves, fun hcx => ?_⟩⟩
      exact Fragment.read_text hcx (s.whole_render cx hcx _ hrender) 0

-- The bound of a query is one parameter too many, though it is not negative.
theorem rejects_last_parameter :
    let table : TableDef := ⟨"people", [⟨"id", .int .bits32, false, false, false, none⟩], [0], [], []⟩
    let s : Select := { Select.new (.physical 0 none) [.physical ⟨0, 0⟩ none] with limit := some 1 }
    let cx : Context := .new ⟨[table]⟩ { Dialect.postgres with maxParameters := 0 } none
    (∃ c, (Statement.select s.unpaged).compile cx = .ok c) ∧
      ¬(∃ n, (n ∈ s.limit ∨ n ∈ s.offset) ∧ n.toInt < 0) ∧ ((Statement.select s).compile cx).Rejects := by
  intro table s cx
  have hbare : ((Statement.select s.unpaged).compile cx).failure? = none := by decide +kernel
  have hfull : ((Statement.select s).compile cx).failure? =
      some (.compilation "Statement binds 1 parameters; postgres allows at most 0") := by
    decide +kernel
  refine ⟨Result.failure?_eq_none.mp hbare, ?_, ⟨_, Result.failure?_eq_some.mp hfull⟩⟩
  rintro ⟨n, h | h, hn⟩ <;> cases h
  exact absurd hn (by decide)

-- The second and the third row.
theorem compile_second_and_third :
    let table : TableDef := ⟨"people", [⟨"id", .int .bits32, false, false, false, none⟩], [0], [], []⟩
    let s : Select :=
      { Select.new (.physical 0 none) [.physical ⟨0, 0⟩ none] with limit := some 2, offset := some 1 }
    let cx : Context := .new ⟨[table]⟩ .sqlServer none
    ∃ c d before top body window after p, (Statement.select s.unpaged).compile cx = .ok c ∧
      (Statement.select s).compile cx = .ok d ∧
      d.sql = "SELECT people.id FROM people ORDER BY (SELECT NULL) OFFSET @P1 ROWS FETCH NEXT @P2 ROWS ONLY" ∧
      Dialect.sqlServer.read 0 d.sql d.params = some (before ++ top ++ body ++ window ++ after) ∧
      Paging.ofLexemes [] top window = some p ∧ p.rows [10, 20, 30, 40] = [20, 30] := by
  intro table s cx
  have hsql : ((Statement.select s).compile cx).toOption.map (·.sql) =
      some "SELECT people.id FROM people ORDER BY (SELECT NULL) OFFSET @P1 ROWS FETCH NEXT @P2 ROWS ONLY" := by
    decide +kernel
  have hbare : ((Statement.select s.unpaged).compile cx).toOption.isSome = true := by decide +kernel
  obtain ⟨d, hd, hsql⟩ := Option.map_eq_some_iff.mp hsql
  obtain ⟨c, hc⟩ := Option.isSome_iff_exists.mp hbare
  rw [Result.toOption_eq_some] at hd hc
  obtain ⟨-, ⟨m, hm⟩ | ⟨body, top, window, f, p, -, hf, hcompile, hp, hserves, hread⟩⟩ := compile_paged s hc
  case inl => nomatch hd.symm.trans hm
  case inr =>
    cases hd.symm.trans hcompile
    have hread := hread (by simp [cx, Context.new, Dialect.builtins])
    have hlexemes := congrArg (lexemes cx.dialect) hf
    simp only [lexemes_append] at hlexemes
    rw [hlexemes] at hread
    exact ⟨c, _, _, _, _, _, _, p, hc, hcompile, hsql, hread, hp, hserves.rows_eq _⟩

end Select

end PolySql
