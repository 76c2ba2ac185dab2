import Mathlib.Data.List.Nodup
import PolySql.Proofs.Transaction.Preparation

open scoped List

namespace PolySql

-- The database behind a connection, as transactions see it: the effects that last, those that are
-- pending, and those that were pending at each savepoint, the latest savepoint first.
structure Database where
  durable : List Task
  pending : List Task
  savepoints : List (String × List Task)

namespace Database

def blank : Database := ⟨[], [], []⟩

-- The latest savepoint of a name with the older ones.
def since (db : Database) (name : String) : List (String × List Task) :=
  db.savepoints.dropWhile (·.1 ≠ name)

-- Where savepoints cannot be released, a release does nothing.
def control (d : Dialect) (db : Database) : Control → Database
  | .begin .. => db
  | .commit => ⟨db.durable ++ db.pending, [], []⟩
  | .rollback => ⟨db.durable, [], []⟩
  | .savepoint name => { db with savepoints := (name, db.pending) :: db.savepoints }
  | .release name =>
    match d.supports .releaseSavepoint, db.since name with
    | true, _ :: older => { db with savepoints := older }
    | _, _ => db
  | .rollbackTo name =>
    match db.since name with
    | p :: older => { db with pending := p.2, savepoints := p :: older }
    | [] => db

def call (d : Dialect) (db : Database) : Task → Database
  | .control c => db.control d c
  | t => { db with pending := db.pending ++ [t] }

-- A call that fails changes nothing.
def receive (d : Dialect) (n : Nat) (db : Database) : Event → Database
  | .task connection t _ true => if connection = n then db.call d t else db
  | _ => db

-- The database after what has happened on connection `n`.
def replay (d : Dialect) (n : Nat) (es : List Event) (db : Database) : Database :=
  es.foldl (receive d n) db

section

variable {d : Dialect} {n : Nat} {db : Database}

@[simp]
theorem replay_append : replay d n (es ++ es') db = replay d n es' (replay d n es db) :=
  List.foldl_append

theorem replay_eq_self (h : ∀ e ∈ es, ∀ db, receive d n db e = db) : replay d n es db = db := by
  induction es
  case nil => rfl
  case cons e rest ih =>
    have ⟨he, hr⟩ := List.forall_mem_cons.mp h
    rw [replay, List.foldl_cons, he]
    exact ih hr

@[simp]
theorem replay_told (settings : TransactionSettings) (notice : Notice) :
    replay d n (settings.told notice) db = db :=
  replay_eq_self (List.forall_mem_map.mpr fun _ _ _ => rfl)

@[simp]
theorem replay_hooks (labels : List String) : replay d n (hookEvents labels) db = db :=
  replay_eq_self (List.forall_mem_map.mpr fun _ _ _ => rfl)

-- The database after controls of which none has failed.
def controls (d : Dialect) (db : Database) (cs : List Control) : Database :=
  cs.foldl (control d) db

theorem replay_tried (h : Tried n cs es (.ok ())) : replay d n es db = db.controls d cs := by
  generalize hr : (.ok () : Result Unit) = r at h
  induction h generalizing db
  case done => rfl
  case failed => nomatch hr
  case next ih =>
    rw [replay, List.foldl_cons, receive, if_pos rfl]
    exact ih hr

theorem durable_control (h : c ≠ .commit) : (db.control d c).durable = db.durable := by
  cases c
  case commit => exact absurd rfl h
  case release name =>
    rw [control]
    split <;> rfl
  case rollbackTo name =>
    rw [control]
    split <;> rfl
  all_goals rfl

theorem durable_replay_tried (h : Tried n cs es r) (hc : .commit ∉ cs) :
    (replay d n es db).durable = db.durable := by
  induction h generalizing db
  case done | failed => rfl
  case next ih =>
    have ⟨h₁, h₂⟩ := not_or.mp (mt List.mem_cons.mpr hc)
    rw [replay, List.foldl_cons, receive, if_pos rfl]
    exact (ih h₂).trans (durable_control (Ne.symm h₁))

-- A control that fails leaves everything as it was.
theorem replay_tried_failed (h : Tried n cs es (.error e)) (hcs : cs.length ≤ 1) :
    replay d n es db = db := by
  cases h
  case failed => rfl
  case next rest es c _ h =>
    have hrest : rest = [] := by simpa using hcs
    rw [hrest] at h
    nomatch h

end

end Database

-- A statement that the connection has accepted.
def Mark.accepted? : Mark → Option Task
  | event (.task _ t _ true) => if t.isControl then none else some t
  | _ => none

theorem isStatement_of_accepted {x : Mark} (h : x.accepted?.isSome) : x.isStatement = true := by
  cases x
  case event e =>
    cases e
    case task n t sent succeeded =>
      cases succeeded <;> cases ht : t.isControl <;> simp_all [Mark.accepted?, Mark.isStatement]
    all_goals cases h
  all_goals cases h

theorem filterMap_accepted?_of_quiet {marks : List Mark} (h : ∀ x ∈ marks, x.isStatement = false) :
    marks.filterMap Mark.accepted? = [] := by
  refine List.filterMap_eq_nil_iff.mpr fun x hx => ?_
  cases hs : x.accepted?
  case none => rfl
  case some t => exact nomatch (h x hx).symm.trans (isStatement_of_accepted (by simp [hs]))

theorem filterMap_accepted?_between (h : Quiet es) (h' : Quiet es') :
    ((es ++ [e] ++ es').map Mark.event).filterMap Mark.accepted? =
      [Mark.event e].filterMap Mark.accepted? := by
  simp only [List.map_append, List.filterMap_append, filterMap_accepted?_of_quiet h.marks,
    filterMap_accepted?_of_quiet h'.marks, List.nil_append, List.append_nil, List.map_singleton]

-- The savepoints of a path that there are when the frames below `b` have theirs, innermost first, with
-- what was pending.
def Nesting.snapshots (nesting : Nesting) (b : Nat) (held : List Nat → List Task) :
    List Nat → List (String × List Task)
  | [] => []
  | k :: outer =>
    (nesting.saved b k).map (fun i => (savepointName i, held outer)) ++ snapshots nesting b held outer

section

variable {nesting : Nesting} {path : List Nat} {held held' : List Nat → List Task}

theorem Nesting.saved_of_le (h : b ≤ k) : nesting.saved b k = [] := by
  rw [saved, if_neg (Nat.not_lt_of_le h)]
  rfl

theorem Nesting.snapshots_congr (h : ∀ k outer, k :: outer <:+ path → held outer = held' outer) :
    nesting.snapshots b held path = nesting.snapshots b held' path := by
  induction path
  case nil => rfl
  case cons k outer ih =>
    rw [snapshots, snapshots, h k outer List.suffix_rfl,
      ih fun i rest hs => h i rest (hs.trans (List.suffix_cons _ _))]

theorem Nesting.snapshots_of_lt (h : ∀ k ∈ path, k < b) (h' : ∀ k ∈ path, k < b') :
    nesting.snapshots b held path = nesting.snapshots b' held path := by
  induction path
  case nil => rfl
  case cons k outer ih =>
    have ⟨hk, ho⟩ := List.forall_mem_cons.mp h
    have ⟨hk', ho'⟩ := List.forall_mem_cons.mp h'
    rw [snapshots, snapshots, ih ho ho', saved, saved, if_pos hk, if_pos hk']

theorem Nesting.lacking_of_lt (h : ∀ k ∈ path, k < b) : nesting.lacking b path = [] := by
  induction path
  case nil => rfl
  case cons k outer ih =>
    have ⟨hk, ho⟩ := List.forall_mem_cons.mp h
    rw [lacking_cons, ih ho, if_neg (Nat.not_le_of_lt hk)]
    rfl

-- The savepoints that were lacking come on top, and find pending what all frames hold.
theorem Nesting.snapshots_of_prepared (hd : path.Pairwise (· > ·)) (hb : ∀ k ∈ path, k < b')
    (hp : ∀ k outer, k :: outer <:+ path → b ≤ k → held outer = pending) :
    nesting.snapshots b' held path =
      ((nesting.lacking b path).map fun k => (savepointName k, pending)).reverse ++
        nesting.snapshots b held path := by
  induction path
  case nil => rfl
  case cons k outer ih =>
    have ⟨hk, ho⟩ := List.forall_mem_cons.mp hb
    have ⟨hgt, hdo⟩ := List.pairwise_cons.mp hd
    by_cases hbk : b ≤ k
    case pos =>
      have hpo := ih hdo ho fun i rest hs => hp i rest (hs.trans (List.suffix_cons _ _))
      rw [snapshots, snapshots, saved_of_le hbk, saved, if_pos hk, lacking_cons, if_pos hbk, hpo,
        hp k outer List.suffix_rfl hbk]
      cases nesting.number k <;> simp
    case neg =>
      have hlt := Nat.lt_of_not_le hbk
      have hall : ∀ i ∈ k :: outer, i < b :=
        List.forall_mem_cons.mpr ⟨hlt, fun i hi => Nat.lt_trans (hgt i hi) hlt⟩
      rw [lacking_of_lt hall, snapshots_of_lt hb hall]
      rfl

-- A savepoint is found under its name, with the older ones behind it.
theorem dropWhile_of_sublist {α : Type} {x : α} {l rest : List (String × α)} (h : (a, x) :: rest <+ l)
    (hn : (l.map Prod.fst).Nodup) :
    ∃ older, l.dropWhile (·.1 ≠ a) = (a, x) :: older ∧ rest <+ older ∧ (a, x) :: older <+ l := by
  induction l
  case nil => nomatch h
  case cons p l ih =>
    have ⟨hp, hl⟩ := List.nodup_cons.mp hn
    cases h
    case cons h =>
      have hne : p.1 ≠ a := fun he => hp (he ▸ List.mem_map_of_mem (h.subset List.mem_cons_self))
      have ⟨older, hd, hr, hs⟩ := ih h hl
      refine ⟨older, ?_, hr, hs.cons p⟩
      rw [List.dropWhile_cons_of_pos (by simpa using hne), hd]
    case cons_cons h =>
      refine ⟨l, ?_, h, .refl _⟩
      rw [List.dropWhile_cons_of_neg (by simp)]

end

end PolySql
