import Mathlib.Data.List.Basic
import PolySql.Proofs.Transaction.Holding

namespace PolySql

def savepointName (k : Nat) : String :=
  (⟨k, false⟩ : Savepoint).name

theorem savepointName_injective (h : savepointName i = savepointName j) : i = j := by
  have hl := congrArg String.toList h
  simp only [savepointName, Savepoint.name, String.toList_append, String.toList_ofList,
    List.append_cancel_left_eq] at hl
  rw [← Text.toNat_ofNat i, hl, Text.toNat_ofNat]

namespace Frame

variable {f : Frame}

theorem created_of_pending (h : f.pendingSavepoint? = none) :
    f.createdSavepoint?.map (·.number) = f.number? := by
  cases hs : f.savepoint <;> simp_all [pendingSavepoint?, createdSavepoint?, number?]

theorem pending_of_created (h : f.createdSavepoint? = none) :
    f.pendingSavepoint?.map (·.number) = f.number? := by
  cases hs : f.savepoint <;> simp_all [pendingSavepoint?, createdSavepoint?, number?]

theorem pendingSavepoint?_established (f : Frame) : f.established.pendingSavepoint? = none := by
  cases hs : f.savepoint <;> simp [pendingSavepoint?, established, hs]

theorem createdSavepoint?_opened (nesting : Nesting) (k : Nat) :
    (opened (nesting.savepoint k)).createdSavepoint? = none := by
  cases nesting <;> rfl

end Frame

-- The savepoints that a path still lacks when the frames below `b` have theirs, outermost first.
def Nesting.lacking (nesting : Nesting) (b : Nat) (path : List Nat) : List Nat :=
  path.reverse.filterMap fun k => if b ≤ k then nesting.number k else none

def Nesting.saved (nesting : Nesting) (b k : Nat) : List Nat :=
  (if k < b then nesting.number k else none).toList

namespace Nesting

variable {nesting : Nesting} {path : List Nat}

theorem eq_of_number (h : nesting.number k = some i) : i = k := by
  cases nesting <;> simp_all [number]

theorem lacking_cons :
    nesting.lacking b (k :: path) =
      nesting.lacking b path ++ (if b ≤ k then nesting.number k else none).toList := by
  rw [lacking, List.reverse_cons, List.filterMap_append]
  split
  case isTrue h => cases hn : nesting.number k <;> simp [lacking, h, hn]
  case isFalse h => simp [lacking, h]

theorem mem_lacking : i ∈ nesting.lacking b path ↔ i ∈ path ∧ b ≤ i ∧ nesting.number i = some i := by
  simp only [lacking, List.mem_filterMap, List.mem_reverse]
  constructor
  case mp =>
    intro ⟨k, hk, hi⟩
    split at hi
    case isTrue hb =>
      cases eq_of_number hi
      exact ⟨hk, hb, hi⟩
    case isFalse => nomatch hi
  case mpr => exact fun ⟨hi, hb, hn⟩ => ⟨i, hi, by rw [if_pos hb, hn]⟩

theorem ascending_lacking (hd : path.Pairwise (· > ·)) : (nesting.lacking b path).Pairwise (· < ·) := by
  refine (List.pairwise_reverse.mpr hd).filterMap _ fun j k hjk i hi i' hi' => ?_
  rw [eq_of_number (Option.ite_none_right_eq_some.mp hi).2,
    eq_of_number (Option.ite_none_right_eq_some.mp hi').2]
  exact hjk

theorem nodup_lacking (hd : path.Pairwise (· > ·)) : (nesting.lacking b path).Nodup :=
  (ascending_lacking hd).imp Nat.ne_of_lt

theorem mem_saved : i ∈ nesting.saved b k ↔ i = k ∧ k < b ∧ nesting.number k = some k := by
  simp only [saved, Option.mem_toList, Option.ite_none_right_eq_some]
  constructor
  case mp =>
    intro ⟨hb, hi⟩
    cases eq_of_number hi
    exact ⟨rfl, hb, hi⟩
  case mpr =>
    rintro ⟨rfl, hb, hi⟩
    exact ⟨hb, hi⟩

theorem saved_eq (nesting : Nesting) (b k : Nat) :
    nesting.saved b k = [] ∨ nesting.saved b k = [k] := by
  by_cases hb : k < b <;> by_cases hk : k = 0 <;> cases nesting <;> simp [saved, number, hb, hk]

theorem length_saved (nesting : Nesting) (b k : Nat) : (nesting.saved b k).length ≤ 1 := by
  rcases nesting.saved_eq b k with h | h <;> simp [h]

theorem le_of_saved (hk : k ≠ 0) (h : Nesting.savepoints.saved b k = []) : b ≤ k := by
  by_contra hb
  simp [saved, number, Nat.lt_of_not_le hb, hk] at h

end Nesting

-- Frames below `b` were open at the last statement, so that their savepoints are there.
structure Scene.PreparedTo (b : Nat) (s : Scene) : Prop where
  le : b ≤ s.opened
  created : ∀ x ∈ s.live, x.1 < b → x.2.pendingSavepoint? = none
  pending : ∀ x ∈ s.live, b ≤ x.1 → x.2.createdSavepoint? = none
  begun : s.begun = true ↔ 0 < b

namespace Scene.PreparedTo

variable {s : Scene}

theorem start (settings : TransactionSettings) : (Scene.start settings).PreparedTo 0 where
  le := Nat.zero_le _
  created := by simp
  pending := by simp [Scene.start, Frame.opened, Frame.createdSavepoint?]
  begun := by simp [Scene.start]

theorem prepared (hn : Numbered s.path s.opened) (hp : s.path ≠ []) (hb : ∀ k ∈ s.path, k < b)
    (hle : b ≤ s.opened) : s.prepared.PreparedTo b where
  le := hle
  created := List.forall_mem_map.mpr fun x _ _ => x.2.pendingSavepoint?_established
  pending := List.forall_mem_map.mpr fun x hx hbx =>
    absurd (hb x.1 (List.mem_map_of_mem hx)) (Nat.not_lt_of_le hbx)
  begun := by simpa [Scene.prepared] using hb 0 (List.mem_of_getLast? (hn.last hp))

variable (h : s.PreparedTo b)

include h

theorem push (nesting : Nesting) : (s.push nesting).PreparedTo b where
  le := Nat.le_succ_of_le h.le
  created := List.forall_mem_cons.mpr
    ⟨fun hb => absurd h.le (Nat.not_le_of_lt hb), h.created⟩
  pending := List.forall_mem_cons.mpr ⟨fun _ => Frame.createdSavepoint?_opened .., h.pending⟩
  begun := h.begun

-- The frames that are left keep their savepoints.
theorem withLive {live : List (Nat × Frame)}
    (hl : ∀ x ∈ live, ∃ f, (x.1, f) ∈ s.live ∧ f.savepoint = x.2.savepoint) :
    { s with live := live }.PreparedTo b where
  le := h.le
  created x hx hb := by
    have ⟨f, hf, he⟩ := hl x hx
    have := h.created _ hf hb
    rwa [Frame.pendingSavepoint?, he] at this
  pending x hx hb := by
    have ⟨f, hf, he⟩ := hl x hx
    have := h.pending _ hf hb
    rwa [Frame.createdSavepoint?, he] at this
  begun := h.begun

variable {nesting : Nesting} (hs : s.Saved nesting)

include hs

theorem created_eq (hx : (k, f) ∈ s.live) (control : String → Control) :
    f.createdSavepoint?.toList.map (control ·.name) =
      (nesting.saved b k).map (control ∘ savepointName) := by
  have hnum := hs _ hx
  have hmap : f.createdSavepoint?.toList.map (control ·.name) =
      (f.createdSavepoint?.map (·.number)).toList.map (control ∘ savepointName) := by
    cases f.createdSavepoint? <;> rfl
  rw [hmap, Nesting.saved]
  split
  case isTrue hb => rw [Frame.created_of_pending (h.created _ hx hb), hnum]
  case isFalse hb => rw [h.pending _ hx (Nat.le_of_not_lt hb), Option.map_none]

theorem due_eq (effective : Isolation → Isolation) : s.due effective =
    (if s.begun then [] else [.begin (s.isolation.map effective) s.readOnly]) ++
      (nesting.lacking b s.path).map (.savepoint ∘ savepointName) := by
  have hmap : ∀ x ∈ s.live, x.2.pendingSavepoint?.map (·.number) =
      if b ≤ x.1 then nesting.number x.1 else none := by
    intro x hx
    split
    case isTrue hb => rw [Frame.pending_of_created (h.pending x hx hb), hs x hx]
    case isFalse hb => rw [h.created x hx (Nat.lt_of_not_le hb), Option.map_none]
  have hl : nesting.lacking b s.path =
      (s.live.reverse.filterMap (·.2.pendingSavepoint?)).map (·.number) := by
    rw [Nesting.lacking, Scene.path, ← List.map_reverse, List.filterMap_map, List.map_filterMap]
    refine List.filterMap_congr fun x hx => ?_
    exact (hmap x (List.mem_reverse.mp hx)).symm
  rw [Scene.due, hl, List.map_map]
  rfl

omit hs in
theorem of_saved {control : String → Control}
    (hc : c ∈ (nesting.saved b k).map (control ∘ savepointName)) :
    s.begun = true ∧ c = control (savepointName k) ∧ k < b ∧ nesting.number k = some k := by
  obtain ⟨i, hi, rfl⟩ := List.mem_map.mp hc
  obtain ⟨rfl, hlt, hnum⟩ := Nesting.mem_saved.mp hi
  exact ⟨h.begun.mpr (Nat.zero_lt_of_lt hlt), rfl, hlt, hnum⟩

end Scene.PreparedTo

-- A call of the connection that runs a statement.
def Mark.isStatement : Mark → Bool
  | event (.task _ t _ _) => !t.isControl
  | _ => false

-- The frames that have had to do with a statement are those below this number.
def Log.reach (log : Log) : Nat :=
  ((log.filter (·.2.isStatement)).flatMap (·.1.path)).foldr (fun k b => max (k + 1) b) 0

section

variable {m : Move} {path : List Nat} {marks : List Mark} {log : Log}

theorem foldr_max_le_iff (ks : List Nat) :
    ks.foldr (fun k b => max (k + 1) b) 0 ≤ c ↔ ∀ k ∈ ks, k < c := by
  induction ks
  case nil => simp
  case cons k rest ih => simp only [List.foldr_cons, List.forall_mem_cons, Nat.max_le, ih]; rfl

theorem Log.reach_le_iff : log.reach ≤ c ↔
    ∀ x ∈ log, x.2.isStatement = true → ∀ k ∈ x.1.path, k < c := by
  simp only [reach, foldr_max_le_iff, List.mem_flatMap, List.mem_filter]
  constructor
  case mp => exact fun h x hx hs k hk => h k ⟨x, ⟨hx, hs⟩, hk⟩
  case mpr => exact fun h k ⟨x, ⟨hx, hs⟩, hk⟩ => h x hx hs k hk

theorem Log.lt_reach (hx : x ∈ log) (hs : x.2.isStatement = true) : ∀ k ∈ x.1.path, k < log.reach :=
  Log.reach_le_iff.mp (Nat.le_refl _) x hx hs

theorem Log.reach_le_append : log.reach ≤ Log.reach (log ++ new) :=
  Log.reach_le_iff.mpr fun _ hx hs => Log.lt_reach (List.mem_append_left _ hx) hs

theorem Move.lt_reach (h : ∃ x ∈ marks, x.isStatement = true) :
    ∀ k ∈ path, k < Log.reach (log ++ m.log path marks) := by
  have ⟨x, hx, hs⟩ := h
  have hm : (⟨path, m⟩, x) ∈ log ++ m.log path marks :=
    List.mem_append_right _ (List.mem_map_of_mem hx)
  exact Log.lt_reach hm hs

theorem Log.reach_append_of_forall (h : ∀ x ∈ new, x.2.isStatement = false) :
    Log.reach (log ++ new) = log.reach := by
  have : new.filter (·.2.isStatement) = [] := List.filter_eq_nil_iff.mpr fun x hx => by simp [h x hx]
  simp [reach, this]

theorem Move.reach_append (h : ∀ x ∈ marks, x.isStatement = false) :
    Log.reach (log ++ m.log path marks) = log.reach := by
  refine Log.reach_append_of_forall ?_
  rw [Move.log, List.forall_mem_map]
  exact h

end

-- Events that do not come from statements.
def Quiet (es : List Event) : Prop :=
  ∀ e ∈ es, Mark.isStatement (.event e) = false

namespace Quiet

theorem append (h : Quiet es) (h' : Quiet es') : Quiet (es ++ es') :=
  List.forall_mem_append.mpr ⟨h, h'⟩

theorem told (settings : TransactionSettings) (notice : Notice) : Quiet (settings.told notice) :=
  List.forall_mem_map.mpr fun _ _ => rfl

theorem hooks (labels : List String) : Quiet (hookEvents labels) :=
  List.forall_mem_map.mpr fun _ _ => rfl

theorem tried (h : Tried n controls es r) : Quiet es := by
  induction h
  case done => exact fun _ he => nomatch he
  case failed => exact List.forall_mem_singleton.mpr rfl
  case next ih => exact List.forall_mem_cons.mpr ⟨rfl, ih⟩

theorem marks (h : Quiet es) : ∀ x ∈ es.map Mark.event, x.isStatement = false :=
  List.forall_mem_map.mpr h

end Quiet

section

variable {settings : TransactionSettings} {n : Nat} {m : Move} {s s' : Scene}

theorem Scene.PreparedTo.shift (h : s.PreparedTo log.reach) (hn : Numbered s.path s.opened)
    (ht : Shift settings n m s marks s') (hl' : s'.live ≠ []) :
    s'.PreparedTo (Log.reach (log ++ m.log s.path marks)) := by
  cases ht
  case opened hl =>
    rw [m.reach_append (by simp)]
    exact h.push settings.nesting
  case isolation | readOnly =>
    rw [m.reach_append (by simp [Mark.isStatement])]
    exact ⟨h.le, h.created, h.pending, h.begun⟩
  case onCommit k f rest hook hl | onRollback k f rest hook hl =>
    rw [m.reach_append (by simp [Mark.isStatement])]
    refine h.withLive (List.forall_mem_cons.mpr ⟨⟨f, hl ▸ List.mem_cons_self, rfl⟩, fun x hx => ?_⟩)
    exact ⟨x.2, by simp [hl, hx], rfl⟩
  case ran es task sql sent succeeded hl hm ht hc =>
    have hp := Scene.path_ne_nil.mpr hl
    refine .prepared hn hp ?_ ?_
    · refine Log.lt_reach (x := (⟨s.path, m⟩, .event (.task n task sent succeeded))) ?_ ?_
      · simp [Move.log]
      · simp [Mark.isStatement, hc]
    · refine Log.reach_le_iff.mpr (List.forall_mem_append.mpr ⟨fun x hx hs k hk => ?_, ?_⟩)
      · exact Nat.lt_of_lt_of_le (Log.lt_reach hx hs k hk) h.le
      · exact fun x hx _ => m.path_of_mem_log hx ▸ hn.below
  case merged hl ht =>
    rw [m.reach_append
      (List.forall_mem_append.mpr ⟨(Quiet.tried ht).marks, by simp [Mark.isStatement]⟩)]
    have hj := hl ▸ List.mem_cons_of_mem _ List.mem_cons_self
    refine h.withLive (List.forall_mem_cons.mpr ⟨⟨_, hj, rfl⟩, fun x hx => ?_⟩)
    exact ⟨x.2, by simp [hl, hx], rfl⟩
  case unreleased hl ht =>
    rw [m.reach_append (Quiet.tried ht).marks]
    exact h
  case undone hl _ ht =>
    rw [m.reach_append ((Quiet.tried ht).append (.hooks _)).marks]
    exact h.withLive fun x hx => ⟨x.2, by rw [hl]; exact List.mem_cons_of_mem _ hx, rfl⟩
  case committed | rolledBack | aborted => exact absurd rfl hl'

theorem Reached.prepared (h : Reached settings n s log) (hl : s.live ≠ []) :
    s.PreparedTo log.reach := by
  induction h
  case start => exact .start settings
  case shift m hr ht ih => exact (ih ht.live_ne_nil).shift hr.numbered ht hl

end

end PolySql
