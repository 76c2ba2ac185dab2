import PolySql.Proofs.Transaction.Preparation

namespace PolySql

def Mark.isCall : Mark → Bool
  | event (.task ..) => true
  | _ => false

theorem Mark.not_statement_of_not_call (x : Mark) (h : x.isCall = false) :
    x.isStatement = false := by
  cases x
  case event e =>
    cases e
    case task => nomatch h
    all_goals rfl
  all_goals rfl

-- A control that was asked for, and if it succeeded.
def Mark.control? : Mark → Option (Control × Bool)
  | event (.task _ (.control c) _ succeeded) => some (c, succeeded)
  | _ => none

def Mark.isolation? : Mark → Option Isolation
  | isolation level => some level
  | _ => none

def Mark.readOnly? : Mark → Option Bool
  | readOnly b => some b
  | _ => none

-- Marks that are neither calls nor settings.
def Mark.Silent (x : Mark) : Prop :=
  x.isCall = false ∧ x.isolation? = none ∧ x.readOnly? = none

-- The connection, or the transaction itself, accepted to end the transaction.
def Site.Closes (site : Site) (x : Mark) : Prop :=
  x.control? = some (.commit, true) ∨ x.control? = some (.rollback, true) ∨
    x = .rolledBack ∨ x = .committed ∧ site.path.length = 1

namespace Log

def Called (log : Log) : Prop :=
  ∃ x ∈ log, x.2.isCall = true

def Asked (log : Log) (c : Control) : Prop :=
  ∃ x ∈ log, ∃ succeeded, x.2.control? = some (c, succeeded)

def Granted (log : Log) (c : Control) : Prop :=
  ∃ x ∈ log, x.2.control? = some (c, true)

def Begun (log : Log) : Prop :=
  ∃ isolation readOnly, log.Granted (.begin isolation readOnly)

-- A commit or a rollback of the whole transaction was accepted.
def Over (log : Log) : Prop :=
  ∃ x ∈ log, x.1.Closes x.2

-- The savepoint of a frame is there, if it is to have one.
def Saved (nesting : Nesting) (log : Log) (k : Nat) : Prop :=
  ∀ i, nesting.number k = some i → log.Granted (.savepoint (savepointName i))

variable {log new : Log} {c : Control}

theorem called_append : Called (log ++ new) ↔ log.Called ∨ new.Called := by
  simp only [Called, List.mem_append, or_and_right, exists_or]

theorem asked_append : Asked (log ++ new) c ↔ log.Asked c ∨ new.Asked c := by
  simp only [Asked, List.mem_append, or_and_right, exists_or]

theorem granted_append : Granted (log ++ new) c ↔ log.Granted c ∨ new.Granted c := by
  simp only [Granted, List.mem_append, or_and_right, exists_or]

theorem Granted.asked (h : log.Granted c) : log.Asked c := by
  have ⟨x, hx, hc⟩ := h
  exact ⟨x, hx, true, hc⟩

theorem Asked.called (h : log.Asked c) : log.Called := by
  have ⟨x, hx, b, hc⟩ := h
  refine ⟨x, hx, ?_⟩
  obtain ⟨site, mark⟩ := x
  cases mark
  case event e =>
    cases e
    case task => rfl
    all_goals nomatch hc
  all_goals nomatch hc

theorem eq_of_asked_singleton (h : Asked [(site, .event (.task n (.control c) sent b))] c') :
    c' = c := by
  have ⟨x, hx, b, hb⟩ := h
  cases List.mem_singleton.mp hx
  cases hb
  rfl

theorem not_asked_snoc (h : ¬log.Asked c') (hc : c' ≠ c) :
    ¬Asked (log ++ [(site, .event (.task n (.control c) sent b))]) c' := fun ha =>
  (asked_append.mp ha).elim h (hc ∘ eq_of_asked_singleton)

theorem begun_append (h : log.Begun) : Begun (log ++ new) := by
  have ⟨i, b, hg⟩ := h
  exact ⟨i, b, granted_append.mpr (.inl hg)⟩

theorem saved_append (h : log.Saved nesting k) : Saved nesting (log ++ new) k :=
  fun i hi => granted_append.mpr (.inl (h i hi))

theorem granted_snoc : Granted (log ++ [(site, .event (.task n (.control c) sent true))]) c :=
  granted_append.mpr (.inr ⟨_, List.mem_cons_self, rfl⟩)

theorem over_append : Over (log ++ new) ↔ log.Over ∨ new.Over := by
  simp only [Over, List.mem_append, or_and_right, exists_or]

theorem not_over_append (h : ¬log.Over) (h' : ¬new.Over) : ¬Over (log ++ new) := fun ho =>
  (over_append.mp ho).elim h h'

end Log

section

variable {n : Nat} {m : Move} {path : List Nat} {marks : List Mark} {c : Control} {cs : List Control}
  {es : List Event}

theorem Mark.silent_told (settings : TransactionSettings) (notice : Notice) :
    ∀ x ∈ (settings.told notice).map Mark.event, x.Silent :=
  List.forall_mem_map.mpr (List.forall_mem_map.mpr fun _ _ => ⟨rfl, rfl, rfl⟩)

theorem Mark.silent_hooks (labels : List String) :
    ∀ x ∈ (hookEvents labels).map Mark.event, x.Silent :=
  List.forall_mem_map.mpr (List.forall_mem_map.mpr fun _ _ => ⟨rfl, rfl, rfl⟩)

-- Only what was tried was asked for, and all of it if nothing has failed.
theorem Tried.mem_of_asked (h : Tried n cs es r) (ha : (m.log path (es.map .event)).Asked c) :
    c ∈ cs := by
  induction h
  case done =>
    have ⟨x, hx, _⟩ := ha
    nomatch hx
  case failed =>
    have ⟨x, hx, b, hb⟩ := ha
    cases List.mem_singleton.mp hx
    cases hb
    exact List.mem_cons_self
  case next ih =>
    have ⟨x, hx, b, hb⟩ := ha
    rcases List.mem_cons.mp hx with rfl | hx
    · cases hb
      exact List.mem_cons_self
    · exact List.mem_cons_of_mem _ (ih ⟨x, hx, b, hb⟩)

theorem Tried.granted (h : Tried n cs es (.ok ())) (hc : c ∈ cs) :
    (m.log path (es.map .event)).Granted c := by
  generalize hr : (.ok () : Result Unit) = r at h
  induction h
  case done => nomatch hc
  case failed => nomatch hr
  case next sent _ ih =>
    rcases List.mem_cons.mp hc with rfl | hc
    · exact ⟨_, List.mem_cons_self, rfl⟩
    · have ⟨x, hx, hg⟩ := ih hc hr
      exact ⟨x, List.mem_cons_of_mem _ hx, hg⟩

theorem Tried.called (h : Tried n cs es (.error e)) : (m.log path (es.map .event)).Called := by
  cases h
  case failed => exact ⟨_, List.mem_cons_self, rfl⟩
  case next => exact ⟨_, List.mem_cons_self, rfl⟩

theorem Tried.eq_nil (h : Tried n [] es r) : es = [] := by
  cases h
  rfl

theorem not_over_of_not_granted {es : List Event} (hc : ¬(m.log path (es.map .event)).Granted .commit)
    (hr : ¬(m.log path (es.map .event)).Granted .rollback) : ¬(m.log path (es.map .event)).Over := by
  intro ⟨x, hx, ho⟩
  rcases ho with ho | ho | ho
  · exact hc ⟨x, hx, ho⟩
  · exact hr ⟨x, hx, ho⟩
  · obtain ⟨y, hy, rfl⟩ := List.mem_map.mp hx
    obtain ⟨e, -, rfl⟩ := List.mem_map.mp hy
    exact ho.elim nofun (nomatch ·.1)

theorem Tried.not_over (h : Tried n cs es r) (hc : .commit ∉ cs) (hr : .rollback ∉ cs) :
    ¬(m.log path (es.map .event)).Over :=
  not_over_of_not_granted (hc ∘ h.mem_of_asked ∘ Log.Granted.asked)
    (hr ∘ h.mem_of_asked ∘ Log.Granted.asked)

-- Nothing is granted by a control that fails.
theorem Tried.not_granted (h : Tried n cs es (.error e)) (hl : cs.length ≤ 1) :
    ¬(m.log path (es.map .event)).Granted c := by
  intro ⟨x, hx, hg⟩
  cases h
  case failed =>
    cases List.mem_singleton.mp hx
    nomatch hg
  case next rest es c _ h =>
    have hrest : rest = [] := by simpa using hl
    rw [hrest] at h
    nomatch h

theorem Mark.control?_of_not_call {x : Mark} (h : x.isCall = false) : x.control? = none := by
  cases x
  case event e =>
    cases e
    case task => nomatch h
    all_goals rfl
  all_goals rfl

theorem Site.not_closes_of_event {site : Site} (h : (Mark.event e).control? = none) :
    ¬site.Closes (.event e) := by
  simp [Closes, h]

theorem Mark.control?_statement (h : t.isControl = false) :
    (Mark.event (.task n t sent succeeded)).control? = none := by
  cases t
  case control => nomatch h
  all_goals rfl

theorem not_asked_of_forall (h : ∀ x ∈ marks, x.control? = none) : ¬(m.log path marks).Asked c := by
  intro ⟨x, hx, b, hb⟩
  obtain ⟨y, hy, rfl⟩ := List.mem_map.mp hx
  exact nomatch (h y hy).symm.trans hb

theorem asked_log_append (h : ∀ x ∈ rest, x.control? = none) :
    (m.log path (marks ++ rest)).Asked c ↔ (m.log path marks).Asked c := by
  rw [m.log_append, Log.asked_append, or_iff_left (not_asked_of_forall h)]

theorem granted_log_append (h : ∀ x ∈ rest, x.control? = none) :
    (m.log path (marks ++ rest)).Granted c ↔ (m.log path marks).Granted c := by
  rw [m.log_append, Log.granted_append]
  exact or_iff_left fun hg => not_asked_of_forall h hg.asked

theorem not_over_of_forall (h : ∀ x ∈ marks, ¬Site.Closes ⟨path, m⟩ x) :
    ¬(m.log path marks).Over := by
  intro ⟨x, hx, ho⟩
  obtain ⟨y, hy, rfl⟩ := List.mem_map.mp hx
  exact h y hy ho

theorem not_called_of_forall (h : ∀ x ∈ marks, x.isCall = false) : ¬(m.log path marks).Called := by
  intro ⟨x, hx, hc⟩
  obtain ⟨y, hy, rfl⟩ := List.mem_map.mp hx
  exact nomatch hc.symm.trans (h y hy)

end

end PolySql
