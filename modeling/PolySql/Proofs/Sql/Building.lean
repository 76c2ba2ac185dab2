import PolySql.Proofs.Computation
import PolySql.Proofs.Sql.Outcome
import PolySql.Proofs.Sql.Params

namespace PolySql

-- Writes a statement from its start to its end. What was written before a failure stays.
abbrev Build (α : Type) := ExceptT DatabaseError (StateM Builder) α

namespace Build

def push (f : Fragment) : Build Unit :=
  modify (·.push f)

def words (s : String) : Build Unit :=
  push (.words s)

def name (s : String) : Build Unit :=
  push (.name s)

def done : Build Unit :=
  pure ()

def ofResult {α : Type} (r : Result α) : Build α :=
  ExceptT.mk (pure r)

-- What is converted or checked before anything of it is written.
def pushed (r : Result Fragment) : Build Unit := do
  push (← ofResult r)

def context : Build Context := do
  return (← get).context

def require (c : Capability) (operation : String) : Build Unit := do
  ofResult ((← context).require c operation)

def when (c : Bool) (x : Build Unit) : Build Unit :=
  if c then x else done

def each {α : Type} (separator : String) (f : α → Build Unit) : List α → Build Unit
  | [] => done
  | a :: r => do
    f a
    when (!r.isEmpty) (words separator)
    each separator f r

-- Names in parentheses.
def names (ids : List String) : Build Unit := do
  words "("
  each ", " name ids
  words ")"

-- A column after the name of its table or the table's alias.
def column (owner column : String) : Build Unit := do
  let cx ← context
  when cx.qualified (do name owner; words ".")
  name column

def setQualified (q : Bool) : Build Unit :=
  modify fun b => { b with context := { b.context with qualified := q } }

-- Columns are written without their table's name until the end, whether that is a failure or not.
def unqualified (x : Build Unit) : Build Unit := do
  let before := (← context).qualified
  setQualified false
  let result ← ExceptT.lift x.run
  setQualified before
  ofResult result

end Build

namespace Builder

variable (b : Builder) (f g : Fragment)

@[simp]
theorem push_nil : b.push [] = b := by
  simp [push, Fragment.text, Fragment.texts, Fragment.params]

@[simp]
theorem push_push : (b.push f).push g = b.push (f ++ g) := by
  simp [push, Fragment.text_append, String.append_assoc]

end Builder

namespace Build

section

variable {b : Builder} {α : Type}

@[simp]
theorem exec_push (f : Fragment) : exec (push f) b = (.ok (), b.push f) :=
  rfl

end

-- What becomes of a builder by the addition of a fragment, or by a failure on the way.
inductive Added (b : Builder) : Result Fragment → Result Unit × Builder → Prop
  | ok (f : Fragment) : Added b (.ok f) (.ok (), b.push f)
  | error (e : DatabaseError) (f : Fragment) : Added b (.error e) (.error e, b.push f)

-- After what is already written, the computation goes on until the whole fragment is, whatever stands
-- before that.
def Writes (cx : Context) (written : Fragment) (x : Build Unit) (r : Result Fragment) : Prop :=
  ∀ b : Builder, b.context = cx → Added b r (exec x (b.push written))

namespace Writes

variable {cx : Context} {w f : Fragment} {x : Build Unit} {r rx : Result Fragment} {α : Type}

theorem done (h : w = f) : Writes cx w done (.ok f) :=
  fun _ _ => h ▸ .ok w

theorem push (h : w ++ g = f) : Writes cx w (push g) (.ok f) := by
  subst h
  intro b _
  rw [exec_push, Builder.push_push]
  exact .ok _

theorem throw (e : DatabaseError) : Writes cx w (throw e) (.error e) :=
  fun _ _ => .error e w

theorem context {k : Context → Build Unit} (h : Writes cx w (k cx) r) :
    Writes cx w (context >>= k) r := by
  rintro b rfl
  exact h b rfl

-- A check of something that is known by now.
theorem check {c : Result α} {k : α → Build Unit} {s : α → Result Fragment}
    (h : ∀ a, c = .ok a → Writes cx w (k a) (s a)) : Writes cx w (ofResult c >>= k) (c >>= s) := by
  intro b hb
  cases c
  case ok a => exact h a rfl b hb
  case error e => exact .error e w

theorem require {c : Capability} {operation : String} {k : Build Unit} {s : Unit → Result Fragment}
    (h : Writes cx w k (s ())) : Writes cx w (require c operation >>= fun _ => k) (cx.require c operation >>= s) := by
  rintro b rfl
  exact check (c := b.context.require c operation) (fun _ _ => h) b rfl

theorem pushed (r : Result Fragment) : Writes cx [] (pushed r) r := by
  intro b hb
  cases r
  case ok f => exact push (w := []) rfl b hb
  case error e => exact .error e []

-- One part after the other.
theorem bindMap {c : Result α} {g : α → Fragment} {k : Build Unit} {s : α → Result Fragment}
    (hx : Writes cx [] x (c.map g)) (hk : ∀ a, c = .ok a → Writes cx (w ++ g a) k (s a)) :
    Writes cx w (x >>= fun _ => k) (c >>= s) := by
  intro b hb
  have h := hx (b.push w) hb
  rw [Builder.push_nil] at h
  generalize ho : exec x (b.push w) = o at h
  cases c
  case ok a =>
    cases h
    rw [exec_bind_of_ok ho, Builder.push_push]
    exact hk a rfl b hb
  case error e =>
    cases h
    rw [exec_bind_of_error ho, Builder.push_push]
    exact .error e _

theorem bind {k : Build Unit} {s : Fragment → Result Fragment} (hx : Writes cx [] x rx)
    (hk : ∀ f, rx = .ok f → Writes cx (w ++ f) k (s f)) : Writes cx w (x >>= fun _ => k) (rx >>= s) :=
  bindMap (g := id) (by cases rx <;> exact hx) hk

-- The last part.
theorem lastMap {c : Result α} {g : α → Fragment} {s : α → Result Fragment} (hx : Writes cx [] x (c.map g))
    (hs : ∀ a, c = .ok a → s a = .ok (w ++ g a)) : Writes cx w x (c >>= s) := by
  intro b hb
  have h := hx (b.push w) hb
  rw [Builder.push_nil] at h
  generalize exec x (b.push w) = o at h
  cases c
  case ok a =>
    cases h
    rw [Builder.push_push]
    change Added b (s a) _
    rw [hs a rfl]
    exact .ok _
  case error e =>
    cases h
    rw [Builder.push_push]
    exact .error e _

theorem last {s : Fragment → Result Fragment} (hx : Writes cx [] x rx)
    (hs : ∀ f, rx = .ok f → s f = .ok (w ++ f)) : Writes cx w x (rx >>= s) :=
  lastMap (g := id) (by cases rx <;> exact hx) hs

theorem map {c : Result α} {g : α → Fragment} (h : Writes cx w x (c >>= fun a => .ok (g a))) :
    Writes cx w x (c.map g) := by
  cases c <;> exact h

theorem bind_ok {k : Build Unit} (hx : Writes cx [] x (.ok g)) (hk : Writes cx (w ++ g) k r) :
    Writes cx w (x >>= fun _ => k) r :=
  bind (s := fun _ => r) hx fun _ hf => Except.ok.inj hf ▸ hk

theorem last_ok (hx : Writes cx [] x (.ok g)) (h : w ++ g = f) : Writes cx w x (.ok f) :=
  last (s := fun _ => .ok f) hx fun _ hf => Except.ok.inj hf ▸ congrArg _ h.symm

theorem push_bind {k : Build Unit} (h : Writes cx (w ++ g) k r) : Writes cx w (Build.push g >>= fun _ => k) r :=
  bind_ok (push rfl) h

theorem when (c : Bool) (hx : Writes cx [] x rx) : Writes cx [] (when c x) (if c then rx else .ok []) := by
  cases c
  case false => exact done rfl
  case true => exact hx

theorem when_words (c : Bool) (s : String) :
    Writes cx [] (Build.when c (Build.words s)) (.ok (if c then Fragment.words s else [])) := by
  cases c
  case false => exact done rfl
  case true => exact push rfl

-- An item of a list, with a separator unless it is the last one.
theorem cons {y : Build Unit} {rs : Result (List Fragment)} {separator : String} {isLast : Bool}
    (hx : Writes cx [] x rx) (hy : Writes cx [] y (rs.map (Fragment.joined separator)))
    (hl : ∀ fs, rs = .ok fs → fs.isEmpty = isLast) :
    Writes cx [] (do x; Build.when (!isLast) (Build.words separator); y)
      ((do
        let head ← rx
        let tail ← rs
        return head :: tail).map (Fragment.joined separator)) := by
  have he : (do
        let head ← rx
        let tail ← rs
        return head :: tail).map (Fragment.joined separator) =
      rx >>= fun head => rs >>= fun tail => .ok (Fragment.joined separator (head :: tail)) := by
    cases rx <;> cases rs <;> rfl
  rw [he]
  refine bind hx fun f _ => bind_ok (when_words _ _) (lastMap hy fun fs hfs => ?_)
  rw [← hl fs hfs]
  cases fs <;> simp [Fragment.joined, Fragment.words]

theorem each {f : α → Build Unit} {g : α → Result Fragment} (h : ∀ a, Writes cx [] (f a) (g a))
    (separator : String) (as : List α) :
    Writes cx [] (each separator f as) ((as.mapM g).map (Fragment.joined separator)) := by
  induction as
  case nil => exact done rfl
  case cons a r ih =>
    rw [List.mapM_cons]
    refine cons (h a) ih fun fs hfs => ?_
    cases Result.mapM_eq_ok.mp hfs <;> rfl

theorem each_ok {f : α → Build Unit} {g : α → Fragment} (h : ∀ a, Writes cx [] (f a) (.ok (g a)))
    (separator : String) (as : List α) :
    Writes cx [] (Build.each separator f as) (.ok (Fragment.joined separator (as.map g))) := by
  have hs := each h separator as
  have hm : as.mapM (fun a => (.ok (g a) : Result Fragment)) = .ok (as.map g) := List.mapM_pure
  rwa [hm] at hs

theorem names (ids : List String) : Writes cx [] (names ids) (.ok (Fragment.nameList ids)) :=
  push_bind <| bind_ok (each_ok (fun _ => push rfl) ", " ids) <| push rfl

theorem forM {f : α → Build Unit} {g : α → Result Fragment} (h : ∀ a, Writes cx [] (f a) (g a)) (as : List α) :
    Writes cx [] (as.forM f) ((as.mapM g).map List.flatten) := by
  induction as
  case nil => exact done rfl
  case cons a r ih =>
    have he : ((a :: r).mapM g).map List.flatten =
        g a >>= fun f => r.mapM g >>= fun fs => .ok (f ++ fs.flatten) := by
      rw [List.mapM_cons]
      cases g a <;> cases r.mapM g <;> rfl
    rw [he]
    exact bind (h a) fun _ _ => lastMap ih fun _ _ => rfl

theorem column (owner id : String) : Writes cx [] (column owner id) (.ok (cx.columnName owner id)) := by
  refine context ?_
  rw [Context.columnName]
  cases cx.qualified
  case false => exact bind_ok (done rfl) (push rfl)
  case true => exact bind_ok (push_bind (push rfl)) (push rfl)

-- The tables' names are left out of what is written meanwhile, and the flag is then what it was.
theorem unqualified (h : Writes cx.unqualified [] x r) : Writes cx [] (unqualified x) r := by
  rintro b rfl
  let b' : Builder := { b with context := b.context.unqualified }
  have hx := h b' rfl
  have he : exec (Build.unqualified x) b = ((exec x b').1,
      { (exec x b').2 with context := { (exec x b').2.context with qualified := b.context.qualified } }) := by
    rfl
  rw [Builder.push_nil] at hx ⊢
  rw [he]
  generalize exec x b' = o at hx
  cases hx
  case ok f => exact .ok f
  case error e f => exact .error e f

end Writes

end Build

end PolySql
