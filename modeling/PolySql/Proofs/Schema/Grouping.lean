import PolySql.Proofs.Schema.Encodings

namespace PolySql

section

variable {α β γ : Type} {R : α → β → Prop} {as : List α} {a : α} {bs : List β} {cs : List γ}

theorem ne_nil_of_forall₂ (h : List.Forall₂ R as bs) (hne : as ≠ []) : bs ≠ [] := by
  rintro rfl
  exact hne (List.forall₂_nil_right_iff.mp h)

theorem forall₂_concat_left :
    List.Forall₂ R (as ++ [a]) bs ↔ ∃ bs' b, bs = bs' ++ [b] ∧ List.Forall₂ R as bs' ∧ R a b := by
  induction as generalizing bs
  case nil =>
    constructor
    case mp =>
      rintro (_ | ⟨hab, _ | _⟩)
      exact ⟨[], _, rfl, .nil, hab⟩
    case mpr =>
      rintro ⟨_, b, rfl, _ | _, hab⟩
      exact .cons hab .nil
  case cons a' as ih =>
    constructor
    case mp =>
      rintro (_ | ⟨hab, h⟩)
      obtain ⟨bs', b, rfl, has, hb⟩ := ih.mp h
      exact ⟨_ :: bs', b, rfl, .cons hab has, hb⟩
    case mpr =>
      rintro ⟨_, b, rfl, _ | ⟨hab, has⟩, hb⟩
      exact .cons hab (ih.mpr ⟨_, b, rfl, has, hb⟩)

-- What stands against a flattened list can be cut into a part for each of the lists.
theorem forall₂_flatMap_right {f : γ → List β} : List.Forall₂ R as (cs.flatMap f) ↔
    ∃ parts, parts.flatten = as ∧ List.Forall₂ (fun c part => List.Forall₂ R part (f c)) cs parts := by
  induction cs generalizing as
  case nil =>
    rw [List.flatMap_nil, List.forall₂_nil_right_iff]
    constructor
    case mp =>
      rintro rfl
      exact ⟨[], rfl, .nil⟩
    case mpr =>
      rintro ⟨_, rfl, _ | _⟩
      rfl
  case cons c cs ih =>
    rw [List.flatMap_cons]
    constructor
    case mp =>
      intro h
      have hc := List.forall₂_take_append as (f c) (cs.flatMap f) h
      have hcs := List.forall₂_drop_append as (f c) (cs.flatMap f) h
      obtain ⟨parts, hparts, hcs⟩ := ih.mp hcs
      exact ⟨_ :: parts, by rw [List.flatten_cons, hparts, List.take_append_drop], .cons hc hcs⟩
    case mpr =>
      rintro ⟨_, rfl, _ | ⟨hc, hcs⟩⟩
      exact List.rel_append hc (ih.mpr ⟨_, rfl, hcs⟩)

end

-- Rows become entries, of which the last found one stands first: a row goes on with that one if it has the row's name,
-- and begins an entry if not. The rows of an entry are those that it gathers.
structure Gathering {ρ σ : Type} (step : List σ → ρ → Result (List σ)) (name : σ → String)
    (continues : σ → ρ → σ → Prop) (gathers : σ → List ρ → Prop) : Prop where
  step_eq_ok : ∀ found row found', step found row = .ok found' ↔
    (∃ last rest s, found = last :: rest ∧ continues last row s ∧ found' = s :: rest) ∨
      ∃ s, gathers s [row] ∧ (∀ last ∈ found.head?, name last ≠ name s) ∧ found' = s :: found
  name_eq : ∀ last row s, continues last row s → name last = name s
  not_gathers_nil : ∀ s, ¬gathers s []
  gathers_concat : ∀ s rows row, rows ≠ [] →
    (gathers s (rows ++ [row]) ↔ ∃ last, gathers last rows ∧ continues last row s)

namespace Gathering

variable {ρ σ : Type} {step : List σ → ρ → Result (List σ)} {name : σ → String} {continues : σ → ρ → σ → Prop}
  {gathers : σ → List ρ → Prop} {rows : List ρ} {row : ρ} {found found' : List σ} {s : σ}

theorem foldlM_concat : (rows ++ [row]).foldlM step found = .ok found' ↔
    ∃ found₀, rows.foldlM step found = .ok found₀ ∧ step found₀ row = .ok found' := by
  rw [List.foldlM_append, Result.bind_eq_ok]
  simp only [List.foldlM_cons, List.foldlM_nil, bind_pure]

variable (h : Gathering step name continues gathers)

include h

theorem ne_nil (hs : gathers s rows) : rows ≠ [] := by
  rintro rfl
  exact h.not_gathers_nil s hs

-- The rows of one entry, after those of an entry with another name.
theorem foldlM_of_gathers (hs : gathers s rows) (hname : ∀ last ∈ found.head?, name last ≠ name s) :
    rows.foldlM step found = .ok (s :: found) := by
  induction rows using List.reverseRecOn generalizing s
  case nil => exact absurd hs (h.not_gathers_nil s)
  case append_singleton rows row ih =>
    rw [foldlM_concat]
    cases rows
    case nil => exact ⟨found, rfl, (h.step_eq_ok found row _).mpr (.inr ⟨s, hs, hname, rfl⟩)⟩
    case cons first rows =>
      obtain ⟨last, hlast, hrow⟩ := (h.gathers_concat s _ row (by simp)).mp hs
      rw [← h.name_eq last row s hrow] at hname
      exact ⟨last :: found, ih hlast hname, (h.step_eq_ok _ row _).mpr (.inl ⟨last, found, s, rfl, hrow, rfl⟩)⟩

theorem foldlM_eq_ok : rows.foldlM step [] = .ok found ↔ found.IsChain (name · ≠ name ·) ∧
    ∃ groups, groups.reverse.flatten = rows ∧ List.Forall₂ gathers found groups := by
  constructor
  case mp =>
    intro hfold
    induction rows using List.reverseRecOn generalizing found
    case nil =>
      cases hfold
      exact ⟨.nil, [], rfl, .nil⟩
    case append_singleton rows row ih =>
      obtain ⟨found₀, hrows, hrow⟩ := foldlM_concat.mp hfold
      obtain ⟨hchain, groups, hgroups, hgathers⟩ := ih hrows
      rcases (h.step_eq_ok found₀ row found).mp hrow with ⟨last, rest, s, rfl, hnext, rfl⟩ | ⟨s, hs, hname, rfl⟩
      case inl =>
        cases hgathers
        case cons group groups hlast hrest =>
          have hs := (h.gathers_concat s group row (h.ne_nil hlast)).mpr ⟨last, hlast, hnext⟩
          rw [List.isChain_cons, h.name_eq last row s hnext] at hchain
          exact ⟨List.isChain_cons.mpr hchain, (group ++ [row]) :: groups, by simp [← hgroups], .cons hs hrest⟩
      case inr =>
        have hchain := List.isChain_cons.mpr ⟨fun last hlast => (hname last hlast).symm, hchain⟩
        exact ⟨hchain, [row] :: groups, by simp [hgroups], .cons hs hgathers⟩
  case mpr =>
    rintro ⟨hchain, groups, rfl, hgathers⟩
    induction hgathers
    case nil => rfl
    case cons s group rest groups hs hrest ih =>
      obtain ⟨hname, hchain⟩ := List.isChain_cons.mp hchain
      rw [List.reverse_cons, List.flatten_append, List.flatten_singleton, List.foldlM_append, Result.bind_eq_ok]
      exact ⟨rest, ih hchain, h.foldlM_of_gathers hs fun last hlast => (hname last hlast).symm⟩

-- The entries in the order of their rows.
theorem reverse_eq_ok : (do return (← rows.foldlM step []).reverse : Result (List σ)) = .ok found ↔
    found.IsChain (name · ≠ name ·) ∧ ∃ groups, groups.flatten = rows ∧ List.Forall₂ gathers found groups := by
  have hreverse : (do return (← rows.foldlM step []).reverse : Result (List σ)) = .ok found ↔
      rows.foldlM step [] = .ok found.reverse := by
    rw [Result.bind_eq_ok]
    constructor
    case mp =>
      rintro ⟨_, hfold, ⟨⟩⟩
      rwa [List.reverse_reverse]
    case mpr => exact fun hfold => ⟨_, hfold, congrArg Except.ok (List.reverse_reverse found)⟩
  rw [hreverse, h.foldlM_eq_ok, List.isChain_reverse]
  refine and_congr ⟨fun hc => hc.imp fun _ _ => Ne.symm, fun hc => hc.imp fun _ _ => Ne.symm⟩ ?_
  constructor
  case mp =>
    rintro ⟨groups, hrows, hgathers⟩
    exact ⟨groups.reverse, hrows, List.forall₂_reverse_iff.mp (by rwa [List.reverse_reverse])⟩
  case mpr =>
    rintro ⟨groups, hrows, hgathers⟩
    exact ⟨groups.reverse, by rwa [List.reverse_reverse], List.forall₂_reverse_iff.mpr hgathers⟩

end Gathering

-- The rows of an index, of which only the first one is asked whether the index is unique.
structure IndexSpec.Gathers (s : IndexSpec) (rows : List Cells) : Prop where
  ne_nil : rows ≠ []
  columns : List.Forall₂ (fun row column => row.Says 0 s.name ∧ row.Says 1 column) rows s.columns
  first : ∀ row ∈ rows.head?, row.Marks 2 s.isUnique

def IndexSpec.Continues (last : IndexSpec) (row : Cells) (s : IndexSpec) : Prop :=
  row.Says 0 last.name ∧ ∃ column, row.Says 1 column ∧ s = { last with columns := last.columns ++ [column] }

-- The rows of a foreign key, of which only the first one is asked for the table that the key refers to.
structure ForeignKeySpec.Gathers (s : ForeignKeySpec) (rows : List Cells) : Prop where
  ne_nil : rows ≠ []
  columns : List.Forall₂ (fun row column => row.Says 0 s.name ∧ row.Says 1 column) rows s.columns
  foreignColumns : List.Forall₂ (fun row column => row.Says 3 column) rows s.foreignColumns
  first : ∀ row ∈ rows.head?, row.Says 2 s.foreignTable

def ForeignKeySpec.Continues (last : ForeignKeySpec) (row : Cells) (s : ForeignKeySpec) : Prop :=
  row.Says 0 last.name ∧ ∃ column foreign, row.Says 1 column ∧ row.Says 3 foreign ∧
    s = { last with columns := last.columns ++ [column], foreignColumns := last.foreignColumns ++ [foreign] }

namespace IndexSpec

variable {rows : List Cells} {row : Cells} {last s : IndexSpec}

theorem gathers_singleton : s.Gathers [row] ↔
    row.Says 0 s.name ∧ row.Marks 2 s.isUnique ∧ ∃ column, row.Says 1 column ∧ s.columns = [column] := by
  constructor
  case mp =>
    rintro ⟨-, hcolumns, hfirst⟩
    obtain ⟨column, _, ⟨hname, hcolumn⟩, hnil, hs⟩ := List.forall₂_cons_left_iff.mp hcolumns
    rw [List.forall₂_nil_left_iff.mp hnil] at hs
    exact ⟨hname, hfirst row rfl, column, hcolumn, hs⟩
  case mpr =>
    rintro ⟨hname, hunique, column, hcolumn, hs⟩
    exact ⟨nofun, hs ▸ .cons ⟨hname, hcolumn⟩ .nil, by rintro _ ⟨⟩; exact hunique⟩

theorem gathers_concat (hne : rows ≠ []) :
    s.Gathers (rows ++ [row]) ↔ ∃ last : IndexSpec, last.Gathers rows ∧ last.Continues row s := by
  have hhead : (rows ++ [row]).head? = rows.head? := List.head?_append_of_ne_nil rows hne
  constructor
  case mp =>
    rintro ⟨-, hcolumns, hfirst⟩
    obtain ⟨columns, column, hs, hrows, hname, hcolumn⟩ := forall₂_concat_left.mp hcolumns
    rw [hhead] at hfirst
    exact ⟨{ s with columns }, ⟨hne, hrows, hfirst⟩, hname, column, hcolumn, by rw [← hs]⟩
  case mpr =>
    rintro ⟨last, ⟨-, hcolumns, hfirst⟩, hname, column, hcolumn, rfl⟩
    exact ⟨by simp, forall₂_concat_left.mpr ⟨_, _, rfl, hcolumns, hname, hcolumn⟩, by rwa [hhead]⟩

theorem gathering_addIndex : Gathering Cells.addIndex IndexSpec.name Continues Gathers where
  step_eq_ok found row found' := by
    simp only [Cells.addIndex, Result.bind_eq_ok, Cells.text_eq_ok]
    constructor
    case mp =>
      rintro ⟨name, hname, column, hcolumn, h⟩
      have hbegin {unique : Bool} (hunique : row.flag 2 "index" = .ok unique) :
          IndexSpec.Gathers ⟨name, [column], unique⟩ [row] :=
        gathers_singleton.mpr ⟨hname, Cells.flag_eq_ok.mp hunique, column, hcolumn, rfl⟩
      split at h
      case h_1 last rest =>
        split at h
        case isTrue hlast =>
          cases h
          exact .inl ⟨last, rest, _, rfl, ⟨hlast ▸ hname, column, hcolumn, rfl⟩, rfl⟩
        case isFalse hlast =>
          obtain ⟨unique, hunique, ⟨⟩⟩ := Result.bind_eq_ok.mp h
          exact .inr ⟨_, hbegin hunique, by rintro _ ⟨⟩; exact hlast, rfl⟩
      case h_2 =>
        obtain ⟨unique, hunique, ⟨⟩⟩ := Result.bind_eq_ok.mp h
        exact .inr ⟨_, hbegin hunique, nofun, rfl⟩
    case mpr =>
      rintro (⟨last, rest, _, rfl, ⟨hname, column, hcolumn, rfl⟩, rfl⟩ | ⟨⟨name, _, unique⟩, hrow, hother, rfl⟩)
      case inl => exact ⟨last.name, hname, column, hcolumn, if_pos rfl⟩
      case inr =>
        obtain ⟨hname, hunique, column, hcolumn, rfl⟩ := gathers_singleton.mp hrow
        refine ⟨name, hname, column, hcolumn, ?_⟩
        split
        case h_1 last rest =>
          rw [if_neg (hother last rfl), Result.bind_eq_ok]
          exact ⟨unique, Cells.flag_eq_ok.mpr hunique, rfl⟩
        case h_2 => exact Result.bind_eq_ok.mpr ⟨unique, Cells.flag_eq_ok.mpr hunique, rfl⟩
  name_eq := by
    rintro last row _ ⟨-, _, -, rfl⟩
    rfl
  not_gathers_nil s hs := hs.ne_nil rfl
  gathers_concat _ _ _ := gathers_concat

end IndexSpec

namespace ForeignKeySpec

variable {rows : List Cells} {row : Cells} {last s : ForeignKeySpec}

theorem gathers_singleton : s.Gathers [row] ↔ row.Says 0 s.name ∧ row.Says 2 s.foreignTable ∧
    ∃ column foreign, row.Says 1 column ∧ row.Says 3 foreign ∧ s.columns = [column] ∧ s.foreignColumns = [foreign] := by
  constructor
  case mp =>
    rintro ⟨-, hcolumns, hforeigns, hfirst⟩
    obtain ⟨column, _, ⟨hname, hcolumn⟩, hnil, hs⟩ := List.forall₂_cons_left_iff.mp hcolumns
    obtain ⟨foreign, _, hforeign, hnil', hs'⟩ := List.forall₂_cons_left_iff.mp hforeigns
    rw [List.forall₂_nil_left_iff.mp hnil] at hs
    rw [List.forall₂_nil_left_iff.mp hnil'] at hs'
    exact ⟨hname, hfirst row rfl, column, foreign, hcolumn, hforeign, hs, hs'⟩
  case mpr =>
    rintro ⟨hname, htable, column, foreign, hcolumn, hforeign, hs, hs'⟩
    exact ⟨nofun, hs ▸ .cons ⟨hname, hcolumn⟩ .nil, hs' ▸ .cons hforeign .nil, by rintro _ ⟨⟩; exact htable⟩

theorem gathers_concat (hne : rows ≠ []) :
    s.Gathers (rows ++ [row]) ↔ ∃ last : ForeignKeySpec, last.Gathers rows ∧ last.Continues row s := by
  have hhead : (rows ++ [row]).head? = rows.head? := List.head?_append_of_ne_nil rows hne
  constructor
  case mp =>
    rintro ⟨-, hcolumns, hforeigns, hfirst⟩
    obtain ⟨columns, column, hs, hrows, hname, hcolumn⟩ := forall₂_concat_left.mp hcolumns
    obtain ⟨foreignColumns, foreign, hs', hrows', hforeign⟩ := forall₂_concat_left.mp hforeigns
    rw [hhead] at hfirst
    exact ⟨{ s with columns, foreignColumns }, ⟨hne, hrows, hrows', hfirst⟩, hname, column, foreign, hcolumn, hforeign,
      by rw [← hs, ← hs']⟩
  case mpr =>
    rintro ⟨last, ⟨-, hcolumns, hforeigns, hfirst⟩, hname, column, foreign, hcolumn, hforeign, rfl⟩
    exact ⟨by simp, forall₂_concat_left.mpr ⟨_, _, rfl, hcolumns, hname, hcolumn⟩,
      forall₂_concat_left.mpr ⟨_, _, rfl, hforeigns, hforeign⟩, by rwa [hhead]⟩

theorem gathering_addForeignKey : Gathering Cells.addForeignKey ForeignKeySpec.name Continues Gathers where
  step_eq_ok found row found' := by
    simp only [Cells.addForeignKey, Result.bind_eq_ok, Cells.text_eq_ok]
    constructor
    case mp =>
      rintro ⟨name, hname, column, hcolumn, foreign, hforeign, h⟩
      have hbegin {table : String} (htable : row.text 2 "foreign key" = .ok table) :
          ForeignKeySpec.Gathers ⟨name, [column], table, [foreign]⟩ [row] :=
        gathers_singleton.mpr ⟨hname, Cells.text_eq_ok.mp htable, column, foreign, hcolumn, hforeign, rfl, rfl⟩
      split at h
      case h_1 last rest =>
        split at h
        case isTrue hlast =>
          cases h
          exact .inl ⟨last, rest, _, rfl, ⟨hlast ▸ hname, column, foreign, hcolumn, hforeign, rfl⟩, rfl⟩
        case isFalse hlast =>
          obtain ⟨table, htable, ⟨⟩⟩ := Result.bind_eq_ok.mp h
          exact .inr ⟨_, hbegin htable, by rintro _ ⟨⟩; exact hlast, rfl⟩
      case h_2 =>
        obtain ⟨table, htable, ⟨⟩⟩ := Result.bind_eq_ok.mp h
        exact .inr ⟨_, hbegin htable, nofun, rfl⟩
    case mpr =>
      rintro (⟨last, rest, _, rfl, ⟨hname, column, foreign, hcolumn, hforeign, rfl⟩, rfl⟩ |
        ⟨⟨name, _, table, _⟩, hrow, hother, rfl⟩)
      case inl => exact ⟨last.name, hname, column, hcolumn, foreign, hforeign, if_pos rfl⟩
      case inr =>
        obtain ⟨hname, htable, column, foreign, hcolumn, hforeign, rfl, rfl⟩ := gathers_singleton.mp hrow
        refine ⟨name, hname, column, hcolumn, foreign, hforeign, ?_⟩
        split
        case h_1 last rest =>
          rw [if_neg (hother last rfl), Result.bind_eq_ok]
          exact ⟨table, Cells.text_eq_ok.mpr htable, rfl⟩
        case h_2 => exact Result.bind_eq_ok.mpr ⟨table, Cells.text_eq_ok.mpr htable, rfl⟩
  name_eq := by
    rintro last row _ ⟨-, _, _, -, -, rfl⟩
    rfl
  not_gathers_nil s hs := hs.ne_nil rfl
  gathers_concat _ _ _ := gathers_concat

end ForeignKeySpec

-- A row for each column of an index.

structure IndexEntry where
  name : String
  column : String
  unique : Bool

def IndexSpec.entries (s : IndexSpec) : List IndexEntry :=
  s.columns.map fun column => ⟨s.name, column, s.isUnique⟩

-- A row for each pair of columns of a foreign key.

structure ForeignKeyEntry where
  name : String
  column : String
  foreignTable : String
  foreignColumn : String

def ForeignKeySpec.entries (s : ForeignKeySpec) : List ForeignKeyEntry :=
  (s.columns.zip s.foreignColumns).map fun pair => ⟨s.name, pair.1, s.foreignTable, pair.2⟩

namespace Cells

structure ShowsIndex (row : Cells) (e : IndexEntry) : Prop where
  name : row.Says 0 e.name
  column : row.Says 1 e.column
  unique : row.Marks 2 e.unique

structure ShowsForeignKey (row : Cells) (e : ForeignKeyEntry) : Prop where
  name : row.Says 0 e.name
  column : row.Says 1 e.column
  foreignTable : row.Says 2 e.foreignTable
  foreignColumn : row.Says 3 e.foreignColumn

end Cells

namespace IndexSpec.Gathers

variable {s : IndexSpec} {rows : List Cells}

theorem of_entries (hne : s.columns ≠ []) (h : List.Forall₂ Cells.ShowsIndex rows s.entries) : s.Gathers rows := by
  rw [entries, List.forall₂_map_right_iff] at h
  have hrows : rows ≠ [] := by
    rintro rfl
    exact hne (List.forall₂_nil_left_iff.mp h)
  refine ⟨hrows, h.imp fun _ _ hrow => ⟨hrow.name, hrow.column⟩, fun row hrow => ?_⟩
  obtain ⟨column, -, hshows⟩ := exists_of_mem_forall₂ h (List.mem_of_head? hrow)
  exact hshows.unique

end IndexSpec.Gathers

namespace ForeignKeySpec.Gathers

variable {s : ForeignKeySpec} {rows : List Cells}

theorem of_entries (hne : s.columns ≠ []) (hlength : s.columns.length = s.foreignColumns.length)
    (h : List.Forall₂ Cells.ShowsForeignKey rows s.entries) : s.Gathers rows := by
  have hcolumns : (s.columns.zip s.foreignColumns).map Prod.fst = s.columns := List.map_fst_zip hlength.le
  have hforeign : (s.columns.zip s.foreignColumns).map Prod.snd = s.foreignColumns := List.map_snd_zip hlength.ge
  rw [entries, List.forall₂_map_right_iff] at h
  have hrows : rows ≠ [] := by
    rintro rfl
    rw [List.forall₂_nil_left_iff] at h
    exact hne (by rw [← hcolumns, h, List.map_nil])
  refine ⟨hrows, ?_, ?_, fun row hrow => ?_⟩
  case refine_1 =>
    rw [← hcolumns, List.forall₂_map_right_iff]
    exact h.imp fun _ _ hrow => ⟨hrow.name, hrow.column⟩
  case refine_2 =>
    rw [← hforeign, List.forall₂_map_right_iff]
    exact h.imp fun _ _ hrow => hrow.foreignColumn
  case refine_3 =>
    obtain ⟨pair, -, hshows⟩ := exists_of_mem_forall₂ h (List.mem_of_head? hrow)
    exact hshows.foreignTable

end ForeignKeySpec.Gathers

namespace Cells

variable {rows : List Cells}

-- The rows are cut where the name changes.

theorem indices_eq_ok {specs : List IndexSpec} : indices rows = .ok specs ↔ specs.IsChain (·.name ≠ ·.name) ∧
    ∃ groups, groups.flatten = rows ∧ List.Forall₂ IndexSpec.Gathers specs groups :=
  IndexSpec.gathering_addIndex.reverse_eq_ok

theorem foreignKeys_eq_ok {specs : List ForeignKeySpec} : foreignKeys rows = .ok specs ↔
    specs.IsChain (·.name ≠ ·.name) ∧
    ∃ groups, groups.flatten = rows ∧ List.Forall₂ ForeignKeySpec.Gathers specs groups :=
  ForeignKeySpec.gathering_addForeignKey.reverse_eq_ok

theorem indices_of_entries {specs : List IndexSpec} (hne : ∀ s ∈ specs, s.columns ≠ [])
    (hchain : specs.IsChain (·.name ≠ ·.name)) (h : List.Forall₂ ShowsIndex rows (specs.flatMap (·.entries))) :
    indices rows = .ok specs := by
  obtain ⟨groups, hrows, hgroups⟩ := forall₂_flatMap_right.mp h
  refine indices_eq_ok.mpr ⟨hchain, groups, hrows, ?_⟩
  exact ((List.forall₂_and_left ..).mpr ⟨hne, hgroups⟩).imp fun _ _ hs => .of_entries hs.1 hs.2

theorem foreignKeys_of_entries {specs : List ForeignKeySpec}
    (hpaired : ∀ s ∈ specs, s.columns ≠ [] ∧ s.columns.length = s.foreignColumns.length)
    (hchain : specs.IsChain (·.name ≠ ·.name)) (h : List.Forall₂ ShowsForeignKey rows (specs.flatMap (·.entries))) :
    foreignKeys rows = .ok specs := by
  obtain ⟨groups, hrows, hgroups⟩ := forall₂_flatMap_right.mp h
  refine foreignKeys_eq_ok.mpr ⟨hchain, groups, hrows, ?_⟩
  exact ((List.forall₂_and_left ..).mpr ⟨hpaired, hgroups⟩).imp fun _ _ hs => .of_entries hs.1.1 hs.1.2 hs.2

-- What the rows tell, each of them, if they can be read.

theorem of_indices {specs : List IndexSpec} (h : indices rows = .ok specs) :
    List.Forall₂ (fun row name => row.Says 0 name) rows (specs.flatMap fun s => s.columns.map fun _ => s.name) ∧
    List.Forall₂ (fun row column => row.Says 1 column) rows (specs.flatMap (·.columns)) ∧
    specs.IsChain (·.name ≠ ·.name) ∧ ∀ s ∈ specs, s.columns ≠ [] := by
  obtain ⟨hchain, groups, hrows, hgroups⟩ := indices_eq_ok.mp h
  refine ⟨?_, ?_, hchain, fun s hs => ?_⟩
  case refine_1 =>
    refine forall₂_flatMap_right.mpr ⟨groups, hrows, hgroups.imp fun s group hs => ?_⟩
    exact List.forall₂_map_right_iff.mpr (hs.columns.imp fun _ _ hrow => hrow.1)
  case refine_2 =>
    refine forall₂_flatMap_right.mpr ⟨groups, hrows, hgroups.imp fun s group hs => ?_⟩
    exact hs.columns.imp fun _ _ hrow => hrow.2
  case refine_3 =>
    obtain ⟨group, -, hgroup⟩ := exists_of_mem_forall₂ hgroups hs
    exact ne_nil_of_forall₂ hgroup.columns hgroup.ne_nil

theorem of_foreignKeys {specs : List ForeignKeySpec} (h : foreignKeys rows = .ok specs) :
    List.Forall₂ (fun row name => row.Says 0 name) rows (specs.flatMap fun s => s.columns.map fun _ => s.name) ∧
    List.Forall₂ (fun row column => row.Says 1 column) rows (specs.flatMap (·.columns)) ∧
    List.Forall₂ (fun row column => row.Says 3 column) rows (specs.flatMap (·.foreignColumns)) ∧
    specs.IsChain (·.name ≠ ·.name) ∧ ∀ s ∈ specs, s.columns ≠ [] ∧ s.columns.length = s.foreignColumns.length := by
  obtain ⟨hchain, groups, hrows, hgroups⟩ := foreignKeys_eq_ok.mp h
  refine ⟨?_, ?_, ?_, hchain, fun s hs => ?_⟩
  case refine_1 =>
    refine forall₂_flatMap_right.mpr ⟨groups, hrows, hgroups.imp fun s group hs => ?_⟩
    exact List.forall₂_map_right_iff.mpr (hs.columns.imp fun _ _ hrow => hrow.1)
  case refine_2 =>
    refine forall₂_flatMap_right.mpr ⟨groups, hrows, hgroups.imp fun s group hs => ?_⟩
    exact hs.columns.imp fun _ _ hrow => hrow.2
  case refine_3 =>
    refine forall₂_flatMap_right.mpr ⟨groups, hrows, hgroups.imp fun s group hs => ?_⟩
    exact hs.foreignColumns
  case refine_4 =>
    obtain ⟨group, -, hgroup⟩ := exists_of_mem_forall₂ hgroups hs
    exact ⟨ne_nil_of_forall₂ hgroup.columns hgroup.ne_nil, hgroup.columns.length_eq.symm.trans hgroup.foreignColumns.length_eq⟩

-- A row that lacks a name or a column is an error, even where it would go on with an entry.

theorem not_lacks {row : Cells} {i : Nat} {names : List String}
    (h : List.Forall₂ (fun row name => row.Says i name) rows names) (hrow : row ∈ rows) : ¬row.Lacks i := by
  intro hlacks
  obtain ⟨name, -, hname⟩ := exists_of_mem_forall₂ h hrow
  exact hlacks.unsaid name hname

theorem exists_error_indices {row : Cells} (hrow : row ∈ rows) (h : row.Lacks 0 ∨ row.Lacks 1) :
    ∃ e, indices rows = .error e := by
  cases hspecs : indices rows
  case error e => exact ⟨e, rfl⟩
  case ok specs =>
    obtain ⟨hnames, hcolumns, -⟩ := of_indices hspecs
    rcases h with h | h
    · exact absurd h (not_lacks hnames hrow)
    · exact absurd h (not_lacks hcolumns hrow)

theorem exists_error_foreignKeys {row : Cells} (hrow : row ∈ rows) (h : row.Lacks 0 ∨ row.Lacks 1 ∨ row.Lacks 3) :
    ∃ e, foreignKeys rows = .error e := by
  cases hspecs : foreignKeys rows
  case error e => exact ⟨e, rfl⟩
  case ok specs =>
    obtain ⟨hnames, hcolumns, hforeign, -⟩ := of_foreignKeys hspecs
    rcases h with h | h | h
    · exact absurd h (not_lacks hnames hrow)
    · exact absurd h (not_lacks hcolumns hrow)
    · exact absurd h (not_lacks hforeign hrow)

-- Reading the rows undoes writing one for each column, and every row that is read counts.
theorem grouping_undoes_flattening :
    (∀ (specs : List IndexSpec) (rows : List Cells),
      (∀ s ∈ specs, s.columns ≠ []) → specs.IsChain (·.name ≠ ·.name) →
      List.Forall₂ ShowsIndex rows (specs.flatMap (·.entries)) → indices rows = .ok specs) ∧
    (∀ (specs : List ForeignKeySpec) (rows : List Cells),
      (∀ s ∈ specs, s.columns ≠ [] ∧ s.columns.length = s.foreignColumns.length) → specs.IsChain (·.name ≠ ·.name) →
      List.Forall₂ ShowsForeignKey rows (specs.flatMap (·.entries)) → foreignKeys rows = .ok specs) ∧
    (∀ rows specs, indices rows = .ok specs →
      List.Forall₂ (fun row name => row.Says 0 name) rows (specs.flatMap fun s => s.columns.map fun _ => s.name) ∧
      List.Forall₂ (fun row column => row.Says 1 column) rows (specs.flatMap (·.columns)) ∧
      specs.IsChain (·.name ≠ ·.name) ∧ ∀ s ∈ specs, s.columns ≠ []) ∧
    (∀ rows specs, foreignKeys rows = .ok specs →
      List.Forall₂ (fun row name => row.Says 0 name) rows (specs.flatMap fun s => s.columns.map fun _ => s.name) ∧
      List.Forall₂ (fun row column => row.Says 1 column) rows (specs.flatMap (·.columns)) ∧
      List.Forall₂ (fun row column => row.Says 3 column) rows (specs.flatMap (·.foreignColumns)) ∧
      specs.IsChain (·.name ≠ ·.name) ∧ ∀ s ∈ specs, s.columns ≠ [] ∧ s.columns.length = s.foreignColumns.length) ∧
    (∀ rows, (∃ row ∈ rows, row.Lacks 0 ∨ row.Lacks 1) → ∃ e, indices rows = .error e) ∧
    ∀ rows, (∃ row ∈ rows, row.Lacks 0 ∨ row.Lacks 1 ∨ row.Lacks 3) → ∃ e, foreignKeys rows = .error e := by
  refine ⟨fun _ _ => indices_of_entries, fun _ _ => foreignKeys_of_entries, fun _ _ => of_indices,
    fun _ _ => of_foreignKeys, ?_, ?_⟩
  case refine_1 =>
    rintro rows ⟨row, hrow, h⟩
    exact exists_error_indices hrow h
  case refine_2 =>
    rintro rows ⟨row, hrow, h⟩
    exact exists_error_foreignKeys hrow h

-- Flags in three encodings, keys that have a number for a name, and a row without a column.
theorem grouping_undoes_flattening_of_mixed_cells :
    let indexSpecs : List IndexSpec := [⟨"by_seat", ["seat", "id"], true⟩, ⟨"by_row", ["row"], false⟩]
    let indexRows : List Cells := [[.text "by_seat", .text "seat", .text " +1 "],
      [.text "by_seat", .text "id", .decimal ⟨false, 150, 2, by decide, by decide⟩],
      [.text "by_row", .text "row", .bool false]]
    let keySpecs : List ForeignKeySpec := [⟨"0", ["show", "hall"], "plans", ["id", "hall"]⟩]
    let keyRows : List Cells := [[.int 0, .text "show", .text "plans", .text "id"],
      [.int 0, .text "hall", .text "plans", .text "hall"]]
    let shortRow : Cells := [.text "by_row"]
    indices indexRows = .ok indexSpecs ∧ foreignKeys keyRows = .ok keySpecs ∧
      List.Forall₂ (fun row column => row.Says 1 column) indexRows ["seat", "id", "row"] ∧
      List.Forall₂ (fun row column => row.Says 3 column) keyRows ["id", "hall"] ∧
      (∃ e, indices (indexRows ++ [shortRow]) = .error e) ∧ ∃ e, foreignKeys (keyRows ++ [shortRow]) = .error e := by
  intro indexSpecs indexRows keySpecs keyRows shortRow
  obtain ⟨hindices, hkeys, hofIndices, hofKeys, hindexError, hkeyError⟩ := grouping_undoes_flattening
  have hname (s : String) : (Value.text s).Names s := .text s
  have hflag {v : Value} {b : Bool} (h : flag? v = some b) : v.Flags b := flag?_eq_some.mp h
  have hindexRows : List.Forall₂ ShowsIndex indexRows (indexSpecs.flatMap (·.entries)) :=
    .cons ⟨⟨_, rfl, hname _⟩, ⟨_, rfl, hname _⟩, ⟨_, rfl, hflag (by decide +kernel)⟩⟩
      (.cons ⟨⟨_, rfl, hname _⟩, ⟨_, rfl, hname _⟩, ⟨_, rfl, hflag (by decide +kernel)⟩⟩
        (.cons ⟨⟨_, rfl, hname _⟩, ⟨_, rfl, hname _⟩, ⟨_, rfl, .bool false⟩⟩ .nil))
  have hkeyRows : List.Forall₂ ShowsForeignKey keyRows (keySpecs.flatMap (·.entries)) :=
    .cons ⟨⟨_, rfl, .number 0⟩, ⟨_, rfl, hname _⟩, ⟨_, rfl, hname _⟩, ⟨_, rfl, hname _⟩⟩
      (.cons ⟨⟨_, rfl, .number 0⟩, ⟨_, rfl, hname _⟩, ⟨_, rfl, hname _⟩, ⟨_, rfl, hname _⟩⟩ .nil)
  have hindexSpecs := hindices indexSpecs indexRows (by simp [indexSpecs]) (by simp [indexSpecs]) hindexRows
  have hkeySpecs := hkeys keySpecs keyRows (by simp [keySpecs]) (by simp [keySpecs]) hkeyRows
  have hshort : shortRow.Lacks 1 := by simp [Lacks, shortRow]
  exact ⟨hindexSpecs, hkeySpecs, (hofIndices _ _ hindexSpecs).2.1, (hofKeys _ _ hkeySpecs).2.2.1,
    hindexError _ ⟨shortRow, by simp, .inr hshort⟩, hkeyError _ ⟨shortRow, by simp, .inr (.inl hshort)⟩⟩

end Cells

end PolySql
