import PolySql.Execution.Rows
import PolySql.Proofs.Column.Finite
import PolySql.Proofs.Sql.Outcome
import PolySql.Proofs.Text.Casing
import PolySql.Query.Typing

namespace PolySql

open Text

-- What the server's function makes of a stored value, where that is the value itself or a text.
inductive FunctionKind.Gives (m : CaseMap) : FunctionKind → Value → Value → Prop
  | picked (h : kind = .min ∨ kind = .max ∨ kind = .coalesce) (v : Value) : Gives m kind v v
  | lower (s : String) : Gives m .lower (.text s) (.text (.ofList (m.lower s.toList)))
  | upper (s : String) : Gives m .upper (.text s) (.text (.ofList (m.upper s.toList)))
  | substring {part s : String} (h : part.toList <:+: s.toList) : Gives m .substring (.text s) (.text part)
  | untouched (hkind : kind.keepsType = true) (hv : ∀ s, v ≠ .text s) : Gives m kind v v

namespace ColumnType

-- Does the library write the values of the type as texts of its own?
def IsPrinted (d : Dialect) : ColumnType → Prop
  | decimal .. => d.decimalForm = .text
  | date | time | timestamp _ => d.temporalForm = .text
  | _ => False

-- Only the names of its variants are values of an enumeration.
def Admits : ColumnType → String → Prop
  | enum _ variants .name, s => s ∈ variants.names
  | _, _ => True

def ReadsText (t : ColumnType) (s : String) : Prop :=
  ∃ w, t.decode? (.text s) = some w

-- The texts that a column stores for its values. Of those that the library writes one kind has letters.
inductive Writes : ColumnType → Dialect → Value → String → Prop
  | string (s : String) : Writes (.string n) d (.text s) s
  | variant (h : s ∈ variants.names) : Writes (.enum name variants .name) d (.text s) s
  | caseless {t : ColumnType} {s : List Char} (hprinted : t.IsPrinted d) (hv : ¬Loses d v) (h : ∀ c ∈ s, IsCaseless c)
    (hread : t.ReadsText (.ofList s)) : Writes t d v (.ofList s)
  | zoned (h : d.temporalForm = .text) (y : Timestamp) :
    Writes (.timestamp true) d (.timestampTz y) (.ofList y.zonedText)

variable {t : ColumnType} {d : Dialect} {v x : Value}

theorem exists_decode_iff : (∃ w, t.decode x = .ok w) ↔ ∃ w, t.decode? x = some w := by
  rw [decode]
  split <;> simp [*]

-- Whatever a column stores it also stores for a value of its own kind.
theorem exists_of_kind (h : t.encode? d v = some x) :
    ∃ w, (∀ k ∈ w.kind?, k = t.kind) ∧ t.encode? d w = some x ∧ (Loses d w ↔ Loses d v) := by
  by_cases hv : ∀ k ∈ v.kind?, k = t.kind
  case pos => exact ⟨v, hv, h, Iff.rfl⟩
  case neg =>
    revert h
    fun_cases encode?
    case case6 i =>
      rintro ⟨⟩
      exact ⟨.float (Binary64.ofInt i.toInt), by rintro _ ⟨⟩; rfl, if_pos (Binary64.isFinite_ofInt i), Iff.rfl⟩
    case case10 =>
      rw [Option.map_eq_some_iff]
      rintro ⟨u, -, rfl⟩
      exact ⟨.uuid u, by rintro _ ⟨⟩; rfl, rfl, Iff.rfl⟩
    case case19 i =>
      rintro ⟨⟩
      exact ⟨.decimal (.ofInt64 i), by rintro _ ⟨⟩; rfl, rfl, Iff.rfl⟩
    case case21 => rintro ⟨⟩
    all_goals exact absurd (by rintro _ ⟨⟩ <;> rfl) hv

theorem isTemporal_of_loses (hv : ∀ k ∈ v.kind?, k = t.kind) (h : Loses d v) : t.isTemporal = true := by
  cases v
  case timestampTz =>
    cases t
    case timestamp => rfl
    all_goals cases hv _ rfl
  all_goals cases h

theorem decode?_of_encode? (h : t.encode? d v = some x) : (∃ w, t.decode? x = some w) ↔ ¬Loses d v := by
  obtain ⟨w, hw, he, hloses⟩ := exists_of_kind h
  rw [← hloses]
  by_cases ht : t.isTemporal = true
  case neg =>
    have hkeeps : t.Keeps d w := keeps_of_kind (Bool.eq_false_iff.mpr ht) hw
    have hrefuses : ¬t.Refuses w := fun hr => nomatch (hkeeps.refused hr).symm.trans he
    obtain ⟨y, back, hy, hback, -⟩ := hkeeps.stored hrefuses
    obtain rfl := Option.some.inj (hy.symm.trans he)
    exact iff_of_true ⟨back, hback⟩ (ht ∘ isTemporal_of_loses hw)
  case pos =>
    by_cases hl : Loses d w
    case pos =>
      obtain ⟨y, hy, hlost⟩ := exists_lost ht hw hl
      obtain rfl := Option.some.inj (hy.symm.trans he)
      exact iff_of_false (by simp [hlost]) (not_not.mpr hl)
    case neg =>
      obtain ⟨y, hy, hback⟩ := exists_stored ht hw hl
      obtain rfl := Option.some.inj (hy.symm.trans he)
      exact iff_of_true ⟨w, hback⟩ hl

theorem readsText_variant : (enum name variants storage).ReadsText s ↔ s ∈ variants.names := by
  by_cases h : s ∈ variants.names <;> simp [ReadsText, decode?, decodeEnum?, h]

theorem readsText_decimal (y : Decimal) : (decimal p scale).ReadsText (.ofList y.text) :=
  ⟨.decimal y.unsignedZero, by simp [decode?, decodeDecimal?, DecimalText.read?_text]⟩

theorem readsText_date (y : Date) : date.ReadsText (.ofList y.text) :=
  ⟨.date y, by simp [decode?, decodeDate?, Date.read?_text]⟩

theorem readsText_time (y : Time) : time.ReadsText (.ofList y.text) :=
  ⟨.time y, by simp [decode?, decodeTime?, Time.read?_text]⟩

theorem readsText_timestamp (y : Timestamp) : (timestamp false).ReadsText (.ofList (y.text ' ')) :=
  ⟨.timestamp y, by simp [decode?, decodeTimestamp?, Timestamp.read?_text]⟩

theorem readsText_zoned (h : d.temporalForm = .text) {separator zone : Char} (hs : separator = 'T' ∨ separator = 't')
    (hz : zone = 'Z' ∨ zone = 'z') (y : Timestamp) :
    (timestamp true).ReadsText (.ofList (y.text separator ++ [zone])) ↔ ¬Loses d (.timestampTz y) := by
  simp only [ReadsText, decode?, decodeTimestampTz?, String.toList_ofList, Loses, h, true_and]
  by_cases hyear : y.date.year < 0 ∨ 9999 < y.date.year
  case pos => simp [Timestamp.readZoned?_zoned_eq_none hs hz hyear, hyear]
  case neg => simp [Timestamp.readZoned?_zoned hs hz (by omega : 0 ≤ y.date.year ∧ y.date.year ≤ 9999), hyear]

theorem not_readsText_empty (h : t.IsPrinted d) : ¬t.ReadsText "" := by
  rintro ⟨w, hw⟩
  cases t
  case timestamp zoned => cases zoned <;> nomatch hw
  case decimal | date | time => nomatch hw
  all_goals exact h

namespace Writes

theorem of_storedTemporal {native : Value} {text : List Char}
    (hwrites : d.temporalForm = .text → t.Writes d v (.ofList text)) (hnative : ∀ s, native ≠ .text s)
    (h : some (d.storedTemporal native text) = some (.text s)) : t.Writes d v s := by
  rw [Dialect.storedTemporal] at h
  split at h
  case h_1 => exact absurd (Option.some.inj h) (hnative s)
  case h_2 hform =>
    cases h
    exact hwrites hform

theorem of_storedDecimal {y : Decimal} (h : some (d.storedDecimal y) = some (.text s)) (hv : ¬Loses d v) :
    (decimal p scale).Writes d v s := by
  rw [Dialect.storedDecimal] at h
  split at h
  case h_1 => cases h
  case h_2 hform =>
    cases h
    exact .caseless hform hv y.isCaseless_of_mem_text (readsText_decimal y)

end Writes

theorem storedUuid_ne_text (hd : d ∈ Dialect.builtins) (u : Uuid) (s : String) : d.storedUuid u ≠ .text s := by
  have hform : ∀ d ∈ Dialect.builtins, d.uuidForm ≠ .text := by decide
  rw [Dialect.storedUuid]
  split
  case h_3 h => exact absurd h (hform d hd)
  all_goals rintro ⟨⟩

theorem writes_of_encode? (hd : d ∈ Dialect.builtins) (h : t.encode? d v = some (.text s)) : t.Writes d v s := by
  revert h
  fun_cases encode?
  case case7 =>
    rw [Dialect.storedBool]
    split <;> rintro ⟨⟩
  case case9 u => exact fun h => absurd (Option.some.inj h) (storedUuid_ne_text hd u s)
  case case10 =>
    rw [Option.map_eq_some_iff]
    rintro ⟨u, -, h⟩
    exact absurd h (storedUuid_ne_text hd u s)
  case case11 y =>
    exact .of_storedTemporal (.caseless · (by simp [Loses]) y.isCaseless_of_mem_text (readsText_date y)) (by simp)
  case case12 y =>
    exact .of_storedTemporal (.caseless · (by simp [Loses]) y.isCaseless_of_mem_text (readsText_time y)) (by simp)
  case case13 y =>
    exact .of_storedTemporal (.caseless · (by simp [Loses]) y.isCaseless_of_mem_text (readsText_timestamp y)) (by simp)
  case case14 y => exact .of_storedTemporal (.zoned · y) (by simp)
  case case15 | case16 =>
    rintro ⟨⟩
    exact .string s
  case case18 | case19 => exact fun h => .of_storedDecimal h (by simp [Loses])
  case case20 storage _ =>
    rw [Option.map_eq_some_iff]
    rintro ⟨i, hi, h⟩
    cases storage
    case name =>
      cases h
      exact .variant (List.isSome_idxOf?.mp (Option.isSome_of_eq_some hi))
    case ordinal => cases h
  all_goals rintro ⟨⟩

-- A case that is changed is of no consequence to what the library has written.
theorem Writes.readsText_iff (h : t.Writes d v s) {m : CaseMap} {f : List Char → List Char}
    (hf : f = m.lower ∨ f = m.upper) :
    t.ReadsText (.ofList (f s.toList)) ↔ ¬Loses d v ∧ t.Admits (.ofList (f s.toList)) := by
  cases h
  case string => exact iff_of_true ⟨_, rfl⟩ ⟨nofun, trivial⟩
  case variant => simp [readsText_variant, Loses, Admits]
  case caseless s hs hread hprinted hv =>
    have hself : f s = s := by
      rcases hf with rfl | rfl
      · exact m.lower_eq_self hs
      · exact m.upper_eq_self hs
    have hadmits : t.Admits (.ofList s) := by
      cases t
      case enum => cases hprinted
      all_goals trivial
    rw [String.toList_ofList, hself]
    exact iff_of_true hread ⟨hv, hadmits⟩
  case zoned y hform =>
    have hadmits : (timestamp true).Admits (.ofList (f y.zonedText)) := trivial
    rw [String.toList_ofList, and_iff_left hadmits]
    rcases hf with rfl | rfl
    · rw [y.lower_zonedText m]
      exact readsText_zoned hform (.inr rfl) (.inr rfl) y
    · rw [y.upper_zonedText m]
      exact readsText_zoned hform (.inl rfl) (.inl rfl) y

theorem Writes.readsText_of_admits (h : t.Writes d v s) (hp : ¬t.IsPrinted d) {part : String} (hpart : t.Admits part) :
    t.ReadsText part := by
  cases h
  case string => exact ⟨_, rfl⟩
  case variant => exact readsText_variant.mpr hpart
  case caseless hprinted _ => exact absurd hprinted hp
  case zoned hform => exact absurd hform hp

-- An enumeration that is stored as text stores the names themselves.
theorem Writes.eq_text (h : t.Writes d v s) {part : String} (hpart : ¬t.Admits part) : v = .text s := by
  cases h
  case string | variant => rfl
  case caseless hprinted _ =>
    cases t
    case enum => cases hprinted
    all_goals exact absurd trivial hpart
  case zoned => exact absurd trivial hpart

theorem exists_text_of_isPrinted (hp : t.IsPrinted d) (hv : v ≠ .null) (h : t.encode? d v = some x) :
    ∃ s, x = .text s := by
  have htemporal {native : Value} {text : List Char} (hform : d.temporalForm = .text) :
      d.storedTemporal native text = .text (.ofList text) := by rw [Dialect.storedTemporal, hform]
  have hdecimal {y : Decimal} (hform : d.decimalForm = .text) : d.storedDecimal y = .text (.ofList y.text) := by
    rw [Dialect.storedDecimal, hform]
  revert h
  fun_cases encode?
  case case1 => exact absurd rfl hv
  case case11 | case12 | case13 | case14 =>
    rintro ⟨⟩
    exact ⟨_, htemporal hp⟩
  case case18 | case19 =>
    rintro ⟨⟩
    exact ⟨_, hdecimal hp⟩
  case case21 => rintro ⟨⟩
  all_goals cases hp

end ColumnType

open ColumnType

namespace FunctionKind

-- Is nothing that the function gives for a value beyond what the type can read?
structure Safe (m : CaseMap) (d : Dialect) (kind : FunctionKind) (t : ColumnType) (v : Value) : Prop where
  kept : ¬Loses d v
  whole : kind = .substring → v ≠ .null → ¬t.IsPrinted d
  admitted : ∀ s r, v = .text s → kind.Gives m (.text s) (.text r) → t.Admits r

variable {m : CaseMap} {kind : FunctionKind} {d : Dialect} {t : ColumnType} {v x : Value}

theorem decodes_of_safe (hd : d ∈ Dialect.builtins) (h : t.encode? d v = some x) (hsafe : kind.Safe m d t v)
    (hy : kind.Gives m x y) : ∃ w, t.decode? y = some w := by
  have hself : ∃ w, t.decode? x = some w := (decode?_of_encode? h).mpr hsafe.kept
  have hadmits {s r : String} (hx : x = .text s) (hr : kind.Gives m (.text s) (.text r)) : t.Admits r := by
    by_contra hn
    have hwrites : t.Writes d v s := writes_of_encode? hd (hx ▸ h)
    exact hn (hsafe.admitted s r (hwrites.eq_text hn) hr)
  cases hy
  case picked | untouched => exact hself
  case lower s => exact ((writes_of_encode? hd h).readsText_iff (.inl rfl)).mpr ⟨hsafe.kept, hadmits rfl (.lower s)⟩
  case upper s => exact ((writes_of_encode? hd h).readsText_iff (.inr rfl)).mpr ⟨hsafe.kept, hadmits rfl (.upper s)⟩
  case substring part s hpart =>
    have hv : v ≠ .null := by
      rintro rfl
      cases t <;> nomatch h
    exact (writes_of_encode? hd h).readsText_of_admits (hsafe.whole rfl hv) (hadmits rfl (.substring hpart))

theorem safe_of_decodes (hd : d ∈ Dialect.builtins) (hkind : kind.keepsType = true) (h : t.encode? d v = some x)
    (hall : ∀ y, kind.Gives m x y → ∃ w, t.decode? y = some w) : kind.Safe m d t v where
  kept := by
    have hself (hx : kind.Gives m x x) : ¬Loses d v := (decode?_of_encode? h).mp (hall x hx)
    by_cases htext : ∃ s, x = .text s
    case neg => exact hself (.untouched hkind fun s hs => htext ⟨s, hs⟩)
    case pos =>
      obtain ⟨s, rfl⟩ := htext
      have hwrites : t.Writes d v s := writes_of_encode? hd h
      cases kind
      case min | max | coalesce => exact hself (.picked (by simp) _)
      case substring => exact hself (.substring List.infix_rfl)
      case lower => exact ((hwrites.readsText_iff (.inl rfl)).mp (hall _ (.lower s))).1
      case upper => exact ((hwrites.readsText_iff (.inr rfl)).mp (hall _ (.upper s))).1
      all_goals nomatch hkind
  whole := by
    rintro rfl hv hprinted
    obtain ⟨s, rfl⟩ := exists_text_of_isPrinted hprinted hv h
    exact not_readsText_empty hprinted (hall (.text "") (.substring List.nil_infix))
  admitted := by
    rintro s r rfl hr
    cases t
    case enum name variants storage =>
      cases storage
      case ordinal => trivial
      case name =>
        obtain ⟨i, -, rfl⟩ := Option.map_eq_some_iff.mp h
        exact readsText_variant.mp (hall _ hr)
    all_goals trivial

end FunctionKind

end PolySql
