import PolySql.Proofs.Query.Unqualified
import PolySql.Proofs.Statement.Places

namespace PolySql

open Fragment

namespace Statement.Place

-- At a place a query is written as on its own, but in a list of returned columns without the tables of its columns.
theorem exists_render_context {cx : Context} (hq : cx.qualified = true) (p : Statement.Place) {s : Select}
    {f : Fragment} (hf : s.render cx = .ok f) : ∃ g, s.render (p.context cx) = .ok g ∧ g.params = f.params ∧
      ∀ n, g.text cx.dialect n = f.text cx.dialect n ↔ p.isReturned = false ∨ s.mentions = 0 := by
  cases hp : p.isReturned
  case false =>
    refine ⟨f, ?_, rfl, fun n => iff_of_true rfl (.inl rfl)⟩
    rwa [context, hp]
  case true =>
    have hs := s.sheds_render hq
    rw [hf] at hs
    cases hr : s.render cx.unqualified <;> rw [hr] at hs <;> cases hs
    case ok g hg =>
      refine ⟨g, ?_, hg.params_eq, fun n => ?_⟩
      · rwa [context, hp]
      · simpa using hg.text_eq_iff cx.dialect n

variable (c : Catalog) (d : Dialect) (version : Option Version) (type : Option ColumnType) (p : Statement.Place)

-- Before and after a query there is the same for every query of one type. In between there is the text of the query
-- itself, with its placeholders counted on from those before it, and its parameters follow on theirs. Only in a list of
-- returned columns the text is another one, since there the columns that the query names lose their tables.
theorem compile_fill :
    (p.isWritten = true → ∃ before after : Fragment, ∀ (s : Select) (own whole : Command), s.firstType? c = type →
      (Statement.select s).compile (.new c d version) = .ok own →
      (p.fill s).compile (.new c d version) = .ok whole →
      ∃ f, s.render (p.context (.new c d version)) = .ok f ∧
        whole.sql = before.text d 0 ++ f.text d before.params.length ++
          after.text d (before.params.length + own.params.length) ∧
        whole.params = before.params ++ own.params ++ after.params ∧ f.params = own.params ∧
        (f.text d 0 = own.sql ↔ p.isReturned = false ∨ s.mentions = 0)) ∧
    (p.isWritten = false → ∀ s s' : Select, s.firstType? c = s'.firstType? c →
      (p.fill s).compile (.new c d version) = (p.fill s').compile (.new c d version)) := by
  refine ⟨fun hw => ?written, fun hw s s' hs => ?unwritten⟩
  case written =>
    obtain ⟨r, hr, hembeds⟩ := p.exists_embeds (.new c d version) type
    rw [hw] at hembeds
    rcases hembeds with hfails | ⟨before, after, hr'⟩
    case inl =>
      refine ⟨[], [], fun s own whole hs hown hwhole => ?_⟩
      rw [hr ⟨s, hs⟩, Result.bind_eq_ok] at hwhole
      obtain ⟨f, hf, -⟩ := hwhole
      exact absurd hf (hfails _ f)
    case inr =>
      refine ⟨before, after, fun s own whole hs hown hwhole => ?_⟩
      obtain ⟨f, hf, hown⟩ := Result.bind_eq_ok.mp hown
      obtain ⟨rfl, -⟩ := Context.of_command hown
      obtain ⟨g, hg, hparams, htext⟩ := exists_render_context rfl p hf
      have hrender : r ⟨s, hs⟩ = .ok (before ++ g ++ after) := by
        rw [hr']
        exact congrArg (Except.map _) hg
      rw [hr ⟨s, hs⟩, hrender] at hwhole
      obtain ⟨rfl, -⟩ := Context.of_command hwhole
      refine ⟨g, hg, ?_, by simp [hparams], hparams, htext 0⟩
      simp [text_append, hparams, String.append_assoc, Context.new]
  case unwritten =>
    obtain ⟨r, hr, hembeds⟩ := p.exists_embeds (.new c d version) (s.firstType? c)
    rw [hw] at hembeds
    obtain ⟨f, hf⟩ := hembeds
    rw [hr ⟨s, rfl⟩, hr ⟨s', hs.symm⟩, hf, hf]

-- People and their bookings.
def rentals : Catalog :=
  ⟨[⟨"people", [⟨"id", .int .bits32, false, true, false, none⟩, ⟨"name", .string (some 30), false, false, false, none⟩],
      [0], [], []⟩,
    ⟨"bookings", [⟨"id", .int .bits32, false, true, false, none⟩, ⟨"person_id", .int .bits32, false, false, false, none⟩,
      ⟨"status", .string (some 10), false, false, false, none⟩], [0], [], []⟩]⟩

-- How many open bookings does the person have of whom the rest of a statement tells?
def openBookings : Select :=
  { Select.new (.physical 1 none) [.function ⟨.count, [], false, none⟩] with
    predicate := .and (.comparison .eq (.physical ⟨1, 1⟩ none) (.physical ⟨0, 0⟩ none))
      (.comparison .eq (.physical ⟨1, 2⟩ none) (.param (.text "open"))) }

theorem compile_fill_openBookings :
    let p : Statement.Place := .updateFilter ⟨0, [(⟨0, 1⟩, .param (.text "Sam"))], .always, [], none⟩
      (.comparisonRight .lt (.param (.int 3)) (.subSelect .here))
    let own : Command := ⟨"SELECT COUNT(*) FROM bookings WHERE (bookings.person_id = people.id AND bookings.status = $1)",
      [.text "open"]⟩
    let whole : Command := ⟨"UPDATE people SET name = $1 WHERE $2 < (SELECT COUNT(*) FROM bookings " ++
      "WHERE (bookings.person_id = people.id AND bookings.status = $3))", [.text "Sam", .int 3, .text "open"]⟩
    p.isWritten = true ∧ openBookings.firstType? rentals = none ∧
      (Statement.select openBookings).compile (.new rentals .postgres none) = .ok own ∧
      (p.fill openBookings).compile (.new rentals .postgres none) = .ok whole ∧
      ∃ before f after : Fragment, f.text .postgres 0 = own.sql ∧
        whole.sql = before.text .postgres 0 ++ f.text .postgres before.params.length ++
          after.text .postgres (before.params.length + own.params.length) := by
  intro p own whole
  have hown : (Statement.select openBookings).compile (.new rentals .postgres none) = .ok own := rfl
  have hwhole : (p.fill openBookings).compile (.new rentals .postgres none) = .ok whole := rfl
  obtain ⟨before, after, hfill⟩ := (compile_fill rentals .postgres none none p).1 rfl
  obtain ⟨f, -, hsql, -, -, htext⟩ := hfill openBookings own whole rfl hown hwhole
  exact ⟨rfl, rfl, hown, hwhole, before, f, after, htext.mpr (.inl rfl), hsql⟩

-- The columns are compared with each other in one table, which has an `id` of its own.
theorem fill_openBookings_returned :
    let p : Statement.Place := .deleteReturning ⟨0, .comparison .eq (.physical ⟨0, 0⟩ none) (.param (.int 7)), [], none⟩
      [.physical ⟨0, 1⟩ none] (.subSelect .here) []
    let whole : Command := ⟨"DELETE FROM people WHERE people.id = $1 RETURNING name, (SELECT COUNT(*) FROM bookings " ++
      "WHERE (person_id = id AND status = $2))", [.int 7, .text "open"]⟩
    (p.fill openBookings).compile (.new rentals .postgres none) = .ok whole ∧
      ∀ f, openBookings.render (.new rentals .postgres none) = .ok f →
        ¬(f.text .postgres 1).toList <:+: whole.sql.toList := by
  intro p whole
  refine ⟨rfl, fun f hf hin => ?_⟩
  have htext : f.text .postgres 1 =
      "SELECT COUNT(*) FROM bookings WHERE (bookings.person_id = people.id AND bookings.status = $2)" := by
    cases hf
    rfl
  rw [htext] at hin
  exact absurd (hin.sublist.count_le '.') (by decide +kernel)

end Statement.Place

end PolySql
