import PolySql.Proofs.Sql.Lexer
import PolySql.Proofs.Text.Reading

namespace PolySql

-- What a backslash and the character after it stand for on MySQL. Before the wildcards of `LIKE` it stays.
def unescaped (c : Char) : List Char :=
  match c with
  | '0' => ['\x00']
  | 'b' => ['\x08']
  | 'n' => ['\n']
  | 'r' => ['\r']
  | 't' => ['\t']
  | 'Z' => ['\x1a']
  | '%' | '_' => ['\\', c]
  | _ => [c]

-- Reads on after the opening mark up to the closing one: what stands between them, and the rest of the text.
def Quote.inside (q : Quote) : List Char → Option (List Char × List Char)
  | [] => none
  | [c] => if c = q.closing then some ([], []) else none
  | c :: d :: r =>
    if c = q.closing then
      if d = q.closing then (q.inside r).map fun x => (c :: x.1, x.2)
      else some ([], d :: r)
    else if q.escapes && c == '\\' then (q.inside r).map fun x => (unescaped d ++ x.1, x.2)
    else (q.inside (d :: r)).map fun x => (c :: x.1, x.2)

namespace Quote

variable {q : Quote} {r s : List Char}

theorem inside_end (h : r.head? ≠ some q.closing) : q.inside (q.closing :: r) = some ([], r) := by
  cases r
  case nil => simp [inside]
  case cons d r =>
    have : d ≠ q.closing := by simpa using h
    simp [inside, this]

theorem inside_closing (r : List Char) :
    q.inside (q.closing :: q.closing :: r) = (q.inside r).map fun x => (q.closing :: x.1, x.2) := by
  simp [inside]

theorem inside_cons (hc : c ≠ q.closing) (he : q.escapes = true → c ≠ '\\') :
    q.inside (c :: r) = (q.inside r).map fun x => (c :: x.1, x.2) := by
  cases r
  case nil => simp [inside, hc]
  case cons d r =>
    have : ¬(q.escapes = true ∧ c = '\\') := fun h => he h.1 h.2
    simp [inside, hc, this]

theorem inside_backslash (he : q.escapes = true) (hq : q.closing ≠ '\\') (r : List Char) :
    q.inside ('\\' :: '\\' :: r) = (q.inside r).map fun x => ('\\' :: x.1, x.2) := by
  simp [inside, he, hq.symm, unescaped]

-- A text comes back from between its marks if the closing one has been doubled.
theorem inside_doubled (hs : q.escapes = true → '\\' ∉ s) (hr : r.head? ≠ some q.closing) :
    q.inside (Text.doubled q.closing s ++ q.closing :: r) = some (s, r) := by
  induction s
  case nil => exact inside_end hr
  case cons c s ih =>
    have ih := ih fun h => List.not_mem_of_not_mem_cons (hs h)
    by_cases hc : c = q.closing
    case pos => simp [Text.doubled, hc, inside_closing, ih]
    case neg =>
      have he : q.escapes = true → c ≠ '\\' := fun h => (List.ne_of_not_mem_cons (hs h)).symm
      simp [Text.doubled, hc, inside_cons hc he, ih]

-- Where a backslash has a meaning, it is doubled first.
theorem inside_doubled_escapes (he : q.escapes = true) (hq : q.closing ≠ '\\') (s : List Char)
    (hr : r.head? ≠ some q.closing) :
    q.inside (Text.doubled q.closing (Text.doubled '\\' s) ++ q.closing :: r) = some (s, r) := by
  induction s
  case nil => exact inside_end hr
  case cons c s ih =>
    by_cases hb : c = '\\'
    case pos => simp [Text.doubled, hb, hq.symm, inside_backslash he hq, ih]
    case neg =>
      by_cases hc : c = q.closing
      case pos => simp [Text.doubled, hc, hq, inside_closing, ih]
      case neg => simp [Text.doubled, hb, hc, inside_cons hc fun _ => hb, ih]

end Quote

end PolySql
