import SqlTemplate.Proofs.Junctions
import SqlTemplate.Proofs.QueryBinding

/-!
# What is left to rewrite in a rewritten text

A rewritten text is scanned piece by piece: what stood between the placeholders is literal still,
and each marker is cut as if it stood alone, since what follows it begins with no word character.
So no placeholder is left, but where markers are numbered each of them is one, and its name is its
number. Rewriting once more changes nothing then, unless percent signs are written twice. -/

namespace SqlTemplate

namespace Template

theorem boundary_afterWord (text : List Char) : Boundary (afterWord text) := by
  induction text with
  | nil => simp [Boundary, afterWord]
  | cons c rest ih =>
    by_cases word : Text.isWord c = true
    · simpa [afterWord, word] using ih
    · have ends : Boundary (c :: rest) := boundary_cons (Bool.eq_false_iff.mpr word) rest
      rwa [afterWord_of_boundary ends]

theorem Boundary.append {first : List Char} (ends : Boundary first) (some_ : first ≠ [])
    (rest : List Char) : Boundary (first ++ rest) := by
  obtain ⟨c, more, rfl⟩ := List.exists_cons_of_ne_nil some_
  exact boundary_cons (ends c rfl) (more ++ rest)

theorem boundary_iff_singleton {c : Char} {rest : List Char} :
    Boundary (c :: rest) ↔ Boundary [c] := by
  simp [Boundary]

end Template

open Template

namespace MarkerStyle

/-- The characters of a marker. -/
theorem toList_marker (style : MarkerStyle) (position : Nat) :
    (style.marker position).toList =
      match style with
      | .question => ['?']
      | .percent => ['%', 's']
      | .numbered => ':' :: Nat.toDigits 10 position := by
  cases style with
  | question => simp [marker]
  | percent => simp [marker]
  | numbered => simp [marker, toString, Int.repr]

def markerTokens (style : MarkerStyle) (position : Nat) : List Token :=
  match style with
  | .question => [.literal '?']
  | .percent => [.literal '%', .literal 's']
  | .numbered => [.placeholder (Nat.toDigits 10 position)]

theorem tokens_marker (style : MarkerStyle) (position : Nat) :
    tokens (style.marker position).toList = style.markerTokens position := by
  rw [toList_marker]
  cases style with
  | question => exact tokens_plain (show ':' ∉ ['?'] by decide)
  | percent => exact tokens_plain (show ':' ∉ ['%', 's'] by decide)
  | numbered =>
    apply tokens_placeholder Nat.toDigits_ne_nil
    intro c digit
    have isDigit : c.isDigit = true := Nat.isDigit_of_mem_toDigits (by decide) (by decide) digit
    exact Text.isWord_of_isAlphanum (by simp [Char.isAlphanum, isDigit])

/-- No name goes on into a marker. -/
theorem boundary_marker (style : MarkerStyle) (position : Nat) (rest : List Char) :
    Boundary ((style.marker position).toList ++ rest) := by
  rw [toList_marker]
  cases style <;> exact boundary_cons (by decide) _

theorem boundary_escaped (style : MarkerStyle) {c : Char} (apart : Boundary [c])
    (rest : List Char) : Boundary (style.escaped c ++ rest) := by
  by_cases doubled : c = '%' ∧ style = .percent
  · rw [escaped, if_pos doubled]
    exact boundary_cons (by decide) _
  · rw [escaped, if_neg doubled]
    exact apart.append (by simp) rest

/-- A text that no name goes on into is rewritten to such a text. -/
theorem boundary_written (style : MarkerStyle) {text : List Char} (ends : Boundary text)
    (position : Nat) : Boundary (style.written position (tokens text)) := by
  cases text with
  | nil => simpa [tokens, written, Template.written] using ends
  | cons c rest =>
    rw [tokens]
    split
    · exact style.boundary_marker position _
    · exact style.boundary_escaped (boundary_iff_singleton.mp ends) _

/-- The pieces that scanning finds where such tokens were written. -/
def retaken (style : MarkerStyle) : Nat → List Token → List Token
  | _, [] => []
  | position, .literal c :: rest => (style.escaped c).map .literal ++ style.retaken position rest
  | position, .placeholder _ :: rest =>
    style.markerTokens position ++ style.retaken (position + 1) rest

/-- A colon that is no part of a placeholder becomes none, and other characters never do. -/
theorem tokens_escaped_append (style : MarkerStyle) {c : Char} {rest : List Char}
    (literal : c = ':' → Boundary rest) :
    tokens (style.escaped c ++ rest) = (style.escaped c).map .literal ++ tokens rest := by
  by_cases colon : c = ':'
  · subst colon
    have alone : tokens [':'] = [.literal ':'] := by simp [tokens, leadingWord]
    rw [escaped_of_ne (by decide), tokens_append (literal rfl), alone]
    rfl
  · apply tokens_plain_append
    by_cases doubled : c = '%' ∧ style = .percent
    · rw [escaped, if_pos doubled]
      decide
    · rw [escaped, if_neg doubled]
      simpa using fun same => colon same.symm

/-- A rewritten text is scanned piece by piece. -/
theorem tokens_written (style : MarkerStyle) (position : Nat) (text : List Char) :
    tokens (style.written position (tokens text)) = style.retaken position (tokens text) := by
  fun_induction tokens text generalizing position with
  | case1 =>
    change tokens [] = []
    rw [tokens]
  | case2 c rest found ih =>
    have ends := style.boundary_written (boundary_afterWord rest) (position + 1)
    have cut := tokens_append ends (style.marker position).toList
    rw [tokens_marker, ih] at cut
    exact cut
  | case3 c rest other ih =>
    have cut : tokens (style.escaped c ++ style.written position (tokens rest)) =
        (style.escaped c).map .literal ++ tokens (style.written position (tokens rest)) := by
      apply style.tokens_escaped_append
      rintro rfl
      have none_ : leadingWord rest = [] :=
        Classical.byContradiction fun some_ => other ⟨rfl, some_⟩
      have whole := leadingWord_append_afterWord rest
      rw [none_, List.nil_append] at whole
      exact style.boundary_written (whole ▸ boundary_afterWord rest) position
    rw [ih] at cut
    exact cut

/-- A text without placeholders is rewritten to itself unless percent signs are written twice. -/
theorem written_of_names {style : MarkerStyle} (single : style ≠ .percent) {text : List Char}
    (none_ : names text = []) (position : Nat) : style.written position (tokens text) = text := by
  have literal : ∀ c, style.escaped c = [c] := congrFun (escaped_of_single single)
  have same : ∀ found : List Token, found.filterMap Token.name? = [] →
      style.written position found = found.flatMap Token.text := by
    intro found
    induction found with
    | nil => intro _; rfl
    | cons token rest ih =>
      cases token with
      | literal c =>
        intro free
        rw [List.flatMap_cons, ← ih free]
        exact congrArg (· ++ _) (literal c)
      | placeholder name => intro free; cases free
  rw [same _ none_, flatMap_text_tokens]

/-- Where markers are numbers the pieces found are written as they were. -/
theorem written_retaken (position : Nat) (found : List Token) :
    MarkerStyle.numbered.written position (MarkerStyle.numbered.retaken position found) =
      MarkerStyle.numbered.written position found := by
  induction found generalizing position with
  | nil => rfl
  | cons token rest ih =>
    cases token with
    | literal c =>
      have literal : MarkerStyle.numbered.escaped c = [c] := by simp [escaped]
      rw [retaken, literal]
      exact congrArg (MarkerStyle.numbered.escaped c ++ ·) (ih position)
    | placeholder name =>
      exact congrArg ((MarkerStyle.numbered.marker position).toList ++ ·) (ih (position + 1))

def markerNames (style : MarkerStyle) (position count : Nat) : List (List Char) :=
  match style with
  | .numbered => (List.range count).map fun i => Nat.toDigits 10 (position + i)
  | _ => []

/-- The placeholders of a rewritten text are those of its markers. -/
theorem names_written (style : MarkerStyle) (position : Nat) (text : List Char) :
    names (style.written position (tokens text)) =
      style.markerNames position (slots (tokens text)) := by
  rw [names, tokens_written]
  induction tokens text generalizing position with
  | nil => cases style <;> rfl
  | cons token rest ih =>
    cases token with
    | literal c =>
      have none_ : ((style.escaped c).map Token.literal).filterMap Token.name? = [] := by
        simp [List.filterMap_eq_nil_iff, Token.name?]
      rw [retaken, List.filterMap_append, none_, ih]
      rfl
    | placeholder name =>
      have count : slots (.placeholder name :: rest) = slots rest + 1 := rfl
      rw [retaken, List.filterMap_append, ih, count]
      cases style with
      | question => rfl
      | percent => rfl
      | numbered =>
        rw [markerNames, markerNames, List.range_succ_eq_map, List.map_cons, List.map_map]
        have shift : ∀ i, position + 1 + i = position + (i + 1) := by omega
        simp only [shift]
        rfl

end MarkerStyle

/-- A rewritten text holds no placeholder, or with numbered markers just their numbers in order.
Unless percent signs are written twice it is not changed by rewriting it again; so where markers
are numbered, preparing it is preparing the text it came from, with the same slots. -/
theorem rewriting_is_stable (d : Dialect) (style : MarkerStyle) (sql : String)
    (styled : d.styleName = style.name) :
    ∃ positional, d.rewrite sql = .ok positional ∧
      (style ≠ .numbered → placeholders positional = []) ∧
      (style = .numbered → placeholders positional =
        (List.range (placeholders sql).length).map fun i => toString (i + 1)) ∧
      (style ≠ .percent → d.rewrite positional = .ok positional) ∧
      (style = .numbered → ∀ db : Database, db.dialect = d →
        db.prepare positional = db.prepare sql ∧
        ∀ (connection : Connection) (trace : Trace), db.usable = .ok connection →
          connection.cursorFault trace.cursorCalls = none →
          ∃ st later, (db.prepare positional).after trace = (.ok st, later) ∧ st.sql = positional ∧
            st.count = some ((placeholders sql).length : Int)) := by
  have known : d.style? = some style := by
    rw [Dialect.style?, styled]
    cases style <;> rfl
  have rewritten := Dialect.rewrite_of_style known sql
  have length : slots (tokens sql.toList) = (placeholders sql).length :=
    (List.length_map String.ofList).symm
  generalize made : String.ofList (style.written 1 (tokens sql.toList)) = positional at rewritten
  have text : positional.toList = style.written 1 (tokens sql.toList) := by
    rw [← made, String.toList_ofList]
  have found : placeholders positional =
      (style.markerNames 1 (placeholders sql).length).map String.ofList := by
    rw [← length, ← MarkerStyle.names_written, ← text]
    rfl
  have again : style ≠ .percent → d.rewrite positional = .ok positional := by
    intro single
    rw [Dialect.rewrite_of_style known, text, ← made]
    cases style with
    | question => rw [MarkerStyle.written_of_names single (MarkerStyle.names_written _ 1 _)]
    | percent => exact absurd rfl single
    | numbered => rw [MarkerStyle.tokens_written, MarkerStyle.written_retaken]
  have numbers : style = .numbered → placeholders positional =
      (List.range (placeholders sql).length).map fun i => toString (i + 1) := by
    rintro rfl
    rw [found, MarkerStyle.markerNames, List.map_map]
    apply List.map_congr_left
    intro i _
    simp [Nat.add_comm 1 i, Nat.repr]
  refine ⟨positional, rewritten, ?_, numbers, again, ?_⟩
  · intro other
    rw [found]
    cases style with
    | numbered => exact absurd rfl other
    | _ => rfl
  · rintro rfl db rfl
    have count : (placeholders positional).length = (placeholders sql).length := by
      rw [numbers rfl, List.length_map, List.length_range]
    constructor
    · simp only [Database.prepare, rewritten, again (by decide), count]
    · intro connection trace usable opens
      rw [← count]
      exact Database.after_prepare usable (again (by decide)) opens

/-- Colons that stand together, and names made of digits, keep their places. -/
theorem rewriting_is_stable_tight :
    ∃ positional, (Dialect.ofFamily .numeric).rewrite "::7 x:a:b::" = .ok positional ∧
      placeholders positional = ["1", "2", "3"] ∧
      (Dialect.ofFamily .numeric).rewrite positional = .ok positional := by
  obtain ⟨positional, rewritten, _, numbers, again, _⟩ :=
    rewriting_is_stable (.ofFamily .numeric) .numbered "::7 x:a:b::" rfl
  have three : placeholders "::7 x:a:b::" = ["7", "a", "b"] := by decide +kernel
  refine ⟨positional, rewritten, ?_, again (by decide)⟩
  rw [numbers rfl, three]
  decide

end SqlTemplate
