import SqlTemplate.Proofs.QueryBinding
import SqlTemplate.Proofs.Scanning

/-!
# Percent markers read back

A driver whose markers begin with a percent sign reads a text from left to right: two percent signs
are one, a percent sign before an `s` is a marker, and a percent sign in any other place is an
error. A text that was rewritten for such a driver is read as the text it came from, with a marker
for each placeholder. It makes no difference whether percent signs are doubled before placeholders
are looked for or while the text is written, since a percent sign neither begins nor continues a
name. -/

namespace SqlTemplate

/-- What a driver finds in a text: a character that stands for itself, or a marker. -/
inductive PercentItem where
  | character (c : Char)
  | marker
  deriving DecidableEq, Repr

namespace PercentItem

def ofToken : Template.Token → PercentItem
  | .literal c => .character c
  | .placeholder _ => .marker

theorem count_marker_ofToken (tokens : List Template.Token) :
    (tokens.map ofToken).count .marker = Template.slots tokens := by
  induction tokens with
  | nil => rfl
  | cons token rest ih =>
    rw [List.map_cons, List.count_cons, ih]
    cases token <;> rfl

end PercentItem

/-- Reads a text as a driver with percent markers does. -/
def readPercent : List Char → Option (List PercentItem)
  | [] => some []
  | '%' :: '%' :: rest => (readPercent rest).map (.character '%' :: ·)
  | '%' :: 's' :: rest => (readPercent rest).map (.marker :: ·)
  | c :: rest => if c = '%' then none else (readPercent rest).map (.character c :: ·)

theorem readPercent_of_ne {c : Char} (other : c ≠ '%') (rest : List Char) :
    readPercent (c :: rest) = (readPercent rest).map (.character c :: ·) := by
  simp [readPercent, other]

/-- The literal form of a character is read as that character. -/
theorem readPercent_escaped (c : Char) (rest : List Char) :
    readPercent (MarkerStyle.percent.escaped c ++ rest) =
      (readPercent rest).map (.character c :: ·) := by
  by_cases percent : c = '%'
  · subst c
    rfl
  · rw [MarkerStyle.escaped_of_ne percent]
    exact readPercent_of_ne percent rest

theorem toList_percent_marker (position : Int) :
    (MarkerStyle.percent.marker position).toList = ['%', 's'] := by
  rw [MarkerStyle.marker]
  decide +kernel

theorem readPercent_written (position : Nat) (tokens : List Template.Token) :
    readPercent (MarkerStyle.percent.written position tokens) =
      some (tokens.map PercentItem.ofToken) := by
  induction tokens generalizing position with
  | nil => rfl
  | cons token rest ih =>
    cases token with
    | literal c =>
      have read := readPercent_escaped c (MarkerStyle.percent.written position rest)
      rw [ih position] at read
      exact read
    | placeholder name =>
      have marked : MarkerStyle.percent.written position (.placeholder name :: rest) =
          '%' :: 's' :: MarkerStyle.percent.written (position + 1) rest := by
        rw [MarkerStyle.written, Template.written, toList_percent_marker]
        rfl
      rw [marked, readPercent, ih (position + 1)]
      rfl

def doubled (text : List Char) : List Char := text.flatMap MarkerStyle.percent.escaped

def Template.Token.doubled : Template.Token → List Template.Token
  | .literal c => (MarkerStyle.percent.escaped c).map .literal
  | .placeholder name => [.placeholder name]

theorem isWord_percent : Text.isWord '%' = false := by decide

theorem doubled_cons_of_ne {c : Char} (other : c ≠ '%') (rest : List Char) :
    doubled (c :: rest) = c :: doubled rest := by
  rw [doubled, List.flatMap_cons, MarkerStyle.escaped_of_ne other]
  rfl

/-- Percent signs end a name, doubled or not. -/
theorem leadingWord_doubled (text : List Char) :
    Template.leadingWord (doubled text) = Template.leadingWord text ∧
      Template.afterWord (doubled text) = doubled (Template.afterWord text) := by
  induction text with
  | nil => exact ⟨rfl, rfl⟩
  | cons c text ih =>
    by_cases word : Text.isWord c = true
    · have other : c ≠ '%' := by
        rintro rfl
        rw [isWord_percent] at word
        cases word
      rw [doubled_cons_of_ne other]
      simp only [Template.leadingWord, Template.afterWord, List.takeWhile_cons, List.dropWhile_cons,
        word, if_true] at ih ⊢
      exact ⟨congrArg (c :: ·) ih.1, ih.2⟩
    · have ends : Template.Boundary (c :: text) :=
        Template.boundary_cons (Bool.eq_false_iff.mpr word) text
      have endsDoubled : Template.Boundary (doubled (c :: text)) := by
        by_cases percent : c = '%'
        · subst c
          exact Template.boundary_cons isWord_percent _
        · rw [doubled_cons_of_ne percent]
          exact Template.boundary_cons (Bool.eq_false_iff.mpr word) _
      rw [Template.leadingWord_of_boundary ends, Template.leadingWord_of_boundary endsDoubled,
        Template.afterWord_of_boundary ends, Template.afterWord_of_boundary endsDoubled]
      exact ⟨rfl, rfl⟩

/-- Doubling moves no placeholder. -/
theorem tokens_doubled (text : List Char) :
    Template.tokens (doubled text) = (Template.tokens text).flatMap Template.Token.doubled := by
  fun_induction Template.tokens text with
  | case1 =>
    rw [doubled, List.flatMap_nil, Template.tokens]
    rfl
  | case2 c text found ih =>
    obtain ⟨rfl, some_⟩ := found
    obtain ⟨leading, after⟩ := leadingWord_doubled text
    have foundDoubled : ':' = ':' ∧ Template.leadingWord (doubled text) ≠ [] := by
      rw [leading]
      exact ⟨rfl, some_⟩
    rw [doubled_cons_of_ne (by decide), Template.tokens, if_pos foundDoubled, leading, after, ih]
    rfl
  | case3 c text other ih =>
    by_cases percent : c = '%'
    · subst c
      have signs : ':' ∉ ['%', '%'] := by decide
      have cut := Template.tokens_plain_append signs (doubled text)
      rw [ih] at cut
      exact cut
    · obtain ⟨leading, _⟩ := leadingWord_doubled text
      have otherDoubled : ¬ (c = ':' ∧ Template.leadingWord (doubled text) ≠ []) := by
        rw [leading]
        exact other
      have literal : Template.Token.doubled (.literal c) = [.literal c] := by
        rw [Template.Token.doubled, MarkerStyle.escaped_of_ne percent]
        rfl
      rw [doubled_cons_of_ne percent, Template.tokens, if_neg otherDoubled, ih, List.flatMap_cons,
        literal]
      rfl

/-- Doubling while a text is written gives what doubling it before would give. -/
theorem written_doubled (marker : Nat → List Char) (position : Nat)
    (tokens : List Template.Token) :
    Template.written (fun c => [c]) marker position (tokens.flatMap Template.Token.doubled) =
      Template.written MarkerStyle.percent.escaped marker position tokens := by
  induction tokens generalizing position with
  | nil => rfl
  | cons token rest ih =>
    rw [List.flatMap_cons, Template.written_append]
    cases token with
    | literal c =>
      have none_ : Template.slots (Template.Token.doubled (.literal c)) = 0 :=
        Template.slots_literal _
      have text : Template.written (fun c => [c]) marker position
          (Template.Token.doubled (.literal c)) = MarkerStyle.percent.escaped c := by
        rw [Template.Token.doubled, Template.written_literal, List.flatMap_singleton']
      rw [none_, text, Nat.add_zero, ih]
      rfl
    | placeholder name =>
      rw [ih, Template.Token.doubled, Template.written, Template.written, List.append_nil]
      rfl

/-- A dialect with percent markers rewrites every text, and a driver reads the result without fail:
it finds the characters outside the placeholders and a marker for every placeholder, so as many
markers as the prepared statement has slots. The result is the one that comes of doubling the
percent signs first and replacing the placeholders afterwards. -/
theorem percent_text_reads_back (d : Dialect) (sql : String) (percent : d.styleName = "format") :
    ∃ (positional : String) (items : List PercentItem),
      d.rewrite sql = .ok positional ∧ readPercent positional.toList = some items ∧
      items = (Template.tokens sql.toList).map PercentItem.ofToken ∧
      items.count .marker = (Template.placeholders sql).length ∧
      positional.toList = Template.written (fun c => [c]) (fun _ => ['%', 's']) 1
        (Template.tokens (doubled sql.toList)) ∧
      ∀ (db : Database) (connection : Connection) (trace : Trace), db.dialect = d →
        db.usable = .ok connection → connection.cursorFault trace.cursorCalls = none →
        ∃ st later, (db.prepare sql).after trace = (.ok st, later) ∧ st.sql = positional ∧
          st.count = some (items.count .marker : Int) := by
  have styled : d.style? = some .percent := by
    rw [Dialect.style?, percent]
    rfl
  have rewritten := Dialect.rewrite_of_style styled sql
  have count : ((Template.tokens sql.toList).map PercentItem.ofToken).count .marker =
      (Template.placeholders sql).length := by
    rw [PercentItem.count_marker_ofToken, Template.placeholders, List.length_map]
    rfl
  refine ⟨_, _, rewritten, ?_, rfl, count, ?_, ?_⟩
  · rw [String.toList_ofList]
    exact readPercent_written 1 _
  · rw [String.toList_ofList, tokens_doubled, written_doubled, MarkerStyle.written]
    simp only [toList_percent_marker]
  · rintro db connection trace rfl usable opens
    rw [count]
    exact Database.after_prepare usable rewritten opens

/-- A marker right after a percent sign, and a percent sign before an `s`, are told apart. -/
theorem percent_text_reads_back_tight :
    ∃ positional, (Dialect.ofFamily .postgres).rewrite "%:a%s" = .ok positional ∧
      readPercent positional.toList =
        some [.character '%', .marker, .character '%', .character 's'] := by
  obtain ⟨positional, items, rewritten, read, found, _⟩ :=
    percent_text_reads_back (.ofFamily .postgres) "%:a%s" rfl
  have same : (Template.tokens "%:a%s".toList).map PercentItem.ofToken =
      [.character '%', .marker, .character '%', .character 's'] := by decide +kernel
  rw [found, same] at read
  exact ⟨positional, rewritten, read⟩

end SqlTemplate
