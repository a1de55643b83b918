import SqlTemplate.Proofs.PercentReading
import SqlTemplate.Proofs.RewrittenTexts

/-!
# The segments of a text

A segment is a placeholder together with the gap behind it, in which no other placeholder opens and
which does not go on with the name. Every text is a gap followed by segments, and in one way only,
so there are as many segments as offsets at which a placeholder opens. Scanning finds the names of
the segments. Rewriting keeps the gaps and numbers the segments; whether percent signs are doubled
in the whole text or in each gap makes no difference, since the doubled text has the doubled gaps.
-/

namespace SqlTemplate

namespace Template

/-- At the offset stands a colon, and directly behind it a word character. -/
def OpensAt (text : List Char) (offset : Nat) : Prop :=
  text[offset]? = some ':' ∧ (text[offset + 1]?).any Text.isWord = true

instance (text : List Char) (offset : Nat) : Decidable (OpensAt text offset) :=
  inferInstanceAs (Decidable (_ ∧ _))

def openings (text : List Char) : Nat :=
  (List.range text.length).countP fun offset => OpensAt text offset

def Closed (text : List Char) : Prop := ∀ offset, ¬ OpensAt text offset

theorem closed_nil : Closed [] := by simp [Closed, OpensAt]

theorem opensAt_zero {c : Char} {rest : List Char} :
    OpensAt (c :: rest) 0 ↔ c = ':' ∧ leadingWord rest ≠ [] := by
  cases rest with
  | nil => simp [OpensAt, leadingWord]
  | cons d rest =>
    by_cases word : Text.isWord d = true <;> simp [OpensAt, leadingWord, word]

theorem opensAt_succ {c : Char} {rest : List Char} {offset : Nat} :
    OpensAt (c :: rest) (offset + 1) ↔ OpensAt rest offset := Iff.rfl

theorem openings_cons (c : Char) (rest : List Char) :
    openings (c :: rest) =
      openings rest + if c = ':' ∧ leadingWord rest ≠ [] then 1 else 0 := by
  have later : ((fun offset => decide (OpensAt (c :: rest) offset)) ∘ Nat.succ) =
      fun offset => decide (OpensAt rest offset) := by
    funext offset
    simp [opensAt_succ]
  rw [openings, List.length_cons, List.range_succ_eq_map, List.countP_cons, List.countP_map, later]
  simp only [decide_eq_true_eq, opensAt_zero]
  rfl

theorem closed_cons {c : Char} {rest : List Char} :
    Closed (c :: rest) ↔ ¬ (c = ':' ∧ leadingWord rest ≠ []) ∧ Closed rest := by
  rw [← opensAt_zero]
  constructor
  · intro closed
    exact ⟨closed 0, fun offset => closed (offset + 1)⟩
  · rintro ⟨first, later⟩ offset
    cases offset with
    | zero => exact first
    | succ offset => exact later offset

/-- No placeholder opens within a word. -/
theorem openings_word_append {word : List Char} (all : AllWord word) (rest : List Char) :
    openings (word ++ rest) = openings rest := by
  induction word with
  | nil => rfl
  | cons c word ih =>
    obtain ⟨noColon, later⟩ := not_or.mp (mt List.mem_cons.mpr all.noColon)
    have other : ¬ (c = ':' ∧ leadingWord (word ++ rest) ≠ []) :=
      fun found => noColon found.1.symm
    have inner : AllWord word := fun d member => all d (List.mem_cons_of_mem c member)
    simp only [List.cons_append, openings_cons, if_neg other, ih inner, Nat.add_zero]

/-- Scanning finds a placeholder wherever one opens. -/
theorem slots_tokens (text : List Char) : slots (tokens text) = openings text := by
  fun_induction tokens text with
  | case1 => rfl
  | case2 c rest found ih =>
    -- The name is a word, so no other placeholder opens before its end, where scanning goes on.
    have behind := openings_word_append (allWord_leadingWord rest) (afterWord rest)
    rw [leadingWord_append_afterWord] at behind
    rw [openings_cons, if_pos found, behind, ← ih]
    rfl
  | case3 c rest other ih =>
    rw [openings_cons, if_neg other, ← ih]
    rfl

/-- Texts in which no placeholder opens are literal throughout. -/
theorem tokens_eq_literal_iff {text : List Char} :
    tokens text = text.map .literal ↔ Closed text := by
  induction text with
  | nil => simp [tokens, closed_nil]
  | cons c rest ih =>
    rw [closed_cons, ← ih, tokens]
    by_cases found : c = ':' ∧ leadingWord rest ≠ [] <;> simp [found]

/-- A placeholder and the gap behind it. -/
@[ext]
structure Segment where
  name : List Char
  gap : List Char
  named : name ≠ []
  word : AllWord name
  closed : Closed gap
  apart : Boundary gap

namespace Segment

def text (s : Segment) : List Char := ':' :: s.name ++ s.gap

/-- The segments with something else in the place of each placeholder, by its number, of which the
first is given. -/
def filledFrom (put : Nat → List Char) (number : Nat) (segments : List Segment) : List Char :=
  (segments.zipIdx number).flatMap fun (segment, number) => put number ++ segment.gap

def tokens (s : Segment) : List Token := .placeholder s.name :: s.gap.map .literal

end Segment

/-- A gap and the segments behind it. -/
@[ext]
structure Segmentation where
  lead : List Char
  segments : List Segment
  closed : Closed lead

namespace Segmentation

def text (s : Segmentation) : List Char := s.lead ++ s.segments.flatMap Segment.text

/-- The text with something else in the place of each placeholder, by its number from one. -/
def filled (put : Nat → List Char) (s : Segmentation) : List Char :=
  s.lead ++ Segment.filledFrom put 1 s.segments

def tokens (s : Segmentation) : List Token :=
  s.lead.map .literal ++ s.segments.flatMap Segment.tokens

end Segmentation

theorem boundary_nil : Boundary [] := by simp [Boundary]

theorem boundary_segments (segments : List Segment) : Boundary (segments.flatMap Segment.text) := by
  cases segments with
  | nil => exact boundary_nil
  | cons segment rest => exact boundary_cons isWord_colon _

/-- Where a gap stands before text that no name goes on into, no name goes on into the gap. -/
theorem Segment.boundary_gap_append (s : Segment) {rest : List Char} (ends : Boundary rest) :
    Boundary (s.gap ++ rest) := by
  by_cases empty : s.gap = []
  · simpa [empty] using ends
  · exact s.apart.append empty rest

theorem tokens_closed_append {gap rest : List Char} (closed : Closed gap) (ends : Boundary rest) :
    Template.tokens (gap ++ rest) = gap.map .literal ++ Template.tokens rest := by
  rw [tokens_append ends, tokens_eq_literal_iff.mpr closed]

theorem tokens_segments (segments : List Segment) :
    Template.tokens (segments.flatMap Segment.text) = segments.flatMap Segment.tokens := by
  induction segments with
  | nil => simp [Template.tokens]
  | cons segment rest ih =>
    have ends := boundary_segments rest
    have gap := tokens_closed_append segment.closed ends
    have whole := tokens_append (segment.boundary_gap_append ends) (':' :: segment.name)
    rw [tokens_placeholder segment.named segment.word, gap, ih, ← List.append_assoc] at whole
    exact whole

theorem Segmentation.tokens_text (s : Segmentation) : Template.tokens s.text = s.tokens := by
  have cut := tokens_closed_append s.closed (boundary_segments s.segments)
  rw [tokens_segments] at cut
  exact cut

/-- A gap and segments give back the gap, which ends where the first placeholder token stands. -/
theorem literal_append_inj {first second : List Char} {segments others : List Segment}
    (same : first.map .literal ++ segments.flatMap Segment.tokens =
      second.map .literal ++ others.flatMap Segment.tokens) :
    first = second ∧ segments.flatMap Segment.tokens = others.flatMap Segment.tokens := by
  induction first generalizing second with
  | nil =>
    cases second with
    | nil => exact ⟨rfl, same⟩
    | cons c second => cases segments <;> simp [Segment.tokens] at same
  | cons c first ih =>
    cases second with
    | nil => cases others <;> simp [Segment.tokens] at same
    | cons d second =>
      simp only [List.map_cons, List.cons_append, List.cons.injEq, Token.literal.injEq] at same
      obtain ⟨rfl, rest⟩ := same
      obtain ⟨rfl, behind⟩ := ih rest
      exact ⟨rfl, behind⟩

theorem segments_inj {segments others : List Segment}
    (same : segments.flatMap Segment.tokens = others.flatMap Segment.tokens) :
    segments = others := by
  induction segments generalizing others with
  | nil => cases others <;> simp [Segment.tokens] at same ⊢
  | cons segment rest ih =>
    cases others with
    | nil => simp [Segment.tokens] at same
    | cons other others =>
      simp only [List.flatMap_cons, Segment.tokens, List.cons_append, List.cons.injEq,
        Token.placeholder.injEq] at same
      obtain ⟨names, behind⟩ := same
      obtain ⟨gaps, later⟩ := literal_append_inj behind
      rw [Segment.ext names gaps, ih later]

namespace Segmentation

/-- Texts put together from different segmentations are different. -/
theorem text_inj {s t : Segmentation} (same : s.text = t.text) : s = t := by
  have found : s.tokens = t.tokens := by
    rw [← tokens_text, ← tokens_text, same]
  obtain ⟨leads, behind⟩ := literal_append_inj found
  exact Segmentation.ext leads (segments_inj behind)

/-- The word that a text begins with, if any, lies within its first gap. -/
theorem leadingWord_text (s : Segmentation) : leadingWord s.text = leadingWord s.lead :=
  leadingWord_append (boundary_segments s.segments) s.lead

theorem boundary_lead {s : Segmentation} (ends : Boundary s.text) : Boundary s.lead := by
  intro c head
  apply ends c
  simp only [text, List.head?_append, Option.mem_def] at head ⊢
  simp [head]

/-- Every text has a segmentation: scanning it puts one together. -/
theorem exists_text_eq (text : List Char) : ∃ s : Segmentation, s.text = text := by
  fun_induction Template.tokens text with
  | case1 => exact ⟨⟨[], [], closed_nil⟩, rfl⟩
  | case2 c rest found ih =>
    obtain ⟨s, behind⟩ := ih
    obtain ⟨rfl, named⟩ := found
    -- The gap that what follows the name begins with becomes the gap of the segment. It does not
    -- go on with the name, since the name was taken as long as it could be.
    have apart : Boundary s.lead := boundary_lead (behind ▸ boundary_afterWord rest)
    let segment : Segment :=
      ⟨leadingWord rest, s.lead, named, allWord_leadingWord rest, s.closed, apart⟩
    refine ⟨⟨[], segment :: s.segments, closed_nil⟩, ?_⟩
    have whole := leadingWord_append_afterWord rest
    rw [← behind] at whole
    simpa [text, Segment.text, segment] using whole
  | case3 c rest other ih =>
    obtain ⟨s, rfl⟩ := ih
    rw [leadingWord_text] at other
    exact ⟨⟨c :: s.lead, s.segments, closed_cons.mpr ⟨other, s.closed⟩⟩, rfl⟩

end Segmentation
end Template

open Template

/-- A text as it is written for drivers of the style: percent signs are doubled where they begin the
markers, and all else stays. -/
def MarkerStyle.escape (style : MarkerStyle) (text : List Char) : List Char :=
  match style with
  | .percent => doubled text
  | _ => text

namespace MarkerStyle

theorem flatMap_escaped (style : MarkerStyle) (text : List Char) :
    text.flatMap style.escaped = style.escape text := by
  cases style with
  | percent => rfl
  | question => simp [escape, escaped_of_single]
  | numbered => simp [escape, escaped_of_single]

theorem written_literal_append (style : MarkerStyle) (number : Nat) (text : List Char)
    (rest : List Token) :
    style.written number (text.map .literal ++ rest) =
      style.escape text ++ style.written number rest := by
  rw [written, written_append, written_literal, slots_literal, flatMap_escaped, Nat.add_zero]

theorem escape_append (style : MarkerStyle) (first second : List Char) :
    style.escape (first ++ second) = style.escape first ++ style.escape second := by
  simp only [← flatMap_escaped, List.flatMap_append]

theorem escape_of_noPercent (style : MarkerStyle) {text : List Char} (free : '%' ∉ text) :
    style.escape text = text := by
  induction text with
  | nil => cases style <;> rfl
  | cons c rest ih =>
    obtain ⟨other, later⟩ := not_or.mp (mt List.mem_cons.mpr free)
    have first := escaped_of_ne (fun same => other same.symm) style
    have cut : style.escape (c :: rest) = style.escaped c ++ style.escape rest := by
      simp only [← flatMap_escaped, List.flatMap_cons]
    rw [cut, first, ih later]
    rfl

/-- Doubling percent signs opens no placeholder. -/
theorem closed_escape (style : MarkerStyle) {gap : List Char} (closed : Closed gap) :
    Closed (style.escape gap) := by
  have literal := tokens_eq_literal_iff.mpr closed
  cases style with
  | percent =>
    apply tokens_eq_literal_iff.mp
    change tokens (doubled gap) = (doubled gap).map .literal
    rw [tokens_doubled, literal, List.flatMap_map, doubled, List.map_flatMap]
    rfl
  | question => exact closed
  | numbered => exact closed

theorem boundary_escape (style : MarkerStyle) {gap : List Char} (ends : Boundary gap) :
    Boundary (style.escape gap) := by
  cases gap with
  | nil => simpa [← flatMap_escaped] using ends
  | cons c rest =>
    rw [← flatMap_escaped, List.flatMap_cons]
    exact style.boundary_escaped (boundary_iff_singleton.mp ends) _

end MarkerStyle

namespace Template

theorem Segment.noPercent (s : Segment) : '%' ∉ ':' :: s.name := by
  simp [s.word.not_mem isWord_percent]

def Segment.escaped (style : MarkerStyle) (s : Segment) : Segment :=
  { s with
    gap := style.escape s.gap
    closed := style.closed_escape s.closed
    apart := style.boundary_escape s.apart }

/-- Names hold no percent sign, so that only gaps change where a text is escaped. -/
theorem text_escaped_segments (style : MarkerStyle) (segments : List Segment) :
    (segments.map (Segment.escaped style)).flatMap Segment.text =
      style.escape (segments.flatMap Segment.text) := by
  induction segments with
  | nil => simp [← MarkerStyle.flatMap_escaped]
  | cons segment rest ih =>
    have name := style.escape_of_noPercent segment.noPercent
    simp only [List.map_cons, List.flatMap_cons, ih, MarkerStyle.escape_append, Segment.text, name]
    rfl

/-- Where segments are written, each marker stands before the escaped gap of its segment. -/
theorem written_segments (style : MarkerStyle) (number : Nat) (segments : List Segment) :
    style.written number (segments.flatMap Segment.tokens) =
      Segment.filledFrom (fun number => (style.marker number).toList) number
        (segments.map (Segment.escaped style)) := by
  induction segments generalizing number with
  | nil => rfl
  | cons segment rest ih =>
    have gap : style.written (number + 1)
          (segment.gap.map .literal ++ rest.flatMap Segment.tokens) =
        style.escape segment.gap ++ style.written (number + 1) (rest.flatMap Segment.tokens) :=
      style.written_literal_append (number + 1) segment.gap _
    rw [ih] at gap
    have marked := congrArg ((style.marker number).toList ++ ·) gap
    rw [← List.append_assoc] at marked
    exact marked

namespace Segmentation

def escaped (style : MarkerStyle) (s : Segmentation) : Segmentation :=
  ⟨style.escape s.lead, s.segments.map (Segment.escaped style), style.closed_escape s.closed⟩

/-- The escaped text has the escaped gaps. -/
theorem text_escaped (style : MarkerStyle) (s : Segmentation) :
    (s.escaped style).text = style.escape s.text := by
  rw [text, text, MarkerStyle.escape_append, ← text_escaped_segments]
  rfl

theorem written_tokens (style : MarkerStyle) (s : Segmentation) :
    style.written 1 s.tokens =
      (s.escaped style).filled fun number => (style.marker number).toList := by
  rw [tokens, MarkerStyle.written_literal_append, written_segments]
  rfl

/-- The placeholders that scanning finds are those of the segments. -/
theorem names_tokens (s : Segmentation) :
    s.tokens.filterMap Token.name? = s.segments.map Segment.name := by
  have gap : ∀ text : List Char, (text.map Token.literal).filterMap Token.name? = [] := by
    simp [List.filterMap_eq_nil_iff, Token.name?]
  rw [tokens, List.filterMap_append, gap, List.nil_append]
  induction s.segments with
  | nil => rfl
  | cons segment rest ih =>
    rw [List.flatMap_cons, Segment.tokens, List.cons_append, List.filterMap_cons,
      List.filterMap_append, gap, ih]
    rfl

end Segmentation
end Template

/-- Every text is a gap and segments in just one way. There are as many segments as offsets at
which a colon stands directly before a word character, and their names are the placeholders of the
text. With percent signs doubled, where the style asks for it, the text has the same names between
doubled gaps, and rewriting puts the marker of its number in the place of each of them. -/
theorem texts_have_one_segmentation (text : String) :
    ∃ s : Segmentation,
      (∀ other : Segmentation, other.text = text.toList ↔ other = s) ∧
      s.segments.length = openings text.toList ∧
      placeholders text = s.segments.map (fun segment => String.ofList segment.name) ∧
      ∀ (d : Dialect) (style : MarkerStyle), d.styleName = style.name →
        (s.escaped style).text = style.escape text.toList ∧
        d.rewrite text = .ok (String.ofList
          ((s.escaped style).filled fun number => (style.marker number).toList)) := by
  obtain ⟨s, joined⟩ := Segmentation.exists_text_eq text.toList
  have found : tokens text.toList = s.tokens := joined ▸ s.tokens_text
  have names : (tokens text.toList).filterMap Token.name? = s.segments.map Segment.name :=
    found ▸ s.names_tokens
  refine ⟨s, ?_, ?_, ?_, ?_⟩
  · intro other
    constructor
    · intro same
      exact Segmentation.text_inj (same.trans joined.symm)
    · rintro rfl
      exact joined
  · rw [← slots_tokens, slots, names, List.length_map]
  · rw [placeholders, names, List.map_map]
    rfl
  · intro d style named
    constructor
    · rw [← joined, s.text_escaped]
    · rw [Dialect.rewrite_of_style (Dialect.style?_of_styleName named), found, s.written_tokens]

/-- Where colons crowd, a placeholder opens at the last one before its name, and a gap may be
empty. -/
theorem crowded_colons_have_one_segmentation :
    ∃ s : Segmentation, String.ofList s.lead = "x:" ∧
      s.segments.map (fun segment => (String.ofList segment.name, String.ofList segment.gap)) =
        [("a", "%"), ("b", ""), ("c", ":")] ∧
      (∀ other : Segmentation, other.text = "x::a%:b:c:".toList ↔ other = s) ∧
      openings "x::a%:b:c:".toList = 3 ∧ placeholders "x::a%:b:c:" = ["a", "b", "c"] ∧
      (Dialect.ofFamily .postgres).styleName = MarkerStyle.percent.name ∧
      (s.escaped .percent).text = "x::a%%:b:c:".toList ∧
      (Dialect.ofFamily .postgres).rewrite "x::a%:b:c:" = .ok "x:%s%%%s%s:" := by
  have closed : ∀ gap ∈ [[], [':'], ['%'], ['x', ':']], Closed gap := by
    simp only [List.forall_mem_cons, ← tokens_eq_literal_iff]
    decide +kernel
  have word : ∀ c, Text.isWord c = true → AllWord [c] := by simp [AllWord]
  let expected : Segmentation :=
    ⟨['x', ':'],
      [⟨['a'], ['%'], by decide, word 'a' (by decide), closed _ (by simp),
          boundary_cons (by decide) _⟩,
        ⟨['b'], [], by decide, word 'b' (by decide), closed _ (by simp), boundary_nil⟩,
        ⟨['c'], [':'], by decide, word 'c' (by decide), closed _ (by simp),
          boundary_cons (by decide) _⟩],
      closed _ (by simp)⟩
  obtain ⟨s, only, count, names, rewriting⟩ := texts_have_one_segmentation "x::a%:b:c:"
  obtain rfl : expected = s := (only expected).mp rfl
  obtain ⟨doubled, rewritten⟩ := rewriting (.ofFamily .postgres) .percent rfl
  refine ⟨expected, rfl, rfl, only, count.symm, names, rfl, ?_, ?_⟩
  · rw [doubled]
    decide +kernel
  · rw [rewritten]
    rfl

end SqlTemplate
