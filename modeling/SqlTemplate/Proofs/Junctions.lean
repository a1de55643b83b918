import SqlTemplate.Proofs.Scanning

/-!
# Where texts are put together

The placeholders of two texts put together are those of either, unless a name goes across the
junction: the first text ends in a colon and word characters, if any, and the second begins with a
word character. Then the name grows by what the second text begins with, so more characters stand in
names than before. Since joining never takes a character out of a name, the placeholders of many
parts are those of the whole just if no name goes across any of the junctions.
-/

namespace SqlTemplate.Template

def names (text : List Char) : List (List Char) := (tokens text).filterMap Token.name?

def letters (text : List Char) : List Char := (names text).flatten

def AllWord (text : List Char) : Prop := ∀ c ∈ text, Text.isWord c = true

/-- The text ends in a colon and word characters, if any: a name goes on, or can begin. -/
def OpenEnded (text : List Char) : Prop :=
  ∃ before word, text = before ++ ':' :: word ∧ AllWord word

def BeginsWord (text : List Char) : Prop := ∃ c rest, text = c :: rest ∧ Text.isWord c = true

/-- A name goes across from one text into the other. -/
def Glues (first second : List Char) : Prop := OpenEnded first ∧ BeginsWord second

theorem isWord_colon : Text.isWord ':' = false := by decide

theorem allWord_leadingWord (text : List Char) : AllWord (leadingWord text) :=
  List.all_eq_true.mp List.all_takeWhile

theorem AllWord.not_mem {word : List Char} (all : AllWord word) {c : Char}
    (other : Text.isWord c = false) : c ∉ word := by
  intro member
  have isWord := all c member
  rw [other] at isWord
  cases isWord

theorem AllWord.noColon {word : List Char} (all : AllWord word) : ':' ∉ word :=
  all.not_mem isWord_colon

/-- Nothing goes across to a text that continues no name. -/
theorem not_glues_of_boundary {second : List Char} (ends : Boundary second) (first : List Char) :
    ¬ Glues first second := by
  rintro ⟨_, c, rest, rfl, word⟩
  have other : Text.isWord c = false := ends c rfl
  rw [word] at other
  cases other

theorem boundary_of_not_beginsWord {text : List Char} (ends : ¬ BeginsWord text) :
    Boundary text := by
  cases text with
  | nil => simp [Boundary]
  | cons c rest =>
    refine boundary_cons (Bool.eq_false_iff.mpr fun word => ?_) rest
    exact ends ⟨c, rest, rfl, word⟩

/-- A text is all word characters, or it has a last other character. -/
theorem allWord_or_last_other (text : List Char) :
    AllWord text ∨ ∃ before c word, text = before ++ c :: word ∧ Text.isWord c = false ∧
      AllWord word := by
  induction text with
  | nil => exact .inl (by simp [AllWord])
  | cons c rest ih =>
    rcases ih with all | ⟨before, d, word, rfl, other, all⟩
    · by_cases word : Text.isWord c = true
      · exact .inl (List.forall_mem_cons.mpr ⟨word, all⟩)
      · exact .inr ⟨[], c, rest, rfl, by simpa using word, all⟩
    · exact .inr ⟨c :: before, d, word, rfl, other, all⟩

theorem tokens_append_of_noColon {first : List Char} (noColon : ':' ∉ first)
    (second : List Char) : tokens (first ++ second) = tokens first ++ tokens second := by
  rw [tokens_plain_append noColon, tokens_plain noColon]

/-- Texts that no name goes across are scanned one after the other. -/
theorem tokens_append_of_not_glues {first second : List Char} (apart : ¬ Glues first second) :
    tokens (first ++ second) = tokens first ++ tokens second := by
  by_cases begins : BeginsWord second
  · have closed : ¬ OpenEnded first := fun opened => apart ⟨opened, begins⟩
    rcases allWord_or_last_other first with all | ⟨before, c, word, rfl, other, all⟩
    · exact tokens_append_of_noColon all.noColon second
    · have noColon : ':' ∉ c :: word := by
        rintro (_ | ⟨_, member⟩)
        · exact closed ⟨before, word, rfl, all⟩
        · exact all.noColon member
      have whole := tokens_append (boundary_cons other (word ++ second)) before
      have tail := tokens_append_of_noColon noColon second
      rw [List.cons_append] at tail
      rw [tokens_append (boundary_cons other word), List.append_assoc, List.append_assoc, ← tail]
      exact whole
  · exact tokens_append (boundary_of_not_beginsWord begins) first

theorem names_append_of_not_glues {first second : List Char} (apart : ¬ Glues first second) :
    names (first ++ second) = names first ++ names second := by
  simp only [names, tokens_append_of_not_glues apart, List.filterMap_append]

theorem names_append_of_boundary {second : List Char} (ends : Boundary second)
    (first : List Char) : names (first ++ second) = names first ++ names second :=
  names_append_of_not_glues (not_glues_of_boundary ends first)

theorem names_of_noColon {plain : List Char} (noColon : ':' ∉ plain) : names plain = [] := by
  simp [names, tokens_plain noColon, Token.name?]

theorem names_noColon_append {plain : List Char} (noColon : ':' ∉ plain) (rest : List Char) :
    names (plain ++ rest) = names rest := by
  have none_ : (tokens plain).filterMap Token.name? = [] := names_of_noColon noColon
  simp [names, tokens_append_of_noColon noColon, none_]

/-- The word that a text begins with is in no name of its own. -/
theorem letters_afterWord (text : List Char) : letters (afterWord text) = letters text := by
  have noColon := (allWord_leadingWord text).noColon
  have whole := names_noColon_append noColon (afterWord text)
  rw [leadingWord_append_afterWord] at whole
  simp only [letters, whole]

/-- After a colon the word that a text begins with is a name. -/
theorem letters_colon (text : List Char) :
    letters (':' :: text) = leadingWord text ++ letters text := by
  rw [← letters_afterWord text]
  by_cases named : leadingWord text = []
  · have rest : afterWord text = text := by
      have whole := leadingWord_append_afterWord text
      rwa [named] at whole
    have literal : tokens (':' :: text) = .literal ':' :: tokens text := by simp [tokens, named]
    rw [rest, named, letters, letters, names, literal]
    rfl
  · simp [letters, names, tokens, named, Token.name?]

theorem leadingWord_allWord_append {word : List Char} (all : AllWord word) (rest : List Char) :
    leadingWord (word ++ rest) = word ++ leadingWord rest :=
  List.takeWhile_append_of_pos all

theorem letters_append_colon (before rest : List Char) :
    letters (before ++ ':' :: rest) = letters before ++ leadingWord rest ++ letters rest := by
  have cut := tokens_append (boundary_cons isWord_colon rest) before
  simp only [letters, names, cut, List.filterMap_append, List.flatten_append, List.append_assoc]
  exact congrArg (_ ++ ·) (letters_colon rest)

/-- A name that goes across a junction grows there. -/
theorem length_letters_of_glues {first second : List Char} (glued : Glues first second) :
    (letters first).length + (letters second).length < (letters (first ++ second)).length := by
  obtain ⟨⟨before, word, rfl, all⟩, c, rest, rfl, isWord⟩ := glued
  have alone : letters word = [] := by simp [letters, names_of_noColon all.noColon]
  have behind : letters (word ++ c :: rest) = letters (c :: rest) := by
    simp only [letters, names_noColon_append all.noColon]
  have whole : leadingWord word = word := by
    have taken := leadingWord_allWord_append all []
    simpa [leadingWord] using taken
  have grown : 0 < (leadingWord (c :: rest)).length := by
    simp [leadingWord, isWord]
  rw [List.append_assoc, List.cons_append, letters_append_colon, letters_append_colon, alone,
    behind, whole, leadingWord_allWord_append all]
  simp only [List.length_append, List.length_nil]
  omega

theorem length_letters_append (first second : List Char) :
    (letters first).length + (letters second).length ≤ (letters (first ++ second)).length := by
  by_cases glued : Glues first second
  · exact Nat.le_of_lt (length_letters_of_glues glued)
  · simp [letters, names_append_of_not_glues glued]

def Seamless (parts : List (List Char)) : Prop :=
  ∀ before first second after, parts = before ++ first :: second :: after → ¬ Glues first second

theorem seamless_singleton (part : List Char) : Seamless [part] := by
  rintro (_ | ⟨_, before⟩) first second after split <;> simp at split

theorem seamless_cons_cons {first second : List Char} {rest : List (List Char)} :
    Seamless (first :: second :: rest) ↔ ¬ Glues first second ∧ Seamless (second :: rest) := by
  constructor
  · intro seamless
    refine ⟨seamless [] first second rest rfl, ?_⟩
    rintro before p q after split
    exact seamless (first :: before) p q after (by rw [split, List.cons_append])
  · rintro ⟨apart, seamless⟩ before p q after split
    cases before with
    | nil =>
      obtain ⟨rfl, rfl, _⟩ : first = p ∧ second = q ∧ rest = after := by simpa using split
      exact apart
    | cons head before => exact seamless before p q after (List.cons.inj split).2

/-- Joining parts takes no character out of a name. -/
theorem length_letters_flatten (parts : List (List Char)) :
    (parts.flatMap names).flatten.length ≤ (letters parts.flatten).length := by
  induction parts with
  | nil => simp
  | cons part rest ih =>
    have joined := length_letters_append part rest.flatten
    simp only [letters] at joined ih ⊢
    simp only [List.flatMap_cons, List.flatten_cons, List.flatten_append, List.length_append]
    omega

/-- The names in the whole are those in its parts, one part after the other, just if no name goes
across from a part into the next. No part is empty, since names go across empty parts. -/
theorem names_flatten_iff {parts : List (List Char)} (filled : ∀ part ∈ parts, part ≠ []) :
    names parts.flatten = parts.flatMap names ↔ Seamless parts := by
  induction parts with
  | nil => simp [names, tokens, Seamless]
  | cons first rest ih =>
    cases rest with
    | nil => simp [seamless_singleton]
    | cons second rest =>
      have later := ih fun part member => filled part (List.mem_cons_of_mem first member)
      have head : BeginsWord (second :: rest).flatten ↔ BeginsWord second := by
        obtain ⟨c, more, rfl⟩ := List.exists_cons_of_ne_nil (filled second (by simp))
        simp [BeginsWord]
      rw [seamless_cons_cons, ← later, List.flatten_cons, List.flatMap_cons]
      constructor
      · intro same
        have apart : ¬ Glues first second := by
          rintro ⟨opened, begins⟩
          have more := length_letters_of_glues ⟨opened, head.mpr begins⟩
          have least := length_letters_flatten (second :: rest)
          have count := congrArg (fun all => all.flatten.length) same
          simp only [List.flatten_append, List.length_append] at count
          simp only [letters] at more least
          omega
        have cut : names (first ++ (second :: rest).flatten) =
            names first ++ names (second :: rest).flatten :=
          names_append_of_not_glues fun glued => apart ⟨glued.1, head.mp glued.2⟩
        exact ⟨apart, List.append_cancel_left (cut.symm.trans same)⟩
      · rintro ⟨apart, same⟩
        rw [names_append_of_not_glues fun glued => apart ⟨glued.1, head.mp glued.2⟩, same]

end SqlTemplate.Template
