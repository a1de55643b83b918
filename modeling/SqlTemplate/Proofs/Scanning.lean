import SqlTemplate.Dialect.Basic

/-!
# Scanning and writing texts in parts

A name ends before the first character that is no word character. So a text may be cut before such
a character, and its parts are scanned as the whole is. A text without colons has no placeholders
wherever it stands. Tokens are written for a driver with a literal form for each character and a
marker for each placeholder, counted on from one part into the next.
-/

namespace SqlTemplate

namespace Template

/-- No name goes on into the text: it is empty or begins with no word character. -/
def Boundary (text : List Char) : Prop := ∀ c ∈ text.head?, Text.isWord c = false

theorem boundary_cons {c : Char} (apart : Text.isWord c = false) (rest : List Char) :
    Boundary (c :: rest) := by
  intro other head
  rw [List.head?_cons, Option.mem_some_iff] at head
  exact head ▸ apart

theorem leadingWord_of_boundary {rest : List Char} (ends : Boundary rest) :
    leadingWord rest = [] := by
  cases rest with
  | nil => rfl
  | cons c rest =>
    have apart : Text.isWord c = false := ends c rfl
    rw [leadingWord, List.takeWhile_cons, apart]
    rfl

theorem afterWord_of_boundary {rest : List Char} (ends : Boundary rest) :
    afterWord rest = rest := by
  have whole := leadingWord_append_afterWord rest
  rw [leadingWord_of_boundary ends] at whole
  exact whole

section Cut

variable {rest : List Char} (ends : Boundary rest)

include ends

/-- A boundary is not seen by the name before it. -/
theorem leadingWord_append (text : List Char) : leadingWord (text ++ rest) = leadingWord text := by
  induction text with
  | nil => exact leadingWord_of_boundary ends
  | cons c text ih =>
    rw [List.cons_append, leadingWord, leadingWord, List.takeWhile_cons, List.takeWhile_cons]
    split
    · exact congrArg (c :: ·) ih
    · rfl

theorem afterWord_append (text : List Char) :
    afterWord (text ++ rest) = afterWord text ++ rest := by
  have whole := leadingWord_append_afterWord (text ++ rest)
  have part := leadingWord_append_afterWord text
  have same : leadingWord text ++ afterWord (text ++ rest) =
      leadingWord text ++ (afterWord text ++ rest) := by
    rw [← leadingWord_append ends text, whole, ← List.append_assoc, leadingWord_append ends, part]
  exact List.append_cancel_left same

/-- A text is scanned in two parts as it is scanned whole, if no name goes across the cut. -/
theorem tokens_append (text : List Char) : tokens (text ++ rest) = tokens text ++ tokens rest := by
  fun_induction tokens text with
  | case1 => rfl
  | case2 c text found ih =>
    have whole : c = ':' ∧ leadingWord (text ++ rest) ≠ [] := by
      rw [leadingWord_append ends]
      exact found
    rw [List.cons_append, tokens, if_pos whole, leadingWord_append ends, afterWord_append ends, ih]
    rfl
  | case3 c text other ih =>
    have whole : ¬ (c = ':' ∧ leadingWord (text ++ rest) ≠ []) := by
      rw [leadingWord_append ends]
      exact other
    rw [List.cons_append, tokens, if_neg whole, ih]
    rfl

end Cut

/-- What holds no colon is literal, whatever follows it. -/
theorem tokens_plain_append {plain : List Char} (noColon : ':' ∉ plain) (rest : List Char) :
    tokens (plain ++ rest) = plain.map .literal ++ tokens rest := by
  induction plain with
  | nil => rfl
  | cons c plain ih =>
    rw [List.mem_cons, not_or] at noColon
    have other : ¬ (c = ':' ∧ leadingWord (plain ++ rest) ≠ []) :=
      fun found => noColon.1 found.1.symm
    rw [List.cons_append, tokens, if_neg other, ih noColon.2]
    rfl

theorem tokens_plain {plain : List Char} (noColon : ':' ∉ plain) :
    tokens plain = plain.map .literal := by
  have alone := tokens_plain_append noColon []
  rw [List.append_nil, tokens, List.append_nil] at alone
  exact alone

/-- A colon and a name are one placeholder. -/
theorem tokens_placeholder {name : List Char} (some_ : name ≠ [])
    (word : ∀ c ∈ name, Text.isWord c = true) : tokens (':' :: name) = [.placeholder name] := by
  have all : leadingWord name = name := by
    have taken : leadingWord (name ++ []) = name ++ [] := List.takeWhile_append_of_pos word
    rw [List.append_nil] at taken
    exact taken
  have none_ : afterWord name = [] := by
    have whole := leadingWord_append_afterWord name
    rw [all] at whole
    exact List.append_cancel_left (whole.trans (List.append_nil name).symm)
  rw [tokens, all, none_, if_pos ⟨rfl, some_⟩, tokens]

def slots (tokens : List Token) : Nat := (tokens.filterMap Token.name?).length

theorem slots_literal (text : List Char) : slots (text.map .literal) = 0 := by
  induction text with
  | nil => rfl
  | cons c text ih => exact ih

/-- Tokens written out: each character in its literal form, each placeholder as the marker of its
position, of which the first is given. -/
def written (literal : Char → List Char) (marker : Nat → List Char) : Nat → List Token → List Char
  | _, [] => []
  | position, .literal c :: rest => literal c ++ written literal marker position rest
  | position, .placeholder _ :: rest =>
    marker position ++ written literal marker (position + 1) rest

section Written

variable (literal : Char → List Char) (marker : Nat → List Char)

theorem written_append (position : Nat) (first second : List Token) :
    written literal marker position (first ++ second) =
      written literal marker position first ++
        written literal marker (position + slots first) second := by
  induction first generalizing position with
  | nil => rfl
  | cons token rest ih =>
    cases token with
    | literal c =>
      have count : slots (.literal c :: rest) = slots rest := rfl
      rw [List.cons_append, written, written, ih, count, List.append_assoc]
    | placeholder name =>
      have count : slots (.placeholder name :: rest) = slots rest + 1 := rfl
      have shift : position + 1 + slots rest = position + (slots rest + 1) := by omega
      rw [List.cons_append, written, written, ih, count, shift, List.append_assoc]

theorem written_literal (position : Nat) (text : List Char) :
    written literal marker position (text.map .literal) = text.flatMap literal := by
  induction text with
  | nil => rfl
  | cons c text ih => exact congrArg (literal c ++ ·) ih

end Written
end Template

namespace MarkerStyle

theorem ofName?_name (style : MarkerStyle) : ofName? style.name = some style := by
  cases style <;> rfl

def escaped (style : MarkerStyle) (c : Char) : List Char :=
  if c = '%' ∧ style = .percent then ['%', '%'] else [c]

theorem escaped_of_ne {c : Char} (other : c ≠ '%') (style : MarkerStyle) :
    style.escaped c = [c] := by
  have plain : ¬ (c = '%' ∧ style = .percent) := fun both => other both.1
  rw [escaped, if_neg plain]

theorem escaped_of_single {style : MarkerStyle} (single : style ≠ .percent) :
    style.escaped = fun c => [c] := by
  funext c
  rw [escaped, if_neg fun doubled => single doubled.2]

def written (style : MarkerStyle) : Nat → List Template.Token → List Char :=
  Template.written style.escaped fun position => (style.marker position).toList

end MarkerStyle

namespace Dialect

/-- A dialect has the style that it names. -/
theorem style?_of_styleName {d : Dialect} {style : MarkerStyle} (named : d.styleName = style.name) :
    d.style? = some style := by
  rw [style?, named, MarkerStyle.ofName?_name]

variable {d : Dialect} {style : MarkerStyle} (styled : d.style? = some style)

include styled

theorem rewriteTokens_of_style (position : Nat) (tokens : List Template.Token) :
    d.rewriteTokens position tokens = .ok (style.written position tokens) := by
  induction tokens generalizing position with
  | nil => rfl
  | cons token rest ih =>
    cases token with
    | literal c =>
      have form : d.literal c = style.escaped c := by
        simp only [literal, MarkerStyle.escaped, styled, Option.some.injEq]
      rw [rewriteTokens, ih, form]
      rfl
    | placeholder name =>
      have mark : d.marker position = .ok (style.marker position) := by rw [marker, styled]
      rw [rewriteTokens, ih, mark]
      rfl

/-- A dialect of a known style rewrites every text: it writes the tokens of the text. -/
theorem rewrite_of_style (sql : String) :
    d.rewrite sql = .ok (String.ofList (style.written 1 (Template.tokens sql.toList))) := by
  rw [rewrite, rewriteTokens_of_style styled]
  rfl

end Dialect
end SqlTemplate
