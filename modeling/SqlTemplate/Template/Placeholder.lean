import SqlTemplate.Text.Word

/-!
# Placeholders

A placeholder is a colon directly followed by a word character, and its name is the longest run
of word characters from there. `tokens` cuts a text once, from left to right, into placeholders
and the single characters between them; the names in a text, their number and every rewriting of
it are read off this one cut. A cast written with two colons contains a placeholder as well.
-/

namespace SqlTemplate.Template

/-- A piece of text: a character that stands for itself, or a placeholder with its name. -/
inductive Token where
  | literal (c : Char)
  | placeholder (name : List Char)
  deriving DecidableEq, Repr

namespace Token

def text : Token → List Char
  | .literal c => [c]
  | .placeholder name => ':' :: name

def name? : Token → Option (List Char)
  | .literal _ => none
  | .placeholder name => some name

end Token

def leadingWord (text : List Char) : List Char := text.takeWhile Text.isWord

def afterWord (text : List Char) : List Char := text.dropWhile Text.isWord

theorem leadingWord_append_afterWord (text : List Char) :
    leadingWord text ++ afterWord text = text := List.takeWhile_append_dropWhile

theorem length_afterWord_le (text : List Char) : (afterWord text).length ≤ text.length :=
  (List.dropWhile_suffix _).length_le

/-- Cuts a text into placeholders and single characters. -/
def tokens : List Char → List Token
  | [] => []
  | c :: rest =>
    if c = ':' ∧ leadingWord rest ≠ [] then
      .placeholder (leadingWord rest) :: tokens (afterWord rest)
    else .literal c :: tokens rest
  termination_by text => text.length
  decreasing_by
    · have := length_afterWord_le rest
      simp only [List.length_cons]
      omega
    · simp

/-- The tokens of a text, put together, are the text. -/
theorem flatMap_text_tokens (text : List Char) : (tokens text).flatMap Token.text = text := by
  fun_induction tokens text with
  | case1 => rfl
  | case2 c rest found ih =>
    simp only [List.flatMap_cons, ih, Token.text, List.cons_append, leadingWord_append_afterWord]
    rw [found.1]
  | case3 c rest _ ih => simp [List.flatMap_cons, ih, Token.text]

/-- The names of the placeholders in a text, in order, repetitions kept. -/
def placeholders (text : String) : List String :=
  ((tokens text.toList).filterMap Token.name?).map String.ofList

example : placeholders "a::text = :b, :b:c :" = ["text", "b", "b", "c"] := by decide +kernel

end SqlTemplate.Template
