import SqlTemplate.Template.Placeholder

/-!
# Conditional blocks

A block is written `[key | fragment]`. The key is a run of word characters, one space stands on
either side of the bar, and the fragment is not empty, contains no line break, and ends at the
first closing bracket after its first character. So a fragment may begin with a closing bracket,
and an opening bracket inside it has no meaning. Text that does not have this form is no error: it
stays as it is. `pieces` cuts a template once, from left to right, into blocks and the single
characters between them.
-/

namespace SqlTemplate.Template

structure Block where
  key : List Char
  fragment : List Char
  deriving DecidableEq, Repr

namespace Block

/-- What stands between key and fragment. -/
def separator : List Char := [' ', '|', ' ']

def text (b : Block) : List Char :=
  '[' :: b.key ++ separator ++ b.fragment ++ [']']

/-- The length of a fragment at the start of a text: its first character, and all others up to a
closing bracket that stands before any line break. -/
def fragmentLength? : List Char → Option Nat
  | [] => none
  | '\n' :: _ => none
  | _ :: rest =>
    let inner := rest.takeWhile fun c => c != ']' && c != '\n'
    if rest[inner.length]? = some ']' then some (inner.length + 1) else none

/-- The block that the text begins with, if it begins with one. -/
def atStart? : List Char → Option Block
  | '[' :: rest =>
    let key := leadingWord rest
    let tail := afterWord rest
    if key ≠ [] ∧ separator <+: tail then
      (fragmentLength? (tail.drop 3)).map fun n => ⟨key, (tail.drop 3).take n⟩
    else none
  | _ => none

theorem take_fragmentLength? {text : List Char} {n : Nat} (h : fragmentLength? text = some n) :
    text.take n ++ ']' :: text.drop (n + 1) = text ∧ (text.take n).length = n := by
  unfold fragmentLength? at h
  split at h
  · cases h
  · cases h
  · next first rest _ =>
    simp only [Option.ite_none_right_eq_some, Option.some.injEq] at h
    obtain ⟨closed, rfl⟩ := h
    generalize (rest.takeWhile fun c => c != ']' && c != '\n').length = k at closed
    obtain ⟨inside, found⟩ := List.getElem?_eq_some_iff.mp closed
    have cut : rest.take k ++ ']' :: rest.drop (k + 1) = rest := by
      rw [← found, List.getElem_cons_drop, List.take_append_drop]
    constructor
    · simpa using cut
    · simp only [List.length_take, List.length_cons]
      omega

/-- A block found at the start of a text is what the text begins with. -/
theorem text_append_of_atStart? {text : List Char} {b : Block} (h : atStart? text = some b) :
    b.text ++ text.drop b.text.length = text := by
  suffices begins : b.text <+: text by
    obtain ⟨rest, rfl⟩ := begins
    simp
  unfold atStart? at h
  split at h
  · next rest =>
    simp only [Option.ite_none_right_eq_some, Option.map_eq_some_iff] at h
    obtain ⟨⟨_, bar⟩, n, found, rfl⟩ := h
    have fragment := (take_fragmentLength? found).1
    obtain ⟨after, tail⟩ := bar
    have dropped : (afterWord rest).drop 3 = after := by
      rw [← tail]
      rfl
    rw [dropped] at fragment ⊢
    refine ⟨after.drop (n + 1), ?_⟩
    simp only [Block.text, List.cons_append, List.append_assoc, List.nil_append, fragment, tail]
    rw [leadingWord_append_afterWord]
  · cases h

end Block

/-- A piece of a template: a character that stands for itself, or a block. -/
inductive Piece where
  | literal (c : Char)
  | block (b : Block)
  deriving DecidableEq, Repr

def Piece.text : Piece → List Char
  | .literal c => [c]
  | .block b => b.text

/-- Cuts a template into blocks and single characters. -/
def pieces : List Char → List Piece
  | [] => []
  | c :: rest =>
    match Block.atStart? (c :: rest) with
    | some b => .block b :: pieces (rest.drop (b.text.length - 1))
    | none => .literal c :: pieces rest
  termination_by text => text.length
  decreasing_by
    · simp only [List.length_drop, List.length_cons]
      omega
    · simp

/-- The pieces of a template, put together, are the template. -/
theorem flatMap_text_pieces (text : List Char) : (pieces text).flatMap Piece.text = text := by
  fun_induction pieces text with
  | case1 => rfl
  | case2 c rest b found ih =>
    have whole := Block.text_append_of_atStart? found
    have long : b.text.length = b.text.length - 1 + 1 := by simp [Block.text]
    rw [long, List.drop_succ_cons] at whole
    simpa [List.flatMap_cons, ih, Piece.text] using whole
  | case3 c rest _ ih => simp [List.flatMap_cons, ih, Piece.text]

/-- A block with the offsets, in characters, at which its text starts and ends. -/
structure PlacedBlock where
  key : String
  fragment : String
  start : Nat
  stop : Nat
  deriving DecidableEq, Repr

/-- The blocks among pieces of which the first starts at `offset`. -/
def placeBlocks (offset : Nat) : List Piece → List PlacedBlock
  | [] => []
  | .literal _ :: rest => placeBlocks (offset + 1) rest
  | .block b :: rest =>
    let stop := offset + b.text.length
    ⟨String.ofList b.key, String.ofList b.fragment, offset, stop⟩ :: placeBlocks stop rest

def blocks (template : String) : List PlacedBlock :=
  placeBlocks 0 (pieces template.toList)

example : (blocks "[k | :[]j | y] [[k | x]]").map (fun b => (b.key, b.fragment, b.start, b.stop)) =
    [("k", ":[", 0, 8), ("k", "x", 16, 23)] := by decide +kernel

end SqlTemplate.Template
