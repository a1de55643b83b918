import SqlTemplate.Proofs.BlockListing

/-!
# Templates line by line

A block stands on one line, since neither its key nor its fragment holds a line break, and a line
break ends every name. So what begins at some place of a template is settled by the rest of its
line. Two lines are cut, listed, rendered and scanned as each of them is alone, whatever brackets
or colons the first of them leaves open, and by induction so is a template of any number of lines.
-/

namespace SqlTemplate.Template

theorem isWord_lineBreak : Text.isWord '\n' = false := by decide

/-- The text of a block has no line break. -/
theorem Block.IsFormed.oneLine {b : Block} (formed : b.IsFormed) : '\n' ∉ b.text := by
  have key : '\n' ∉ b.key := formed.keyWord.not_mem isWord_lineBreak
  have separator : '\n' ∉ Block.separator := by decide
  simp [Block.text, key, separator, formed.fragment.oneLine]

/-- A text without a character does not reach beyond the first place of that character. -/
theorem prefix_append_cons_iff {c : Char} {part : List Char} (free : c ∉ part)
    (text rest : List Char) : part <+: text ++ c :: rest ↔ part <+: text := by
  constructor
  · intro begins
    rcases List.prefix_or_prefix_of_prefix begins (List.prefix_append text (c :: rest)) with
      inside | ⟨more, rfl⟩
    · exact inside
    · have later : more <+: c :: rest := (List.prefix_append_right_inj text).mp begins
      cases more with
      | nil => exact (List.append_nil text).symm ▸ List.prefix_refl text
      | cons d more =>
        obtain ⟨rfl, _⟩ := List.cons_prefix_cons.mp later
        simp at free
  · intro begins
    exact begins.trans (List.prefix_append text _)

/-- Whether a block begins somewhere does not depend on what follows the line. -/
theorem Block.atStart?_append_line (text rest : List Char) :
    atStart? (text ++ '\n' :: rest) = atStart? text := by
  refine Option.ext fun b => ?_
  rw [atStart?_eq_some_iff, atStart?_eq_some_iff]
  exact and_congr_right fun formed => prefix_append_cons_iff formed.oneLine text rest

theorem pieces_line (rest : List Char) : pieces ('\n' :: rest) = .literal '\n' :: pieces rest := by
  have none_ : Block.atStart? ('\n' :: rest) = none := Block.atStart?_append_line [] rest
  rw [pieces, none_]

/-- Two lines are cut into the pieces of the first, the line break and the pieces of the second. -/
theorem pieces_append_line (first second : List Char) :
    pieces (first ++ '\n' :: second) = pieces first ++ .literal '\n' :: pieces second := by
  fun_induction pieces first with
  | case1 => exact pieces_line second
  | case2 c rest b found ih =>
    have whole : Block.atStart? (c :: (rest ++ '\n' :: second)) = some b :=
      (Block.atStart?_append_line (c :: rest) second).trans found
    -- The block ends on its line, so the rest of that line is what it is without the second one.
    have inside : b.text.length - 1 ≤ rest.length := by
      have := (Block.atStart?_eq_some_iff.mp found).2.length_le
      simp only [List.length_cons] at this
      omega
    rw [List.cons_append, pieces, whole]
    simp only [List.drop_append_of_le_length inside, ih, List.cons_append]
  | case3 c rest absent ih =>
    have whole : Block.atStart? (c :: (rest ++ '\n' :: second)) = none :=
      (Block.atStart?_append_line (c :: rest) second).trans absent
    rw [List.cons_append, pieces, whole]
    simp only [ih, List.cons_append]

theorem tokens_append_line (first second : List Char) :
    tokens (first ++ '\n' :: second) = tokens first ++ .literal '\n' :: tokens second := by
  have literal : tokens ('\n' :: second) = .literal '\n' :: tokens second :=
    tokens_plain_append (by decide : ':' ∉ ['\n']) second
  rw [tokens_append (boundary_cons isWord_lineBreak second), literal]

def PlacedBlock.shifted (offset : Nat) (b : PlacedBlock) : PlacedBlock :=
  { b with start := b.start + offset, stop := b.stop + offset }

theorem placeBlocks_add (offset further : Nat) (found : List Piece) :
    placeBlocks (offset + further) found =
      (placeBlocks offset found).map (PlacedBlock.shifted further) := by
  induction found generalizing offset with
  | nil => rfl
  | cons piece rest ih =>
    cases piece with
    | literal c =>
      rw [placeBlocks, placeBlocks, ← ih, Nat.add_right_comm]
    | block b =>
      have stop : offset + further + b.text.length = offset + b.text.length + further := by omega
      simp only [placeBlocks, List.map_cons, PlacedBlock.shifted, stop, ih]

theorem placeBlocks_append (offset : Nat) (first second : List Piece) :
    placeBlocks offset (first ++ second) =
      placeBlocks offset first ++
        placeBlocks (offset + (first.flatMap Piece.text).length) second := by
  induction first generalizing offset with
  | nil => rfl
  | cons piece rest ih =>
    rw [List.flatMap_cons, List.length_append, ← Nat.add_assoc]
    cases piece with
    | literal c => exact ih (offset + 1)
    | block b => exact congrArg (_ :: ·) (ih (offset + b.text.length))

theorem toList_append_line (first second : String) :
    (first ++ "\n" ++ second).toList = first.toList ++ '\n' :: second.toList := by
  simp

theorem blocks_append_line (first second : String) :
    blocks (first ++ "\n" ++ second) =
      blocks first ++ (blocks second).map (PlacedBlock.shifted (first.length + 1)) := by
  have stop : 0 + ((pieces first.toList).flatMap Piece.text).length = 0 + first.length := by
    rw [flatMap_text_pieces, String.length_toList]
  rw [blocks, toList_append_line, pieces_append_line, placeBlocks_append, stop, placeBlocks,
    Nat.add_assoc, placeBlocks_add]
  rfl

theorem render_append_line (first second : String) (params : NamedValues) :
    render (first ++ "\n" ++ second) params =
      render first params ++ "\n" ++ render second params := by
  apply String.toList_inj.mp
  rw [toList_append_line]
  simp only [render, toList_append_line, pieces_append_line, String.toList_ofList,
    List.flatMap_append, List.flatMap_cons]
  rfl

theorem placeholders_append_line (first second : String) :
    placeholders (first ++ "\n" ++ second) = placeholders first ++ placeholders second := by
  simp only [placeholders, toList_append_line, tokens_append_line, List.filterMap_append,
    List.map_append]
  rfl

theorem render_empty (params : NamedValues) : render "" params = "" := by
  simp [render, pieces]

theorem placeholders_empty : placeholders "" = [] := by
  simp [placeholders, tokens]

theorem render_lines (lines : List String) (params : NamedValues) :
    render ("\n".intercalate lines) params = "\n".intercalate (lines.map (render · params)) := by
  induction lines with
  | nil => exact render_empty params
  | cons line rest ih =>
    cases rest with
    | nil => simp
    | cons next rest =>
      rw [String.intercalate_cons_cons, render_append_line, ih]
      simp only [List.map_cons, String.intercalate_cons_cons]

theorem placeholders_lines (lines : List String) :
    placeholders ("\n".intercalate lines) = lines.flatMap placeholders := by
  induction lines with
  | nil => exact placeholders_empty
  | cons line rest ih =>
    cases rest with
    | nil => simp
    | cons next rest =>
      rw [String.intercalate_cons_cons, placeholders_append_line, ih]
      exact List.flatMap_cons.symm

end Template

/-- Templates are read line by line. Two lines have the blocks of the first and those of the second,
moved by the length of the first and its line break; they are rendered and scanned one after the
other. So are the lines of any template, and what one of them leaves open changes no other. -/
theorem templates_are_line_local (first second : String) (params : NamedValues)
    (lines : List String) :
    Template.blocks (first ++ "\n" ++ second) =
        Template.blocks first ++
          (Template.blocks second).map (Template.PlacedBlock.shifted (first.length + 1)) ∧
      Template.render (first ++ "\n" ++ second) params =
        Template.render first params ++ "\n" ++ Template.render second params ∧
      Template.placeholders (first ++ "\n" ++ second) =
        Template.placeholders first ++ Template.placeholders second ∧
      Template.render ("\n".intercalate lines) params =
        "\n".intercalate (lines.map (Template.render · params)) ∧
      Template.placeholders ("\n".intercalate lines) = lines.flatMap Template.placeholders :=
  ⟨Template.blocks_append_line first second, Template.render_append_line first second params,
    Template.placeholders_append_line first second, Template.render_lines lines params,
    Template.placeholders_lines lines⟩

/-- A block that is left open on one line is text, and the next line keeps its own. -/
example :
    Template.render "SELECT [a | x\n[b | y] WHERE c]" (.ofPairs [("b", .int 1)]) =
      "SELECT [a | x\ny WHERE c]" := by decide +kernel

end SqlTemplate
