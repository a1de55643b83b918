import SqlTemplate.Proofs.Junctions
import SqlTemplate.Query

/-!
# The parts of a template

Blocks cut a template into gaps, the text outside of them, and their fragments. Brackets and keys
hold no placeholder and end every name, so the placeholders of a template are those of its parts.
Rendering joins the gaps and the fragments that are kept, without the brackets, so that a name can
go across from one part into the next. Where none does, a dropped block takes its own placeholders
away and leaves all others as they were; and only there.
-/

namespace SqlTemplate.Template

/-- A part of a template: text outside the blocks, or the fragment of a block. -/
inductive Part where
  | gap (text : String)
  | fragment (block : PlacedBlock)

namespace Part

def text : Part → String
  | .gap text => text
  | .fragment block => block.fragment

@[simp] theorem text_gap (text : String) : (gap text).text = text := rfl

@[simp] theorem text_fragment (block : PlacedBlock) : (fragment block).text = block.fragment := rfl

/-- Rendering keeps the part: a gap in any case, a fragment if its key is provided. -/
def kept (params : NamedValues) : Part → Bool
  | .gap _ => true
  | .fragment block => params.provides block.key

@[simp] theorem kept_gap (params : NamedValues) (text : String) :
    (gap text).kept params = true := rfl

@[simp] theorem kept_fragment (params : NamedValues) (block : PlacedBlock) :
    (fragment block).kept params = params.provides block.key := rfl

end Part

def between (template : String) (start stop : Nat) : String :=
  String.ofList ((template.toList.take stop).drop start)

/-- The parts of a template from an offset on: the gap before each block with its fragment, and the
gap behind the last block. -/
def partsFrom (template : String) (start : Nat) : List PlacedBlock → List Part
  | [] => [.gap (between template start template.toList.length)]
  | block :: rest =>
    .gap (between template start block.start) :: .fragment block ::
      partsFrom template block.stop rest

def parts (template : String) : List Part := partsFrom template 0 (blocks template)

example : (parts "a = :a[k |  AND b = :b] c").map Part.text = ["a = :a", " AND b = :b", " c"] := by
  decide +kernel

/-- The parts that pieces make, of which the first lies at `offset` behind the gap begun before it.
-/
def gathered (offset : Nat) (gap : List Char) : List Piece → List Part
  | [] => [.gap (String.ofList gap)]
  | .literal c :: rest => gathered (offset + 1) (gap ++ [c]) rest
  | .block b :: rest =>
    let stop := offset + b.text.length
    .gap (String.ofList gap) ::
      .fragment ⟨String.ofList b.key, String.ofList b.fragment, offset, stop⟩ ::
        gathered stop [] rest

theorem between_middle {template : String} {before middle after : List Char}
    (whole : template.toList = before ++ middle ++ after) :
    between template before.length (before.length + middle.length) = String.ofList middle := by
  rw [between, whole, List.take_left' List.length_append, List.drop_left]

/-- Cutting a template at the offsets of its blocks gathers its pieces. -/
theorem partsFrom_placeBlocks {template : String} {before gap : List Char} {pieces : List Piece}
    (whole : template.toList = before ++ gap ++ pieces.flatMap Piece.text) :
    partsFrom template before.length (placeBlocks (before.length + gap.length) pieces) =
      gathered (before.length + gap.length) gap pieces := by
  have cut := between_middle whole
  induction pieces generalizing before gap with
  | nil =>
    have all : template.toList.length = before.length + gap.length := by simp [whole]
    simp [placeBlocks, partsFrom, gathered, all, cut]
  | cons piece rest ih =>
    cases piece with
    | literal c =>
      have longer : template.toList = before ++ (gap ++ [c]) ++ rest.flatMap Piece.text := by
        simp [whole, Piece.text]
      have length : before.length + (gap ++ [c]).length = before.length + gap.length + 1 := by
        simp [Nat.add_assoc]
      have next := ih longer (between_middle longer)
      rw [length] at next
      exact next
    | block b =>
      have past : template.toList = (before ++ gap ++ b.text) ++ [] ++ rest.flatMap Piece.text := by
        simp [whole, Piece.text]
      have length : (before ++ gap ++ b.text).length + ([] : List Char).length =
          before.length + gap.length + b.text.length := by simp [Nat.add_assoc]
      have next := ih past (between_middle past)
      rw [length, List.length_append, List.length_append] at next
      simp only [placeBlocks, partsFrom, gathered, cut, next]

theorem parts_eq_gathered (template : String) :
    parts template = gathered 0 [] (pieces template.toList) := by
  have whole : template.toList = [] ++ [] ++ (pieces template.toList).flatMap Piece.text := by
    simp [flatMap_text_pieces]
  exact partsFrom_placeBlocks whole

/-- Rendering joins the parts that are kept. -/
theorem flatMap_rendered_gathered (params : NamedValues) (offset : Nat) (gap : List Char)
    (pieces : List Piece) :
    ((gathered offset gap pieces).filter (Part.kept params)).flatMap
        (fun part => part.text.toList) =
      gap ++ pieces.flatMap (Piece.rendered params) := by
  induction pieces generalizing offset gap with
  | nil => simp [gathered, List.filter_cons]
  | cons piece rest ih =>
    cases piece with
    | literal c => simp [gathered, ih, Piece.rendered]
    | block b =>
      by_cases provided : params.provides (String.ofList b.key) = true <;>
        simp [gathered, List.filter_cons, ih, Piece.rendered, provided]

theorem toList_render (template : String) (params : NamedValues) :
    (render template params).toList =
      ((parts template).filter (Part.kept params)).flatMap fun part => part.text.toList := by
  rw [parts_eq_gathered, flatMap_rendered_gathered]
  simp [render]

theorem Block.allWord_of_atStart? {text : List Char} {b : Block} (found : atStart? text = some b) :
    AllWord b.key := by
  unfold atStart? at found
  split at found
  · simp only [Option.ite_none_right_eq_some, Option.map_eq_some_iff] at found
    obtain ⟨_, _, _, rfl⟩ := found
    exact allWord_leadingWord _
  · cases found

theorem allWord_of_mem_pieces {text : List Char} {b : Block} (member : .block b ∈ pieces text) :
    AllWord b.key := by
  fun_induction pieces text with
  | case1 => cases member
  | case2 c rest found _ ih =>
    rcases List.mem_cons.mp member with same | later
    · cases same
      exact Block.allWord_of_atStart? ‹_›
    · exact ih later
  | case3 c rest _ ih =>
    rcases List.mem_cons.mp member with same | later
    · cases same
    · exact ih later

/-- The brackets and the key of a block keep its placeholders apart from those around it. -/
theorem names_block {b : Block} (key : AllWord b.key) (gap rest : List Char) :
    names (gap ++ b.text ++ rest) = names gap ++ names b.fragment ++ names rest := by
  have leader : ':' ∉ '[' :: b.key ++ Block.separator := by
    simp [Block.separator, key.noColon]
  have opening : Boundary (b.text ++ rest) := boundary_cons (by decide) _
  have closing : Boundary (']' :: rest) := boundary_cons (by decide) rest
  have inner : b.text ++ rest = '[' :: b.key ++ Block.separator ++ (b.fragment ++ ']' :: rest) := by
    simp [Block.text]
  have closer : ':' ∉ [']'] := by decide
  have tail : names (']' :: rest) = names rest := names_noColon_append closer rest
  rw [List.append_assoc, names_append_of_boundary opening gap, inner, names_noColon_append leader,
    names_append_of_boundary closing b.fragment, tail, List.append_assoc]

theorem names_gathered {pieces : List Piece} (keys : ∀ b, .block b ∈ pieces → AllWord b.key)
    (offset : Nat) (gap : List Char) :
    (gathered offset gap pieces).flatMap (fun part => names part.text.toList) =
      names (gap ++ pieces.flatMap Piece.text) := by
  induction pieces generalizing offset gap with
  | nil => simp [gathered]
  | cons piece rest ih =>
    have later := ih fun b member => keys b (List.mem_cons_of_mem piece member)
    cases piece with
    | literal c => simp [gathered, later, Piece.text]
    | block b =>
      have apart := names_block (keys b List.mem_cons_self) gap (rest.flatMap Piece.text)
      simp only [List.append_assoc] at apart
      simp [gathered, later, Piece.text, apart]

theorem placeholders_eq (text : String) :
    placeholders text = (names text.toList).map String.ofList := rfl

theorem flatMap_placeholders (parts : List Part) :
    (parts.flatMap fun part => placeholders part.text) =
      (parts.flatMap fun part => names part.text.toList).map String.ofList := by
  simp [List.map_flatMap, placeholders_eq]

/-- Empty texts have no placeholders. -/
theorem flatMap_names_filled (texts : List (List Char)) :
    (texts.filter (· ≠ [])).flatMap names = texts.flatMap names := by
  induction texts with
  | nil => rfl
  | cons text rest ih =>
    cases text with
    | nil => simpa [names, tokens] using ih
    | cons c text => simpa using ih

theorem map_ofList_inj {first second : List (List Char)} :
    first.map String.ofList = second.map String.ofList ↔ first = second := by
  constructor
  · intro same
    have back := congrArg (List.map String.toList) same
    simpa [Function.comp_def] using back
  · rintro rfl
    rfl

end Template

/-- The placeholders of a template are those of its gaps and fragments, in order. The placeholders
of the rendered text are those of the gaps and of the fragments that are kept just if, among those
of them that are not empty, none ends in a colon and word characters, if any, directly before one
that begins with a word character. -/
theorem placeholders_by_parts (q : Query) (params : NamedValues) :
    let parts := Template.parts q.template
    let kept := parts.filter (Template.Part.kept params)
    q.placeholders none = parts.flatMap (fun part => Template.placeholders part.text) ∧
    (q.placeholders (some params) = kept.flatMap (fun part => Template.placeholders part.text) ↔
      Template.Seamless ((kept.map fun part => part.text.toList).filter (· ≠ []))) := by
  intro parts kept
  constructor
  · have keys : ∀ b, .block b ∈ Template.pieces q.template.toList → Template.AllWord b.key :=
      fun b => Template.allWord_of_mem_pieces
    have whole := Template.names_gathered keys 0 []
    rw [← Template.parts_eq_gathered, List.nil_append, Template.flatMap_text_pieces] at whole
    rw [Template.flatMap_placeholders, whole]
    rfl
  · -- Empty parts have no placeholders and add nothing to the rendered text.
    have filled : ∀ text ∈ (kept.map fun part => part.text.toList).filter (· ≠ []), text ≠ [] := by
      intro text member
      simpa using (List.mem_filter.mp member).2
    have joined : (q.render params).toList =
        ((kept.map fun part => part.text.toList).filter (· ≠ [])).flatten := by
      rw [List.flatten_filter_ne_nil, ← List.flatMap_def]
      exact Template.toList_render q.template params
    have named : (kept.flatMap fun part => Template.names part.text.toList) =
        ((kept.map fun part => part.text.toList).filter (· ≠ [])).flatMap Template.names := by
      rw [Template.flatMap_names_filled, List.flatMap_map]
    change Template.placeholders (q.render params) = _ ↔ _
    rw [Template.flatMap_placeholders, Template.placeholders_eq, Template.map_ofList_inj, joined,
      named]
    exact Template.names_flatten_iff filled

/-- A fragment that is kept can lengthen the name before it. -/
example :
    let q : Query := { template := "SELECT :u[k | ser]" }
    q.placeholders none = ["u"] ∧ q.placeholders (some (.ofPairs [("k", .int 1)])) = ["user"] := by
  decide +kernel

end SqlTemplate
