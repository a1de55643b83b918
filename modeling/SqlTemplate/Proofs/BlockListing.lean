import SqlTemplate.Proofs.TemplateParts

/-!
# The listing of blocks

The grammar of blocks is stated here on its own, apart from any scan: a key of word characters, and
a fragment on one line in which only the first character may be a closing bracket. A block occurs in
a template where the text between two offsets has this form. Occurrences can lie within each other,
for a fragment may hold an opening bracket. Among all lists of occurrences that stand in order and
apart there is one outside of which no occurrence starts, and it is the list of blocks. Rendering
copies what lies between the offsets of this list and puts a fragment, or nothing, for each block.
-/

namespace SqlTemplate.Template

/-- A text can be the fragment of a block. -/
structure IsFragment (text : List Char) : Prop where
  filled : text ≠ []
  oneLine : '\n' ∉ text
  unclosed : ']' ∉ text.tail

structure Block.IsFormed (b : Block) : Prop where
  keyed : b.key ≠ []
  keyWord : AllWord b.key
  fragment : IsFragment b.fragment

/-- What a fragment consists of behind its first character. -/
theorem inside_of_not_mem {text : List Char} (oneLine : '\n' ∉ text) (unclosed : ']' ∉ text) :
    ∀ c ∈ text, (c != ']' && c != '\n') = true := by
  intro c member
  have noClose : c ≠ ']' := fun same => unclosed (same ▸ member)
  have noBreak : c ≠ '\n' := fun same => oneLine (same ▸ member)
  simp [noClose, noBreak]

/-- A fragment before a closing bracket is found at its full length. -/
theorem IsFragment.fragmentLength?_append {fragment : List Char} (form : IsFragment fragment)
    (rest : List Char) :
    Block.fragmentLength? (fragment ++ ']' :: rest) = some fragment.length := by
  obtain ⟨filled, oneLine, unclosed⟩ := form
  cases fragment with
  | nil => exact absurd rfl filled
  | cons c inner =>
    obtain ⟨first, later⟩ := not_or.mp (mt List.mem_cons.mpr oneLine)
    have whole : (inner ++ ']' :: rest).takeWhile (fun c => c != ']' && c != '\n') = inner := by
      rw [List.takeWhile_append_of_pos (inside_of_not_mem later unclosed)]
      simp
    rw [List.cons_append, Block.fragmentLength?]
    · simp [whole]
    · intro same
      exact first same.symm

/-- What is found as a fragment has the form of one. -/
theorem isFragment_take {text : List Char} {n : Nat} (found : Block.fragmentLength? text = some n) :
    IsFragment (text.take n) := by
  unfold Block.fragmentLength? at found
  split at found
  · cases found
  · cases found
  · next first rest noBreak =>
    simp only [Option.ite_none_right_eq_some, Option.some.injEq] at found
    obtain ⟨_, rfl⟩ := found
    have inner := List.takeWhile_prefix (l := rest) fun c => c != ']' && c != '\n'
    rw [List.take_succ_cons, ← List.prefix_iff_eq_take.mp inner]
    have allowed : ∀ c ∈ rest.takeWhile (fun c => c != ']' && c != '\n'), c ≠ ']' ∧ c ≠ '\n' := by
      intro c member
      simpa using List.all_eq_true.mp List.all_takeWhile c member
    refine ⟨List.cons_ne_nil _ _, ?_, ?_⟩
    · intro member
      rcases List.mem_cons.mp member with same | later
      · exact noBreak same.symm
      · exact (allowed _ later).2 rfl
    · intro member
      exact (allowed _ member).1 rfl

/-- A text begins with a block just if it begins with the text of one that the grammar allows. -/
theorem Block.atStart?_eq_some_iff {text : List Char} {b : Block} :
    atStart? text = some b ↔ b.IsFormed ∧ b.text <+: text := by
  constructor
  · intro found
    have begins : b.text <+: text := ⟨_, text_append_of_atStart? found⟩
    have word := allWord_of_atStart? found
    refine ⟨?_, begins⟩
    unfold atStart? at found
    split at found
    · simp only [Option.ite_none_right_eq_some, Option.map_eq_some_iff] at found
      obtain ⟨⟨keyed, _⟩, n, measured, rfl⟩ := found
      exact ⟨keyed, word, isFragment_take measured⟩
    · cases found
  · rintro ⟨⟨keyed, word, fragment⟩, rest, rfl⟩
    obtain ⟨key, inner⟩ := b
    have ends : Boundary (separator ++ (inner ++ ']' :: rest)) := boundary_cons (by decide) _
    have name : leadingWord (key ++ (separator ++ (inner ++ ']' :: rest))) = key := by
      rw [leadingWord_allWord_append word, leadingWord_of_boundary ends, List.append_nil]
    have tail : afterWord (key ++ (separator ++ (inner ++ ']' :: rest))) =
        separator ++ (inner ++ ']' :: rest) := by
      have whole := leadingWord_append_afterWord (key ++ (separator ++ (inner ++ ']' :: rest)))
      rw [name] at whole
      exact List.append_cancel_left whole
    have bar : (separator ++ (inner ++ ']' :: rest)).drop 3 = inner ++ ']' :: rest := rfl
    have shape : Block.text ⟨key, inner⟩ ++ rest =
        '[' :: (key ++ (separator ++ (inner ++ ']' :: rest))) := by simp [Block.text]
    rw [shape, atStart?]
    simp only [name, tail, bar]
    rw [if_pos ⟨keyed, List.prefix_append _ _⟩, fragment.fragmentLength?_append]
    simp

def PlacedBlock.block (b : PlacedBlock) : Block := ⟨b.key.toList, b.fragment.toList⟩

/-- The text between the offsets of the block is that of the block, as the grammar has it. -/
structure PlacedBlock.Occurs (template : String) (b : PlacedBlock) : Prop where
  formed : b.block.IsFormed
  inside : b.stop ≤ template.length
  reads : between template b.start b.stop = "[" ++ b.key ++ " | " ++ b.fragment ++ "]"

theorem Block.text_positive (b : Block) : 0 < b.text.length := by
  simp [Block.text]

theorem PlacedBlock.toList_reading (b : PlacedBlock) :
    ("[" ++ b.key ++ " | " ++ b.fragment ++ "]").toList = b.block.text := by
  simp [PlacedBlock.block, Block.text, Block.separator]

/-- An occurrence is where the rest of the template begins with the text of the block. -/
theorem PlacedBlock.occurs_iff {template : String} {b : PlacedBlock} :
    b.Occurs template ↔ b.block.IsFormed ∧ b.block.text <+: template.toList.drop b.start ∧
      b.stop = b.start + b.block.text.length := by
  have positive := b.block.text_positive
  constructor
  · rintro ⟨formed, inside, reads⟩
    have cut : (template.toList.drop b.start).take (b.stop - b.start) = b.block.text := by
      have same := congrArg String.toList reads
      rw [b.toList_reading, between, String.toList_ofList, List.drop_take] at same
      exact same
    have length := congrArg List.length cut
    rw [List.length_take, List.length_drop, String.length_toList] at length
    refine ⟨formed, ?_, by omega⟩
    rw [← cut]
    exact List.take_prefix _ _
  · rintro ⟨formed, begins, stop⟩
    have length := begins.length_le
    rw [List.length_drop, String.length_toList] at length
    refine ⟨formed, by omega, ?_⟩
    have cut : (template.toList.take b.stop).drop b.start = b.block.text := by
      rw [List.drop_take, stop, Nat.add_sub_cancel_left]
      exact (List.prefix_iff_eq_take.mp begins).symm
    rw [between, cut, ← b.toList_reading, String.ofList_toList]

theorem PlacedBlock.Occurs.start_lt_stop {template : String} {b : PlacedBlock}
    (occurs : b.Occurs template) : b.start < b.stop := by
  have stop := (occurs_iff.mp occurs).2.2
  have positive := b.block.text_positive
  omega

/-- Only one block occurs at an offset. -/
theorem PlacedBlock.Occurs.unique {template : String} {b c : PlacedBlock}
    (first : b.Occurs template) (second : c.Occurs template) (same : b.start = c.start) :
    b = c := by
  obtain ⟨formed, begins, stop⟩ := occurs_iff.mp first
  obtain ⟨formed', begins', stop'⟩ := occurs_iff.mp second
  have found := Block.atStart?_eq_some_iff.mpr ⟨formed, begins⟩
  have found' := Block.atStart?_eq_some_iff.mpr ⟨formed', begins'⟩
  rw [same, found'] at found
  have block : c.block = b.block := Option.some.inj found
  have keys : b.key = c.key := String.toList_inj.mp (congrArg Block.key block.symm)
  have fragments : b.fragment = c.fragment :=
    String.toList_inj.mp (congrArg Block.fragment block.symm)
  have stops : b.stop = c.stop := by rw [stop, stop', same, block]
  obtain ⟨key, fragment, start, stop⟩ := b
  cases keys
  cases fragments
  cases same
  cases stops
  rfl

/-- The list holds occurrences from an offset on, in order and apart, and every occurrence from
there on starts within one of them. -/
structure Listing (template : String) (start : Nat) (listed : List PlacedBlock) : Prop where
  occur : ∀ b ∈ listed, start ≤ b.start ∧ b.Occurs template
  apart : listed.Pairwise fun b c => b.stop ≤ c.start
  complete : ∀ b : PlacedBlock, start ≤ b.start → b.Occurs template →
    ∃ c ∈ listed, c.start ≤ b.start ∧ b.start < c.stop

/-- At the end of the template nothing is left to be listed. -/
theorem listing_at_end {template : String} {start : Nat} {listed : List PlacedBlock}
    (ended : template.length ≤ start) : Listing template start listed ↔ listed = [] := by
  have none_ : ∀ b : PlacedBlock, start ≤ b.start → ¬ b.Occurs template := by
    intro b late occurs
    have := occurs.start_lt_stop
    have := occurs.inside
    omega
  constructor
  · intro listing
    refine List.eq_nil_iff_forall_not_mem.mpr fun b member => ?_
    obtain ⟨late, occurs⟩ := listing.occur b member
    exact none_ b late occurs
  · rintro rfl
    exact ⟨by simp, List.Pairwise.nil, fun b late occurs => absurd occurs (none_ b late)⟩

/-- An offset at which no block occurs can be passed over. -/
theorem listing_skip {template : String} {start : Nat} {listed : List PlacedBlock}
    (none_ : ∀ b : PlacedBlock, b.start = start → ¬ b.Occurs template) :
    Listing template start listed ↔ Listing template (start + 1) listed := by
  have past : ∀ b : PlacedBlock, b.Occurs template → start ≤ b.start → start + 1 ≤ b.start := by
    intro b occurs late
    have other : b.start ≠ start := fun same => none_ b same occurs
    omega
  constructor
  · rintro ⟨occur, apart, complete⟩
    refine ⟨fun b member => ?_, apart, fun b late => complete b (by omega)⟩
    obtain ⟨late, occurs⟩ := occur b member
    exact ⟨past b occurs late, occurs⟩
  · rintro ⟨occur, apart, complete⟩
    refine ⟨fun b member => ?_, apart, fun b late occurs => complete b (past b occurs late) occurs⟩
    obtain ⟨late, occurs⟩ := occur b member
    exact ⟨by omega, occurs⟩

/-- The block that occurs at the offset comes first, and the list goes on behind it. -/
theorem listing_take {template : String} {b : PlacedBlock} {listed : List PlacedBlock}
    (occurs : b.Occurs template) :
    Listing template b.start listed ↔
      ∃ rest, listed = b :: rest ∧ Listing template b.stop rest := by
  have long := occurs.start_lt_stop
  constructor
  · rintro ⟨occur, apart, complete⟩
    obtain ⟨c, member, low, high⟩ := complete b (Nat.le_refl _) occurs
    cases listed with
    | nil => cases member
    | cons first rest =>
      obtain ⟨early, firstOccurs⟩ := occur first List.mem_cons_self
      obtain ⟨behind, restApart⟩ := List.pairwise_cons.mp apart
      have atFirst : first.start = b.start := by
        rcases List.mem_cons.mp member with same | later
        · rw [← same]
          have := (occur c member).1
          omega
        · have := behind c later
          have := firstOccurs.start_lt_stop
          omega
      obtain rfl := firstOccurs.unique occurs atFirst
      refine ⟨rest, rfl, fun d later => ⟨behind d later, (occur d (.tail _ later)).2⟩,
        restApart, ?_⟩
      intro d late occursLate
      obtain ⟨e, within, starts, stops⟩ := complete d (by omega) occursLate
      rcases List.mem_cons.mp within with rfl | later
      · omega
      · exact ⟨e, later, starts, stops⟩
  · rintro ⟨rest, rfl, occur, apart, complete⟩
    refine ⟨?_, List.pairwise_cons.mpr ⟨fun d later => (occur d later).1, apart⟩, ?_⟩
    · intro d member
      rcases List.mem_cons.mp member with rfl | later
      · exact ⟨Nat.le_refl _, occurs⟩
      · obtain ⟨late, occursLate⟩ := occur d later
        exact ⟨by omega, occursLate⟩
    · intro d late occursLate
      by_cases within : d.start < b.stop
      · exact ⟨b, List.mem_cons_self, late, within⟩
      · obtain ⟨e, later, starts, stops⟩ := complete d (by omega) occursLate
        exact ⟨e, .tail _ later, starts, stops⟩

/-- Cutting the rest of a template into pieces lists the blocks from there on, and there is no other
listing of them. -/
theorem listing_iff_placeBlocks {template : String} {before text : List Char}
    (whole : template.toList = before ++ text) (listed : List PlacedBlock) :
    Listing template before.length listed ↔ listed = placeBlocks before.length (pieces text) := by
  have rest_ : template.toList.drop before.length = text := by rw [whole, List.drop_left]
  fun_induction pieces text generalizing before listed with
  | case1 =>
    have length : template.length = before.length := by
      rw [← String.length_toList, whole, List.append_nil]
    exact listing_at_end (Nat.le_of_eq length)
  | case2 c rest b found ih =>
    let placed : PlacedBlock :=
      ⟨String.ofList b.key, String.ofList b.fragment, before.length, before.length + b.text.length⟩
    have same : placed.block = b := by simp [placed, PlacedBlock.block]
    have occurs : placed.Occurs template := by
      obtain ⟨formed, begins⟩ := Block.atStart?_eq_some_iff.mp found
      rw [PlacedBlock.occurs_iff, same]
      exact ⟨formed, rest_ ▸ begins, rfl⟩
    have cut := Block.text_append_of_atStart? found
    have long : b.text.length = b.text.length - 1 + 1 := by
      have := b.text_positive
      omega
    rw [long, List.drop_succ_cons] at cut
    have further : template.toList = before ++ b.text ++ rest.drop (b.text.length - 1) := by
      rw [whole, List.append_assoc, cut]
    have later := fun more => ih further more (by rw [further, List.drop_left])
    rw [List.length_append] at later
    rw [show before.length = placed.start from rfl, listing_take occurs]
    constructor
    · rintro ⟨more, rfl, listing⟩
      rw [(later more).mp listing]
      rfl
    · rintro rfl
      exact ⟨_, rfl, (later _).mpr rfl⟩
  | case3 c rest absent ih =>
    have none_ : ∀ b : PlacedBlock, b.start = before.length → ¬ b.Occurs template := by
      intro b here occurs
      obtain ⟨formed, begins, _⟩ := PlacedBlock.occurs_iff.mp occurs
      rw [here, rest_] at begins
      rw [Block.atStart?_eq_some_iff.mpr ⟨formed, begins⟩] at absent
      cases absent
    have further : template.toList = before ++ [c] ++ rest := by simp [whole]
    have later := ih further listed (by rw [further, List.drop_left])
    rw [List.length_append, List.length_singleton] at later
    exact (listing_skip none_).trans later

theorem listing_blocks (template : String) : Listing template 0 (blocks template) :=
  (@listing_iff_placeBlocks template [] template.toList rfl _).mpr rfl

theorem blocks_of_no_occurrence {template : String}
    (none_ : ∀ b : PlacedBlock, ¬ b.Occurs template) : blocks template = [] := by
  refine List.eq_nil_iff_forall_not_mem.mpr fun b member => ?_
  exact none_ b ((listing_blocks template).occur b member).2

/-- What a block gives under parameters: its fragment, unless the value of its key is null. -/
def PlacedBlock.given (params : NamedValues) (b : PlacedBlock) : String :=
  match params.get b.key with
  | .null => ""
  | _ => b.fragment

/-- The text from an offset on, with something put in the place of each block. -/
def splicedFrom (template : String) (put : PlacedBlock → String) (start : Nat) :
    List PlacedBlock → String
  | [] => between template start template.length
  | b :: rest => between template start b.start ++ put b ++ splicedFrom template put b.stop rest

/-- The parts that are kept are what is spliced. -/
theorem toList_splicedFrom (template : String) (params : NamedValues) (start : Nat)
    (listed : List PlacedBlock) :
    (splicedFrom template (PlacedBlock.given params) start listed).toList =
      ((partsFrom template start listed).filter (Part.kept params)).flatMap
        fun part => part.text.toList := by
  induction listed generalizing start with
  | nil => simp [splicedFrom, partsFrom, List.filter_cons, String.length_toList]
  | cons b rest ih =>
    have provided : params.provides b.key = !(params.get b.key).isNull := rfl
    rw [splicedFrom, partsFrom, String.toList_append, String.toList_append, ih]
    cases held : params.get b.key <;>
      simp [PlacedBlock.given, List.filter_cons, provided, held, Value.isNull]

end Template

/-- The blocks of a template are occurrences of the grammar in order and apart, every occurrence
starts within one of them, and no other list has these properties. -/
theorem blocks_are_the_only_listing (template : String) (listed : List Template.PlacedBlock) :
    Template.Listing template 0 listed ↔ listed = Template.blocks template :=
  @Template.listing_iff_placeBlocks template [] template.toList rfl listed

/-- An opening bracket within a fragment starts an occurrence that is not listed. -/
example :
    Template.blocks "[a | [b | x]]" = [⟨"a", "[b | x", 0, 12⟩] ∧
      Template.between "[a | [b | x]]" 5 12 = "[b | x]" := by decide +kernel

/-- Rendering copies the text before, between and behind the blocks, and puts the fragment of each
block whose key has a value that is not null. A template in which no block occurs stays as it is. -/
theorem render_splices_blocks (template : String) (params : NamedValues) :
    Template.render template params =
        Template.splicedFrom template (Template.PlacedBlock.given params) 0
          (Template.blocks template) ∧
      ((∀ b : Template.PlacedBlock, ¬ b.Occurs template) →
        Template.render template params = template) := by
  have spliced : Template.render template params =
      Template.splicedFrom template (Template.PlacedBlock.given params) 0
        (Template.blocks template) := by
    apply String.toList_inj.mp
    rw [Template.toList_render, Template.toList_splicedFrom]
    rfl
  refine ⟨spliced, fun none_ => ?_⟩
  rw [spliced, Template.blocks_of_no_occurrence none_, Template.splicedFrom, Template.between,
    List.drop_zero, ← String.length_toList, List.take_length, String.ofList_toList]

/-- A fragment that is kept may complete a block, which then is text like any other. -/
example :
    Template.render "[a | [b | ]x]" (.ofPairs [("a", .boolean false)]) = "[b | x]" := by
  decide +kernel

end SqlTemplate
