import SqlTemplate.Proofs.Refusals
import SqlTemplate.Statement.Basic

/-!
# The slots of a statement

What a statement keeps in its slots is read off by position. An attempt to fill a slot is good if
the statement has the position, as far as it knows, and the value has a driver value; a good attempt
writes that one slot and a bad one writes nothing. A pass makes the writes of the attempts before
the first bad one. The parameters are the values of all slots up to the highest, or else the least
slot among them is reported that holds nothing.
-/

namespace SqlTemplate

theorem foldr_max_attained (slots : List Nat) (known : Nat) :
    slots.foldr max known = known ∨ slots.foldr max known ∈ slots := by
  induction slots with
  | nil => exact .inl rfl
  | cons slot rest ih =>
    rw [List.foldr_cons]
    rcases Nat.le_total slot (rest.foldr max known) with below | above
    · rw [Nat.max_eq_right below]
      exact ih.imp_right (List.mem_cons_of_mem slot)
    · rw [Nat.max_eq_left above]
      exact .inr List.mem_cons_self

theorem foldr_max_bounds (slots : List Nat) (known : Nat) :
    known ≤ slots.foldr max known ∧ ∀ slot ∈ slots, slot ≤ slots.foldr max known := by
  induction slots with
  | nil => exact ⟨Nat.le_refl known, by simp⟩
  | cons slot rest ih =>
    rw [List.foldr_cons]
    refine ⟨Nat.le_trans ih.1 (Nat.le_max_right _ _), fun other member => ?_⟩
    rcases List.mem_cons.mp member with rfl | later
    · exact Nat.le_max_left _ _
    · exact Nat.le_trans (ih.2 other later) (Nat.le_max_right _ _)

namespace Entries

variable {κ α : Type} [DecidableEq κ]

theorem mem_keys_iff (entries : List (κ × α)) (key : κ) :
    key ∈ keys entries ↔ ∃ value, find? entries key = some value := by
  induction entries with
  | nil => simp [keys, find?]
  | cons entry rest ih =>
    simp only [keys, List.map_cons, List.mem_cons, find?] at ih ⊢
    by_cases same : entry.1 = key
    · simp [same]
    · have other : key ≠ entry.1 := fun h => same h.symm
      simp only [if_neg same, other, false_or]
      exact ih

end Entries

namespace Statement

structure Attempt where
  position : Int
  value : Value
  key : Option String

/-- The position is one of the slots of a statement that knows of so many. -/
def Admits (count : Option Int) (position : Int) : Prop :=
  1 ≤ position ∧ ∀ n ∈ count, position ≤ n

instance (count : Option Int) (position : Int) : Decidable (Admits count position) :=
  inferInstanceAs (Decidable (1 ≤ position ∧ ∀ n ∈ count, position ≤ n))

def Attempt.write? (count : Option Int) (a : Attempt) : Option (Nat × Value) :=
  if Admits count a.position then
    (a.value.toDriver a.key).toOption.map fun converted => (a.position.toNat, converted)
  else none

/-- The writes of a pass: those of the attempts before the first that writes nothing. -/
def writes (count : Option Int) : List Attempt → List (Nat × Value)
  | [] => []
  | a :: rest =>
    match a.write? count with
    | some write => write :: writes count rest
    | none => []

theorem Attempt.write?_eq_some_iff {count : Option Int} {a : Attempt} {slot : Nat}
    {converted : Value} :
    a.write? count = some (slot, converted) ↔
      Admits count a.position ∧ a.value.toDriver a.key = .ok converted ∧
        slot = a.position.toNat := by
  unfold Attempt.write?
  by_cases admitted : Admits count a.position
  · rw [if_pos admitted]
    cases a.value.toDriver a.key with
    | error e => simp [Except.toOption]
    | ok v =>
      simp only [Except.toOption, Option.map_some, Option.some.injEq, Prod.mk.injEq, admitted,
        true_and, Except.ok.injEq]
      exact ⟨fun h => ⟨h.2, h.1.symm⟩, fun h => ⟨h.2.symm, h.1⟩⟩
  · simp [admitted]

/-- A good attempt leaves its driver value in its slot. -/
theorem assign_of_write {st : Statement} {position : Int} {value : Value} {key : Option String}
    {write : Nat × Value} (good : Attempt.write? st.count ⟨position, value, key⟩ = some write) :
    st.assign position value key =
      .ok { st with slots := Entries.put st.slots write.1 write.2 } := by
  obtain ⟨slot, converted⟩ := write
  obtain ⟨⟨(low : 1 ≤ position), high⟩, converts, rfl⟩ := Attempt.write?_eq_some_iff.mp good
  have inside : st.beyond? position = none := by
    rw [beyond?, Option.filter_eq_none_iff]
    intro n known
    have : position ≤ n := high n known
    simp only [decide_eq_true_eq]
    omega
  rw [assign, if_neg (by omega)]
  simp only [inside, converts]
  rfl

/-- A bad attempt is refused: its position does not exist, or its value has no driver value. -/
theorem assign_of_no_write {st : Statement} {position : Int} {value : Value} {key : Option String}
    (bad : Attempt.write? st.count ⟨position, value, key⟩ = none) :
    ∃ e, st.assign position value key = .error e ∧
      (Admits st.count position → value.toDriver key = .error e) := by
  rw [assign]
  by_cases low : position < 1
  · rw [if_pos low]
    exact ⟨_, rfl, fun admitted => absurd admitted.1 (by omega)⟩
  · rw [if_neg low]
    cases beyond : st.beyond? position with
    | some n =>
      refine ⟨_, rfl, fun admitted => ?_⟩
      obtain ⟨known, above⟩ := Option.filter_eq_some_iff.mp beyond
      have := admitted.2 n known
      simp only [decide_eq_true_eq] at above
      omega
    | none =>
      cases converts : value.toDriver key with
      | error e => exact ⟨e, rfl, fun _ => rfl⟩
      | ok v =>
        have admitted : Admits st.count position := by
          refine ⟨by omega, fun n known => ?_⟩
          have := Option.filter_eq_none_iff.mp beyond n known
          simp only [decide_eq_true_eq] at this
          omega
        have good := Attempt.write?_eq_some_iff (a := ⟨position, value, key⟩) |>.mpr
          ⟨admitted, converts, rfl⟩
        rw [bad] at good
        cases good

end Statement

def Assignment.attempt (a : Assignment) : Statement.Attempt := ⟨a.position, a.value, some a.key⟩

namespace Statement

/-- A pass makes its writes and changes nothing else. -/
theorem assignAll_snd (st : Statement) (assignments : List Assignment) :
    (st.assignAll assignments).2 =
      { st with
        slots := Entries.putAll st.slots
          (writes st.count (assignments.map Assignment.attempt)) } := by
  induction assignments generalizing st with
  | nil => rfl
  | cons a rest ih =>
    rw [assignAll, List.map_cons, writes]
    cases written : a.attempt.write? st.count with
    | none =>
      obtain ⟨e, refused, _⟩ := assign_of_no_write written
      rw [refused]
      rfl
    | some write =>
      rw [assign_of_write written]
      exact ih _

/-- A pass of good attempts succeeds. -/
theorem assignAll_fst_ok {st : Statement} {assignments : List Assignment}
    (good : ∀ a ∈ assignments, (a.attempt.write? st.count).isSome) :
    (st.assignAll assignments).1 = .ok () := by
  induction assignments generalizing st with
  | nil => rfl
  | cons a rest ih =>
    obtain ⟨write, written⟩ := Option.isSome_iff_exists.mp (good a List.mem_cons_self)
    rw [assignAll, assign_of_write written]
    exact ih fun b later => good b (List.mem_cons_of_mem a later)

/-- A pass ends in the refusal of its first bad attempt. -/
theorem assignAll_fst_error {st : Statement} {before rest : List Assignment} {a : Assignment}
    (good : ∀ b ∈ before, (b.attempt.write? st.count).isSome)
    (bad : a.attempt.write? st.count = none) :
    ∃ e, (st.assignAll (before ++ a :: rest)).1 = .error e ∧
      (Admits st.count a.position → a.value.toDriver (some a.key) = .error e) := by
  induction before generalizing st with
  | nil =>
    obtain ⟨e, refused, reason⟩ := assign_of_no_write bad
    refine ⟨e, ?_, reason⟩
    rw [List.nil_append, assignAll, refused]
  | cons b before ih =>
    obtain ⟨write, written⟩ := Option.isSome_iff_exists.mp (good b List.mem_cons_self)
    rw [List.cons_append, assignAll, assign_of_write written]
    exact ih (fun c later => good c (List.mem_cons_of_mem b later)) bad

theorem writes_of_good {count : Option Int} {attempts : List Attempt}
    (good : ∀ a ∈ attempts, (a.write? count).isSome) (rest : List Attempt) :
    writes count (attempts ++ rest) =
      attempts.filterMap (Attempt.write? count) ++ writes count rest := by
  induction attempts with
  | nil => rfl
  | cons a more ih =>
    obtain ⟨write, written⟩ := Option.isSome_iff_exists.mp (good a List.mem_cons_self)
    have tail := ih fun b later => good b (List.mem_cons_of_mem a later)
    simp only [List.cons_append, writes, written, List.filterMap_cons, tail]

theorem writes_of_all_good {count : Option Int} {attempts : List Attempt}
    (good : ∀ a ∈ attempts, (a.write? count).isSome) :
    writes count attempts = attempts.filterMap (Attempt.write? count) := by
  have all := writes_of_good good []
  rw [List.append_nil, writes, List.append_nil] at all
  exact all

theorem writes_of_first_bad {count : Option Int} {done rest : List Attempt} {bad : Attempt}
    (good : ∀ a ∈ done, (a.write? count).isSome) (nothing : bad.write? count = none) :
    writes count (done ++ bad :: rest) = done.filterMap (Attempt.write? count) := by
  rw [writes_of_good good, writes, nothing]
  exact List.append_nil _

/-- Every write of a pass is the write of one of its attempts. -/
theorem exists_attempt_of_mem_writes {count : Option Int} {attempts : List Attempt}
    {write : Nat × Value} (made : write ∈ writes count attempts) :
    ∃ a ∈ attempts, a.write? count = some write := by
  induction attempts with
  | nil => cases made
  | cons a rest ih =>
    rw [writes] at made
    cases written : a.write? count with
    | none =>
      rw [written] at made
      cases made
    | some first =>
      simp only [written, List.mem_cons] at made
      rcases made with rfl | later
      · exact ⟨a, List.mem_cons_self, written⟩
      · obtain ⟨b, member, made⟩ := ih later
        exact ⟨b, List.mem_cons_of_mem a member, made⟩

/-- The slot is none at all, the last known one or a filled one, and none of these exceeds it. -/
structure IsHighest (st : Statement) (highest : Nat) : Prop where
  attained : highest = 0 ∨ st.count = some (highest : Int) ∨
    ∃ value, Entries.find? st.slots highest = some value
  known : ∀ n, st.count = some n → n ≤ highest
  filled : ∀ slot value, Entries.find? st.slots slot = some value → slot ≤ highest

theorem isHighest_highest (st : Statement) : st.IsHighest st.highest := by
  have known : (st.count.getD 0).toNat ≤ st.highest := (foldr_max_bounds _ _).1
  refine ⟨?_, ?_, ?_⟩
  · rcases foldr_max_attained (Entries.keys st.slots) (st.count.getD 0).toNat with last | filled
    · change st.highest = _ at last
      cases count : st.count with
      | none =>
        rw [count] at last
        exact .inl last
      | some n =>
        rw [count, Option.getD_some] at last
        by_cases positive : 0 < n
        · right
          left
          rw [last]
          congr 1
          omega
        · left
          omega
    · exact .inr (.inr ((Entries.mem_keys_iff _ _).mp filled))
  · intro n count
    rw [count, Option.getD_some] at known
    omega
  · intro slot value filled
    exact (foldr_max_bounds _ _).2 slot ((Entries.mem_keys_iff _ _).mpr ⟨value, filled⟩)

/-- Slots are read from a position on: all of them, or up to the first that holds nothing. -/
theorem readSlots_spec (slots : List (Nat × Value)) (position n : Nat) :
    (∃ values, readSlots slots position n = .ok values ∧ values.length = n ∧
      ∀ i, i < n → Entries.find? slots (position + i) = values[i]?) ∨
    ∃ gap, gap < n ∧ readSlots slots position n = .error (.unbound (position + gap)) ∧
      Entries.find? slots (position + gap) = none ∧
      ∀ i, i < gap → ∃ value, Entries.find? slots (position + i) = some value := by
  induction n generalizing position with
  | zero => exact .inl ⟨[], rfl, rfl, by omega⟩
  | succ n ih =>
    cases found : Entries.find? slots position with
    | none => exact .inr ⟨0, by omega, by simp [readSlots, found], found, by omega⟩
    | some value =>
      have unfolded : readSlots slots position (n + 1) =
          (readSlots slots (position + 1) n).map (value :: ·) := by simp [readSlots, found]
      rcases ih (position + 1) with ⟨values, all, length, each⟩ | ⟨gap, inside, fails, none, filled⟩
      · refine .inl ⟨value :: values, by rw [unfolded, all]; rfl, by simp [length], ?_⟩
        intro i bound
        cases i with
        | zero => exact found
        | succ i =>
          have := each i (by omega)
          rw [show position + 1 + i = position + (i + 1) by omega] at this
          exact this
      · have shift : position + 1 + gap = position + (gap + 1) := by omega
        rw [shift] at fails none
        refine .inr ⟨gap + 1, by omega, by rw [unfolded, fails]; rfl, none, ?_⟩
        intro i bound
        cases i with
        | zero => exact ⟨value, found⟩
        | succ i =>
          have := filled i (by omega)
          rw [show position + 1 + i = position + (i + 1) by omega] at this
          exact this

/-- The parameters are the values of all slots up to the highest, or else the least of these slots
is reported that holds nothing. -/
theorem parameters_spec (st : Statement) :
    match st.parameters with
    | .ok values => values.length = st.highest ∧
        ∀ i, i < st.highest → Entries.find? st.slots (i + 1) = values[i]?
    | .error e => ∃ gap, e = .unbound gap ∧ 1 ≤ gap ∧ gap ≤ st.highest ∧
        Entries.find? st.slots gap = none ∧
        ∀ slot, 1 ≤ slot → slot < gap → ∃ value, Entries.find? st.slots slot = some value := by
  rw [parameters]
  rcases readSlots_spec st.slots 1 st.highest with
    ⟨values, all, length, each⟩ | ⟨gap, inside, fails, none, filled⟩
  · rw [all]
    refine ⟨length, fun i bound => ?_⟩
    rw [Nat.add_comm]
    exact each i bound
  · rw [fails]
    refine ⟨1 + gap, rfl, by omega, by omega, none, fun slot low high => ?_⟩
    have found := filled (slot - 1) (by omega)
    rw [show 1 + (slot - 1) = slot by omega] at found
    exact found

/-- Where all slots up to the highest are known to be filled, the parameters are their values. -/
theorem parameters_of_filled {st : Statement} {values : List Value}
    (highest : st.highest = values.length)
    (filled : ∀ i, i < values.length → Entries.find? st.slots (i + 1) = values[i]?) :
    st.parameters = .ok values := by
  have spec := st.parameters_spec
  cases read : st.parameters with
  | ok found =>
    rw [read] at spec
    obtain ⟨length, each⟩ := spec
    congr 1
    apply List.ext_getElem? fun i => ?_
    by_cases bound : i < values.length
    · rw [← each i (by omega), ← filled i bound]
    · rw [List.getElem?_eq_none (by omega), List.getElem?_eq_none (by omega)]
  | error e =>
    rw [read] at spec
    obtain ⟨gap, _, low, high, none, _⟩ := spec
    have value := filled (gap - 1) (by omega)
    rw [show gap - 1 + 1 = gap by omega, none, List.getElem?_eq_getElem (by omega)] at value
    cases value

end Statement

def driverValue (pair : String × Value) : Except Error Value :=
  pair.2.toDriver (some pair.1)

def driverValues (pairs : List (String × Value)) : Except Error (List Value) :=
  pairs.mapM driverValue

namespace Statement

/-- A pass over consecutive slots that exist keeps the driver values there, in order. -/
theorem assignAll_number (st : Statement) (start : Nat) (pairs : List (String × Value))
    (room : ∀ n ∈ st.count, (start + pairs.length : Int) ≤ n) :
    match driverValues pairs with
    | .ok values => ∃ slots,
        st.assignAll (Assignment.number start pairs) = (.ok (), { st with slots }) ∧
        ∀ slot, Entries.find? slots slot =
          if start < slot ∧ slot ≤ start + values.length then values[slot - (start + 1)]?
          else Entries.find? st.slots slot
    | .error e => (st.assignAll (Assignment.number start pairs)).1 = .error e := by
  induction pairs generalizing st start with
  | nil =>
    refine ⟨st.slots, rfl, fun slot => ?_⟩
    rw [if_neg (by simp)]
  | cons pair rest ih =>
    have admitted : Admits st.count (start + 1) := by
      refine ⟨by omega, fun n known => ?_⟩
      have := room n known
      simp only [List.length_cons] at this
      omega
    rw [driverValues, mapM_cons, Assignment.number, assignAll, ← driverValues]
    simp only [driverValue]
    cases converts : pair.2.toDriver (some pair.1) with
    | error e =>
      have bad : Attempt.write? st.count ⟨start + 1, pair.2, some pair.1⟩ = none := by
        simp [Attempt.write?, converts, Except.toOption]
      obtain ⟨reason, refused, same⟩ := assign_of_no_write bad
      have : reason = e := by
        have := same admitted
        rw [converts] at this
        exact (Except.error.inj this).symm
      simp only [refused, this]
    | ok value =>
      have good : Attempt.write? st.count ⟨start + 1, pair.2, some pair.1⟩ =
          some (start + 1, value) :=
        Attempt.write?_eq_some_iff.mpr ⟨admitted, converts, rfl⟩
      have rest_room : ∀ n ∈ st.count, ((start + 1 : Nat) + rest.length : Int) ≤ n := by
        intro n known
        have := room n known
        simp only [List.length_cons] at this
        omega
      have later := ih { st with slots := Entries.put st.slots (start + 1) value } (start + 1)
        rest_room
      simp only [assign_of_write good]
      rw [Int.natCast_add, Int.natCast_one] at later
      cases converted : driverValues rest with
      | error e =>
        rw [converted] at later
        exact later
      | ok values =>
        rw [converted] at later
        obtain ⟨slots, filled, found⟩ := later
        refine ⟨slots, filled, fun slot => ?_⟩
        rw [found slot, Entries.find?_put, List.length_cons]
        by_cases first : start + 1 = slot
        · subst slot
          simp
        · rw [if_neg first]
          by_cases inside : start + 1 < slot ∧ slot ≤ start + 1 + values.length
          · rw [if_pos inside, if_pos (by omega),
              show slot - (start + 1) = slot - (start + 1 + 1) + 1 by omega]
            rfl
          · rw [if_neg inside, if_neg (by omega)]

/-- A fresh statement with a slot for each value takes them all, and they are its parameters. -/
theorem assignAll_fresh (st : Statement) (pairs : List (String × Value)) (empty : st.slots = [])
    (count : st.count = some (pairs.length : Int)) :
    match driverValues pairs with
    | .ok values => ∃ slots,
        st.assignAll (Assignment.number 0 pairs) = (.ok (), { st with slots }) ∧
        ({ st with slots } : Statement).parameters = .ok values
    | .error e => (st.assignAll (Assignment.number 0 pairs)).1 = .error e := by
  have room : ∀ n ∈ st.count, ((0 : Nat) + pairs.length : Int) ≤ n := by
    intro n known
    rw [count, Option.mem_some_iff] at known
    omega
  have pass := assignAll_number st 0 pairs room
  cases converted : driverValues pairs with
  | error e =>
    rw [converted] at pass
    exact pass
  | ok values =>
    rw [converted] at pass
    obtain ⟨slots, filled, found⟩ := pass
    have length : values.length = pairs.length := by
      have := congrArg List.length (mapM_eq_ok_iff.mp converted)
      simpa using this.symm
    have empty_find : ∀ slot, Entries.find? st.slots slot = none := by
      intro slot
      rw [empty]
      rfl
    refine ⟨slots, filled, parameters_of_filled ?_ fun i bound => ?_⟩
    · obtain ⟨attained, known, _⟩ := isHighest_highest { st with slots }
      have least := known _ count
      rcases attained with zero | last | ⟨value, top⟩
      · omega
      · have := Option.some.inj (count.symm.trans last)
        omega
      · rw [found, empty_find] at top
        split at top
        · omega
        · cases top
    · rw [found, if_pos (by omega)]
      rfl

end Statement
end SqlTemplate
