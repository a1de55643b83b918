import SqlTemplate.Proofs.CursorAccounts
import SqlTemplate.Proofs.QueryBinding
import SqlTemplate.Proofs.StepEvents
import SqlTemplate.Proofs.TableBinding

/-!
# Resolving a target

A call works on the database that its target resolves to. The dialect of that database is the one
asked for, or the target's own, or the one found for the driver, and its connection is the
target's. To resolve it once more, in the same dialect, gives the same database. Resolving happens
without a trace, and a dialect that was found for a driver can always write markers.

Dialects are one or two by their tags, so all of this rests on the tags. In a session they are
given out in order, each to one dialect. -/

namespace SqlTemplate

namespace Dialect

end Dialect

namespace Target

/-- The dialect asked for has a tag, and if this is the tag of the target's own dialect then it is
that dialect. -/
def Tells (target : Target) (asked : Option Dialect) : Prop :=
  ∀ d, asked = some d → d.tag.isSome ∧
    ∀ db, target = .database db → d.tag = db.dialect.tag → d = db.dialect

variable {target : Target} {asked : Option Dialect}

end Target

namespace Session

def dialects (s : Session) : List Dialect :=
  (s.connection.bind Connection.dialect).toList ++ s.databases.map Database.dialect

/-- Every dialect in use has one of the tags given out, and no two of them have the same tag. -/
structure TagsIdentify (s : Session) : Prop where
  given : ∀ d ∈ s.dialects, ∃ tag, d.tag = some tag ∧ tag < s.tags
  identify : ∀ a ∈ s.dialects, ∀ b ∈ s.dialects, a.tag = b.tag → a = b

/-- A dialect was in use before or has a tag that was given out since. -/
def Admits (s now : Session) (d : Dialect) : Prop :=
  d ∈ s.dialects ∨ ∃ tag, d.tag = some tag ∧ s.tags ≤ tag ∧ tag < now.tags

/-- What a step can do to the dialects in use: one may come to those that were there. -/
def Extends (s now : Session) : Prop :=
  s.tags ≤ now.tags ∧
    (now.dialects = s.dialects ∨ ∃ d, s.Admits now d ∧ now.dialects = s.dialects ++ [d])

variable {s now : Session}

theorem mem_dialects_of_database {db : Database} (member : db ∈ s.databases) :
    db.dialect ∈ s.dialects :=
  List.mem_append_right _ (List.mem_map_of_mem member)

/-- A dialect that was in use is told by its tag from any that comes later. -/
theorem TagsIdentify.admits (tags : s.TagsIdentify) {d : Dialect} (admitted : s.Admits now d)
    {other : Dialect} (held : other ∈ s.dialects) (alike : d.tag = other.tag) : d = other := by
  rcases admitted with old | ⟨tag, tagged, late, _⟩
  · exact tags.identify d old other held alike
  · obtain ⟨earlier, given, early⟩ := tags.given other held
    rw [tagged, given] at alike
    cases alike
    omega

theorem Extends.admits (step : s.Extends now) {d : Dialect} (held : d ∈ now.dialects) :
    s.Admits now d := by
  obtain ⟨_, same | ⟨added, admitted, dialects⟩⟩ := step
  · exact .inl (same ▸ held)
  · rw [dialects] at held
    rcases List.mem_append.mp held with old | last
    · exact .inl old
    · rw [List.mem_singleton.mp last]
      exact admitted

theorem TagsIdentify.tagged (tags : s.TagsIdentify) (more : s.tags ≤ now.tags) {d : Dialect}
    (admitted : s.Admits now d) : ∃ tag, d.tag = some tag ∧ tag < now.tags := by
  rcases admitted with old | ⟨tag, tagged, _, given⟩
  · obtain ⟨tag, tagged, early⟩ := tags.given d old
    exact ⟨tag, tagged, Nat.lt_of_lt_of_le early more⟩
  · exact ⟨tag, tagged, given⟩

/-- A dialect that is introduced has a tag that is new, unless it had one before. -/
theorem introduce_admits {d : Dialect} (known : d.tag.isSome = true → s.Admits now d)
    (later : s.tags ≤ now.tags) :
    s.tags ≤ (now.introduce d).2.tags ∧ s.Admits (now.introduce d).2 (now.introduce d).1 := by
  rw [introduce]
  split
  · next tagged => exact ⟨later, known tagged⟩
  · exact ⟨Nat.le_succ_of_le later, .inr ⟨now.tags, rfl, later, Nat.lt_succ_self _⟩⟩

theorem choose_admits {choice : DialectChoice} {asked : Option Dialect}
    (chose : s.choose choice = .ok (asked, now)) :
    s.tags ≤ now.tags ∧ ∀ d, asked = some d → s.Admits now d := by
  cases choice with
  | unspecified =>
    cases chose
    refine ⟨Nat.le_refl _, ?_⟩
    rintro d ⟨⟩
  | made family styleName =>
    let d : Dialect := ⟨family, styleName, none⟩
    have introduced : s.tags ≤ (s.introduce d).2.tags ∧
        s.Admits (s.introduce d).2 (s.introduce d).1 := introduce_admits nofun (Nat.le_refl _)
    cases chose
    refine ⟨introduced.1, ?_⟩
    rintro d ⟨⟩
    exact introduced.2
  | ofDatabase index =>
    rw [choose] at chose
    cases found : s.database? index with
    | error e =>
      rw [found] at chose
      cases chose
    | ok db =>
      rw [found] at chose
      cases chose
      refine ⟨Nat.le_refl _, ?_⟩
      rintro d ⟨⟩
      exact .inl (mem_dialects_of_database (List.mem_of_getElem? (database?_eq_ok found)))

/-- Where tags tell dialects apart, they tell the dialect of a choice from the one of a target. -/
theorem TagsIdentify.tells (tags : s.TagsIdentify) {name : TargetName} {target : Target}
    {choice : DialectChoice} {asked : Option Dialect} (found : s.target? name = .ok target)
    (chose : s.choose choice = .ok (asked, now)) : target.Tells asked := by
  intro d same
  obtain ⟨more, admits⟩ := choose_admits chose
  have admitted := admits d same
  constructor
  · obtain ⟨tag, tagged, _⟩ := tags.tagged more admitted
    rw [tagged, Option.isSome_some]
  · rintro db rfl alike
    exact tags.admits admitted (mem_dialects_of_database (mem_databases_of_target? found)) alike

end Session

end SqlTemplate
