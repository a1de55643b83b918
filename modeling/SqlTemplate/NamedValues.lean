import SqlTemplate.Value.Basic

/-!
# Values under names

Parameters and columns are values under distinct names, in the order in which the names first
arrived. Writing under a name that is present replaces the value and moves nothing. The order
decides the text of statements and the slots of their values.
-/

namespace SqlTemplate

namespace Entries

variable {κ α : Type} [DecidableEq κ]

/-- Writes under a key: in place if the key is present, at the end otherwise. -/
def put : List (κ × α) → κ → α → List (κ × α)
  | [], key, value => [(key, value)]
  | entry :: rest, key, value =>
    if entry.1 = key then (key, value) :: rest else entry :: put rest key value

def find? : List (κ × α) → κ → Option α
  | [], _ => none
  | entry :: rest, key => if entry.1 = key then some entry.2 else find? rest key

def putAll (entries pairs : List (κ × α)) : List (κ × α) :=
  pairs.foldl (fun done pair => put done pair.1 pair.2) entries

def keys (entries : List (κ × α)) : List κ := entries.map Prod.fst

theorem keys_put (entries : List (κ × α)) (key : κ) (value : α) :
    keys (put entries key value) =
      if key ∈ keys entries then keys entries else keys entries ++ [key] := by
  induction entries with
  | nil => simp [put, keys]
  | cons entry rest ih =>
    by_cases same : entry.1 = key
    · simp [put, keys, same]
    · have other : ¬ key = entry.1 := fun h => same h.symm
      have step : keys (put (entry :: rest) key value) = entry.1 :: keys (put rest key value) := by
        simp [put, keys, same]
      rw [step, ih]
      by_cases present : key ∈ keys rest
      · have held : key ∈ keys (entry :: rest) := List.mem_cons_of_mem _ present
        rw [if_pos present, if_pos held]
        rfl
      · have absent : key ∉ keys (entry :: rest) := fun held =>
          (List.mem_cons.mp held).elim other present
        rw [if_neg present, if_neg absent]
        rfl

theorem find?_put (entries : List (κ × α)) (key other : κ) (value : α) :
    find? (put entries key value) other =
      if key = other then some value else find? entries other := by
  induction entries with
  | nil => simp [put, find?]
  | cons entry rest ih =>
    by_cases same : entry.1 = key
    · by_cases hit : key = other <;> simp [put, find?, same, hit]
    · have step : put (entry :: rest) key value = entry :: put rest key value := by simp [put, same]
      rw [step, find?, find?, ih]
      by_cases hit : entry.1 = other
      · have miss : ¬ key = other := fun h => same (hit.trans h.symm)
        rw [if_pos hit, if_pos hit, if_neg miss]
      · rw [if_neg hit, if_neg hit]

theorem nodup_keys_put {entries : List (κ × α)} (distinct : (keys entries).Nodup) (key : κ)
    (value : α) : (keys (put entries key value)).Nodup := by
  rw [keys_put]
  split
  · exact distinct
  · next absent =>
    rw [List.nodup_append]
    exact ⟨distinct, by simp, by
      intro a ha b hb same
      simp only [List.mem_singleton] at hb
      exact absent (hb ▸ same ▸ ha)⟩

theorem nodup_keys_putAll {entries : List (κ × α)} (distinct : (keys entries).Nodup)
    (pairs : List (κ × α)) : (keys (putAll entries pairs)).Nodup := by
  induction pairs generalizing entries with
  | nil => exact distinct
  | cons pair rest ih => exact ih (nodup_keys_put distinct pair.1 pair.2)

end Entries

/-- Values under distinct names, in order. -/
structure NamedValues where
  entries : List (String × Value)
  distinct : (Entries.keys entries).Nodup

namespace NamedValues

def empty : NamedValues := ⟨[], List.nodup_nil⟩

/-- A repeated name keeps its first place and takes its last value. -/
def ofPairs (pairs : List (String × Value)) : NamedValues :=
  ⟨Entries.putAll [] pairs, Entries.nodup_keys_putAll (by simp [Entries.keys]) pairs⟩

def names (values : NamedValues) : List String := Entries.keys values.entries

def size (values : NamedValues) : Nat := values.entries.length

/-- The value under a name; a missing name counts as null. -/
def get (values : NamedValues) (name : String) : Value :=
  (Entries.find? values.entries name).getD .null

/-- The name is present and its value is not null. -/
def provides (values : NamedValues) (name : String) : Bool :=
  !(values.get name).isNull

end NamedValues
end SqlTemplate
