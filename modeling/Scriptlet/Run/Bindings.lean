/-
  Names with what they stand for, in the order in which they were first bound.
  Binding a name again changes what it stands for and keeps its place.
-/

namespace Scriptlet

/-- A list of bindings, oldest first. -/
structure Bindings (β : Type) where
  entries : List (String × β)

namespace Bindings

variable {β : Type}

/-- No bindings. -/
def empty : Bindings β := ⟨[]⟩

instance : Inhabited (Bindings β) := ⟨empty⟩

/-- The bound names, oldest first. -/
def names (b : Bindings β) : List String :=
  b.entries.map Prod.fst

/-- What a name stands for in a list of entries. -/
def find? (name : String) : List (String × β) → Option β
  | [] => none
  | (key, value) :: rest => if key = name then some value else find? name rest

/-- What a name stands for. -/
def get? (b : Bindings β) (name : String) : Option β :=
  find? name b.entries

/-- The entries with `name` standing for `value`. -/
def put (name : String) (value : β) : List (String × β) → List (String × β)
  | [] => [(name, value)]
  | (key, old) :: rest =>
    if key = name then (key, value) :: rest else (key, old) :: put name value rest

/-- The bindings with `name` standing for `value`. -/
def insert (b : Bindings β) (name : String) (value : β) : Bindings β :=
  ⟨put name value b.entries⟩

/-! ## Reading what was bound -/

theorem find?_put (name other : String) (value : β) (entries : List (String × β)) :
    find? other (put name value entries) =
      if name = other then some value else find? other entries := by
  induction entries with
  | nil => simp [put, find?]
  | cons entry rest ih => grind [put, find?]

/-- After a binding its name stands for the new value and every other name for what it did. -/
theorem get?_insert (b : Bindings β) (name other : String) (value : β) :
    (b.insert name value).get? other = if name = other then some value else b.get? other :=
  find?_put name other value b.entries

theorem map_fst_put (name : String) (value : β) (entries : List (String × β)) :
    (put name value entries).map Prod.fst =
      if name ∈ entries.map Prod.fst then entries.map Prod.fst
      else entries.map Prod.fst ++ [name] := by
  induction entries with
  | nil => simp [put]
  | cons entry rest ih => grind [put]

/-- A new name is added at the end, and a name that is bound keeps its place. -/
theorem names_insert (b : Bindings β) (name : String) (value : β) :
    (b.insert name value).names = if name ∈ b.names then b.names else b.names ++ [name] :=
  map_fst_put name value b.entries

/-! ## Entries -/

/-- What a name stands for is bound in one of the entries. -/
theorem mem_of_find? {name : String} {value : β} :
    ∀ {entries : List (String × β)}, find? name entries = some value → (name, value) ∈ entries
  | (key, old) :: rest, found => by
    unfold find? at found
    split at found
    next same =>
      cases found
      rw [← same]
      exact List.mem_cons_self
    next => exact List.mem_cons_of_mem _ (mem_of_find? found)

/-- An entry after a binding is the new one or was there before. -/
theorem mem_put {name : String} {value : β} {entry : String × β} :
    ∀ {entries : List (String × β)}, entry ∈ put name value entries →
      entry = (name, value) ∨ entry ∈ entries
  | [], member => .inl (List.mem_singleton.1 member)
  | (key, old) :: rest, member => by
    unfold put at member
    split at member
    next same =>
      rw [← same]
      rcases List.mem_cons.1 member with new | kept
      · exact .inl new
      · exact .inr (List.mem_cons_of_mem _ kept)
    next =>
      rcases List.mem_cons.1 member with first | later
      · exact .inr (List.mem_cons.2 (.inl first))
      · exact (mem_put later).imp id (List.mem_cons_of_mem _)

end Bindings

end Scriptlet
