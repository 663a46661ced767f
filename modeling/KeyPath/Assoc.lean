/-!
# Finite maps as ascending association lists

A map is a list of entries whose keys ascend strictly. Inserting keeps the list ascending and
replaces the value of an equal key, so building a map from a list keeps the last value given
for each key.
-/

namespace KeyPath.Assoc

variable {α β : Type} [Ord α]

/-- Put an entry at its place, in exchange for the entry of an equal key. -/
def insert (key : α) (value : β) : List (α × β) → List (α × β)
  | [] => [(key, value)]
  | (key', value') :: rest =>
    match compare key key' with
    | .lt => (key, value) :: (key', value') :: rest
    | .eq => (key, value) :: rest
    | .gt => (key', value') :: insert key value rest

def get? (key : α) : List (α × β) → Option β
  | [] => none
  | (key', value) :: rest =>
    match compare key key' with
    | .eq => some value
    | _ => get? key rest

/-- The map with the last value given for each key. -/
def ofList (entries : List (α × β)) : List (α × β) :=
  entries.foldl (fun map entry => insert entry.1 entry.2 map) []

@[simp] theorem ofList_nil : ofList ([] : List (α × β)) = [] := rfl

theorem ofList_append_singleton (entries : List (α × β)) (key : α) (value : β) :
    ofList (entries ++ [(key, value)]) = insert key value (ofList entries) := by
  simp [ofList, List.foldl_append]

/-- Where only identical keys compare equal, a map is read at the identical key. -/
theorem get?_eq_lookup [Std.LawfulEqOrd α] [BEq α] [LawfulBEq α] (key : α)
    (entries : List (α × β)) : get? key entries = entries.lookup key := by
  induction entries with
  | nil => rfl
  | cons entry rest ih =>
    obtain ⟨key', value⟩ := entry
    by_cases h : key = key'
    · subst h
      simp [get?]
    · have hc : compare key key' ≠ .eq := by simpa using h
      have hb : (key == key') = false := by simpa using h
      rw [get?, List.lookup_cons, hb]
      cases hk : compare key key' <;> simp_all

end KeyPath.Assoc
