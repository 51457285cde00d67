/-!
# Dictionaries ordered by key

A `Dictionary` is a list of keys and values in ascending order of the keys, each key once. `put` and
`without` keep it so; `valueOf?` looks a key up. Keys are ordered by their code points, which is
also the order of their UTF-8 bytes.
-/

namespace TestMatrix

/-- Keys with their values, in ascending order of the keys. -/
abbrev Dictionary (α : Type) := List (String × α)

namespace Dictionary

variable {α : Type}

/-- Sets the value of a key, replacing the one it had. -/
def put (key : String) (value : α) : Dictionary α → Dictionary α
  | [] => [(key, value)]
  | (k, v) :: rest =>
    if key < k then (key, value) :: (k, v) :: rest
    else if key = k then (key, value) :: rest
    else (k, v) :: put key value rest

/-- The value of a key. -/
def valueOf? (d : Dictionary α) (key : String) : Option α :=
  (d.find? fun entry => entry.1 == key).map (·.2)

/-- The dictionary without a key. -/
def without (d : Dictionary α) (key : String) : Dictionary α :=
  d.filter fun entry => entry.1 != key

/-- The dictionary of some pairs; of pairs with the same key the last one counts. -/
def ofPairs (pairs : List (String × α)) : Dictionary α :=
  pairs.foldl (fun d entry => put entry.1 entry.2 d) []

theorem ofPairs_nil : ofPairs ([] : List (String × α)) = [] := rfl

/-- The last pair is put into the dictionary of the others. -/
theorem ofPairs_concat (pairs : List (String × α)) (key : String) (value : α) :
    ofPairs (pairs ++ [(key, value)]) = put key value (ofPairs pairs) := by
  simp [ofPairs]

/-- A key that was put has the value that was put. -/
theorem valueOf?_put_self (key : String) (value : α) (d : Dictionary α) :
    (put key value d).valueOf? key = some value := by
  induction d with
  | nil => simp [put, valueOf?]
  | cons entry rest ih =>
    obtain ⟨k, v⟩ := entry
    simp only [put]
    split
    · simp [valueOf?]
    · split
      · simp [valueOf?]
      · next h => simpa [valueOf?, Ne.symm h] using ih

/-- Putting a key leaves the others alone. -/
theorem valueOf?_put_of_ne {key other : String} (h : other ≠ key) (value : α) (d : Dictionary α) :
    (put key value d).valueOf? other = d.valueOf? other := by
  induction d with
  | nil => simp [put, valueOf?, Ne.symm h]
  | cons entry rest ih =>
    obtain ⟨k, v⟩ := entry
    simp only [put]
    split
    · simp [valueOf?, Ne.symm h]
    · split
      · next hk => subst hk; simp [valueOf?, Ne.symm h]
      · by_cases hk : k = other
        · subst hk; simp [valueOf?]
        · simpa [valueOf?, hk] using ih

/-- A key that is taken out may as well not have been put. -/
theorem without_put_self (key : String) (value : α) (d : Dictionary α) :
    (put key value d).without key = d.without key := by
  induction d with
  | nil => simp [put, without]
  | cons entry rest ih =>
    obtain ⟨k, v⟩ := entry
    simp only [put]
    split
    · simp [without]
    · split
      · next hk => simp [without, hk]
      · next hk => simpa [without, Ne.symm hk] using ih

/-- Keys may be taken out in any order. -/
theorem without_comm (d : Dictionary α) (key other : String) :
    (d.without key).without other = (d.without other).without key := by
  simp only [without, List.filter_filter, Bool.and_comm]

end Dictionary

end TestMatrix
