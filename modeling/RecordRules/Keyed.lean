/-!
Lists of pairs in which a key finds one entry, as in an object or a table of fields. Putting an
entry in keeps the place of a key that is there and otherwise adds to the end, so the keys stay
different from each other and in the order in which they first came.
-/

namespace RecordRules.Keyed

def find? (key : String) : List (String × α) → Option α
  | [] => none
  | e :: entries => if e.1 = key then some e.2 else find? key entries

def put (key : String) (a : α) : List (String × α) → List (String × α)
  | [] => [(key, a)]
  | e :: entries => if e.1 = key then (key, a) :: entries else e :: put key a entries

def keys (entries : List (String × α)) : List String :=
  entries.map Prod.fst

@[simp] theorem find?_nil (key : String) : find? key ([] : List (String × α)) = none := rfl

@[simp] theorem find?_put_self (key : String) (a : α) (entries : List (String × α)) :
    find? key (put key a entries) = some a := by
  induction entries with
  | nil => simp [put, find?]
  | cons e entries ih =>
      simp only [put]
      split
      · simp [find?]
      next h => simp [find?, h, ih]

theorem find?_put_of_ne {key other : String} (h : key ≠ other) (a : α)
    (entries : List (String × α)) : find? other (put key a entries) = find? other entries := by
  induction entries with
  | nil => simp [put, find?, h]
  | cons e entries ih =>
      simp only [put]
      split
      next he => simp [find?, h, he]
      · simp only [find?, ih]

theorem keys_put (key : String) (a : α) (entries : List (String × α)) :
    keys (put key a entries) =
      if key ∈ keys entries then keys entries else keys entries ++ [key] := by
  induction entries with
  | nil => simp [put, keys]
  | cons e entries ih =>
      simp only [put]
      split
      next he => simp [keys, ← he]
      next he =>
        simp only [keys, List.map_cons] at ih ⊢
        rw [ih]
        have hne : ¬ key = e.1 := fun h => he h.symm
        by_cases hk : key ∈ entries.map Prod.fst <;> simp [hk, hne]

theorem nodup_keys_put (key : String) (a : α) {entries : List (String × α)}
    (h : (keys entries).Nodup) : (keys (put key a entries)).Nodup := by
  rw [keys_put]
  split
  · exact h
  next hk =>
    rw [List.nodup_append]
    refine ⟨h, by simp, ?_⟩
    intro a ha b hb
    simp only [List.mem_singleton] at hb
    subst hb
    intro hab
    exact hk (hab ▸ ha)

theorem find?_isSome_iff {key : String} {entries : List (String × α)} :
    (find? key entries).isSome ↔ key ∈ keys entries := by
  induction entries with
  | nil => simp [keys]
  | cons e entries ih =>
      simp only [find?, keys, List.map_cons, List.mem_cons]
      split
      next h => simp [h]
      next h =>
        have hne : ¬ key = e.1 := fun k => h k.symm
        simp [hne, ih, keys]

end RecordRules.Keyed
