import RecordRules.Text.Split

/-!
Cutting at the first separator or the last one. A text comes apart there if the part that was cut off
holds no separator, and a text without the separator is not cut.
-/

namespace RecordRules.Text

variable {sep : Char} {before after cs : List Char}

theorem cutFirst?_append_cons (h : sep ∉ before) (after : List Char) :
    cutFirst? sep (before ++ sep :: after) = some (before, after) := by
  induction before with
  | nil => simp [cutFirst?]
  | cons c before ih =>
      have hc : ¬ c = sep := fun hcs => h (hcs ▸ List.mem_cons_self)
      have hrest : sep ∉ before := fun hm => h (List.mem_cons_of_mem c hm)
      rw [List.cons_append, cutFirst?, if_neg hc, ih hrest]
      rfl

theorem cutFirst?_eq_none (h : sep ∉ cs) : cutFirst? sep cs = none := by
  induction cs with
  | nil => rfl
  | cons c cs ih =>
      have hc : ¬ c = sep := fun hcs => h (hcs ▸ List.mem_cons_self)
      have hrest : sep ∉ cs := fun hm => h (List.mem_cons_of_mem c hm)
      rw [cutFirst?, if_neg hc, ih hrest]
      rfl

theorem cutLast?_eq_none (h : sep ∉ cs) : cutLast? sep cs = none := by
  induction cs with
  | nil => rfl
  | cons c cs ih =>
      have hc : ¬ c = sep := fun hcs => h (hcs ▸ List.mem_cons_self)
      have hrest : sep ∉ cs := fun hm => h (List.mem_cons_of_mem c hm)
      rw [cutLast?, ih hrest]
      exact if_neg hc

theorem cutLast?_append_cons (h : sep ∉ after) (before : List Char) :
    cutLast? sep (before ++ sep :: after) = some (before, after) := by
  induction before with
  | nil =>
      rw [List.nil_append, cutLast?, cutLast?_eq_none h]
      exact if_pos rfl
  | cons c before ih => rw [List.cons_append, cutLast?, ih]

/-- A text that holds the separator holds it one last time. -/
theorem exists_eq_append_cons_of_mem (h : sep ∈ cs) :
    ∃ before after, cs = before ++ sep :: after ∧ sep ∉ after := by
  obtain ⟨after, before, hcs, hafter⟩ := List.eq_append_cons_of_mem (List.mem_reverse.2 h)
  refine ⟨before.reverse, after.reverse, ?_, fun hm => hafter (List.mem_reverse.1 hm)⟩
  rw [← cs.reverse_reverse, hcs]
  simp

end RecordRules.Text
