/-
The order of names: the null name comes first, the others follow in the order of their characters.
-/
import RecordKeys.Name.Casing

namespace RecordKeys.Name

/-- Whether one name comes before another. -/
def before : Name → Name → Bool
  | _, none => false
  | none, some _ => true
  | some a, some b => decide (a < b)

/-- Adds a name to names in their order, unless it is among them. -/
def insert (n : Name) : List Name → List Name
  | [] => [n]
  | m :: rest =>
    if before n m then n :: m :: rest
    else if n = m then m :: rest
    else m :: insert n rest

/-- Adds names one by one. -/
def insertAll (new names : List Name) : List Name := new.foldl (fun names n => insert n names) names

theorem mem_insert {n m : Name} {names : List Name} : m ∈ insert n names ↔ m = n ∨ m ∈ names := by
  induction names with
  | nil => simp [insert]
  | cons k rest ih =>
    unfold insert
    split
    · simp
    · split
      · rename_i h; simp [h]
      · simp only [List.mem_cons, ih]
        constructor
        · rintro (h | h | h) <;> simp [h]
        · rintro (h | h | h) <;> simp [h]

theorem mem_insertAll {m : Name} {new names : List Name} :
    m ∈ insertAll new names ↔ m ∈ new ∨ m ∈ names := by
  induction new generalizing names with
  | nil => simp [insertAll]
  | cons n new ih =>
    rw [insertAll, List.foldl_cons, ← insertAll, ih, mem_insert, List.mem_cons]
    constructor
    · rintro (h | h | h) <;> simp [h]
    · rintro ((h | h) | h) <;> simp [h]

end RecordKeys.Name
