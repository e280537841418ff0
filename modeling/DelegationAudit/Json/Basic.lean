namespace DelegationAudit

inductive Json
  | null
  | bool (b : Bool)
  | int (n : Int)
  | real (text : String)
  | str (s : String)
  | arr (items : List Json)
  | obj (fields : List (String × Json))
  deriving Inhabited

namespace Json

def strings (ss : List String) : Json := arr (ss.map str)

def ofOption : Option String → Json
  | some s => str s
  | none => null

def find? (key : String) : List (String × Json) → Option Json
  | [] => none
  | (k, v) :: rest => if k == key then some v else find? key rest

/-- Sets a field: one that is there keeps its place, a new one goes to the end. -/
def set (key : String) (value : Json) : List (String × Json) → List (String × Json)
  | [] => [(key, value)]
  | (k, v) :: rest => if k == key then (k, value) :: rest else (k, v) :: set key value rest

def ofFields (fields : List (String × Json)) : List (String × Json) :=
  fields.foldl (fun acc f => set f.1 f.2 acc) []

def field? (key : String) : Json → Option Json
  | obj fields => find? key fields
  | _ => none

theorem find?_set (key : String) (value : Json) (fields : List (String × Json)) :
    find? key (set key value fields) = some value := by
  induction fields with
  | nil => simp [set, find?]
  | cons f rest ih =>
    obtain ⟨k, v⟩ := f
    by_cases h : k == key <;> simp [set, find?, h, ih]

theorem find?_set_ne {key other : String} (h : other ≠ key) (value : Json)
    (fields : List (String × Json)) : find? other (set key value fields) = find? other fields := by
  induction fields with
  | nil => simp [set, find?, Ne.symm h]
  | cons f rest ih =>
    obtain ⟨k, v⟩ := f
    by_cases hk : k = key
    · subst hk; simp [set, find?, Ne.symm h]
    · simp only [set, find?, beq_iff_eq, hk, if_false]
      split
      · rfl
      · exact ih

end Json

end DelegationAudit
