import FleetLink.Value.Basic

/-! Dictionaries as lists of entries. A new key goes to the end; a key that is there
keeps its place and its spelling and takes what is put under it. -/

namespace FleetLink

abbrev Dict (α : Type) := List (Value × α)

/-- The entries of a value that is a dictionary. -/
abbrev Entries := Dict Value

namespace Dict

def get? (key : Value) : Dict α → Option α
  | [] => none
  | (k, v) :: rest => if k.sameKey key then some v else get? key rest

def getText? (key : String) (dict : Dict α) : Option α := get? (.text key) dict

def has (key : Value) (dict : Dict α) : Bool := (get? key dict).isSome

def put (key : Value) (value : α) : Dict α → Dict α
  | [] => [(key, value)]
  | (k, v) :: rest => if k.sameKey key then (k, value) :: rest else (k, v) :: put key value rest

/-- What putting entries one after another leaves. -/
def ofList (entries : List (Value × α)) : Dict α :=
  entries.foldl (fun done (k, v) => put k v done) []

theorem get?_put_self {key : Value} {value : α} (dict : Dict α) (reflexive : key.sameKey key = true) :
    get? key (put key value dict) = some value := by
  induction dict with
  | nil => simp [put, get?, reflexive]
  | cons entry rest ih =>
    obtain ⟨k, v⟩ := entry
    simp only [put]
    split
    next hit => simp [get?, hit]
    next miss => simp [get?, miss, ih]

end Dict

end FleetLink
