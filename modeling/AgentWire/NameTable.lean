/-!
Tables from names to values. The entries stand in ascending order of their names, by code point, and
a name stands in a table once.
-/
namespace AgentWire

structure NameTable (α : Type) where
  entries : List (String × α)

namespace NameTable

variable {α : Type}

def empty : NameTable α := ⟨[]⟩

/-- Puts a value under a name among ascending entries, in place of what was there. -/
def put (name : String) (a : α) : List (String × α) → List (String × α)
  | [] => [(name, a)]
  | (n, b) :: rest =>
    if name = n then (name, a) :: rest
    else if name < n then (name, a) :: (n, b) :: rest
    else (n, b) :: put name a rest

def insert (t : NameTable α) (name : String) (a : α) : NameTable α :=
  ⟨put name a t.entries⟩

def get? (name : String) : List (String × α) → Option α
  | [] => none
  | (n, b) :: rest => if n = name then some b else get? name rest

def find? (t : NameTable α) (name : String) : Option α :=
  get? name t.entries

def names (t : NameTable α) : List String :=
  t.entries.map (·.1)

def ofList (entries : List (String × α)) : NameTable α :=
  entries.foldl (fun t (name, a) => t.insert name a) empty

end NameTable

end AgentWire
