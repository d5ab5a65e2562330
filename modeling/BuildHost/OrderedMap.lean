/-!
# Ordered maps

Maps as lists of pairs, each key once, in the order in which the keys first
came.
-/

namespace BuildHost
namespace OrderedMap

/-- Gives the key a value: in the place that the key has, or else at the end. -/
def insert {κ α : Type} [DecidableEq κ] (key : κ) (value : α) :
    List (κ × α) → List (κ × α)
  | [] => [(key, value)]
  | entry :: rest =>
    if entry.1 = key then (key, value) :: rest
    else entry :: insert key value rest

def insertNew {κ α : Type} [DecidableEq κ] (key : κ) (value : α)
    (entries : List (κ × α)) :
    List (κ × α) :=
  if (entries.lookup key).isSome then entries else entries ++ [(key, value)]

def ofList {κ α : Type} [DecidableEq κ] (entries : List (κ × α)) :
    List (κ × α) :=
  entries.foldl (fun map entry => insert entry.1 entry.2 map) []

end OrderedMap
end BuildHost
