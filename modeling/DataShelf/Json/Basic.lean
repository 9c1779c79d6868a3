import DataShelf.Number.Shortest

/-!
# JSON values

An object is a list of keys and values in the order they were first given. Setting a key that is
there keeps its position and takes the new value (`setField`), so an object made by `objectOf`
names each key once.
-/

namespace DataShelf
set_option autoImplicit false

/-- A JSON value. Numbers written as integers of 64 bits stay integers, others are doubles. -/
inductive Json where
  | null
  | bool (b : Bool)
  | integer (n : Int)
  | float (x : Number.Double)
  | string (s : String)
  | array (items : List Json)
  | object (fields : List (String × Json))
  deriving Inhabited

namespace Json

/-- The fields of an object, in order. -/
abbrev Fields := List (String × Json)

/-- Gives a key a value: in place if the key is known, at the end otherwise. -/
def setField (key : String) (value : Json) : Fields → Fields
  | [] => [(key, value)]
  | (k, v) :: rest =>
    if k = key then (k, value) :: rest else (k, v) :: setField key value rest

/-- The fields that result from giving each key its value, one after the other. -/
def objectOf (pairs : Fields) : Fields :=
  pairs.foldl (fun fields pair => setField pair.1 pair.2 fields) []

/-- The value under a key. -/
def lookup? (key : String) : Fields → Option Json
  | [] => none
  | (k, v) :: rest => if k = key then some v else lookup? key rest

/-- The value under a key of an object; nothing for other values. -/
def field? (j : Json) (key : String) : Option Json :=
  match j with
  | .object fields => lookup? key fields
  | _ => none

def isNull : Json → Bool
  | .null => true
  | _ => false

/-- An object of the fields that have a value. -/
def record (fields : List (String × Option Json)) : Json :=
  .object (fields.filterMap fun pair => pair.2.map fun j => (pair.1, j))

/-- An array of texts. -/
def texts (items : List String) : Json := .array (items.map .string)

/-- A natural number as a JSON integer. -/
def nat (n : Nat) : Json := .integer n

theorem keys_setField (key : String) (value : Json) (fields : Fields) :
    (setField key value fields).map (·.1) =
      if key ∈ fields.map (·.1) then fields.map (·.1) else fields.map (·.1) ++ [key] := by
  induction fields with
  | nil => simp [setField]
  | cons pair rest ih =>
    obtain ⟨k, v⟩ := pair
    by_cases h : k = key
    · simp [setField, h]
    · have h' : ¬key = k := fun e => h e.symm
      simp only [setField, h, if_false, List.map_cons, ih, List.mem_cons, h', false_or]
      split <;> simp

theorem lookup?_setField (key : String) (value : Json) (fields : Fields) (k : String) :
    lookup? k (setField key value fields) = if k = key then some value else lookup? k fields := by
  induction fields with
  | nil => simp [setField, lookup?, eq_comm]
  | cons pair rest ih =>
    obtain ⟨k', v⟩ := pair
    by_cases h : k' = key
    · subst h
      by_cases hk : k = k'
      · simp [setField, lookup?, hk]
      · have hk' : ¬k' = k := fun e => hk e.symm
        simp [setField, lookup?, hk, hk']
    · by_cases hk : k' = k
      · subst hk
        simp [setField, lookup?, h]
      · simp [setField, lookup?, h, hk, ih]

end Json
end DataShelf
