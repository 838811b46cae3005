/-
# StartSignal.Json.Members -- named values in the order of their names

A list of named values, kept in increasing order of the names (code point by code
point) and with every name at most once.  `insert` keeps that order and replaces
the value of a name that is there already; `ofList` therefore gives the last of
several values of one name.
-/

namespace StartSignal

abbrev Members (α : Type) := List (String × α)

namespace Members

variable {α : Type}

/-- The names strictly increase, so each stands once. -/
def Ordered (ms : Members α) : Prop := ms.Pairwise fun a b => a.1 < b.1

def get? : Members α → String → Option α
  | [], _ => none
  | (k, v) :: ms, key => if k = key then some v else get? ms key

/-- Give a name a value, in place of the one it had. -/
def insert : Members α → String → α → Members α
  | [], key, value => [(key, value)]
  | (k, v) :: ms, key, value =>
    if key = k then (key, value) :: ms
    else if key < k then (key, value) :: (k, v) :: ms
    else (k, v) :: insert ms key value

def keys (ms : Members α) : List String := ms.map (·.1)

/-- The last value given to each name. -/
def ofList (ms : List (String × α)) : Members α :=
  ms.foldl (fun acc m => acc.insert m.1 m.2) []

theorem get?_insert_self (ms : Members α) (key : String) (value : α) :
    (ms.insert key value).get? key = some value := by
  induction ms with
  | nil => simp [insert, get?]
  | cons m ms ih =>
    simp only [insert]
    split
    · simp [get?]
    · split
      · simp [get?]
      · rename_i ne _
        simp [get?, Ne.symm ne, ih]

theorem get?_insert_ne (ms : Members α) {key other : String} (value : α) (ne : other ≠ key) :
    (ms.insert key value).get? other = ms.get? other := by
  induction ms with
  | nil => simp [insert, get?, Ne.symm ne]
  | cons m ms ih =>
    simp only [insert]
    split
    · rename_i same
      simp [get?, ← same, Ne.symm ne]
    · split
      · simp [get?, Ne.symm ne]
      · simp [get?, ih]

end Members

end StartSignal
