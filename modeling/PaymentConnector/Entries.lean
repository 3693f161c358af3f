/-!
Lists of named entries in which each name stands once. A name keeps the place where
it first arrived and has the value that arrived last.
-/

namespace PaymentConnector.Entries

variable {α : Type}

def put : List (String × α) → String → α → List (String × α)
  | [], key, value => [(key, value)]
  | (k, v) :: rest, key, value =>
    if k = key then (key, value) :: rest else (k, v) :: put rest key value

def ofList (entries : List (String × α)) : List (String × α) :=
  entries.foldl (fun es e => put es e.1 e.2) []

end PaymentConnector.Entries
