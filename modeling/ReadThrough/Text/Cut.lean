/-!
# Cutting text at a separator

The first separator divides a text in two, and all separators together divide it into fields.
Nothing else is touched: a text without separators is its own first part and its only field.
-/

set_option autoImplicit false

namespace ReadThrough.Text

/-- What stands before and after the first of some characters; that one is left out. -/
def cutAt (c : Char) (cs : List Char) : List Char × Option (List Char) :=
  match cs.span (· ≠ c) with
  | (before, _ :: after) => (before, some after)
  | (before, []) => (before, none)

/-- What stands before and after the last of some characters; without one, all stands after. -/
def cutAtLast (c : Char) (cs : List Char) : Option (List Char) × List Char :=
  match cutAt c cs.reverse with
  | (after, some before) => (some before.reverse, after.reverse)
  | (_, none) => (none, cs)

/-- What stands between the separators, before the first and after the last. -/
def fields (separator : Char) : List Char → List (List Char)
  | [] => [[]]
  | c :: rest =>
    match fields separator rest with
    | [] => [[c]]
    | field :: more => if c = separator then [] :: field :: more else (c :: field) :: more

/-- The fields with the separator between them. -/
def joinFields (separator : Char) : List (List Char) → List Char
  | [] => []
  | [field] => field
  | field :: more => field ++ separator :: joinFields separator more

end ReadThrough.Text
