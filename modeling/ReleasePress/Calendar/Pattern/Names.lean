/-!
# Names of months and weekdays

The English names that date patterns write and read, each with its short form of three letters.

## Main declarations

* `DateName.months`, `DateName.weekdays`: short form and the rest of the name.
-/

namespace ReleasePress.DateName

/-- The short form of each month and the rest of its name. -/
def months : List (String × String) :=
  [("Jan", "uary"), ("Feb", "ruary"), ("Mar", "ch"), ("Apr", "il"), ("May", ""), ("Jun", "e"),
    ("Jul", "y"), ("Aug", "ust"), ("Sep", "tember"), ("Oct", "ober"), ("Nov", "ember"),
    ("Dec", "ember")]

/-- The short form of each weekday, from Monday, and the rest of its name. -/
def weekdays : List (String × String) :=
  [("Mon", "day"), ("Tue", "sday"), ("Wed", "nesday"), ("Thu", "rsday"), ("Fri", "day"),
    ("Sat", "urday"), ("Sun", "day")]

/-- The short form of the name with the given index. -/
def short (names : List (String × String)) (index : Nat) : String :=
  ((names[index]?).map (·.1)).getD ""

/-- The whole name with the given index. -/
def long (names : List (String × String)) (index : Nat) : String :=
  ((names[index]?).map fun (head, tail) => head ++ tail).getD ""

end ReleasePress.DateName
