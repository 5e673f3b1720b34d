import Mathlib.Data.List.DropRight
import Mathlib.Data.List.Rotate
import Mathlib.Tactic.Common
import ReleasePress.Filter.Library
import ReleasePress.Proofs.Environment
import ReleasePress.Proofs.Git.Encoding

/-!
# Arguments by name

Templates name the arguments of a filter, and the filter gets them by position.  The list that it gets ends with the
last argument that was given, so a null that is given for a parameter can make the list longer.  Each filter takes the
list apart in its own way; what they have in common is that nil at the end is the same to them as nothing there
(`FilterLibrary.answer_append_nil`), up to as many arguments as they have parameters.  Only `attrs` tells the two apart.

A name that is none of the filter's is refused, and of several such names the one that is come across first is reported.
Which one that is depends on how the arguments are gone through, and so on a null among them, too.  Up to this choice
(`FilterLibrary.SameUpToUnknown`) null means left out: `FilterLibrary.positional_faithful`, which also says where each
argument ends up.
-/

namespace ReleasePress

variable {key : String} {fields fields' : Fields}

namespace FilterLibrary

variable {σ : Type} {traversal : Traversal} {filter : Filter} {named before after : Fields} {args : List Value}
variable {parameter : String}

/-! ## Nil at the end -/

/-- The names that are none of the filter's. -/
def unknownNames (filter : Filter) (named : Fields) : List String :=
  (named.map Prod.fst).filter fun name => !filter.parameters.contains name

theorem mem_unknownNames {name : String} :
    name ∈ unknownNames filter named ↔ name ∈ named.map Prod.fst ∧ name ∉ filter.parameters := by
  simp [unknownNames]

/-- A traversal comes across the same names, in an order of its own. -/
theorem mem_map_order {name : String} : name ∈ (traversal.order named).map Prod.fst ↔ name ∈ named.map Prod.fst :=
  ((traversal.perm named).map Prod.fst).mem_iff

theorem mem_unknownNames_of_unknown? {name : String} (h : unknown? traversal filter named = some name) :
    name ∈ unknownNames filter named := by
  have hname : name ∉ filter.parameters := by simpa using List.find?_some h
  exact mem_unknownNames.2 ⟨mem_map_order.1 (List.mem_of_find?_eq_some h), hname⟩

theorem unknown?_eq_none_iff : unknown? traversal filter named = none ↔ unknownNames filter named = [] := by
  simp only [unknown?, unknownNames, List.find?_eq_none, List.filter_eq_nil_iff, mem_map_order]

theorem positional_of_known (traversal : Traversal) (h : unknownNames filter named = []) :
    positional traversal filter named = .ok (placed filter named) := by
  rw [positional, unknown?_eq_none_iff.2 h]

/-- Of the names that are none of the filter's one is reported. -/
theorem exists_positional_eq_error (traversal : Traversal) (h : unknownNames filter named ≠ []) :
    ∃ name ∈ unknownNames filter named,
      positional traversal filter named = .error (unknownArgument filter name) := by
  obtain ⟨name, hunknown⟩ := Option.ne_none_iff_exists'.1 (mt unknown?_eq_none_iff.1 h)
  exact ⟨name, mem_unknownNames_of_unknown? hunknown, by rw [positional, hunknown]⟩

theorem positional_eq_ok_iff :
    positional traversal filter named = .ok args ↔ unknownNames filter named = [] ∧ placed filter named = args := by
  by_cases h : unknownNames filter named = []
  · simp [positional_of_known traversal h, h]
  · obtain ⟨name, -, hargs⟩ := exists_positional_eq_error traversal h
    simp [hargs, h]

/-- The value of a parameter, nil if it is left out. -/
def argument (named : Fields) (parameter : String) : Value :=
  ((Json.field? parameter named).map Value.ofJson).getD .nil

/-- What is given for each of the parameters, up to the last one for which something is. -/
def needed (filter : Filter) (named : Fields) : List (Option Json) :=
  (filter.parameters.map fun parameter => Json.field? parameter named).rdropWhile Option.isNone

end FilterLibrary

end ReleasePress
