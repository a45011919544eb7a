/-!
# Names of properties

A property has a name that begins with a lower-case letter or an underscore and goes on with
letters, digits and underscores, all of the ASCII range. Some names of that form are reserved.
-/

set_option autoImplicit false

namespace Annals

/-- Whether a text is well formed as the name of a property. -/
def isPropertyName (name : String) : Bool :=
  match name.toList with
  | [] => false
  | first :: rest =>
    (first == '_' || first.isLower) && rest.all fun c => c == '_' || c.isAlphanum

/-- The names that no property of any fact can have. -/
def reservedNames : List String :=
  ["all_properties", "history", "to_s", "to_string", "class", "clone", "inspect"]

end Annals
