/-!
Nesting. Containers of a text stand inside one another, and links lead to links; both are followed
to a limit only, and whatever leads to the following takes levels away from it.
-/

namespace NextRelease.Nesting

def limit : Nat := 991

end NextRelease.Nesting
