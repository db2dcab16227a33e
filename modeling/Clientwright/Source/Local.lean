/-!
# Names of local variables

Code for nested lists and maps binds its variables anew on each level; the depth in the name keeps
them apart.
-/

namespace Clientwright

/-- The variable of a role at some depth. -/
def localName (role : String) (depth : Nat) : String := role ++ toString depth

end Clientwright
