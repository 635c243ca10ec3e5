import TransponderShell.Daemon.Object

/-!
# Places in the object tree

The shell stands at the root, in a module or in an interface of a module. A `Scope` is such a
place; it has a label for the prompt and, below the root, an object.
-/

namespace TransponderShell

/-- A place in the object tree. -/
inductive Scope where
  | root
  | module (location : Text) (oid : Nat)
  | interface (kind : InterfaceKind) (index oid : Nat)
  deriving DecidableEq, Repr

namespace Scope

/-- The object at the place; there is none at the root. -/
def handle : Scope → Option ObjectHandle
  | root => none
  | module _ oid => some ⟨.module, oid⟩
  | interface kind _ oid => some ⟨.interface kind, oid⟩

/-- The place in the prompt. -/
def label : Scope → Text
  | root => []
  | module location _ => "module(" ++ location ++ ")"
  | interface kind index _ => kind.label ++ "(" ++ Numeral.decimal index ++ ")"

end Scope

end TransponderShell
