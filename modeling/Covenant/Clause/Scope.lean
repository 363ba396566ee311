import Covenant.Term.Coerce
import Covenant.Text.Blank

namespace Covenant.Clause

inductive Binding where
  | value (t : SomeTerm)
  | owner (fields : List (String × SomeTerm))

abbrev Scope := List (String × Binding)

namespace Scope

def empty : Scope := []

def find? (scope : Scope) (name : String) : Option Binding :=
  List.lookup name scope

def bind (scope : Scope) (name : String) (b : Binding) : Scope :=
  match scope with
  | [] => [(name, b)]
  | (n, old) :: rest => if n = name then (n, b) :: rest else (n, old) :: bind rest name b

def bindValues (scope : Scope) (values : List (String × SomeTerm)) : Scope :=
  values.foldl (fun s (name, t) => s.bind name (.value t)) scope

def bindNew (scope : Scope) (name : String) (b : Binding) : Scope :=
  if (scope.find? name).isSome then scope else scope.bind name b

end Scope

def sortOf? (typeName : String) : Option Ty :=
  match (Text.trim typeName).map Char.toLower with
  | "int" | "integer" | "long" | "short" | "byte" => some .int
  | "boolean" | "bool" => some .bool
  | "real" | "double" | "float" => some .real
  | _ => none

end Covenant.Clause
