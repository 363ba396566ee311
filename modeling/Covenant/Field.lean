import Covenant.Fault
import Covenant.Value.Items

namespace Covenant

def textField (location : List String) : Value → Except Problem String
  | .str s => .ok s
  | .bytes bs => match Value.decode? bs with
    | some s => .ok s
    | none => .error ⟨location, "string_unicode"⟩
  | _ => .error ⟨location, "string_type"⟩

def textFields (location : List String) (values : List Value) : List (Except Problem String) :=
  values.zipIdx.map fun (v, i) => textField (location ++ [toString i]) v

def choiceField {α : Type} (location : List String) (choices : List (String × α)) (v : Value) : Except Problem α :=
  match v with
  | .str s => match choices.lookup s with
    | some a => .ok a
    | none => .error ⟨location, "literal_error"⟩
  | _ => .error ⟨location, "literal_error"⟩

def problemsOf {α : Type} (fields : List (Except Problem α)) : List Problem :=
  fields.filterMap fun
    | .ok _ => none
    | .error p => some p

def textsOf (fields : List (Except Problem String)) : List String :=
  fields.filterMap Except.toOption

def Fault.ofProblems (problems : List Problem) : Fault := ⟨.invalid, "", problems⟩

end Covenant
