import Covenant.Fault
import Covenant.Text.Digit

namespace Covenant

inductive ScopeError where
  | malformed (entry : String)
  | notAnInteger (name bound : String)
  | notPositive (name : String)
deriving Repr, DecidableEq

def ScopeError.message : ScopeError → String
  | malformed entry => s!"malformed scope entry '{entry}' (expected Name:N)"
  | notAnInteger name bound => s!"scope bound for {name} is not an integer: '{bound}'"
  | notPositive name => s!"scope bound for {name} must be positive"

def Fault.ofScope (e : ScopeError) : Fault := ⟨.semantic, e.message, []⟩

abbrev TypeScopes := List (String × Nat)

namespace TypeScopes

def put (scopes : TypeScopes) (name : String) (bound : Nat) : TypeScopes :=
  match scopes with
  | [] => [(name, bound)]
  | (n, b) :: rest => if n = name then (n, bound) :: rest else (n, b) :: put rest name bound

def entry (text : String) : Except ScopeError (String × Nat) :=
  match Text.cutLast? ':' text.toList with
  | none => .error (.malformed text)
  | some (name, bound) =>
    let name := String.ofList name
    if Text.allBlank name then .error (.malformed text)
    else match Text.readInt? (String.ofList bound) with
      | none => .error (.notAnInteger name (String.ofList bound))
      | some n => if n < 1 then .error (.notPositive name) else .ok (Text.trim name, n.toNat)

def parseEntries (scopes : TypeScopes) : List String → Except ScopeError TypeScopes
  | [] => .ok scopes
  | piece :: rest =>
    let text := Text.trim piece
    if text.isEmpty then parseEntries scopes rest
    else do
      let (name, bound) ← entry text
      parseEntries (scopes.put name bound) rest

def parse (text : String) : Except ScopeError TypeScopes :=
  parseEntries [] (Text.splitText ',' text)

def ofValue (v : Value) : Except ScopeError TypeScopes :=
  if v.truthy then parse v.text else .ok []

def defaultBits : Nat := 4

/-- The names that bound the integers, the first one given counts. -/
def integerNames : List String := ["int", "Integer", "java.lang.Integer"]

def bits (scopes : TypeScopes) : Nat :=
  (integerNames.findSome? (scopes.lookup ·)).getD defaultBits

end TypeScopes

end Covenant
