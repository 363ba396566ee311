import Covenant.Decimal.Shortest
import Covenant.Text.Pieces

namespace Covenant

inductive Foreign where
  | date
  | fraction
  | range
deriving Repr, DecidableEq

inductive Value where
  | null
  | bool (b : Bool)
  | int (n : Int)
  | float (x : Float)
  | str (s : String)
  | bytes (bs : List Nat)
  /-- A value known by its plain text and by its text inside a container. -/
  | foreign (kind : Foreign) (plain inner : String)
  | list (items : List Value)
  | tuple (items : List Value)
  | set (items : List Value)
  | frozenSet (items : List Value)
  | map (entries : List (Value × Value))
  /-- An object with the name of its class and its text inside a container, which tells it from others. -/
  | object (name shown : String) (attributes : List (String × Value))
  | again (shown : String)
deriving Inhabited

abbrev Mapping := List (Value × Value)

namespace Value

def fraction? (text : String) : Option Rat :=
  match (Text.splitText '/' text).map String.toInt? with
  | [some n] => some n
  | [some n, some d] => some ((n : Rat) / d)
  | _ => none

def number? : Value → Option Rat
  | bool b => some (if b then 1 else 0)
  | int n => some n
  | float x => Decimal.exactValue? x
  | foreign .fraction plain _ => fraction? plain
  | _ => none

inductive Atom where
  | nothing
  | number (r : Rat)
  | infinite (negative : Bool)
  | undefined
  | text (s : String)
  | bytes (bs : List Nat)
  | foreign (kind : Foreign) (inner : String)
  | object (name shown : String)
  | again (shown : String)
deriving DecidableEq

/-- What a value is compared by that is no container. The undefined number is one value, and objects are told apart by
their texts. -/
def atom? : Value → Option Atom
  | null => some .nothing
  | str s => some (.text s)
  | bytes bs => some (.bytes bs)
  | again shown => some (.again shown)
  | object name shown _ => some (.object name shown)
  | foreign .fraction plain inner => some (((fraction? plain).map .number).getD (.foreign .fraction inner))
  | foreign kind _ inner => some (.foreign kind inner)
  | float x => match Decimal.parts x with
    | .undefined => some .undefined
    | .infinite negative => some (.infinite negative)
    | _ => (Decimal.exactValue? x).map .number
  | v => (number? v).map .number

def sameLeaf (v w : Value) : Bool :=
  match v.atom?, w.atom? with
  | some a, some b => a == b
  | _, _ => false

mutual
/-- Equality of values. Sets are equal if each has the members of the other, and mappings if each has the entries of the
other. -/
def same : Value → Value → Bool
  | list xs, list ys => sameAll xs ys
  | tuple xs, tuple ys => sameAll xs ys
  | set xs, set ys => allIn xs ys && ys.all (isIn xs)
  | set xs, frozenSet ys => allIn xs ys && ys.all (isIn xs)
  | frozenSet xs, set ys => allIn xs ys && ys.all (isIn xs)
  | frozenSet xs, frozenSet ys => allIn xs ys && ys.all (isIn xs)
  | map xs, map ys => entriesIn xs ys && ys.all (isEntry xs)
  | v, w => sameLeaf v w
def sameAll : List Value → List Value → Bool
  | [], [] => true
  | x :: xs, y :: ys => same x y && sameAll xs ys
  | _, _ => false
def isIn : (members : List Value) → Value → Bool
  | [], _ => false
  | x :: xs, y => same x y || isIn xs y
def allIn : List Value → List Value → Bool
  | [], _ => true
  | x :: xs, ys => ys.any (same x) && allIn xs ys
def isEntry : (entries : List (Value × Value)) → Value × Value → Bool
  | [], _ => false
  | (k, v) :: xs, entry => (same k entry.1 && same v entry.2) || isEntry xs entry
def entriesIn : List (Value × Value) → List (Value × Value) → Bool
  | [], _ => true
  | (k, v) :: xs, ys => ys.any (fun (l, w) => same k l && same v w) && entriesIn xs ys
end

def truthy : Value → Bool
  | null => false
  | bool b => b
  | int n => n != 0
  | float x => x != 0
  | str s => s != ""
  | bytes bs => !bs.isEmpty
  | list xs => !xs.isEmpty
  | tuple xs => !xs.isEmpty
  | set xs => !xs.isEmpty
  | frozenSet xs => !xs.isEmpty
  | map es => !es.isEmpty
  | foreign .fraction plain _ => plain != "0"
  | foreign .. => true
  | object .. => true
  | again _ => true

def hashable : Value → Bool
  | list _ => false
  | set _ => false
  | map _ => false
  | tuple xs => all xs
  | _ => true
where
  all : List Value → Bool
  | [] => true
  | x :: xs => hashable x && all xs

def isNull : Value → Bool
  | null => true
  | _ => false

end Value

namespace Mapping

def find? (entries : Mapping) (key : Value) : Option Value :=
  (List.find? (fun entry => entry.1.same key) entries).map (·.2)

def get? (entries : Mapping) (key : String) : Option Value :=
  find? entries (.str key)

def get (entries : Mapping) (key : String) : Value :=
  (get? entries key).getD .null

/-- Sets a key: a key that is there keeps its place and its first spelling. -/
def put (entries : Mapping) (key value : Value) : Mapping :=
  match entries with
  | [] => [(key, value)]
  | (k, v) :: rest => if k.same key then (k, value) :: rest else (k, v) :: put rest key value

def ofList (entries : List (Value × Value)) : Mapping :=
  entries.foldl (fun done entry => put done entry.1 entry.2) []

end Mapping

end Covenant
