/-!
# Values of TOML documents

A document is a table, whose entries keep their order. Of numbers, truth values, dates and times only the text is kept.
-/

namespace Typings.Toml

/-- A value. -/
inductive Value
  | string (s : String)
  | scalar (text : String)
  | array (items : List Value)
  | table (entries : List (String × Value))
  deriving Repr

/-- The entries of a table. -/
abbrev Table := List (String × Value)

/-- A dotted key. -/
abbrev Key := List String

/-- Whether a value holds others. -/
def Value.isContainer : Value → Bool
  | array _ | table _ => true
  | string _ | scalar _ => false

namespace Table

/-- Gives an entry a new value, or adds it at the end. -/
def put (name : String) (v : Value) : Table → Table
  | [] => [(name, v)]
  | (n, w) :: t => if n = name then (n, v) :: t else (n, w) :: put name v t

/-- The last of several values and those before it, if it is a table. -/
def splitLastTable? (items : List Value) : Option (List Value × Table) :=
  match items.getLast? with
  | some (.table t) => some (items.dropLast, t)
  | _ => none

/-- Changes the table behind a key, where tables are made as needed. With `viaArrays` an array on the way stands for its
last item. If there is something else on the way, the outcome is `blocked`. -/
def modifyAt {ε : Type} (viaArrays : Bool) (blocked : ε) (f : Table → Except ε Table) : Key → Table → Except ε Table
  | [], t => f t
  | k :: ks, t =>
    match t.lookup k with
    | none => (modifyAt viaArrays blocked f ks []).map fun inner => put k (.table inner) t
    | some (.table inner) => (modifyAt viaArrays blocked f ks inner).map fun inner => put k (.table inner) t
    | some (.array items) =>
      match viaArrays, splitLastTable? items with
      | true, some (before, inner) =>
        (modifyAt viaArrays blocked f ks inner).map fun inner => put k (.array (before ++ [.table inner])) t
      | _, _ => .error blocked
    | some _ => .error blocked

/-- Adds an empty table to the array behind the last part of a key. -/
def appendTable {ε : Type} (blocked : ε) (key : Key) (t : Table) : Except ε Table :=
  let name := key.getLastD ""
  modifyAt true blocked (fun inner =>
    match inner.lookup name with
    | none => .ok (put name (.array [.table []]) inner)
    | some (.array items) => .ok (put name (.array (items ++ [.table []])) inner)
    | some _ => .error blocked) key.dropLast t

end Table

end Typings.Toml
