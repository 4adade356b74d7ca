/-
  TunnelSession.Toml.Basic

  TOML values, and the rules by which the lines of a document build one table
  out of many: which tables a line may add to, and which it may not.
-/

namespace TunnelSession

/-- How a table came to be. -/
inductive Toml.Origin
  /-- A value in braces, which nothing can be added to. -/
  | braces
  /-- A header of its own, or the document. -/
  | header
  /-- A header of a table inside it. -/
  | path
  /-- A dotted key that goes through it. -/
  | dotted
  deriving DecidableEq, Repr

/-- A TOML value. Of reals and times it matters only that they are none of the
    others. -/
inductive Toml
  | text (s : String)
  | integer (n : Int)
  | real
  | bool (b : Bool)
  | time
  | list (items : List Toml)
  | table (origin : Toml.Origin) (entries : List (String × Toml))
  /-- The tables of repeated headers, in order. -/
  | tables (items : List Toml)

namespace Toml

/-! ## Building tables -/

/-- The value of a key. -/
def lookup (entries : List (String × Toml)) (key : String) : Option Toml :=
  (entries.find? (·.1 == key)).map (·.2)

/-- Gives a key a new value, at its place if it has one. -/
def put (entries : List (String × Toml)) (key : String) (v : Toml) : List (String × Toml) :=
  if entries.any (·.1 == key) then
    entries.map (fun e => if e.1 == key then (key, v) else e)
  else entries ++ [(key, v)]

/-- Changes the table at the end of a path. Tables on the way are created as
    needed; a dotted key does not go through a table that has a header. -/
def within (dotted : Bool) (f : Toml → Option Toml) : List String → Toml → Option Toml
  | [], t => f t
  | key :: path, .table origin entries =>
    match lookup entries key with
    | none =>
      (within dotted f path (.table (if dotted then .dotted else .path) [])).map
        (fun v => .table origin (put entries key v))
    | some (.table .braces _) => none
    | some (.table .header inner) =>
      if dotted then none
      else (within dotted f path (.table .header inner)).map
        (fun v => .table origin (put entries key v))
    | some (.table o inner) =>
      (within dotted f path (.table o inner)).map (fun v => .table origin (put entries key v))
    | some (.tables items) =>
      match items.getLast? with
      | some last =>
        (within dotted f path last).map
          (fun v => .table origin (put entries key (.tables (items.dropLast ++ [v]))))
      | none => none
    | some _ => none
  | _ :: _, _ => none

/-- Adds a key to a table. A key reached by dots adds only to tables that dots
    have made, any other key only to the rest. -/
def addKey (dotted : Bool) (key : String) (v : Toml) : Toml → Option Toml
  | .table origin entries =>
    if (origin == .dotted) == dotted && (lookup entries key).isNone then
      some (.table origin (entries ++ [(key, v)]))
    else none
  | _ => none

/-- Adds a value under a key of one or more parts. -/
def assign (key : List String) (v : Toml) (t : Toml) : Option Toml :=
  match key.getLast? with
  | none => none
  | some last =>
    within true (addKey (1 < key.length) last v) key.dropLast t

/-- Opens the table of a header. It must be new, or known only as a part of
    other headers' paths. -/
def openTable (path : List String) (t : Toml) : Option Toml :=
  match path.getLast? with
  | none => none
  | some last =>
    within false (fun t =>
      match t with
      | .table origin entries =>
        match lookup entries last with
        | none => some (.table origin (entries ++ [(last, .table .header [])]))
        | some (.table .path inner) => some (.table origin (put entries last (.table .header inner)))
        | some _ => none
      | _ => none) path.dropLast t

/-- Opens one more table of a repeated header. -/
def appendTable (path : List String) (t : Toml) : Option Toml :=
  match path.getLast? with
  | none => none
  | some last =>
    within false (fun t =>
      match t with
      | .table origin entries =>
        match lookup entries last with
        | none => some (.table origin (entries ++ [(last, .tables [.table .header []])]))
        | some (.tables items) =>
          some (.table origin (put entries last (.tables (items ++ [.table .header []]))))
        | some _ => none
      | _ => none) path.dropLast t

/-! ## Use -/

def text? : Toml → Option String
  | .text s => some s
  | _ => none

def bool? : Toml → Option Bool
  | .bool b => some b
  | _ => none

/-- A whole number from zero to `most`. -/
def nat? (most : Nat) : Toml → Option Nat
  | .integer n => if 0 ≤ n ∧ n ≤ most then some n.toNat else none
  | _ => none

def list? : Toml → Option (List Toml)
  | .list items | .tables items => some items
  | _ => none

/-- The values of a record's fields. A table gives them by name and may have
    other entries, a list gives them by position; a time is a record too, without
    any field of ours. -/
def fields? (names : List String) : Toml → Option (List (Option Toml))
  | .table _ entries => some (names.map (lookup entries))
  | .list items | .tables items =>
    some ((items.map some ++ List.replicate names.length none).take names.length)
  | .time => some (names.map (fun _ => none))
  | _ => none

/-- The value of a field that has a default. -/
def orDefault (default_ : α) (read : Toml → Option α) : Option Toml → Option α
  | none => some default_
  | some v => read v

/-- The value of a field that may be missing. -/
def orNone (read : Toml → Option α) : Option Toml → Option (Option α)
  | none => some none
  | some v => (read v).map some

/-- The name of a choice, given as a text or as a table with that name alone, and
    nothing in it. -/
def choice? : Toml → Option String
  | .text s => some s
  | .table _ [(name, .table _ [])] | .table _ [(name, .list [])] => some name
  | _ => none

end Toml

end TunnelSession
