/-
  TunnelSession.Json.Basic

  JSON values as they are read: members keep their order and their repetitions,
  and a number keeps its digits.
-/
import TunnelSession.Text.Numeral

namespace TunnelSession

/-- A number as it is written: a whole number, or digits times a power of ten. -/
inductive Json.Number
  | integer (negative : Bool) (magnitude : Nat)
  | scaled (negative : Bool) (digits : Nat) (exponent : Int)
  deriving DecidableEq, Repr

/-- A JSON value. A text whose escapes name no characters makes the value that
    holds it `unreadable`, and so does such a member name: it can be passed over,
    but not used. -/
inductive Json
  | null
  | bool (b : Bool)
  | number (n : Json.Number)
  | text (s : String)
  | list (items : List Json)
  | object (members : List (String × Json))
  | unreadable
  deriving Repr

namespace Json

/-- The whole number `n`. -/
def ofNat (n : Nat) : Json :=
  .number (.integer false n)

/-- Whether the number has a finite double next to it. -/
def Number.fits : Number → Bool
  | .integer _ n => Text.fitsDouble n 0
  | .scaled _ digits exponent => Text.fitsDouble digits exponent

/-! ## Values without loose ends -/

mutual

/-- The value with the last of repeated members only, if all texts and numbers in
    it can be used and at most `depth` lists and objects are nested. -/
def settle (depth : Nat) : Json → Option Json
  | .null => some .null
  | .bool b => some (.bool b)
  | .number n => if n.fits then some (.number n) else none
  | .text s => some (.text s)
  | .unreadable => none
  | .list items =>
    match depth with
    | 0 => none
    | depth + 1 => (settleItems depth items).map .list
  | .object members =>
    match depth with
    | 0 => none
    | depth + 1 => (settleMembers depth members).map .object

def settleItems (depth : Nat) : List Json → Option (List Json)
  | [] => some []
  | v :: rest => do
    let v ← settle depth v
    let rest ← settleItems depth rest
    some (v :: rest)

def settleMembers (depth : Nat) : List (String × Json) → Option (List (String × Json))
  | [] => some []
  | (k, v) :: rest => do
    let v ← settle depth v
    let rest ← settleMembers depth rest
    some (if rest.any (·.1 == k) then rest else (k, v) :: rest)

end

/-- How deeply lists and objects of a self-contained value may nest. -/
def maxDepth : Nat := 127

/-! ## Use -/

/-- The member of an object with a name. -/
def member? (name : String) : Json → Option Json
  | .object members => (members.find? (·.1 == name)).map (·.2)
  | _ => none

def text? : Json → Option String
  | .text s => some s
  | _ => none

def bool? : Json → Option Bool
  | .bool b => some b
  | _ => none

/-- A whole number without a minus sign, of at most `most`. -/
def nat? (most : Nat) : Json → Option Nat
  | .number (.integer false n) => if n ≤ most then some n else none
  | _ => none

/-- Any number that has a double next to it. -/
def real? : Json → Option Unit
  | .number n => if n.fits then some () else none
  | _ => none

def list? : Json → Option (List Json)
  | .list items => some items
  | _ => none

/-- The values of a record's fields. An object gives them by name, in any order,
    each at most once, and may have other members; a list gives them by position
    and may stop early. -/
def fields? (names : List String) : Json → Option (List (Option Json))
  | .object members =>
    names.mapM (fun name =>
      match members.filter (·.1 == name) with
      | [] => some none
      | [(_, v)] => some (some v)
      | _ => none)
  | .list items =>
    if items.length ≤ names.length then
      some (items.map some ++ List.replicate (names.length - items.length) none)
    else none
  | _ => none

/-- The value of a field that has a default. -/
def orDefault (default_ : α) (read : Json → Option α) : Option Json → Option α
  | none => some default_
  | some v => read v

/-- The value of a field that may be missing or null. -/
def orNone (read : Json → Option α) : Option Json → Option (Option α)
  | none | some .null => some none
  | some v => (read v).map some

end Json

end TunnelSession
