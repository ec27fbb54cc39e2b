/-!
# TOML values

- `Toml`: a value; a table also keeps how it came about, since that decides what may still
  be added to it while a document is read.
- `Toml.addValue`, `Toml.openTable`, `Toml.openItem`: the three ways in which a line adds to
  a document. Nothing is ever replaced, and what is complete is not added to.
-/

namespace StreamNames

/-- How a table came about. -/
inductive TableForm where
  /-- By a header of its own. -/
  | header
  /-- On the way to the table of a header. -/
  | implied
  /-- On the way to a value with a dotted name. -/
  | dotted
  /-- In braces, which make it complete. -/
  | closed
  deriving DecidableEq, Repr

/-- How an array came about: by headers, one for each item, or in brackets, which make it
complete. -/
inductive ArrayForm where
  | headers | closed
  deriving DecidableEq, Repr

/-- A value. Of a floating-point number only its being in range is kept, of a date or time
nothing. -/
inductive Toml where
  | text (s : String)
  | integer (n : Int)
  | float (inRange : Bool)
  | boolean (b : Bool)
  | moment
  | array (form : ArrayForm) (items : List Toml)
  | table (form : TableForm) (members : List (String × Toml))

namespace Toml

/-- The members of a table, with their names. -/
abbrev Members := List (String × Toml)

/-- Changes the value of a name. `change` is given the present value, if there is one; a new
name is added at the end. -/
def alter? (change : Option Toml → Option Toml) (name : String) : Members → Option Members
  | [] => (change none).map fun value => [(name, value)]
  | (other, value) :: rest =>
    if other = name then (change (some value)).map fun value => (other, value) :: rest
    else (alter? change name rest).map ((other, value) :: ·)

/-- Whether the way to a table may lead through a table. A dotted name leads only through
tables without a header of their own, and nothing leads into braces. -/
def TableForm.admits (isDotted : Bool) : TableForm → Bool
  | .header => !isDotted
  | .implied | .dotted => true
  | .closed => false

/-- A table as it is made on the way to another one. -/
def TableForm.onTheWay (isDotted : Bool) : TableForm := if isDotted then .dotted else .implied

/-- Changes the table at the end of a path. The way leads through tables, which are made
where there are none, and through the last items of arrays made by headers. -/
def within (isDotted : Bool) (change : TableForm → Members → Option Members) :
    (path : List String) → TableForm → Members → Option Members
  | [], form, members => change form members
  | name :: path, _, members =>
    alter? (fun present =>
      match present with
      | none =>
        let form := TableForm.onTheWay isDotted
        (within isDotted change path form []).map (.table form)
      | some (.table form inner) =>
        if TableForm.admits isDotted form then
          (within isDotted change path form inner).map (.table form)
        else none
      | some (.array .headers items) =>
        match items.getLast? with
        | some (.table form inner) => (within isDotted change path form inner).map fun inner =>
          .array .headers (items.dropLast ++ [.table form inner])
        | _ => none
      | some _ => none) name members

/-- A value under a name that is not in use. -/
def addNew? (name : String) (value : Toml) (members : Members) : Option Members :=
  alter? (fun present => if present.isSome then none else some value) name members

/-- Adds a value under a dotted name, relative to a table. The tables that the name leads
through belong to dotted names alone. -/
def addRelative (path : List String) (name : String) (value : Toml) (form : TableForm)
    (members : Members) : Option Members :=
  within true (fun form members =>
    if path.isEmpty || form = .dotted then addNew? name value members else none)
    path form members

/-- Adds a value under a dotted name within the table at `place`. -/
def addValue (place path : List String) (name : String) (value : Toml) (root : Members) :
    Option Members :=
  within false (addRelative path name value) place .header root

/-- Opens the table of a header, which must be new, or made on the way to other headers. -/
def openTable (path : List String) (name : String) (root : Members) : Option Members :=
  within false (fun _ members => alter? (fun present =>
    match present with
    | none => some (.table .header [])
    | some (.table .implied inner) => some (.table .header inner)
    | some _ => none) name members) path .header root

/-- Opens one more table of an array made by headers. -/
def openItem (path : List String) (name : String) (root : Members) : Option Members :=
  within false (fun _ members => alter? (fun present =>
    match present with
    | none => some (.array .headers [.table .header []])
    | some (.array .headers items) => some (.array .headers (items ++ [.table .header []]))
    | some _ => none) name members) path .header root

/-! ## Using values -/

/-- Whether an integer can be read at all: it has at most 128 bits. -/
def isWordSized (n : Int) : Bool := -Nat.pow 2 127 ≤ n && n < Nat.pow 2 128

mutual

/-- Whether a value can be read where nothing of it is used. -/
def isReadable : Toml → Bool
  | integer n => isWordSized n
  | float inRange => inRange
  | array _ items => allReadable items
  | table _ members => membersReadable members
  | text _ | boolean _ | moment => true

/-- Whether all items of an array can be read. -/
def allReadable : List Toml → Bool
  | [] => true
  | item :: items => item.isReadable && allReadable items

/-- Whether all members of a table can be read. -/
def membersReadable : List (String × Toml) → Bool
  | [] => true
  | (_, value) :: members => value.isReadable && membersReadable members

end

/-- A text. -/
def text? : Toml → Option String
  | text s => some s
  | _ => none

/-- A truth value. -/
def boolean? : Toml → Option Bool
  | boolean b => some b
  | _ => none

/-- A natural number below a bound. -/
def natural? (bound : Nat) : Toml → Option Nat
  | integer n => if 0 ≤ n ∧ n < bound then some n.toNat else none
  | _ => none

/-- What a record gives for the fields with these names. A record is a table, of which all
other members are passed over, or an array of the fields in order, of which what is too much
is not looked at. A moment gives nothing. -/
def fields? (names : List String) : Toml → Option (String → Option Toml)
  | table _ members =>
    if members.all fun (name, value) => names.contains name || value.isReadable then
      some fun name => members.lookup name
    else none
  | array _ items => some fun name => (names.zip items).lookup name
  | moment => some fun _ => none
  | _ => none

end Toml

end StreamNames
