import CredRegistry.Database.Numeral
import CredRegistry.Host.Files

/-!
# Cells of a table

A cell holds a value of any type, whatever the column. A column only has an
affinity: what is put into it is converted where nothing is lost. Reading a cell as
a value of one type can therefore fail.

`Row` is a row of the table of credentials as it is meant to be, `CellRow` as it is
stored; `CellRow.read_ofRow` says that what was written as a row can be read.
-/

namespace CredRegistry

open CredRegistry.Decimal

/-- What a cell holds. -/
inductive Cell where
  | integer (n : Int)
  | real (x : Binary64)
  | text (s : String)
  | blob (bytes : List UInt8)
deriving Repr, DecidableEq

namespace Cell

/-- The name of the type of what a cell holds. -/
def typeName : Cell → String
  | .integer _ => "Integer"
  | .real _ => "Real"
  | .text _ => "Text"
  | .blob _ => "Blob"

def integerBounds : Int × Int := (-0x8000000000000000, 0x7FFFFFFFFFFFFFFF)

/-- The integer that a finite float is, if it is one. -/
def integral? (x : Binary64) : Option Int :=
  let (num, den) := x.ratio
  if num % den == 0 then
    let n : Int := num / den
    some (if x.isNegative then -n else n)
  else none

/-- A float in a column for numbers: the integer it is, if it is one and neither the
smallest nor the largest there is. -/
def numericFloat (x : Binary64) : Cell :=
  match if x.isFinite then integral? x else none with
  | some n =>
      if integerBounds.1 < n && n < integerBounds.2 then .integer n else .real x
  | none => .real x

/-- A text in a column for numbers: the number it spells, if it spells one. -/
def numericText (s : String) : Cell :=
  match CellNumeral.ofText? s with
  | none => .text s
  | some numeral =>
      match numeral.whole with
      | some n =>
          if integerBounds.1 ≤ n && n ≤ integerBounds.2 then .integer n
          else numericFloat numeral.value
      | none => numericFloat numeral.value

/-- What becomes of a value in a column for numbers. -/
def toNumericColumn : Cell → Cell
  | .text s => numericText s
  | c => c

/-- What becomes of a value in a column for texts. -/
def toTextColumn : Cell → Cell
  | .integer n => .text (toString n)
  | c => c

end Cell

/-- Why a cell cannot be read. -/
inductive CellFault where
  | wrongType (type : String) (index : Nat) (column : String)
  | outOfRange (n : Int) (index : Nat)
deriving Repr, DecidableEq

def CellFault.message : CellFault → String
  | .wrongType type index column => s!"Invalid column type {type} at index: {index}, name: {column}"
  | .outOfRange n index => s!"Integer {n} out of range at index {index}"

namespace Cell

def readText (index : Nat) (column : String) : Cell → Except CellFault String
  | .text s => .ok s
  | c => .error (.wrongType c.typeName index column)

def readInteger (index : Nat) (column : String) : Cell → Except CellFault Int
  | .integer n => .ok n
  | c => .error (.wrongType c.typeName index column)

/-- Read a truth value: any integer but zero is true. -/
def readBool (index : Nat) (column : String) (c : Cell) : Except CellFault Bool :=
  (c.readInteger index column).map (· ≠ 0)

def readSmall (index : Nat) (column : String) (c : Cell) : Except CellFault Int := do
  let n ← c.readInteger index column
  if -0x80000000 ≤ n ∧ n < 0x80000000 then .ok n else .error (.outOfRange n index)

def ofBool (b : Bool) : Cell := .integer (if b then 1 else 0)

end Cell

/-! ## Rows -/

/-- A row of the table of credentials. The token is sealed if the row says so. -/
structure Row where
  id : Int
  provider : String
  username : String
  token : String
  tokenEncrypted : Bool
  orgOrGroupId : String
  host : String
  active : Bool
  createdBy : Int
  createdOn : String
  updatedBy : Int
  updatedOn : String
deriving Repr, DecidableEq, Inhabited

/-- A row as it is stored, without its id. -/
structure CellRow where
  provider : Cell
  username : Cell
  token : Cell
  tokenEncrypted : Cell
  orgOrGroupId : Cell
  host : Cell
  active : Cell
  createdBy : Cell
  createdOn : Cell
  updatedBy : Cell
  updatedOn : Cell
deriving Repr, DecidableEq

namespace CellRow

def ofRow (r : Row) : CellRow where
  provider := .text r.provider
  username := .text r.username
  token := .text r.token
  tokenEncrypted := .ofBool r.tokenEncrypted
  orgOrGroupId := .text r.orgOrGroupId
  host := .text r.host
  active := .ofBool r.active
  createdBy := .integer r.createdBy
  createdOn := .text r.createdOn
  updatedBy := .integer r.updatedBy
  updatedOn := .text r.updatedOn

/-- The cells after an update: those of the creation stay. -/
def overwrite (c : CellRow) (r : Row) : CellRow :=
  { ofRow r with createdBy := c.createdBy, createdOn := c.createdOn }

/-- Read the cells of the row with an id, column by column. -/
def read (id : Int) (c : CellRow) : Except CellFault Row := do
  let provider ← c.provider.readText 1 "provider"
  let username ← c.username.readText 2 "username"
  let token ← c.token.readText 3 "token"
  let tokenEncrypted ← c.tokenEncrypted.readBool 4 "token_encrypted"
  let orgOrGroupId ← c.orgOrGroupId.readText 5 "org_or_group_id"
  let host ← c.host.readText 6 "host"
  let active ← c.active.readBool 7 "active"
  let createdBy ← c.createdBy.readSmall 8 "created_by"
  let createdOn ← c.createdOn.readText 9 "created_on"
  let updatedBy ← c.updatedBy.readSmall 10 "updated_by"
  let updatedOn ← c.updatedOn.readText 11 "updated_on"
  .ok { id, provider, username, token, tokenEncrypted, orgOrGroupId, host, active, createdBy,
        createdOn, updatedBy, updatedOn }

/-- The name that a text gives to a column: the text itself, or what stands in quotes;
the closing quote is written twice to stand for itself. Case does not count. -/
def columnName (text : String) : String :=
  let isGap (c : Char) : Bool := CellNumeral.isGap c || c == '\ufeff'
  let cs := ((text.toList.dropWhile isGap).reverse.dropWhile isGap).reverse
  let unquoted? : Option (List Char) :=
    match cs with
    | '[' :: cs => if cs.getLast? == some ']' then some cs.dropLast else none
    | q :: cs =>
        if (q == '"' || q == '\'' || q == '`') && cs.getLast? == some q then
          undoubled? q cs.dropLast
        else none
    | [] => none
  String.ofList (unquoted?.getD cs)
where
  /-- Characters in which every quote stands twice, with each of them once. -/
  undoubled? (q : Char) : List Char → Option (List Char)
    | [] => some []
    | [c] => if c == q then none else some [c]
    | c :: d :: cs =>
        if c != q then (undoubled? q (d :: cs)).map (c :: ·)
        else if d == q then (undoubled? q cs).map (q :: ·)
        else none

/-- Put a value into the column with a name, if there is one. -/
def set? (c : CellRow) (column : String) (v : Cell) : Option CellRow :=
  match column with
  | "provider" => some { c with provider := v.toTextColumn }
  | "username" => some { c with username := v.toTextColumn }
  | "token" => some { c with token := v.toTextColumn }
  | "token_encrypted" => some { c with tokenEncrypted := v.toNumericColumn }
  | "org_or_group_id" => some { c with orgOrGroupId := v.toTextColumn }
  | "host" => some { c with host := v.toTextColumn }
  | "active" => some { c with active := v.toNumericColumn }
  | "created_by" => some { c with createdBy := v.toNumericColumn }
  | "created_on" => some { c with createdOn := v.toTextColumn }
  | "updated_by" => some { c with updatedBy := v.toNumericColumn }
  | "updated_on" => some { c with updatedOn := v.toTextColumn }
  | _ => none

def IsSmall (n : Int) : Prop := -0x80000000 ≤ n ∧ n < 0x80000000

theorem readBool_ofBool (index : Nat) (column : String) (b : Bool) :
    (Cell.ofBool b).readBool index column = .ok b := by cases b <;> rfl

theorem readSmall_integer (index : Nat) (column : String) {n : Int} (h : IsSmall n) :
    (Cell.integer n).readSmall index column = .ok n := by
  exact if_pos h

/-- What was written as a row can be read. -/
theorem read_ofRow {r : Row} (hc : IsSmall r.createdBy) (hu : IsSmall r.updatedBy) :
    (ofRow r).read r.id = .ok r := by
  simp only [read, ofRow, readBool_ofBool, readSmall_integer _ _ hc, readSmall_integer _ _ hu]
  rfl

end CellRow

end CredRegistry
