import QueryTree.Json.Draft

/-! Reading typed values out of drafts. A reader goes through a draft from left to right and reports
the first thing that stops it: a place where the text cannot be read, or a value of the wrong shape.

A record may be written as an object, its fields in any order, or as an array of its fields in the
order they are declared, where fields that may be absent can be left out at the end.
-/

namespace QueryTree.Json

/-- Why a document could not be read. -/
inductive Fault where
  /-- The text is not JSON. -/
  | malformed
  /-- It is JSON of another shape than the one asked for. -/
  | mismatch
deriving DecidableEq

/-- Reads a value of type `α` out of a draft. -/
abbrev Reader (α : Type) := Draft → Except Fault α

/-- The fault of a value that is not of the shape asked for: a scalar is read before its shape is
looked at, an array or object is refused at its opening bracket.
-/
def Draft.misfit : Draft → Fault
  | .number none | .string none | .fault => .malformed
  | _ => .mismatch

namespace Reader

variable {α σ : Type}

/-- Reads a string. -/
def text : Reader String
  | .string (some text) => .ok text
  | draft => .error draft.misfit

/-- Reads a truth value. -/
def truth : Reader Bool
  | .bool value => .ok value
  | draft => .error draft.misfit

/-- Reads a natural number of at most 64 bits, written as a plain integer. -/
def natural : Reader Nat
  | .number (some (.integer value)) =>
      if 0 ≤ value then .ok value.toNat else .error .mismatch
  | draft => .error draft.misfit

/-- Reads a value that may be `null`. -/
def optional (read : Reader α) : Reader (Option α)
  | .null => .ok none
  | draft => (read draft).map some

/-- Reads items one after the other. -/
def items (read : Reader α) : List Draft → Except Fault (List α)
  | [] => .ok []
  | draft :: drafts =>
      match read draft with
      | .error fault => .error fault
      | .ok item =>
          match items read drafts with
          | .error fault => .error fault
          | .ok rest => .ok (item :: rest)

/-- Reads an array of any length. -/
def list (read : Reader α) : Reader (List α)
  | .array drafts ending =>
      match items read drafts with
      | .error fault => .error fault
      | .ok values => if ending = .closed then .ok values else .error .malformed
  | draft => .error draft.misfit

/-- Reads fields one after the other, whatever their names. -/
def entries (read : Reader α) : List (Option String × Draft) → Except Fault (List (String × α))
  | [] => .ok []
  | (none, _) :: _ => .error .malformed
  | (some name, draft) :: fields =>
      match read draft with
      | .error fault => .error fault
      | .ok value =>
          match entries read fields with
          | .error fault => .error fault
          | .ok rest => .ok ((name, value) :: rest)

/-- Reads an object as a list of names and values, equal names included. -/
def table (read : Reader α) : Reader (List (String × α))
  | .object fields ending =>
      match entries read fields with
      | .error fault => .error fault
      | .ok values => if ending = .closed then .ok values else .error .malformed
  | draft => .error draft.misfit

/-- Reads any JSON value, nested at most `room` deep. -/
def value (room : Nat) : Reader Json :=
  fun draft =>
    match draft.value? room with
    | some value => .ok value
    | none => .error .malformed

/-- Reads a whole text: a value and nothing after it. -/
def ofText (read : Reader α) (source : String) : Except Fault α :=
  let document := Draft.ofText source
  match read document.root with
  | .error fault => .error fault
  | .ok value => if document.trailing then .error .malformed else .ok value

/-- Reads a value that is JSON already, so that only its shape can be wrong. -/
def ofValue (read : Reader α) (source : Json) : Except Fault α :=
  (read source.toDraft).mapError fun _ => .mismatch

end Reader

/-- A field of a record: its name, whether it must be there, and how its value is put into the
record.
-/
structure RecordField (σ : Type) where
  name : String
  required : Bool
  put : Draft → σ → Except Fault σ

/-- The shape of a record: what it is before any field is read, its fields in order, and whether
fields of other names are refused or skipped.
-/
structure RecordShape (σ : Type) where
  blank : σ
  fields : List (RecordField σ)
  strict : Bool

namespace RecordField

variable {σ α : Type}

/-- A field that must be there. -/
def mandatory (name : String) (read : Reader α) (put : α → σ → σ) : RecordField σ :=
  { name, required := true, put := fun draft record => (read draft).map (put · record) }

/-- A field that may be absent, leaving the record as it is. -/
def omittable (name : String) (read : Reader α) (put : α → σ → σ) : RecordField σ :=
  { name, required := false, put := fun draft record => (read draft).map (put · record) }

end RecordField

namespace RecordShape

variable {σ : Type}

/-- Reads the fields of an object into a record; `seen` are the names met so far. A name met twice
is refused, and so is a name the shape does not have, if the shape is strict.
-/
def readFields (shape : RecordShape σ) (ending : Ending)
    : σ → List String → List (Option String × Draft) → Except Fault σ
  | record, seen, [] =>
      if ending ≠ .closed then .error .malformed
      else if shape.fields.all fun field => !field.required || seen.contains field.name then
        .ok record
      else .error .mismatch
  | _, _, (none, _) :: _ => .error .malformed
  | record, seen, (some name, draft) :: rest =>
      match shape.fields.find? fun field => field.name == name with
      | some field =>
          if seen.contains name then .error .mismatch
          else
            match field.put draft record with
            | .error fault => .error fault
            | .ok record => readFields shape ending record (name :: seen) rest
      | none =>
          if shape.strict then .error .mismatch
          else if draft.readable then readFields shape ending record seen rest
          else .error .malformed

/-- Reads the items of an array into a record, one for each field in order. -/
def readItems (ending : Ending)
    : σ → List (RecordField σ) → List Draft → Except Fault σ
  | record, field :: fields, draft :: drafts =>
      match field.put draft record with
      | .error fault => .error fault
      | .ok record => readItems ending record fields drafts
  | record, fields, [] =>
      if ending ≠ .closed then .error .malformed
      else if fields.any (·.required) then .error .mismatch
      else .ok record
  | _, [], _ :: _ => .error .malformed

/-- Reads a record of this shape. -/
def read (shape : RecordShape σ) : Reader σ
  | .object fields ending => shape.readFields ending shape.blank [] fields
  | .array drafts ending => readItems ending shape.blank shape.fields drafts
  | draft => .error draft.misfit

end RecordShape

end QueryTree.Json
