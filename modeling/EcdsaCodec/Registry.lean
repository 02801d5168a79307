import EcdsaCodec.Document

/-!
# EcdsaCodec.Registry

Enumerations whose members are written by a registered name.

* `Registry.find?` — the member that bears a name.
* `Registry.write` — a member as a document: the text of its name.
* `Registry.read`  — the member that a document stands for. Besides the text of a name, a record
  whose only key is the name and whose value is null stands for the member.

Names are compared letter by letter. With distinct names, `find?_name` and `find?_eq_some_iff` say
that finding a name is the inverse of bearing it, and `read_write` that what is written reads back.
-/

namespace EcdsaCodec

/-- The members of an enumeration, in their listed order, and the name of each. -/
structure Registry (α : Type) where
  members : List α
  name : α → String

namespace Registry

variable {α : Type}

def find? (reg : Registry α) (text : String) : Option α :=
  reg.members.find? (fun a => reg.name a == text)

inductive ReadError where
  | unknownName (given : String) (registered : List String)
  /-- Neither the text of a name nor a name over null. -/
  | notAName
  deriving DecidableEq, Repr

/-- The sentence shown for an unknown name: the text as given, and all names that would do. -/
def ReadError.message? : ReadError → Option String
  | unknownName given registered =>
    some ("unknown variant `" ++ given ++ "`, expected one of "
      ++ String.intercalate ", " (registered.map (fun n => "`" ++ n ++ "`")))
  | notAName => none

def write (reg : Registry α) (a : α) : Document := .text (reg.name a)

/-- The member that a document stands for. -/
def read (reg : Registry α) : Document → Except ReadError α
  | .text given =>
    match reg.find? given with
    | some a => .ok a
    | none => .error (.unknownName given (reg.members.map reg.name))
  | .record [(key, .null)] =>
    match reg.find? key with
    | some a => .ok a
    | none => .error .notAName
  | _ => .error .notAName

/-- All members are listed, and no two bear the same name. -/
structure Faithful (reg : Registry α) : Prop where
  listed : ∀ a, a ∈ reg.members
  distinct : ∀ a b, reg.name a = reg.name b → a = b

theorem name_of_find? {reg : Registry α} {text : String} {a : α}
    (h : reg.find? text = some a) : reg.name a = text := by
  simpa using List.find?_some h

theorem find?_name {reg : Registry α} (hr : reg.Faithful) (a : α) :
    reg.find? (reg.name a) = some a := by
  cases h : reg.find? (reg.name a) with
  | none => simpa using List.find?_eq_none.1 h a (hr.listed a)
  | some b => rw [hr.distinct b a (name_of_find? h)]

theorem find?_eq_some_iff {reg : Registry α} (hr : reg.Faithful) {text : String} {a : α} :
    reg.find? text = some a ↔ text = reg.name a :=
  ⟨fun h => (name_of_find? h).symm, fun h => h ▸ find?_name hr a⟩

theorem read_write {reg : Registry α} (hr : reg.Faithful) (a : α) :
    reg.read (reg.write a) = .ok a := by
  simp [write, read, find?_name hr]

theorem read_text_eq_ok_iff {reg : Registry α} (hr : reg.Faithful) {text : String} {a : α} :
    reg.read (.text text) = .ok a ↔ text = reg.name a := by
  rw [← find?_eq_some_iff hr]
  cases h : reg.find? text <;> simp [read, h]

end Registry
end EcdsaCodec
