import Remittance.Shape
import Remittance.Value

/-!
# Schemas

A schema says what a value should be. It is handed to a validator, which is no part of
the program. What the program relies on is told by `Validator.Documented`, a law for each
kind of schema. `Validator.standard` keeps these laws, and is the validator wherever no
other one is named.
-/

namespace Remittance

open Shape

mutual

/-- What a value should be, and what it is when it has been checked. -/
inductive Schema : Type → Type 1 where
  /-- A text. -/
  | text : Schema String
  /-- An integer. -/
  | integer : Schema Int
  /-- A double-precision number that is finite. -/
  | finite : Schema Binary64
  | either {α β : Type} (first : Schema α) (second : Schema β) : Schema (α ⊕ β)
  | list {α : Type} (item : Schema α) : Schema (List α)
  | record {α : Type} (kind : Record) (fields : Fields α) : Schema α

/-- The members that a record must have. Others are ignored. -/
inductive Fields : Type → Type 1 where
  | nil : Fields Unit
  | cons {α β : Type} (name : String) (schema : Schema α) (rest : Fields β) : Fields (α × β)

end

/-- The name of a schema, which leads to the violations of one of two schemas. -/
def Schema.label {α : Type} : Schema α → String
  | .text => "str"
  | .integer => "int"
  | .finite => "float"
  | .either first second => "union[" ++ first.label ++ "," ++ second.label ++ "]"
  | .list item => "list[" ++ item.label ++ "]"
  | .record kind _ => kind.name

/-- What checks values. The report tells the violations of a value in words. -/
class Validator where
  check {α : Type} : Schema α → Value → Checked α
  report : Record → Value → List Violation → String

namespace Validator

/-- The check of what stands in the place of a member. -/
def member [Validator] {α : Type} (name : String) (schema : Schema α) (v : Option Value) :
    Checked α :=
  Checked.member name (v.map (check schema))

/-- The checks of all members in order. -/
def members [Validator] {α : Type} : Fields α → List (String × Value) → Checked α
  | .nil, _ => .ok ()
  | .cons name schema rest, given =>
    (member name schema (Value.lookup name given)).both (members rest given)

/-- What is known of a validator. Texts, integers and numbers are told apart strictly, and
a truth value is none of them. An integer is taken for an integer where it could be taken
for something else as well. All violations of all parts are listed in order, each under
its part; what is neither of two schemas has the violations of both. The first line of a
report tells their number. -/
structure Documented (V : Validator) : Prop where
  text (s : String) : check .text (.text s) = .ok s
  notText {v : Value} (h : ∀ s, v ≠ .text s) : check .text v = .error [⟨[], .notText⟩]
  integer (n : Int) : check .integer (.number (.whole n)) = .ok n
  notInteger {v : Value} (h : ∀ n, v ≠ .number (.whole n)) :
    check .integer v = .error [⟨[], .notInteger⟩]
  finite {x : Binary64} (h : x.isFinite = true) : check .finite (.number (.double x)) = .ok x
  notFinite {x : Binary64} (h : x.isFinite = false) :
    check .finite (.number (.double x)) = .error [⟨[], .notFinite⟩]
  notNumber {v : Value} (h : ∀ n, v ≠ .number n) : check .finite v = .error [⟨[], .notNumber⟩]
  exactly {α : Type} (other : Schema α) (n : Int) :
    check (.either .integer other) (.number (.whole n)) = .ok (.inl n)
  second {α β : Type} {a : Schema α} {b : Schema β} {v : Value} {xs : List Violation} {y : β}
    (ha : check a v = .error xs) (hb : check b v = .ok y) :
    check (.either a b) v = .ok (.inr y)
  neither {α β : Type} {a : Schema α} {b : Schema β} {v : Value} {xs ys : List Violation}
    (ha : check a v = .error xs) (hb : check b v = .error ys) :
    check (.either a b) v = .error (xs.map (Violation.under (.member a.label)) ++
      ys.map (Violation.under (.member b.label)))
  list {α : Type} (item : Schema α) (items : List Value) :
    check (.list item) (.list items) =
      Checked.all (items.mapIdx fun i v => (check item v).under (.item i))
  notList {α : Type} (item : Schema α) {v : Value} (h : ∀ items, v ≠ .list items) :
    check (.list item) v = .error [⟨[], .notList⟩]
  record {α : Type} (kind : Record) (fields : Fields α) (given : List (String × Value)) :
    check (.record kind fields) (.object given) = members fields given
  notRecord {α : Type} (kind : Record) (fields : Fields α) {v : Value}
    (h : ∀ given, v ≠ .object given) :
    check (.record kind fields) v = .error [⟨[], .notObject kind⟩]
  report (kind : Record) (v : Value) (violations : List Violation) :
    kind.Heads violations.length (report kind v violations)

end Validator

/-! ## Checks part by part -/

namespace Checked

def text : Value → Checked String
  | .text s => .ok s
  | _ => .error [⟨[], .notText⟩]

def integer : Value → Checked Int
  | .number (.whole n) => .ok n
  | _ => .error [⟨[], .notInteger⟩]

/-- A finite number. An integer is rounded to one. -/
def finite : Value → Checked Binary64
  | .number (.double x) => if x.isFinite then .ok x else .error [⟨[], .notFinite⟩]
  | .number (.whole n) =>
    match Binary64.ofInt? n with
    | some x => .ok x
    | none => .error [⟨[], .notNumber⟩]
  | _ => .error [⟨[], .notNumber⟩]

def items {α : Type} (check : Value → Checked α) : Value → Checked (List α)
  | .list items => all (items.mapIdx fun i v => (check v).under (.item i))
  | _ => .error [⟨[], .notList⟩]

def record {α : Type} (kind : Record) (check : List (String × Value) → Checked α) :
    Value → Checked α
  | .object given => check given
  | _ => .error [⟨[], .notObject kind⟩]

end Checked

mutual

def Schema.check {α : Type} : Schema α → Value → Checked α
  | .text, v => Checked.text v
  | .integer, v => Checked.integer v
  | .finite, v => Checked.finite v
  | .either first second, v =>
    Checked.either first.label second.label (first.check v) (second.check v)
  | .list item, v => Checked.items item.check v
  | .record kind fields, v => Checked.record kind fields.check v

def Fields.check {α : Type} : Fields α → List (String × Value) → Checked α
  | .nil, _ => .ok ()
  | .cons name schema rest, given =>
    (Checked.member name ((Value.lookup name given).map schema.check)).both (rest.check given)

end

namespace Validator

/-- The validator that checks part by part and reports the number of violations alone. -/
instance (priority := low) standard : Validator where
  check := Schema.check
  report kind _ violations := kind.heading violations.length

theorem members_standard {α : Type} (fields : Fields α) (given : List (String × Value)) :
    members fields given = fields.check given := by
  cases fields with
  | nil => rfl
  | cons name schema rest =>
      rw [members, Fields.check, members_standard rest given]
      rfl

theorem standard_documented : standard.Documented where
  text _ := rfl
  notText {v} h := by
    cases v with
    | text s => exact absurd rfl (h s)
    | _ => rfl
  integer _ := rfl
  notInteger {v} h := by
    match v with
    | .number (.whole n) => exact absurd rfl (h n)
    | .number (.double _) | .null | .bool _ | .text _ | .list _ | .object _ => rfl
  finite h := if_pos h
  notFinite h := if_neg (Bool.eq_false_iff.mp h)
  notNumber {v} h := by
    cases v with
    | number n => exact absurd rfl (h n)
    | _ => rfl
  exactly _ _ := rfl
  second ha hb := by
    show Checked.either _ _ _ _ = _
    rw [show Schema.check _ _ = _ from ha, show Schema.check _ _ = _ from hb]
    rfl
  neither ha hb := by
    show Checked.either _ _ _ _ = _
    rw [show Schema.check _ _ = _ from ha, show Schema.check _ _ = _ from hb]
    rfl
  list _ _ := rfl
  notList _ v h := by
    cases v with
    | list items => exact absurd rfl (h items)
    | _ => rfl
  record _ fields given := (members_standard fields given).symm
  notRecord _ _ v h := by
    cases v with
    | object given => exact absurd rfl (h given)
    | _ => rfl
  report _ _ _ := Or.inl rfl

end Validator

end Remittance
