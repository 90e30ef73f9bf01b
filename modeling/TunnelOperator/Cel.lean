import Mathlib.Data.List.Basic

/-!
# Validation rules

The part of the Common Expression Language that validation rules over optional fields use.
Values are the JSON values of an object, and an expression without a value is an evaluation
error. The logical operators absorb errors on either side when the other side decides, so a
guard may stand before or after what it guards.
-/

namespace Cel

inductive Value where
  | bool (b : Bool)
  | int (n : Int)
  | string (s : String)
  | list (items : List Value)
  | map (fields : List (String × Value))

inductive Expr where
  | self
  | int (n : Int)
  | select (e : Expr) (field : String)
  | has (e : Expr) (field : String)
  | size (e : Expr)
  | gt (a b : Expr)
  | ne (a b : Expr)
  | not (a : Expr)
  | and (a b : Expr)
  | or (a b : Expr)

namespace Value

def select (field : String) : Value → Option Value
  | .map fields => (fields.find? fun f => f.1 = field).map (·.2)
  | _ => none

def has (field : String) : Value → Option Value
  | .map fields => some (.bool (fields.any fun f => f.1 = field))
  | _ => none

/-- Characters of a string, items of a list, entries of a map. -/
def size : Value → Option Value
  | .string s => some (.int s.length)
  | .list items => some (.int items.length)
  | .map fields => some (.int fields.length)
  | _ => none

def gt : Value → Value → Option Value
  | .int a, .int b => some (.bool (b < a))
  | _, _ => none

def ne : Value → Value → Option Value
  | .bool a, .bool b => some (.bool (a ≠ b))
  | .int a, .int b => some (.bool (a ≠ b))
  | .string a, .string b => some (.bool (a ≠ b))
  | _, _ => none

def not : Value → Option Value
  | .bool a => some (.bool !a)
  | _ => none

end Value

/-- `false` on one side decides, whatever the other side is. -/
def conj : Option Value → Option Value → Option Value
  | some (.bool false), _ => some (.bool false)
  | _, some (.bool false) => some (.bool false)
  | some (.bool true), some (.bool true) => some (.bool true)
  | _, _ => none

def disj : Option Value → Option Value → Option Value
  | some (.bool true), _ => some (.bool true)
  | _, some (.bool true) => some (.bool true)
  | some (.bool false), some (.bool false) => some (.bool false)
  | _, _ => none

def eval (self : Value) : Expr → Option Value
  | .self => some self
  | .int n => some (.int n)
  | .select e field => (eval self e).bind (Value.select field)
  | .has e field => (eval self e).bind (Value.has field)
  | .size e => (eval self e).bind Value.size
  | .gt a b => (eval self a).bind fun x => (eval self b).bind x.gt
  | .ne a b => (eval self a).bind fun x => (eval self b).bind x.ne
  | .not a => (eval self a).bind Value.not
  | .and a b => conj (eval self a) (eval self b)
  | .or a b => disj (eval self a) (eval self b)

structure Rule where
  message : String
  rule : Expr

def Rule.accepts (r : Rule) (self : Value) : Bool :=
  match eval self r.rule with
  | some (.bool true) => true
  | _ => false

def refusals (rules : List Rule) (self : Value) : List String :=
  (rules.filter fun r => !r.accepts self).map (·.message)

/-- `has(e.field) && size(e.field) > 0`. -/
def Expr.nonempty (e : Expr) (field : String) : Expr :=
  .and (.has e field) (.gt (.size (.select e field)) (.int 0))

variable {self : Value} {e : Expr} {field : String}

@[simp] theorem conj_false (x : Option Value) : conj (some (.bool false)) x = some (.bool false) :=
  rfl

@[simp] theorem conj_true_bool (b : Bool) : conj (some (.bool true)) (some (.bool b)) =
    some (.bool b) := by
  cases b <;> rfl

@[simp] theorem disj_bool (a b : Bool) :
    disj (some (.bool a)) (some (.bool b)) = some (.bool (a || b)) := by
  cases a <;> cases b <;> rfl

theorem Rule.accepts_of_eval {r : Rule} {b : Bool} (h : eval self r.rule = some (.bool b)) :
    r.accepts self = b := by
  rw [Rule.accepts, h]
  cases b <;> rfl

theorem eval_nonempty_absent {fields : List (String × Value)}
    (he : eval self e = some (.map fields)) (h : fields.find? (fun f => f.1 = field) = none) :
    eval self (e.nonempty field) = some (.bool false) := by
  have hany : (fields.any fun f => f.1 = field) = false := by
    rw [List.any_eq_false]
    exact List.find?_eq_none.mp h
  simp [Expr.nonempty, eval, he, Value.has, hany]

theorem eval_nonempty_present {fields : List (String × Value)}
    (he : eval self e = some (.map fields)) {f : String × Value}
    (h : fields.find? (fun f => f.1 = field) = some f) {n : ℕ} (hsize : f.2.size = some (.int n)) :
    eval self (e.nonempty field) = some (.bool (0 < n)) := by
  have hany : (fields.any fun f => f.1 = field) = true := by
    rw [List.any_eq_true]
    exact ⟨f, List.mem_of_find?_eq_some h, by simpa using List.find?_some h⟩
  simp [Expr.nonempty, eval, he, Value.has, Value.select, hany, h, hsize, Value.gt]

end Cel
