/-
The value of an expression, the steps that lead to it, and a record of the walk.

`value`, `steps` and `events` say by recursion what they are. `evaluate`
computes all three in one walk with a list of tasks and a stack of values, so a
tree may be as deep as it likes; `run_visit` says that a walk over a tree puts
exactly its value on the stack.

Each reduction leaves a step: the operands and the result, as displayed. A plus
sign reduces nothing and leaves none.
-/
import Calculator.Binary64.Arithmetic
import Calculator.Binary64.Display
import Calculator.Expr.Basic

namespace Calculator

/-- The operation that an operator stands for. -/
def Operator.apply : Operator → Binary64 → Binary64 → Binary64
  | additive .plus => Binary64.add
  | additive .minus => Binary64.sub
  | multiplicative .times => Binary64.mul
  | multiplicative .divide => Binary64.divide
  | power => Binary64.power

/-- The operation that a sign before an operand stands for. -/
def Sign.apply : Sign → Binary64 → Binary64
  | plus => id
  | minus => Binary64.neg

/-- The kinds of nodes. -/
inductive NodeKind where
  | number
  | unary
  | binary
  deriving DecidableEq, Repr

/-- The name that the record uses. -/
def NodeKind.name : NodeKind → String
  | number => "NumberLiteral"
  | unary => "UnaryOperation"
  | binary => "BinaryOperation"

/-- What happens on a walk: a node is reached, and later left with its value. -/
inductive Event where
  | reached (node : NodeKind)
  | valued (node : NodeKind) (value : Binary64)
  deriving DecidableEq, Repr

/-- The event in words. -/
def Event.message : Event → String
  | reached node => "at " ++ node.name
  | valued node value => "from " ++ node.name ++ " got " ++ value.text

/-- What a walk over an expression gives. -/
structure Evaluation where
  value : Binary64
  steps : List String
  events : List Event
  deriving DecidableEq, Repr

/-- The step of a minus sign. -/
def negationStep (x : Binary64) : String := "-(" ++ x.display ++ ") = " ++ x.neg.display

/-- The step of an operation. -/
def Operator.step (op : Operator) (x y : Binary64) : String :=
  x.display ++ " " ++ op.symbol.toString ++ " " ++ y.display ++ " = " ++ (op.apply x y).display

/-- The steps of a sign: one for a minus, none for a plus. -/
def Sign.steps (sign : Sign) (x : Binary64) : List String :=
  match sign with
  | plus => []
  | minus => [negationStep x]

namespace Expr

/-! ## By recursion -/

/-- The value of an expression. -/
def value : Expr → Binary64
  | number n => Binary64.ofInt n
  | unary sign operand => sign.apply operand.value
  | binary left op right => op.apply left.value right.value

/-- The reductions that lead to the value, in order. -/
def steps : Expr → List String
  | number _ => []
  | unary sign operand => operand.steps ++ sign.steps operand.value
  | binary left op right => left.steps ++ right.steps ++ [op.step left.value right.value]

/-- What happens on the walk, in order. -/
def events : Expr → List Event
  | e@(number _) => [.reached .number, .valued .number e.value]
  | e@(unary _ operand) => .reached .unary :: (operand.events ++ [.valued .unary e.value])
  | e@(binary left _ right) =>
    .reached .binary :: (left.events ++ right.events ++ [.valued .binary e.value])

/-! ## By a walk -/

/-- Something still to be done on the walk. -/
inductive Task where
  | visit (e : Expr)
  | sign (sign : Sign)
  | join (op : Operator)

/-- Where a walk stands: the values that wait for their operators, and what was recorded,
both latest first. -/
structure Walk where
  values : List Binary64
  steps : List String
  events : List Event

/-- The work that a task still means. -/
def Task.weight : Task → Nat
  | visit e => 3 * e.size
  | _ => 1

/-- The work that all tasks still mean. -/
def Task.weights : List Task → Nat
  | [] => 0
  | task :: rest => task.weight + weights rest

/-- A node left with its value. -/
def Walk.leave (w : Walk) (node : NodeKind) (value : Binary64) (values : List Binary64)
    (steps : List String) : Walk :=
  ⟨value :: values, steps ++ w.steps, .valued node value :: w.events⟩

/-- Does the tasks in order. There is no answer if an operator finds too few values. -/
def run (w : Walk) (tasks : List Task) : Option Walk :=
  match tasks with
  | [] => some w
  | .visit (number n) :: rest =>
    let w := { w with events := .reached .number :: w.events }
    run (w.leave .number (Binary64.ofInt n) w.values []) rest
  | .visit (unary sign operand) :: rest =>
    run { w with events := .reached .unary :: w.events } (.visit operand :: .sign sign :: rest)
  | .visit (binary left op right) :: rest =>
    run { w with events := .reached .binary :: w.events }
      (.visit left :: .visit right :: .join op :: rest)
  | .sign sign :: rest =>
    match w.values with
    | x :: values => run (w.leave .unary (sign.apply x) values (sign.steps x)) rest
    | [] => none
  | .join op :: rest =>
    match w.values with
    | y :: x :: values => run (w.leave .binary (op.apply x y) values [op.step x y]) rest
    | _ => none
termination_by Task.weights tasks
decreasing_by all_goals simp only [Task.weights, Task.weight, size]; omega

/-- The walk over a tree puts its value on the stack, and its steps and events on record. -/
theorem run_visit (e : Expr) (w : Walk) (rest : List Task) :
    run w (.visit e :: rest) =
      run ⟨e.value :: w.values, e.steps.reverse ++ w.steps, e.events.reverse ++ w.events⟩ rest := by
  induction e generalizing w rest with
  | number n => rw [run]; simp [Walk.leave, value, steps, events]
  | unary sign operand ih =>
    rw [run, ih, run]
    cases sign <;> simp [Walk.leave, value, steps, events, Sign.steps]
  | binary left op right ihl ihr =>
    rw [run, ihl, ihr, run]
    simp [Walk.leave, value, steps, events]

/-- The value of an expression with the steps and the record of the walk. -/
def evaluate (e : Expr) : Evaluation :=
  match run ⟨[], [], []⟩ [.visit e] with
  | some ⟨[value], steps, events⟩ => ⟨value, steps.reverse, events.reverse⟩
  | _ => ⟨.nan, [], []⟩

theorem evaluate_eq (e : Expr) : e.evaluate = ⟨e.value, e.steps, e.events⟩ := by
  rw [evaluate, run_visit, run]; simp

end Expr

end Calculator
