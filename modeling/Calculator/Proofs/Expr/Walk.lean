/-
The walk of the evaluator, turn by turn, against what an expression means: its
value and the steps that lead to it, written out for each kind of node and each
operator (`Means`).

A turn takes the first task and puts what it still means in its place
(`Task.turn`); `run` is turn after turn (`run_cons`). Between two turns, the
values on the stack are those of expressions that are done, and the tasks make
these into the root (`Makes`): a sign is due where its operand is on top, and
an operator where its operands are, the right one above the left. A turn keeps
this and never finds too few values (`Stands.turn`), so every stage of the walk
has it (`Reaches.stands`).
-/
import Calculator.Expr.Evaluation

namespace Calculator

/-! ## Meaning -/

/-- What an operator is written as, and the operation that it stands for. -/
inductive Operator.Denotes : Operator → Char → (Binary64 → Binary64 → Binary64) → Prop where
  | sum : Denotes (.additive .plus) '+' Binary64.add
  | difference : Denotes (.additive .minus) '-' Binary64.sub
  | product : Denotes (.multiplicative .times) '*' Binary64.mul
  | quotient : Denotes (.multiplicative .divide) '/' Binary64.divide
  | power : Denotes .power '^' Binary64.power

theorem Operator.denotes_iff {op : Operator} {symbol : Char}
    {f : Binary64 → Binary64 → Binary64} : op.Denotes symbol f ↔ symbol = op.symbol ∧ f = op.apply := by
  constructor
  · intro h
    cases h <;> exact ⟨rfl, rfl⟩
  · rintro ⟨rfl, rfl⟩
    obtain (_ | _) | (_ | _) | _ := op
    · exact .sum
    · exact .difference
    · exact .product
    · exact .quotient
    · exact .power

namespace Expr

/-- The value of an expression, and the steps that lead to it: a minus sign and an operator leave a
step behind those of their operands, and a plus sign leaves none. -/
inductive Means : Expr → Binary64 → List String → Prop where
  | number (n : Int) : Means (number n) (Binary64.ofInt n) []
  | plus {e : Expr} {x : Binary64} {steps : List String} (operand : Means e x steps) :
      Means (unary .plus e) x steps
  | minus {e : Expr} {x : Binary64} {steps : List String} (operand : Means e x steps) :
      Means (unary .minus e) x.neg
        (steps ++ ["-(" ++ x.display ++ ") = " ++ x.neg.display])
  | binary {l r : Expr} {op : Operator} {symbol : Char} {f : Binary64 → Binary64 → Binary64}
      {x y : Binary64} {before after : List String} (denotes : op.Denotes symbol f)
      (left : Means l x before) (right : Means r y after) :
      Means (binary l op r) (f x y)
        (before ++ after ++ [x.display ++ " " ++ symbol.toString ++ " " ++ y.display ++ " = " ++
          (f x y).display])

theorem means_self (e : Expr) : Means e e.value e.steps := by
  induction e with
  | number n => exact .number n
  | unary sign operand ih =>
    cases sign with
    | plus =>
      rw [value, steps, Sign.steps, List.append_nil]
      exact .plus ih
    | minus => exact .minus ih
  | binary left op right ihl ihr => exact .binary (Operator.denotes_iff.2 ⟨rfl, rfl⟩) ihl ihr

/-- An expression means one thing, which is its value and its steps by recursion. -/
theorem means_iff {e : Expr} {x : Binary64} {recorded : List String} :
    Means e x recorded ↔ x = e.value ∧ recorded = e.steps := by
  constructor
  · intro h
    induction h with
    | number n => exact ⟨rfl, rfl⟩
    | plus _ ih =>
      obtain ⟨rfl, rfl⟩ := ih
      exact ⟨rfl, by rw [steps, Sign.steps, List.append_nil]⟩
    | minus _ ih =>
      obtain ⟨rfl, rfl⟩ := ih
      exact ⟨rfl, rfl⟩
    | binary denotes _ _ ihl ihr =>
      obtain ⟨rfl, rfl⟩ := ihl
      obtain ⟨rfl, rfl⟩ := ihr
      obtain ⟨rfl, rfl⟩ := Operator.denotes_iff.1 denotes
      exact ⟨rfl, rfl⟩
  · rintro ⟨rfl, rfl⟩
    exact means_self e

/-! ## One turn -/

/-- The start of a walk. -/
def Walk.start : Walk := ⟨[], [], []⟩

/-- Does one task: the walk after it, and the tasks that it leaves in its place. -/
def Task.turn (w : Walk) : Task → Option (Walk × List Task)
  | .visit (number n) =>
    some ({ w with events := .reached .number :: w.events }.leave .number (Binary64.ofInt n)
      w.values [], [])
  | .visit (unary s operand) =>
    some ({ w with events := .reached .unary :: w.events }, [.visit operand, .sign s])
  | .visit (binary left op right) =>
    some ({ w with events := .reached .binary :: w.events },
      [.visit left, .visit right, .join op])
  | .sign s =>
    match w.values with
    | x :: values => some (w.leave .unary (s.apply x) values (s.steps x), [])
    | [] => none
  | .join op =>
    match w.values with
    | y :: x :: values => some (w.leave .binary (op.apply x y) values [op.step x y], [])
    | _ => none

theorem run_cons (w : Walk) (task : Task) (rest : List Task) :
    run w (task :: rest) = (task.turn w).bind fun (w', more) => run w' (more ++ rest) := by
  cases task with
  | visit e => cases e <;> rw [run] <;> rfl
  | sign sign =>
    rw [run]
    unfold Task.turn
    cases w.values <;> rfl
  | join op =>
    rw [run]
    unfold Task.turn
    split <;> simp_all

/-- The stages of the walk over an expression: the walk so far, and the tasks that are left. -/
inductive Reaches (root : Expr) : Walk → List Task → Prop where
  | start : Reaches root .start [.visit root]
  | turn {w w' : Walk} {task : Task} {rest more : List Task} (stage : Reaches root w (task :: rest))
      (turn : task.turn w = some (w', more)) : Reaches root w' (more ++ rest)

/-- The walk has the same end from every stage of it. -/
theorem Reaches.run_eq {root : Expr} {w : Walk} {tasks : List Task} (h : Reaches root w tasks) :
    run w tasks = run .start [.visit root] := by
  induction h with
  | start => rfl
  | turn _ hturn ih => rw [← ih, run_cons, hturn]; rfl

/-! ## What every turn keeps -/

/-- The tasks make the root of the expressions that are done, the last one first. -/
inductive Makes (root : Expr) : List Task → List Expr → Prop where
  | root : Makes root [] [root]
  | visit {e : Expr} {rest : List Task} {done : List Expr} (after : Makes root rest (e :: done)) :
      Makes root (.visit e :: rest) done
  | sign {sign : Sign} {operand : Expr} {rest : List Task} {done : List Expr}
      (after : Makes root rest (.unary sign operand :: done)) :
      Makes root (.sign sign :: rest) (operand :: done)
  | join {left right : Expr} {op : Operator} {rest : List Task} {done : List Expr}
      (after : Makes root rest (.binary left op right :: done)) :
      Makes root (.join op :: rest) (right :: left :: done)

/-- The stage accounts for what is done: its values are on the stack, and its steps on record. -/
def Stands (root : Expr) (w : Walk) (tasks : List Task) : Prop :=
  ∃ done, Makes root tasks done ∧ w.values = done.map value ∧
    w.steps.reverse = done.reverse.flatMap steps

/-- A task that is due finds its values, and leaves a stage that accounts for it. -/
theorem Stands.turn {root : Expr} {w : Walk} {task : Task} {rest : List Task}
    (h : Stands root w (task :: rest)) :
    ∃ w' more, task.turn w = some (w', more) ∧ Stands root w' (more ++ rest) := by
  obtain ⟨values, recorded, events⟩ := w
  obtain ⟨done, hmakes, hvalues, hsteps⟩ := h
  dsimp only at hvalues hsteps
  subst hvalues
  cases hmakes with
  | @visit e _ _ after =>
    cases e with
    | number n =>
      refine ⟨_, _, rfl, _, after, rfl, ?_⟩
      simpa [Walk.leave, steps] using hsteps
    | unary sign operand => exact ⟨_, _, rfl, done, .visit (.sign after), rfl, hsteps⟩
    | binary left op right =>
      exact ⟨_, _, rfl, done, .visit (.visit (.join after)), rfl, hsteps⟩
  | @sign sign operand _ done after =>
    refine ⟨_, _, rfl, _, after, rfl, ?_⟩
    cases sign <;> simp [Walk.leave, steps, Sign.steps, hsteps]
  | @join left right op _ done after =>
    refine ⟨_, _, rfl, _, after, rfl, ?_⟩
    simp [Walk.leave, steps, hsteps]

theorem Reaches.stands {root : Expr} {w : Walk} {tasks : List Task} (h : Reaches root w tasks) :
    Stands root w tasks := by
  induction h with
  | start => exact ⟨[], .visit .root, rfl, rfl⟩
  | turn _ hturn ih =>
    obtain ⟨w', more, hturn', hstands⟩ := ih.turn
    cases hturn.symm.trans hturn'
    exact hstands

/-! ## What the tasks find -/

/-- The expression is the other or a part of it. -/
inductive IsPart : Expr → Expr → Prop where
  | whole (e : Expr) : IsPart e e
  | operand {sign : Sign} {operand e : Expr} (h : IsPart (.unary sign operand) e) :
      IsPart operand e
  | left {left right e : Expr} {op : Operator} (h : IsPart (.binary left op right) e) :
      IsPart left e
  | right {left right e : Expr} {op : Operator} (h : IsPart (.binary left op right) e) :
      IsPart right e

/-- What is done, and what is visited, is part of the root. -/
theorem Makes.isPart {root : Expr} {tasks : List Task} {done : List Expr}
    (h : Makes root tasks done) : ∀ e ∈ done, IsPart e root := by
  induction h with
  | root => exact List.forall_mem_singleton.2 (.whole root)
  | visit _ ih => exact (List.forall_mem_cons.1 ih).2
  | sign _ ih =>
    obtain ⟨hnode, hdone⟩ := List.forall_mem_cons.1 ih
    exact List.forall_mem_cons.2 ⟨hnode.operand, hdone⟩
  | join _ ih =>
    obtain ⟨hnode, hdone⟩ := List.forall_mem_cons.1 ih
    exact List.forall_mem_cons.2 ⟨hnode.right, List.forall_mem_cons.2 ⟨hnode.left, hdone⟩⟩

/-- The task that is due finds the values of the operands of its node on top of the stack, the
right one above the left; and when no task is left, the value of the root is alone there. -/
def Served (root : Expr) (w : Walk) : List Task → Prop
  | [] => w.values = [root.value] ∧ w.steps.reverse = root.steps
  | .visit e :: _ => IsPart e root
  | .sign sign :: _ =>
    ∃ operand values, IsPart (.unary sign operand) root ∧ w.values = operand.value :: values
  | .join op :: _ =>
    ∃ left right values, IsPart (.binary left op right) root ∧
      w.values = right.value :: left.value :: values

theorem Stands.served {root : Expr} {w : Walk} {tasks : List Task} (h : Stands root w tasks) :
    Served root w tasks := by
  obtain ⟨done, hmakes, hvalues, hsteps⟩ := h
  cases hmakes with
  | root => exact ⟨hvalues, by simpa using hsteps⟩
  | visit after => exact after.isPart _ (by simp)
  | sign after => exact ⟨_, _, after.isPart _ (by simp), hvalues⟩
  | join after => exact ⟨_, _, _, after.isPart _ (by simp), hvalues⟩

/-- **Evaluating by a walk gives what an expression means, and that is one thing.** The value and the
steps are those of the recursion. At every stage of the walk the task that is due finds the values
of its node's own operands, in their order, so that there is a next stage as long as a task is left;
and the walk ends with the value of the root as the only one on the stack. -/
theorem evaluate_eq_and_served (e : Expr) :
    (∀ x recorded, Means e x recorded ↔ x = e.evaluate.value ∧ recorded = e.evaluate.steps) ∧
      e.evaluate.value = e.value ∧ e.evaluate.steps = e.steps ∧
      run .start [.visit e] = some ⟨[e.value], e.steps.reverse, e.events.reverse⟩ ∧
      ∀ w tasks, Reaches e w tasks →
        Served e w tasks ∧ run w tasks = run .start [.visit e] ∧
          ∀ task rest, tasks = task :: rest →
            ∃ w' more, task.turn w = some (w', more) ∧ Reaches e w' (more ++ rest) := by
  refine ⟨fun x recorded => ?_, by rw [evaluate_eq], by rw [evaluate_eq], ?_, fun w tasks h => ?_⟩
  · rw [evaluate_eq]
    exact means_iff
  · rw [Walk.start, run_visit, run]
    simp
  · refine ⟨h.stands.served, h.run_eq, fun task rest htasks => ?_⟩
    subst htasks
    obtain ⟨w', more, hturn, -⟩ := h.stands.turn
    exact ⟨w', more, hturn, h.turn hturn⟩

end Expr

end Calculator
