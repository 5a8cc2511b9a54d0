/-
Evaluation never faults (`evaluation_faultless`).

The walk of the evaluator is taken once more, with operations that may fault and
the guards that the calculator puts before them; `tryRun` ends with the first
fault. The power is that of any machine. Whatever it does, a visit puts one value
on the stack (`exists_tryRun_visit`, by induction on the expression), so no
operator lacks its operands and no fault is left. With the power of the
calculator a turn that may fault does what a turn of the walk does
(`attempt_eq_turn`), so the two walks are the same.
-/
import Calculator.Proofs.Binary64.Faults
import Calculator.Proofs.Expr.Walk

namespace Calculator

open Binary64 (Power)

/-! ## Operations and steps -/

/-- The operation of an operator, which may fault. -/
def Operator.attempt (pow : Power) : Operator → Binary64 → Binary64 → Except Fault Binary64
  | multiplicative .divide => Binary64.tryDivide
  | power => Binary64.tryPower pow
  | op => fun x y => .ok (op.apply x y)

/-- The step of an operation with its result. -/
def Operator.tryStep (op : Operator) (x y result : Binary64) : Except Fault String := do
  let left ← x.tryDisplay
  let right ← y.tryDisplay
  let shown ← result.tryDisplay
  return left ++ " " ++ op.symbol.toString ++ " " ++ right ++ " = " ++ shown

/-- The steps of a sign. -/
def Sign.trySteps (sign : Sign) (x : Binary64) : Except Fault (List String) :=
  match sign with
  | plus => return []
  | minus => do
    let operand ← x.tryDisplay
    let shown ← x.neg.tryDisplay
    return ["-(" ++ operand ++ ") = " ++ shown]

theorem Operator.exists_attempt (pow : Power) (op : Operator) (x y : Binary64) :
    ∃ result, op.attempt pow x y = .ok result := by
  cases op with
  | additive sign => exact ⟨_, rfl⟩
  | multiplicative scaling =>
    cases scaling with
    | times => exact ⟨_, rfl⟩
    | divide => exact ⟨_, Binary64.tryDivide_eq x y⟩
  | power => exact ⟨_, Binary64.tryPower_eq pow x y⟩

theorem Operator.attempt_eq_apply (op : Operator) (x y : Binary64) :
    op.attempt Binary64.power? x y = .ok (op.apply x y) := by
  cases op with
  | additive sign => rfl
  | multiplicative scaling =>
    cases scaling with
    | times => rfl
    | divide => exact Binary64.tryDivide_eq x y
  | power =>
    rw [attempt, Binary64.tryPower_eq, Binary64.powerBy_power?]
    rfl

theorem Operator.tryStep_eq (op : Operator) (x y result : Binary64) :
    op.tryStep x y result =
      .ok (x.display ++ " " ++ op.symbol.toString ++ " " ++ y.display ++ " = " ++ result.display) := by
  rw [tryStep, Binary64.tryDisplay_eq, Binary64.tryDisplay_eq, Binary64.tryDisplay_eq]
  rfl

theorem Sign.trySteps_eq (sign : Sign) (x : Binary64) : sign.trySteps x = .ok (sign.steps x) := by
  cases sign with
  | plus => rfl
  | minus =>
    rw [trySteps, Binary64.tryDisplay_eq, Binary64.tryDisplay_eq]
    rfl

namespace Expr

/-! ## The walk -/

/-- The tasks that a task leaves in its place. -/
def Task.parts : Task → List Task
  | .visit (unary s operand) => [.visit operand, .sign s]
  | .visit (binary left op right) => [.visit left, .visit right, .join op]
  | _ => []

/-- Does one task, which may fault. -/
def Task.attempt (pow : Power) (w : Walk) : Task → Except Fault Walk
  | .visit (number n) => do
    let value ← Binary64.tryOfInt n
    return { w with events := .reached .number :: w.events }.leave .number value w.values []
  | .visit (unary _ _) => return { w with events := .reached .unary :: w.events }
  | .visit (binary _ _ _) => return { w with events := .reached .binary :: w.events }
  | .sign s =>
    match w.values with
    | x :: values => do
      let steps ← s.trySteps x
      return w.leave .unary (s.apply x) values steps
    | [] => throw .noValue
  | .join op =>
    match w.values with
    | y :: x :: values => do
      let result ← op.attempt pow x y
      let step ← op.tryStep x y result
      return w.leave .binary result values [step]
    | _ => throw .noValue

theorem Task.weights_append (tasks rest : List Task) :
    Task.weights (tasks ++ rest) = Task.weights tasks + Task.weights rest := by
  induction tasks with
  | nil => exact (Nat.zero_add _).symm
  | cons task tasks ih => rw [List.cons_append, weights, weights, ih, Nat.add_assoc]

theorem Task.weights_parts (task : Task) : Task.weights task.parts < task.weight := by
  cases task with
  | visit e =>
    cases e with
    | number n => exact Nat.zero_lt_succ _
    | unary sign operand => simp only [parts, weights, weight, size]; omega
    | binary left op right => simp only [parts, weights, weight, size]; omega
  | sign sign => exact Nat.one_pos
  | join op => exact Nat.one_pos

/-- Does the tasks in order, up to the first fault. -/
def tryRun (pow : Power) (w : Walk) (tasks : List Task) : Except Fault Walk :=
  match tasks with
  | [] => .ok w
  | task :: rest =>
    match task.attempt pow w with
    | .ok w' => tryRun pow w' (task.parts ++ rest)
    | .error fault => .error fault
termination_by Task.weights tasks
decreasing_by
  rw [Task.weights_append, Task.weights]
  exact Nat.add_lt_add_right task.weights_parts _

/-- The value of an expression and the steps that lead to it, up to the first fault. -/
def tryEvaluate (pow : Power) (e : Expr) : Except Fault (Binary64 × List String) :=
  match tryRun pow .start [.visit e] with
  | .ok ⟨value :: _, steps, _⟩ => .ok (value, steps.reverse)
  | .ok ⟨[], _, _⟩ => .error .noValue
  | .error fault => .error fault

theorem tryRun_cons {pow : Power} {w w' : Walk} {task : Task} (rest : List Task)
    (h : task.attempt pow w = .ok w') :
    tryRun pow w (task :: rest) = tryRun pow w' (task.parts ++ rest) := by
  rw [tryRun, h]

/-! ## One task -/

theorem attempt_number (pow : Power) (w : Walk) (n : Int) :
    (Task.visit (number n)).attempt pow w =
      .ok ({ w with events := .reached .number :: w.events }.leave .number (Binary64.ofInt n)
        w.values []) := by
  rw [Task.attempt, Binary64.tryOfInt_eq]
  rfl

theorem attempt_sign (pow : Power) {w : Walk} (s : Sign) {x : Binary64} {values : List Binary64}
    (h : w.values = x :: values) :
    (Task.sign s).attempt pow w = .ok (w.leave .unary (s.apply x) values (s.steps x)) := by
  unfold Task.attempt
  rw [h]
  dsimp only
  rw [s.trySteps_eq]
  rfl

theorem attempt_join (pow : Power) {w : Walk} (op : Operator) {x y result : Binary64}
    {values : List Binary64} (h : w.values = y :: x :: values)
    (hresult : op.attempt pow x y = .ok result) :
    ∃ step, op.tryStep x y result = .ok step ∧
      (Task.join op).attempt pow w = .ok (w.leave .binary result values [step]) := by
  refine ⟨_, op.tryStep_eq x y result, ?_⟩
  unfold Task.attempt
  rw [h]
  dsimp only
  rw [hresult]
  change (op.tryStep x y result).bind _ = _
  rw [op.tryStep_eq]
  rfl

/-! ## No fault is left -/

/-- A visit is done without a fault, and puts one value on the stack. -/
theorem exists_tryRun_visit (pow : Power) (e : Expr) (w : Walk) (rest : List Task) :
    ∃ value w', w'.values = value :: w.values ∧
      tryRun pow w (.visit e :: rest) = tryRun pow w' rest := by
  induction e generalizing w rest with
  | number n => exact ⟨_, _, rfl, tryRun_cons rest (attempt_number pow w n)⟩
  | unary s operand ih =>
    obtain ⟨x, w₁, hvalues, hoperand⟩ :=
      ih { w with events := .reached .unary :: w.events } (.sign s :: rest)
    refine ⟨s.apply x, w₁.leave .unary (s.apply x) w.values (s.steps x), rfl, ?_⟩
    rw [tryRun_cons rest rfl]
    exact hoperand.trans (tryRun_cons rest (attempt_sign pow s hvalues))
  | binary left op right ih₁ ih₂ =>
    obtain ⟨x, w₁, hvalues₁, hleft⟩ :=
      ih₁ { w with events := .reached .binary :: w.events } (.visit right :: .join op :: rest)
    obtain ⟨y, w₂, hvalues₂, hright⟩ := ih₂ w₁ (.join op :: rest)
    obtain ⟨result, hresult⟩ := op.exists_attempt pow x y
    obtain ⟨step, -, hjoin⟩ := attempt_join pow op (hvalues₂.trans (by rw [hvalues₁])) hresult
    refine ⟨result, w₂.leave .binary result w.values [step], rfl, ?_⟩
    rw [tryRun_cons rest rfl]
    exact hleft.trans (hright.trans (tryRun_cons rest hjoin))

theorem exists_tryEvaluate (pow : Power) (e : Expr) : ∃ r, e.tryEvaluate pow = .ok r := by
  obtain ⟨value, ⟨values, steps, events⟩, hvalues, hrun⟩ := exists_tryRun_visit pow e .start []
  dsimp only at hvalues
  refine ⟨(value, steps.reverse), ?_⟩
  rw [tryEvaluate, hrun, tryRun, hvalues]

/-! ## The walk that may fault is the walk -/

/-- With the power of the calculator a task does what its turn does. -/
theorem attempt_eq_turn {w w' : Walk} {task : Task} {more : List Task}
    (h : task.turn w = some (w', more)) :
    task.attempt Binary64.power? w = .ok w' ∧ task.parts = more := by
  obtain ⟨values, steps, events⟩ := w
  cases task with
  | visit e =>
    cases e with
    | number n =>
      cases h
      exact ⟨attempt_number _ _ n, rfl⟩
    | unary s operand =>
      cases h
      exact ⟨rfl, rfl⟩
    | binary left op right =>
      cases h
      exact ⟨rfl, rfl⟩
  | sign s =>
    cases values with
    | nil => cases h
    | cons x values =>
      cases h
      exact ⟨attempt_sign _ s rfl, rfl⟩
  | join op =>
    match values with
    | [] | [_] => cases h
    | y :: x :: values =>
      cases h
      obtain ⟨step, hstep, hjoin⟩ := attempt_join Binary64.power?
        (w := ⟨y :: x :: values, steps, events⟩) op rfl (op.attempt_eq_apply x y)
      rw [op.tryStep_eq] at hstep
      cases hstep
      exact ⟨hjoin, rfl⟩

theorem tryRun_of_run {w w' : Walk} {tasks : List Task} (h : run w tasks = some w') :
    tryRun Binary64.power? w tasks = .ok w' := by
  fun_induction tryRun Binary64.power? w tasks with
  | case1 w =>
    rw [run] at h
    rw [Option.some.inj h]
  | case2 w task rest w₁ hattempt ih =>
    rw [run_cons] at h
    obtain ⟨⟨w₂, more⟩, hturn, hrest⟩ := Option.bind_eq_some_iff.1 h
    obtain ⟨hok, rfl⟩ := attempt_eq_turn hturn
    cases hattempt.symm.trans hok
    exact ih hrest
  | case3 w task rest fault hattempt =>
    rw [run_cons] at h
    obtain ⟨⟨w₂, more⟩, hturn, -⟩ := Option.bind_eq_some_iff.1 h
    cases hattempt.symm.trans (attempt_eq_turn hturn).1

theorem tryEvaluate_power? (e : Expr) :
    e.tryEvaluate Binary64.power? = .ok (e.evaluate.value, e.evaluate.steps) := by
  have hrun : run .start [.visit e] = some ⟨[e.value], e.steps.reverse, e.events.reverse⟩ := by
    rw [Walk.start, run_visit, run]
    simp
  rw [tryEvaluate, tryRun_of_run hrun, evaluate_eq]
  dsimp only
  rw [List.reverse_reverse]

/-- **Evaluation and display never fault.** The operations of the machine may fault, each where it
cannot do better and the power wherever it likes; still every expression is evaluated, every number
and so every value is displayed, and with the power of the calculator both are what they are
without faults. No step is too long, for an integer among the numbers has 309 digits at most. -/
theorem evaluation_faultless :
    (∀ (pow : Power) (e : Expr), ∃ r shown, e.tryEvaluate pow = .ok r ∧
      r.1.tryDisplay = .ok shown) ∧
    (∀ e : Expr, e.tryEvaluate Binary64.power? = .ok (e.evaluate.value, e.evaluate.steps)) ∧
    (∀ x : Binary64, x.tryDisplay = .ok x.display) ∧
    ∀ (x : Binary64) n, x.toInt? = some n → n.natAbs.repr.length ≤ 309 := by
  refine ⟨fun pow e => ?_, tryEvaluate_power?, Binary64.tryDisplay_eq,
    fun _ _ => Binary64.length_repr_le_of_toInt?⟩
  obtain ⟨r, hr⟩ := exists_tryEvaluate pow e
  exact ⟨r, _, hr, r.1.tryDisplay_eq⟩

/-- The largest of the integers has 309 digits indeed, and `1 / 0 ^ 2` is evaluated by a machine
that has no power at all. -/
theorem evaluation_faultless_largest : ∃ (x : Binary64) (n : Nat), x.toInt? = some (n : Int) ∧
    (n : Int).natAbs.repr.length ≤ 309 ∧ Nat.pow 10 308 ≤ n ∧
    ∃ r, (binary (binary (number 1) (.multiplicative .divide) (number 0)) .power
      (number 2)).tryEvaluate (fun _ _ => .error .undefined) = .ok r := by
  obtain ⟨hreturns, -, -, hlength⟩ := evaluation_faultless
  have hlargest : (Binary64.finite false ⟨ranks - 1, by decide⟩).toInt? =
      some ((Nat.pow 2 1024 - Nat.pow 2 971 : Nat) : Int) := by decide +kernel
  obtain ⟨r, -, hr, -⟩ := hreturns (fun _ _ => .error .undefined)
    (binary (binary (number 1) (.multiplicative .divide) (number 0)) .power (number 2))
  exact ⟨_, _, hlargest, hlength _ _ hlargest, by decide +kernel, r, hr⟩

end Expr

end Calculator
