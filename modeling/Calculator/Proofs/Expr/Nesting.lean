/-
How deep a run nests, and that the limit on nesting counts nothing else.

At every point of a run the parser is inside some open groups and some signs
whose operand it is parsing. `Passes l left p within q` says that the run of a
level, without any limit, comes to the parser `q` inside these; what was closed
or finished before is in none of them, however much there was of it.

A run ends with the depth error only at a point of the unlimited run that is
deeper than the limit (`Course.passes`). So a text whose unlimited run never
nests that deep is parsed as without a limit.
-/
import Calculator.Proofs.Expr.Acceptance

namespace Calculator

namespace Parser

/-- What a point of a run may be inside of. -/
inductive Enclosure where
  /-- a group that is open -/
  | group
  /-- a sign whose operand is being parsed -/
  | sign
  deriving DecidableEq, Repr

/-- How deep a point of a run is: four for each open group, and one for each sign. -/
def depthWithin (within : List Enclosure) : Nat := 4 * within.count .group + within.count .sign

@[simp] theorem depthWithin_nil : depthWithin [] = 0 := rfl

@[simp] theorem depthWithin_group (within : List Enclosure) :
    depthWithin (.group :: within) = groupDepth + depthWithin within := by
  simp [depthWithin, groupDepth]
  omega

@[simp] theorem depthWithin_sign (within : List Enclosure) :
    depthWithin (.sign :: within) = signDepth + depthWithin within := by
  simp [depthWithin, signDepth]
  omega

/-- The run of a level without a limit comes to another parser, where it is inside these enclosures,
the outermost first. The level has folded `left` so far, as in a course of it. -/
inductive Passes : Level → Option Expr → Parser → List Enclosure → Parser → Prop where
  | here {l : Level} {left : Option Expr} {p : Parser} : Passes l left p [] p
  | sign {p q r : Parser} {sign : Sign} {within : List Enclosure}
      (stands : p.lookahead = .additive sign) (fetch : p.fetch = (.ok (), q))
      (operand : Passes .operand none q within r) : Passes .operand none p (.sign :: within) r
  | group {p q r : Parser} {within : List Enclosure} (stands : p.lookahead = .paren .opening)
      (fetch : p.fetch = (.ok (), q)) (inner : Passes .sum none q within r) :
      Passes .operand none p (.group :: within) r
  | first {l : Level} {p q : Parser} {within : List Enclosure} (joins : l ≠ .operand)
      (operand : Passes l.tighter none p within q) : Passes l none p within q
  | rest {l : Level} {p q r : Parser} {left : Expr} {within : List Enclosure} (joins : l ≠ .operand)
      (operand : Course none 0 l.tighter none p (.ok left) q)
      (rest : Passes l (some left) q within r) : Passes l none p within r
  | next {l : Level} {p q r : Parser} {left : Expr} {op : Operator} {within : List Enclosure}
      (stands : l.operator? p.lookahead = some op) (fetch : p.fetch = (.ok (), q))
      (operand : Passes l.tighter none q within r) : Passes l (some left) p within r
  | later {l : Level} {p q r s : Parser} {left right : Expr} {op : Operator}
      {within : List Enclosure} (stands : l.operator? p.lookahead = some op)
      (fetch : p.fetch = (.ok (), q)) (operand : Course none 0 l.tighter none q (.ok right) r)
      (rest : Passes l (some (.binary left op right)) r within s) : Passes l (some left) p within s

/-! ## Where a limit stops a run -/

theorem IsTooDeep.map {o : Except ExpressionError Expr} (f : Expr → Expr) (h : IsTooDeep o) :
    IsTooDeep (o.map f) := by
  obtain ⟨kind, rfl⟩ := h
  exact ⟨kind, rfl⟩

theorem not_isTooDeep_ok (e : Expr) : ¬IsTooDeep (.ok e) := fun ⟨_, h⟩ => nomatch h

/-- What a run does that the limit does not stop, it does without a limit, at any depth. -/
theorem Course.unlimited {limit : Option Nat} {depth : Nat} {l : Level} {left : Option Expr}
    {p q : Parser} {o : Except ExpressionError Expr} (h : Course limit depth l left p o q)
    (shallow : ¬IsTooDeep o) (depth' : Nat) : Course none depth' l left p o q := by
  induction h generalizing depth' with
  | tooDeep _ => exact absurd ⟨_, rfl⟩ shallow
  | noOperand _ stands => exact .noOperand rfl stands
  | unreadOperand _ stands fetch => exact .unreadOperand rfl stands fetch
  | number _ stands fetch => exact .number rfl stands fetch
  | sign _ stands fetch _ ih => exact .sign rfl stands fetch (ih (mt (·.map _) shallow) _)
  | badGroup _ stands fetch _ ih => exact .badGroup rfl stands fetch (ih shallow _)
  | group _ stands fetch _ closed ih =>
    exact .group rfl stands fetch (ih (not_isTooDeep_ok _) _) closed
  | badFirst joins _ ih => exact .badFirst joins (ih shallow _)
  | first joins _ _ ih₁ ih₂ => exact .first joins (ih₁ (not_isTooDeep_ok _) _) (ih₂ shallow _)
  | stop stands => exact .stop stands
  | unreadOperator stands fetch => exact .unreadOperator stands fetch
  | badNext stands fetch _ ih => exact .badNext stands fetch (ih shallow _)
  | join stands fetch _ _ ih₁ ih₂ =>
    exact .join stands fetch (ih₁ (not_isTooDeep_ok _) _) (ih₂ shallow _)

/-- **A run that ends with the depth error has come to a point of the unlimited run that is over the
limit,** and names the token that stands there. -/
theorem Course.passes {limit : Option Nat} {depth : Nat} {l : Level} {left : Option Expr}
    {p q : Parser} {o : Except ExpressionError Expr} (h : Course limit depth l left p o q)
    (deep : IsTooDeep o) :
    o = .error (.grammatical (.tooDeep q.lookahead.kind)) ∧
      ∃ within, Passes l left p within q ∧ exceeds (depth + depthWithin within) limit = true := by
  -- The depth at which a course begins and what it is inside of make up the depth of its end.
  induction h with
  | tooDeep exceeded => exact ⟨rfl, [], .here, exceeded⟩
  | noOperand _ _ | number _ _ _ | stop _ =>
    obtain ⟨kind, heq⟩ := deep
    cases heq
  | unreadOperand _ _ fetch | unreadOperator _ fetch =>
    exact absurd deep (not_isTooDeep_of_fetch fetch)
  | sign _ stands fetch _ ih =>
    obtain ⟨rfl, within, hpasses, hexceeds⟩ := ih deep.of_map
    refine ⟨rfl, .sign :: within, .sign stands fetch hpasses, ?_⟩
    rwa [depthWithin_sign, ← Nat.add_assoc]
  | badGroup _ stands fetch _ ih =>
    obtain ⟨heq, within, hpasses, hexceeds⟩ := ih deep
    refine ⟨heq, .group :: within, .group stands fetch hpasses, ?_⟩
    rwa [depthWithin_group, ← Nat.add_assoc]
  | group _ _ _ _ closed _ => exact absurd deep (not_isTooDeep_of_close closed)
  | badFirst joins _ ih =>
    obtain ⟨heq, within, hpasses, hexceeds⟩ := ih deep
    exact ⟨heq, within, .first joins hpasses, hexceeds⟩
  | first joins operand _ _ ih₂ =>
    obtain ⟨heq, within, hpasses, hexceeds⟩ := ih₂ deep
    have hoperand := operand.unlimited (not_isTooDeep_ok _) 0
    exact ⟨heq, within, .rest joins hoperand hpasses, hexceeds⟩
  | badNext stands fetch _ ih =>
    obtain ⟨heq, within, hpasses, hexceeds⟩ := ih deep
    exact ⟨heq, within, .next stands fetch hpasses, hexceeds⟩
  | join stands fetch operand _ _ ih₂ =>
    obtain ⟨heq, within, hpasses, hexceeds⟩ := ih₂ deep
    have hoperand := operand.unlimited (not_isTooDeep_ok _) 0
    exact ⟨heq, within, .later stands fetch hoperand hpasses, hexceeds⟩

/-! ## Whole expressions -/

/-- The unlimited run of the parser nests no deeper than this. -/
def NestsWithin (bound : Nat) (p : Parser) : Prop :=
  ∀ within q, Passes .sum none p within q → depthWithin within ≤ bound

theorem course_of_treeWithin_tooDeep {limit : Option Nat} {p q : Parser} {kind : TokenKind}
    (h : p.treeWithin limit = (.error (.grammatical (.tooDeep kind)), q)) :
    Course limit 0 .sum none p (.error (.grammatical (.tooDeep kind))) q := by
  rw [← expression_eq_iff]
  unfold treeWithin finish at h
  split at h
  next =>
    split at h <;> cases h
  next hexpr =>
    cases h
    exact hexpr

theorem exists_passes_of_tooDeep {limit : Nat} {p q : Parser} {kind : TokenKind}
    (h : p.treeWithin (some limit) = (.error (.grammatical (.tooDeep kind)), q)) :
    kind = q.lookahead.kind ∧
      ∃ within, Passes .sum none p within q ∧ limit < depthWithin within := by
  obtain ⟨heq, within, hpasses, hexceeds⟩ :=
    (course_of_treeWithin_tooDeep h).passes ⟨kind, rfl⟩
  cases heq
  rw [Nat.zero_add, exceeds_some_iff] at hexceeds
  exact ⟨rfl, within, hpasses, hexceeds⟩

theorem NestsWithin.treeWithin_eq {limit : Nat} {p : Parser} (h : p.NestsWithin limit) :
    p.treeWithin (some limit) = p.treeWithin none := by
  rcases hfree : p.expression none with ⟨o, q⟩
  obtain hc | ⟨_, r, hc, deep⟩ := (expression_eq_iff.1 hfree).limited (some limit)
  · unfold treeWithin
    rw [hfree, expression_eq_iff.2 hc]
  · obtain ⟨-, within, hpasses, hexceeds⟩ := hc.passes deep
    rw [Nat.zero_add, exceeds_some_iff] at hexceeds
    exact absurd (h within r hpasses) (Nat.not_le.2 hexceeds)

theorem NestsWithin.mono {m n : Nat} {p : Parser} (h : p.NestsWithin m) (hle : m ≤ n) :
    p.NestsWithin n := fun within q hpasses => Nat.le_trans (h within q hpasses) hle

/-! ## What makes a text nest -/

/-- How much deeper a token can take a run. -/
def deepens : Token → Nat
  | .paren .opening => groupDepth
  | .additive _ => signDepth
  | _ => 0

/-- How much deeper tokens can take a run together. -/
def deepensBy : List Token → Nat
  | [] => 0
  | t :: ts => deepens t + deepensBy ts

theorem deepensBy_cons (t : Token) (ts : List Token) :
    deepensBy (t :: ts) = deepens t + deepensBy ts := rfl

theorem deepensBy_append (ts us : List Token) :
    deepensBy (ts ++ us) = deepensBy ts + deepensBy us := by
  induction ts with
  | nil => exact (Nat.zero_add _).symm
  | cons t ts ih => rw [List.cons_append, deepensBy_cons, deepensBy_cons, ih, Nat.add_assoc]

theorem Passes.exists_eats {l : Level} {left : Option Expr} {p q : Parser}
    {within : List Enclosure} (h : Passes l left p within q) :
    ∃ ts, Eats p ts q ∧ depthWithin within ≤ deepensBy ts := by
  induction h with
  | here => exact ⟨[], .nil, Nat.le_refl _⟩
  | @sign _ _ _ sign _ stands fetch _ ih =>
    obtain ⟨ts, heats, hle⟩ := ih
    refine ⟨.additive sign :: ts, .of_fetch stands nofun fetch heats, ?_⟩
    rw [depthWithin_sign, deepensBy_cons]
    exact Nat.add_le_add_left hle _
  | group stands fetch _ ih =>
    obtain ⟨ts, heats, hle⟩ := ih
    refine ⟨.paren .opening :: ts, .of_fetch stands nofun fetch heats, ?_⟩
    rw [depthWithin_group, deepensBy_cons]
    exact Nat.add_le_add_left hle _
  | first _ _ ih => exact ih
  | rest _ operand _ ih =>
    obtain ⟨-, before, hbefore, -⟩ := operand.sound _ rfl nofun
    obtain ⟨ts, heats, hle⟩ := ih
    refine ⟨before ++ ts, hbefore.append heats, ?_⟩
    rw [deepensBy_append]
    omega
  | next stands fetch _ ih =>
    obtain ⟨ts, heats, hle⟩ := ih
    refine ⟨_, .cons (Level.ne_endOfText_of_operator? stands) fetch heats, ?_⟩
    rw [deepensBy_cons]
    omega
  | later stands fetch operand _ ih =>
    obtain ⟨-, before, hbefore, -⟩ := operand.sound _ rfl nofun
    obtain ⟨ts, heats, hle⟩ := ih
    refine ⟨_, .cons (Level.ne_endOfText_of_operator? stands) fetch (hbefore.append heats), ?_⟩
    rw [deepensBy_cons, deepensBy_append]
    omega

/-- How much deeper the characters of a text can take a run. -/
def deepening (text : List Char) : Nat :=
  4 * text.count '(' + (text.count '+' + text.count '-')

theorem deepening_append (front text : List Char) :
    deepening (front ++ text) = deepening front + deepening text := by
  simp only [deepening, List.count_append]
  omega

theorem deepens_le_of_lexeme {t : Token} {word : List Char} (h : Lexeme t word) :
    deepens t ≤ deepening word := by
  cases h with
  | integer => exact Nat.zero_le _
  | additive sign => cases sign <;> decide
  | multiplicative scaling => exact Nat.zero_le _
  | power => exact Nat.zero_le _
  | paren side => cases side <;> decide

theorem deepens_le_of_reads {c d : Cursor} {ts : List Token} (h : c.Reads ts d) :
    deepensBy ts ≤ deepening c.rest := by
  induction h with
  | nil => exact Nat.zero_le _
  | cons next more _ ih =>
    cases Cursor.step_iff.2 next with
    | finish _ => exact absurd rfl more
    | token _ lexeme _ =>
      have hword := deepens_le_of_lexeme lexeme
      rw [deepensBy_cons, deepening_append, deepening_append]
      dsimp only at ih
      omega

/-- **A text nests no deeper than its opening parentheses and its signs let it,** however long it
is. -/
theorem nestsWithin_deepening {strict : Bool} {text : List Char} {p : Parser}
    (h : ofText strict text = .ok p) : p.NestsWithin (deepening text) := by
  intro within q hpasses
  obtain ⟨ts, heats, hle⟩ := hpasses.exists_eats
  obtain ⟨d, hreads, -⟩ := reads_of_eats (ofText_ok h).2.1 heats
  exact Nat.le_trans hle (deepens_le_of_reads hreads)

end Parser

open Calculator.Parser

theorem parseWithin_eq_of_nestsWithin {strict : Bool} {text : List Char} {bound limit : Nat}
    (h : ∀ p, ofText strict text = .ok p → p.NestsWithin bound) (hle : bound ≤ limit) :
    parseWithin (some limit) strict text = parseWithin none strict text := by
  unfold parseWithin
  rcases hp : ofText strict text with e | p
  · rfl
  · exact congrArg Prod.fst ((h p hp).mono hle).treeWithin_eq

/-- **The limit counts nesting and nothing else.** A text whose unlimited run is never deeper than
16000, where an open group counts four and a sign whose operand is being parsed counts one, has the
outcome of the parser without a limit. A parser says that the nesting is too deep only where that
run has come deeper than 16000. -/
theorem parse_counts_nesting :
    (∀ strict text, (∀ p, ofText strict text = .ok p → p.NestsWithin 16000) →
      parse strict text = parseWithin none strict text) ∧
    ∀ p kind q, p.tree = (.error (.grammatical (.tooDeep kind)), q) →
      ∃ within, Passes .sum none p within q ∧ 16000 < depthWithin within := by
  refine ⟨fun strict text h => parseWithin_eq_of_nestsWithin h (by decide), fun p kind q htree => ?_⟩
  · obtain ⟨-, within, hpasses, hlt⟩ := exists_passes_of_tooDeep htree
    exact ⟨within, hpasses, Nat.lt_trans (by decide) hlt⟩

/-- An open group that begins with so many products. -/
def openProducts (n : Nat) : List Char := '(' :: ((List.replicate n ['2', '*']).flatten ++ ['3'])

theorem deepening_openProducts (n : Nat) : deepening (openProducts n) = 4 := by
  have hfree : ∀ c, ['2', '*'].count c = 0 →
      ((List.replicate n ['2', '*']).flatten).count c = 0 := by
    intro c hc
    simp [List.count_flatten, hc]
  simp [openProducts, deepening, hfree]

/-- An open group with twenty thousand products in it is parsed as without a limit: it nests no
deeper than the group. -/
theorem parse_counts_nesting_products :
    (∀ p, ofText true (openProducts 20000) = .ok p → p.NestsWithin 16000) ∧
      parse true (openProducts 20000) = parseWithin none true (openProducts 20000) := by
  have hnests : ∀ p, ofText true (openProducts 20000) = .ok p → p.NestsWithin 16000 := by
    intro p hp
    have hdeepening := nestsWithin_deepening hp
    rw [deepening_openProducts] at hdeepening
    exact hdeepening.mono (by decide)
  exact ⟨hnests, parse_counts_nesting.1 true _ hnests⟩

end Calculator
