/-
Containers of JSON: what the reader takes off the front of a text (`Takes`), for
each form of a value, and for arrays and objects where it takes their entries
(`takes_array_cons`, `takes_object_cons`).

What follows a value is arbitrary, but must not continue a number (`IsReadAs`).
The entries of a container are read one by one, with those read so far; the
induction on them is the same for items and members (`separated_induction`).
-/
import Calculator.Proofs.Json.Scalar
import Calculator.Proofs.Json.String

namespace Calculator.Json

variable {limits : Limits} {depth : Nat}

/-! ## Blanks -/

/-- All characters may stand between the parts of a value. -/
def IsLayout (gap : List Char) : Prop := ∀ c ∈ gap, isSpace c = true

theorem skip_gap {gap : List Char} (hgap : IsLayout gap) {text : List Char}
    (htext : Stops isSpace text) : skip (gap ++ text) = text := by
  rw [skip, List.dropWhile_append_of_pos hgap]
  cases text with
  | nil => rfl
  | cons c text =>
    have hc : isSpace c = false := htext c rfl
    simp [hc]

theorem skip_of_stops {text : List Char} (h : Stops isSpace text) : skip text = text :=
  skip_gap (List.forall_mem_nil _) h

theorem IsLayout.stops {gap : List Char} (hgap : IsLayout gap) {tail : List Char}
    (htail : Stops continuesNumber tail) : Stops continuesNumber (gap ++ tail) := by
  refine htail.prepend fun c hc => ?_
  have hspace := hgap c hc
  simp only [isSpace, Bool.or_eq_true, decide_eq_true_eq] at hspace
  obtain ((rfl | rfl) | rfl) | rfl := hspace <;> rfl

/-! ## What the reader takes -/

/-- The reader takes the value off the front of the text and leaves `rest`. -/
def Takes (limits : Limits) (depth : Nat) (text : List Char) (value : Json) (rest : List Char) :
    Prop :=
  ∃ h, valueAt limits depth text = .ok ⟨value, rest, h⟩

/-- The character begins a string or a container. -/
def opens (c : Char) : Bool := c = '"' || c = '[' || c = '\x7b'

theorem valueAt_scalar {text : List Char} (htext : Stops opens text) :
    valueAt limits depth text = scalar limits text := by
  cases text with
  | nil =>
    rw [valueAt]
    all_goals simp
  | cons c more =>
    have hc : opens c = false := htext c rfl
    simp only [opens, Bool.or_eq_false_iff, decide_eq_false_iff_not] at hc
    rw [valueAt]
    all_goals simp_all

theorem takes_word {w : List Char × Json} (h : w ∈ words) (tail : List Char) :
    Takes limits depth (w.1 ++ tail) w.2 tail := by
  have hopens : Stops opens (w.1 ++ tail) := by
    simp only [words, List.mem_cons, List.not_mem_nil, or_false] at h
    obtain rfl | rfl | rfl | rfl | rfl | rfl := h <;> exact stops_cons rfl _
  rw [Takes, valueAt_scalar hopens]
  exact scalar_word h tail

theorem takes_decimal {value : Int}
    (short : limits.digits.all (value.natAbs.repr.length ≤ ·) = true) {tail : List Char}
    (htail : Stops continuesNumber tail) :
    Takes limits depth ((Numeral.decimal value).toList ++ tail) (.integer value) tail := by
  have hopens : Stops opens ((Numeral.decimal value).toList ++ tail) := by
    have hbegins := Numeral.beginsNumber_decimal value
    generalize (Numeral.decimal value).toList = text at hbegins
    cases hbegins with
    | @digit d isDigit rest =>
      refine stops_cons ?_ _
      simp only [opens, Bool.or_eq_false_iff, decide_eq_false_iff_not]
      refine ⟨⟨?_, ?_⟩, ?_⟩ <;> (rintro rfl; cases isDigit)
    | minus => exact stops_cons rfl _
  rw [Takes, valueAt_scalar hopens]
  exact scalar_decimal short htail

theorem takes_string (text : String) (tail : List Char) :
    Takes limits depth ((quoted text).toList ++ tail) (.string text) tail := by
  obtain ⟨inside, heq, hstring⟩ := stringAfter_quoted text tail
  obtain ⟨h, hread⟩ := hstring (by simp)
  rw [heq]
  refine ⟨h, ?_⟩
  rw [valueAt, hread]
  rfl

/-- The character ends a value or stands before one. -/
def isAround (c : Char) : Bool := isSpace c || c = ']'

theorem stops_isSpace {text : List Char} (h : Stops isAround text) : Stops isSpace text := by
  intro c hc
  have hbegins := h c hc
  simp only [isAround, Bool.or_eq_false_iff] at hbegins
  exact hbegins.1

theorem Takes.begins {text rest : List Char} {value : Json}
    (h : Takes limits depth text value rest) : Stops isAround text := by
  obtain ⟨_, h⟩ := h
  intro c hc
  obtain ⟨more, rfl⟩ : ∃ more, text = c :: more := by
    cases text with
    | nil => cases hc
    | cons d more => exact ⟨more, by simpa using hc⟩
  rw [← Bool.not_eq_true]
  intro around
  have hc : c = ' ' ∨ c = '\t' ∨ c = '\n' ∨ c = '\r' ∨ c = ']' := by
    simpa [isAround, isSpace, or_assoc] using around
  have hfault : scalar limits (c :: more) = .error (.malformed (c :: more).length) := by
    refine scalar_malformed ?_ ?_
    · obtain rfl | rfl | rfl | rfl | rfl := hc <;> simp [wordAt?, words, List.isPrefixOf]
    · obtain rfl | rfl | rfl | rfl | rfl := hc <;> simp [numberAt?, unsignedAt?, wholeAt]
  have hopens : opens c = false := by
    obtain rfl | rfl | rfl | rfl | rfl := hc <;> rfl
  rw [valueAt_scalar (stops_cons hopens more), hfault] at h
  cases h

/-- The text is read as the value, whatever follows that does not continue a number. -/
def IsReadAs (limits : Limits) (depth : Nat) (text : List Char) (value : Json) : Prop :=
  ∀ tail, Stops continuesNumber tail → Takes limits depth (text ++ tail) value tail

theorem IsReadAs.begins {text : List Char} {value : Json} (h : IsReadAs limits depth text value)
    (more : List Char) : Stops isAround (text ++ more) := by
  have htakes : Takes limits depth (text ++ []) value [] := h [] nofun
  rw [List.append_nil] at htakes
  cases text with
  | nil =>
    obtain ⟨shorter, -⟩ := htakes
    cases shorter
  | cons c text =>
    have hc : isAround c = false := htakes.begins c rfl
    exact stops_cons hc _

/-! ## Entries -/

theorem exists_intercalate_cons {α : Type} (separator first : List α) (rest : List (List α))
    (ending : List α) :
    ∃ more, separator.intercalate (first :: rest) ++ ending = first ++ more := by
  cases rest with
  | nil => exact ⟨ending, by simp⟩
  | cons second rest => exact ⟨_, by rw [List.intercalate_cons_cons, List.append_assoc,
      List.append_assoc]⟩

/-- What holds behind the last entry, and before an entry if it holds behind it, holds before
all entries. -/
theorem separated_induction {α : Type} {P : List α → List Char → Prop} {written : α → List Char}
    {separator ending : List Char} {all : List α}
    (last : ∀ done e, done.reverse ++ [e] = all → P done (written e ++ ending))
    (next : ∀ done e f more, e ∈ all → f ∈ all → P (e :: done) (written f ++ more) →
      P done (written e ++ (separator ++ (written f ++ more)))) (rest : List α) :
    ∀ done e, done.reverse ++ e :: rest = all →
      P done (separator.intercalate ((e :: rest).map written) ++ ending) := by
  induction rest with
  | nil =>
    intro done e hall
    simpa using last done e hall
  | cons f rest ih =>
    -- Behind `e` stands a text that begins with `f`: what follows `f` does not matter.
    intro done e hall
    have hmore := ih (e :: done) f (by simpa using hall)
    have he : e ∈ all := by simp [← hall]
    have hf : f ∈ all := by simp [← hall]
    obtain ⟨more, hfront⟩ := exists_intercalate_cons separator (written f) (rest.map written) ending
    rw [List.map_cons, hfront] at hmore
    have := next done e f more he hf hmore
    rw [← hfront] at this
    simpa [List.intercalate_cons_cons] using this

/-! ## Arrays -/

theorem itemsAfter_last {start text gap tail : List Char} {item : Json} (done : List Json)
    (htakes : Takes limits depth text item (gap ++ ']' :: tail)) (hgap : IsLayout gap)
    (h : text.length < start.length) :
    ∃ h', itemsAfter limits depth start done text h =
      .ok ⟨.array (done.reverse ++ [item]), tail, h'⟩ := by
  obtain ⟨shorter, heq⟩ := htakes
  have hskip : skip (gap ++ ']' :: tail) = ']' :: tail := skip_gap hgap (stops_cons rfl tail)
  have h' : tail.length < start.length := by
    simp only [List.length_append, List.length_cons] at shorter
    omega
  refine ⟨h', ?_⟩
  rw [itemsAfter, heq]
  simp only
  -- The branches carry the equation that they were taken by, so `hskip` cannot be rewritten here.
  split
  · rename_i left hs
    rw [hskip] at hs
    obtain rfl : tail = left := by simpa using hs
    simp
  · rename_i hs
    rw [hskip] at hs
    simp at hs
  · rename_i hne _
    exact absurd hskip (hne tail)

theorem itemsAfter_next {start text gap more : List Char} {item : Json} (done : List Json)
    (htakes : Takes limits depth text item (',' :: (gap ++ more))) (hgap : IsLayout gap)
    (hmore : Stops isSpace more) (h : text.length < start.length) :
    ∃ h', itemsAfter limits depth start done text h =
      itemsAfter limits depth start (item :: done) more h' := by
  obtain ⟨shorter, heq⟩ := htakes
  have hcomma : skip (',' :: (gap ++ more)) = ',' :: (gap ++ more) :=
    skip_of_stops (stops_cons rfl _)
  have hskip : skip (gap ++ more) = more := skip_gap hgap hmore
  have h' : more.length < start.length := by
    simp only [List.length_append, List.length_cons] at shorter
    omega
  refine ⟨h', ?_⟩
  rw [itemsAfter, heq]
  simp only
  split
  · rename_i hs
    rw [hcomma] at hs
    simp at hs
  · rename_i left hs
    rw [hcomma] at hs
    obtain rfl : gap ++ more = left := by simpa using hs
    simp only [hskip]
  · rename_i _ hne
    exact absurd hcomma (hne _)

theorem itemsAfter_items {start gap ending tail : List Char} {items : List Json}
    {written : Json → List Char} (hne : items ≠ []) (hgap : IsLayout gap) (hending : IsLayout ending)
    (hitems : ∀ item ∈ items, IsReadAs limits depth (written item) item) :
    ∀ h, ∃ h', itemsAfter limits depth start []
      ((',' :: gap).intercalate (items.map written) ++ (ending ++ ']' :: tail)) h =
        .ok ⟨.array items, tail, h'⟩ := by
  obtain ⟨first, rest, rfl⟩ := List.exists_cons_of_ne_nil hne
  refine separated_induction
    (P := fun done text => ∀ h, ∃ h',
      itemsAfter limits depth start done text h = .ok ⟨.array (first :: rest), tail, h'⟩)
    ?last ?next rest [] first rfl
  case last =>
    intro done item (hall : done.reverse ++ [item] = first :: rest) h
    have hitem : item ∈ first :: rest := by simp [← hall]
    have hstops : Stops continuesNumber (ending ++ ']' :: tail) :=
      hending.stops (stops_cons rfl tail)
    rw [← hall]
    exact itemsAfter_last done (hitems item hitem _ hstops) hending h
  case next =>
    intro done item following more hitem hfollowing ih h
    have hstops : Stops continuesNumber (',' :: (gap ++ (written following ++ more))) :=
      stops_cons rfl _
    have hmore := stops_isSpace ((hitems following hfollowing).begins more)
    obtain ⟨h₁, hnext⟩ := itemsAfter_next done (hitems item hitem _ hstops) hgap hmore h
    obtain ⟨h₂, hread⟩ := ih h₁
    exact ⟨h₂, hnext.trans hread⟩

theorem takes_array_nil (admitted : limits.admits depth = true) (tail : List Char) :
    Takes limits depth ('[' :: ']' :: tail) (.array []) tail := by
  have hskip : skip (']' :: tail) = ']' :: tail := skip_of_stops (stops_cons rfl tail)
  refine ⟨by simp only [List.length_cons]; omega, ?_⟩
  rw [valueAt, if_neg (by simp [admitted])]
  split
  · rename_i left hs
    rw [hskip] at hs
    obtain rfl : tail = left := by simpa using hs
    rfl
  · rename_i hne
    exact absurd hskip (hne tail)

theorem valueAt_array_cons (admitted : limits.admits depth = true) {gap more : List Char}
    (hgap : IsLayout gap) (hmore : Stops isAround more) :
    ∃ h, valueAt limits depth ('[' :: (gap ++ more)) =
      itemsAfter limits (depth + 1) ('[' :: (gap ++ more)) [] more h := by
  have hskip : skip (gap ++ more) = more := skip_gap hgap (stops_isSpace hmore)
  refine ⟨by simp only [List.length_cons, List.length_append]; omega, ?_⟩
  rw [valueAt, if_neg (by simp [admitted])]
  split
  · rename_i left hs
    rw [hskip] at hs
    have := hmore ']' (by rw [hs]; rfl)
    simp [isAround] at this
  · simp only [hskip]

theorem takes_array_cons {gap ending : List Char} {items : List Json}
    {written : Json → List Char} (hne : items ≠ []) (admitted : limits.admits depth = true)
    (hgap : IsLayout gap) (hending : IsLayout ending)
    (hitems : ∀ item ∈ items, IsReadAs limits (depth + 1) (written item) item) (tail : List Char) :
    Takes limits depth
      ('[' :: (gap ++ ((',' :: gap).intercalate (items.map written) ++ (ending ++ ']' :: tail))))
      (.array items) tail := by
  obtain ⟨first, rest, rfl⟩ := List.exists_cons_of_ne_nil hne
  obtain ⟨more, hfront⟩ := exists_intercalate_cons (',' :: gap) (written first) (rest.map written)
    (ending ++ ']' :: tail)
  have hmore : Stops isAround ((',' :: gap).intercalate ((first :: rest).map written) ++
      (ending ++ ']' :: tail)) := by
    rw [List.map_cons, hfront]
    exact (hitems first List.mem_cons_self).begins more
  obtain ⟨h₁, hvalue⟩ := valueAt_array_cons admitted hgap hmore
  obtain ⟨h₂, hread⟩ := itemsAfter_items hne hgap hending hitems h₁
  exact ⟨h₂, hvalue.trans hread⟩

/-! ## Objects -/

/-- The reader takes the name and the value of a member off the front of the text. -/
def TakesMember (limits : Limits) (depth : Nat) (text : List Char) (member : String × Json)
    (rest : List Char) : Prop :=
  ∃ behind h, nameAt text = .ok ⟨member.1, behind, h⟩ ∧
    Takes limits depth (skip behind) member.2 rest

theorem TakesMember.begins {text rest : List Char} {member : String × Json}
    (h : TakesMember limits depth text member rest) : ∃ inside, text = '"' :: inside := by
  obtain ⟨behind, _, hname, -⟩ := h
  unfold nameAt at hname
  split at hname
  · exact ⟨_, rfl⟩
  · cases hname

theorem nameAt_quoted (name : String) (behind : List Char) :
    ∃ h, nameAt ((quoted name).toList ++ ':' :: behind) = .ok ⟨name, behind, h⟩ := by
  obtain ⟨inside, heq, hstring⟩ := stringAfter_quoted name (':' :: behind)
  obtain ⟨h, hread⟩ := hstring (by simp)
  have hskip : skip (':' :: behind) = ':' :: behind := skip_of_stops (stops_cons rfl behind)
  rw [heq]
  refine ⟨Nat.lt_of_succ_lt h, ?_⟩
  unfold nameAt
  simp only [hread]
  split
  · rename_i behind' hc
    rw [hskip] at hc
    obtain rfl : behind = behind' := by simpa using hc
    rfl
  · rename_i hne
    exact absurd hskip (hne behind)

/-- The text is read as the member, whatever follows that does not continue a number. -/
def IsMemberReadAs (limits : Limits) (depth : Nat) (text : List Char) (member : String × Json) :
    Prop :=
  ∀ tail, Stops continuesNumber tail → TakesMember limits depth (text ++ tail) member tail

theorem isMemberReadAs {text gap : List Char} {value : Json}
    (hvalue : IsReadAs limits depth text value) (hgap : IsLayout gap) (name : String) :
    IsMemberReadAs limits depth ((quoted name).toList ++ ':' :: (gap ++ text)) (name, value) := by
  intro tail htail
  obtain ⟨h, hname⟩ := nameAt_quoted name (gap ++ (text ++ tail))
  have hskip : skip (gap ++ (text ++ tail)) = text ++ tail :=
    skip_gap hgap (stops_isSpace (hvalue.begins tail))
  have hassoc : (quoted name).toList ++ ':' :: (gap ++ text) ++ tail =
      (quoted name).toList ++ ':' :: (gap ++ (text ++ tail)) := by
    simp only [List.append_assoc, List.cons_append]
  rw [hassoc]
  refine ⟨gap ++ (text ++ tail), h, hname, ?_⟩
  rw [hskip]
  exact hvalue tail htail

theorem IsMemberReadAs.begins {text : List Char} {member : String × Json}
    (h : IsMemberReadAs limits depth text member) (more : List Char) :
    ∃ inside, text ++ more = '"' :: inside := by
  obtain ⟨inside, heq⟩ := (h [] nofun).begins
  rw [List.append_nil] at heq
  exact ⟨inside ++ more, by rw [heq, List.cons_append]⟩

theorem IsMemberReadAs.stops {text : List Char} {member : String × Json}
    (h : IsMemberReadAs limits depth text member) (more : List Char) :
    Stops isSpace (text ++ more) := by
  obtain ⟨inside, heq⟩ := h.begins more
  rw [heq]
  exact stops_cons rfl inside

theorem membersAfter_last {start text gap tail : List Char} {member : String × Json}
    (done : List (String × Json))
    (htakes : TakesMember limits depth text member (gap ++ '\x7d' :: tail)) (hgap : IsLayout gap)
    (h : text.length < start.length) :
    ∃ h', membersAfter limits depth start done text h =
      .ok ⟨.object (done.reverse ++ [member]), tail, h'⟩ := by
  obtain ⟨behind, hbehind, hname, shorter, hvalue⟩ := htakes
  have hskip : skip (gap ++ '\x7d' :: tail) = '\x7d' :: tail := skip_gap hgap (stops_cons rfl tail)
  have h' : tail.length < start.length := by
    have := length_skip_le behind
    simp only [List.length_append, List.length_cons] at shorter
    omega
  refine ⟨h', ?_⟩
  rw [membersAfter, hname]
  simp only [hvalue]
  split
  · rename_i left hs
    rw [hskip] at hs
    obtain rfl : tail = left := by simpa using hs
    simp
  · rename_i hs
    rw [hskip] at hs
    simp at hs
  · rename_i hne _
    exact absurd hskip (hne tail)

theorem membersAfter_next {start text gap more : List Char} {member : String × Json}
    (done : List (String × Json))
    (htakes : TakesMember limits depth text member (',' :: (gap ++ more))) (hgap : IsLayout gap)
    (hmore : Stops isSpace more) (h : text.length < start.length) :
    ∃ h', membersAfter limits depth start done text h =
      membersAfter limits depth start (member :: done) more h' := by
  obtain ⟨behind, hbehind, hname, shorter, hvalue⟩ := htakes
  have hcomma : skip (',' :: (gap ++ more)) = ',' :: (gap ++ more) :=
    skip_of_stops (stops_cons rfl _)
  have hskip : skip (gap ++ more) = more := skip_gap hgap hmore
  have h' : more.length < start.length := by
    have := length_skip_le behind
    simp only [List.length_append, List.length_cons] at shorter
    omega
  refine ⟨h', ?_⟩
  rw [membersAfter, hname]
  simp only [hvalue]
  split
  · rename_i hs
    rw [hcomma] at hs
    simp at hs
  · rename_i left hs
    rw [hcomma] at hs
    obtain rfl : gap ++ more = left := by simpa using hs
    simp only [hskip]
  · rename_i _ hne
    exact absurd hcomma (hne _)

theorem membersAfter_members {start gap ending tail : List Char} {members : List (String × Json)}
    {written : String × Json → List Char} (hne : members ≠ []) (hgap : IsLayout gap)
    (hending : IsLayout ending)
    (hmembers : ∀ member ∈ members, IsMemberReadAs limits depth (written member) member) :
    ∀ h, ∃ h', membersAfter limits depth start []
      ((',' :: gap).intercalate (members.map written) ++ (ending ++ '\x7d' :: tail)) h =
        .ok ⟨.object members, tail, h'⟩ := by
  obtain ⟨first, rest, rfl⟩ := List.exists_cons_of_ne_nil hne
  refine separated_induction
    (P := fun done text => ∀ h, ∃ h',
      membersAfter limits depth start done text h = .ok ⟨.object (first :: rest), tail, h'⟩)
    ?last ?next rest [] first rfl
  case last =>
    intro done member (hall : done.reverse ++ [member] = first :: rest) h
    have hmember : member ∈ first :: rest := by simp [← hall]
    have hstops : Stops continuesNumber (ending ++ '\x7d' :: tail) :=
      hending.stops (stops_cons rfl tail)
    rw [← hall]
    exact membersAfter_last done (hmembers member hmember _ hstops) hending h
  case next =>
    intro done member following more hmember hfollowing ih h
    have hstops : Stops continuesNumber (',' :: (gap ++ (written following ++ more))) :=
      stops_cons rfl _
    have hmore := (hmembers following hfollowing).stops more
    obtain ⟨h₁, hnext⟩ := membersAfter_next done (hmembers member hmember _ hstops) hgap hmore h
    obtain ⟨h₂, hread⟩ := ih h₁
    exact ⟨h₂, hnext.trans hread⟩

theorem takes_object_nil (admitted : limits.admits depth = true) (tail : List Char) :
    Takes limits depth ('\x7b' :: '\x7d' :: tail) (.object []) tail := by
  have hskip : skip ('\x7d' :: tail) = '\x7d' :: tail := skip_of_stops (stops_cons rfl tail)
  refine ⟨by simp only [List.length_cons]; omega, ?_⟩
  rw [valueAt, if_neg (by simp [admitted])]
  split
  · rename_i left hs
    rw [hskip] at hs
    obtain rfl : tail = left := by simpa using hs
    rfl
  · rename_i hne
    exact absurd hskip (hne tail)

theorem valueAt_object_cons (admitted : limits.admits depth = true) {gap more : List Char}
    (hgap : IsLayout gap) (hmore : ∃ inside, more = '"' :: inside) :
    ∃ h, valueAt limits depth ('\x7b' :: (gap ++ more)) =
      membersAfter limits (depth + 1) ('\x7b' :: (gap ++ more)) [] more h := by
  obtain ⟨inside, rfl⟩ := hmore
  have hskip : skip (gap ++ '"' :: inside) = '"' :: inside := skip_gap hgap (stops_cons rfl inside)
  refine ⟨by simp only [List.length_cons, List.length_append]; omega, ?_⟩
  rw [valueAt, if_neg (by simp [admitted])]
  split
  · rename_i left hs
    rw [hskip] at hs
    simp at hs
  · simp only [hskip]

theorem takes_object_cons {gap ending : List Char} {members : List (String × Json)}
    {written : String × Json → List Char} (hne : members ≠ [])
    (admitted : limits.admits depth = true) (hgap : IsLayout gap) (hending : IsLayout ending)
    (hmembers : ∀ member ∈ members, IsMemberReadAs limits (depth + 1) (written member) member)
    (tail : List Char) :
    Takes limits depth
      ('\x7b' ::
        (gap ++ ((',' :: gap).intercalate (members.map written) ++ (ending ++ '\x7d' :: tail))))
      (.object members) tail := by
  obtain ⟨first, rest, rfl⟩ := List.exists_cons_of_ne_nil hne
  obtain ⟨more, hfront⟩ := exists_intercalate_cons (',' :: gap) (written first) (rest.map written)
    (ending ++ '\x7d' :: tail)
  have hmore : ∃ inside, (',' :: gap).intercalate ((first :: rest).map written) ++
      (ending ++ '\x7d' :: tail) = '"' :: inside := by
    rw [List.map_cons, hfront]
    exact (hmembers first List.mem_cons_self).begins more
  obtain ⟨h₁, hvalue⟩ := valueAt_object_cons admitted hgap hmore
  obtain ⟨h₂, hread⟩ := membersAfter_members hne hgap hending hmembers h₁
  exact ⟨h₂, hvalue.trans hread⟩

end Calculator.Json
