/-
Which arguments are texts. An option that takes a text takes the next argument
if it is a text by its form (`IsText`), and otherwise the command line is wrong;
what is attached to the name of the option behind an equals sign is its text
whatever it looks like, except for two dashes alone.

So the two ways to give a text agree for the texts of that form and for no
others (`spellings_agree_iff`). An expression that begins with a minus is of
that form if nothing but digits follows, or if it has a space in it.
-/
import Calculator.Proofs.Command.Run
import Calculator.Token.Rendering
import Mathlib

namespace Calculator

theorem not_isLegal_of_isAlpha {c : Char} (h : c.isAlpha = true) : ¬IsLegal c := by
  -- the letters stand behind the digits
  have hletter : 'A'.toNat ≤ c.toNat := by
    obtain hupper | hlower := Bool.or_eq_true_iff.1 h
    · have hbounds : 'A'.val ≤ c.val ∧ c.val ≤ 'Z'.val := of_decide_eq_true hupper
      exact UInt32.le_iff_toNat_le.1 hbounds.1
    · have hleast : 'a'.val ≤ c.val := of_decide_eq_true (Bool.and_eq_true_iff.1 hlower).1
      exact Nat.le_trans (by decide) (UInt32.le_iff_toNat_le.1 hleast)
  rintro (rfl | hdigit | hsymbol)
  · cases h
  · exact absurd (Nat.le_trans hletter (Char.isDigit_iff_toNat.1 hdigit).2) (by decide)
  · simp only [List.mem_cons, List.not_mem_nil, or_false] at hsymbol
    rcases hsymbol with rfl | rfl | rfl | rfl | rfl | rfl | rfl <;> cases h

namespace Command

/-! ## Names of options -/

/-- The form of the name of an option: a letter after one dash, or letters after two. -/
def IsName (name : List Char) : Prop :=
  '=' ∉ name ∧ ∃ letter, letter.isAlpha = true ∧
    (name = ['-', letter] ∨ ∃ more, name = '-' :: '-' :: letter :: more)

theorem isName_of_mem_options {sub : Subcommand} : ∀ o ∈ sub.options, IsName o.1.toList := by
  cases sub <;> simp [Subcommand.options, IsName]

/-- The argument may mean the option of that name. After two dashes, it begins the name, up to an
equals sign; after one dash, its first letter is the name. -/
def MayMean (name argument : List Char) : Prop :=
  (∃ rest, argument = '-' :: '-' :: rest ∧ argument.takeWhile (· ≠ '=') <+: name) ∨
  ∃ letter value, letter ≠ '-' ∧ argument = '-' :: letter :: value ∧ name = ['-', letter]

theorem mayMean_long {name rest : List Char} : MayMean name ('-' :: '-' :: rest) ↔
    ('-' :: '-' :: rest).takeWhile (· ≠ '=') <+: name := by
  constructor
  · rintro (⟨_, -, h⟩ | ⟨letter, value, hne, heq, -⟩)
    · exact h
    · exact absurd (List.cons.inj (List.cons.inj heq).2).1.symm hne
  · exact fun h => .inl ⟨rest, rfl, h⟩

theorem mayMean_short {name value : List Char} {letter : Char} (hl : letter ≠ '-') :
    MayMean name ('-' :: letter :: value) ↔ name = ['-', letter] := by
  constructor
  · rintro (⟨_, heq, -⟩ | ⟨_, _, -, heq, h⟩)
    · exact absurd (List.cons.inj (List.cons.inj heq).2).1 hl
    · rw [h, (List.cons.inj (List.cons.inj heq).2).1]
  · exact fun h => .inr ⟨letter, value, hl, rfl, h⟩

theorem IsName.mayMean {name argument : List Char} (hname : IsName name)
    (h : name = argument ∨ name = argument.takeWhile (· ≠ '=')) : MayMean name argument := by
  obtain ⟨hequals, letter, hletter, hform⟩ := hname
  have hcut : name = argument.takeWhile (· ≠ '=') := by
    obtain rfl | h := h
    · refine (List.takeWhile_eq_self_iff.2 fun c hc => ?_).symm
      exact decide_eq_true fun heq => hequals (heq ▸ hc)
    · exact h
  obtain ⟨behind, rfl⟩ : name <+: argument := hcut ▸ List.takeWhile_prefix _
  obtain rfl | ⟨more, rfl⟩ := hform
  · have hne : letter ≠ '-' := by rintro rfl; cases hletter
    exact .inr ⟨letter, behind, hne, rfl, rfl⟩
  · exact .inl ⟨letter :: more ++ behind, rfl, hcut ▸ List.prefix_rfl⟩

/-! ## Classes of arguments -/

/-- The argument is a text: it does not begin with a dash, or is a dash alone, or can mean no option
and looks like a number or has a space. -/
def IsText (options : List (String × Flag)) (argument : String) : Prop :=
  argument.toList.head? ≠ some '-' ∨ argument = "-" ∨
    argument ≠ "--" ∧ (∀ o ∈ options, ¬MayMean o.1.toList argument.toList) ∧
      (isNegativeNumber argument.toList = true ∨ ' ' ∈ argument.toList)

theorem cutAtEquals_fst (text : List Char) :
    (cutAtEquals text).1 = text.takeWhile (· ≠ '=') := by
  unfold cutAtEquals
  split
  · rename_i h
    exact (List.takeWhile_eq_self_iff.2 (List.dropWhile_eq_nil_iff.1 h)).symm
  · rfl

theorem exists_mem_of_named? {options : List (String × Flag)} {name : List Char} {flag : Flag}
    (h : named? options name = some flag) : ∃ o ∈ options, o.1.toList = name := by
  obtain ⟨before, after, rfl, -⟩ := List.lookup_eq_some_iff.1 h
  exact ⟨(String.ofList name, flag), by simp, by simp⟩

theorem abbreviated_eq_nil_iff {options : List (String × Flag)} {rest : List Char} :
    abbreviated options ('-' :: rest) = [] ↔ ∀ o ∈ options, ¬MayMean o.1.toList ('-' :: rest) := by
  cases rest with
  | nil => simp [abbreviated, MayMean]
  | cons letter value =>
    by_cases hl : letter = '-'
    · subst hl
      simp only [abbreviated, cutAtEquals_fst, List.map_eq_nil_iff, List.filter_eq_nil_iff,
        List.isPrefixOf_iff_prefix, mayMean_long]
    · simp [abbreviated, hl, mayMean_short hl]

theorem plain_notMem_abbreviated {options : List (String × Flag)} {text : List Char}
    {other : String} : .plain other ∉ abbreviated options text := by
  unfold abbreviated
  split <;> simp

theorem whole?_ne_plain {options : List (String × Flag)} {text : List Char} {other : String} :
    whole? options text ≠ some (.plain other) := by
  unfold whole?
  split <;> simp

theorem whole?_eq_none {options : List (String × Flag)} {text : List Char}
    (hnames : ∀ o ∈ options, IsName o.1.toList) (h : ∀ o ∈ options, ¬MayMean o.1.toList text) :
    whole? options text = none := by
  have hnamed : ∀ name, name = text ∨ name = text.takeWhile (· ≠ '=') →
      named? options name = none := by
    intro name hname
    rw [Option.eq_none_iff_forall_not_mem]
    intro flag hflag
    obtain ⟨o, ho, rfl⟩ := exists_mem_of_named? hflag
    exact h o ho ((hnames o ho).mayMean hname)
  rw [whole?, hnamed text (.inl rfl)]
  simp only
  rw [cutAtEquals_fst, hnamed _ (.inr rfl)]
  rfl

/-- An argument of a dash and more, not of two dashes, is classified by whether it can mean an
option, and if not, by whether it looks like a text. -/
theorem classify_dash_eq_plain_iff {sub : Subcommand} {argument text : String} {rest : List Char}
    (htext : argument.toList = '-' :: rest) (hrest : rest ≠ []) (hsep : rest ≠ ['-']) :
    classify sub.options argument = some (.plain text) ↔ argument = text ∧
      (∀ o ∈ sub.options, ¬MayMean o.1.toList argument.toList) ∧
        (isNegativeNumber argument.toList = true ∨ ' ' ∈ argument.toList) := by
  unfold classify
  dsimp only
  rw [if_neg (by simp [htext, hrest]), if_neg (by simp [htext, hsep])]
  constructor
  · intro h
    split at h
    · rename_i hwhole
      exact absurd (hwhole.trans h) whole?_ne_plain
    · split at h
      · rename_i hone
        have hmem : .plain text ∈ abbreviated sub.options argument.toList := by
          rw [hone, Option.some.inj h]
          exact List.mem_singleton_self _
        exact absurd hmem plain_notMem_abbreviated
      · cases h
      · rename_i hnone
        have hmean : ∀ o ∈ sub.options, ¬MayMean o.1.toList argument.toList := by
          rw [htext] at hnone ⊢
          exact abbreviated_eq_nil_iff.1 hnone
        split at h
        · rename_i hlooks
          exact ⟨Argument.plain.inj (Option.some.inj h), hmean, hlooks⟩
        · cases h
  · rintro ⟨rfl, hmean, hlooks⟩
    have hnone : abbreviated sub.options argument.toList = [] := by
      rw [htext] at hmean ⊢
      exact abbreviated_eq_nil_iff.2 hmean
    simp only [whole?_eq_none isName_of_mem_options hmean, hnone, if_pos hlooks]

/-- **The arguments that are texts by their form** are those that are classified so. -/
theorem classify_eq_plain_iff {sub : Subcommand} {argument text : String} :
    classify sub.options argument = some (.plain text) ↔
      argument = text ∧ IsText sub.options argument := by
  have hone : argument = "-" ↔ argument.toList = ['-'] := by rw [← String.toList_inj]; rfl
  have htwo : argument = "--" ↔ argument.toList = ['-', '-'] := by rw [← String.toList_inj]; rfl
  unfold IsText
  simp only [ne_eq, hone, htwo]
  cases htext : argument.toList with
  | nil => simp [classify, htext]
  | cons c rest =>
    by_cases hc : c = '-'
    · subst hc
      by_cases hrest : rest = []
      · simp [classify, htext, hrest]
      · by_cases hsep : rest = ['-']
        · simp [classify, htext, hsep]
        · rw [classify_dash_eq_plain_iff htext hrest hsep, htext]
          simp [hrest, hsep]
    · simp [classify, htext, hc]

/-! ## Expressions -/

theorem isNegativeNumber_iff_of_legal {rest : List Char} (hlegal : ∀ c ∈ rest, IsLegal c) :
    isNegativeNumber ('-' :: rest) = true ↔ rest ≠ [] ∧ ∀ c ∈ rest, c.isDigit = true := by
  have hline : withoutLineEnd ('-' :: rest) = '-' :: rest := by
    refine if_neg fun h => ?_
    obtain h | h := List.mem_cons.1 (List.mem_of_getLast? h)
    · cases h
    · exact absurd (hlegal _ h) (by decide)
  have hdigit : ∀ c ∈ rest, (Text.isDecimalDigit c = true ↔ c.isDigit = true) := by
    refine fun c hc => ⟨fun h => ?_, Text.isDecimalDigit_of_isDigit⟩
    obtain rfl | hdigit | hsymbol := hlegal c hc
    · cases h
    · exact hdigit
    · simp only [List.mem_cons, List.not_mem_nil, or_false] at hsymbol
      rcases hsymbol with rfl | rfl | rfl | rfl | rfl | rfl | rfl <;> cases h
  have hpoint : '.' ∉ rest := fun h => absurd (hlegal _ h) (by decide)
  have hwhole : isNegativeNumber ('-' :: rest) = isDigits rest := by
    simp only [isNegativeNumber, hline]
    split
    · rename_i hdrop
      exact absurd ((List.dropWhile_sublist _).mem (hdrop ▸ List.mem_cons_self)) hpoint
    · rw [Bool.or_false]
  rw [hwhole, isDigits, Bool.and_eq_true, decide_eq_true_eq, List.all_eq_true]
  exact and_congr_right fun _ => forall₂_congr hdigit

theorem not_mayMean_of_legal {sub : Subcommand} {rest : List Char} (hlegal : ∀ c ∈ rest, IsLegal c)
    (hsep : rest ≠ ['-']) : ∀ o ∈ sub.options, ¬MayMean o.1.toList ('-' :: rest) := by
  intro o ho hmean
  obtain ⟨-, letter, hletter, hform⟩ := isName_of_mem_options o ho
  have hillegal : letter ∉ rest := fun h => not_isLegal_of_isAlpha hletter (hlegal _ h)
  obtain ⟨more, heq, hbegins⟩ | ⟨first, value, -, heq, hname⟩ := hmean
  · obtain rfl := (List.cons.inj heq).2
    have hcut : ('-' :: '-' :: more).takeWhile (· ≠ '=') = '-' :: '-' :: more := by
      refine List.takeWhile_eq_self_iff.2 fun c hc => decide_eq_true ?_
      rintro rfl
      obtain h | h := List.mem_cons.1 hc
      · cases h
      · exact absurd (hlegal _ h) (by decide)
    have hmore : more ≠ [] := fun h => hsep (by rw [h])
    obtain ⟨c, more, rfl⟩ := List.exists_cons_of_ne_nil hmore
    rw [hcut] at hbegins
    obtain hshort | ⟨_, hlong⟩ := hform
    · rw [hshort] at hbegins
      simp at hbegins
    · rw [hlong] at hbegins
      simp only [List.cons_prefix_cons] at hbegins
      exact hillegal (by simp [hbegins.2.2.1])
  · obtain rfl := (List.cons.inj heq).2
    rw [hname] at hform
    obtain hshort | ⟨_, hlong⟩ := hform
    · exact hillegal (by simp [(List.cons.inj (List.cons.inj hshort).2).1])
    · simp at hlong

/-- An expression with a minus in front is a text if it goes on with digits only, or has a space. -/
theorem isText_iff_of_legal {sub : Subcommand} {argument : String} {rest : List Char}
    (htext : argument.toList = '-' :: rest) (hlegal : ∀ c ∈ rest, IsLegal c) :
    IsText sub.options argument ↔ (∀ c ∈ rest, c.isDigit = true) ∨ ' ' ∈ rest := by
  have hone : argument = "-" ↔ rest = [] := by rw [← String.toList_inj, htext]; simp
  have htwo : argument = "--" ↔ rest = ['-'] := by rw [← String.toList_inj, htext]; simp
  simp only [IsText, htext, hone, ne_eq, htwo, isNegativeNumber_iff_of_legal hlegal]
  by_cases hrest : rest = []
  · simp [hrest]
  · by_cases hsep : rest = ['-']
    · simp [hsep]
    · rw [and_iff_right (not_mayMean_of_legal hlegal hsep)]
      simp [hrest, hsep]

/-! ## Giving a text -/

variable {name : String} {sub : Subcommand}

theorem readArguments_cons (hname : (name, sub) ∈ Subcommand.names) (rest : List String) :
    readArguments (name :: rest) =
      (classifyAll sub.options rest).bind fun forms =>
        (readAll sub.options .none forms).map (sub, ·) := by
  have hlookup : Subcommand.names.lookup name = some sub := by
    simp only [Subcommand.names, List.mem_cons, Prod.mk.injEq, List.not_mem_nil, or_false] at hname
    rcases hname with ⟨rfl, rfl⟩ | ⟨rfl, rfl⟩ | ⟨rfl, rfl⟩ | ⟨rfl, rfl⟩ <;> rfl
  simp only [readArguments, hlookup]
  cases classifyAll sub.options rest <;> rfl

/-- The names of the option that takes a text. -/
def textNames : List String := ["-t", "--text"]

theorem classify_textName (hsub : sub ≠ .loop) {option : String} (hoption : option ∈ textNames) :
    ∃ short, classify sub.options option = some (.option .text short none) := by
  simp only [textNames, List.mem_cons, List.not_mem_nil, or_false] at hoption
  rcases hoption with rfl | rfl
  · exact ⟨true, by cases sub <;> first | exact absurd rfl hsub | rfl⟩
  · exact ⟨false, by cases sub <;> first | exact absurd rfl hsub | rfl⟩

theorem readArguments_next (hname : (name, sub) ∈ Subcommand.names) (hsub : sub ≠ .loop)
    {option text : String} (hoption : option ∈ textNames) (htext : IsText sub.options text) :
    readArguments [name, option, text] = some (sub, Options.none.setText text) := by
  obtain ⟨short, hclass⟩ := classify_textName hsub hoption
  have hplain : classify sub.options text = some (.plain text) :=
    classify_eq_plain_iff.2 ⟨rfl, htext⟩
  rw [readArguments_cons hname]
  simp [classifyAll, hclass, hplain, readAll, readOption]

theorem readArguments_next_eq_none (hname : (name, sub) ∈ Subcommand.names) (hsub : sub ≠ .loop)
    {option argument : String} (hoption : option ∈ textNames)
    (hargument : ¬IsText sub.options argument) : readArguments [name, option, argument] = none := by
  obtain ⟨short, hclass⟩ := classify_textName hsub hoption
  rw [readArguments_cons hname]
  cases hform : classify sub.options argument with
  | none => simp [classifyAll, hclass, hform]
  | some form =>
    cases form with
    | plain text => exact absurd (classify_eq_plain_iff.1 hform).2 hargument
    | _ => simp [classifyAll, hclass, hform, readAll, readOption]

/-- What a text attached to the name of the option comes to: two dashes alone are none. -/
theorem classify_attached (hsub : sub ≠ .loop) (text : String) :
    classify sub.options ("--text=" ++ text) = some (.option .text false (some text.toList)) := by
  have htext : ("--text=" ++ text).toList = "--text".toList ++ '=' :: text.toList := by simp
  have hcut : cutAtEquals ("--text=" ++ text).toList = ("--text".toList, some text.toList) := by
    simp [cutAtEquals]
  have hnamed : named? sub.options ("--text=" ++ text).toList = none := by
    rw [Option.eq_none_iff_forall_not_mem]
    intro flag hflag
    obtain ⟨o, ho, heq⟩ := exists_mem_of_named? hflag
    refine (isName_of_mem_options o ho).1 ?_
    rw [heq, htext]
    simp
  have htarget : named? sub.options "--text".toList = some .text := by
    cases sub <;> first | exact absurd rfl hsub | rfl
  have hwhole : whole? sub.options ("--text=" ++ text).toList =
      some (.option .text false (some text.toList)) := by
    rw [whole?, hnamed]
    simp only [hcut, htarget]
    rfl
  unfold classify
  dsimp only
  rw [hwhole, if_neg (by simp), if_neg (by simp)]

theorem attachText_toList (o : Options) (text : String) : o.attachText text.toList =
    if text = "--" then { o with text := none } else o.setText text := by
  have htwo : text.toList = ['-', '-'] ↔ text = "--" := by rw [← String.toList_inj]; rfl
  by_cases h : text = "--" <;> simp [Options.attachText, Options.setText, htwo, h]

theorem readAll_complete {options : List (String × Flag)} {o next : Options} {flag : Flag}
    {short : Bool} {attached : Option (List Char)}
    (h : readOption options o flag short attached = some (.complete next)) (rest : List Argument) :
    readAll options o (.option flag short attached :: rest) = readAll options next rest := by
  rw [readAll]
  exact h

theorem readArguments_attached (hname : (name, sub) ∈ Subcommand.names) (hsub : sub ≠ .loop)
    (text : String) : readArguments [name, "--text=" ++ text] =
      some (sub, if text = "--" then Options.none else Options.none.setText text) := by
  have hread : readOption sub.options .none .text false (some text.toList) =
      some (.complete (Options.none.attachText text.toList)) := by rw [readOption]
  rw [readArguments_cons hname, classifyAll, classify_attached hsub]
  simp only [classifyAll, Option.map_some, Option.bind_some]
  rw [readAll_complete hread, readAll, attachText_toList]
  rfl

/-- **A text may stand in the next argument or be attached, and both come to the same, if and only
if it is a text by its form;** otherwise the next argument is no text, and the command line is
wrong. -/
theorem spellings_agree_iff (hname : (name, sub) ∈ Subcommand.names) (hsub : sub ≠ .loop)
    (text : String) (environment : List (String × String)) (input : String) (set : Text.Charset) :
    let runWith (options : List String) := run ⟨name :: options, environment, input, set⟩
    runWith ["-t", text] = runWith ["--text", text] ∧
    (runWith ["-t", text] = runWith ["--text=" ++ text] ↔ IsText sub.options text) ∧
    (IsText sub.options text → ∀ option ∈ textNames,
      readArguments [name, option, text] = some (sub, Options.none.setText text)) ∧
    (¬IsText sub.options text → runWith ["-t", text] = .error .arguments) ∧
    runWith ["--text=" ++ text] ≠ .error .arguments ∧
    ∀ rest, text.toList = '-' :: rest → (∀ c ∈ rest, IsLegal c) →
      (IsText sub.options text ↔ (∀ c ∈ rest, c.isDigit = true) ∨ ' ' ∈ rest) := by
  intro runWith
  have hattached : runWith ["--text=" ++ text] ≠ .error .arguments := by
    rw [Ne, run_eq_error_arguments_iff, readArguments_attached hname hsub]
    exact nofun
  have hnext : ∀ option ∈ textNames, IsText sub.options text →
      runWith [option, text] = runWith ["--text=" ++ text] := by
    intro option hoption htext
    have hsep : text ≠ "--" := by
      rintro rfl
      simp [IsText] at htext
    refine run_congr ?_ environment input set
    rw [readArguments_next hname hsub hoption htext, readArguments_attached hname hsub, if_neg hsep]
  have hrefused : ∀ option ∈ textNames, ¬IsText sub.options text →
      runWith [option, text] = .error .arguments := fun option hoption htext =>
    run_eq_error_arguments_iff.2 (readArguments_next_eq_none hname hsub hoption htext)
  have hshort : "-t" ∈ textNames := by decide
  have hlong : "--text" ∈ textNames := by decide
  refine ⟨?_, ⟨fun h => ?_, hnext _ hshort⟩, fun htext option hoption =>
    readArguments_next hname hsub hoption htext, hrefused _ hshort, hattached, fun rest htext hlegal =>
    isText_iff_of_legal htext hlegal⟩
  · by_cases htext : IsText sub.options text
    · rw [hnext _ hshort htext, hnext _ hlong htext]
    · rw [hrefused _ hshort htext, hrefused _ hlong htext]
  · by_contra htext
    exact hattached (h ▸ hrefused _ hshort htext)

/-- A quotient with a minus in front is a text with spaces in it, and none without. -/
theorem spellings_agree_iff_division :
    ("eval", .value) ∈ Subcommand.names ∧ Subcommand.value ≠ .loop ∧
    (let runWith (options : List String) := run ⟨"eval" :: options, [], "", .unicode⟩
    runWith ["-t", "-10 / 0"] = runWith ["--text=-10 / 0"] ∧
      runWith ["-t", "-10/0"] = .error .arguments ∧
      runWith ["-t", "-10/0"] = runWith ["--text", "-10/0"] ∧
      runWith ["-t", "-10/0"] ≠ runWith ["--text=-10/0"]) := by
  have hname : ("eval", Subcommand.value) ∈ Subcommand.names := by decide
  have hsub : Subcommand.value ≠ .loop := by decide
  obtain ⟨-, hspaced, -, -, -, hlegal⟩ :=
    spellings_agree_iff hname hsub "-10 / 0" [] "" .unicode
  obtain ⟨hshort, hiff, -, hrefused, -, hlegal'⟩ :=
    spellings_agree_iff hname hsub "-10/0" [] "" .unicode
  have hspaces : ∀ c ∈ ['1', '0', ' ', '/', ' ', '0'], IsLegal c := by simp [IsLegal]
  have htext : IsText Subcommand.value.options "-10 / 0" :=
    (hlegal _ rfl hspaces).2 (.inr (by decide))
  have hnone : ¬IsText Subcommand.value.options "-10/0" := fun h => by
    have hdigits := (hlegal' ['1', '0', '/', '0'] rfl (by simp [IsLegal])).1 h
    simp at hdigits
  exact ⟨hname, hsub, hspaced.2 htext, hrefused hnone, hshort, fun h => hnone (hiff.1 h)⟩

/-- An expression is evaluated if it is attached, and refused if it stands in the next argument. -/
theorem next_refused_attached_evaluated :
    run ⟨["eval", "-t", "-10/0"], [], "", .unicode⟩ = .error .arguments ∧
      run ⟨["eval", "--text=-10/0"], [], "", .unicode⟩ = .ok ⟨0, "-inf\n", ""⟩ := by
  refine ⟨run_eq_error_arguments_iff.2 (by decide +kernel), ?_⟩
  have hread : readArguments ["eval", "--text=-10/0"] =
      some (.value, ⟨some "-10/0", false, false, false⟩) := by decide +kernel
  let e : Expr := .binary (.unary .minus (.number 10)) (.multiplicative .divide) (.number 0)
  have hparse : parse false "-10/0".toList = .ok e := by cbv
  have hvalue : interpret false "-10/0".toList = .ok e.evaluate :=
    interpret_of_parse hparse
  have hshown : e.evaluate.value.display = "-inf" := by
    rw [Expr.evaluate_eq]
    decide +kernel
  have hrun : run ⟨["eval", "--text=-10/0"], [], "", .unicode⟩ =
      emit .unicode ⟨0, e.evaluate.value.display ++ "\n",
        withLineEnds (LogLevel.warning.lines (trace false "-10/0".toList).log)⟩ :=
    run_value_of_ok hread configure_nil (textToAnswer_some (by decide) "") (by decide) rfl rfl hvalue
  rw [hrun, hshown, emit_unicode]
  rfl

end Command

end Calculator
