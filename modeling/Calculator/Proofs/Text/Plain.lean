/-
Texts of nothing but plain characters. A character is graphic if it is a printable one of
ASCII, which every output carries, and plain if it has no part in markup either, so that a
table shows it as it is.

`Consists P` says that all characters of a text have a property; what a text is
put together from tells whether it does.
-/
import Calculator.Proofs.Numeral
import Calculator.Text.Charset

namespace Calculator.Text

/-- A printable character of ASCII. -/
def IsGraphic (c : Char) : Prop := 0x20 ≤ c.toNat ∧ c.toNat < 0x7f

instance : DecidablePred IsGraphic := fun _ => inferInstanceAs (Decidable (_ ∧ _))

/-- A printable character of ASCII that has no part in markup. -/
def IsPlain (c : Char) : Prop := IsGraphic c ∧ c ≠ '[' ∧ c ≠ ':'

instance : DecidablePred IsPlain := fun _ => inferInstanceAs (Decidable (_ ∧ _))

theorem IsGraphic.holds {c : Char} (h : IsGraphic c) (set : Charset) : set.holds c = true := by
  obtain ⟨-, h⟩ := h
  cases set
  · exact decide_eq_true (by omega)
  · exact decide_eq_true (by omega)
  · rfl

theorem IsGraphic.eq_space {c : Char} (h : IsGraphic c) (hblank : isBlank c = true) : c = ' ' := by
  obtain ⟨hleast, hmost⟩ := h
  simp only [isBlank, Bool.or_eq_true, Bool.and_eq_true, decide_eq_true_eq, beq_iff_eq] at hblank
  have hcode : c.toNat = ' '.toNat := by
    have : ' '.toNat = 0x20 := rfl
    omega
  exact Char.toNat_inj.1 hcode

theorem isPlain_of_isDigit {c : Char} (h : c.isDigit = true) : IsPlain c := by
  have hbounds : 48 ≤ c.toNat ∧ c.toNat ≤ 57 := Char.isDigit_iff_toNat.1 h
  refine ⟨⟨by omega, by omega⟩, ?_, ?_⟩
  · rintro rfl
    cases h
  · rintro rfl
    cases h

/-! ## Texts -/

/-- All characters of the text have the property. -/
def Consists (P : Char → Prop) (text : String) : Prop := ∀ c ∈ text.toList, P c

instance {P : Char → Prop} [DecidablePred P] (text : String) : Decidable (Consists P text) :=
  List.decidableBAll P text.toList

theorem mem_toList_append {s t : String} {c : Char} :
    c ∈ (s ++ t).toList ↔ c ∈ s.toList ∨ c ∈ t.toList := by
  rw [String.toList_append, List.mem_append]

namespace Consists

variable {P Q : Char → Prop} {s t : String}

theorem mono (h : Consists P s) (hPQ : ∀ c, P c → Q c) : Consists Q s :=
  fun c hc => hPQ c (h c hc)

theorem append_iff : Consists P (s ++ t) ↔ Consists P s ∧ Consists P t := by
  simp only [Consists, mem_toList_append, or_imp, forall_and]

theorem append (hs : Consists P s) (ht : Consists P t) : Consists P (s ++ t) := append_iff.2 ⟨hs, ht⟩

theorem join_iff {texts : List String} : Consists P (String.join texts) ↔
    ∀ text ∈ texts, Consists P text := by
  induction texts with
  | nil => simp [Consists]
  | cons text texts ih => rw [String.join_cons, append_iff, ih, List.forall_mem_cons]

theorem ofList {chars : List Char} (h : ∀ c ∈ chars, P c) : Consists P (String.ofList chars) := by
  rwa [Consists, String.toList_ofList]

theorem singleton {c : Char} (h : P c) : Consists P c.toString := by
  rw [Consists, Char.toString, String.toList_singleton]
  simpa using h

theorem graphic (h : Consists IsPlain s) : Consists IsGraphic s := h.mono fun _ => And.left

end Consists

/-- The set has every character of the text. -/
abbrev Carried (set : Charset) (text : String) : Prop := Consists (set.holds · = true) text

theorem carries_iff {set : Charset} {text : String} :
    set.carries text.toList = true ↔ Carried set text :=
  List.all_eq_true

theorem Consists.carried {text : String} (h : Consists IsGraphic text) (set : Charset) :
    Carried set text :=
  h.mono fun _ hc => hc.holds set

theorem carried_append {set : Charset} {s t : String} :
    Carried set (s ++ t) ↔ Carried set s ∧ Carried set t :=
  Consists.append_iff

theorem carried_join {set : Charset} {texts : List String} :
    Carried set (String.join texts) ↔ ∀ text ∈ texts, Carried set text :=
  Consists.join_iff

theorem carried_lineFeed (set : Charset) : Carried set "\n" := by cases set <;> decide

theorem consists_repr (n : Nat) : Consists IsPlain n.repr := by
  rw [Consists, Nat.toList_repr]
  exact fun c hc => isPlain_of_isDigit (Numeral.isDigit_of_mem_toDigits c hc)

end Calculator.Text
