/-
Written JSON is read back: the text of a value, on one line or indented, is read
as that value (`read_write`), if the limits admit it (`Fits`). The induction is
on the value, with a lemma for each form.
-/
import Calculator.Proofs.Json.Container

namespace Calculator.Json

variable {limits : Limits} {indent : Option Nat} {depth : Nat}

/-! ## Containers -/

theorem isLayout_lineBreak (indent : Option Nat) (depth : Nat) :
    IsLayout (lineBreak indent depth).toList := by
  intro c hc
  cases indent with
  | none => simp [lineBreak] at hc
  | some width =>
    simp only [lineBreak, String.toList_append, String.toList_ofList, List.mem_append,
      List.mem_replicate] at hc
    obtain hc | ⟨-, rfl⟩ := hc
    · obtain rfl : c = '\n' := by simpa using hc
      rfl
    · rfl

theorem toList_enclose {opening closing : String} {entries : List String} (h : entries ≠ []) :
    (enclose indent depth opening closing entries).toList =
      opening.toList ++ ((lineBreak indent depth).toList ++
        ((',' :: (lineBreak indent depth).toList).intercalate (entries.map String.toList) ++
          ((lineBreak indent (depth - 1)).toList ++ closing.toList))) := by
  simp [enclose, h]

theorem toList_enclose_nil (opening closing : String) :
    (enclose indent depth opening closing []).toList = opening.toList ++ closing.toList := by
  simp [enclose]

theorem writeItems_eq (indent : Option Nat) (depth : Nat) (items : List Json) :
    writeItems indent depth items = items.map (writeAt indent depth) := by
  induction items with
  | nil => rfl
  | cons item items ih => rw [writeItems, ih, List.map_cons]

/-- **An array is read back,** where its items are. -/
theorem isReadAs_array {items : List Json} (admitted : limits.admits depth = true)
    (hitems : ∀ item ∈ items,
      IsReadAs limits (depth + 1) (writeAt indent (depth + 1) item).toList item) :
    IsReadAs limits depth (writeAt indent depth (.array items)).toList (.array items) := by
  intro tail _
  rw [writeAt, writeItems_eq]
  by_cases hne : items = []
  · subst hne
    rw [List.map_nil, toList_enclose_nil]
    exact takes_array_nil admitted tail
  · have := takes_array_cons hne admitted (isLayout_lineBreak indent (depth + 1))
      (isLayout_lineBreak indent depth) hitems tail
    rw [toList_enclose (by simpa using hne), List.map_map, Nat.add_sub_cancel]
    simpa [Function.comp_def] using this

/-- The text of a member. -/
def writeMember (indent : Option Nat) (depth : Nat) (member : String × Json) : String :=
  quoted member.1 ++ nameMark indent ++ writeAt indent depth member.2

theorem writeMembers_eq (indent : Option Nat) (depth : Nat) (members : List (String × Json)) :
    writeMembers indent depth members = members.map (writeMember indent depth) := by
  induction members with
  | nil => rfl
  | cons member members ih => rw [writeMembers, ih, List.map_cons, writeMember]

/-- **A member is read back,** where its value is. -/
theorem isMemberReadAs_writeMember {member : String × Json}
    (hvalue : IsReadAs limits depth (writeAt indent depth member.2).toList member.2) :
    IsMemberReadAs limits depth (writeMember indent depth member).toList member := by
  obtain ⟨name, value⟩ := member
  obtain ⟨gap, hgap, hmark⟩ : ∃ gap, IsLayout gap ∧ (nameMark indent).toList = ':' :: gap := by
    cases indent with
    | none => exact ⟨[], nofun, rfl⟩
    | some width => exact ⟨[' '], by simp [IsLayout, isSpace], by simp [nameMark]⟩
  have := isMemberReadAs hvalue hgap name
  simpa [writeMember, hmark] using this

/-- **An object is read back,** where the values of its members are. -/
theorem isReadAs_object {members : List (String × Json)} (admitted : limits.admits depth = true)
    (hmembers : ∀ member ∈ members,
      IsReadAs limits (depth + 1) (writeAt indent (depth + 1) member.2).toList member.2) :
    IsReadAs limits depth (writeAt indent depth (.object members)).toList (.object members) := by
  intro tail _
  rw [writeAt, writeMembers_eq]
  by_cases hne : members = []
  · subst hne
    rw [List.map_nil, toList_enclose_nil]
    exact takes_object_nil admitted tail
  · have := takes_object_cons hne admitted (isLayout_lineBreak indent (depth + 1))
      (isLayout_lineBreak indent depth)
      (fun member hmember => isMemberReadAs_writeMember (hmembers member hmember)) tail
    rw [toList_enclose (by simpa using hne), List.map_map, Nat.add_sub_cancel]
    simpa [Function.comp_def] using this

/-! ## All values -/

/-- The limits admit the value inside `depth` containers: its integers are short enough, its
containers are not too deep, and it has no reals. -/
inductive Fits (limits : Limits) : Nat → Json → Prop where
  | null {depth : Nat} : Fits limits depth .null
  | bool {depth : Nat} (value : Bool) : Fits limits depth (.bool value)
  | integer {depth : Nat} {value : Int}
      (short : limits.digits.all (value.natAbs.repr.length ≤ ·) = true) :
      Fits limits depth (.integer value)
  | string {depth : Nat} (text : String) : Fits limits depth (.string text)
  | array {depth : Nat} {items : List Json} (admitted : limits.admits depth = true)
      (fit : ∀ item ∈ items, Fits limits (depth + 1) item) : Fits limits depth (.array items)
  | object {depth : Nat} {members : List (String × Json)} (admitted : limits.admits depth = true)
      (fit : ∀ member ∈ members, Fits limits (depth + 1) member.2) :
      Fits limits depth (.object members)

theorem areFinite_eq_true_iff {items : List Json} :
    areFinite items = true ↔ ∀ item ∈ items, item.isFinite = true := by
  induction items with
  | nil => simp [areFinite]
  | cons item items ih => simp [areFinite, ih]

theorem haveFinite_eq_true_iff {members : List (String × Json)} :
    haveFinite members = true ↔ ∀ member ∈ members, member.2.isFinite = true := by
  induction members with
  | nil => simp [haveFinite]
  | cons member members ih => simp [haveFinite, ih]

theorem Fits.isFinite {value : Json} (h : Fits limits depth value) : value.isFinite = true := by
  induction h with
  | array _ _ ih => rwa [Json.isFinite, areFinite_eq_true_iff]
  | object _ _ ih => rwa [Json.isFinite, haveFinite_eq_true_iff]
  | _ => rfl

/-- **A value that fits is read back from its text.** -/
theorem Fits.isReadAs {value : Json} (h : Fits limits depth value) (indent : Option Nat) :
    IsReadAs limits depth (writeAt indent depth value).toList value := by
  induction h with
  | null => exact fun tail _ => takes_word (w := ("null".toList, .null)) (by simp [words]) tail
  | bool value =>
    intro tail _
    cases value with
    | false => exact takes_word (w := ("false".toList, .bool false)) (by simp [words]) tail
    | true => exact takes_word (w := ("true".toList, .bool true)) (by simp [words]) tail
  | integer short => exact fun _ htail => takes_decimal short htail
  | string text => exact fun tail _ => takes_string text tail
  | array admitted _ ih => exact isReadAs_array admitted ih
  | object admitted _ ih => exact isReadAs_object admitted ih

theorem read_of_takes {text : List Char} {value : Json} (htext : Stops isSpace text)
    (h : Takes limits 0 text value []) : read limits text = .ok value := by
  rw [← skip_of_stops htext] at h
  obtain ⟨h', htakes⟩ := h
  rw [read, htakes]
  rfl

/-- **A written value is read back,** whatever the layout, if the limits admit it. -/
theorem read_write {value : Json} (h : Fits limits 0 value) (indent : Option Nat) :
    read limits (write indent value).toList = .ok value := by
  have hread := h.isReadAs indent
  have htakes := hread [] nofun
  have hbegins := hread.begins []
  rw [List.append_nil] at htakes hbegins
  exact read_of_takes (stops_isSpace hbegins) htakes

end Calculator.Json
