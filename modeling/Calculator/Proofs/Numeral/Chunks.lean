/-
Reading long runs of digits chunk by chunk is exact (`read_exact`).

The chunks of a run are its slices by the places where they start (`chunks`); the
last may be short. A loop over the chunks ends with the first conversion that is
refused (`readChunks?`), and `readAfter` does call by call what the loop does
(`foldlM_extend?_chunks`). Between two chunks the number is the value of the
digits before that place (`readChunks?_take`). This is shown for pieces of any
lengths that the conversion takes, so that the short chunk is no case of its own.
-/
import Calculator.Proofs.Numeral
import Mathlib.Algebra.BigOperators.Fin

namespace Calculator.Numeral

/-! ## The value of a run by its places -/

/-- Every digit counts by its place: a digit with `k` digits after it is worth `10 ^ k` times as
much as alone. -/
def placeValue (run : List Char) : Nat :=
  ∑ i : Fin run.length, digit run[i] * 10 ^ (run.length - 1 - i)

theorem placeValue_cons (c : Char) (run : List Char) :
    placeValue (c :: run) = digit c * 10 ^ run.length + placeValue run := by
  have hplace (i : Fin run.length) : run.length - (i + 1) = run.length - 1 - i := by omega
  simp only [placeValue, List.length_cons, Fin.sum_univ_succ, Fin.getElem_fin, Fin.val_zero,
    List.getElem_cons_zero, Nat.add_sub_cancel, Nat.sub_zero, Fin.val_succ,
    List.getElem_cons_succ, hplace]

theorem value_eq_placeValue (run : List Char) : value run = placeValue run := by
  induction run with
  | nil => rfl
  | cons c run ih =>
    have hone : value [c] = digit c := by simp [value]
    rw [← List.singleton_append, value_append, hone, ih, List.singleton_append, placeValue_cons]
    rfl

/-! ## Chunks -/

/-- The chunks of a run, by the places where they start. -/
def chunks (run : List Char) : List (List Char) :=
  (List.range ((run.length + chunk - 1) / chunk)).map fun k => (run.drop (k * chunk)).take chunk

theorem chunks_of_ne_nil {run : List Char} (h : run ≠ []) :
    chunks run = run.take chunk :: chunks (run.drop chunk) := by
  have hlen := List.length_pos_iff.2 h
  have hcount : (run.length + chunk - 1) / chunk =
      ((run.drop chunk).length + chunk - 1) / chunk + 1 := by
    simp only [List.length_drop, chunk]; omega
  have hslice (k : Nat) : (run.drop ((k + 1) * chunk)).take chunk =
      ((run.drop chunk).drop (k * chunk)).take chunk := by
    rw [List.drop_drop, Nat.succ_mul, Nat.add_comm]
  rw [chunks, hcount, List.range_succ_eq_map, List.map_cons, List.map_map, Nat.zero_mul,
    List.drop_zero]
  exact congrArg _ (List.map_congr_left fun k _ => hslice k)

theorem exists_of_mem_chunks {run piece : List Char} (h : piece ∈ chunks run) :
    ∃ start < run.length, piece = (run.drop start).take chunk := by
  obtain ⟨k, hk, rfl⟩ := List.mem_map.1 h
  refine ⟨k * chunk, ?_, rfl⟩
  rw [List.mem_range] at hk
  simp only [chunk] at hk ⊢
  omega

theorem ofDigits?_of_mem_chunks {run piece : List Char} (h : piece ∈ chunks run) :
    ofDigits? piece = some (value piece) := by
  obtain ⟨start, hstart, rfl⟩ := exists_of_mem_chunks h
  exact ofDigits?_chunk fun hnil => Nat.not_le.2 hstart (List.drop_eq_nil_iff.1 hnil)

theorem flatten_slices (run : List Char) (k : Nat) :
    ((List.range k).map fun i => (run.drop (i * chunk)).take chunk).flatten =
      run.take (k * chunk) := by
  induction k with
  | zero => simp
  | succ k ih =>
    rw [List.range_succ, List.map_append, List.flatten_append, ih, Nat.succ_mul, List.take_add]
    simp

theorem flatten_take_chunks (run : List Char) (k : Nat) :
    ((chunks run).take k).flatten = run.take (k * chunk) := by
  rw [chunks, ← List.map_take, List.take_range, flatten_slices]
  obtain hk | hk := Nat.le_total k ((run.length + chunk - 1) / chunk)
  · rw [Nat.min_eq_left hk]
  · -- the chunks end with the run
    have hend : run.length ≤ (run.length + chunk - 1) / chunk * chunk := by
      simp only [chunk]; omega
    have hbehind : run.length ≤ k * chunk := Nat.le_trans hend (Nat.mul_le_mul_right _ hk)
    rw [Nat.min_eq_right hk, List.take_of_length_le hend, List.take_of_length_le hbehind]

/-! ## Chunk after chunk -/

/-- The number that `high` becomes when the digits of `piece` are written after it, unless their
conversion is refused. -/
def extend? (high : Nat) (piece : List Char) : Option Nat :=
  (ofDigits? piece).map fun n => high * Nat.pow 10 piece.length + n

/-- Reads pieces one after the other, up to the first that the conversion refuses. -/
def readChunks? (pieces : List (List Char)) : Option Nat := pieces.foldlM extend? 0

/-- The value of the digits so far becomes the value of these and the digits of the piece. -/
theorem extend?_value {piece : List Char} (h : ofDigits? piece = some (value piece))
    (front : List Char) : extend? (value front) piece = some (value (front ++ piece)) := by
  rw [extend?, h, Option.map_some, value_append]

theorem foldlM_extend?_value {pieces : List (List Char)}
    (h : ∀ piece ∈ pieces, ofDigits? piece = some (value piece)) (front : List Char) :
    pieces.foldlM extend? (value front) = some (value (front ++ pieces.flatten)) := by
  induction pieces generalizing front with
  | nil => rw [List.flatten_nil, List.append_nil]; rfl
  | cons piece pieces ih =>
    obtain ⟨hpiece, hpieces⟩ := List.forall_mem_cons.1 h
    rw [List.foldlM_cons, extend?_value hpiece, List.flatten_cons, ← List.append_assoc]
    exact ih hpieces (front ++ piece)

/-- A run that is cut into pieces which the conversion takes is read as a whole. -/
theorem readChunks?_eq {pieces : List (List Char)}
    (h : ∀ piece ∈ pieces, ofDigits? piece = some (value piece)) :
    readChunks? pieces = some (value pieces.flatten) :=
  foldlM_extend?_value h []

/-- After `k` chunks the number is the value of the digits before the place of the next. -/
theorem readChunks?_take (run : List Char) (k : Nat) :
    readChunks? ((chunks run).take k) = some (value (run.take (k * chunk))) := by
  rw [readChunks?_eq fun _ h => ofDigits?_of_mem_chunks (List.mem_of_mem_take h),
    flatten_take_chunks]

/-- `readAfter` converts the same chunks, one in each call, and has the same number after each. -/
theorem foldlM_extend?_chunks (high : Nat) (run : List Char) :
    (chunks run).foldlM extend? high = some (readAfter high run) := by
  fun_induction readAfter high run with
  | case1 high => rfl
  | case2 high run h first ih =>
    have hfirst : extend? high first =
        some (high * Nat.pow 10 first.length + (ofDigits? first).getD 0) := by
      rw [extend?, ofDigits?_chunk h]
      rfl
    rw [chunks_of_ne_nil h, List.foldlM_cons, hfirst]
    exact ih

/-- **A run of digits is read exactly, whatever its length.** The number is the value of the digits
by their places, and also what they come to digit after digit. Zeros in front change nothing,
although they move the cuts between the chunks. Read chunk after chunk no conversion is refused:
after `k` chunks the number is the value of the digits so far, and every chunk that is converted
has between one and a thousand digits. -/
theorem read_exact (run : List Char) (hdigits : ∀ c ∈ run, c.isDigit = true) :
    read run = placeValue run ∧
    read run = run.foldl (fun n c => n * 10 + digit c) 0 ∧
    (∀ zeros, read (List.replicate zeros '0' ++ run) = read run) ∧
    readChunks? (chunks run) = some (read run) ∧
    (∀ k, readChunks? ((chunks run).take k) = some (placeValue (run.take (k * chunk)))) ∧
    ∀ piece ∈ chunks run, 1 ≤ piece.length ∧ piece.length ≤ 1000 ∧
      (∀ c ∈ piece, c.isDigit = true) ∧ ofDigits? piece = some (placeValue piece) := by
  have hloop : readChunks? (chunks run) = some (read run) := foldlM_extend?_chunks 0 run
  refine ⟨?_, ?_, fun zeros => ?_, hloop, fun k => ?_, fun piece hpiece => ?_⟩
  · rw [read_eq_value, value_eq_placeValue]
  · rw [read_eq_value, value]
    simp only [Nat.mul_comm]
  · rw [read_eq_value, read_eq_value, value_zeros fun c hc => List.eq_of_mem_replicate hc]
  · rw [readChunks?_take, value_eq_placeValue]
  · have hconverts := ofDigits?_of_mem_chunks hpiece
    obtain ⟨start, hstart, rfl⟩ := exists_of_mem_chunks hpiece
    refine ⟨?_, List.length_take_le .., fun c hc => ?_, ?_⟩
    · rw [List.length_take, List.length_drop]
      simp only [chunk]
      omega
    · exact hdigits c (List.mem_of_mem_drop (List.mem_of_mem_take hc))
    · rw [hconverts, value_eq_placeValue]

/-- The cut may fall between two digits behind many zeros: the first chunk ends with the four, and
the two is a chunk of its own. -/
theorem read_exact_cut :
    (∀ c ∈ List.replicate 999 '0' ++ ['4', '2'], c.isDigit = true) ∧
    read (List.replicate 999 '0' ++ ['4', '2']) = 42 ∧
    readChunks? (chunks (List.replicate 999 '0' ++ ['4', '2'])) = some 42 ∧
    (chunks (List.replicate 999 '0' ++ ['4', '2'])).map List.length = [1000, 1] := by
  have hdigits (zeros : Nat) :
      ∀ c ∈ List.replicate zeros '0' ++ ['4', '2'], c.isDigit = true := by
    intro c hc
    obtain hzero | hrest := List.mem_append.1 hc
    · rw [List.eq_of_mem_replicate hzero]; rfl
    · exact List.all_eq_true.1 (rfl : ['4', '2'].all Char.isDigit = true) c hrest
  have hread (zeros : Nat) : read (List.replicate zeros '0' ++ ['4', '2']) = 42 := by
    obtain ⟨-, hfold, hzeros, -⟩ := read_exact ['4', '2'] (hdigits 0)
    exact (hzeros zeros).trans hfold
  have hchunks (zeros : Nat) :
      readChunks? (chunks (List.replicate zeros '0' ++ ['4', '2'])) = some 42 := by
    obtain ⟨-, -, -, hchunks, -⟩ := read_exact _ (hdigits zeros)
    rw [hchunks, hread]
  exact ⟨hdigits 999, hread 999, hchunks 999, by decide +kernel⟩

end Calculator.Numeral
