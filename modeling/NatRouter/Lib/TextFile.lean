import Mathlib.Data.List.TakeWhile

/-!
# Text files

A file as the list of its bytes, and the reading of a line with `fgets`: all up to the end of the
line, with the newline, but no more than fits into the buffer.  `lines` is what a loop around `fgets`
reads, and `words` what `sscanf` reads from a line with one `%s` after the other.
-/

namespace TextFile

/-- `'\n'`. -/
def newline : UInt8 := 10

/-- The first line of a file, as far as it has at most `n` bytes, and what is left of the file. -/
def takeLine : ℕ → List UInt8 → List UInt8 × List UInt8
  | 0, file => ([], file)
  | _, [] => ([], [])
  | n + 1, c :: file =>
    if c = newline then ([c], file)
    else
      let r := takeLine n file
      (c :: r.1, r.2)

/-- `fgets` with a buffer of `size` bytes: what it has read, in front of the zero byte that it puts
behind it, and what is left of the file; or nothing at the end of the file. -/
def fgets (size : ℕ) (file : List UInt8) : Option (List UInt8 × List UInt8) :=
  match file with
  | [] => none
  | file => some (takeLine (size - 1) file)

/-- A line without an end that does not fit is cut. -/
lemma takeLine_of_notMem {n : ℕ} {file : List UInt8} (h : newline ∉ file.take n) :
    takeLine n file = (file.take n, file.drop n) := by
  induction n generalizing file with
  | zero => rfl
  | succ n ih =>
    cases file with
    | nil => rfl
    | cons c file =>
      rw [List.take_succ_cons, List.mem_cons, not_or] at h
      rw [takeLine, if_neg fun hc => h.1 hc.symm, ih h.2]
      rfl

/-- A line that fits is read up to its end. -/
lemma takeLine_line {n : ℕ} {line file : List UInt8} (hline : newline ∉ line) (hn : line.length < n) :
    takeLine n (line ++ newline :: file) = (line ++ [newline], file) := by
  induction line generalizing n with
  | nil =>
    obtain ⟨m, rfl⟩ := Nat.exists_eq_succ_of_ne_zero (Nat.ne_zero_of_lt hn)
    rw [List.nil_append, takeLine, if_pos rfl, List.nil_append]
  | cons c line ih =>
    obtain ⟨m, rfl⟩ := Nat.exists_eq_succ_of_ne_zero (Nat.ne_zero_of_lt hn)
    rw [List.mem_cons, not_or] at hline
    rw [List.cons_append, takeLine, if_neg fun hc => hline.1 hc.symm,
      ih hline.2 (Nat.lt_of_succ_lt_succ hn), List.cons_append]

/-- What is left of a file is not longer than the file. -/
lemma length_takeLine_snd_le (n : ℕ) (file : List UInt8) :
    (takeLine n file).2.length ≤ file.length := by
  induction n generalizing file with
  | zero => exact Nat.le_refl _
  | succ n ih =>
    cases file with
    | nil => exact Nat.le_refl _
    | cons c file =>
      rw [takeLine]
      split_ifs
      · exact Nat.le_succ _
      · exact Nat.le_succ_of_le (ih file)

/-- It is shorter if anything is read. -/
lemma length_takeLine_snd_lt (n : ℕ) (c : UInt8) (file : List UInt8) :
    (takeLine (n + 1) (c :: file)).2.length < (c :: file).length := by
  rw [takeLine]
  split_ifs
  · exact Nat.lt_succ_self _
  · exact Nat.lt_succ_of_le (length_takeLine_snd_le n file)

/-- The lines that a loop around `fgets` reads, with a buffer of `size + 2` bytes. -/
def lines (size : ℕ) (file : List UInt8) : List (List UInt8) :=
  match file with
  | [] => []
  | c :: file =>
    (takeLine (size + 1) (c :: file)).1 :: lines size (takeLine (size + 1) (c :: file)).2
termination_by file.length
decreasing_by exact length_takeLine_snd_lt size c file

/-- An empty file has no lines. -/
lemma lines_nil (size : ℕ) : lines size [] = [] := by
  rw [lines]

/-- A file that is not empty is read line by line. -/
lemma lines_of_ne_nil {size : ℕ} {file : List UInt8} (h : file ≠ []) :
    lines size file = (takeLine (size + 1) file).1 :: lines size (takeLine (size + 1) file).2 := by
  obtain ⟨c, rest, rfl⟩ := List.exists_cons_of_ne_nil h
  rw [lines]

/-- A line that fits is the first to be read. -/
lemma lines_line {size : ℕ} {line file : List UInt8} (hline : newline ∉ line)
    (hsize : line.length ≤ size) :
    lines size (line ++ newline :: file) = (line ++ [newline]) :: lines size file := by
  rw [lines_of_ne_nil (by simp), takeLine_line hline (Nat.lt_succ_of_le hsize)]

/-- Lines that fit are read one after the other. -/
lemma lines_flatMap {size : ℕ} {file : List (List UInt8)}
    (h : ∀ line ∈ file, newline ∉ line ∧ line.length ≤ size) :
    lines size (file.flatMap (· ++ [newline])) = file.map (· ++ [newline]) := by
  induction file with
  | nil => exact lines_nil size
  | cons line file ih =>
    obtain ⟨hline, hsize⟩ := h line List.mem_cons_self
    rw [List.flatMap_cons, List.append_assoc, List.singleton_append, lines_line hline hsize,
      ih fun line' hline' => h line' (List.mem_cons_of_mem line hline')]
    rfl

/-- A line and what is left behind it are the file. -/
lemma takeLine_append (n : ℕ) (file : List UInt8) : (takeLine n file).1 ++ (takeLine n file).2 = file := by
  induction n generalizing file with
  | zero => rfl
  | succ n ih =>
    cases file with
    | nil => rfl
    | cons c file =>
      rw [takeLine]
      split_ifs
      · rfl
      · exact congrArg (c :: ·) (ih file)

/-- A line behind which something is left ends where it ends, whatever comes behind it. -/
lemma takeLine_complete {n : ℕ} {file : List UInt8} (h : (takeLine n file).2 ≠ []) (more : List UInt8) :
    takeLine n ((takeLine n file).1 ++ more) = ((takeLine n file).1, more) := by
  induction n generalizing file with
  | zero => rfl
  | succ n ih =>
    cases file with
    | nil => exact absurd rfl h
    | cons c file =>
      rw [takeLine] at h ⊢
      split_ifs at h ⊢ with hc
      · rw [List.singleton_append, takeLine, if_pos hc]
      · rw [List.cons_append, takeLine, if_neg hc, ih h]

/-- The first lines of a file, put together, are a file with these lines. -/
lemma lines_flatten {size : ℕ} {file : List UInt8} {front rest : List (List UInt8)}
    (h : lines size file = front ++ rest) : lines size front.flatten = front := by
  induction front generalizing file with
  | nil => exact lines_nil size
  | cons line front ih =>
    have hne : file ≠ [] := by
      rintro rfl
      rw [lines_nil] at h
      cases h
    rw [lines_of_ne_nil hne, List.cons_append] at h
    obtain ⟨rfl, hrest⟩ := List.cons.inj h
    have hline : (takeLine (size + 1) file).1 ≠ [] := by
      obtain ⟨c, file, rfl⟩ := List.exists_cons_of_ne_nil hne
      rw [takeLine]
      split_ifs <;> exact List.cons_ne_nil _ _
    have htake : takeLine (size + 1) ((takeLine (size + 1) file).1 ++ front.flatten) =
        ((takeLine (size + 1) file).1, front.flatten) := by
      by_cases hlast : (takeLine (size + 1) file).2 = []
      · -- it is the last line, and nothing comes behind it
        rw [hlast, lines_nil] at hrest
        obtain ⟨rfl, -⟩ := List.append_eq_nil_iff.mp hrest.symm
        have hfile := takeLine_append (size + 1) file
        rw [hlast, List.append_nil] at hfile
        rw [List.flatten_nil, List.append_nil, hfile]
        exact Prod.ext hfile hlast
      · exact takeLine_complete hlast front.flatten
    rw [List.flatten_cons, lines_of_ne_nil (List.append_ne_nil_of_left_ne_nil hline _), htake, ih hrest]

/-! ### The words of a line -/

/-- `isspace`. -/
def isSpace (c : UInt8) : Bool := c = 32 ∨ 9 ≤ c ∧ c ≤ 13

/-- What a string function reads of a buffer: all up to the zero byte. -/
def cString (text : List UInt8) : List UInt8 := text.takeWhile (· ≠ 0)

/-- The words between the blanks. -/
def words (text : List UInt8) : List (List UInt8) := (text.splitOnP isSpace).filter (· ≠ [])

/-- A text without a zero byte is read to its end. -/
lemma cString_eq_self {text : List UInt8} (h : 0 ∉ text) : cString text = text :=
  List.takeWhile_eq_self_iff.mpr fun _ hc => decide_eq_true fun hzero => h (hzero ▸ hc)

/-- What is read of a text has no zero byte. -/
lemma zero_notMem_cString (text : List UInt8) : 0 ∉ cString text := by
  intro h
  have hne := List.mem_takeWhile_imp (p := fun c : UInt8 => decide (c ≠ 0)) h
  exact absurd hne (by decide)

/-- Blanks in front do not matter. -/
lemma words_space {c : UInt8} (hc : isSpace c = true) (text : List UInt8) :
    words (c :: text) = words text := by
  unfold words
  rw [← List.nil_append (c :: text), List.splitOnP_append_cons [] text hc, List.splitOnP_nil]
  rfl

/-- The first word goes up to the first blank. -/
lemma words_word {word : List UInt8} (hne : word ≠ []) (hword : ∀ c ∈ word, isSpace c = false)
    {c : UInt8} (hc : isSpace c = true) (text : List UInt8) :
    words (word ++ c :: text) = word :: words text := by
  unfold words
  rw [List.splitOnP_append_cons_of_forall_mem hword c hc,
    List.filter_cons, if_pos (decide_eq_true hne)]

/-- The pieces between blanks are without blanks. -/
lemma mem_splitOnP {p : UInt8 → Bool} {text piece : List UInt8} (h : piece ∈ text.splitOnP p) :
    ∀ c ∈ piece, p c = false ∧ c ∈ text := by
  induction text generalizing piece with
  | nil =>
    rw [List.splitOnP_nil, List.mem_singleton] at h
    rw [h]
    intro c hc
    cases hc
  | cons d text ih =>
    rw [List.splitOnP_cons_eq_if_modifyHead] at h
    split at h
    · rcases List.mem_cons.mp h with rfl | h
      · intro c hc
        cases hc
      · exact fun c hc => ⟨(ih h c hc).1, List.mem_cons_of_mem _ (ih h c hc).2⟩
    · rename_i hd
      obtain ⟨first, rest, heq⟩ := List.exists_cons_of_ne_nil (List.splitOnP_ne_nil p text)
      rw [heq, List.modifyHead_cons] at h
      rw [heq] at ih
      rcases List.mem_cons.mp h with rfl | h
      · intro c hc
        rcases List.mem_cons.mp hc with rfl | hc
        · exact ⟨Bool.not_eq_true _ ▸ hd, List.mem_cons_self⟩
        · have hfirst := ih List.mem_cons_self c hc
          exact ⟨hfirst.1, List.mem_cons_of_mem _ hfirst.2⟩
      · have hrest := ih (List.mem_cons_of_mem _ h)
        exact fun c hc => ⟨(hrest c hc).1, List.mem_cons_of_mem _ (hrest c hc).2⟩

/-- **What a word is**: a row of characters of the text that are no blanks. -/
lemma mem_words {text word : List UInt8} (h : word ∈ words text) :
    word ≠ [] ∧ ∀ c ∈ word, isSpace c = false ∧ c ∈ text := by
  obtain ⟨hpiece, hne⟩ := List.mem_filter.mp h
  exact ⟨of_decide_eq_true hne, mem_splitOnP hpiece⟩

end TextFile
