import FeedBridge.Text.Blank
import Mathlib.Data.List.TakeWhile

namespace FeedBridge.Text

def AllBlank (cs : List Char) : Prop := ∀ c ∈ cs, isBlank c = true

def Solid (w : List Char) : Prop := w ≠ [] ∧ ∀ c ∈ w, isBlank c = false

instance (w : List Char) : Decidable (Solid w) :=
  @instDecidableAnd _ _ inferInstance (List.decidableBAll _ w)

def Trails : List (List Char) → List Char → Prop
  | [], cs => AllBlank cs
  | w :: ws, cs =>
    ∃ gap rest, gap ≠ [] ∧ AllBlank gap ∧ cs = gap ++ (w ++ rest) ∧ Trails ws rest

/-- Words in order, with blanks between them and any blanks around them. -/
def Laid : List (List Char) → List Char → Prop
  | [], cs => AllBlank cs
  | w :: ws, cs => ∃ lead rest, AllBlank lead ∧ cs = lead ++ (w ++ rest) ∧ Trails ws rest

def Stripped (cs text : List Char) : Prop :=
  ∃ lead trail, AllBlank lead ∧ AllBlank trail ∧ cs = lead ++ (text ++ trail) ∧
    (∀ c ∈ text.head?, isBlank c = false) ∧ ∀ c ∈ text.getLast?, isBlank c = false

variable {w lead trail cs text : List Char} {ws : List (List Char)} {c : Char}

theorem AllBlank.head (blank : AllBlank (c :: cs)) : isBlank c = true := blank c List.mem_cons_self

theorem AllBlank.tail (blank : AllBlank (c :: cs)) : AllBlank cs :=
  fun d member => blank d (List.mem_cons_of_mem _ member)

theorem AllBlank.cons (first : isBlank c = true) (others : AllBlank cs) : AllBlank (c :: cs) :=
  List.forall_mem_cons.mpr ⟨first, others⟩

theorem AllBlank.append (first : AllBlank lead) (second : AllBlank trail) :
    AllBlank (lead ++ trail) :=
  List.forall_mem_append.mpr ⟨first, second⟩

theorem AllBlank.reverse (blank : AllBlank cs) : AllBlank cs.reverse :=
  fun c member => blank c (List.mem_reverse.mp member)

@[simp] theorem words_nil : words [] = [] := rfl

theorem wordsFrom_end (front : List Char) :
    wordsFrom front [] = if front = [] then [] else [front.reverse] := by
  simp [wordsFrom]

theorem wordsFrom_blank (front : List Char) (blank : isBlank c = true) :
    wordsFrom front (c :: cs) = wordsFrom front [] ++ words cs := by
  by_cases none : front = [] <;> simp [wordsFrom, words, blank, none]

theorem wordsFrom_dense (front : List Char) (dense : isBlank c = false) :
    wordsFrom front (c :: cs) = wordsFrom (c :: front) cs := by
  simp [wordsFrom, dense]

theorem words_blanks (blank : AllBlank lead) : words (lead ++ cs) = words cs := by
  induction lead with
  | nil => rfl
  | cons c rest ih =>
      rw [List.cons_append, words, wordsFrom_blank [] blank.head, wordsFrom_end, if_pos rfl]
      exact ih blank.tail

theorem words_of_allBlank (blank : AllBlank cs) : words cs = [] := by
  have whole : words (cs ++ []) = words [] := words_blanks blank
  rwa [List.append_nil, words_nil] at whole

theorem wordsFrom_append (front : List Char) (dense : ∀ c ∈ w, isBlank c = false) :
    wordsFrom front (w ++ cs) = wordsFrom (w.reverse ++ front) cs := by
  induction w generalizing front with
  | nil => rfl
  | cons c rest ih =>
      obtain ⟨first, others⟩ := List.forall_mem_cons.mp dense
      rw [List.cons_append, wordsFrom_dense front first, ih (c :: front) others]
      simp

theorem wordsFrom_of_trails {front : List Char} (begun : front ≠ [])
    (solid : ∀ w ∈ ws, Solid w) (trails : Trails ws cs) :
    wordsFrom front cs = front.reverse :: ws := by
  induction ws generalizing front cs with
  | nil =>
      cases cs with
      | nil => rw [wordsFrom_end, if_neg begun]
      | cons b rest =>
          have blank : AllBlank (b :: rest) := trails
          rw [wordsFrom_blank front blank.head, wordsFrom_end, if_neg begun,
            words_of_allBlank blank.tail]
          rfl
  | cons w ws ih =>
      obtain ⟨gap, rest, some, blank, rfl, trails⟩ := trails
      obtain ⟨b, gap, rfl⟩ := List.exists_cons_of_ne_nil some
      obtain ⟨⟨nonempty, dense⟩, solid⟩ := List.forall_mem_cons.mp solid
      rw [List.cons_append, wordsFrom_blank front blank.head, wordsFrom_end, if_neg begun,
        words_blanks blank.tail, words, wordsFrom_append [] dense,
        ih (by simpa using nonempty) solid trails]
      simp

theorem words_of_laid (solid : ∀ w ∈ ws, Solid w) (laid : Laid ws cs) : words cs = ws := by
  cases ws with
  | nil => exact words_of_allBlank laid
  | cons w ws =>
      obtain ⟨lead, rest, blank, rfl, trails⟩ := laid
      obtain ⟨⟨nonempty, dense⟩, solid⟩ := List.forall_mem_cons.mp solid
      rw [words_blanks blank, words, wordsFrom_append [] dense,
        wordsFrom_of_trails (by simpa using nonempty) solid trails]
      simp

theorem Laid.cons (blank : isBlank c = true) (laid : Laid ws cs) : Laid ws (c :: cs) := by
  cases ws with
  | nil => exact AllBlank.cons blank laid
  | cons w ws =>
      obtain ⟨lead, rest, blanks, rfl, trails⟩ := laid
      exact ⟨c :: lead, rest, blanks.cons blank, rfl, trails⟩

theorem Laid.trails (blank : isBlank c = true) (laid : Laid ws cs) : Trails ws (c :: cs) := by
  cases ws with
  | nil => exact AllBlank.cons blank laid
  | cons w ws =>
      obtain ⟨lead, rest, blanks, rfl, trails⟩ := laid
      exact ⟨c :: lead, rest, nofun, blanks.cons blank, rfl, trails⟩

theorem solid_reverse (some : w ≠ []) (dense : ∀ c ∈ w, isBlank c = false) : Solid w.reverse :=
  ⟨by simpa using some, fun c member => dense c (List.mem_reverse.mp member)⟩

theorem wordsFrom_layout (front cs : List Char) (dense : ∀ c ∈ front, isBlank c = false) :
    (∀ w ∈ wordsFrom front cs, Solid w) ∧
      if front = [] then Laid (wordsFrom front cs) cs
      else ∃ more ws rest, wordsFrom front cs = (front.reverse ++ more) :: ws ∧
        cs = more ++ rest ∧ Trails ws rest := by
  induction cs generalizing front with
  | nil =>
      rw [wordsFrom_end]
      split_ifs with none
      · exact ⟨nofun, nofun⟩
      · refine ⟨fun w member => ?_, [], [], [], by simp, rfl, nofun⟩
        rw [List.mem_singleton.mp member]
        exact solid_reverse none dense
  | cons c rest ih =>
      cases kind : isBlank c with
      | true =>
          obtain ⟨solid, laid⟩ := ih [] nofun
          rw [if_pos rfl] at laid
          rw [wordsFrom_blank front kind, wordsFrom_end]
          split_ifs with none
          · exact ⟨solid, laid.cons kind⟩
          · refine ⟨fun w member => ?_, [], words rest, c :: rest, by simp, rfl, laid.trails kind⟩
            rcases List.mem_cons.mp member with rfl | later
            · exact solid_reverse none dense
            · exact solid w later
      | false =>
          obtain ⟨solid, more, ws, left, cut, split, trails⟩ :=
            ih (c :: front) (List.forall_mem_cons.mpr ⟨kind, dense⟩)
          rw [wordsFrom_dense front kind]
          refine ⟨solid, ?_⟩
          split_ifs with none
          · rw [cut, none]
            exact ⟨[], left, nofun, by simp [split], trails⟩
          · exact ⟨c :: more, ws, left, by simp [cut], by simp [split], trails⟩

theorem laid_words (cs : List Char) : Laid (words cs) cs := by
  simpa [words] using (wordsFrom_layout [] cs nofun).2

theorem solid_of_mem_words (member : w ∈ words cs) : Solid w :=
  (wordsFrom_layout [] cs nofun).1 w member

theorem words_eq_iff : words cs = ws ↔ (∀ w ∈ ws, Solid w) ∧ Laid ws cs := by
  constructor
  · rintro rfl
    exact ⟨fun w => solid_of_mem_words, laid_words cs⟩
  · rintro ⟨solid, laid⟩
    exact words_of_laid solid laid

theorem dropWhile_blank (blank : AllBlank lead) (dense : ∀ c ∈ cs.head?, isBlank c = false) :
    (lead ++ cs).dropWhile isBlank = cs := by
  rw [List.dropWhile_append_of_pos blank]
  cases cs with
  | nil => rfl
  | cons c rest => simp [dense c rfl]

theorem trimEnd_append (blank : AllBlank trail) (dense : ∀ c ∈ cs.getLast?, isBlank c = false) :
    trimEnd (cs ++ trail) = cs := by
  have first : ∀ c ∈ cs.reverse.head?, isBlank c = false := by simpa using dense
  rw [trimEnd, List.reverse_append, dropWhile_blank blank.reverse first, List.reverse_reverse]

theorem exists_trimStart (cs : List Char) : ∃ lead, AllBlank lead ∧ cs = lead ++ trimStart cs :=
  ⟨cs.takeWhile isBlank, fun _ => List.mem_takeWhile_imp, List.takeWhile_append_dropWhile.symm⟩

theorem head?_trimStart (cs : List Char) : ∀ c ∈ (trimStart cs).head?, isBlank c = false := by
  intro c first
  have dense := List.head?_dropWhile_not isBlank cs
  rw [trimStart, Option.mem_def] at first
  rwa [first] at dense

theorem exists_trimEnd (cs : List Char) : ∃ trail, AllBlank trail ∧ cs = trimEnd cs ++ trail := by
  obtain ⟨lead, blank, split⟩ := exists_trimStart cs.reverse
  refine ⟨lead.reverse, blank.reverse, ?_⟩
  have back := congrArg List.reverse split
  rwa [List.reverse_reverse, List.reverse_append] at back

theorem getLast?_trimEnd (cs : List Char) : ∀ c ∈ (trimEnd cs).getLast?, isBlank c = false := by
  intro c last
  refine head?_trimStart cs.reverse c ?_
  rwa [trimEnd, List.getLast?_reverse] at last

theorem stripped_trim (cs : List Char) : Stripped cs (trim cs) := by
  obtain ⟨lead, before, start⟩ := exists_trimStart cs
  obtain ⟨trail, after, finish⟩ := exists_trimEnd (trimStart cs)
  refine ⟨lead, trail, before, after, by rw [trim, ← finish]; exact start, ?_, getLast?_trimEnd _⟩
  intro c first
  refine head?_trimStart cs c ?_
  rw [finish, List.head?_append]
  rw [trim] at first
  simp [Option.mem_def.mp first]

theorem stripped_iff : Stripped cs text ↔ text = trim cs := by
  constructor
  · rintro ⟨lead, trail, before, after, rfl, first, last⟩
    cases text with
    | nil =>
        have nothing : (lead ++ trail ++ []).dropWhile isBlank = [] :=
          dropWhile_blank (before.append after) nofun
        rw [List.append_nil] at nothing
        rw [trim, trimStart, List.nil_append, nothing]
        rfl
    | cons c rest =>
        have start : trimStart (lead ++ (c :: rest ++ trail)) = c :: rest ++ trail :=
          dropWhile_blank before first
        rw [trim, start, trimEnd_append after last]
  · rintro rfl
    exact stripped_trim cs

theorem Trails.append (after : AllBlank trail) (trails : Trails ws cs) :
    Trails ws (cs ++ trail) := by
  induction ws generalizing cs with
  | nil => exact AllBlank.append trails after
  | cons w ws ih =>
      obtain ⟨gap, rest, some, blank, rfl, trails⟩ := trails
      exact ⟨gap, rest ++ trail, some, blank, by simp, ih trails⟩

theorem Laid.pad (before : AllBlank lead) (after : AllBlank trail) (laid : Laid ws cs) :
    Laid ws (lead ++ (cs ++ trail)) := by
  cases ws with
  | nil => exact before.append (AllBlank.append laid after)
  | cons w ws =>
      obtain ⟨gap, rest, blank, rfl, trails⟩ := laid
      exact ⟨lead ++ gap, rest ++ trail, before.append blank, by simp, trails.append after⟩

theorem words_trim (cs : List Char) : words (trim cs) = words cs := by
  obtain ⟨lead, trail, before, after, split, -, -⟩ := stripped_trim cs
  refine (words_eq_iff.mpr ⟨fun w => solid_of_mem_words, ?_⟩).symm
  have padded := (laid_words (trim cs)).pad before after
  rwa [← split] at padded

end FeedBridge.Text
