import FeedBridge.Proofs.Basic
import FeedBridge.Settings.EnvFile
import Mathlib.Data.List.Induction

namespace FeedBridge

def failure? {ε α : Type} : Except ε α → Option ε
  | .error cause => some cause
  | .ok _ => none

section
variable {ε α β : Type}

@[simp] theorem failure?_error (cause : ε) : failure? (.error cause : Except ε α) = some cause :=
  rfl

@[simp] theorem failure?_ok (a : α) : failure? (.ok a : Except ε α) = none := rfl

@[simp] theorem failure?_map (f : α → β) (x : Except ε α) : failure? (x.map f) = failure? x := by
  cases x <;> rfl

@[simp] theorem failure?_mapError {ε' : Type} (f : ε → ε') (x : Except ε α) :
    failure? (x.mapError f) = (failure? x).map f := by
  cases x <;> rfl

theorem failure?_eq_some_iff {x : Except ε α} {cause : ε} :
    failure? x = some cause ↔ x = .error cause := by
  cases x <;> simp

theorem failure?_eq_none_iff {x : Except ε α} : failure? x = none ↔ ∃ a, x = .ok a := by
  cases x <;> simp

end

namespace EnvFile

inductive ValueMove.Alike : ValueMove → ValueMove → Prop
  | go (state : ValueState) (output output' : List Char) :
      Alike (.go state output) (.go state output')
  | stop : Alike .stop .stop
  | fail : Alike .fail .fail

theorem ValueMove.Alike.refl (move : ValueMove) : move.Alike move := by
  cases move <;> constructor

theorem valueMove_alike (expand other : List Char → List Char) (state : ValueState) (c : Char) :
    (valueMove expand state c).Alike (valueMove other state c) := by
  cases state with
  | reference inWeak name =>
      simp only [valueMove]
      split_ifs <;> constructor
  | braced inWeak name =>
      simp only [valueMove]
      split_ifs <;> constructor
  | bare | weak | strong | escaped _ | trailing => exact .refl _

theorem failure?_readValueFrom (expand other : List Char → List Char) (last : Nat)
    (state : ValueState) (position : Nat) (cs : List Char) :
    failure? (readValueFrom expand last state position cs) =
      failure? (readValueFrom other last state position cs) := by
  induction cs generalizing state position with
  | nil =>
      simp only [readValueFrom]
      split_ifs <;> rfl
  | cons c rest ih =>
      have alike := valueMove_alike expand other state c
      simp only [readValueFrom]
      generalize valueMove expand state c = move at alike ⊢
      generalize valueMove other state c = move' at alike ⊢
      cases alike with
      | go next output output' => simpa only [failure?_map] using ih next (position + 1)
      | stop | fail => rfl

theorem failure?_readValue (expand other : List Char → List Char) (cs : List Char) :
    failure? (readValue expand cs) = failure? (readValue other cs) := by
  rw [readValue, readValue, failure?_mapError, failure?_mapError, failure?_readValueFrom]

def lineFault? (line : List Char) : Option EnvFileError :=
  failure? (readBinding (fun _ => none) [] line)

def boundKey? (line : List Char) : Option String :=
  let cs := Text.trimStart (Text.trimEnd line)
  if isOver cs then none else (readKey line cs).toOption.map Prod.fst

theorem readBinding_cases (line : List Char) :
    (∃ cause, lineFault? line = some cause ∧
        ∀ process bindings, readBinding process bindings line = .error cause) ∨
      (lineFault? line = none ∧ boundKey? line = none ∧
        ∀ process bindings, readBinding process bindings line = .ok bindings) ∨
      ∃ key, lineFault? line = none ∧ boundKey? line = some key ∧
        ∀ process bindings, ∃ value,
          readBinding process bindings line = .ok ((key, value) :: bindings) := by
  unfold lineFault? boundKey? readBinding
  dsimp only
  generalize Text.trimStart (Text.trimEnd line) = cs
  by_cases finished : isOver cs
  · exact .inr (.inl (by simp [finished]))
  simp only [finished, Bool.false_eq_true, if_false]
  cases readKey line cs with
  | error cause => exact .inl ⟨cause, rfl, fun _ _ => rfl⟩
  | ok found =>
      obtain ⟨key, rest⟩ := found
      simp only [bind, Except.bind]
      generalize Text.trimStart rest = value
      by_cases nothing : isOver value
      · exact .inr (.inr ⟨key, by simp [nothing, pure, Except.pure, Except.toOption]⟩)
      simp only [nothing, Bool.false_eq_true, if_false]
      have same (process : Lookup) (bindings : Bindings) :=
        failure?_readValue (expandName process bindings) (expandName (fun _ => none) []) value
      cases fault : failure? (readValue (expandName (fun _ => none) []) value) with
      | some cause =>
          refine .inl ⟨cause, ?_, fun process bindings => ?_⟩
          · rw [failure?_eq_some_iff.mp fault]
            rfl
          · rw [failure?_eq_some_iff.mp ((same process bindings).trans fault)]
      | none =>
          refine .inr (.inr ⟨key, ?_, rfl, fun process bindings => ?_⟩)
          · obtain ⟨chars, read⟩ := failure?_eq_none_iff.mp fault
            rw [read]
            rfl
          · obtain ⟨chars, read⟩ := failure?_eq_none_iff.mp ((same process bindings).trans fault)
            exact ⟨some (String.ofList chars), by rw [read]; rfl⟩

theorem failure?_readBinding (process : Lookup) (bindings : Bindings) (line : List Char) :
    failure? (readBinding process bindings line) = lineFault? line := by
  obtain ⟨cause, fault, refused⟩ | ⟨fault, -, silent⟩ | ⟨key, fault, -, binds⟩ :=
    readBinding_cases line
  · rw [refused, fault, failure?_error]
  · rw [silent, fault, failure?_ok]
  · obtain ⟨value, read⟩ := binds process bindings
    rw [read, fault, failure?_ok]

theorem readBinding_ok {process : Lookup} {bindings after : Bindings} {line : List Char}
    (read : readBinding process bindings line = .ok after) :
    (boundKey? line = none ∧ after = bindings) ∨
      ∃ key value, boundKey? line = some key ∧ after = (key, value) :: bindings := by
  obtain ⟨cause, -, refused⟩ | ⟨-, none, silent⟩ | ⟨key, -, bound, binds⟩ :=
    readBinding_cases line
  · rw [refused] at read
    cases read
  · exact .inl ⟨none, Except.ok.inj (read.symm.trans (silent _ _))⟩
  · obtain ⟨value, same⟩ := binds process bindings
    exact .inr ⟨key, value, bound, Except.ok.inj (read.symm.trans same)⟩

/-! ## Cutting a file into logical lines -/

inductive LineStep
  | closed (line : List Char)
  | left (line : List Char) (state : LineState)

def lineStep (line : List Char) (state : LineState) (cs : List Char) : LineStep :=
  if (Text.trimStart (line ++ cs)).head? = some '#' then .closed []
  else
    match lineEnd state cs with
    | .comment before => .closed (line ++ before)
    | .state .complete => .closed (dropLineBreak (line ++ cs))
    | .state state => .left (line ++ cs) state

theorem Progress.feed_eq (process : Lookup) (p : Progress) (cs : List Char) :
    p.feed process (some cs) =
      match lineStep p.line p.state cs with
      | .closed line => p.close process line
      | .left line state => .ok { p with line, state } := by
  simp only [feed, lineStep]
  split_ifs
  · rfl
  · cases lineEnd p.state cs with
    | comment before => rfl
    | state state => cases state <;> rfl

structure Outline where
  lines : List (List Char)
  fault? : Option EnvFileError

def outlineFrom (line : List Char) (state : LineState) : List (Option (List Char)) → Outline
  | [] =>
    ⟨[], if state = .complete then none
      else some (.line (String.ofList line) (byteLength line))⟩
  | none :: _ => ⟨[], some .notUtf8⟩
  | some cs :: rest =>
    match lineStep line state cs with
    | .closed whole =>
      let others := outlineFrom [] .complete rest
      ⟨whole :: others.lines, others.fault?⟩
    | .left line state => outlineFrom line state rest

def outline (bytes : ByteArray) : Outline :=
  outlineFrom [] .complete ((physicalLines bytes.data.toList).map decodeLine)

namespace Outline

def read (process : Lookup) (bindings : Bindings) (o : Outline) : Except EnvFileError Bindings := do
  let bindings ← o.lines.foldlM (readBinding process) bindings
  match o.fault? with
  | some cause => .error cause
  | none => .ok bindings

structure Legible (o : Outline) : Prop where
  whole : o.fault? = none
  readable : ∀ line ∈ o.lines, lineFault? line = none

theorem failure?_read (process : Lookup) (bindings : Bindings) (o : Outline) :
    failure? (o.read process bindings) = (o.lines.findSome? lineFault?).or o.fault? := by
  obtain ⟨lines, fault?⟩ := o
  induction lines generalizing bindings with
  | nil => cases fault? <;> rfl
  | cons line lines ih =>
      have first := failure?_readBinding process bindings line
      simp only [read, List.foldlM_cons, List.findSome?_cons] at ih ⊢
      cases step : readBinding process bindings line with
      | error cause =>
          rw [step] at first
          rw [← first]
          rfl
      | ok after =>
          rw [step] at first
          rw [← first]
          exact ih after

theorem legible_iff {o : Outline} :
    o.Legible ↔ (o.lines.findSome? lineFault?).or o.fault? = none := by
  rw [Option.or_eq_none_iff, List.findSome?_eq_none_iff]
  exact ⟨fun ⟨whole, readable⟩ => ⟨readable, whole⟩, fun ⟨readable, whole⟩ => ⟨whole, readable⟩⟩

end Outline

theorem foldlM_feed (process : Lookup) (p : Progress) (physical : List (Option (List Char))) :
    (physical.foldlM (Progress.feed process) p >>= Progress.finish) =
      (outlineFrom p.line p.state physical).read process p.bindings := by
  induction physical generalizing p with
  | nil =>
      simp only [List.foldlM_nil, pure_bind, Progress.finish, outlineFrom, Outline.read]
      split_ifs <;> rfl
  | cons first rest ih =>
      cases first with
      | none => rfl
      | some cs =>
          rw [List.foldlM_cons, Progress.feed_eq, outlineFrom]
          cases lineStep p.line p.state cs with
          | left line state => exact ih { p with line, state }
          | closed line =>
              simp only [Progress.close, Outline.read, List.foldlM_cons, bind_assoc, pure_bind]
              congr 1
              funext bindings
              rw [ih]
              rfl

theorem read_ok (process : Lookup) (bytes : ByteArray) :
    read process (.ok bytes) = (outline bytes).read process [] :=
  foldlM_feed process {} _

/-- A file that can be read, of which every line can be understood. -/
def Legible (content : Content) : Prop := ∃ bytes, content = .ok bytes ∧ (outline bytes).Legible

theorem Legible.read {content : Content} (legible : Legible content) (process : Lookup) :
    ∃ bindings, read process content = .ok bindings := by
  obtain ⟨bytes, rfl, legible⟩ := legible
  rw [read_ok, ← failure?_eq_none_iff, Outline.failure?_read]
  exact Outline.legible_iff.mp legible

theorem read_of_not_legible {content : Content} (illegible : ¬ Legible content) :
    ∃ cause, ∀ process, read process content = .error cause := by
  cases content with
  | error cause => exact ⟨cause, fun _ => rfl⟩
  | ok bytes =>
      have faulty : ¬ (outline bytes).Legible := fun legible => illegible ⟨bytes, rfl, legible⟩
      rw [Outline.legible_iff, ← ne_eq, Option.ne_none_iff_exists'] at faulty
      obtain ⟨cause, first⟩ := faulty
      exact ⟨cause, fun process => by
        rw [read_ok, ← failure?_eq_some_iff, Outline.failure?_read, first]⟩

def LastBound (process : Lookup) (lines : List (List Char)) (key value : String) : Prop :=
  ∃ before line after earlier bound,
    lines = before ++ line :: after ∧
    before.foldlM (readBinding process) [] = .ok earlier ∧
    readBinding process earlier line = .ok ((key, bound) :: earlier) ∧
    bound.getD "" = value ∧
    ∀ later ∈ after, boundKey? later ≠ some key

theorem Bindings.get?_cons (bindings : Bindings) (key other : String) (bound : Option String) :
    Bindings.get? ((other, bound) :: bindings) key =
      if key = other then some (bound.getD "") else bindings.get? key := by
  unfold Bindings.get?
  rw [List.lookup_cons]
  split_ifs with same
  · simp [same]
  · rw [beq_false_of_ne same]

variable {process : Lookup} {lines : List (List Char)} {bindings after : Bindings} {key value : String}

theorem get?_unbound (unbound : ∀ line ∈ lines, boundKey? line ≠ some key)
    (read : lines.foldlM (readBinding process) bindings = .ok after) :
    after.get? key = bindings.get? key := by
  induction lines generalizing bindings with
  | nil =>
      cases read
      rfl
  | cons line lines ih =>
      rw [List.foldlM_cons] at read
      obtain ⟨between, step, read⟩ := bind_eq_ok.mp read
      rw [ih (fun later listed => unbound later (.tail _ listed)) read]
      obtain ⟨-, rfl⟩ | ⟨other, bound, binds, rfl⟩ := readBinding_ok step
      · rfl
      · have different : key ≠ other := fun same => unbound line (.head _) (same ▸ binds)
        rw [Bindings.get?_cons, if_neg different]

theorem LastBound.concat {line : List Char} (bound : LastBound process lines key value)
    (silent : boundKey? line ≠ some key) : LastBound process (lines ++ [line]) key value := by
  obtain ⟨before, last, after, earlier, text, rfl, start, binds, same, unbound⟩ := bound
  refine ⟨before, last, after ++ [line], earlier, text, by simp, start, binds, same, ?_⟩
  intro later listed
  rcases List.mem_append.mp listed with listed | listed
  · exact unbound later listed
  · rwa [List.mem_singleton.mp listed]

theorem get?_of_foldlM (read : lines.foldlM (readBinding process) [] = .ok bindings) :
    bindings.get? key = some value ↔ LastBound process lines key value := by
  constructor
  · intro found
    induction lines using List.reverseRecOn generalizing bindings with
    | nil =>
        cases read
        cases found
    | append_singleton lines line ih =>
        rw [List.foldlM_append] at read
        obtain ⟨earlier, start, read⟩ := bind_eq_ok.mp read
        rw [List.foldlM_cons] at read
        obtain ⟨after, step, same⟩ := bind_eq_ok.mp read
        cases same
        obtain ⟨silent, rfl⟩ | ⟨other, bound, binds, rfl⟩ := readBinding_ok step
        · exact (ih start found).concat (by simp [silent])
        · rw [Bindings.get?_cons] at found
          split_ifs at found with same
          · subst same
            exact ⟨lines, line, [], earlier, bound, rfl, start, step, Option.some.inj found, nofun⟩
          · refine (ih start found).concat ?_
            rw [binds]
            exact fun equal => same (Option.some.inj equal).symm
  · rintro ⟨before, line, after, earlier, bound, rfl, start, binds, rfl, silent⟩
    rw [List.foldlM_append] at read
    obtain ⟨between, same, read⟩ := bind_eq_ok.mp read
    cases start.symm.trans same
    rw [List.foldlM_cons, binds] at read
    rw [get?_unbound silent read, Bindings.get?_cons, if_pos rfl]

theorem get?_of_read {bytes : ByteArray} (found : read process (.ok bytes) = .ok bindings) :
    bindings.get? key = some value ↔ LastBound process (outline bytes).lines key value := by
  rw [read_ok, Outline.read] at found
  obtain ⟨whole, read, same⟩ := bind_eq_ok.mp found
  cases fault : (outline bytes).fault? with
  | some cause =>
      rw [fault] at same
      cases same
  | none =>
      rw [fault] at same
      cases same
      exact get?_of_foldlM read

end EnvFile

end FeedBridge
