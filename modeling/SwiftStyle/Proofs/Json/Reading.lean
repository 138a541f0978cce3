import Mathlib.Data.List.TakeWhile
import SwiftStyle.Json.Printer
import SwiftStyle.Json.Reader

/-!
What is written over several lines as JSON is read back as the same value. The machine that reads
is followed through a written value: in front of it a value is expected, behind it the machine
stands where `Machine.complete` puts it, whatever containers are open around it. Only numbers that
are not whole are left out, since they are kept as they were written.
-/

namespace SwiftStyle.Json

open Machine (isWordChar)

/-- A value whose numbers are all whole. -/
inductive Whole : Json → Prop
  | null : Whole .null
  | bool (b : Bool) : Whole (.bool b)
  | integer (n : Int) : Whole (.integer n)
  | string (s : String) : Whole (.string s)
  | array {items : List Json} : (∀ item ∈ items, Whole item) → Whole (.array items)
  | object {fields : List (String × Json)} :
      (∀ field ∈ fields, Whole field.2) → Whole (.object fields)

/-! Whole numbers. -/

theorem head?_toDigits_ne_zero {n : Nat} (pos : 0 < n) :
    (Nat.toDigits 10 n).head? ≠ some '0' := by
  induction n using Nat.strongRecOn with
  | _ n ih =>
    rw [Nat.toDigits_eq_if (by decide)]
    split
    · intro zero
      have digit := Nat.digitChar_eq_zero.mp (Option.some.inj zero)
      exact Nat.ne_of_gt pos digit
    · obtain ⟨d, first⟩ := Option.ne_none_iff_exists'.mp
        (mt List.head?_eq_none_iff.mp (Nat.toDigits_ne_nil (n := n / 10) (b := 10)))
      rw [List.head?_append, first, Option.some_or, ← first]
      exact ih (n / 10) (by omega) (by omega)

theorem dropWhole?_toDigits (n : Nat) : dropWhole? (Nat.toDigits 10 n) = some [] := by
  rcases Nat.eq_zero_or_pos n with rfl | pos
  · rw [Nat.toDigits_zero]
    rfl
  · have digits : ∀ d ∈ Nat.toDigits 10 n, d.isDigit = true := fun d mem =>
      Nat.isDigit_of_mem_toDigits (by decide) (by decide) mem
    have first := head?_toDigits_ne_zero pos
    obtain ⟨d, ds, split⟩ := List.exists_cons_of_ne_nil (Nat.toDigits_ne_nil (n := n) (b := 10))
    rw [split] at digits first ⊢
    unfold dropWhole?
    split
    · next zero => exact absurd (congrArg List.head? zero) first
    · rw [dropDigits?, if_pos (digits d List.mem_cons_self)]
      exact congrArg some (List.dropWhile_eq_nil_iff.mpr fun d' mem =>
        digits d' (List.mem_cons_of_mem d mem))

theorem head?_toDigits_ne_minus (n : Nat) : (Nat.toDigits 10 n).head? ≠ some '-' := by
  intro minus
  have digit := Nat.isDigit_of_mem_toDigits (by decide) (by decide) (List.mem_of_head? minus)
  exact absurd digit (by decide)

theorem number?_toDigits (n : Nat) : number? (Nat.toDigits 10 n) = some (.integer n) := by
  unfold number?
  simp only [head?_toDigits_ne_minus, decide_false, Bool.false_and, Bool.false_eq_true, if_false,
    dropWhole?_toDigits]
  rw [← Nat.ofDigitChars_eq_foldl, Nat.ofDigitChars_ten_toDigits]

theorem number?_minus_toDigits (n : Nat) :
    number? ('-' :: Nat.toDigits 10 (n + 1)) = some (.integer (Int.negSucc n)) := by
  unfold number?
  simp only [List.head?_cons, decide_true, if_true, List.drop_succ_cons, List.drop_zero,
    dropWhole?_toDigits]
  rw [← Nat.ofDigitChars_eq_foldl, Nat.ofDigitChars_ten_toDigits]
  rfl

/-- A character that may start a word. -/
def startsWord (c : Char) : Bool := c = '-' || c.isAlphanum

theorem ne_of_startsWord {c d : Char} (starts : startsWord c) (other : startsWord d = false) :
    c ≠ d := by
  rintro rfl
  exact Bool.noConfusion (starts.symm.trans other)

theorem isSpace_of_startsWord {c : Char} (starts : startsWord c) : isSpace c = false := by
  simp only [isSpace, Bool.or_eq_false_iff, decide_eq_false_iff_not]
  exact ⟨⟨⟨ne_of_startsWord starts rfl, ne_of_startsWord starts rfl⟩,
    ne_of_startsWord starts rfl⟩, ne_of_startsWord starts rfl⟩

/-- A word that stands for a value. -/
structure Writes (word : List Char) (v : Json) : Prop where
  starts : ∃ c ∈ word.head?, startsWord c
  continues : ∀ c ∈ word, isWordChar c
  read : ofWord? word = some v

/-- A sign or not, and digits. -/
theorem Writes.of_number? {word : List Char} {n : Int} (nonempty : word ≠ [])
    (digits : ∀ c ∈ word, c = '-' ∨ c.isDigit) (number : number? word = some (.integer n)) :
    Writes word (.integer n) := by
  have unnamed (name : List Char) (letter : ∃ c ∈ name, ¬(c = '-' ∨ c.isDigit)) :
      word ≠ name := by
    rintro rfl
    obtain ⟨c, mem, other⟩ := letter
    exact other (digits c mem)
  obtain ⟨c, cs, rfl⟩ := List.exists_cons_of_ne_nil nonempty
  refine ⟨⟨c, rfl, ?_⟩, fun d mem => ?_, ?_⟩
  · rcases digits c List.mem_cons_self with rfl | digit
    · rfl
    · simp [startsWord, Char.isAlphanum, digit]
  · rcases digits d mem with rfl | digit
    · rfl
    · simp [isWordChar, Char.isAlphanum, digit]
  · unfold ofWord?
    rw [if_neg (unnamed _ ⟨'n', by decide⟩), if_neg (unnamed _ ⟨'t', by decide⟩),
      if_neg (unnamed _ ⟨'f', by decide⟩), number]

theorem writes_integer (n : Int) : Writes (toString n).toList (.integer n) := by
  have digits (m : Nat) : ∀ d ∈ Nat.toDigits 10 m, d = '-' ∨ d.isDigit := fun d mem =>
    .inr (Nat.isDigit_of_mem_toDigits (by decide) (by decide) mem)
  cases n with
  | ofNat m =>
    have written : (toString (Int.ofNat m)).toList = Nat.toDigits 10 m := Nat.toList_repr
    rw [written]
    exact .of_number? Nat.toDigits_ne_nil (digits m) (number?_toDigits m)
  | negSucc m =>
    have written : (toString (Int.negSucc m)).toList = '-' :: Nat.toDigits 10 (m + 1) :=
      (String.toList_append ..).trans (congrArg ('-' :: ·) Nat.toList_repr)
    rw [written]
    refine .of_number? (List.cons_ne_nil _ _) ?_ (number?_minus_toDigits m)
    rw [List.forall_mem_cons]
    exact ⟨.inl rfl, digits (m + 1)⟩

namespace Machine

variable {m : Machine} {c : Char} {cs rest : List Char} {stack : List Frame} {before : Mode}

theorem run_cons (m : Machine) (c : Char) (cs : List Char) :
    m.run (c :: cs) = (m.step c).bind fun next => next.run cs := by
  rw [run]
  cases m.step c <;> rfl

theorem startValue_of_startsWord (starts : startsWord c) :
    startValue stack c = some ⟨.word [c], stack⟩ := by
  rw [startValue, if_neg (ne_of_startsWord starts rfl), if_neg (ne_of_startsWord starts rfl),
    if_neg (ne_of_startsWord starts rfl)]
  exact if_pos starts

/-- What a character does where a value is expected, in an array or elsewhere. -/
theorem step_expecting (expects : before = .value ∨ before = .firstItem) (space : isSpace c = false)
    (closing : c ≠ ']') : step ⟨before, stack⟩ c = startValue stack c := by
  rcases expects with rfl | rfl
  · simp [step, stepPlain, space]
  · simp [step, stepPlain, space, closing]

theorem step_complete (v : Json) (stack : List Frame) (c : Char) :
    (complete v stack).step c = (complete v stack).stepPlain c := by
  unfold complete
  split <;> rfl

theorem run_word_append (read : List Char) (word : ∀ c ∈ cs, isWordChar c) :
    run ⟨.word read, stack⟩ (cs ++ rest) = run ⟨.word (cs.reverse ++ read), stack⟩ rest := by
  induction cs generalizing read with
  | nil => rfl
  | cons c cs ih =>
    obtain ⟨first, word⟩ := List.forall_mem_cons.mp word
    have longer : step ⟨.word read, stack⟩ c = some ⟨.word (c :: read), stack⟩ := if_pos first
    rw [List.cons_append, run_cons, longer]
    change run ⟨.word (c :: read), stack⟩ (cs ++ rest) = _
    rw [ih (c :: read) word, List.reverse_cons, List.append_assoc, List.singleton_append]

/-- A word is read as its value by the first character that cannot be part of it. -/
theorem run_writes {v : Json} (writes : Writes cs v)
    (expects : before = .value ∨ before = .firstItem) (ends : isWordChar c = false) :
    run ⟨before, stack⟩ (cs ++ c :: rest) = run (complete v stack) (c :: rest) := by
  obtain ⟨⟨d, first, starts⟩, continues, read⟩ := writes
  obtain ⟨ds, rfl⟩ := List.head?_eq_some_iff.mp first
  have started : step ⟨before, stack⟩ d = some ⟨.word [d], stack⟩ := by
    rw [step_expecting expects (isSpace_of_startsWord starts) (ne_of_startsWord starts rfl)]
    exact startValue_of_startsWord starts
  have ended : step ⟨.word (ds.reverse ++ [d]), stack⟩ c = step (complete v stack) c := by
    have whole : (ds.reverse ++ [d]).reverse = d :: ds := by simp
    rw [step_complete]
    change (if isWordChar c then _ else _) = _
    rw [if_neg (by simp [ends]), whole, read]
    rfl
  rw [List.cons_append, run_cons, started]
  change run ⟨.word [d], stack⟩ (ds ++ c :: rest) = _
  rw [run_word_append [d] (List.forall_mem_cons.mp continues).2, run_cons, ended, run_cons]

/-! Texts. -/

theorem hexValue?_hexDigit : ∀ n < 16, hexValue? (hexDigit n) = some n := by
  decide

/-- A character is read as itself inside of a text. -/
theorem run_escapeChar (isKey : Bool) (read : List Char) (c : Char) :
    run ⟨.text isKey read, stack⟩ (escapeChar c ++ rest)
      = run ⟨.text isKey (c :: read), stack⟩ rest := by
  unfold escapeChar
  split_ifs with quote slash back feed newline ret tab control
  · subst quote; rfl
  · subst slash; rfl
  · subst back; rfl
  · subst feed; rfl
  · subst newline; rfl
  · subst ret; rfl
  · subst tab; rfl
  · have high := hexValue?_hexDigit (c.toNat / 16) (by omega)
    have low := hexValue?_hexDigit (c.toNat % 16) (by omega)
    have upper : step ⟨.hex isKey read none 2 0, stack⟩ (hexDigit (c.toNat / 16))
        = some ⟨.hex isKey read none 1 (c.toNat / 16), stack⟩ := by
      simp [step, stepPlain, high]
    have lower : step ⟨.hex isKey read none 1 (c.toNat / 16), stack⟩ (hexDigit (c.toNat % 16))
        = some ⟨.text isKey (c :: read), stack⟩ := by
      simp only [step, stepPlain, low, Option.bind_some, Nat.le_refl, if_true, Nat.div_add_mod]
      rw [afterHex, if_neg (by simp; omega), if_neg (by simp; omega), Char.ofNat_toNat]
    change run ⟨.hex isKey read none 2 0, stack⟩ (hexDigit (c.toNat / 16) ::
      hexDigit (c.toNat % 16) :: rest) = _
    rw [run_cons, upper, Option.bind_some, run_cons, lower]
    rfl
  · have plain : step ⟨.text isKey read, stack⟩ c = some ⟨.text isKey (c :: read), stack⟩ := by
      simp only [step, stepPlain, quote, slash, control, if_false]
    rw [List.singleton_append, run_cons, plain]
    rfl

theorem run_flatMap_escapeChar (isKey : Bool) (read : List Char) :
    run ⟨.text isKey read, stack⟩ (cs.flatMap escapeChar ++ rest)
      = run ⟨.text isKey (cs.reverse ++ read), stack⟩ rest := by
  induction cs generalizing read with
  | nil => rfl
  | cons c cs ih =>
    rw [List.flatMap_cons, List.append_assoc, run_escapeChar, ih, List.reverse_cons,
      List.append_assoc, List.singleton_append]

theorem toList_quote (s : String) :
    (quote s).toList = '"' :: (s.toList.flatMap escapeChar ++ ['"']) := by
  rw [quote, String.toList_ofList, List.cons_append]

/-- A text is read up to its second quote. -/
theorem run_text (isKey : Bool) (s : String) :
    run ⟨.text isKey [], stack⟩ (s.toList.flatMap escapeChar ++ '"' :: rest)
      = run (if isKey then ⟨.colon s, stack⟩ else complete (.string s) stack) rest := by
  have closed : step ⟨.text isKey s.toList.reverse, stack⟩ '"'
      = some (if isKey then ⟨.colon s, stack⟩ else complete (.string s) stack) := by
    change some (completeText isKey s.toList.reverse stack) = _
    rw [completeText, List.reverse_reverse, String.ofList_toList]
  rw [run_flatMap_escapeChar, List.append_nil, run_cons, closed]
  rfl

theorem run_quote (s : String) (expects : before = .value ∨ before = .firstItem) :
    run ⟨before, stack⟩ ((quote s).toList ++ rest) = run (complete (.string s) stack) rest := by
  have opened : step ⟨before, stack⟩ '"' = some ⟨.text false [], stack⟩ :=
    step_expecting expects rfl (by decide)
  rw [toList_quote, List.cons_append, run_cons, opened, List.append_assoc]
  exact run_text false s

theorem run_key (s : String) (expects : before = .key ∨ before = .firstKey) :
    run ⟨before, stack⟩ ((quote s).toList ++ rest) = run ⟨.colon s, stack⟩ rest := by
  have opened : step ⟨before, stack⟩ '"' = some ⟨.text true [], stack⟩ := by
    rcases expects with rfl | rfl <;> rfl
  rw [toList_quote, List.cons_append, run_cons, opened, List.append_assoc]
  exact run_text true s

/-! Containers. -/

/-- Spaces are passed over. -/
def Skips (m : Machine) : Prop := ∀ c, isSpace c → m.step c = some m

theorem Skips.run_append (skips : m.Skips) (spaces : ∀ c ∈ cs, isSpace c) :
    m.run (cs ++ rest) = m.run rest := by
  induction cs with
  | nil => rfl
  | cons c cs ih =>
    obtain ⟨space, spaces⟩ := List.forall_mem_cons.mp spaces
    rw [List.cons_append, run_cons, skips c space]
    exact ih spaces

theorem skips_next (stack : List Frame) : Skips ⟨.next, stack⟩ := by
  intro c space
  simp [step, stepPlain, space]

theorem isSpace_of_mem_indent {level : Nat} : ∀ c ∈ (indent level).toList, isSpace c := by
  intro c mem
  rw [indent, String.toList_ofList] at mem
  rw [List.eq_of_mem_replicate mem]
  rfl

/-- A kind of container: its brackets, where its items may stand, the first and the later ones,
the frame that they are put in, and what they are together. -/
structure Container (α : Type) where
  opening : String
  closing : String
  first : Mode
  later : Mode
  frame : List α → Frame
  value : List α → Json
  opens : ∀ before stack rest, before = .value ∨ before = .firstItem →
    run ⟨before, stack⟩ (opening.toList ++ rest) = run ⟨first, frame [] :: stack⟩ rest
  separates : ∀ read stack,
    step ⟨.next, frame read :: stack⟩ ',' = some ⟨later, frame read :: stack⟩
  closes : ∀ read stack rest, run ⟨.next, frame read :: stack⟩ (closing.toList ++ rest)
    = run (complete (value read.reverse) stack) rest
  closes_first : ∀ stack rest, run ⟨first, frame [] :: stack⟩ (closing.toList ++ rest)
    = run (complete (value []) stack) rest
  skips_first : ∀ stack, Skips ⟨first, stack⟩
  skips_later : ∀ stack, Skips ⟨later, stack⟩

/-- Arrays: values between square brackets. -/
def arrays : Container Json where
  opening := "["
  closing := "]"
  first := .firstItem
  later := .value
  frame := .items
  value := .array
  opens before stack rest expects := by rcases expects with rfl | rfl <;> rfl
  separates _ _ := rfl
  closes _ _ _ := rfl
  closes_first _ _ := rfl
  skips_first stack c space := by simp [step, stepPlain, space]
  skips_later stack c space := by simp [step, stepPlain, space]

/-- Objects: values with keys between braces. -/
def objects : Container (String × Json) where
  opening := "\x7b"
  closing := "\x7d"
  first := .firstKey
  later := .key
  frame := .fields
  value := .object
  opens before stack rest expects := by rcases expects with rfl | rfl <;> rfl
  separates _ _ := rfl
  closes _ _ _ := rfl
  closes_first _ _ := rfl
  skips_first stack c space := by simp [step, stepPlain, space]
  skips_later stack c space := by simp [step, stepPlain, space]

namespace Container

variable {α : Type} {write : α → String} {xs : List α}

/-- Reading what is written of an item, up to the character behind it, puts the item in the
frame. -/
def Adds (k : Container α) (written : String) (x : α) : Prop :=
  ∀ before read stack c rest, before = k.first ∨ before = k.later → isWordChar c = false →
    run ⟨before, k.frame read :: stack⟩ (written.toList ++ c :: rest)
      = run ⟨.next, k.frame (x :: read) :: stack⟩ (c :: rest)

theorem skips (k : Container α) (expects : before = k.first ∨ before = k.later) :
    Skips ⟨before, stack⟩ := by
  rcases expects with rfl | rfl
  · exact k.skips_first stack
  · exact k.skips_later stack

/-- Items on lines of their own, with commas between them, are put in the frame one by one. -/
theorem run_lines (k : Container α) (level : Nat) (x : α) (xs : List α)
    (adds : ∀ y ∈ x :: xs, k.Adds (write y) y) (read : List α)
    (expects : before = k.first ∨ before = k.later) :
    run ⟨before, k.frame read :: stack⟩ (",\n".toList.intercalate
        ((x :: xs).map fun y => (indent level).toList ++ (write y).toList) ++ '\n' :: rest)
      = run ⟨.next, k.frame ((x :: xs).reverse ++ read) :: stack⟩ ('\n' :: rest) := by
  induction xs generalizing x read before with
  | nil =>
    rw [List.map_singleton, List.intercalate_singleton, List.append_assoc,
      (k.skips expects).run_append isSpace_of_mem_indent,
      adds x (List.mem_singleton_self x) before read stack '\n' rest expects rfl]
    rfl
  | cons y ys ih =>
    obtain ⟨first, others⟩ := List.forall_mem_cons.mp adds
    rw [List.map_cons, List.map_cons, List.intercalate_cons_cons, List.append_assoc,
      List.append_assoc, List.append_assoc, (k.skips expects).run_append isSpace_of_mem_indent]
    change run ⟨before, k.frame read :: stack⟩ ((write x).toList ++ ',' :: '\n' :: _) = _
    rw [first before read stack ',' _ expects rfl, run_cons, k.separates, Option.bind_some,
      run_cons, k.skips_later _ '\n' rfl, Option.bind_some]
    refine (ih y others (x :: read) (.inr rfl)).trans ?_
    rw [List.reverse_cons (a := x), List.append_assoc, List.singleton_append]

theorem run_block (k : Container α) (level : Nat) (adds : ∀ x ∈ xs, k.Adds (write x) x)
    (expects : before = .value ∨ before = .firstItem) :
    run ⟨before, stack⟩ ((block k.opening k.closing level (xs.map write)).toList ++ rest)
      = run (complete (k.value xs) stack) rest := by
  cases xs with
  | nil =>
    change run ⟨before, stack⟩ ((k.opening ++ k.closing).toList ++ rest) = _
    rw [String.toList_append, List.append_assoc, k.opens before stack _ expects, k.closes_first]
  | cons x xs =>
    have written : (block k.opening k.closing level ((x :: xs).map write)).toList ++ rest =
        k.opening.toList ++ '\n' :: (",\n".toList.intercalate
          ((x :: xs).map fun y => (indent (level + 1)).toList ++ (write y).toList) ++
            '\n' :: ((indent level).toList ++ (k.closing.toList ++ rest))) := by
      rw [block, if_neg (by simp)]
      simp only [String.toList_append, String.toList_intercalate, List.map_map,
        Function.comp_def, List.append_assoc]
      rfl
    rw [written, k.opens before stack _ expects, run_cons, k.skips_first _ '\n' rfl,
      Option.bind_some, k.run_lines (level + 1) x xs adds [] (.inl rfl), run_cons,
      skips_next _ '\n' rfl, Option.bind_some, (skips_next _).run_append isSpace_of_mem_indent,
      k.closes, List.append_nil, List.reverse_reverse]

end Container

end Machine

/-! Values. -/

open Machine (arrays objects run_writes run_quote run_key run_cons)

theorem prettyAll_eq_map (level : Nat) (items : List Json) :
    prettyAll level items = items.map (pretty level) := by
  induction items with
  | nil => rfl
  | cons item items ih => rw [prettyAll, ih, List.map_cons]

theorem prettyFields_eq_map (level : Nat) (fields : List (String × Json)) :
    prettyFields level fields =
      fields.map fun (name, value) => quote name ++ ": " ++ pretty level value := by
  induction fields with
  | nil => rfl
  | cons field fields ih => rw [prettyFields, ih, List.map_cons]

/-- A written value is read as that value by the first character behind it. -/
theorem run_pretty {v : Json} (whole : v.Whole) (level : Nat) {before : Mode}
    (expects : before = .value ∨ before = .firstItem) {c : Char} (ends : isWordChar c = false)
    (stack : List Frame) (rest : List Char) :
    Machine.run ⟨before, stack⟩ ((pretty level v).toList ++ c :: rest)
      = (Machine.complete v stack).run (c :: rest) := by
  induction whole generalizing level before c stack rest with
  | null =>
    rw [pretty]
    exact run_writes ⟨⟨'n', rfl, rfl⟩, List.all_eq_true.mp rfl, rfl⟩ expects ends
  | bool b =>
    cases b with
    | true =>
      rw [pretty]
      exact run_writes ⟨⟨'t', rfl, rfl⟩, List.all_eq_true.mp rfl, rfl⟩ expects ends
    | false =>
      rw [pretty]
      exact run_writes ⟨⟨'f', rfl, rfl⟩, List.all_eq_true.mp rfl, rfl⟩ expects ends
  | integer n =>
    rw [pretty]
    exact run_writes (writes_integer n) expects ends
  | string s =>
    rw [pretty]
    exact run_quote s expects
  | array _ ih =>
    rw [pretty, prettyAll_eq_map]
    refine arrays.run_block level ?_ expects
    intro item mem before read stack c rest expects ends
    exact ih item mem (level + 1) expects.symm ends _ rest
  | object _ ih =>
    rw [pretty, prettyFields_eq_map]
    refine objects.run_block level ?_ expects
    rintro ⟨name, value⟩ mem before read stack c rest expects ends
    have keyed : ((quote name ++ ": " ++ pretty (level + 1) value).toList ++ c :: rest) =
        (quote name).toList ++ ':' :: ' ' :: ((pretty (level + 1) value).toList ++ c :: rest) := by
      simp only [String.toList_append, List.append_assoc]
      rfl
    refine (congrArg _ keyed).trans ((run_key name expects.symm).trans ?_)
    exact ih (name, value) mem (level + 1) (.inl rfl) ends _ rest

theorem parse?_pretty {v : Json} (whole : v.Whole) : parse? (pretty 0 v ++ "\n") = some v := by
  have read : Machine.start.run (pretty 0 v ++ "\n").toList = some ⟨.finished v, []⟩ := by
    rw [String.toList_append]
    exact (run_pretty whole 0 (.inl rfl) rfl [] []).trans rfl
  rw [parse?, read]
  rfl

end SwiftStyle.Json
