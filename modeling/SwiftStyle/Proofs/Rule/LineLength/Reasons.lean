import SwiftStyle.Proofs.Rule.LineLength.Ladder
import SwiftStyle.Proofs.Rule.LineLength.Reports

/-!
Whether the rule for line lengths contradicts itself. It always quotes its first limit, while a line
may be too long for the second one alone. So what it says is right for all texts exactly if the
second limit is not below the first; a configuration that changes only one of them can put them the
wrong way round.
-/

namespace SwiftStyle

/-! Numbers that are read off a text. -/

variable {m n : Nat} {xs ys : List Char}

theorem takeWhile_toDigits_append (n : Nat) (other : xs.takeWhile Char.isDigit = []) :
    (Nat.toDigits 10 n ++ xs).takeWhile Char.isDigit = Nat.toDigits 10 n := by
  have digits : ∀ d ∈ Nat.toDigits 10 n, d.isDigit = true := fun d mem =>
    Nat.isDigit_of_mem_toDigits (by decide) (by decide) mem
  rw [List.takeWhile_append_of_pos digits, other, List.append_nil]

theorem toDigits_append_inj (same : Nat.toDigits 10 m ++ xs = Nat.toDigits 10 n ++ ys)
    (other : xs.takeWhile Char.isDigit = []) (other' : ys.takeWhile Char.isDigit = []) :
    m = n ∧ xs = ys := by
  have digits := congrArg (List.takeWhile Char.isDigit) same
  rw [takeWhile_toDigits_append m other, takeWhile_toDigits_append n other'] at digits
  have numbers := congrArg (Nat.ofDigitChars 10 · 0) digits
  simp only [Nat.ofDigitChars_ten_toDigits] at numbers
  rw [digits] at same
  exact ⟨numbers, List.append_cancel_left same⟩

/-! Texts of one line of slashes. -/

namespace Text

theorem segments_append_newline {body : List Char} (free : '\n' ∉ body) (rest : List Char) :
    segments (body ++ '\n' :: rest) = (body ++ ['\n']) :: segments rest := by
  induction body with
  | nil =>
    obtain ⟨piece, pieces, cut⟩ := List.exists_cons_of_ne_nil (segments_ne_nil rest)
    simp only [List.nil_append, segments, cut, if_true]
  | cons c body ih =>
    obtain ⟨differs, free⟩ := List.ne_and_not_mem_of_not_mem_cons free
    simp only [List.cons_append, segments, ih free, Ne.symm differs, if_false]

/-- After a slash another one starts a cluster of its own. -/
theorem Cluster.countFrom_slashes (n : Nat) :
    countFrom ⟨some .other, false, .none, .none⟩ (List.replicate n '/') = n := by
  induction n with
  | zero => rfl
  | succ n ih =>
    have first : classify '/' = .other := by decide
    rw [List.replicate_succ, countFrom, first]
    exact (congrArg (1 + ·) ih).trans (Nat.add_comm 1 n)

theorem Cluster.count_slashes (n : Nat) : count (List.replicate n '/') = n := by
  cases n with
  | zero => rfl
  | succ n =>
    have first : classify '/' = .other := by decide
    rw [count, List.replicate_succ, countFrom, first]
    exact (congrArg (1 + ·) (countFrom_slashes n)).trans (Nat.add_comm 1 n)

end Text

namespace LineLength

variable {first rule : LineLength} {file : SourceFile} {v : Violation}

theorem toList_reason (limit length : Nat) : (reason limit length).toList =
    "Line should be ".toList ++ (Nat.toDigits 10 limit ++
      (" characters or less: currently ".toList ++ (Nat.toDigits 10 length ++
        " characters".toList))) := by
  unfold reason
  simp only [String.toList_append, Nat.toString_eq_repr, Nat.toList_repr, List.append_assoc]
  rfl

/-- What is said of a line tells the limit and the length. -/
theorem reason_inj {limit limit' length length' : Nat}
    (same : reason limit length = reason limit' length') : limit = limit' ∧ length = length' := by
  have characters := congrArg String.toList same
  rw [toList_reason, toList_reason, List.append_right_inj] at characters
  obtain ⟨limits, rest⟩ := toDigits_append_inj characters rfl rfl
  rw [List.append_right_inj] at rest
  obtain ⟨lengths, -⟩ := toDigits_append_inj rest rfl rfl
  exact ⟨limits, lengths⟩

theorem lines_slashes (n : Nat) :
    Text.lines (slashes n).toList = [⟨1, 0, List.replicate n '/'⟩] := by
  have free : '\n' ∉ List.replicate n '/' := by simp
  have chomped : Text.chomp (List.replicate n '/' ++ ['\n']) = List.replicate n '/' := by
    rw [Text.chomp_newline, Text.dropReturn, if_neg]
    intro last
    exact absurd (List.mem_of_getLast? last) (by simp)
  rw [slashes, String.toList_ofList, Text.lines, Text.segments_append_newline free,
    Text.linesFrom_cons_of_ne_nil (.inr (Text.segments_ne_nil [])), chomped]
  rfl

/-- A file of one line of slashes, in which nothing is declared. -/
def slashFile (n : Nat) : SourceFile where
  path := none
  text := slashes n
  parser _ := .ok ⟨⟨.sourceFile, none, 0, 0, .unspecified, none, [], []⟩, []⟩

variable {line : Text.Line} {lowest t : Threshold Nat} {rest : List (Threshold Nat)}

theorem TellsOf.reason_eq (tells : rule.TellsOf file line v)
    (ladder : rule.thresholds = lowest :: rest) :
    v.reason = reason lowest.value (length line) := by
  obtain ⟨lowest', rest', ladder', quoted⟩ := tells.quoted
  rw [ladder] at ladder'
  obtain ⟨rfl, rfl⟩ := List.cons.inj ladder'
  exact quoted

theorem exists_tellsOf_mem (ordered : Threshold.Ordered rule.thresholds)
    (inside : line ∈ Text.lines file.text.toList) (mem : t ∈ rule.thresholds)
    (exceeded : t.value < length line) :
    ∃ v ∈ rule.violations file, rule.TellsOf file line v := by
  obtain ⟨v, tells⟩ : ∃ v, rule.TellsOf file line v :=
    (exists_tellsOf_iff ordered).mpr ⟨t, mem, exceeded⟩
  exact ⟨v, (mem_violations_iff ordered).mpr ⟨line, inside, tells⟩, tells⟩

/-- A line of slashes of any length that exceeds some limit is reported with that length. -/
theorem exists_violation_slashFile (ordered : Threshold.Ordered rule.thresholds)
    (ladder : rule.thresholds = lowest :: rest) (mem : t ∈ rule.thresholds) (n : Nat)
    (exceeded : t.value < n) :
    ∃ v ∈ rule.violations (slashFile n), v.reason = reason lowest.value n := by
  have measured : length ⟨1, 0, List.replicate n '/'⟩ = n := Text.Cluster.count_slashes n
  have inside : ⟨1, 0, List.replicate n '/'⟩ ∈ Text.lines (slashFile n).text.toList := by
    rw [slashFile, lines_slashes]
    exact List.mem_singleton_self _
  obtain ⟨v, reported, tells⟩ := exists_tellsOf_mem ordered inside mem (by rwa [measured])
  refine ⟨v, reported, ?_⟩
  rw [tells.reason_eq ladder, measured]

/-- Why a violation may quote a limit and a length: the length is over the first limit, or else it
is only over a second limit below the first. -/
inductive Justifies (rule : LineLength) (v : Violation) (limit n : Nat) : Prop
  | longer {severity : Severity} {rest : List (Threshold Nat)} :
      rule.thresholds = ⟨severity, limit⟩ :: rest → limit < n → Justifies rule v limit n
  | between {severity : Severity} {second : Nat} :
      rule.thresholds = [⟨severity, limit⟩, ⟨.error, second⟩] → second < n → n ≤ limit →
      v.severity = .error → Justifies rule v limit n

theorem TellsOf.justifies (tells : rule.TellsOf file line v)
    (ladder : IsLadder rule.thresholds) :
    ∃ limit, v.reason = reason limit (length line) ∧ rule.Justifies v limit (length line) := by
  obtain ⟨t, mem, exceeded, severity, -⟩ := tells.graded
  obtain ⟨lowest, rest, split, quoted⟩ := tells.quoted
  refine ⟨lowest.value, quoted, ?_⟩
  rcases Nat.lt_or_ge lowest.value (length line) with longer | shorter
  · exact .longer split longer
  · rw [split] at ladder mem
    cases ladder with
    | single =>
      obtain rfl := List.mem_singleton.mp mem
      omega
    | double _ limit =>
      rcases List.mem_pair.mp mem with rfl | rfl
      · omega
      · exact .between split exceeded shorter severity

/-- A line that is too long only for a second limit below the first is reported as an error. -/
theorem exists_violation_between (ordered : Threshold.Ordered rule.thresholds)
    (inside : line ∈ Text.lines file.text.toList) {severity : Severity} {limit second : Nat}
    (split : rule.thresholds = [⟨severity, limit⟩, ⟨.error, second⟩])
    (exceeded : second < length line) (within : length line ≤ limit) :
    ∃ v ∈ rule.violations file, v.severity = .error ∧
      v.location = file.located (.line line.number) ∧ v.reason = reason limit (length line) := by
  have last : ⟨.error, second⟩ ∈ rule.thresholds := by simp [split]
  obtain ⟨v, reported, tells⟩ := exists_tellsOf_mem ordered inside last exceeded
  have quoted := tells.reason_eq split
  refine ⟨v, reported, ?_, tells.location, quoted⟩
  obtain ⟨t, mem, exceeds, graded, -⟩ := tells.graded
  rw [split] at mem
  rcases List.mem_pair.mp mem with rfl | rfl
  · exact absurd within (Nat.not_le_of_lt exceeds)
  · exact graded

theorem ascending_of_reasons_hold (ladder : IsLadder rule.thresholds)
    (holds : ∀ file, ∀ v ∈ rule.violations file, ∀ limit n, v.reason = reason limit n → limit < n) :
    rule.thresholds.Pairwise fun t u => t.value ≤ u.value := by
  generalize split : rule.thresholds = thresholds at ladder
  cases ladder with
  | single lowest => exact List.pairwise_singleton _ _
  | double lowest limit =>
    apply List.pairwise_pair.mpr
    -- a line exactly as long as the first limit is over the second alone
    by_contra descends
    have ordered : Threshold.Ordered rule.thresholds := split ▸ (IsLadder.double lowest limit).ordered
    have second : ⟨.error, limit⟩ ∈ rule.thresholds := by simp [split]
    obtain ⟨v, mem, quoted⟩ :=
      exists_violation_slashFile ordered split second lowest.value (Nat.lt_of_not_le descends)
    exact Nat.lt_irrefl _ (holds _ v mem _ _ quoted)

/-- However the rule is configured, each violation quotes the first limit, and a length that is over
that or only over a second limit below it; such a line is always reported, as an error. The rule
never contradicts itself exactly if the limits do not descend. -/
theorem reasons_hold_unless_descending (new : first.IsNew)
    (reached : Reached configure first rule) :
    (∀ file, ∀ v ∈ rule.violations file, (∃ limit n, v.reason = reason limit n) ∧
      ∀ limit n, v.reason = reason limit n →
        (∃ line ∈ Text.lines file.text.toList, length line = n) ∧ rule.Justifies v limit n) ∧
    (∀ severity limit second, rule.thresholds = [⟨severity, limit⟩, ⟨.error, second⟩] →
      ∀ file, ∀ line ∈ Text.lines file.text.toList, second < length line → length line ≤ limit →
        ∃ v ∈ rule.violations file, v.severity = .error ∧
          v.location = file.located (.line line.number) ∧
          v.reason = reason limit (length line)) ∧
    ((∀ file, ∀ v ∈ rule.violations file, ∀ limit n, v.reason = reason limit n → limit < n) ↔
      rule.thresholds.Pairwise fun t u => t.value ≤ u.value) := by
  have ladder := isLadder_of_reached new reached
  have justified (file : SourceFile) (v : Violation) (mem : v ∈ rule.violations file) :
      ∃ line ∈ Text.lines file.text.toList, ∃ limit,
        v.reason = reason limit (length line) ∧ rule.Justifies v limit (length line) := by
    obtain ⟨line, inside, tells⟩ := (mem_violations_iff ladder.ordered).mp mem
    exact ⟨line, inside, tells.justifies ladder⟩
  refine ⟨?_, ?_, ascending_of_reasons_hold ladder, ?_⟩
  · intro file v mem
    obtain ⟨line, inside, limit, quoted, justifies⟩ := justified file v mem
    refine ⟨⟨limit, _, quoted⟩, fun limit' n quoted' => ?_⟩
    obtain ⟨rfl, rfl⟩ := reason_inj (quoted.symm.trans quoted')
    exact ⟨⟨line, inside, rfl⟩, justifies⟩
  · intro severity limit second split file line inside exceeded within
    exact exists_violation_between ladder.ordered inside split exceeded within
  · intro ascending file v mem limit n quoted
    obtain ⟨line, -, limit', quoted', justifies⟩ := justified file v mem
    obtain ⟨rfl, rfl⟩ := reason_inj (quoted'.symm.trans quoted)
    cases justifies with
    | longer _ exceeded => exact exceeded
    | between split exceeded =>
      rw [split] at ascending
      have below := List.pairwise_pair.mp ascending
      exact Nat.lt_of_le_of_lt below exceeded

theorem reasons_hold_raisedTogether : IsNew (ofLimits 40 80) ∧
    ∃ rule, Reached configure (ofLimits 40 80) rule ∧
      (ofLimits 40 80).configure ⟨some .error, [("error", .integer 90), ("warning", .integer 60)]⟩
        = .ok rule ∧
      ∀ file, ∀ v ∈ rule.violations file, ∀ limit n, v.reason = reason limit n → limit < n := by
  have new : IsNew (ofLimits 40 80) := .ofLimits 40 80
  have accepted : (ofLimits 40 80).configure
      ⟨some .error, [("error", .integer 90), ("warning", .integer 60)]⟩
        = .ok ⟨[⟨.error, 60⟩, ⟨.error, 90⟩]⟩ := by decide
  have reached : Reached configure (ofLimits 40 80) _ := .step .start accepted
  refine ⟨new, _, reached, accepted, ?_⟩
  apply (reasons_hold_unless_descending new reached).2.2.mpr
  exact List.pairwise_pair.mpr (by decide)

/-- An error limit below the default of 100 leaves that as the quoted limit. -/
theorem reason_contradicts_loweredError : IsNew .default ∧
    ∃ rule, Reached configure .default rule ∧
      LineLength.default.configure ⟨none, [("error", .integer 50)]⟩ = .ok rule ∧
      rule.violations (slashFile 60) =
        [⟨info.reporter, .error, ⟨none, .line 1⟩, reason 100 60⟩] ∧
      ¬100 < 60 := by
  have accepted : LineLength.default.configure ⟨none, [("error", .integer 50)]⟩
      = .ok ⟨[⟨.warning, 100⟩, ⟨.error, 50⟩]⟩ := by decide
  refine ⟨.default, _, .step .start accepted, accepted, ?_, by decide⟩
  decide +kernel

end LineLength

end SwiftStyle
