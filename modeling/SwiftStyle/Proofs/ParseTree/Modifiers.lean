import Mathlib.Data.List.Chain
import SwiftStyle.Proofs.ParseTree.Containment
import SwiftStyle.Proofs.ParseTree.Members

/-!
Modifiers in any order. What stands before the keyword of a declaration is cut into parts; each part
adds to the modifiers what it says on its own, whatever stands around it, and the keyword ends the
reading. The word for classes is the exception: to be told from the keyword of a class it has to
stand before another modifier or the keyword of a member.
-/

namespace SwiftStyle

namespace Modifiers

/-- A part of what stands before the keyword of a declaration. -/
inductive Part where
  | attr (token : Token)
  | plain (token : Token)
  | classWord (token : Token)
  /-- A modifier with parentheses behind it, which concerns the setter alone. -/
  | forSetter (modifier opening : Token) (inside : List Token) (closing : Token)

namespace Part

def tokens : Part → List Token
  | attr token | plain token | classWord token => [token]
  | forSetter modifier opening inside closing => modifier :: opening :: (inside ++ [closing])

/-- What the tokens of a part have to be. -/
def Reads (source : List Char) : Part → Prop
  | attr token => token.kind = .attr ∧ word source token ≠ "("
  | plain token => token.kind = .keyword ∧ word source token ∈ words
  | classWord token => token.kind = .keyword ∧ word source token = "class"
  | forSetter modifier opening inside closing =>
    modifier.kind = .keyword ∧ word source modifier ∈ words ∧ word source opening = "(" ∧
      (∀ token ∈ inside, word source token ≠ ")") ∧ word source closing = ")"

instance (source : List Char) : (part : Part) → Decidable (part.Reads source)
  | attr token => inferInstanceAs (Decidable (token.kind = .attr ∧ word source token ≠ "("))
  | plain token => inferInstanceAs (Decidable (token.kind = .keyword ∧ word source token ∈ words))
  | classWord token =>
    inferInstanceAs (Decidable (token.kind = .keyword ∧ word source token = "class"))
  | forSetter modifier opening inside closing =>
    inferInstanceAs (Decidable (modifier.kind = .keyword ∧ word source modifier ∈ words ∧
      word source opening = "(" ∧ (∀ token ∈ inside, word source token ≠ ")") ∧
      word source closing = ")"))

def visibility? (source : List Char) : Part → Option Access
  | plain token => Access.ofKeyword? (word source token)
  | _ => Option.none

def isStatic (source : List Char) : Part → Bool
  | plain token => word source token == "static"
  | _ => false

def isClass : Part → Bool
  | classWord _ => true
  | _ => false

/-- Whether a part starts with one of the words for modifiers. -/
def startsWithModifier : Part → Bool
  | plain _ | forSetter _ _ _ _ => true
  | attr _ | classWord _ => false

def addTo (source : List Char) (m : Modifiers) : Part → Modifiers
  | attr _ | forSetter _ _ _ _ => m
  | plain token => m.add (word source token)
  | classWord _ => { m with isClass := true }

def lastVisibility? (source : List Char) (parts : List Part) : Option Access :=
  (parts.filterMap (visibility? source)).getLast?

end Part

theorem opening_not_mem_words : "(" ∉ words := by decide

theorem class_not_mem_words : "class" ∉ words := by decide

section

variable {source : List Char} {m : Modifiers} {token : Token} {rest : List Token}

theorem readFrom_attr (isAttribute : token.kind = .attr) :
    readFrom source m (token :: rest) = readFrom source m rest := by
  rw [readFrom, if_pos isAttribute]

theorem readFrom_plain (isKeyword : token.kind = .keyword) (listed : word source token ∈ words)
    (unscoped : nextWord source rest ≠ "(") :
    readFrom source m (token :: rest) = readFrom source (m.add (word source token)) rest := by
  have notClass : word source token ≠ "class" := fun same => class_not_mem_words (same ▸ listed)
  rw [readFrom]
  simp [isKeyword, notClass, listed, unscoped]

theorem readFrom_classWord (isKeyword : token.kind = .keyword)
    (isClass : word source token = "class")
    (modifies : classModifies (nextWord source rest) = true) :
    readFrom source m (token :: rest) = readFrom source { m with isClass := true } rest := by
  rw [readFrom]
  simp [isKeyword, isClass, modifies]

theorem readFrom_forSetter {opening closing : Token} {inside : List Token}
    (isKeyword : token.kind = .keyword) (listed : word source token ∈ words)
    (opens : word source opening = "(") (shut : ∀ t ∈ inside, word source t ≠ ")")
    (closes : word source closing = ")") :
    readFrom source m (token :: opening :: (inside ++ closing :: rest))
      = readFrom source m rest := by
  have notClass : word source token ≠ "class" := fun same => class_not_mem_words (same ▸ listed)
  have skipped : (opening :: (inside ++ closing :: rest)).dropWhile
      (fun t => decide (word source t ≠ ")")) = closing :: rest := by
    rw [List.dropWhile_cons_of_pos (by simp [opens]), List.dropWhile_append_of_pos
      (fun t ht => by simpa using shut t ht), List.dropWhile_cons_of_neg (by simp [closes])]
  rw [readFrom]
  simp only [isKeyword, notClass, nextWord, opens, List.head?_cons, Option.map_some,
    Option.getD_some, skipped, List.drop_succ_cons, List.drop_zero]
  simp [listed]

/-- A keyword that declares something. The one for classes has a name behind it, or at least
nothing that would make a modifier of it. -/
structure Declares (source : List Char) (keywords : List String) (keyword : Token)
    (rest : List Token) : Prop where
  isKeyword : keyword.kind = .keyword
  listed : word source keyword ∈ keywords
  named : word source keyword = "class" → ∀ next ∈ rest.head?,
    next.kind = .identifier ∨ classModifies (word source next) = false

theorem readFrom_of_not_mem_words (isKeyword : token.kind = .keyword)
    (unlisted : word source token ∉ words) (notClass : word source token ≠ "class") :
    readFrom source m (token :: rest) = m := by
  rw [readFrom]
  simp [isKeyword, unlisted, notClass]

/-- Past the keyword of a class nothing is read but, perhaps, that the word is there. -/
theorem readFrom_class (isKeyword : token.kind = .keyword)
    (isClass : word source token = "class") (named : ∀ next ∈ rest.head?,
      next.kind = .identifier ∨ classModifies (word source next) = false) :
    (readFrom source m (token :: rest)).visibility = m.visibility ∧
      (readFrom source m (token :: rest)).isStatic = m.isStatic := by
  by_cases modifies : classModifies (nextWord source rest) = true
  · rw [readFrom_classWord isKeyword isClass modifies]
    cases rest with
    | nil =>
      rw [readFrom]
      exact ⟨rfl, rfl⟩
    | cons next rest =>
      rcases named next rfl with isName | differs
      · rw [readFrom]
        simp [isName]
      · have clash : classModifies (word source next) = true := modifies
        rw [differs] at clash
        cases clash
  · rw [readFrom]
    simp [isKeyword, isClass, modifies]

end

namespace Part

variable {source : List Char} {m : Modifiers} {part : Part} {parts : List Part} {rest : List Token}

theorem nextWord_ne_opening (reads : part.Reads source) :
    nextWord source (part.tokens ++ rest) ≠ "(" := by
  cases part with
  | attr token => exact reads.2
  | plain token => exact fun same => opening_not_mem_words (same ▸ reads.2)
  | classWord token =>
    have isClass : nextWord source ([token] ++ rest) = "class" := reads.2
    rw [tokens, isClass]
    decide
  | forSetter modifier opening inside closing =>
    exact fun same => opening_not_mem_words (same ▸ reads.2.1)

theorem classModifies_nextWord (reads : part.Reads source)
    (starts : part.startsWithModifier = true) :
    classModifies (nextWord source (part.tokens ++ rest)) = true := by
  have listed : nextWord source (part.tokens ++ rest) ∈ words := by
    cases part with
    | attr token => cases starts
    | plain token => exact reads.2
    | classWord token => cases starts
    | forSetter modifier opening inside closing => exact reads.2.1
  rw [classModifies, List.contains_iff_mem.mpr listed, Bool.true_or]

/-- A part is read as a whole and adds what it says. -/
theorem readFrom_tokens (reads : part.Reads source) (unscoped : nextWord source rest ≠ "(")
    (followed : part.isClass = true → classModifies (nextWord source rest) = true) :
    readFrom source m (part.tokens ++ rest) = readFrom source (part.addTo source m) rest := by
  cases part with
  | attr token => exact readFrom_attr reads.1
  | plain token => exact readFrom_plain reads.1 reads.2 unscoped
  | classWord token => exact readFrom_classWord reads.1 reads.2 (followed rfl)
  | forSetter modifier opening inside closing =>
    obtain ⟨isKeyword, listed, opens, shut, closes⟩ := reads
    rw [tokens, List.cons_append, List.cons_append, List.append_assoc]
    exact readFrom_forSetter isKeyword listed opens shut closes

/-- Parts are read one after the other, as long as the word for classes stands before a modifier
or at the end. -/
theorem readFrom_flatMap (reads : ∀ part ∈ parts, part.Reads source)
    (chained : parts.IsChain fun p q => p.isClass = true → q.startsWithModifier = true)
    (unscoped : nextWord source rest ≠ "(")
    (followed : ∀ part ∈ parts, part.isClass = true → classModifies (nextWord source rest) = true) :
    readFrom source m (parts.flatMap tokens ++ rest)
      = readFrom source (parts.foldl (addTo source) m) rest := by
  induction parts generalizing m with
  | nil => rfl
  | cons part parts ih =>
    obtain ⟨first, others⟩ := List.forall_mem_cons.mp reads
    obtain ⟨last, lasts⟩ := List.forall_mem_cons.mp followed
    rw [List.flatMap_cons, List.append_assoc, List.foldl_cons]
    -- what a part needs of the tokens behind it is to be had from the next part
    cases parts with
    | nil => exact readFrom_tokens first unscoped last
    | cons next parts =>
      obtain ⟨before, chained⟩ := List.isChain_cons_cons.mp chained
      have second := others next List.mem_cons_self
      rw [← ih others chained lasts, List.flatMap_cons, List.append_assoc]
      exact readFrom_tokens first (nextWord_ne_opening second) fun isClass =>
        classModifies_nextWord second (before isClass)

theorem lastVisibility?_cons (source : List Char) (part : Part) (parts : List Part) :
    lastVisibility? source (part :: parts)
      = (lastVisibility? source parts).or (part.visibility? source) := by
  unfold lastVisibility?
  cases spelled : part.visibility? source with
  | none => rw [List.filterMap_cons_none spelled, Option.or_none]
  | some access =>
    rw [List.filterMap_cons_some spelled, List.getLast?_cons]
    cases (parts.filterMap (visibility? source)).getLast? <;> rfl

theorem visibility_addTo (source : List Char) (m : Modifiers) (part : Part) :
    (part.addTo source m).visibility = (part.visibility? source).or m.visibility := by
  cases part <;> rfl

theorem visibility_foldl (source : List Char) (m : Modifiers) (parts : List Part) :
    (parts.foldl (addTo source) m).visibility
      = (lastVisibility? source parts).or m.visibility := by
  induction parts generalizing m with
  | nil => rfl
  | cons part parts ih =>
    rw [List.foldl_cons, ih, visibility_addTo, lastVisibility?_cons, Option.or_assoc]

theorem isStatic_foldl (source : List Char) (m : Modifiers) (parts : List Part) :
    (parts.foldl (addTo source) m).isStatic = (m.isStatic || parts.any (isStatic source)) := by
  induction parts generalizing m with
  | nil => simp
  | cons part parts ih =>
    rw [List.foldl_cons, ih, List.any_cons, ← Bool.or_assoc]
    congr 1
    cases part <;> simp [addTo, Modifiers.add, isStatic]

theorem isClass_foldl (source : List Char) (m : Modifiers) (parts : List Part) :
    (parts.foldl (addTo source) m).isClass = (m.isClass || parts.any isClass) := by
  induction parts generalizing m with
  | nil => simp
  | cons part parts ih =>
    rw [List.foldl_cons, ih, List.any_cons, ← Bool.or_assoc]
    congr 1
    cases part <;> simp [addTo, Modifiers.add, isClass]

end Part

/-- Tokens that start with parts and go on with a keyword that declares something. -/
structure Spells (source : List Char) (tokens : List Token) (keywords : List String)
    (parts : List Part) : Prop where
  reads : ∀ part ∈ parts, part.Reads source
  declares : ∃ keyword rest,
    tokens.filter (!·.isComment) = parts.flatMap Part.tokens ++ keyword :: rest ∧
    Declares source keywords keyword rest ∧
    ∀ part ∈ parts, part.isClass = true → word source keyword ∈ classMemberKeywords

/-- The parts say what the modifiers are, as long as no word for classes stands directly before an
attribute or before another one. -/
theorem Spells.read_eq {source : List Char} {tokens : List Token} {keywords : List String}
    {parts : List Part} (h : Spells source tokens keywords parts)
    (unlisted : ∀ keyword ∈ keywords, keyword ∉ words ∧ keyword ≠ "(")
    (chained : parts.IsChain fun p q => p.isClass = true → q.startsWithModifier = true) :
    (read source tokens).visibility = Part.lastVisibility? source parts ∧
      (read source tokens).isStatic = parts.any (Part.isStatic source) ∧
      ("class" ∉ keywords → (read source tokens).isClass = parts.any Part.isClass) := by
  obtain ⟨keyword, rest, opens, declares, member⟩ := h.declares
  obtain ⟨notModifier, notOpening⟩ := unlisted _ declares.listed
  have followed : ∀ part ∈ parts, part.isClass = true →
      classModifies (nextWord source (keyword :: rest)) = true := by
    intro part hpart isClass
    rw [classModifies, Bool.or_eq_true]
    exact .inr (List.contains_iff_mem.mpr (member part hpart isClass))
  have read_eq : read source tokens
      = readFrom source (parts.foldl (Part.addTo source) none) (keyword :: rest) := by
    rw [read, opens]
    exact Part.readFrom_flatMap h.reads chained notOpening followed
  -- the keyword of a class may be read as a modifier, but that is the last thing read
  by_cases isClass : word source keyword = "class"
  · obtain ⟨visibility, isStatic⟩ := readFrom_class declares.isKeyword isClass
      (declares.named isClass) (m := parts.foldl (Part.addTo source) none)
    rw [read_eq, visibility, isStatic, Part.visibility_foldl, Part.isStatic_foldl]
    exact ⟨Option.or_none, Bool.false_or _, fun unlisted => absurd (isClass ▸ declares.listed) unlisted⟩
  · rw [read_eq, readFrom_of_not_mem_words declares.isKeyword notModifier isClass,
      Part.visibility_foldl, Part.isStatic_foldl, Part.isClass_foldl]
    exact ⟨Option.or_none, Bool.false_or _, fun _ => Bool.false_or _⟩

end Modifiers

namespace ParseTree

open Modifiers

/-- The keywords that a node of some kind is declared with. -/
def declaringWords (kind : String) : List String :=
  if kind = "function_declaration" ∨ kind = "protocol_function_declaration" then ["func"]
  else if kind ∈ variableKinds then ["var", "let"]
  else if kind = "init_declaration" then ["init"]
  else if kind = "subscript_declaration" then ["subscript"]
  else if kind = "typealias_declaration" then ["typealias"]
  else if kind = "protocol_declaration" then ["protocol"]
  else if kind = "class_declaration" then ["class", "struct", "enum", "extension", "actor"]
  else []

theorem not_mem_words_of_mem_declaringWords {kind keyword : String}
    (h : keyword ∈ declaringWords kind) : keyword ∉ words ∧ keyword ≠ "(" := by
  have disjoint : ∀ known ∈ ["func", "var", "let", "init", "subscript", "typealias", "protocol",
      "class", "struct", "enum", "extension", "actor"], known ∉ words ∧ known ≠ "(" := by decide
  apply disjoint
  unfold declaringWords at h
  grind

theorem class_not_mem_declaringWords {kind : String} (h : kind ≠ "class_declaration") :
    "class" ∉ declaringWords kind := by
  unfold declaringWords
  grind

def methodKinds : List String := ["function_declaration", "protocol_function_declaration"]

theorem methodKinds_subset : methodKinds ⊆ functionKinds := by decide

theorem cases_of_mem_declaringWords {kind keyword : String} (h : keyword ∈ declaringWords kind) :
    kind ∈ typeKinds ∨ kind ∈ functionKinds ∨ kind ∈ variableKinds ∨
      kind = "typealias_declaration" := by
  unfold declaringWords at h
  simp only [typeKinds, functionKinds]
  grind

theorem kind_ne_of_mem_declaringWords {kind keyword : String} (h : keyword ∈ declaringWords kind) :
    kind ≠ "enum_entry" ∧ kind ≠ "ERROR" := by
  constructor
  · rintro rfl
    exact absurd h (by simp [declaringWords, variableKinds])
  · rintro rfl
    exact absurd h (by simp [declaringWords, variableKinds])

theorem memberKind_of_inType {scope : Scope} (inType : scope.inType = true) (modifiers : Modifiers)
    (free ofType ofClass ofInstance : DeclarationKind) :
    memberKind scope modifiers free ofType ofClass ofInstance
      = if modifiers.isStatic then ofType else if modifiers.isClass then ofClass
        else ofInstance := by
  simp [memberKind, inType]

theorem functionKind_of_mem_methodKinds {kind : String} (h : kind ∈ methodKinds) (scope : Scope)
    (modifiers : Modifiers) :
    functionKind scope modifiers kind
      = memberKind scope modifiers .freeFunction .staticMethod .classMethod .instanceMethod := by
  simp only [methodKinds, List.mem_cons, List.not_mem_nil, or_false] at h
  rcases h with rfl | rfl <;> rfl

/-- The access that a declaration spells no matter where, or else has from around it. A type has
nothing from around it. -/
def accessOf (node : ParseTree) (scope : Scope) (spelled : Option Access) : Access :=
  (spelled.or (if node.kind ∈ typeKinds then none else scope.memberAccess)).getD .internal

/-- The modifiers of a declaration are read in any order: the last visibility is its access, and
the words for static and class members are found wherever they stand. -/
theorem declaration_of_modifiers (source : Source) (scope : Scope) (node : ParseTree)
    (parts : List Part)
    (spelled : Spells source.text (source.tokensOf node) (declaringWords node.kind) parts)
    (chained : parts.IsChain fun p q => p.isClass = true → q.startsWithModifier = true) :
    ∃ d, declarations source scope node = [d] ∧
      d.access = accessOf node scope (Part.lastVisibility? source.text parts) ∧
      (scope.inType = true → node.kind ∈ methodKinds →
        d.kind = if parts.any (Part.isStatic source.text) then .staticMethod
          else if parts.any Part.isClass then .classMethod else .instanceMethod) ∧
      (scope.inType = true → node.kind ∈ variableKinds →
        d.kind = if parts.any (Part.isStatic source.text) then .staticVariable
          else if parts.any Part.isClass then .classVariable else .instanceVariable) := by
  obtain ⟨visibility, isStatic, isClass⟩ :=
    spelled.read_eq (fun _ => not_mem_words_of_mem_declaringWords) chained
  obtain ⟨keyword, rest, -, declares, -⟩ := spelled.declares
  have access (implied : Option Access) : accessWith (source.modifiersOf node) implied
      = ((Part.lastVisibility? source.text parts).or implied).getD .internal := by
    rw [accessWith, Source.modifiersOf, visibility]
  have kind (inType : scope.inType = true) (notType : node.kind ∉ typeKinds)
      (free ofType ofClass ofInstance : DeclarationKind) :
      memberKind scope (source.modifiersOf node) free ofType ofClass ofInstance
        = if parts.any (Part.isStatic source.text) then ofType
          else if parts.any Part.isClass then ofClass else ofInstance := by
    have notClass : node.kind ≠ "class_declaration" :=
      fun same => notType (by simp [same, typeKinds])
    rw [memberKind_of_inType inType, Source.modifiersOf, isStatic,
      isClass (class_not_mem_declaringWords notClass)]
  obtain ⟨d, made⟩ := exists_declarations_eq (cases_of_mem_declaringWords declares.listed)
  obtain ⟨notEntry, notError⟩ := kind_ne_of_mem_declaringWords declares.listed
  refine ⟨d, made, ?_, fun inType isMethod => ?_, fun inType isVariable => ?_⟩
  · rcases mem_declarations_cases notError (made ▸ List.mem_singleton_self d) with
      ⟨isType, rfl⟩ | ⟨notType, -, spelt⟩
    · rw [accessOf, if_pos isType]
      exact access none
    · rw [spelt, if_neg notEntry, accessOf, if_neg notType]
      exact access scope.memberAccess
  · have isFunction := methodKinds_subset isMethod
    have notType := not_mem_typeKinds node.kind (by simp [isFunction])
    rw [declarations_of_mem_functionKinds isFunction] at made
    obtain rfl := List.singleton_inj.mp made
    exact (functionKind_of_mem_methodKinds isMethod scope _).trans (kind inType notType _ _ _ _)
  · have notType := not_mem_typeKinds node.kind (by simp [isVariable])
    rw [declarations_of_mem_variableKinds isVariable] at made
    obtain rfl := List.singleton_inj.mp made
    exact kind inType notType _ _ _ _

/-- A variable of one letter with some modifiers in front. -/
def variableAfter (modifiers : ParseTree) : ParseTree :=
  let start := modifiers.stop + 1
  inner "property_declaration" 0 (start + 5) [modifiers,
    inner "value_binding_pattern" start (start + 3) [leaf "var" start (start + 3)],
    inner "simple_identifier" (start + 4) (start + 5) []]

/-- The tree of `@objc private(set) open class public var x`. -/
def mixedVariable : ParseTree :=
  variableAfter (inner "modifiers" 0 36 [inner "attribute" 0 5 [],
    inner "visibility_modifier" 6 18
      [leaf "private" 6 13, leaf "(" 13 14, leaf "set" 14 17, leaf ")" 17 18],
    inner "visibility_modifier" 19 23 [leaf "open" 19 23],
    inner "property_modifier" 24 29 [leaf "class" 24 29],
    inner "visibility_modifier" 30 36 [leaf "public" 30 36]])

def mixedParts : List Part :=
  [.attr ⟨.attr, 0, 5⟩,
    .forSetter ⟨.keyword, 6, 7⟩ ⟨.punctuation, 13, 1⟩ [⟨.keyword, 14, 3⟩] ⟨.punctuation, 17, 1⟩,
    .plain ⟨.keyword, 19, 4⟩, .classWord ⟨.keyword, 24, 5⟩, .plain ⟨.keyword, 30, 6⟩]

theorem declaration_of_modifiers_mixed :
    ∃ d, declarations (sourceOf "@objc private(set) open class public var x" mixedVariable)
        ⟨true, none, none⟩ mixedVariable = [d] ∧
      d.access = .public ∧ d.kind = .classVariable := by
  obtain ⟨d, made, access, -, kind⟩ := declaration_of_modifiers
    (sourceOf "@objc private(set) open class public var x" mixedVariable) ⟨true, none, none⟩
    mixedVariable mixedParts
    ⟨by decide +kernel, ⟨.keyword, 37, 3⟩, [⟨.identifier, 41, 1⟩], by decide +kernel,
      ⟨by decide, by decide +kernel, by decide +kernel⟩, by decide +kernel⟩
    (by simp [mixedParts, Part.isClass, Part.startsWithModifier])
  refine ⟨d, made, access.trans (by decide +kernel), (kind rfl (by decide)).trans ?_⟩
  decide +kernel

/-- The tree of `class @objc open var x`. -/
def attributedVariable : ParseTree :=
  variableAfter (inner "modifiers" 0 16
    [inner "property_modifier" 0 5 [leaf "class" 0 5], inner "attribute" 6 11 [],
      inner "visibility_modifier" 12 16 [leaf "open" 12 16]])

def attributedParts : List Part :=
  [.classWord ⟨.keyword, 0, 5⟩, .attr ⟨.attr, 6, 5⟩, .plain ⟨.keyword, 12, 4⟩]

/-- Before an attribute the word for classes ends the reading, and what comes later is lost. -/
theorem attribute_after_class_ends_reading :
    Spells "class @objc open var x".toList
        ((sourceOf "class @objc open var x" attributedVariable).tokensOf attributedVariable)
        (declaringWords attributedVariable.kind) attributedParts ∧
      Part.lastVisibility? "class @objc open var x".toList attributedParts = some .open ∧
      attributedParts.any Part.isClass = true ∧
      (declarations (sourceOf "class @objc open var x" attributedVariable) ⟨true, none, none⟩
        attributedVariable).map (fun d => (d.access, d.kind))
          = [(.internal, .instanceVariable)] :=
  ⟨⟨by decide +kernel, ⟨.keyword, 17, 3⟩, [⟨.identifier, 21, 1⟩], by decide +kernel,
      ⟨by decide, by decide +kernel, by decide +kernel⟩, by decide +kernel⟩,
    by decide +kernel, by decide, by decide +kernel⟩

end ParseTree

end SwiftStyle
