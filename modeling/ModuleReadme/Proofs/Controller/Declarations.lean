import ModuleReadme.Proofs.Controller.Arguments
import ModuleReadme.Proofs.Text.Passing

/-!
# Declared parameters

A text that declares parameters consists of annotations with other text between them
(`declaration`). Some of the annotations declare a parameter with a default value, the others one
without. The search finds just those with a default value, all of them and in order
(`parametersIn_declaration`): it takes such an annotation whole, whatever comes next
(`Defaulted.requestParam?_eq`), and begins no match inside of one without, so that none of these
takes the default value of a later one (`Undefaulted.requestParam?_eq_none`).
-/

namespace ModuleReadme.Controller

open Text

/-!
## Declarations

An annotation carries what it has to satisfy, so that no theorem about declarations needs a premise.
-/

def paramOpening : List Char := "@RequestParam(".toList

/-- Text between annotations, in which none begins. -/
structure Separator where
  text : List Char
  not_opening : ¬ paramOpening <:+: text

/-- An annotation with a name and a default value. The literals may hold closing parentheses.
Nothing in front of the name and nothing between name and default value looks like the beginning of
another one. -/
structure Defaulted where
  pre : List Char
  name : List Char
  nameArgument : List Char
  mid : List Char
  value : List Char
  valueArgument : List Char
  tail : List Char
  pre_open : ')' ∉ pre
  pre_words : ∀ word ∈ ["value".toList, "name".toList], ¬ word <:+: pre
  isArgument_name : IsArgument ["value".toList, "name".toList] name nameArgument
  mid_open : ')' ∉ mid
  mid_word : ¬ "defaultValue".toList <:+: mid
  isArgument_value : IsArgument ["defaultValue".toList] value valueArgument
  tail_open : ')' ∉ tail

/-- An annotation with a name as its only literal. The name stands there alone, or behind an equals
sign with its word, or behind anything else without quotes. -/
structure Undefaulted where
  lead : List Char
  quote : Char
  name : List Char
  quote' : Char
  tail : List Char
  lead_plain : ∀ c ∈ lead, c ≠ ')' ∧ isQuote c = false
  isQuote_quote : isQuote quote = true
  name_plain : ∀ c ∈ name, c ≠ ')' ∧ c ≠ '=' ∧ isQuote c = false
  isQuote_quote' : isQuote quote' = true
  tail_plain : ∀ c ∈ tail, c ≠ ')' ∧ isQuote c = false
  tail_word : ¬ "defaultValue".toList <:+: tail

inductive Annotation where
  | defaulted (a : Defaulted)
  | undefaulted (a : Undefaulted)

def Defaulted.text (a : Defaulted) : List Char :=
  paramOpening ++ (a.pre ++ (a.nameArgument ++ (a.mid ++ (a.valueArgument ++ (a.tail ++ [')'])))))

def Defaulted.parameter (a : Defaulted) : Parameter :=
  { name := String.ofList a.name, defaultValue := String.ofList a.value }

/-- What stands between the parentheses of an annotation. -/
def Undefaulted.arguments (a : Undefaulted) : List Char :=
  a.lead ++ a.quote :: (a.name ++ a.quote' :: a.tail)

def Undefaulted.text (a : Undefaulted) : List Char := paramOpening ++ (a.arguments ++ [')'])

namespace Annotation

def text : Annotation → List Char
  | defaulted a => a.text
  | undefaulted a => a.text

/-- The parameter with a default value that an annotation declares, if any. -/
def parameter? : Annotation → Option Parameter
  | defaulted a => some a.parameter
  | undefaulted _ => none

end Annotation

/-- A text with annotations, each with a separator in front, and a separator at the end. -/
def declaration (annotations : List (Separator × Annotation)) (last : Separator) : List Char :=
  annotations.flatMap (fun (s, a) => s.text ++ a.text) ++ last.text

variable {α : Type} {front here later rest tail value word : List Char}

/-!
## Searches through the arguments

A search up to the closing parenthesis finds a match if there is one in front of it. It does not
look whether the parenthesis is part of a literal, so literals come in where a match has begun.
-/

/-- Up to a closing parenthesis nothing is found if no match begins in front of it or there. -/
theorem beforeClose_eq_none {matcher : List Char → Option α}
    (h : ∀ later, later <:+ here → matcher (later ++ ')' :: rest) = none) :
    beforeClose matcher (here ++ ')' :: rest) = none := by
  induction here with
  | nil =>
      have hnone : matcher (')' :: rest) = none := h [] (List.suffix_refl _)
      rw [List.nil_append, beforeClose, hnone]
      rfl
  | cons c here ih =>
      have hnone := h (c :: here) (List.suffix_refl _)
      rw [List.cons_append] at hnone ⊢
      have hlater := ih fun later hlater => h later (hlater.trans (List.suffix_cons c here))
      rw [beforeClose, hnone, hlater]
      exact ite_self _

/-- Up to a closing parenthesis a match is found if none begins in front of it. -/
theorem beforeClose_append {matcher : List Char → Option α} {a : α} (hopen : ')' ∉ front)
    (h : matcher rest = some a)
    (hfirst : ∀ later, later <:+ front → later ≠ [] → matcher (later ++ rest) = none) :
    beforeClose matcher (front ++ rest) = some a := by
  rw [beforeClose_eq_firstThrough, firstThrough_eq_some_iff]
  refine ⟨front, rest, rfl, ?_, h, hfirst⟩
  intro c hc
  simpa using ne_of_mem_of_not_mem hc hopen

theorem afterFirst?_close (hopen : ')' ∉ tail) (rest : List Char) :
    afterFirst? [')'] (tail ++ ')' :: rest) = some rest :=
  afterFirst?_append (mt (List.singleton_infix_iff _ _).mp hopen) (by simp) rest

/-!
## Annotations with a default value

No match begins in the text in front of the name, since it holds none of the words. And none runs
over from there into the argument, whose first letter continues no word.
-/

/-- An argument begins like its word. -/
theorem IsArgument.head?_append {words : List (List Char)} (h : IsArgument words value front)
    (hwords : ∀ word ∈ words, word ≠ []) (rest : List Char) :
    ∃ word ∈ words, (front ++ rest).head? = word.head? := by
  obtain @⟨word, more, hword, -⟩ := h
  refine ⟨word, hword, ?_⟩
  rw [List.append_assoc, List.head?_append_of_ne_nil _ (hwords word hword)]

theorem defaultArgument?_append_eq_none (hne : later ≠ [])
    (hword : ¬ "defaultValue".toList <:+: later)
    (hrest : ∀ c ∈ rest.head?, c ∉ "efaultValue".toList) :
    defaultArgument? (later ++ rest) = none := by
  rw [defaultArgument?, after?_append_eq_none hne hword hrest]
  rfl

theorem nameArgument?_append_eq_none (hne : later ≠ [])
    (hwords : ∀ word ∈ ["value".toList, "name".toList], ¬ word <:+: later)
    (hrest : ∀ c ∈ rest.head?, c ∉ "alue".toList ∧ c ∉ "ame".toList) :
    nameArgument? (later ++ rest) = none := by
  have hvalue := hwords "value".toList (by decide)
  have hname := hwords "name".toList (by decide)
  rw [nameArgument?, afterOneOf?, List.findSome?_cons, List.findSome?_cons,
    after?_append_eq_none hne hvalue fun c hc => (hrest c hc).1,
    after?_append_eq_none hne hname fun c hc => (hrest c hc).2]
  rfl

/-- A name and behind it, in the same annotation, a default value. -/
def namedDefault? (here : List Char) : Option (Parameter × List Char) :=
  (nameArgument? here).bind fun (name, rest) =>
    (defaultAhead? rest).map fun (value, rest) =>
      ({ name := String.ofList name, defaultValue := String.ofList value }, rest)

theorem requestParam?_eq_bind (here : List Char) :
    requestParam? here = (after? paramOpening here).bind (beforeClose namedDefault?) :=
  rfl

namespace Defaulted

variable (a : Defaulted) (rest : List Char)

/-- Behind the name the default value is found, and the annotation ends at the next closing
parenthesis. -/
theorem defaultAhead?_eq :
    defaultAhead? (a.mid ++ (a.valueArgument ++ (a.tail ++ ')' :: rest))) =
      some (a.value, rest) := by
  have hhere : defaultArgument? (a.valueArgument ++ (a.tail ++ ')' :: rest)) =
      some (a.value, a.tail ++ ')' :: rest) :=
    defaultArgument?_eq_some_iff.mpr ⟨a.valueArgument, a.isArgument_value, rfl⟩
  refine beforeClose_append a.mid_open ?_ ?_
  · rw [hhere]
    simp only [Option.bind_some, afterFirst?_close a.tail_open, Option.map_some]
  · intro later hlater hne
    obtain ⟨word, hmem, hhead⟩ := a.isArgument_value.head?_append (by simp) (a.tail ++ ')' :: rest)
    obtain rfl := List.mem_singleton.mp hmem
    rw [defaultArgument?_append_eq_none hne (mt (·.trans hlater.isInfix) a.mid_word)]
    · rfl
    · rw [hhead]
      simp

/-- An annotation with a default value is taken whole, whatever follows it. -/
theorem requestParam?_eq : requestParam? (a.text ++ rest) = some (a.parameter, rest) := by
  have hname : nameArgument?
      (a.nameArgument ++ (a.mid ++ (a.valueArgument ++ (a.tail ++ ')' :: rest)))) =
        some (a.name, a.mid ++ (a.valueArgument ++ (a.tail ++ ')' :: rest))) :=
    nameArgument?_eq_some_iff.mpr ⟨a.nameArgument, a.isArgument_name, rfl⟩
  simp only [requestParam?_eq_bind, text, List.append_assoc, List.cons_append, List.nil_append,
    after?_append, Option.bind_some]
  refine beforeClose_append a.pre_open ?_ ?_
  · simp only [namedDefault?, hname, Option.bind_some, a.defaultAhead?_eq rest, Option.map_some,
      parameter]
  · intro later hlater hne
    obtain ⟨word, hmem, hhead⟩ := a.isArgument_name.head?_append (by simp)
      (a.mid ++ (a.valueArgument ++ (a.tail ++ ')' :: rest)))
    rw [namedDefault?, nameArgument?_append_eq_none hne
      fun word hmem => mt (·.trans hlater.isInfix) (a.pre_words word hmem)]
    · rfl
    · rw [hhead]
      rcases List.mem_pair.mp hmem with rfl | rfl <;> simp

end Defaulted

/-!
## Annotations without a default value

Such an annotation has one literal. Whatever is taken for a name among its arguments is this
literal, and behind it there is no default value in front of the closing parenthesis.
-/

/-- Between the word and the literal of an argument there is an equals sign, and no closing
parenthesis. -/
theorem IsArgument.mem_takeWhile {words : List (List Char)} (h : IsArgument words value front)
    (hwords : ∀ word ∈ words, ∀ c ∈ word, c ≠ ')' ∧ isQuote c = false) (rest : List Char) :
    '=' ∈ (front ++ rest).takeWhile (!isQuote ·) ∧
      ')' ∉ (front ++ rest).takeWhile (!isQuote ·) := by
  obtain ⟨word, hword, skipped, q, q', rfl, hequals, hskipped, hq, -, -⟩ := h.exists_skipped
  have hplain : ∀ c ∈ skipped, c ≠ ')' ∧ isQuote c = false := by
    intro c hc
    rcases hskipped c hc with hc | rfl | hc
    · exact hwords word hword c hc
    · decide
    · refine ⟨?_, not_isQuote_of_isBlank hc⟩
      rintro rfl
      exact absurd hc (by decide)
  have htake : (skipped ++ (q :: value ++ [q']) ++ rest).takeWhile (!isQuote ·) = skipped := by
    rw [List.append_assoc, List.takeWhile_append_of_pos fun c hc => by simp [hplain c hc],
      List.append_assoc, List.cons_append, List.takeWhile_cons_of_neg (by simp [hq]),
      List.append_nil]
  rw [htake]
  exact ⟨hequals, fun hclose => (hplain _ hclose).1 rfl⟩

/-- A text with a name argument in front begins with an equals sign before the first quote, and the
name is the first literal. -/
theorem takeWhile_of_nameArgument? {found : List Char × List Char}
    (h : nameArgument? here = some found) :
    '=' ∈ here.takeWhile (!isQuote ·) ∧ ')' ∉ here.takeWhile (!isQuote ·) ∧
      literal? (here.dropWhile (!isQuote ·)) = some found := by
  obtain ⟨front, hfront, rfl⟩ := nameArgument?_eq_some_iff.mp h
  obtain ⟨hequals, hclose⟩ := hfront.mem_takeWhile (by simp [isQuote]) found.2
  exact ⟨hequals, hclose, hfront.literal?_eq (by simp [isQuote]) found.2⟩

namespace Undefaulted

variable (a : Undefaulted)

/-- In the tail of an annotation there is no default value. -/
theorem defaultAhead?_eq_none : defaultAhead? (a.tail ++ ')' :: rest) = none := by
  refine beforeClose_eq_none fun later hlater => ?_
  have hnone : defaultArgument? (later ++ ')' :: rest) = none := by
    cases later with
    | nil => rfl
    | cons c later =>
        exact defaultArgument?_append_eq_none (List.cons_ne_nil c later)
          (mt (·.trans hlater.isInfix) a.tail_word) (by simp)
  rw [hnone]
  rfl

/-- What is found as a name among the arguments is the only literal. -/
theorem eq_of_nameArgument? {found : List Char × List Char} (hlater : later <:+ a.arguments)
    (h : nameArgument? (later ++ ')' :: rest) = some found) : found.2 = a.tail ++ ')' :: rest := by
  obtain ⟨hequals, hclose, hliteral⟩ := takeWhile_of_nameArgument? h
  have htail : ∀ c ∈ a.tail, (!isQuote c) = true := fun c hc => by simp [a.tail_plain c hc]
  have hname : ∀ c ∈ a.name, (!isQuote c) = true := fun c hc => by simp [a.name_plain c hc]
  have hlead : ∀ c ∈ a.lead, (!isQuote c) = true := fun c hc => by simp [a.lead_plain c hc]
  -- The match begins in the tail, in the literal or in front of it.
  rcases suffix_append_cons_cases hlater with hlater | ⟨last, hlast, rfl⟩
  · rcases suffix_append_cons_cases hlater with hlater | ⟨last, hlast, rfl⟩
    · -- Behind the literal the annotation is closed before the next quote.
      rw [List.takeWhile_append_of_pos fun c hc => htail c (hlater.subset hc),
        List.takeWhile_cons_of_pos (by decide)] at hclose
      exact absurd (List.mem_append_right _ List.mem_cons_self) hclose
    · -- Within the literal there is no equals sign.
      rw [List.append_assoc, List.takeWhile_append_of_pos fun c hc => hname c (hlast.subset hc),
        List.cons_append, List.takeWhile_cons_of_neg (by simp [a.isQuote_quote']),
        List.append_nil] at hequals
      exact absurd rfl (a.name_plain '=' (hlast.subset hequals)).2.1
  · have hfirst : literal? (a.quote :: a.name ++ a.quote' :: (a.tail ++ ')' :: rest)) =
        some (a.name, a.tail ++ ')' :: rest) :=
      literal?_eq_some_iff.mpr ⟨a.quote, a.quote', a.isQuote_quote, a.isQuote_quote',
        fun c hc => (a.name_plain c hc).2.2, rfl⟩
    rw [List.append_assoc, List.dropWhile_append_of_pos fun c hc => hlead c (hlast.subset hc),
      List.cons_append, List.dropWhile_cons_of_neg (by simp [a.isQuote_quote]), List.append_assoc,
      List.cons_append, ← List.cons_append, hfirst] at hliteral
    rw [← Option.some.inj hliteral]

/-- Among the arguments of an annotation without a default value nothing is found. -/
theorem beforeClose_arguments (hlater : later <:+ a.arguments) :
    beforeClose namedDefault? (later ++ ')' :: rest) = none := by
  refine beforeClose_eq_none fun here hhere => ?_
  cases hname : nameArgument? (here ++ ')' :: rest) with
  | none => rw [namedDefault?, hname, Option.bind_none]
  | some found =>
      have hfound := a.eq_of_nameArgument? (hhere.trans hlater) hname
      simp only [namedDefault?, hname, Option.bind_some, hfound, a.defaultAhead?_eq_none,
        Option.map_none]

/-- No match begins in an annotation without a default value, whatever follows it. -/
theorem requestParam?_eq_none (hlater : later <:+ a.text) (hne : later ≠ []) :
    requestParam? (later ++ rest) = none := by
  rw [text, ← List.append_assoc] at hlater
  rcases suffix_append_cons_cases hlater with hlater | ⟨last, hlast, rfl⟩
  · exact absurd (List.suffix_nil.mp hlater) hne
  · have hopening : ')' ∉ paramOpening := by decide
    rw [requestParam?_eq_bind, List.append_assoc, List.cons_append, List.nil_append,
      after?_append_cons hopening]
    -- No match begins behind the parenthesis, so one would have to begin with the annotation.
    cases hafter : after? paramOpening last with
    | none => rfl
    | some here =>
        rw [after?_eq_some_iff.mp hafter] at hlast
        have hlength := hlast.length_le
        simp only [List.length_append] at hlength
        have hhere : here <:+ a.arguments := List.suffix_of_suffix_length_le
          ((List.suffix_append paramOpening here).trans hlast)
          (List.suffix_append paramOpening a.arguments) (by omega)
        exact a.beforeClose_arguments hhere

end Undefaulted

/-!
## All annotations of a text

The induction is on the annotations. Each step passes a separator, in which nothing is found, and
then one annotation as a whole.
-/

/-- In a separator no annotation begins, and none that ends in what follows. -/
theorem Separator.parametersIn_append (s : Separator) (hrest : ∀ c ∈ rest.head?, c = '@') :
    parametersIn (s.text ++ rest) = parametersIn rest := by
  refine allMatches_append_of_none fun later hlater hne => ?_
  rw [requestParam?_eq_bind,
    after?_append_eq_none hne (mt (·.trans hlater.isInfix) s.not_opening), Option.bind_none]
  intro c hc
  rw [hrest c hc]
  decide

/-- An annotation yields its parameter, and the search goes on behind it. -/
theorem Annotation.parametersIn_append (a : Annotation) (rest : List Char) :
    parametersIn (a.text ++ rest) = a.parameter?.toList ++ parametersIn rest := by
  cases a with
  | defaulted a =>
      have hne : a.text ≠ [] := List.cons_ne_nil _ _
      exact allMatches_append_of_some hne (a.requestParam?_eq rest)
  | undefaulted a => exact allMatches_append_of_none fun _ => a.requestParam?_eq_none

theorem Annotation.head?_text_append (a : Annotation) (rest : List Char) :
    (a.text ++ rest).head? = some '@' := by
  cases a <;> rfl

theorem declaration_cons (s : Separator) (a : Annotation)
    (annotations : List (Separator × Annotation)) (last : Separator) :
    declaration ((s, a) :: annotations) last =
      s.text ++ (a.text ++ declaration annotations last) := by
  simp [declaration]

/-- The parameters that are found in a text are those that its annotations declare with a default
value, all of them, in order and as often as they are declared. -/
theorem parametersIn_declaration (annotations : List (Separator × Annotation)) (last : Separator) :
    parametersIn (declaration annotations last) = annotations.filterMap (·.2.parameter?) := by
  induction annotations with
  | nil =>
      have hlast : parametersIn (last.text ++ []) = parametersIn [] :=
        last.parametersIn_append (by simp)
      rw [declaration, List.flatMap_nil, List.nil_append, ← List.append_nil last.text, hlast,
        parametersIn, allMatches, List.filterMap_nil]
  | cons piece annotations ih =>
      obtain ⟨s, a⟩ := piece
      -- What comes next begins like an annotation, so that no match runs over from the separator.
      have hhead : ∀ c ∈ (a.text ++ declaration annotations last).head?, c = '@' := by
        simp [a.head?_text_append]
      rw [declaration_cons, s.parametersIn_append hhead, a.parametersIn_append, ih,
        List.filterMap_cons]
      cases a.parameter? <;> rfl

/-- The annotation `@RequestParam(value = "a)", defaultValue = '1')`. -/
def parenthesized : Defaulted where
  pre := []
  name := "a)".toList
  nameArgument := "value".toList ++ ([' '] ++ '=' :: ([' '] ++ '"' :: ("a)".toList ++ ['"'])))
  mid := ", ".toList
  value := "1".toList
  valueArgument :=
    "defaultValue".toList ++ ([' '] ++ '=' :: ([' '] ++ '\'' :: ("1".toList ++ ['\''])))
  tail := []
  pre_open := by decide
  pre_words := by decide
  isArgument_name := .intro (by decide)
    (.intro (List.forall_mem_singleton.mpr rfl) (List.forall_mem_singleton.mpr rfl) rfl rfl
      (by decide) (by simp [isQuote]))
  mid_open := by decide
  mid_word := by decide
  isArgument_value := .intro (by decide)
    (.intro (List.forall_mem_singleton.mpr rfl) (List.forall_mem_singleton.mpr rfl) rfl rfl
      (by decide) (by simp [isQuote]))
  tail_open := by decide

/-- The annotation `@RequestParam(name="b")`. -/
def nameOnly : Undefaulted where
  lead := "name=".toList
  quote := '"'
  name := "b".toList
  quote' := '"'
  tail := []
  lead_plain := by simp [isQuote]
  isQuote_quote := rfl
  name_plain := by simp [isQuote]
  isQuote_quote' := rfl
  tail_plain := by simp
  tail_word := by decide

/-- A parameter without a default value is passed over, and of two equal ones both are found. -/
theorem parametersIn_declaration_repeated :
    let text := "(@RequestParam(value = \"a)\", defaultValue = '1') String a, " ++
      "@RequestParam(name=\"b\") String b, " ++
      "@RequestParam(value = \"a)\", defaultValue = '1') String c)"
    (∃ annotations last, declaration annotations last = text.toList) ∧
      parametersIn text.toList =
        [{ name := "a)", defaultValue := "1" }, { name := "a)", defaultValue := "1" }] := by
  intro text
  let annotations : List (Separator × Annotation) :=
    [(⟨"(".toList, by decide⟩, .defaulted parenthesized),
      (⟨" String a, ".toList, by decide⟩, .undefaulted nameOnly),
      (⟨" String b, ".toList, by decide⟩, .defaulted parenthesized)]
  let last : Separator := ⟨" String c)".toList, by decide⟩
  have htext : declaration annotations last = text.toList := by decide +kernel
  have hfound := parametersIn_declaration annotations last
  rw [htext] at hfound
  exact ⟨⟨annotations, last, htext⟩, hfound⟩

end ModuleReadme.Controller
