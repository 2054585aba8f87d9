import ModuleReadme.Proofs.Controller.Positions
import ModuleReadme.Proofs.Text.Lines
import ModuleReadme.Proofs.Text.Passing

/-!
# The annotation that counts

Whether an annotation counts can be told from its own text: behind the opening parenthesis comes a
literal, and no closing parenthesis in front of it (`IsAnnotationOf`). An annotation that does not
count is passed over, even if it begins further to the left. So the mapping of a line, the base path
of a header and the HTTP method that a line names are each given by the first position at which
something stands that counts (`annotation_isFirst`).
-/

namespace ModuleReadme.Controller

open Text

variable {m m' : Mapping} {text header lit lit' : List Char} {line : Line} {method : HttpMethod}

/-!
## Annotations

What counts is said of the text from a position on. It is matched at the front of that text, and the
search over all positions then is the same for everything that is looked for.
-/

def Mapping.annotationName : Mapping → String
  | .get => "GetMapping"
  | .post => "PostMapping"
  | .put => "PutMapping"
  | .delete => "DeleteMapping"
  | .patch => "PatchMapping"
  | .request => "RequestMapping"

/-- An annotation stands at the front of a text, and `lit` is the text between the first two quotes
among its arguments. No closing parenthesis comes before the first quote; between the quotes and
behind them there may be any. -/
inductive IsAnnotationOf (m : Mapping) (lit : List Char) : List Char → Prop
  | intro {skipped rest : List Char} {q q' : Char} (hskipped : ∀ c ∈ skipped, c ∉ [')', '"', '\''])
      (hq : q ∈ ['"', '\'']) (hlit : ∀ c ∈ lit, c ∉ ['"', '\'']) (hq' : q' ∈ ['"', '\'']) :
      IsAnnotationOf m lit
        ('@' :: (m.annotationName.toList ++ '(' :: (skipped ++ q :: (lit ++ q' :: rest))))

/-- An annotation with a route stands at the front of a text. An empty literal is no route. -/
def IsRoute : Mapping × List Char → List Char → Prop
  | (m, route), text => IsAnnotationOf m route text ∧ route ≠ []

/-- A constant that names an HTTP method stands at the front of a text, and the name ends there. -/
inductive IsConstant (method : HttpMethod) : List Char → Prop
  | intro {rest : List Char} (hend : ∀ c ∈ rest.head?, isWord c = false) :
      IsConstant method ("RequestMethod.".toList ++ (method.name.toList ++ rest))

/-- The HTTP method that an annotation on a line declares. The general one declares what the first
constant of the line names, wherever on the line that is. -/
inductive Declares (line : Line) : Mapping → HttpMethod → Prop
  | get : Declares line .get .get
  | post : Declares line .post .post
  | put : Declares line .put .put
  | delete : Declares line .delete .delete
  | patch : Declares line .patch .patch
  | request {method : HttpMethod} (h : IsFirstOr .get IsConstant method line) :
      Declares line .request method

/-- A text through the end of the first line that declares a class, or the whole text if there is no
such line. -/
inductive IsHeader (header : List Char) : List Char → Prop
  | whole (h : ∀ line ∈ lines header, isClassDeclaration line = false) : IsHeader header header
  | through {above : List Line} {declaration : Line} {rest : List Char}
      (hlines : lines header = above ++ [declaration])
      (habove : ∀ line ∈ above, isClassDeclaration line = false)
      (hclass : isClassDeclaration declaration = true) (hrest : ∀ c ∈ rest.head?, c = '\n') :
      IsHeader header (header ++ rest)

theorem isQuote_iff {c : Char} : isQuote c = true ↔ c ∈ ['"', '\''] := by
  simp [isQuote]

/-- A literal among the arguments is one that no parenthesis and no quote comes before. -/
theorem argumentLiteral?_eq_some_iff {arguments : List Char} :
    argumentLiteral? arguments = some lit ↔
      ∃ skipped q q' rest, (∀ c ∈ skipped, c ∉ [')', '"', '\'']) ∧ q ∈ ['"', '\''] ∧
        (∀ c ∈ lit, c ∉ ['"', '\'']) ∧ q' ∈ ['"', '\''] ∧
        arguments = skipped ++ q :: (lit ++ q' :: rest) := by
  have hplain : ∀ c, isQuote c = false ↔ c ∉ ['"', '\''] := by
    intro c
    rw [← isQuote_iff, Bool.not_eq_true]
  simp only [argumentLiteral?, Option.map_eq_some_iff, Prod.exists, exists_and_right,
    exists_eq_right, literal?_eq_some_iff, isQuote_iff, hplain]
  -- What is skipped is named, so that the test for it stays folded.
  generalize hp : (fun c => !(c == ')' || isQuote c)) = p
  have hskip : ∀ c, p c = true ↔ c ∉ [')', '"', '\''] := by
    intro c
    simp [← hp, isQuote]
  constructor
  · rintro ⟨rest, q, q', hq, hq', hlit, htext⟩
    refine ⟨arguments.takeWhile p, q, q', rest, ?_, hq, hlit, hq', ?_⟩
    · exact fun c hc => (hskip c).mp (List.mem_takeWhile_imp hc)
    · rw [← List.cons_append, ← htext, List.takeWhile_append_dropWhile]
  · rintro ⟨skipped, q, q', rest, hskipped, hq, hlit, hq', rfl⟩
    have hstop : ¬ p q = true := fun h => (hskip q).mp h (List.mem_cons_of_mem _ hq)
    refine ⟨rest, q, q', hq, hq', hlit, ?_⟩
    rw [List.dropWhile_append_of_pos fun c hc => (hskip c).mpr (hskipped c hc),
      List.dropWhile_cons_of_neg hstop, List.cons_append]

theorem opening_append (m : Mapping) (arguments : List Char) :
    m.opening ++ arguments = '@' :: (m.annotationName.toList ++ '(' :: arguments) := by
  cases m <;> rfl

theorem literalOf?_eq_some_iff : m.literalOf? text = some lit ↔ IsAnnotationOf m lit text := by
  simp only [Mapping.literalOf?, Option.bind_eq_some_iff, after?_eq_some_iff,
    argumentLiteral?_eq_some_iff, opening_append]
  constructor
  · rintro ⟨_, rfl, skipped, q, q', rest, hskipped, hq, hlit, hq', rfl⟩
    exact .intro hskipped hq hlit hq'
  · rintro ⟨hskipped, hq, hlit, hq'⟩
    exact ⟨_, rfl, _, _, _, _, hskipped, hq, hlit, hq', rfl⟩

/-- No annotation begins like another one. -/
theorem eq_of_opening_isPrefix (h : m.opening <+: m'.opening) : m = m' := by
  revert h
  cases m <;> cases m' <;> decide

theorem IsAnnotationOf.opening_isPrefix (h : IsAnnotationOf m lit text) : m.opening <+: text := by
  obtain ⟨-, -, -, -⟩ := h
  rw [← opening_append]
  exact List.prefix_append ..

/-- At the front of a text stands one annotation at most. -/
theorem IsAnnotationOf.unique (h : IsAnnotationOf m lit text) (h' : IsAnnotationOf m' lit' text) :
    m = m' ∧ lit = lit' := by
  have hm : m = m' := by
    rcases List.prefix_or_prefix_of_prefix h.opening_isPrefix h'.opening_isPrefix with hle | hle
    · exact eq_of_opening_isPrefix hle
    · exact (eq_of_opening_isPrefix hle).symm
  subst hm
  rw [← literalOf?_eq_some_iff] at h h'
  exact ⟨rfl, Option.some.inj (h.symm.trans h')⟩

theorem here?_eq_some_iff {found : Mapping × List Char} :
    Mapping.here? text = some found ↔ IsRoute found text := by
  -- What the search makes of one annotation that it tries.
  have htried : ∀ m m' lit, ((m.literalOf? text).filter (!·.isEmpty)).map (m, ·) = some (m', lit) ↔
      m = m' ∧ IsRoute (m, lit) text := by
    intro m m' lit
    simp only [Option.map_eq_some_iff, Option.filter_eq_some_iff, literalOf?_eq_some_iff, IsRoute,
      Prod.mk.injEq]
    constructor
    · rintro ⟨_, ⟨h, hne⟩, rfl, rfl⟩
      exact ⟨rfl, h, by simpa using hne⟩
    · rintro ⟨rfl, h, hne⟩
      exact ⟨lit, ⟨h, by simpa using hne⟩, rfl, rfl⟩
  obtain ⟨m, lit⟩ := found
  have hall : m ∈ Mapping.all := by
    cases m <;> decide
  rw [Mapping.here?, findSome?_eq_some_iff_of_unique]
  · simp only [htried]
    constructor
    · rintro ⟨_, -, rfl, h⟩
      exact h
    · intro h
      exact ⟨m, hall, rfl, h⟩
  · -- Only one annotation has an answer, so that it does not matter in which order they are tried.
    rintro m - m' - ⟨_, lit⟩ ⟨_, lit'⟩ h h'
    obtain ⟨rfl, h, -⟩ := (htried ..).mp h
    obtain ⟨rfl, h', -⟩ := (htried ..).mp h'
    obtain ⟨rfl, rfl⟩ := h.unique h'
    rfl

/-!
## HTTP methods

No name begins like another one, so it does not matter in which order the names are tried.
-/

/-- No method has a name that begins like the name of another one. -/
theorem eq_of_name_isPrefix {method method' : HttpMethod}
    (h : method.name.toList <+: method'.name.toList) : method = method' := by
  revert h
  cases method <;> cases method' <;> decide

theorem namedMethod?_eq_some_iff :
    namedMethod? text = some method ↔
      ∃ rest, (∀ c ∈ rest.head?, isWord c = false) ∧ text = method.name.toList ++ rest := by
  -- The test that the names are put to.
  obtain ⟨p, hp, hnamed⟩ : ∃ p : HttpMethod → Bool,
      namedMethod? text = [HttpMethod.get, .post, .put, .delete, .patch].find? p ∧
        ∀ method, p method = true ↔
          ∃ rest, (∀ c ∈ rest.head?, isWord c = false) ∧ text = method.name.toList ++ rest := by
    refine ⟨_, rfl, fun method => ?_⟩
    simp only [← after?_eq_some_iff]
    cases after? method.name.toList text with
    | none => simp
    | some rest => cases rest <;> simp
  have hall : ∀ method, method ∈ [HttpMethod.get, .post, .put, .delete, .patch] := by
    intro method
    cases method <;> decide
  rw [hp, List.find?_eq_findSome?_guard, findSome?_eq_some_iff_of_unique]
  · simp only [Option.guard_eq_some_iff, hnamed]
    constructor
    · rintro ⟨_, -, rfl, h⟩
      exact h
    · intro h
      exact ⟨method, hall method, rfl, h⟩
  · intro method _ method' _ found found' hfound hfound'
    obtain ⟨rfl, h⟩ := Option.guard_eq_some_iff.mp hfound
    obtain ⟨rfl, h'⟩ := Option.guard_eq_some_iff.mp hfound'
    obtain ⟨rest, -, hrest⟩ := (hnamed method).mp h
    obtain ⟨rest', -, hrest'⟩ := (hnamed method').mp h'
    rcases List.prefix_or_prefix_of_prefix ⟨rest, hrest.symm⟩ ⟨rest', hrest'.symm⟩ with hle | hle
    · exact eq_of_name_isPrefix hle
    · exact (eq_of_name_isPrefix hle).symm

theorem declares_iff : m.method line = method ↔ Declares line m method := by
  have hconstant : ∀ {here method}, ((after? "RequestMethod.".toList here).bind namedMethod?) =
      some method ↔ IsConstant method here := by
    intro here method
    simp only [Option.bind_eq_some_iff, after?_eq_some_iff, namedMethod?_eq_some_iff]
    constructor
    · rintro ⟨_, rfl, rest, hend, rfl⟩
      exact .intro hend
    · rintro ⟨hend⟩
      exact ⟨_, rfl, _, hend, rfl⟩
  constructor
  · rintro rfl
    cases m with
    | get => exact .get
    | post => exact .post
    | put => exact .put
    | delete => exact .delete
    | patch => exact .patch
    | request => exact .request ((getD_leftmost_eq_iff hconstant).mp rfl)
  · rintro (_ | _ | _ | _ | _ | h)
    case request => exact (getD_leftmost_eq_iff hconstant).mpr h
    all_goals rfl

/-!
## Headers

The header is cut off at a line and joined again. It is the beginning of the text, and what follows
begins with the line feed behind the class declaration.
-/

/-- The base path depends on the lines through the class declaration only. -/
theorem headerOf_congr {text' : List Char} {n : Nat}
    (hn : (lines text).findIdx? isClassDeclaration = some n)
    (htake : (lines text').take (n + 1) = (lines text).take (n + 1)) :
    headerOf text' = headerOf text := by
  have hn' : (lines text').findIdx? isClassDeclaration = some n := by
    rw [← List.take_append_drop (n + 1) (lines text'), htake, List.findIdx?_append,
      List.findIdx?_take, hn]
    simp
  simp only [headerOf, hn, hn', htake]

theorem isHeader_iff : IsHeader header text ↔ headerOf text = header := by
  constructor
  · -- From the shape of the text to the cut.
    rintro (hnone | @⟨above, declaration, rest, hlines, habove, hclass, hrest⟩)
    · rw [headerOf, List.findIdx?_eq_none_iff.mpr hnone]
    · -- What follows the header begins a new line, so that the declaration keeps its line.
      obtain ⟨below, hbelow⟩ : ∃ below, lines (header ++ rest) = above ++ declaration :: below := by
        cases rest with
        | nil => exact ⟨[], by rw [List.append_nil, hlines]⟩
        | cons c rest =>
            obtain rfl := hrest c rfl
            refine ⟨lines rest, ?_⟩
            rw [lines, List.splitOn_append_cons_self, ← lines, hlines, List.append_assoc]
            rfl
      have hn : (lines (header ++ rest)).findIdx? isClassDeclaration = some above.length := by
        rw [hbelow, List.findIdx?_append, List.findIdx?_eq_none_iff.mpr habove,
          List.findIdx?_cons, hclass]
        simp
      rw [headerOf, hn]
      simp only
      rw [hbelow, ← List.singleton_append, ← List.append_assoc, List.take_left' (by simp), ← hlines,
        unlines_lines]
  · -- From the cut to the shape: the lines that are taken, joined again, begin the text.
    rintro rfl
    cases hn : (lines text).findIdx? isClassDeclaration with
    | none =>
        simp only [headerOf, hn]
        exact .whole (List.findIdx?_eq_none_iff.mp hn)
    | some n =>
        -- The lines through the declaration are not none, so that joined again they can be told
        -- from what follows.
        obtain ⟨hlt, hclass, habove⟩ := List.findIdx?_eq_some_iff_getElem.mp hn
        have htake : (lines text).take (n + 1) = (lines text).take n ++ [(lines text)[n]] :=
          List.take_succ_eq_append_getElem hlt
        have hne : (lines text).take (n + 1) ≠ [] := by
          rw [htake]
          exact List.append_ne_nil_of_right_ne_nil _ (List.cons_ne_nil _ _)
        have hfeed : ∀ l ∈ (lines text).take (n + 1), '\n' ∉ l := fun l hl =>
          not_mem_of_mem_lines (List.mem_of_mem_take hl)
        obtain ⟨rest, htext, hrest⟩ :=
          exists_eq_unlines_append (List.take_append_drop (n + 1) (lines text)).symm hne
        have habove : ∀ line ∈ (lines text).take n, isClassDeclaration line = false := by
          intro line hline
          obtain ⟨i, hi, rfl⟩ := List.mem_take_iff_getElem.mp hline
          simpa using habove i (by omega)
        simp only [headerOf, hn]
        conv_rhs => rw [htext]
        exact .through ((lines_unlines hfeed hne).trans htake) habove hclass hrest

/-!
## Lines and controllers

The search for an annotation runs over a line for a mapping, and over the whole header for the base
path. So a base path may have line feeds in it, and a route has none.
-/

theorem basePathOf_eq_iff {base : List Char} :
    basePathOf header = base ↔ IsFirstOr [] (IsAnnotationOf .request) base header :=
  getD_leftmost_eq_iff literalOf?_eq_some_iff

/-- A line is taken for the first annotation with a route on it, and the method is the one that this
annotation declares. The base path of a controller is the literal of the first general annotation in
the header, and what follows below the class declaration has no influence on it. -/
theorem annotation_isFirst :
    (∀ line m route, Mapping.ofLine? line = some (m, route) ↔ IsFirst IsRoute (m, route) line) ∧
    (∀ line, Mapping.ofLine? line = none ↔
      ∀ found front here, line = front ++ here → ¬ IsRoute found here) ∧
    (∀ line m method, m.method line = method ↔ Declares line m method) ∧
    (∀ name text, isMarked text.toList = true → ∃ c header, ofText? name text = some c ∧
      (∀ header', IsHeader header' text.toList ↔ header' = header) ∧
      ∀ base, c.basePath = String.ofList base ↔
        IsFirstOr [] (IsAnnotationOf .request) base header) ∧
    ∀ name name' text text' c c' n, ofText? name text = some c → ofText? name' text' = some c' →
      (lines text.toList).findIdx? isClassDeclaration = some n →
      (lines text'.toList).take (n + 1) = (lines text.toList).take (n + 1) →
      c'.basePath = c.basePath := by
  refine ⟨fun line m route => ?_, fun line => ?_, fun line m method => declares_iff, ?_, ?_⟩
  · -- Line, method and base path are each an instance of the search for the first position.
    exact leftmost_eq_some_iff here?_eq_some_iff
  · exact leftmost_eq_none_iff_forall here?_eq_some_iff
  · intro name text hmarked
    obtain ⟨c, hc⟩ := ofText?_of_isMarked name hmarked
    refine ⟨c, headerOf text.toList, hc, fun header' => isHeader_iff.trans eq_comm, fun base => ?_⟩
    rw [basePath_ofText? hc, String.ofList_inj, basePathOf_eq_iff]
  · intro name name' text text' c c' n hc hc' hn htake
    rw [basePath_ofText? hc, basePath_ofText? hc', headerOf_congr hn htake]

/-- Of the three annotations on the line the first has no literal and the second an empty one. The
base path runs over two lines. -/
theorem annotation_isFirst_over_lines :
    let line := "@GetMapping() @PutMapping('') @RequestMapping('/a)\", RequestMethod.POST)".toList
    let text := "@Controller\n@RequestMapping(\n\"/a\nb')\nclass A"
    let text' := text ++ "\n@RequestMapping(\"/c\")"
    IsFirst IsRoute (.request, "/a)".toList) line ∧ Declares line .request .post ∧
      isMarked text.toList = true ∧ isMarked text'.toList = true ∧
      (lines text.toList).findIdx? isClassDeclaration = some 4 ∧
      (lines text'.toList).take 5 = (lines text.toList).take 5 ∧
      ∃ c c' header, ofText? "A" text = some c ∧ ofText? "A" text' = some c' ∧
        IsHeader header text.toList ∧ IsFirstOr [] (IsAnnotationOf .request) "/a\nb".toList header ∧
        c'.basePath = c.basePath := by
  intro line text text'
  -- The theorem turns each statement into the evaluation of a search.
  obtain ⟨hroute, -, hdeclares, hbase, hbelow⟩ := annotation_isFirst
  have hmarked : isMarked text.toList = true := by decide
  have hmarked' : isMarked text'.toList = true := by decide
  have hn : (lines text.toList).findIdx? isClassDeclaration = some 4 := by decide +kernel
  have htake : (lines text'.toList).take 5 = (lines text.toList).take 5 := by decide
  obtain ⟨c, header, hc, hheader, hfirst⟩ := hbase "A" text hmarked
  obtain ⟨c', -, hc', -⟩ := hbase "A" text' hmarked'
  have hpath : c.basePath = String.ofList "/a\nb".toList := by
    rw [basePath_ofText? hc, String.ofList_inj]
    decide +kernel
  exact ⟨(hroute ..).mp (by decide), (hdeclares ..).mp (by decide +kernel), hmarked, hmarked', hn,
    htake, c, c', header, hc, hc', (hheader header).mpr rfl, (hfirst _).mp hpath,
    hbelow _ _ _ _ _ _ _ hc hc' hn htake⟩

end ModuleReadme.Controller
