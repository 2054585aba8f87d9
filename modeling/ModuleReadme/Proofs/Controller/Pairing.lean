import ModuleReadme.Proofs.Controller.Positions

/-!
# Mappings and their handlers

Each mapping line is paired with the first signature within reach below it, and yields one endpoint
if there is such a signature. Line by line this says everything about which endpoints are found and
in which order (`endpointLines_of_isMarked`): pairs never cross, mappings share a handler exactly if
no signature stands between them, and a mapping between another one and its handler has a handler,
too.
-/

namespace ModuleReadme.Controller

variable {text : List Char} {i j k l : Nat}

/-!
## Handler lines

The handler line of a mapping is the first signature below it. What is below two mappings is below
the upper one, so the lower one cannot have the earlier handler.
-/

/-- Handler lines come in the order of their mappings. -/
theorem IsHandlerLine.le_of_lt (hk : IsHandlerLine text i k) (hl : IsHandlerLine text j l)
    (hij : i < j) : k ≤ l := by
  by_contra hlt
  have hbelow := hl.below
  exact hk.first l (by omega) (by omega) hl.signature

/-- Two mappings share their handler exactly if no signature is below the first and not below the
second. -/
theorem IsHandlerLine.eq_iff (hk : IsHandlerLine text i k) (hl : IsHandlerLine text j l)
    (hij : i < j) : k = l ↔ ∀ m, i < m → m ≤ j → ¬ IsSignatureLine text m := by
  have hbelow := hl.below
  constructor
  · rintro rfl m him hmj
    exact hk.first m him (by omega)
  · intro hnone
    have hjk : j < k := by
      by_contra hkj
      exact hnone k hk.below (by omega) hk.signature
    have hkl := hk.le_of_lt hl hij
    by_contra hne
    exact hl.first k hjk (by omega) hk.signature

/-- The handler line of a mapping is in reach of every line between them. -/
theorem IsHandlerLine.reached_of_lt (hk : IsHandlerLine text i k) (hij : i < j) :
    k ≤ j + handlerReach := by
  have hreached := hk.reached
  omega

/-!
## The endpoints of a text

The lines that yield endpoints are filtered out of the numbers of all lines, so they are in order,
and each line yields one endpoint.
-/

/-- The endpoints of a text together with the lines that yield them. -/
structure EndpointLines (text : List Char) (emitted : List Nat) (endpoints : List Endpoint) :
    Prop where
  /-- The lines are in order, and none occurs twice. -/
  ordered : emitted.Pairwise (· < ·)
  /-- They are the mapping lines with a signature within reach. -/
  mem_iff : ∀ i, i ∈ emitted ↔
    IsMappingLine text i ∧ ∃ k, i < k ∧ k ≤ i + handlerReach ∧ IsSignatureLine text k
  /-- One by one they yield the endpoints, named after the first signature below them. -/
  paired : List.Forall₂ (fun i e => endpointAt? text i = some e ∧
    ∃ k, IsHandlerLine text i k ∧ signatureAt? text k = some e.handler.toList) emitted endpoints
  /-- Pairs of mappings and handlers do not cross, and meet only where no signature is between. -/
  monotone : ∀ i ∈ emitted, ∀ j ∈ emitted, i < j →
    ∀ k l, IsHandlerLine text i k → IsHandlerLine text j l →
      k ≤ l ∧ (k = l ↔ ∀ m, i < m → m ≤ j → ¬ IsSignatureLine text m)
  /-- A mapping between another one and its handler yields an endpoint, too. -/
  between : ∀ i ∈ emitted, ∀ k, IsHandlerLine text i k →
    ∀ j, IsMappingLine text j → i < j → j < k → j ∈ emitted

/-- The results of a function that answers for some elements only, each with its element. -/
theorem forall₂_filter_filterMap (f : α → Option β) (l : List α) :
    List.Forall₂ (fun a b => f a = some b) (l.filter fun a => (f a).isSome) (l.filterMap f) := by
  induction l with
  | nil => exact .nil
  | cons a l ih =>
      cases ha : f a with
      | none => simpa [ha] using ih
      | some b => simpa [ha] using ih

theorem exists_isHandlerLine_iff :
    (∃ k, IsHandlerLine text i k) ↔ ∃ k, i < k ∧ k ≤ i + handlerReach ∧ IsSignatureLine text k := by
  constructor
  · rintro ⟨k, hk⟩
    exact ⟨k, hk.below, hk.reached, hk.signature⟩
  · rintro ⟨k, hik, hk, hsig⟩
    exact exists_isHandlerLine hik hk hsig

/-- A line that yields an endpoint is a line of the text. -/
theorem lt_length_of_endpointAt? (h : (endpointAt? text i).isSome) :
    i < (Text.lines text).length := by
  obtain ⟨e, he⟩ := Option.isSome_iff_exists.mp h
  obtain ⟨line, -, -, -, -, hline, -⟩ := endpointAt?_eq_some_iff.mp he
  exact (List.getElem?_eq_some_iff.mp hline).1

/-- The endpoint of a line has the name on its handler line. -/
theorem handler_of_endpointAt? {e : Endpoint} (h : endpointAt? text i = some e) :
    ∃ k, IsHandlerLine text i k ∧ signatureAt? text k = some e.handler.toList := by
  obtain ⟨_, _, _, k, handler, -, -, hk, hname, rfl⟩ := endpointAt?_eq_some_iff.mp h
  exact ⟨k, hk, by simpa using hname⟩

/-- Every text with a marker gives a controller, whose endpoints come from the mapping lines with a
signature within reach: one from each, in their order, named after the first signature below. -/
theorem endpointLines_of_isMarked (name : String) {text : String}
    (h : isMarked text.toList = true) :
    ∃ c emitted, ofText? name text = some c ∧ EndpointLines text.toList emitted c.endpoints := by
  obtain ⟨c, hc⟩ := ofText?_of_isMarked name h
  let emitted := (List.range (Text.lines text.toList).length).filter
    fun i => (endpointAt? text.toList i).isSome
  have hmem : ∀ i, i ∈ emitted ↔ IsMappingLine text.toList i ∧
      ∃ k, i < k ∧ k ≤ i + handlerReach ∧ IsSignatureLine text.toList k := by
    intro i
    rw [← exists_isHandlerLine_iff, ← endpointAt?_isSome_iff, List.mem_filter, List.mem_range]
    exact ⟨fun hi => hi.2, fun hi => ⟨lt_length_of_endpointAt? hi, hi⟩⟩
  refine ⟨c, emitted, hc, ?_, hmem, ?_, ?_, ?_⟩
  · exact List.Pairwise.filter _ List.pairwise_lt_range
  · rw [endpoints_ofText? hc]
    refine (forall₂_filter_filterMap _ _).imp ?_
    intro i e he
    exact ⟨he, handler_of_endpointAt? he⟩
  · intro i _ j _ hij k l hk hl
    exact ⟨hk.le_of_lt hl hij, hk.eq_iff hl hij⟩
  · intro i _ k hk j hj hij hjk
    exact (hmem j).mpr ⟨hj, k, hjk, hk.reached_of_lt hij, hk.signature⟩

/-- Two mappings above one signature are both paired with it. -/
theorem endpointLines_shared_handler :
    let text :=
      "@RestController\nclass A\n@GetMapping(\"/a\")\n@PostMapping(\"/b\")\npublic String f()\n"
    isMarked text.toList = true ∧
      ∃ c emitted, ofText? "A" text = some c ∧ EndpointLines text.toList emitted c.endpoints := by
  intro text
  have h : isMarked text.toList = true := by decide
  exact ⟨h, endpointLines_of_isMarked "A" h⟩

end ModuleReadme.Controller
