import ModuleReadme.Proofs.Readme.Rereading
import ModuleReadme.Readme.Document

/-!
# Texts made from what is known

Where a README needs a text that nobody wrote, it is made from names, paths and parameters. Here it
is said which characters such a text can hold.
-/

namespace ModuleReadme.Readme

/-!
## The texts of example requests

The URL of an example request holds nothing but what the base URL, the path and the parameters of
the endpoint hold, and the characters that join them (`not_mem_url`). The command that sends it has
the URL between double quotes. If there is none in the URL, these are the only ones, and the second
one ends the command (`quotes_curl`).
-/

section

variable {a : Appearance} {e : Endpoint} {c : Char}

/-! ### Parts of a URL -/

theorem not_mem_intercalate {separator : List Char} (hseparator : c ∉ separator)
    {l : List (List Char)} (h : ∀ s ∈ l, c ∉ s) : c ∉ separator.intercalate l := by
  induction l with
  | nil => simp
  | cons s l ih =>
      have hs : c ∉ s := h s List.mem_cons_self
      have hl := ih fun r hr => h r (List.mem_cons_of_mem s hr)
      rcases l with - | ⟨r, l⟩
      · simpa using hs
      · rw [List.intercalate_cons_cons]
        simp [hs, hseparator, hl]

/-- The name of an HTTP method is made of capital letters. -/
theorem isUpper_of_mem_name {m : HttpMethod} (h : c ∈ m.name.toList) : c.isUpper = true := by
  have hall : m.name.toList.all Char.isUpper = true := by cases m <;> decide
  exact List.all_eq_true.mp hall c h

/-- A character that is in none of the parts of a URL is not in the URL, unless it joins them. -/
theorem not_mem_url (hjoin : c ∉ ['?', '&', '=']) (hbase : c ∉ a.baseUrl.toList)
    (hpath : c ∉ e.path.toList)
    (hparameters : ∀ q ∈ e.parameters, c ∉ q.name.toList ∧ c ∉ q.defaultValue.toList) :
    c ∉ (a.url e).toList := by
  simp only [List.mem_cons, List.not_mem_nil, or_false, not_or] at hjoin
  obtain ⟨hmark, hand, hequals⟩ := hjoin
  have hquery : c ∉ "&".toList.intercalate
      (e.parameters.map fun q => (q.name ++ "=" ++ q.defaultValue).toList) := by
    refine not_mem_intercalate (by simpa using hand) ?_
    intro s hs
    obtain ⟨q, hq, rfl⟩ := List.mem_map.mp hs
    simp [hparameters q hq, hequals]
  unfold Appearance.url
  split
  · -- No parameters, and no question mark.
    simp [hbase, hpath]
  · simpa [hbase, hpath, hmark, Function.comp_def] using hquery

/-! ### Commands -/

/-- A command is a text without double quotes and then the URL between two of them. -/
theorem exists_curl_eq (a : Appearance) (e : Endpoint) :
    ∃ front, '"' ∉ front ∧ (a.curl e).toList = front ++ '"' :: (a.url e).toList ++ ['"'] := by
  have hname : '"' ∉ (a.method e).name.toList := fun h =>
    absurd (isUpper_of_mem_name h) (by decide)
  unfold Appearance.curl
  split
  · exact ⟨"curl ".toList, by decide, by simp⟩
  · exact ⟨"curl -X ".toList ++ (a.method e).name.toList ++ [' '], by simp [hname], by simp⟩

/-- If there is no double quote in the URL, those around it are the only ones in the command. -/
theorem quotes_curl (h : '"' ∉ (a.url e).toList) :
    (a.curl e).toList.count '"' = 2 ∧ (a.curl e).toList.getLast? = some '"' := by
  obtain ⟨front, hfront, hcurl⟩ := exists_curl_eq a e
  rw [hcurl]
  constructor
  · simp [List.count_append, List.count_eq_zero_of_not_mem hfront,
      List.count_eq_zero_of_not_mem h]
  · exact List.getLast?_concat

end

/-!
## Descriptions made from the names of controllers

A module whose README gives no description gets one that is made from its name or from the names of
its controllers. Whatever the names are, this is a description that is read back from the README.
-/

variable {p : Profile}

theorem not_mem_toDigits (n : Nat) : '\n' ∉ Nat.toDigits 10 n := by
  intro h
  have hdigit : ('\n').isDigit = true := Nat.isDigit_of_mem_toDigits (by decide) (by decide) h
  exact absurd hdigit (by decide)

end ModuleReadme.Readme
