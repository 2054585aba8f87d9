import ModuleReadme.Text.Line
import ModuleReadme.Text.Search

/-!
# Dependency manifests

A `pom.xml` is searched for the ids of the module and of its dependencies. It is not parsed: an
artifact id is the text of an `<artifactId>` element without markup inside, and a dependency is a
stretch of text from `<dependency>` through an artifact id to the next `</dependency>`.
-/

namespace ModuleReadme

open Text

/-! ## Reading a manifest

The first artifact id is taken for that of the module, also where it stands in a parent or in a
dependency. An element that is empty or has markup inside is passed over. What a dependency begins
with is looked for from left to right, so a comment around it makes no difference.
-/

structure Manifest where
  /-- The first artifact id of the file. -/
  artifactId : Option String := none
  /-- The artifact ids of the dependencies, in the order of the file. -/
  dependencies : List String := []
  deriving DecidableEq, Repr

namespace Manifest

/-- The text of the artifact id at the front of a text, which may not be empty, and what follows
the element. -/
def idElement? (text : List Char) : Option (List Char × List Char) :=
  (after? "<artifactId>".toList text).bind fun inner =>
    if (inner.takeWhile (· != '<')).isEmpty then none
    else (after? "</artifactId>".toList (inner.dropWhile (· != '<'))).map
      (inner.takeWhile (· != '<'), ·)

def dependency? (text : List Char) : Option (List Char × List Char) :=
  (after? "<dependency>".toList text).bind fun inner =>
    -- This search does not stop where the dependency ends.
    (leftmost idElement? inner).bind fun (id, rest) =>
      (afterFirst? "</dependency>".toList rest).map (id, ·)

def artifactIdIn (text : List Char) : Option (List Char) :=
  (leftmost idElement? text).map fun (id, _) => trim id

/-- The artifact ids of the dependencies in a text, without blanks around them. -/
def dependenciesIn (text : List Char) : List (List Char) := (allMatches dependency? text).map trim

def ofText (text : String) : Manifest where
  artifactId := (artifactIdIn text.toList).map String.ofList
  dependencies := (dependenciesIn text.toList).map String.ofList

end Manifest

end ModuleReadme
