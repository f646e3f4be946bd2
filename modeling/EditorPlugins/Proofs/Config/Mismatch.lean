import EditorPlugins.Config.Schema
import EditorPlugins.Proofs.Config.Shape
import EditorPlugins.Proofs.Json.Reader

/-! # Mismatches that cannot be reported

Of the mismatches in a document one is reported, which takes three things: each of them has a
wording, the keys of places that are equally far out have an order, and the place that is reported
can be named. In a JSON document keys are texts and numbers are short, so all three are given.
-/

namespace EditorPlugins.Config

open Value

/-- The place of a mismatch is made of texts, and its value was read from JSON. -/
structure Mismatch.IsPlain (mismatch : Mismatch) : Prop where
  place : ∀ key ∈ mismatch.place, ∃ name, key = .text name
  value : IsTree Json.IsRead mismatch.value

end EditorPlugins.Config
