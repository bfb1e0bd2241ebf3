import SwapDesk.Proofs.Json.Text
import SwapDesk.Proofs.Settings.Ini
import SwapDesk.Proofs.Settings.Json5
import SwapDesk.Proofs.Settings.Ron
import SwapDesk.Proofs.Settings.Toml
import SwapDesk.Proofs.Settings.Yaml

/-!
# Simple documents in every format

The same texts under the same names can be written down in each of the formats, and each reader
gives the same settings for them.
-/

namespace SwapDesk.Settings

namespace Format

/-- The entries as a file in a format. -/
def document (entries : List (String × String)) : Format → String
  | toml => .ofList (written " = \"" "\"\n" entries)
  | json => (Json.ofFields (fieldsOf entries)).render
  | yaml => .ofList (written ": \"" "\"\n" entries)
  | ini => .ofList (written "=\"" "\"\n" entries)
  | ron => .ofList ('(' :: (written ":\"" "\"," entries ++ [')']))
  | json5 => .ofList ('\x7b' :: (written ":\"" "\"," entries ++ ['\x7d']))

variable {entries : List (String × String)}

theorem parse?_render_texts {fields : Layer} (hsorted : fields.Pairwise fun f g => f.1 < g.1)
    (htexts : ∀ field ∈ fields, ∃ s, field.2 = .string s) :
    Json.parse? (Json.object fields).render = some (.object fields) := by
  have hexact : (Json.object fields).IsExact := by
    rw [Json.isExact_object]
    intro field hfield
    obtain ⟨s, hs⟩ := htexts field hfield
    rw [hs]
    exact .string s
  have hfree : (Json.object fields).IsFreeForm Json.deepest := by
    refine .object hsorted fun field hfield => ?_
    obtain ⟨s, hs⟩ := htexts field hfield
    rw [hs]
    exact .string s
  exact Json.parse?_render hexact hfree

private theorem parse?_render_entries (entries : List (String × String)) :
    Json.parse? (Json.ofFields (fieldsOf entries)).render =
      some (.ofFields (fieldsOf entries)) := by
  obtain ⟨hsorted, hmem⟩ := Json.sortFields_spec (fieldsOf entries)
  apply parse?_render_texts hsorted
  intro field hfield
  obtain ⟨entry, -, rfl⟩ := List.mem_map.mp (hmem field hfield)
  exact ⟨entry.2, rfl⟩

theorem read?_document (h : IsSimple entries) (format : Format) :
    (format.read? (format.document entries)).map ofValue =
      some (Json.sortFields (fieldsOf entries)) := by
  by_cases hne : entries = []
  · -- Without entries some of the formats have no map to read.
    subst hne
    cases format <;> rfl
  · have hread : format.read? (format.document entries) = some (.ofFields (fieldsOf entries)) :=
      match format with
      | toml => Toml.parse?_written h
      | json => parse?_render_entries entries
      | yaml => Yaml.parse?_written h hne
      | ini => Ini.parse?_written h
      | ron => Ron.parse?_written h hne
      | json5 => Json5.parse?_written h
    rw [hread]
    rfl

end Format

end SwapDesk.Settings
