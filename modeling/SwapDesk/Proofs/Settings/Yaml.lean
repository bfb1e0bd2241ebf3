import SwapDesk.Proofs.Settings.YamlTokens

/-!
# Simple documents in YAML

What the tokens of lines of names and texts stand for. Each entry of the map of the document is read
as two nodes, of which the first is its name as it stands.
-/

namespace SwapDesk.Yaml

open Settings

variable {s : List Char} {name : String} {tokens : List Token}

namespace Reading

variable {anchors : Array (String × Node)} {nodes : List Node} {reader : Reader} {fuel : Nat}

private theorem run_blockValue (h : (blockFields (fuel + 3)).run ⟨tokens, anchors⟩ =
    some (nodes, reader)) :
    (blockValue (fuel + 4)).run ⟨.value :: .text s :: tokens, anchors⟩ =
      some (.ofString s :: nodes, reader) := by
  change ((blockFields (fuel + 3)).run ⟨tokens, anchors⟩).bind _ = _
  rw [h]
  rfl

private theorem run_blockFields {entry : String × String}
    (h : (blockFields (fuel + 3)).run ⟨tokens, anchors⟩ = some (nodes, reader)) :
    (blockFields (fuel + 5)).run ⟨entryTokens entry ++ tokens, anchors⟩ =
      some (.ofPlain entry.1.toList :: .ofString entry.2.toList :: nodes, reader) := by
  change ((blockValue (fuel + 4)).run
    ⟨.value :: .text entry.2.toList :: tokens, anchors⟩).bind _ = _
  rw [run_blockValue h]
  rfl

private theorem run_blockFields_written (entries : List (String × String))
    (hfuel : 2 * entries.length + 3 ≤ fuel) :
    (blockFields fuel).run ⟨entries.flatMap entryTokens ++ [.blockEnd], anchors⟩ =
      some (entries.flatMap fun entry => [.ofPlain entry.1.toList, .ofString entry.2.toList],
        ⟨[], anchors⟩) := by
  induction entries generalizing fuel with
  | nil =>
    obtain ⟨fuel, rfl⟩ : ∃ less, fuel = less + 3 := ⟨fuel - 3, by omega⟩
    rfl
  | cons entry entries ih =>
    rw [List.length_cons] at hfuel
    -- An entry takes two steps of the fuel, and its nodes three of those that are left.
    obtain ⟨fuel, rfl⟩ : ∃ less, fuel = less + 5 := ⟨fuel - 5, by omega⟩
    rw [List.flatMap_cons, List.append_assoc, run_blockFields (ih (by omega))]
    rfl

private theorem run_content (h : (blockFields fuel).run ⟨tokens, anchors⟩ = some (nodes, reader)) :
    (content (fuel + 1) true false none false).run ⟨.blockMap :: tokens, anchors⟩ =
      some (.ofChildren nodes, reader) := by
  change ((blockFields fuel).run ⟨tokens, anchors⟩).bind _ = _
  rw [h]
  rfl

private theorem run_node (h : (blockFields fuel).run ⟨tokens, anchors⟩ = some (nodes, reader)) :
    (node (fuel + 2) true false).run ⟨.blockMap :: tokens, anchors⟩ =
      some (.ofChildren nodes, reader) := by
  change ((content (fuel + 1) true false none false).run ⟨.blockMap :: tokens, anchors⟩).bind _ = _
  rw [run_content h]
  rfl

private theorem run_document (h : (blockFields fuel).run ⟨tokens, anchors⟩ = some (nodes, reader)) :
    (document (fuel + 2)).run ⟨.blockMap :: tokens, anchors⟩ =
      some (some (.ofChildren nodes), reader) := by
  change ((node (fuel + 2) true false).run ⟨.blockMap :: tokens, anchors⟩).bind _ = _
  rw [run_node h]
  rfl

end Reading

/-! ## The map of the document -/

private theorem ofPlain_name (hname : name ∈ names) :
    Node.ofPlain name.toList = .value (.string name) := by
  rcases eq_of_mem_names hname with rfl | rfl | rfl | rfl <;> rfl

private theorem ofChildren_entries {entries : List (String × String)} (h : IsSimple entries) :
    Node.ofChildren (entries.flatMap fun entry =>
      [.ofPlain entry.1.toList, .ofString entry.2.toList]) =
      .value (.ofFields (fieldsOf entries)) := by
  have hpairs : Node.pairs (entries.flatMap fun entry =>
      [.ofPlain entry.1.toList, .ofString entry.2.toList]) = entries.map fun entry =>
        (.value (.string entry.1), .value (.string entry.2)) := by
    induction entries with
    | nil => rfl
    | cons entry entries ih =>
      rw [List.flatMap_cons, ofPlain_name h.head_named, Node.ofString, String.ofList_toList]
      exact congrArg _ (ih h.tail)
  have hread := mapM_sortFields Node.value? (fun s => .value (.string s)) (fun _ => rfl) entries
  rw [Node.ofChildren, hpairs, List.filterMap_map]
  change ((Json.sortFields (entries.filterMap fun (entry : String × String) =>
    some (entry.1, Node.value (.string entry.2)))).mapM
      fun ((name, node) : String × Node) => node.value?.map (name, ·)).elim _ _ = _
  rw [List.filterMap_eq_map', hread]
  rfl

theorem parse?_written {entries : List (String × String)} (h : IsSimple entries)
    (hne : entries ≠ []) :
    parse? (String.ofList (written ": \"" "\"\n" entries)) =
      some (.ofFields (fieldsOf entries)) := by
  have hcount : (entries.flatMap entryTokens).length = entries.length * 4 := by
    simp [List.length_flatMap, entryTokens]
  obtain ⟨fuel, hfuel⟩ : ∃ fuel,
      4 * (Token.blockMap :: (entries.flatMap entryTokens ++ [.blockEnd])).length + 4 = fuel + 2 :=
    ⟨_, rfl⟩
  have henough : 2 * entries.length + 3 ≤ fuel := by
    rw [List.length_cons, List.length_append, hcount] at hfuel
    omega
  rw [parse?, String.toList_ofList, tokens?_written h hne, Option.bind_eq_bind, Option.bind_some,
    hfuel, Reading.run_document (Reading.run_blockFields_written entries henough),
    ofChildren_entries h]
  rfl

end SwapDesk.Yaml
