import ActorCritic.Json.Value
import ActorCritic.Proofs.Json.Scan

/-!
What is written is JSON text: an escaped string denotes the string, a count is written in decimal,
and objects have the layout of the grammar.
-/

namespace ActorCritic
namespace Json

open Token

theorem hexUnit?_hexText {n : Nat} (h : n < 0x20) :
    hexUnit? '0' '0' (Nat.digitChar (n / 16)) (Nat.digitChar (n % 16)) = some n := by
  revert n
  decide

theorem denotes_escape (c : Char) {cs text : List Char} (h : Denotes cs text) :
    Denotes (escape c ++ cs) (c :: text) := by
  unfold escape
  split
  · exact .short (by decide) h
  · exact .short (by decide) h
  · exact .short (by decide) h
  · exact .short (by decide) h
  · exact .short (by decide) h
  · exact .short (by decide) h
  · exact .short (by decide) h
  · next c hquote hbackslash _ _ _ _ _ =>
      split
      · next hcontrol =>
          have hunit := Denotes.unit (hexUnit?_hexText hcontrol) (.inl (by omega)) h
          rwa [Char.ofNat_toNat] at hunit
      · next hprinted => exact .plain ⟨Nat.not_lt.1 hprinted, hquote, hbackslash⟩ h

theorem denotes_flatMap_escape (text : List Char) : Denotes (text.flatMap escape) text := by
  induction text with
  | nil => exact .nil
  | cons c text ih => exact denotes_escape c ih

theorem toList_quote (s : String) :
    (quote s).toList = '"' :: (s.toList.flatMap escape ++ ['"']) := String.toList_ofList

theorem lexes_write_null : Lexes null.write.toList [.null] := by
  have h : Lexes ['n', 'u', 'l', 'l'] [.null] := fun _ _ => .token rfl rfl
  exact h

theorem lexes_write_bool (b : Bool) : Lexes (bool b).write.toList [.bool b] := by
  cases b with
  | false =>
      have h : Lexes ['f', 'a', 'l', 's', 'e'] [.bool false] := fun _ _ => .token rfl rfl
      exact h
  | true =>
      have h : Lexes ['t', 'r', 'u', 'e'] [.bool true] := fun _ _ => .token rfl rfl
      exact h

theorem lexes_quote (s : String) : Lexes (quote s).toList [.string s] := by
  rw [toList_quote]
  exact (denotes_flatMap_escape s.toList).lexes

theorem lexes_write_count (n : Nat) :
    Lexes (number (.ofInt n)).write.toList [.number (.ofInt n)] := by
  have hwrite : (number (.ofInt n)).write.toList = Nat.toDigits 10 n := by
    simp [write, Numeral.write, Numeral.ofInt]
  rw [hwrite]
  exact lexes_count n

/-- A member as it is written. -/
def compact (m : String × Json) : Member := ⟨m.1.toList.flatMap escape, [], [], m.2.write.toList⟩

theorem text_compact (m : String × Json) :
    (compact m).text = (quote m.1 ++ ":" ++ m.2.write).toList := by
  simp [compact, Member.text, toList_quote]

theorem Items.single (item : List Char) : Items [item] item := by
  have h : Items [item] ([] ++ (item ++ [])) := .last nofun nofun
  simpa using h

theorem Items.cons (item : List Char) {items : List (List Char)} {cs : List Char}
    (h : Items items cs) : Items (item :: items) (item ++ ',' :: cs) := by
  have h' : Items (item :: items) ([] ++ (item ++ ([] ++ ',' :: cs))) := .next nofun nofun h
  exact h'

theorem items_writeMembers {members : List (String × Json)} (hne : members ≠ []) :
    Items (members.map fun m => (compact m).text) (writeMembers members).toList := by
  induction members with
  | nil => exact absurd rfl hne
  | cons m members ih =>
      cases members with
      | nil =>
          rw [List.map_singleton, text_compact]
          exact .single _
      | cons m' members =>
          have hnext := Items.cons (compact m).text (ih (List.cons_ne_nil m' members))
          simpa [writeMembers, text_compact] using hnext

theorem objectText_write {members : List (String × Json)} (hne : members ≠ []) :
    ObjectText (members.map fun m => (m.1, m.2.write.toList)) (object members).write.toList := by
  have hblank : Blank [] := nofun
  refine ⟨[], (writeMembers members).toList, [], members.map compact, hblank, hblank, ?_, ?_, ?_⟩
  · rw [List.forall₂_map_left_iff, List.forall₂_map_right_iff]
    exact List.forall₂_same.2 fun m _ => ⟨denotes_flatMap_escape _, hblank, hblank, rfl⟩
  · rw [List.map_map]
    exact items_writeMembers hne
  · simp [write]

end Json
end ActorCritic
