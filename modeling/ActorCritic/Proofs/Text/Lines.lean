import ActorCritic.Text.Lines

/-!
Texts that are put together from lines, and lines from cells, are taken apart into the same lines
and cells, as long as the separators stand in none of them.
-/

namespace ActorCritic
namespace Text

/-- The text can stand in a cell of a line. -/
structure IsCell (s : String) : Prop where
  noComma : ',' ∉ s.toList
  noBreak : '\n' ∉ s.toList

instance (s : String) : Decidable (IsCell s) :=
  decidable_of_iff (',' ∉ s.toList ∧ '\n' ∉ s.toList)
    ⟨fun h => ⟨h.1, h.2⟩, fun h => ⟨h.noComma, h.noBreak⟩⟩

/-- The text can stand as a line, and no carriage return at its end is taken for a part of the line
break. -/
structure IsLine (s : String) : Prop where
  noBreak : '\n' ∉ s.toList
  noReturn : s.toList.getLast? ≠ some '\r'

theorem withoutReturn_eq_self {line : String} (h : line.toList.getLast? ≠ some '\r') :
    withoutReturn line = line := by
  unfold withoutReturn
  split
  · next cs hcs =>
      refine absurd ?_ h
      rw [List.getLast?_eq_head?_reverse, hcs, List.head?_cons]
  · rfl

theorem partsAt_intercalate {c : Char} {parts : List String} (hne : parts ≠ [])
    (h : ∀ part ∈ parts, c ∉ part.toList) :
    partsAt c ((String.singleton c).intercalate parts) = parts :=
  (String.toList_split_intercalate h).trans (if_neg hne)

theorem cells_ofCells {cs : List String} (hne : cs ≠ []) (h : ∀ c ∈ cs, IsCell c) :
    cells (ofCells cs) = cs :=
  partsAt_intercalate hne fun c hc => (h c hc).noComma

theorem noBreak_ofCells {cs : List String} (h : ∀ c ∈ cs, '\n' ∉ c.toList) :
    '\n' ∉ (ofCells cs).toList := by
  unfold ofCells
  induction cs with
  | nil => decide
  | cons c cs ih =>
      by_cases hlast : cs = []
      · rw [hlast, String.intercalate_singleton]
        exact h c List.mem_cons_self
      · rw [String.intercalate_cons_of_ne_nil hlast, String.toList_append, String.toList_append,
          List.mem_append, List.mem_append, not_or, not_or]
        exact ⟨⟨h c List.mem_cons_self, by decide⟩, ih fun d hd => h d (List.mem_cons_of_mem c hd)⟩

/-- A line of cells ends as its last cell ends. -/
theorem isLine_ofCells {cs : List String} {last : String} (hcs : ∀ c ∈ cs, '\n' ∉ c.toList)
    (hlast : IsLine last) (hne : last ≠ "") : IsLine (ofCells (cs ++ [last])) := by
  constructor
  · refine noBreak_ofCells fun c hc => ?_
    obtain hc | hc := List.mem_append.1 hc
    · exact hcs c hc
    · exact List.mem_singleton.1 hc ▸ hlast.noBreak
  · by_cases hnone : cs = []
    · rw [hnone, List.nil_append, ofCells, String.intercalate_singleton]
      exact hlast.noReturn
    · have hend : last.toList.getLast?.isSome = true :=
        List.getLast?_isSome.2 (mt String.toList_eq_nil_iff.1 hne)
      rw [ofCells, String.intercalate_append_of_ne_nil hnone (by simp),
        String.intercalate_singleton, String.toList_append, List.getLast?_append,
        Option.or_of_isSome hend]
      exact hlast.noReturn

/-- Lines that are each ended stand before an empty last part. -/
theorem join_ended_eq (ls : List String) :
    String.join (ls.map (· ++ "\n")) = "\n".intercalate (ls ++ [""]) := by
  induction ls with
  | nil => rfl
  | cons l ls ih =>
      rw [List.map_cons, String.join_cons, ih, List.cons_append,
        String.intercalate_cons_of_ne_nil (List.append_ne_nil_of_right_ne_nil ls (by simp))]

theorem lines_join_ended {ls : List String} (h : ∀ l ∈ ls, IsLine l) :
    lines (String.join (ls.map (· ++ "\n"))) = ls := by
  have hparts : partsAt '\n' (String.join (ls.map (· ++ "\n"))) = ls ++ [""] := by
    rw [join_ended_eq]
    refine partsAt_intercalate (by simp) fun l hl => ?_
    obtain hl | hl := List.mem_append.1 hl
    · exact (h l hl).noBreak
    · rw [List.mem_singleton.1 hl]
      decide
  have hkept : ls.map withoutReturn = ls := by
    rw [List.map_congr_left fun l hl => withoutReturn_eq_self (h l hl).noReturn, List.map_id']
  unfold lines
  dsimp only
  rw [hparts, List.dropLast_concat, List.getLast?_concat, hkept]
  simp

end Text
end ActorCritic
