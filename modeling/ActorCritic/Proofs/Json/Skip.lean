import ActorCritic.Json.Value
import ActorCritic.Proofs.Json.Scan

/-!
Values that are passed over. Whatever the grammar calls a value is cut into tokens that are passed
over as one, however deep it is nested and whether or not its strings are text.
-/

namespace ActorCritic
namespace Json

open Token

/-- A token as it is seen by whoever passes over it: every string is text. -/
def textual (t : Token) : Token := if t = .unpaired then .string "" else t

/-- The tokens are those of one value, whatever comes after them. -/
def Spans (ts : List Token) : Prop :=
  ∀ fuel tail, 2 * ts.length ≤ fuel → ∃ j, ofTokens? fuel (ts.map textual ++ tail) = some (j, tail)

theorem skip?_append {ts : List Token} (h : Spans ts) (tail : List Token) :
    skip? (ts ++ tail) = some tail := by
  obtain ⟨j, hj⟩ := h (2 * (ts ++ tail).length + 1) (tail.map textual) (by simp; omega)
  rw [← List.map_append] at hj
  unfold skip?
  change (ofTokens? _ ((ts ++ tail).map textual)).map _ = _
  rw [hj, Option.map_some]
  simp

theorem Spans.single {t : Token} (h : ∀ fuel tail, ∃ j,
    ofTokens? (fuel + 1) (textual t :: tail) = some (j, tail)) : Spans [t] := by
  intro fuel tail hfuel
  obtain ⟨fuel, rfl⟩ := Nat.exists_eq_succ_of_ne_zero (n := fuel) (by rintro rfl; cases hfuel)
  exact h fuel tail

theorem Spans.ne_close {ts : List Token} (h : Spans ts) (tail rest : List Token) :
    ts.map textual ++ tail ≠ closeBracket :: rest := by
  intro heq
  obtain ⟨j, hj⟩ := h (2 * ts.length + 1) tail (by omega)
  rw [heq] at hj
  cases hj

section Steps

variable {fuel : Nat} {tokens between rest : List Token} {j : Json} {items : List Json}
  {members : List (String × Json)}

theorem ofTokens?_array (hne : ∀ rest, tokens ≠ closeBracket :: rest)
    (h : itemsOfTokens? fuel tokens = some (items, rest)) :
    ofTokens? (fuel + 1) (openBracket :: tokens) = some (array items, rest) := by
  rw [ofTokens?, h]
  · rfl
  · exact hne

theorem itemsOfTokens?_last (h : ofTokens? fuel tokens = some (j, closeBracket :: rest)) :
    itemsOfTokens? (fuel + 1) tokens = some ([j], rest) := by
  rw [itemsOfTokens?, h]
  rfl

theorem itemsOfTokens?_next (h : ofTokens? fuel tokens = some (j, comma :: between))
    (h' : itemsOfTokens? fuel between = some (items, rest)) :
    itemsOfTokens? (fuel + 1) tokens = some (j :: items, rest) := by
  rw [itemsOfTokens?, h]
  simp only [Option.bind_eq_bind, Option.bind_some, h']
  rfl

theorem ofTokens?_object (hne : ∀ rest, tokens ≠ closeBrace :: rest)
    (h : membersOfTokens? fuel tokens = some (members, rest)) :
    ofTokens? (fuel + 1) (openBrace :: tokens) = some (object members, rest) := by
  rw [ofTokens?, h]
  · rfl
  · exact hne

theorem membersOfTokens?_last {key : String}
    (h : ofTokens? fuel tokens = some (j, closeBrace :: rest)) :
    membersOfTokens? (fuel + 1) (.string key :: colon :: tokens) = some ([(key, j)], rest) := by
  rw [membersOfTokens?, h]
  rfl

theorem membersOfTokens?_next {key : String}
    (h : ofTokens? fuel tokens = some (j, comma :: between))
    (h' : membersOfTokens? fuel between = some (members, rest)) :
    membersOfTokens? (fuel + 1) (.string key :: colon :: tokens) =
      some ((key, j) :: members, rest) := by
  rw [membersOfTokens?, h]
  simp only [Option.bind_eq_bind, Option.bind_some, h']
  rfl

end Steps

theorem length_commas_cons (ts us : List Token) (tss : List (List Token)) :
    (commas (ts :: us :: tss)).length = ts.length + 1 + (commas (us :: tss)).length := by
  rw [commas, List.length_append, List.length_cons]
  · omega
  · exact nofun

theorem length_le_length_commas {tss : List (List Token)} (h : ∀ ts ∈ tss, ts ≠ []) :
    tss.length ≤ (commas tss).length := by
  induction tss with
  | nil => exact Nat.le_refl 0
  | cons ts tss ih =>
      have hfirst := List.length_pos_iff.2 (h ts List.mem_cons_self)
      have hrest := ih fun us hus => h us (List.mem_cons_of_mem ts hus)
      cases tss with
      | nil => exact hfirst
      | cons us tss =>
          rw [length_commas_cons, List.length_cons]
          omega

theorem map_commas_cons (ts us : List Token) (tss : List (List Token)) (tail : List Token) :
    (commas (ts :: us :: tss)).map textual ++ tail =
      ts.map textual ++ comma :: ((commas (us :: tss)).map textual ++ tail) := by
  simp [commas, textual]

theorem exists_itemsOfTokens? {tss : List (List Token)} (hne : tss ≠ [])
    (h : ∀ ts ∈ tss, Spans ts) {fuel : Nat} (tail : List Token)
    (hfuel : 2 * ((commas tss).length + 1) ≤ fuel) :
    ∃ items, itemsOfTokens? fuel ((commas tss).map textual ++ closeBracket :: tail) =
      some (items, tail) := by
  induction tss generalizing fuel with
  | nil => exact absurd rfl hne
  | cons ts tss ih =>
      obtain ⟨fuel, rfl⟩ := Nat.exists_eq_succ_of_ne_zero (n := fuel) (by rintro rfl; cases hfuel)
      have hitem := h ts List.mem_cons_self fuel
      cases tss with
      | nil =>
          rw [commas] at hfuel ⊢
          obtain ⟨j, hj⟩ := hitem (closeBracket :: tail) (by omega)
          exact ⟨_, itemsOfTokens?_last hj⟩
      | cons us tss =>
          rw [length_commas_cons] at hfuel
          rw [map_commas_cons]
          obtain ⟨j, hj⟩ := hitem (comma :: ((commas (us :: tss)).map textual ++
            closeBracket :: tail)) (by omega)
          have hrest : 2 * ((commas (us :: tss)).length + 1) ≤ fuel := by omega
          obtain ⟨items, hitems⟩ := ih (List.cons_ne_nil _ _)
            (fun vs hvs => h vs (List.mem_cons_of_mem ts hvs)) hrest
          exact ⟨_, itemsOfTokens?_next hj hitems⟩

/-- The tokens are those of one member. -/
def SpansMember (ts : List Token) : Prop :=
  ∃ t key vs, ts = t :: colon :: vs ∧ textual t = .string key ∧ Spans vs

theorem exists_membersOfTokens? {tss : List (List Token)} (hne : tss ≠ [])
    (h : ∀ ts ∈ tss, SpansMember ts) {fuel : Nat} (tail : List Token)
    (hfuel : 2 * ((commas tss).length + 1) ≤ fuel) :
    ∃ members, membersOfTokens? fuel ((commas tss).map textual ++ closeBrace :: tail) =
      some (members, tail) := by
  induction tss generalizing fuel with
  | nil => exact absurd rfl hne
  | cons ts tss ih =>
      obtain ⟨fuel, rfl⟩ := Nat.exists_eq_succ_of_ne_zero (n := fuel) (by rintro rfl; cases hfuel)
      obtain ⟨t, key, vs, rfl, ht, hvalue⟩ := h ts List.mem_cons_self
      have hstart (after : List Token) : (t :: colon :: vs).map textual ++ after =
          .string key :: colon :: (vs.map textual ++ after) := by
        rw [List.map_cons, List.map_cons, ht]
        rfl
      cases tss with
      | nil =>
          rw [commas, List.length_cons, List.length_cons] at hfuel
          rw [commas, hstart]
          obtain ⟨j, hj⟩ := hvalue fuel (closeBrace :: tail) (by omega)
          exact ⟨_, membersOfTokens?_last hj⟩
      | cons us tss =>
          rw [length_commas_cons, List.length_cons, List.length_cons] at hfuel
          rw [map_commas_cons, hstart]
          have hrest : 2 * ((commas (us :: tss)).length + 1) ≤ fuel := by omega
          obtain ⟨j, hj⟩ := hvalue fuel (comma :: ((commas (us :: tss)).map textual ++
            closeBrace :: tail)) (by omega)
          obtain ⟨members, hmembers⟩ := ih (List.cons_ne_nil _ _)
            (fun vs hvs => h vs (List.mem_cons_of_mem _ hvs)) hrest
          exact ⟨_, membersOfTokens?_next hj hmembers⟩

theorem exists_commas_cons (ts : List Token) (tss : List (List Token)) :
    ∃ us, commas (ts :: tss) = ts ++ us := by
  cases tss with
  | nil => exact ⟨[], (List.append_nil ts).symm⟩
  | cons us tss => exact ⟨comma :: commas (us :: tss), rfl⟩

theorem Spans.array {tss : List (List Token)} (hne : tss ≠ []) (h : ∀ ts ∈ tss, Spans ts) :
    Spans (openBracket :: (commas tss ++ [closeBracket])) := by
  intro fuel tail hfuel
  obtain ⟨fuel, rfl⟩ := Nat.exists_eq_succ_of_ne_zero (n := fuel) (by rintro rfl; cases hfuel)
  rw [List.length_cons, List.length_append, List.length_singleton] at hfuel
  have hitems : 2 * ((commas tss).length + 1) ≤ fuel := by omega
  obtain ⟨items, hitems⟩ := exists_itemsOfTokens? hne h tail hitems
  have hfirst : ∀ rest, (commas tss).map textual ++ closeBracket :: tail ≠
      closeBracket :: rest := by
    obtain ⟨ts, tss, rfl⟩ := List.exists_cons_of_ne_nil hne
    obtain ⟨us, hus⟩ := exists_commas_cons ts tss
    intro rest
    rw [hus, List.map_append, List.append_assoc]
    exact (h ts List.mem_cons_self).ne_close _ rest
  refine ⟨.array items, ?_⟩
  simpa [textual] using ofTokens?_array hfirst hitems

theorem Spans.object {tss : List (List Token)} (hne : tss ≠ [])
    (h : ∀ ts ∈ tss, SpansMember ts) :
    Spans (openBrace :: (commas tss ++ [closeBrace])) := by
  intro fuel tail hfuel
  obtain ⟨fuel, rfl⟩ := Nat.exists_eq_succ_of_ne_zero (n := fuel) (by rintro rfl; cases hfuel)
  rw [List.length_cons, List.length_append, List.length_singleton] at hfuel
  have hmembers : 2 * ((commas tss).length + 1) ≤ fuel := by omega
  obtain ⟨members, hmembers⟩ := exists_membersOfTokens? hne h tail hmembers
  have hfirst : ∀ rest, (commas tss).map textual ++ closeBrace :: tail ≠
      closeBrace :: rest := by
    obtain ⟨ts, tss, rfl⟩ := List.exists_cons_of_ne_nil hne
    obtain ⟨us, hus⟩ := exists_commas_cons ts tss
    obtain ⟨t, key, vs, rfl, ht, -⟩ := h ts List.mem_cons_self
    intro rest heq
    rw [hus, List.cons_append, List.map_cons, ht] at heq
    cases (List.cons.inj heq).1
  refine ⟨.object members, ?_⟩
  simpa [textual] using ofTokens?_object hfirst hmembers

/-- If every entry of a list is related to something of a kind, so is the list entry by entry. -/
theorem exists_forall₂ {α β : Type} {R : α → β → Prop} {P : β → Prop} {xs : List α}
    (h : ∀ x ∈ xs, ∃ y, R x y ∧ P y) : ∃ ys, List.Forall₂ R xs ys ∧ ∀ y ∈ ys, P y := by
  induction xs with
  | nil => exact ⟨[], .nil, nofun⟩
  | cons x xs ih =>
      obtain ⟨y, hy, hkind⟩ := h x List.mem_cons_self
      obtain ⟨ys, hys, hkinds⟩ := ih fun z hz => h z (List.mem_cons_of_mem x hz)
      exact ⟨y :: ys, .cons hy hys, List.forall_mem_cons.2 ⟨hkind, hkinds⟩⟩

theorem ne_nil_of_forall₂ {α β : Type} {R : α → β → Prop} {xs : List α} {ys : List β}
    (h : List.Forall₂ R xs ys) (hne : xs ≠ []) : ys ≠ [] := by
  cases h with
  | nil => exact absurd rfl hne
  | cons _ _ => exact List.cons_ne_nil _ _

/-- The tokens of a value are those of one value. -/
theorem Value.exists_lexes {cs : List Char} (h : Value cs) : ∃ ts, Lexes cs ts ∧ Spans ts := by
  induction h with
  | null =>
      exact ⟨[.null], fun _ _ => .token rfl rfl, .single fun _ _ => ⟨_, rfl⟩⟩
  | true =>
      exact ⟨[.bool Bool.true], fun _ _ => .token rfl rfl, .single fun _ _ => ⟨_, rfl⟩⟩
  | false =>
      exact ⟨[.bool Bool.false], fun _ _ => .token rfl rfl, .single fun _ _ => ⟨_, rfl⟩⟩
  | number hnumber =>
      obtain ⟨n, hn⟩ := exists_lexes_number hnumber
      exact ⟨_, hn, .single fun _ _ => ⟨_, rfl⟩⟩
  | string literal =>
      obtain ⟨t, ht, hlexes⟩ := exists_lexes_string literal
      refine ⟨_, hlexes, .single fun _ _ => ?_⟩
      obtain rfl | ⟨s, rfl⟩ := ht <;> exact ⟨_, rfl⟩
  | emptyArray blank =>
      refine ⟨_, blank.lexes.brackets, fun fuel tail hfuel => ?_⟩
      obtain ⟨fuel, rfl⟩ := Nat.exists_eq_succ_of_ne_zero (n := fuel) (by rintro rfl; cases hfuel)
      exact ⟨.array [], rfl⟩
  | array values layout ih =>
      obtain ⟨tss, htss, hspans⟩ := exists_forall₂ ih
      have hne : tss ≠ [] := ne_nil_of_forall₂ htss layout.ne_nil
      exact ⟨_, (layout.lexes htss).brackets, .array hne hspans⟩
  | emptyObject blank =>
      refine ⟨_, blank.lexes.braces, fun fuel tail hfuel => ?_⟩
      obtain ⟨fuel, rfl⟩ := Nat.exists_eq_succ_of_ne_zero (n := fuel) (by rintro rfl; cases hfuel)
      exact ⟨.object [], rfl⟩
  | @object members cs names blank blank' values layout ih =>
      have hmembers : ∀ text ∈ members.map Member.text, ∃ ts, Lexes text ts ∧ SpansMember ts := by
        intro text htext
        obtain ⟨m, hm, rfl⟩ := List.mem_map.1 htext
        obtain ⟨t, ht, hname⟩ := exists_lexes_string (names m hm)
        obtain ⟨ts, hlexes, hspans⟩ := ih m hm
        refine ⟨_, Member.lexes hname (blank m hm) (blank' m hm) hlexes, t, ?_⟩
        obtain rfl | ⟨s, rfl⟩ := ht
        · exact ⟨"", ts, rfl, rfl, hspans⟩
        · exact ⟨s, ts, rfl, rfl, hspans⟩
      obtain ⟨tss, htss, hspans⟩ := exists_forall₂ hmembers
      have hne : tss ≠ [] := ne_nil_of_forall₂ htss layout.ne_nil
      exact ⟨_, (layout.lexes htss).braces, .object hne hspans⟩

end Json
end ActorCritic
