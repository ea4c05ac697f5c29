import ActorCritic.Metrics.Mean
import ActorCritic.Proofs.Attempt

/-!
What running means are means of: for every name, of its finite values in the order in which they
were recorded. A name without any has no mean. The values of a name are counted, so there is an end
to how many can be recorded.
-/

namespace ActorCritic
namespace MetricMeans

section Values

variable {name other : String} {x : Float32} {xs : List Float32}

/-- The values of a name, in the order of their recording. -/
def valuesOf (name : String) (entries : List (String × Float32)) : List Float32 :=
  (entries.filter (·.1 = name)).map Prod.snd

theorem valuesOf_snoc_self (entries : List (String × Float32)) :
    valuesOf name (entries ++ [(name, x)]) = valuesOf name entries ++ [x] := by
  simp [valuesOf]

theorem valuesOf_snoc_of_ne (h : other ≠ name) (entries : List (String × Float32)) :
    valuesOf name (entries ++ [(other, x)]) = valuesOf name entries := by
  simp [valuesOf, h]

theorem valuesOf_map (name : String) (xs : List Float32) :
    valuesOf name (xs.map fun x => (name, x)) = xs := by
  simp [valuesOf, List.filter_map, Function.comp_def]

/-- The sum of the finite values, in double precision, and their number. None without any. -/
def total (xs : List Float32) : Option (Float × Nat) :=
  match xs.filter Float32.isFinite with
  | [] => none
  | kept => some (kept.foldl (fun sum x => sum + x.toFloat) 0, kept.length)

def finiteMean (xs : List Float32) : Option Float32 := (total xs).map quotient

theorem total_snoc_of_finite (h : x.isFinite = true) :
    total (xs ++ [x]) =
      some (((total xs).getD (0, 0)).1 + x.toFloat, ((total xs).getD (0, 0)).2 + 1) := by
  have hkept : (xs ++ [x]).filter Float32.isFinite = xs.filter Float32.isFinite ++ [x] := by
    simp [h]
  unfold total
  rw [hkept]
  cases xs.filter Float32.isFinite with
  | nil => rfl
  | cons y kept => simp

theorem total_snoc_of_not_finite (h : x.isFinite = false) : total (xs ++ [x]) = total xs := by
  simp [total, h]

theorem getD_total (xs : List Float32) :
    ((total xs).map Prod.snd).getD 0 = (xs.filter Float32.isFinite).length := by
  unfold total
  cases xs.filter Float32.isFinite with
  | nil => rfl
  | cons y kept => rfl

theorem total_pos {t : Float × Nat} (h : total xs = some t) : 0 < t.2 := by
  unfold total at h
  split at h
  · cases h
  · next hkept =>
      cases h
      exact List.length_pos_iff.2 hkept

end Values

variable {m : MetricMeans} {entries : List (String × Float32)}

/-- No name has more finite values than can be counted. -/
def Countable (entries : List (String × Float32)) : Prop :=
  ∀ name, ((valuesOf name entries).filter Float32.isFinite).length < Count.limit

theorem countable_of_length (h : entries.length < Count.limit) : Countable entries := by
  intro name
  calc ((valuesOf name entries).filter Float32.isFinite).length
      ≤ (valuesOf name entries).length := List.length_filter_le ..
    _ = (entries.filter (·.1 = name)).length := List.length_map ..
    _ ≤ entries.length := List.length_filter_le ..
    _ < Count.limit := h

theorem Countable.of_append {new : List (String × Float32)} (h : Countable (entries ++ new)) :
    Countable entries := by
  intro name
  have hmore := h name
  simp only [valuesOf, List.filter_append, List.map_append, List.length_append] at hmore ⊢
  omega

theorem countable_snoc_of_not_finite {name : String} {x : Float32} (h : x.isFinite = false) :
    Countable (entries ++ [(name, x)]) ↔ Countable entries := by
  refine forall_congr' fun other => ?_
  by_cases hname : name = other
  · subst hname
    simp [valuesOf_snoc_self, h]
  · rw [valuesOf_snoc_of_ne hname]

theorem countable_snoc_of_finite {name : String} {x : Float32} (h : x.isFinite = true) :
    Countable (entries ++ [(name, x)]) ↔ Countable entries ∧
      ((valuesOf name entries).filter Float32.isFinite).length + 1 < Count.limit := by
  have hself : ((valuesOf name (entries ++ [(name, x)])).filter Float32.isFinite).length =
      ((valuesOf name entries).filter Float32.isFinite).length + 1 := by
    simp [valuesOf_snoc_self, h]
  constructor
  · exact fun hmore => ⟨hmore.of_append, hself ▸ hmore name⟩
  · rintro ⟨hcountable, hone⟩ other
    by_cases hname : name = other
    · subst hname
      rwa [hself]
    · rw [valuesOf_snoc_of_ne hname]
      exact hcountable other

/-- The sums and the numbers are those of what was recorded. -/
structure Tallies (m : MetricMeans) (entries : List (String × Float32)) : Prop where
  countable : Countable entries
  ordered : m.sums.Ordered
  sums : ∀ name, m.sums.get? name = (total (valuesOf name entries)).map Prod.fst
  counts : ∀ name, m.counts.get? name = (total (valuesOf name entries)).map Prod.snd

/-- What was recorded is told by sums and numbers, or there is too much of it to be counted. -/
inductive Tallied {δ : Type} (entries : List (String × Float32)) :
    Except Abort (MetricMeans × δ) → Prop
  | counted {m : MetricMeans} {answer : δ} : m.Tallies entries → Tallied entries (.ok (m, answer))
  | uncountable : ¬ Countable entries → Tallied entries (.error (.overflow .add))

theorem tallies_empty : empty.Tallies [] :=
  ⟨countable_of_length (by decide), .nil, fun _ => rfl, fun _ => rfl⟩

theorem Tallies.record (h : m.Tallies entries) (name : String) (x : Float32) :
    Tallied (entries ++ [(name, x)]) (m.record name x) := by
  unfold MetricMeans.record
  cases hfinite : x.isFinite with
  | false =>
      have hsame (other : String) :
          total (valuesOf other (entries ++ [(name, x)])) = total (valuesOf other entries) := by
        by_cases hname : name = other
        · subst hname
          rw [valuesOf_snoc_self, total_snoc_of_not_finite hfinite]
        · rw [valuesOf_snoc_of_ne hname]
      refine .counted
        ⟨(countable_snoc_of_not_finite hfinite).2 h.countable, h.ordered, ?_, ?_⟩
      · exact fun other => (h.sums other).trans (by rw [hsame])
      · exact fun other => (h.counts other).trans (by rw [hsame])
  | true =>
      rw [if_pos rfl, h.sums, h.counts, getD_total]
      cases hadd : Count.add ((valuesOf name entries).filter Float32.isFinite).length 1 with
      | error e =>
          obtain ⟨hfull, rfl⟩ := Count.add_eq_error.1 hadd
          refine .uncountable fun hcountable => ?_
          exact absurd ((countable_snoc_of_finite hfinite).1 hcountable).2 (Nat.not_lt.2 hfull)
      | ok count =>
          obtain ⟨hroom, rfl⟩ := Count.add_eq_ok.1 hadd
          refine .counted ⟨(countable_snoc_of_finite hfinite).2 ⟨h.countable, hroom⟩,
            h.ordered.insert name _, ?_, ?_⟩
          · intro other
            by_cases hname : name = other
            · subst hname
              rw [Metrics.get?_insert_self, valuesOf_snoc_self, total_snoc_of_finite hfinite]
              cases total (valuesOf name entries) <;> rfl
            · rw [Metrics.get?_insert_of_ne (Ne.symm hname), valuesOf_snoc_of_ne hname]
              exact h.sums other
          · intro other
            by_cases hname : name = other
            · subst hname
              rw [Metrics.get?_insert_self, valuesOf_snoc_self, total_snoc_of_finite hfinite,
                ← getD_total]
              cases total (valuesOf name entries) <;> rfl
            · rw [Metrics.get?_insert_of_ne (Ne.symm hname), valuesOf_snoc_of_ne hname]
              exact h.counts other

theorem Tallies.recordAll (h : m.Tallies entries) (new : Metrics Float32) :
    Tallied (entries ++ new) (m.recordAll new) := by
  induction new generalizing m entries with
  | nil => exact .counted (by rwa [List.append_nil])
  | cons entry new ih =>
      obtain ⟨name, x⟩ := entry
      rw [List.append_cons, MetricMeans.recordAll]
      generalize hfirst : m.record name x = first
      have htallied := h.record name x
      rw [hfirst] at htallied
      cases htallied with
      | uncountable hfull => exact .uncountable fun hcountable => hfull hcountable.of_append
      | @counted between line hbetween =>
          rw [Attempt.ok_bind]
          dsimp only
          generalize hrest : between.recordAll new = rest
          have htallied := ih hbetween
          rw [hrest] at htallied
          cases htallied with
          | uncountable hfull => exact .uncountable hfull
          | counted hlast => exact .counted hlast

/-- No more values than so many were recorded. -/
def AtMost (m : MetricMeans) (n : Nat) : Prop := ∃ entries, m.Tallies entries ∧ entries.length ≤ n

theorem atMost_empty (n : Nat) : empty.AtMost n := ⟨[], tallies_empty, Nat.zero_le n⟩

/-- One value more can be counted if their number is a count. -/
theorem AtMost.exists_record {n : Nat} (h : m.AtMost n) (hn : n + 1 < Count.limit) (name : String)
    (x : Float32) : ∃ m' line, m.record name x = .ok (m', line) ∧ m'.AtMost (n + 1) := by
  obtain ⟨entries, htallies, hlength⟩ := h
  have hmore : (entries ++ [(name, x)]).length ≤ n + 1 := by
    rw [List.length_append]
    exact Nat.succ_le_succ hlength
  have htallied := htallies.record name x
  generalize m.record name x = recorded at htallied ⊢
  cases htallied with
  | counted hm => exact ⟨_, _, rfl, _, hm, hmore⟩
  | uncountable hfull =>
      exact absurd (countable_of_length (Nat.lt_of_le_of_lt hmore hn)) hfull

theorem Tallies.mean?_eq (h : m.Tallies entries) (name : String) :
    m.mean? name = finiteMean (valuesOf name entries) := by
  rw [mean?, h.sums, h.counts, finiteMean]
  cases total (valuesOf name entries) <;> rfl

/-- Every sum has a number beside it, which is not zero. -/
theorem Tallies.get?_means_eq (h : m.Tallies entries) (name : String) :
    m.means.get? name = finiteMean (valuesOf name entries) := by
  have hmeans : m.means.get? name = (m.sums.get? name).map fun sum =>
      quotient (sum, max ((m.counts.get? name).getD 1) 1) :=
    Metrics.get?_map (fun name sum => quotient (sum, max ((m.counts.get? name).getD 1) 1)) m.sums
      name
  rw [hmeans, h.sums, h.counts, finiteMean]
  cases htotal : total (valuesOf name entries) with
  | none => rfl
  | some t =>
      have hone : max t.2 1 = t.2 := Nat.max_eq_left (total_pos htotal)
      simp only [Option.map_some, Option.getD_some, hone]

end MetricMeans
end ActorCritic
