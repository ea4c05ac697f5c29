import ActorCritic.Proofs.Metrics.Mean
import Mathlib.Data.List.DropRight
import Mathlib.Data.List.ReduceOption

/-!
Running means over any sequence of calls. What is told of a name is told by its finite values since
the last reset and by nothing else: the sums and the numbers, which are kept apart, always belong to
the same values, so both ways to read a mean agree.
-/

namespace ActorCritic

/-- What is done to running means. -/
inductive MeansCall where
  | record (name : String) (x : Float32)
  | recordAll (metrics : Metrics Float32)
  | reset

namespace MeansCall

/-- The values that a call records one after another; a reset stands as `none`. -/
def events : MeansCall → List (Option (String × Float32))
  | record name x => [some (name, x)]
  | recordAll metrics => metrics.map some
  | reset => [none]

end MeansCall

namespace MetricMeans

def step (m : MetricMeans) : MeansCall → Except Abort MetricMeans
  | .record name x => Prod.fst <$> m.record name x
  | .recordAll metrics => Prod.fst <$> m.recordAll metrics
  | .reset => .ok m.reset

def after (calls : List MeansCall) : Except Abort MetricMeans := calls.foldlM step empty

/-- What was recorded after the last reset. -/
def sinceReset (events : List (Option (String × Float32))) : List (String × Float32) :=
  (events.rtakeWhile Option.isSome).reduceOption

theorem sinceReset_concat_none (events : List (Option (String × Float32))) :
    sinceReset (events ++ [none]) = [] := by
  rw [sinceReset, List.rtakeWhile_concat_neg _ _ _ (by simp)]
  rfl

theorem sinceReset_concat_some (events : List (Option (String × Float32)))
    (entry : String × Float32) :
    sinceReset (events ++ [some entry]) = sinceReset events ++ [entry] := by
  rw [sinceReset, List.rtakeWhile_concat_pos _ _ _ (by simp), List.reduceOption_append]
  rfl

theorem sinceReset_append (events : List (Option (String × Float32)))
    (entries : List (String × Float32)) :
    sinceReset (events ++ entries.map some) = sinceReset events ++ entries := by
  induction entries using List.reverseRecOn with
  | nil => simp
  | append_singleton entries entry ih =>
      rw [List.map_append, ← List.append_assoc, List.map_singleton, sinceReset_concat_some, ih,
        List.append_assoc]

/-- Entries can be picked out before or after the cut at the last reset. -/
theorem filter_sinceReset (p : String × Float32 → Bool)
    (events : List (Option (String × Float32))) :
    (sinceReset events).filter p = sinceReset (events.filter fun event => event.all p) := by
  induction events using List.reverseRecOn with
  | nil => rfl
  | append_singleton events event ih =>
      rw [List.filter_append]
      cases event with
      | none => exact (congrArg _ (sinceReset_concat_none _)).trans (sinceReset_concat_none _).symm
      | some entry =>
          rw [sinceReset_concat_some, List.filter_append, ih]
          by_cases h : p entry = true
          · simp [h, sinceReset_concat_some]
          · simp [h]

/-- The finite values of a name since the last reset, in the order of their recording. -/
def finiteValues (name : String) (calls : List MeansCall) : List Float32 :=
  (valuesOf name (sinceReset (calls.flatMap MeansCall.events))).filter Float32.isFinite

/-- Whether an event has to do with a name: a finite value of it, or a reset. -/
def concerns (name : String) (event : Option (String × Float32)) : Bool :=
  event.all fun entry => entry.1 = name && entry.2.isFinite

/-- Two sequences of calls that differ in values of other names and in values that are not finite,
and in nothing else. -/
def AlikeFor (name : String) (calls calls' : List MeansCall) : Prop :=
  (calls.flatMap MeansCall.events).filter (concerns name) =
    (calls'.flatMap MeansCall.events).filter (concerns name)

theorem finiteValues_eq (name : String) (calls : List MeansCall) :
    finiteValues name calls =
      (sinceReset ((calls.flatMap MeansCall.events).filter (concerns name))).map Prod.snd := by
  have hpicked := filter_sinceReset (fun entry => entry.1 = name && entry.2.isFinite)
    (calls.flatMap MeansCall.events)
  rw [finiteValues, valuesOf, List.filter_map, List.filter_filter]
  refine congrArg (List.map Prod.snd) (Eq.trans ?_ hpicked)
  refine List.filter_congr fun entry _ => ?_
  exact Bool.and_comm _ _

theorem AlikeFor.finiteValues_eq {name : String} {calls calls' : List MeansCall}
    (h : AlikeFor name calls calls') : finiteValues name calls = finiteValues name calls' := by
  rw [MetricMeans.finiteValues_eq, MetricMeans.finiteValues_eq, h]

/-- At no time since the last reset are there more finite values of a name than can be counted. -/
def Fits (calls : List MeansCall) : Prop :=
  ∀ earlier, earlier <+: calls → ∀ name, (finiteValues name earlier).length < Count.limit

theorem fits_concat {calls : List MeansCall} {call : MeansCall} :
    Fits (calls ++ [call]) ↔
      Fits calls ∧ ∀ name, (finiteValues name (calls ++ [call])).length < Count.limit := by
  simp only [Fits, List.prefix_concat_iff, forall_eq_or_imp]
  exact And.comm

/-- There is no end to what can be recorded short of `2 ^ 64` values. -/
theorem fits_of_length {calls : List MeansCall}
    (h : (calls.flatMap MeansCall.events).length < Count.limit) : Fits calls := by
  rintro earlier ⟨later, rfl⟩
  have hevents : (sinceReset (earlier.flatMap MeansCall.events)).length ≤
      (earlier.flatMap MeansCall.events).length :=
    (List.reduceOption_length_le _).trans (List.rtakeWhile_suffix _ _).length_le
  rw [List.flatMap_append, List.length_append] at h
  exact countable_of_length (by omega)

theorem after_concat (calls : List MeansCall) (call : MeansCall) :
    after (calls ++ [call]) = after calls >>= fun m => m.step call := by
  simp only [after, List.foldlM_append, List.foldlM_cons, List.foldlM_nil, bind_pure]

/-- How any calls end: with the sums and the numbers of what was recorded since the last reset, or
where there is too much of it to be counted. -/
inductive Leaves (calls : List MeansCall) : Except Abort MetricMeans → Prop
  | counted {m : MetricMeans} : Fits calls →
      m.Tallies (sinceReset (calls.flatMap MeansCall.events)) → Leaves calls (.ok m)
  | uncountable : ¬ Fits calls → Leaves calls (.error (.overflow .add))

/-- A call that records after others. -/
theorem Leaves.of_tallied {δ : Type} {calls : List MeansCall} {call : MeansCall}
    {entries : List (String × Float32)} {recorded : Except Abort (MetricMeans × δ)}
    (hfits : Fits calls)
    (hsince : sinceReset ((calls ++ [call]).flatMap MeansCall.events) = entries)
    (h : Tallied entries recorded) : Leaves (calls ++ [call]) (Prod.fst <$> recorded) := by
  subst hsince
  cases h with
  | counted hm => exact .counted (fits_concat.2 ⟨hfits, hm.countable⟩) hm
  | uncountable hfull => exact .uncountable fun hmore => hfull (fits_concat.1 hmore).2

theorem leaves_after (calls : List MeansCall) : Leaves calls (after calls) := by
  induction calls using List.reverseRecOn with
  | nil =>
      have hfits : Fits [] := fits_of_length (by decide)
      exact .counted hfits tallies_empty
  | append_singleton calls call ih =>
      rw [after_concat]
      generalize after calls = before at ih ⊢
      cases ih with
      | uncountable hfull => exact .uncountable fun hmore => hfull (fits_concat.1 hmore).1
      | @counted m hfits hm =>
          rw [Attempt.ok_bind]
          cases call with
          | record name x =>
              refine .of_tallied hfits ?_ (hm.record name x)
              rw [List.flatMap_append, List.flatMap_singleton, MeansCall.events,
                sinceReset_concat_some]
          | recordAll metrics =>
              refine .of_tallied hfits ?_ (hm.recordAll metrics)
              rw [List.flatMap_append, List.flatMap_singleton, MeansCall.events, sinceReset_append]
          | reset =>
              have hnone :
                  sinceReset ((calls ++ [MeansCall.reset]).flatMap MeansCall.events) = [] := by
                rw [List.flatMap_append, List.flatMap_singleton, MeansCall.events,
                  sinceReset_concat_none]
              refine .counted (fits_concat.2 ⟨hfits, fun name => ?_⟩) ?_
              · rw [finiteValues, hnone]
                exact tallies_empty.countable name
              · rw [hnone]
                exact tallies_empty

theorem names_means (m : MetricMeans) : m.means.names = m.sums.names := by
  rw [means, Metrics.names, List.map_map]
  rfl

theorem isEmpty_iff (m : MetricMeans) : m.isEmpty = true ↔ m.means = [] := by
  rw [isEmpty, means, List.isEmpty_iff, List.map_eq_nil_iff]

/-- A name has no mean without finite values; otherwise its mean is their sum from the first to the
last, in double precision, over their number. -/
theorem finiteMean_eq (xs : List Float32) :
    (finiteMean xs = none ↔ xs.filter Float32.isFinite = []) ∧
    (xs.filter Float32.isFinite ≠ [] → finiteMean xs = some
      ((xs.filter Float32.isFinite).foldl (fun sum x => sum + x.toFloat) 0 /
        (xs.filter Float32.isFinite).length.toUInt64.toFloat).toFloat32) := by
  unfold finiteMean total
  cases xs.filter Float32.isFinite with
  | nil => exact ⟨iff_of_true rfl rfl, fun h => absurd rfl h⟩
  | cons x kept => exact ⟨iff_of_false nofun nofun, fun _ => rfl⟩

theorem finiteMean_congr {xs ys : List Float32}
    (h : xs.filter Float32.isFinite = ys.filter Float32.isFinite) :
    finiteMean xs = finiteMean ys := by
  unfold finiteMean total
  rw [h]

/-- Running means after any calls, which come to an end exactly if a name has more finite values
than can be counted. The mean of a name is there exactly if a finite value of it was recorded since
the last reset, and is the quotient of the sum of these values, in the order of their recording, and
of their number. All means together are the same ones, each name once and in order, and none are
there exactly if nothing is. Values of other names, values that are not finite and their places
among the calls have no say in it. -/
theorem means_are_of_finite_values (calls : List MeansCall) :
    (¬ Fits calls → after calls = .error (.overflow .add)) ∧
    (Fits calls → ∃ m, after calls = .ok m ∧
      (∀ name, m.mean? name = none ↔ finiteValues name calls = []) ∧
      (∀ name, finiteValues name calls ≠ [] → m.mean? name = some
        ((finiteValues name calls).foldl (fun sum x => sum + x.toFloat) 0 /
          (finiteValues name calls).length.toUInt64.toFloat).toFloat32) ∧
      (∀ name, m.means.get? name = m.mean? name) ∧
      m.means.Ordered ∧
      (m.isEmpty = true ↔ m.means = []) ∧
      ∀ name calls' m', AlikeFor name calls calls' → after calls' = .ok m' →
        m'.mean? name = m.mean? name ∧ m'.means.get? name = m.means.get? name) := by
  have hleaves := leaves_after calls
  generalize after calls = ended at hleaves ⊢
  cases hleaves with
  | uncountable hfull => exact ⟨fun _ => rfl, fun hfits => absurd hfits hfull⟩
  | @counted m hfits hm =>
  refine ⟨fun hfull => absurd hfits hfull, fun _ => ⟨m, rfl, ?_, ?_, ?_, ?_, isEmpty_iff m, ?_⟩⟩
  · intro name
    rw [hm.mean?_eq]
    exact (finiteMean_eq _).1
  · intro name hsome
    rw [hm.mean?_eq]
    exact (finiteMean_eq _).2 hsome
  · intro name
    rw [hm.mean?_eq, hm.get?_means_eq]
  · rw [Metrics.Ordered, names_means]
    exact hm.ordered
  · intro name calls' m' halike hafter
    have hleaves' := leaves_after calls'
    rw [hafter] at hleaves'
    cases hleaves' with
    | counted _ hm' =>
    rw [hm.mean?_eq, hm'.mean?_eq, hm.get?_means_eq, hm'.get?_means_eq]
    have hsame := finiteMean_congr halike.finiteValues_eq
    exact ⟨hsame.symm, hsame.symm⟩

namespace Sample

def mixed : List MeansCall :=
  [.record "loss" 2, .reset, .recordAll [("entropy", 5), ("loss", 1)], .record "loss" (0 / 0),
    .record "loss" 3]

/-- The same losses among other values of the entropy. -/
def rearranged : List MeansCall :=
  [.record "entropy" 4, .record "loss" 2, .reset, .record "loss" 1, .record "loss" 3,
    .record "entropy" 7]

end Sample

theorem means_are_of_finite_values_mixed :
    finiteValues "loss" Sample.mixed = [1, 3] ∧ finiteValues "advantage" Sample.mixed = [] ∧
    ∃ m m', after Sample.mixed = .ok m ∧ after Sample.rearranged = .ok m' ∧
      m.mean? "loss" = some ((0 + (1 : Float32).toFloat + (3 : Float32).toFloat) /
        (2 : Nat).toUInt64.toFloat).toFloat32 ∧
      m.mean? "advantage" = none ∧
      AlikeFor "loss" Sample.mixed Sample.rearranged ∧
      m'.means.get? "loss" = m.means.get? "loss" := by
  obtain ⟨m, hm, hnone, hsome, -, -, -, halike⟩ :=
    (means_are_of_finite_values Sample.mixed).2 (fits_of_length (by decide))
  obtain ⟨m', hm', -⟩ :=
    (means_are_of_finite_values Sample.rearranged).2 (fits_of_length (by decide))
  have hvalues : finiteValues "loss" Sample.mixed = [1, 3] := by decide
  have hmissing : finiteValues "advantage" Sample.mixed = [] := by decide
  have hsame : AlikeFor "loss" Sample.mixed Sample.rearranged := by
    unfold AlikeFor
    decide
  refine ⟨hvalues, hmissing, m, m', hm, hm', ?_, (hnone "advantage").2 hmissing, hsame,
    (halike "loss" Sample.rearranged m' hsame hm').2⟩
  have hmean := hsome "loss" (by rw [hvalues]; nofun)
  rw [hvalues] at hmean
  exact hmean

end MetricMeans
end ActorCritic
