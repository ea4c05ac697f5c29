import ActorCritic.Network.Models
import ActorCritic.Proofs.Attempt

/-!
Value networks answer step by step: their outputs have the rows and the steps of the observations,
whatever values are loaded into their parameters.
-/

namespace ActorCritic
namespace Network

variable {α : Type}

/-- The outputs have the rows and the steps of the inputs. -/
def KeepsSteps (n : ValueNetwork α) : Prop :=
  ∀ x y, n.forward x = .ok y → y.extent = x.extent

theorem extent_of_ofVectors {batch time features : Nat} {vs : List (List α)} {x : StepTensor α}
    (h : ofVectors batch time features vs = .ok x) : x.extent = (batch, time) := by
  unfold ofVectors at h
  split at h
  · cases h
    rfl
  · cases h

theorem forward_eq_ok {n : ValueNetwork α} {x y : StepTensor α} (h : n.forward x = .ok y) :
    ∃ traced, n.run n.values x = .ok traced ∧ traced.output = y := by
  unfold forward trace at h
  cases hrun : n.run n.values x with
  | error e =>
      rw [hrun] at h
      cases h
  | ok traced =>
      rw [hrun] at h
      exact ⟨traced, rfl, Except.ok.inj h⟩

section Layers

variable [Scalar α]

theorem extent_of_linear {weight bias : Tensor α} {x y : StepTensor α}
    {pull : StepTensor α → Except Abort (LinearGradient α)}
    (h : linear weight bias x = .ok (y, pull)) : y.extent = x.extent := by
  unfold linear at h
  split at h
  · split at h
    · cases h
    · obtain ⟨z, hz, h⟩ := Attempt.bind_eq_ok.1 h
      obtain ⟨rfl, -⟩ := Prod.mk.inj (Attempt.pure_eq_ok.1 h)
      exact extent_of_ofVectors hz
  · cases h

theorem keepsSteps_of_oneLayer {n : ValueNetwork α} (h : n.run = oneLayer) : n.KeepsSteps := by
  intro x y hforward
  obtain ⟨traced, hrun, rfl⟩ := forward_eq_ok hforward
  rw [h] at hrun
  unfold oneLayer at hrun
  split at hrun
  · obtain ⟨⟨y, pull⟩, hlinear, hrun⟩ := Attempt.bind_eq_ok.1 hrun
    cases hrun
    exact extent_of_linear hlinear
  · cases hrun

theorem keepsSteps_of_twoLayers {n : ValueNetwork α} (h : n.run = twoLayers) : n.KeepsSteps := by
  intro x y hforward
  obtain ⟨traced, hrun, rfl⟩ := forward_eq_ok hforward
  rw [h] at hrun
  unfold twoLayers at hrun
  split at hrun
  · obtain ⟨⟨hidden, pull₁⟩, hinner, hrun⟩ := Attempt.bind_eq_ok.1 hrun
    obtain ⟨⟨y, pull₂⟩, houter, hrun⟩ := Attempt.bind_eq_ok.1 hrun
    cases hrun
    calc y.extent = (rectify hidden).extent := extent_of_linear houter
      _ = hidden.extent := rfl
      _ = x.extent := extent_of_linear hinner
  · cases hrun

end Layers

end Network
end ActorCritic
