import ActorCritic.Config.Json
import ActorCritic.Coordinator
import ActorCritic.Json.Access
import ActorCritic.Proofs.Action
import ActorCritic.Proofs.Attempt
import ActorCritic.Trainer.Gradient
import ActorCritic.Trainer.Recording
import ActorCritic.Proofs.EpochSchedule
import ActorCritic.Proofs.Snapshot
import ActorCritic.Proofs.LayerCopy
import ActorCritic.Proofs.Trainer.Lawful
import ActorCritic.Proofs.Trainer.Recording
import ActorCritic.Proofs.Network.Snapshot
import ActorCritic.Proofs.Trainer.Gradient
import ActorCritic.Proofs.Trainer.Sharing
import ActorCritic.Proofs.Coordinator.Attempt
import ActorCritic.Proofs.Coordinator.Phase
import ActorCritic.Proofs.Coordinator.ScheduleFailure
import ActorCritic.Proofs.Coordinator.Progress
import ActorCritic.Proofs.Coordinator.Resumption
import ActorCritic.Proofs.Coordinator.SharedLayers
import ActorCritic.Proofs.ValueTarget
import ActorCritic.Proofs.Trainer.Target
import ActorCritic.Proofs.Coordinator.Target
import ActorCritic.Proofs.Entries
import ActorCritic.Proofs.Batch.Acceptance
import ActorCritic.Proofs.Batch.OpenStreams
import ActorCritic.Proofs.Following
import ActorCritic.Proofs.Trainer.Evaluation
import ActorCritic.Proofs.Coordinator.Evaluation
import ActorCritic.Proofs.Network.Steps
import ActorCritic.Proofs.Batch.Agreement
import ActorCritic.Proofs.Grid
import ActorCritic.Proofs.Advantage.Estimator
import ActorCritic.Proofs.Advantage.Differences
import ActorCritic.Proofs.Advantage.Bellman
import ActorCritic.Proofs.Loss.Ppo
import ActorCritic.Proofs.Loss.Padding
import ActorCritic.Proofs.Trainer.AllOrNothing
import ActorCritic.Proofs.Trainer.Interruption
import ActorCritic.Proofs.Coordinator.Retry
import ActorCritic.Proofs.Batch.SliceLength
import ActorCritic.Proofs.Advantage.KStep
import ActorCritic.Proofs.Checkpoint.Name
import ActorCritic.Proofs.Checkpoint.Save
import ActorCritic.Proofs.Checkpoint.Directory
import ActorCritic.Proofs.Checkpoint.Retention
import ActorCritic.Proofs.Checkpoint.Spelling
import ActorCritic.Proofs.Checkpoint.Calls
import ActorCritic.Proofs.Checkpoint.Mirror
import ActorCritic.Proofs.Config.Field
import ActorCritic.Proofs.Config.Json
import ActorCritic.Proofs.Trainer.Recovery
import ActorCritic.Proofs.Advantage.Rows
import ActorCritic.Proofs.Batch.Lookahead
import ActorCritic.Proofs.Loss.Normalization
import ActorCritic.Proofs.Network.Loading
import ActorCritic.Proofs.RemainingRounds
import ActorCritic.Proofs.Trainer.Cursor
import ActorCritic.Proofs.Metrics.Mean
import ActorCritic.Proofs.Metrics.Accumulation
import ActorCritic.Proofs.Trainer.Round
import ActorCritic.Proofs.RowLists
import ActorCritic.Proofs.GridOperations
import ActorCritic.Proofs.Advantage.Truncation
import ActorCritic.Proofs.LearningRate
import ActorCritic.Proofs.Optimizer
import ActorCritic.Proofs.Checkpoint.Copies
import ActorCritic.Proofs.Trainer.Memory
import ActorCritic.Proofs.Trainer.Restoring
import ActorCritic.Proofs.Metrics.Table
import ActorCritic.Proofs.Coordinator.Construction
