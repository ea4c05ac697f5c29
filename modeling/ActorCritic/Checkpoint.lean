import ActorCritic.Error.Checkpoint
import ActorCritic.Network.Basic

/-!
Checkpoints of a network's parameters, one file per training step, in a directory. A
checkpointer knows the steps in its directory and keeps the largest ones. File names hold the
step in at least eight digits, and a name with the step in any number of digits, with or without
a plus sign, is read as a checkpoint too.
-/

namespace ActorCritic

/-- What a file holds: bytes, or the parameters of a network with their identities. -/
inductive Content (α : Type) where
  | bytes (bs : List UInt8)
  | record (params : List (Param α))
deriving DecidableEq

namespace Content

variable {α : Type}

def ofText (s : String) : Content α := bytes s.toUTF8.toList

/-- The text that the bytes encode, if they encode text. -/
def text? : Content α → Option String
  | bytes bs => String.fromUTF8? ⟨bs.toArray⟩
  | record _ => none

/-- The old bytes with the new ones in place from an offset on; a gap before the offset is filled
with zeros. Writing nothing changes nothing. -/
def splice (offset : Nat) (new old : List UInt8) : List UInt8 :=
  if new.isEmpty then old
  else
    old.take offset ++ List.replicate (offset - old.length) 0 ++ new ++
      old.drop (offset + new.length)

def writeAt (offset : Nat) (new : List UInt8) : Content α → Content α
  | bytes old => bytes (splice offset new old)
  | record params => record params

end Content

abbrev Files (α : Type) := FileTree (Content α)

namespace Checkpoint

def fileStart : List Char := "model_".toList

def fileEnd : List Char := ".bin".toList

def digits (step : Nat) : List Char :=
  let ds := Nat.toDigits 10 step
  List.replicate (8 - ds.length) '0' ++ ds

def fileName (step : Nat) : String := String.ofList (fileStart ++ digits step ++ fileEnd)

/-- What is left of a list without its given beginning. -/
def dropStart? : (start cs : List Char) → Option (List Char)
  | [], cs => some cs
  | a :: as, c :: cs => if a = c then dropStart? as cs else none
  | _ :: _, [] => none

def dropEnd? (ending cs : List Char) : Option (List Char) :=
  (dropStart? ending.reverse cs.reverse).map List.reverse

/-- Digits, at least one, that make a count. -/
def digitsToStep? (cs : List Char) : Option Nat :=
  if cs.isEmpty || !cs.all Char.isDigit then none
  else
    let n := cs.foldl (fun n c => n * 10 + (c.toNat - '0'.toNat)) 0
    if n < Nat.pow 2 64 then some n else none

def readStep? : List Char → Option Nat
  | '+' :: cs => digitsToStep? cs
  | cs => digitsToStep? cs

def stepOfName? (name : String) : Option Nat := do
  readStep? (← dropEnd? fileEnd (← dropStart? fileStart name.toList))

def insertStep (s : Nat) : List Nat → List Nat
  | [] => [s]
  | t :: ts => if s < t then s :: t :: ts else if s = t then t :: ts else t :: insertStep s ts

/-- A path with the extension of checkpoint files in place of its own. A path that ends in `..`
names no file and stays. -/
def withExtension (p : Path) : Path :=
  match p.trimmed.parts.getLast? with
  | none => p
  | some name =>
      if name = ".." then p
      else
        let stem := (name.toList.reverse.dropWhile (· ≠ '.')).tail.reverse
        let stem := if stem.isEmpty then name.toList else stem
        ⟨p.trimmed.parts.dropLast ++ [String.ofList (stem ++ fileEnd)]⟩

end Checkpoint

/-- No more than `keep` checkpoints stay, unless `keep` is zero, which keeps all. -/
structure Checkpointer where
  dir : Path
  keep : Nat
  steps : List Nat
deriving DecidableEq

namespace Checkpointer

open Checkpoint

variable {α : Type}

def defaultKeep : Nat := 5

def pathFor (dir : Path) (step : Nat) : Path := dir.child (fileName step)

def scan (files : Files α) (dir : Path) : Except CheckpointError (List Nat) :=
  match files.names? dir with
  | none => .error (.dir dir)
  | some names => .ok ((names.filterMap stepOfName?).foldr insertStep [])

/-- Opens a directory, made if it is missing. -/
def openAt (dir : Path) (keep : Nat) (files : Files α) :
    Except CheckpointError Checkpointer × Files α :=
  let (there, files) := files.makeDirs dir
  if there then ((scan files dir).map fun steps => ⟨dir, keep, steps⟩, files)
  else (.error (.dir dir), files)

/-- The checkpoints in the directory, oldest step first. -/
def list (c : Checkpointer) (files : Files α) : Except CheckpointError (List (Nat × Path)) :=
  (scan files c.dir).map fun steps => steps.map fun s => (s, pathFor c.dir s)

def latest (c : Checkpointer) (files : Files α) : Except CheckpointError (Nat × Path) := do
  match (← c.list files).getLast? with
  | some entry => return entry
  | none => throw (.empty c.dir)

/-- Removes the files of the smallest steps until no more than `keep` steps are left. A file that
is gone already is no failure. -/
def prune (dir : Path) (keep : Nat) :
    List Nat → Files α → Except CheckpointError Unit × List Nat × Files α
  | [], files => (.ok (), [], files)
  | s :: rest, files =>
      if keep = 0 ∨ rest.length < keep then (.ok (), s :: rest, files)
      else
        match files.removeFile (pathFor dir s) with
        | .removed files => prune dir keep rest files
        | .missing => prune dir keep rest files
        | .refused => (.error (.prune (pathFor dir s)), rest, files)

/-- Writes the parameters as the checkpoint of a step, then prunes. The directory is made
again if it is gone. -/
def save (c : Checkpointer) (params : List (Param α)) (step : Nat) (files : Files α) :
    Except CheckpointError Path × Checkpointer × Files α :=
  let path := pathFor c.dir step
  let (written, files) := files.place path (.record params)
  if written then
    let (result, steps, files) := prune c.dir c.keep (insertStep step c.steps) files
    (result.map fun _ => path, { c with steps := steps }, files)
  else (.error (.save step), c, files)

/-- Reads parameters into a network. The record may hold more parameters than the network; their
values and identities replace those of the network. -/
def load {ι ο : Type} (template : Network α ι ο) (path : Path) (files : Files α) :
    Except CheckpointError (Network α ι ο) :=
  match files.content? (withExtension path) with
  | some (.record params) =>
      if params.length < template.params.length then .error (.load path)
      else .ok { template with params := params.take template.params.length }
  | _ => .error (.load path)

def restoreLatest {ι ο : Type} (c : Checkpointer) (template : Network α ι ο) (files : Files α) :
    Except CheckpointError (Network α ι ο × Nat) := do
  let (step, path) ← c.latest files
  return (← load template path files, step)

end Checkpointer
end ActorCritic
