import ScriptedConsumer.Commit
import ScriptedConsumer.Failure

set_option autoImplicit false

/-! # Offset lists

The flat list in which the client library takes partitions, each with or without an offset. The
same partition may stand in a list twice.

The lists belong to the client library, and commits are put on them through what it offers of them,
which is `OffsetLists`. `OffsetList` keeps the lines of a list as they are, and is one way to offer
that. -/

namespace ScriptedConsumer

/-- One line of an offset list. -/
structure OffsetEntry where
  partition : Partition
  offset : Option Int64
deriving DecidableEq, Repr

/-! ## Lists of a client library -/

/-- What a client library offers of its offset lists. -/
structure OffsetLists (ℓ : Type) where
  /-- The list without lines. -/
  empty : ℓ
  /-- Adds a line with an offset at the end. -/
  addOffset : ℓ → Partition → Int64 → Except ClientError ℓ
  /-- The lines of a list, in their order. -/
  elements : ℓ → List OffsetEntry

namespace OffsetLists

variable {ℓ : Type} (lists : OffsetLists ℓ)

/-- Adds a line for each of the given commits, up to the first that is refused. -/
def addCommits (l : ℓ) (entries : List (Partition × Commit)) : Except ClientError ℓ :=
  entries.foldlM (fun l e => lists.addOffset l e.1 e.2.offset) l

/-- The list that carries the given commits, in the order in which they are visited. -/
def ofCommits (visiting : Visiting Commit) (commits : CommitMap) : Except ClientError ℓ :=
  lists.addCommits lists.empty (visiting.entries commits)

/-- The partitions of the lines, in their order. -/
def partitions (l : ℓ) : List Partition := (lists.elements l).map (·.partition)

end OffsetLists

/-! ## Lists of lines -/

/-- A list of partitions with their offsets. -/
structure OffsetList where
  elements : List OffsetEntry
deriving DecidableEq, Repr

namespace OffsetList

/-- The list without lines. -/
def empty : OffsetList := ⟨[]⟩

/-- Adds a line without an offset at the end. -/
def addPartition (l : OffsetList) (p : Partition) : OffsetList :=
  ⟨l.elements ++ [⟨p, none⟩]⟩

/-- Adds a line with an offset at the end. A negative offset is no offset of a record and is
    refused as an invalid argument. -/
def addOffset (l : OffsetList) (p : Partition) (offset : Int64) : Except ClientError OffsetList :=
  if offset < 0 then .error (.setOffset .invalidArgument)
  else .ok ⟨l.elements ++ [⟨p, some offset⟩]⟩

/-- What there is to a list of lines. -/
def offered : OffsetLists OffsetList := ⟨empty, addOffset, elements⟩

/-- The list of the given partitions, in their order and with repetitions. -/
def ofPartitions (ps : List Partition) : OffsetList := ps.foldl addPartition empty

/-- The list that carries the given commits, in the order in which they are visited. -/
def ofCommits (visiting : Visiting Commit) (commits : CommitMap) : Except ClientError OffsetList :=
  offered.ofCommits visiting commits

/-- The partitions of the lines, in their order. -/
def partitions (l : OffsetList) : List Partition := offered.partitions l

end OffsetList

end ScriptedConsumer
