import ScriptedConsumer.Partition

set_option autoImplicit false

/-! # Committed offsets

An offset acknowledged as processed, with free-form metadata, and maps of them. -/

namespace ScriptedConsumer

/-- An offset acknowledged as processed. The metadata is empty unless the caller gives some. -/
structure Commit where
  offset : Int64
  metadata : String := ""
deriving DecidableEq, Repr, Inhabited

/-- The commit of an offset, without metadata. -/
def Commit.ofOffset (offset : Int64) : Commit := { offset := offset }

/-- What a commit call records: at most one commit for each partition. -/
abbrev CommitMap := PartitionMap Commit

end ScriptedConsumer
