import ScriptedConsumer.Proofs.Actions
import ScriptedConsumer.Record

set_option autoImplicit false

/-! # Walking a map in any order

Two orders of visit meet the same entries of a map, each of them once, so what is added up over a
map is the same in both. What a loop does over a map is the same if any two of its items may change
places; `Action.run_each_perm` says so, and it asks that only in the states that the loop can meet,
as far as an invariant tells them. -/

namespace ScriptedConsumer

/-! ## Entries -/

namespace Visiting

variable {β : Type}

/-- The order of visit that follows the order of partitions backwards. -/
def backward : Visiting β := ⟨fun m => m.toList.reverse, fun m => m.toList.reverse_perm⟩

section

variable (visiting : Visiting β) {m : PartitionMap β}

theorem mem_entries {p : Partition} {b : β} :
    (p, b) ∈ visiting.entries m ↔ m[p]? = some b := by
  rw [(visiting.perm m).mem_iff, Std.ExtTreeMap.mem_toList_iff_getElem?_eq_some]

theorem perm_entries (visiting' : Visiting β) (m : PartitionMap β) :
    (visiting.entries m).Perm (visiting'.entries m) :=
  (visiting.perm m).trans (visiting'.perm m).symm

theorem perm_keys (m : PartitionMap β) : ((visiting.entries m).map Prod.fst).Perm m.keys := by
  rw [← Std.ExtTreeMap.map_fst_toList_eq_keys]
  exact (visiting.perm m).map Prod.fst

theorem nodup_keys (m : PartitionMap β) : ((visiting.entries m).map Prod.fst).Nodup := by
  rw [(visiting.perm_keys m).nodup_iff]
  exact Std.ExtTreeMap.nodup_keys

theorem mem_keys {p : Partition} : p ∈ (visiting.entries m).map Prod.fst ↔ p ∈ m :=
  (visiting.perm_keys m).mem_iff.trans Std.ExtTreeMap.mem_keys

theorem mem_of_mem_entries {e : Partition × β} (h : e ∈ visiting.entries m) : e.1 ∈ m :=
  visiting.mem_keys.1 (List.mem_map_of_mem h)

end

end Visiting

/-- The number of records in the given groups, counted group by group. -/
def countRecords (groups : List (Partition × List Record)) : Nat :=
  (groups.map fun group => group.2.length).foldr (· + ·) 0

theorem countRecords_perm {groups groups' : List (Partition × List Record)}
    (h : groups.Perm groups') : countRecords groups = countRecords groups' :=
  (h.map _).sum_nat

/-- The number of records in all groups does not depend on the order in which they are counted. -/
theorem countRecords_entries (visiting : Visiting (List Record)) (groups : RecordMap) :
    countRecords (visiting.entries groups) = recordCount groups := by
  rw [countRecords_perm (visiting.perm groups)]
  unfold recordCount
  rw [List.length_flatMap]
  rfl

/-! ## Loops -/

namespace Action

variable {σ ι : Type}

/-- **A loop whose items may change places** does the same in any order. -/
theorem run_each_perm {I : σ → Prop} {f : ι → Action σ Unit} {xs ys : List ι} (h : xs.Perm ys)
    (hkeep : ∀ x ∈ xs, Maintains I (f x))
    (hswap : xs.Pairwise fun x y => ∀ s, I s →
      (f x >>= fun _ => f y).run s = (f y >>= fun _ => f x).run s)
    {s : σ} (hs : I s) : (each f xs).run s = (each f ys).run s := by
  induction h generalizing s with
  | nil => rfl
  | cons x _ ih =>
      rw [each_cons, each_cons]
      refine run_bind_congr ?_
      intro _ _
      exact ih (fun y hy => hkeep y (List.mem_cons_of_mem _ hy)) (List.pairwise_cons.1 hswap).2
        (hkeep x (List.mem_cons_self ..) s hs)
  | swap x y rest =>
      -- the first two items together are the same operation either way
      have hpair : (f y >>= fun _ => f x).run s = (f x >>= fun _ => f y).run s :=
        (List.pairwise_cons.1 hswap).1 x (List.mem_cons_self ..) s hs
      have htogether (a b : ι) :
          each f (a :: b :: rest) = (f a >>= fun _ => f b) >>= fun _ => each f rest := by
        rw [each_cons, each_cons, bind_assoc]
      rw [htogether, htogether]
      exact run_bind_of_eq hpair _
  | trans hxs _ ih ih' =>
      refine (ih hkeep hswap hs).trans (ih' ?_ ?_ hs)
      · intro x hx
        exact hkeep x (hxs.mem_iff.2 hx)
      · refine (hxs.pairwise_iff ?_).1 hswap
        intro x y hxy s hs
        exact (hxy s hs).symm

end Action

end ScriptedConsumer
