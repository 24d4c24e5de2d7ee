import ScriptedConsumer.OffsetList
import ScriptedConsumer.Proofs.Visits

set_option autoImplicit false

/-! # Commits on an offset list

Commits are put on an offset list one by one, in the order in which a map happens to be visited, and
the first one that the client library refuses ends it. Since a map has each partition once, the
list is then found to have a line for each commit and no other, or one of the commits is negative.

`OffsetLists.Promised` is what is relied on of the lists. It is little: of a partition that is on a
list already nothing is promised, since the offset might go to the line that is there. -/

namespace ScriptedConsumer

/-- The topic can be handed over as a text that ends at the first NUL. -/
def Partition.Terminable (p : Partition) : Prop := '\x00' ∉ p.topic.toList

instance : DecidablePred Partition.Terminable := fun p =>
  inferInstanceAs (Decidable ('\x00' ∉ p.topic.toList))

namespace OffsetLists

variable {ℓ : Type}

/-! ## What is relied on -/

/-- What the lists of a client library do with a partition that is not on them: a line with its
    offset is added at the end, and a negative offset is refused. -/
structure Promised (lists : OffsetLists ℓ) : Prop where
  elements_empty : lists.elements lists.empty = []
  addOffset_of_nonneg : ∀ (l : ℓ) (p : Partition) (offset : Int64), p.Terminable →
    p ∉ lists.partitions l → 0 ≤ offset →
      ∃ l', lists.addOffset l p offset = .ok l' ∧
        lists.elements l' = lists.elements l ++ [⟨p, some offset⟩]
  addOffset_of_neg : ∀ (l : ℓ) (p : Partition) (offset : Int64), p.Terminable → offset < 0 →
    ∃ e, lists.addOffset l p offset = .error e

/-- The line that carries a commit. -/
def lineOf (e : Partition × Commit) : OffsetEntry := ⟨e.1, some e.2.offset⟩

theorem partition_lineOf : OffsetEntry.partition ∘ lineOf = Prod.fst := rfl

/-! ## One commit after the other -/

section

variable {lists : OffsetLists ℓ} {l l' : ℓ} {e : Partition × Commit}
  {rest : List (Partition × Commit)}

theorem addCommits_cons_of_ok (h : lists.addOffset l e.1 e.2.offset = .ok l') :
    lists.addCommits l (e :: rest) = lists.addCommits l' rest := by
  unfold addCommits
  rw [List.foldlM_cons, h]
  rfl

theorem addCommits_cons_of_error {err : ClientError}
    (h : lists.addOffset l e.1 e.2.offset = .error err) :
    lists.addCommits l (e :: rest) = .error err := by
  unfold addCommits
  rw [List.foldlM_cons, h]
  rfl

end

/-- Of distinct partitions that are not on the list yet all commits come to be on it, or one of them
    is negative. -/
theorem addCommits_cases {lists : OffsetLists ℓ} (hlists : lists.Promised)
    {entries : List (Partition × Commit)} {l : ℓ} (hnames : ∀ e ∈ entries, e.1.Terminable)
    (hdistinct : (entries.map Prod.fst).Nodup) (hnew : ∀ e ∈ entries, e.1 ∉ lists.partitions l) :
    ((∀ e ∈ entries, 0 ≤ e.2.offset) ∧ ∃ l', lists.addCommits l entries = .ok l' ∧
      lists.elements l' = lists.elements l ++ entries.map lineOf) ∨
    ((∃ e ∈ entries, e.2.offset < 0) ∧ ∃ err, lists.addCommits l entries = .error err) := by
  induction entries generalizing l with
  | nil => exact .inl ⟨by simp, l, rfl, by simp⟩
  | cons e rest ih =>
      have hname : e.1.Terminable := hnames e (List.mem_cons_self ..)
      rw [List.map_cons, List.nodup_cons] at hdistinct
      by_cases hneg : e.2.offset < 0
      · obtain ⟨err, herr⟩ := hlists.addOffset_of_neg l e.1 e.2.offset hname hneg
        exact .inr ⟨⟨e, List.mem_cons_self .., hneg⟩, err, addCommits_cons_of_error herr⟩
      · have hoffset : 0 ≤ e.2.offset := Int64.not_lt.1 hneg
        obtain ⟨l₁, hok, helements⟩ :=
          hlists.addOffset_of_nonneg l e.1 e.2.offset hname (hnew e (List.mem_cons_self ..)) hoffset
        have hnew₁ : ∀ e' ∈ rest, e'.1 ∉ lists.partitions l₁ := by
          intro e' he' hmem
          unfold partitions at hmem
          rw [helements, List.map_append, List.mem_append] at hmem
          rcases hmem with hmem | hmem
          · exact hnew e' (List.mem_cons_of_mem _ he') hmem
          · -- the line that was just added is for another partition
            have hsame : e'.1 = e.1 := List.mem_singleton.1 hmem
            exact hdistinct.1 (hsame ▸ List.mem_map_of_mem he')
        have hrest := ih (fun e' he' => hnames e' (List.mem_cons_of_mem _ he')) hdistinct.2 hnew₁
        rw [addCommits_cons_of_ok hok]
        rcases hrest with ⟨hall, l', hadded, helements'⟩ | ⟨⟨e', he', hneg'⟩, err, herr⟩
        · refine .inl ⟨List.forall_mem_cons.2 ⟨hoffset, hall⟩, l', hadded, ?_⟩
          rw [helements', helements, List.append_assoc]
          rfl
        · exact .inr ⟨⟨e', List.mem_cons_of_mem _ he', hneg'⟩, err, herr⟩

/-! ## All commits of a map -/

/-- **Commits are carried by an offset list without loss**, whatever the order in which they are
    visited: the list comes about exactly if no commit is negative, it has one line for each commit,
    with its partition and its offset, and its partitions are those of the commits, each once. -/
theorem commits_carried {lists : OffsetLists ℓ} (hlists : lists.Promised)
    (visiting : Visiting Commit) {commits : CommitMap} (hnames : ∀ p ∈ commits, p.Terminable) :
    ((∃ l, lists.ofCommits visiting commits = .ok l) ↔
      ∀ (p : Partition) (commit : Commit), commits[p]? = some commit → 0 ≤ commit.offset) ∧
    ∀ l, lists.ofCommits visiting commits = .ok l →
      (lists.elements l).Perm (commits.toList.map lineOf) ∧
      (lists.partitions l).Perm commits.keys ∧ (lists.partitions l).Nodup := by
  have hdistinct : ((visiting.entries commits).map Prod.fst).Nodup := visiting.nodup_keys commits
  have hnone (p : Partition) : p ∉ lists.partitions lists.empty := by
    unfold partitions
    rw [hlists.elements_empty]
    exact List.not_mem_nil
  have hcases := addCommits_cases hlists (l := lists.empty)
    (fun e he => hnames e.1 (visiting.mem_of_mem_entries he)) hdistinct fun e _ => hnone e.1
  rcases hcases with ⟨hall, l, hok, helements⟩ | ⟨⟨⟨p, commit⟩, he, hneg⟩, err, herr⟩
  · constructor
    · refine ⟨fun _ p commit hp => ?_, fun _ => ⟨l, hok⟩⟩
      exact hall (p, commit) (visiting.mem_entries.2 hp)
    · intro l' hok'
      obtain rfl : l = l' := Except.ok.inj (hok.symm.trans hok')
      rw [hlists.elements_empty, List.nil_append] at helements
      have hpartitions : lists.partitions l = (visiting.entries commits).map Prod.fst := by
        unfold partitions
        rw [helements, List.map_map, partition_lineOf]
      rw [helements, hpartitions]
      exact ⟨(visiting.perm commits).map lineOf, visiting.perm_keys commits, hdistinct⟩
  · have hrefused (l : ℓ) : lists.ofCommits visiting commits ≠ .ok l := by
      intro hok
      cases herr.symm.trans hok
    constructor
    · refine ⟨fun ⟨l, hok⟩ => absurd hok (hrefused l), fun hall => ?_⟩
      exact absurd hneg (Int64.not_lt.2 (hall p commit (visiting.mem_entries.1 he)))
    · intro l hok
      exact absurd hok (hrefused l)

end OffsetLists

/-! ## Lists of lines -/

namespace OffsetList

/-- A list that keeps its lines as they are is all that is relied on, and more. -/
theorem promised : offered.Promised where
  elements_empty := rfl
  addOffset_of_nonneg l p offset _ _ h := by
    refine ⟨⟨l.elements ++ [⟨p, some offset⟩]⟩, ?_, rfl⟩
    exact if_neg (Int64.not_lt.2 h)
  addOffset_of_neg l p offset _ h := ⟨.setOffset .invalidArgument, if_pos h⟩

end OffsetList

/-- Commits of three partitions, one of which has a negative index. -/
def OffsetLists.threeCommits : CommitMap :=
  ((∅ : CommitMap).insert ⟨"orders", 1⟩ ⟨7, "batch 3"⟩).insert ⟨"orders", -2⟩ ⟨0, ""⟩
    |>.insert ⟨"invoices", 0⟩ ⟨Int64.maxValue, ""⟩

/-- Visited backwards, the commits of three partitions come to be on a list, and if one of them is
    negative they do not. -/
theorem OffsetLists.threeCommits_carried :
    (∃ l, OffsetList.ofCommits .backward threeCommits = .ok l ∧
      l.elements.Perm (threeCommits.toList.map lineOf) ∧ l.partitions.Nodup) ∧
    ¬ ∃ l, OffsetList.ofCommits .backward (threeCommits.insert ⟨"orders", 3⟩ ⟨-1, ""⟩) = .ok l := by
  have hnames : ∀ p ∈ threeCommits, p.Terminable := fun p hp =>
    (by decide +kernel : ∀ p ∈ threeCommits.keys, p.Terminable) p (Std.ExtTreeMap.mem_keys.2 hp)
  have hnames' : ∀ p ∈ threeCommits.insert ⟨"orders", 3⟩ ⟨-1, ""⟩, p.Terminable := fun p hp =>
    (by decide +kernel : ∀ p ∈ (threeCommits.insert ⟨"orders", 3⟩ ⟨-1, ""⟩).keys, p.Terminable) p
      (Std.ExtTreeMap.mem_keys.2 hp)
  constructor
  · obtain ⟨hiff, hlines⟩ := commits_carried OffsetList.promised .backward hnames
    obtain ⟨l, hok⟩ := hiff.2 fun p commit hp =>
      (by decide +kernel : ∀ e ∈ threeCommits.toList, 0 ≤ e.2.offset) (p, commit)
        (Std.ExtTreeMap.mem_toList_iff_getElem?_eq_some.2 hp)
    obtain ⟨helements, -, hdistinct⟩ := hlines l hok
    exact ⟨l, hok, helements, hdistinct⟩
  · intro hok
    have hall := (commits_carried OffsetList.promised .backward hnames').1.1 hok
    exact absurd (hall ⟨"orders", 3⟩ ⟨-1, ""⟩ (by decide +kernel)) (by decide)

end ScriptedConsumer
