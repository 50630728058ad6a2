/-
Module: QueryDesk.Proofs.Catalog.KeyOrder
Purpose: Relations in the order of their keys. The order is the lexicographic one of schema and name,
  each key appears once, as it was first listed, and a list that is sorted strictly by key is the only
  one with its members.
Imports: QueryDesk.Catalog.Schema
Main exports: RelationKey.le_iff, firstOfEachKey_eq_eraseDupsBy, firstOfEachKey_spec,
  index_of_firstOfEachKey, length_firstOfEachKey, pairwise_sortedByKey, sortedByKey_perm,
  sortedByKey_eq_of_perm, sortedByKey_filterMap
-/
import Mathlib.Data.Finset.Card
import Mathlib.Data.Prod.Lex
import Mathlib.Data.String.Basic
import QueryDesk.Catalog.Schema

namespace QueryDesk.Catalog

variable {α β : Type} {key : α → RelationKey} {items : List α}

theorem RelationKey.le_iff (a b : RelationKey) : a.le b = true ↔ toLex a ≤ toLex b := by
  rw [Prod.Lex.toLex_le_toLex]
  simp [RelationKey.le]

/-- One pass from the left keeps what remains when the later items of each key are erased. -/
theorem firstOfEachKey_eq_eraseDupsBy (key : α → RelationKey) (items : List α) :
    firstOfEachKey key items = items.eraseDupsBy fun later first => key first == key later := by
  suffices passed : ∀ kept : List α,
      items.foldl (fun kept item =>
        if kept.any fun other => key other == key item then kept else kept ++ [item]) kept =
      List.eraseDupsBy.loop (fun later first => key first == key later) items kept.reverse from
    passed []
  induction items with
  | nil => exact fun kept => (List.reverse_reverse kept).symm
  | cons item rest ih =>
    intro kept
    rw [List.foldl_cons, List.eraseDupsBy.loop, List.any_reverse]
    cases seen : kept.any fun other => key other == key item with
    | true => simpa only [if_true] using ih kept
    | false =>
      rw [if_neg Bool.false_ne_true, ih, List.reverse_append]
      rfl

theorem firstOfEachKey_cons (key : α → RelationKey) (item : α) (rest : List α) :
    firstOfEachKey key (item :: rest) =
      item :: firstOfEachKey key (rest.filter fun later => key item != key later) := by
  rw [firstOfEachKey_eq_eraseDupsBy, List.eraseDupsBy_cons, firstOfEachKey_eq_eraseDupsBy]
  simp only [Bool.decide_eq_false, bne]

/-- The first items have different keys and are among all items. -/
theorem firstOfEachKey_spec (key : α → RelationKey) : ∀ items : List α,
    (firstOfEachKey key items).Pairwise (fun a b => key a ≠ key b) ∧
      firstOfEachKey key items ⊆ items
  | [] => ⟨List.Pairwise.nil, List.Subset.refl []⟩
  | item :: rest => by
    obtain ⟨distinct, among⟩ :=
      firstOfEachKey_spec key (rest.filter fun later => key item != key later)
    rw [firstOfEachKey_cons]
    refine ⟨List.pairwise_cons.2 ⟨fun other member => ?_, distinct⟩,
      List.cons_subset_cons item (List.Subset.trans among (List.filter_subset_self _))⟩
    exact bne_iff_ne.1 (List.mem_filter.1 (among member)).2
termination_by items => items.length
decreasing_by exact Nat.lt_succ_of_le (List.length_filter_le _ rest)

/-- Every key that is there stays. -/
theorem exists_mem_firstOfEachKey (key : α → RelationKey) : ∀ (items : List α) {item : α},
    item ∈ items → ∃ first ∈ firstOfEachKey key items, key first = key item
  | first :: rest, item, member => by
    rw [firstOfEachKey_cons]
    by_cases same : key first = key item
    · exact ⟨first, List.mem_cons_self, same⟩
    · have inside : item ∈ rest := by
        rcases List.mem_cons.1 member with rfl | inside
        · exact absurd rfl same
        · exact inside
      obtain ⟨found, among, equal⟩ := exists_mem_firstOfEachKey key
        (rest.filter fun later => key first != key later)
        (List.mem_filter.2 ⟨inside, bne_iff_ne.2 same⟩)
      exact ⟨found, List.mem_cons_of_mem first among, equal⟩
termination_by items => items.length
decreasing_by exact Nat.lt_succ_of_le (List.length_filter_le _ rest)

/-- The key of a first item tells its place. -/
theorem index_of_firstOfEachKey {i j : Nat} {a b : α}
    (first : (firstOfEachKey key items)[i]? = some a)
    (second : (firstOfEachKey key items)[j]? = some b) (same : key a = key b) : i = j := by
  have nodup : ((firstOfEachKey key items).map key).Nodup :=
    List.pairwise_map.2 (firstOfEachKey_spec key items).1
  have inside : i < ((firstOfEachKey key items).map key).length := by
    rw [List.length_map]
    exact (List.getElem?_eq_some_iff.1 first).1
  refine (List.getElem?_inj inside nodup).1 ?_
  rw [List.getElem?_map, List.getElem?_map, first, second, Option.map_some, Option.map_some, same]

/-- There are as many first items as there are keys. -/
theorem length_firstOfEachKey (key : α → RelationKey) (items : List α) :
    (firstOfEachKey key items).length = (items.map key).toFinset.card := by
  obtain ⟨distinct, among⟩ := firstOfEachKey_spec key items
  have nodup : ((firstOfEachKey key items).map key).Nodup := List.pairwise_map.2 distinct
  have same : ((firstOfEachKey key items).map key).toFinset = (items.map key).toFinset := by
    ext wanted
    simp only [List.mem_toFinset, List.mem_map]
    constructor
    · rintro ⟨item, member, rfl⟩
      exact ⟨item, among member, rfl⟩
    · rintro ⟨item, member, rfl⟩
      exact exists_mem_firstOfEachKey key items member
  rw [← same, List.toFinset_card_of_nodup nodup, List.length_map]

/-- Items with different keys all stay. -/
theorem firstOfEachKey_of_distinct (distinct : items.Pairwise fun a b => key a ≠ key b) :
    firstOfEachKey key items = items := by
  induction items with
  | nil => rfl
  | cons item rest ih =>
    obtain ⟨here, others⟩ := List.pairwise_cons.1 distinct
    rw [firstOfEachKey_cons, List.filter_eq_self.2, ih others]
    exact fun other member => bne_iff_ne.2 (here other member)

/-! ### The order of keys

A list that is sorted strictly by key is the only one with its members. So it is enough to know which
relations a schema has, and in which order they came to it makes no difference. -/

theorem pairwise_mergeSort_of_distinct (distinct : items.Pairwise fun a b => key a ≠ key b) :
    (items.mergeSort fun a b => toLex (key a) ≤ toLex (key b)).Pairwise
      fun a b => toLex (key a) < toLex (key b) := by
  have sorted := @List.pairwise_mergeSort α (fun a b => decide (toLex (key a) ≤ toLex (key b)))
    (fun a b c first second => by
      simp only [decide_eq_true_eq] at first second ⊢
      exact first.trans second)
    (fun a b => by simpa using le_total (toLex (key a)) (toLex (key b))) items
  have apart := ((List.mergeSort_perm items fun a b => decide (toLex (key a) ≤ toLex (key b))).pairwise_iff
    fun differ => Ne.symm differ).2 distinct
  refine (sorted.and apart).imp fun {a b} both => ?_
  exact lt_of_le_of_ne (of_decide_eq_true both.1) fun same => both.2 (toLex.injective same)

theorem sortedByKey_eq_mergeSort (key : α → RelationKey) (items : List α) :
    sortedByKey key items =
      (firstOfEachKey key items).mergeSort fun a b => toLex (key a) ≤ toLex (key b) := by
  have order : (fun a b : α => (key a).le (key b)) = fun a b => decide (toLex (key a) ≤ toLex (key b)) := by
    funext a b
    rw [Bool.eq_iff_iff, RelationKey.le_iff, decide_eq_true_eq]
  rw [sortedByKey, order]

/-- The keys of sorted items grow strictly, so that none is there twice. -/
theorem pairwise_sortedByKey (key : α → RelationKey) (items : List α) :
    (sortedByKey key items).Pairwise fun a b => toLex (key a) < toLex (key b) := by
  rw [sortedByKey_eq_mergeSort]
  exact pairwise_mergeSort_of_distinct (firstOfEachKey_spec key items).1

/-- Sorting keeps all items if their keys are different. -/
theorem sortedByKey_perm (distinct : items.Pairwise fun a b => key a ≠ key b) :
    (sortedByKey key items).Perm items := by
  rw [sortedByKey_eq_mergeSort, firstOfEachKey_of_distinct distinct]
  exact List.mergeSort_perm items _

/-- Sorting gives the one list with the same items that is strictly sorted by key. -/
theorem sortedByKey_eq_of_perm {sorted : List α} (perm : items.Perm sorted)
    (strict : sorted.Pairwise fun a b => toLex (key a) < toLex (key b)) :
    sortedByKey key items = sorted := by
  have distinct : items.Pairwise fun a b => key a ≠ key b :=
    (perm.pairwise_iff fun differ => Ne.symm differ).2
      (strict.imp fun before same => before.ne (congrArg toLex same))
  exact List.Perm.eq_of_pairwise (fun a b _ _ before after => absurd before after.asymm)
    (pairwise_sortedByKey key items) strict ((sortedByKey_perm distinct).trans perm)

/-- Describing relations keeps them in order: it does not matter whether they are sorted before or
after, as long as each is described under its own key. -/
theorem sortedByKey_filterMap {describedKey : β → RelationKey} {describe : α → Option β}
    (distinct : items.Pairwise fun a b => key a ≠ key b)
    (keeps : ∀ item ∈ items, ∀ found, describe item = some found → describedKey found = key item) :
    sortedByKey describedKey (items.filterMap describe) =
        (items.mergeSort fun a b => toLex (key a) ≤ toLex (key b)).filterMap describe ∧
      (sortedByKey describedKey (items.filterMap describe)).Pairwise
        fun a b => toLex (describedKey a) < toLex (describedKey b) := by
  have perm := List.mergeSort_perm items fun a b => decide (toLex (key a) ≤ toLex (key b))
  have strict : ((items.mergeSort fun a b => decide (toLex (key a) ≤ toLex (key b))).filterMap
      describe).Pairwise fun a b => toLex (describedKey a) < toLex (describedKey b) := by
    refine List.pairwise_filterMap.2
      ((pairwise_mergeSort_of_distinct distinct).imp_of_mem fun {a b} first second before => ?_)
    intro x found y other
    rw [keeps a (perm.mem_iff.1 first) x found, keeps b (perm.mem_iff.1 second) y other]
    exact before
  have same := sortedByKey_eq_of_perm (perm.filterMap describe).symm strict
  exact ⟨same, same ▸ strict⟩

end QueryDesk.Catalog
