import Mathlib.Data.List.Sort
import PacketFilter.Metrics

/-!
# Samples that are counted

Samples are kept in strictly increasing order of their label values (`ordered_update`), so changing
one changes what is found under its own label values only (`get?_update`). A counter that goes up
once for each of some items therefore holds the number of items with its label values
(`count_foldl_bump`). A family that is only counted in has one sample for each key that was used,
with the number of its uses, where keys that are the same to the family count as one (`Tallies`). A
gauge holds what was put there last (`get?_foldl_put`).
-/
namespace PacketFilter.Samples

/-- Samples in strictly increasing order of their label values. -/
def Ordered (samples : Samples) : Prop := samples.Pairwise fun left right => left.1 < right.1

/-- The number under label values, which is zero where they were never used. -/
def count (samples : Samples) (labels : List String) : Nat := (samples.get? labels).getD 0

variable {samples : Samples} {labels : List String} {change : Nat → Nat}

/-- The label values after a change are those before it and those that were changed. -/
theorem mem_update {entry : List String × Nat} (within : entry ∈ samples.update labels change) :
    entry.1 = labels ∨ ∃ old ∈ samples, old.1 = entry.1 := by
  induction samples with
  | nil =>
    obtain rfl := List.mem_singleton.1 within
    exact .inl rfl
  | cons first rest ih =>
    obtain ⟨other, value⟩ := first
    unfold update at within
    split at within
    · next same =>
      rcases List.mem_cons.1 within with rfl | later
      · exact .inl same.symm
      · exact .inr ⟨entry, List.mem_cons_of_mem _ later, rfl⟩
    · split at within
      · rcases List.mem_cons.1 within with rfl | later
        · exact .inl rfl
        · exact .inr ⟨entry, later, rfl⟩
      · rcases List.mem_cons.1 within with rfl | later
        · exact .inr ⟨_, List.mem_cons_self, rfl⟩
        · exact (ih later).imp_right fun ⟨old, inside, same⟩ =>
            ⟨old, List.mem_cons_of_mem _ inside, same⟩

/-- A change keeps the order. -/
theorem ordered_update (ordered : Ordered samples) (labels : List String) (change : Nat → Nat) :
    Ordered (samples.update labels change) := by
  induction samples with
  | nil => exact List.pairwise_singleton _ _
  | cons first rest ih =>
    obtain ⟨other, value⟩ := first
    obtain ⟨below, later⟩ := List.pairwise_cons.1 ordered
    unfold update
    split
    · exact List.pairwise_cons.2 ⟨below, later⟩
    · next differs =>
      split
      · next before =>
        refine List.pairwise_cons.2 ⟨fun entry within => ?_, ordered⟩
        rcases List.mem_cons.1 within with rfl | inside
        · exact before
        · exact List.lt_trans before (below entry inside)
      · next notBefore =>
        refine List.pairwise_cons.2 ⟨fun entry within => ?_, ih later⟩
        rcases mem_update within with same | ⟨old, inside, same⟩
        · rw [same]
          refine Classical.byContradiction fun notAfter => ?_
          exact differs (List.le_antisymm (List.not_lt.1 notAfter) (List.not_lt.1 notBefore))
        · rw [← same]
          exact below old inside

/-- Label values below all that were used are found nowhere. -/
theorem get?_eq_none_of_lt (below : ∀ entry ∈ samples, labels < entry.1) :
    samples.get? labels = none := by
  refine List.lookup_eq_none_iff.2 fun entry within => ?_
  simpa using Std.ne_of_lt (below entry within)

/-- A change is found under its own label values. -/
theorem get?_update_same (ordered : Ordered samples) (labels : List String) (change : Nat → Nat) :
    Samples.get? (samples.update labels change) labels =
      some (change (samples.count labels)) := by
  induction samples with
  | nil => simp [update, get?, count]
  | cons first rest ih =>
    obtain ⟨other, value⟩ := first
    obtain ⟨below, later⟩ := List.pairwise_cons.1 ordered
    unfold update
    split
    · next same => simp [get?, count, same]
    · next differs =>
      have skipped : (labels == other) = false := by simpa using differs
      split
      · next before =>
        have unused : Samples.get? ((other, value) :: rest) labels = none := by
          refine get?_eq_none_of_lt (List.forall_mem_cons.2 ⟨before, fun entry within => ?_⟩)
          exact List.lt_trans before (below entry within)
        rw [count, unused]
        exact List.lookup_cons_self
      · have passed : ∀ values : Samples,
            Samples.get? ((other, value) :: values) labels = values.get? labels := by
          intro values
          rw [get?, List.lookup_cons, skipped, get?]
        rw [passed, ih later]
        simp only [count, passed]

/-- A change is found under no other label values. -/
theorem get?_update_of_ne {other : List String} (differs : other ≠ labels)
    (change : Nat → Nat) :
    Samples.get? (samples.update labels change) other = samples.get? other := by
  have skipped : (other == labels) = false := by simpa using differs
  induction samples with
  | nil =>
    rw [update, get?, List.lookup_cons, skipped]
    rfl
  | cons first rest ih =>
    obtain ⟨known, value⟩ := first
    unfold update
    split
    · next same => rw [get?, List.lookup_cons, get?, List.lookup_cons, ← same, skipped]
    · split
      · rw [get?, List.lookup_cons, skipped, get?]
      · rw [get?] at ih ⊢
        rw [List.lookup_cons, ih, get?, get?, List.lookup_cons]

/-- Counting raises the number under its own label values by one, and no other. -/
theorem count_bump (ordered : Ordered samples) (labels other : List String) :
    count (samples.bump labels) other =
      samples.count other + if labels = other then 1 else 0 := by
  by_cases same : labels = other
  · rw [← same, if_pos rfl, count, bump, get?_update_same ordered, Option.getD_some]
  · rw [if_neg same, Nat.add_zero, count, bump, get?_update_of_ne (Ne.symm same), count]

/-- Counting keeps the order. -/
theorem ordered_bump (ordered : Ordered samples) (labels : List String) :
    Ordered (samples.bump labels) :=
  ordered_update ordered labels _

/-- A counter that goes up once for each item goes up by the number of items with its label
values. -/
theorem count_foldl_bump {α : Type} (labelsOf : α → List String) (items : List α)
    (ordered : Ordered samples) (labels : List String) :
    count (items.foldl (fun counted item => counted.bump (labelsOf item)) samples) labels =
      samples.count labels + items.countP fun item => labelsOf item = labels := by
  induction items generalizing samples with
  | nil => rfl
  | cons item rest ih =>
    rw [List.foldl_cons, ih (ordered_bump ordered (labelsOf item)), count_bump ordered,
      List.countP_cons, Nat.add_assoc, Nat.add_comm (if labelsOf item = labels then 1 else 0)]
    simp only [decide_eq_true_eq]

/-! ## Samples that were put -/

/-- The samples are the numbers that are found under their label values. -/
theorem mem_iff_get? (ordered : Ordered samples) {value : Nat} :
    (labels, value) ∈ samples ↔ samples.get? labels = some value := by
  induction samples with
  | nil => simp [get?]
  | cons first rest ih =>
    obtain ⟨other, known⟩ := first
    obtain ⟨below, later⟩ := List.pairwise_cons.1 ordered
    by_cases same : labels = other
    · subst same
      have notLater : (labels, value) ∉ rest := fun within =>
        List.lt_irrefl labels (below _ within)
      have found : Samples.get? ((labels, known) :: rest) labels = some known :=
        List.lookup_cons_self
      rw [found, List.mem_cons, or_iff_left notLater, Prod.mk.injEq, Option.some.injEq]
      exact ⟨fun equal => equal.2.symm, fun equal => ⟨rfl, equal.symm⟩⟩
    · have skipped : (labels == other) = false := by simpa using same
      have passed : Samples.get? ((other, known) :: rest) labels = Samples.get? rest labels := by
        rw [get?, List.lookup_cons, skipped, get?]
      have notFirst : (labels, value) ≠ (other, known) := fun equal =>
        same (congrArg Prod.fst equal)
      rw [passed, List.mem_cons, or_iff_right notFirst]
      exact ih later

/-- Counting changes no sample under other label values. -/
theorem mem_bump_iff_of_ne (ordered : Ordered samples) {other : List String}
    (differs : labels ≠ other) {value : Nat} :
    (labels, value) ∈ samples.bump other ↔ (labels, value) ∈ samples := by
  rw [mem_iff_get? (ordered_bump ordered other), mem_iff_get? ordered, bump,
    get?_update_of_ne differs]

/-- Ordered samples are the same if the same is found under all label values. -/
theorem ext_get? {left right : Samples} (ordered : Ordered left) (orderedToo : Ordered right)
    (alike : ∀ labels, left.get? labels = right.get? labels) : left = right := by
  have irreflexive : Std.Irrefl fun first second : List String × Nat => first.1 < second.1 :=
    ⟨fun entry => List.lt_irrefl entry.1⟩
  have antisymmetric : Std.Antisymm fun first second : List String × Nat => first.1 < second.1 :=
    ⟨fun first _ before after => absurd (List.lt_trans before after) (List.lt_irrefl first.1)⟩
  refine ordered.eq_of_mem_iff orderedToo fun (labels, value) => ?_
  rw [mem_iff_get? ordered, mem_iff_get? orderedToo, alike]

section Put

variable {α : Type} (labelsOf : α → List String) (valueOf : α → Nat) {items : List α}

/-- Putting numbers keeps the order. -/
theorem ordered_foldl_put (ordered : Ordered samples) (items : List α) :
    Ordered (items.foldl (fun known item => known.put (labelsOf item) (valueOf item)) samples) := by
  induction items generalizing samples with
  | nil => exact ordered
  | cons item rest ih => exact ih (ordered_update ordered (labelsOf item) _)

/-- Numbers that are put change nothing under other label values. -/
theorem get?_foldl_put_of_forall_ne (differs : ∀ item ∈ items, labelsOf item ≠ labels) :
    Samples.get? (items.foldl (fun known item => known.put (labelsOf item) (valueOf item)) samples)
      labels = samples.get? labels := by
  induction items generalizing samples with
  | nil => rfl
  | cons item rest ih =>
    obtain ⟨first, later⟩ := List.forall_mem_cons.1 differs
    rw [List.foldl_cons, ih later]
    exact get?_update_of_ne (Ne.symm first) _

/-- The number that is put for an item is found under its label values, if no item after it has the
same ones. -/
theorem get?_foldl_put (ordered : Ordered samples)
    (distinct : items.Pairwise fun left right => labelsOf left ≠ labelsOf right) {item : α}
    (within : item ∈ items) :
    Samples.get? (items.foldl (fun known item => known.put (labelsOf item) (valueOf item)) samples)
      (labelsOf item) = some (valueOf item) := by
  induction items generalizing samples with
  | nil => exact absurd within List.not_mem_nil
  | cons first rest ih =>
    obtain ⟨differs, later⟩ := List.pairwise_cons.1 distinct
    rw [List.foldl_cons]
    rcases List.mem_cons.1 within with rfl | behind
    · have others : ∀ other ∈ rest, labelsOf other ≠ labelsOf item :=
        fun other inside => Ne.symm (differs other inside)
      rw [get?_foldl_put_of_forall_ne labelsOf valueOf others]
      exact get?_update_same ordered _ _
    · exact ih (ordered_update ordered _ _) later behind

end Put

/-! ## Samples of what was counted -/

/-- There is one sample for all keys that are the same, if one of them was used, with the number of
their uses, and no other. -/
structure Tallies {κ : Type} (samples : Samples) (labelsOf : κ → List String)
    (same : κ → κ → Prop) [DecidableRel same] (uses : List κ) : Prop where
  /-- No label values occur twice. -/
  ordered : Ordered samples
  /-- The samples are those of the keys. -/
  mem_iff : ∀ entry, entry ∈ samples ↔
    ∃ key ∈ uses, entry = (labelsOf key, uses.countP (same key ·))

section Tallies

variable {κ : Type} {labelsOf : κ → List String} {same : κ → κ → Prop} [DecidableRel same]
  {uses : List κ}

/-- Where nothing was used there are no samples. -/
theorem tallies_nil (labelsOf : κ → List String) (same : κ → κ → Prop) [DecidableRel same] :
    Tallies [] labelsOf same [] where
  ordered := List.Pairwise.nil
  mem_iff entry := by simp

section Labels

variable (tells : ∀ left right, labelsOf left = labelsOf right ↔ same left right)
include tells

/-- Keys with the same label values have the same number of uses. -/
theorem countP_same_congr {left right : κ} (labels : labelsOf left = labelsOf right)
    (uses : List κ) : uses.countP (same left ·) = uses.countP (same right ·) := by
  refine List.countP_congr fun other _ => ?_
  rw [decide_eq_true_iff, decide_eq_true_iff, ← tells, ← tells, labels]

/-- The number under the label values of a key is the number of its uses. -/
theorem Tallies.count_eq (tallies : Tallies samples labelsOf same uses) (key : κ) :
    samples.count (labelsOf key) = uses.countP (same key ·) := by
  cases found : samples.get? (labelsOf key) with
  | some value =>
    obtain ⟨used, -, equal⟩ := (tallies.mem_iff _).1 ((mem_iff_get? tallies.ordered).2 found)
    obtain ⟨labels, number⟩ := Prod.mk.inj equal
    rw [count, found, Option.getD_some, number, countP_same_congr tells labels]
  | none =>
    have unused : uses.countP (same key ·) = 0 := by
      refine List.countP_eq_zero.2 fun used within isSame => ?_
      have labels := (tells key used).2 (of_decide_eq_true isSame)
      have sampled := (tallies.mem_iff _).2 ⟨used, within, rfl⟩
      rw [← labels, mem_iff_get? tallies.ordered, found] at sampled
      cases sampled
    rw [count, found, Option.getD_none, unused]

/-- One more use of a key is none of a key with other label values. -/
theorem countP_same_concat_of_ne {used key : κ} (differs : labelsOf used ≠ labelsOf key)
    (uses : List κ) : (uses ++ [key]).countP (same used ·) = uses.countP (same used ·) := by
  have notSame : ¬ same used key := fun isSame => differs ((tells used key).2 isSame)
  rw [List.countP_append, List.countP_singleton, if_neg (by simpa using notSame), Nat.add_zero]

/-- Counting once more under the label values of a key leaves one use more there. -/
theorem Tallies.mem_bump_self_iff (tallies : Tallies samples labelsOf same uses) (key : κ)
    {value : Nat} : (labelsOf key, value) ∈ samples.bump (labelsOf key) ↔
      value = (uses ++ [key]).countP (same key ·) := by
  have itself : same key key := (tells key key).1 rfl
  rw [mem_iff_get? (ordered_bump tallies.ordered _), Samples.bump,
    get?_update_same tallies.ordered, tallies.count_eq tells, List.countP_append,
    List.countP_singleton, if_pos (decide_eq_true itself), Option.some.injEq]
  exact eq_comm

/-- Counting once more under the label values of a key is one more use of it. -/
theorem Tallies.bump (tallies : Tallies samples labelsOf same uses) (key : κ) :
    Tallies (samples.bump (labelsOf key)) labelsOf same (uses ++ [key]) where
  ordered := ordered_bump tallies.ordered _
  mem_iff := by
    rintro ⟨labels, value⟩
    by_cases isKey : labels = labelsOf key
    · rw [isKey, tallies.mem_bump_self_iff tells]
      constructor
      · rintro rfl
        exact ⟨key, List.mem_concat_self, rfl⟩
      · rintro ⟨used, -, equal⟩
        obtain ⟨labels, number⟩ := Prod.mk.inj equal
        rw [number, countP_same_congr tells labels]
    · rw [mem_bump_iff_of_ne tallies.ordered isKey, tallies.mem_iff]
      constructor
      · rintro ⟨used, within, equal⟩
        have isUsed : labels = labelsOf used := congrArg Prod.fst equal
        have differs : labelsOf used ≠ labelsOf key := isUsed ▸ isKey
        refine ⟨used, List.mem_append_left _ within, ?_⟩
        rw [countP_same_concat_of_ne tells differs]
        exact equal
      · rintro ⟨used, within, equal⟩
        have isUsed : labels = labelsOf used := congrArg Prod.fst equal
        have differs : labelsOf used ≠ labelsOf key := isUsed ▸ isKey
        rw [countP_same_concat_of_ne tells differs] at equal
        rcases List.mem_append.1 within with before | last
        · exact ⟨used, before, equal⟩
        · exact absurd (congrArg labelsOf (List.mem_singleton.1 last)) differs

/-- Counting under the label values of keys in order is one more use of each. -/
theorem Tallies.foldl_bump (tallies : Tallies samples labelsOf same uses) (keys : List κ) :
    Tallies (keys.foldl (fun counted key => counted.bump (labelsOf key)) samples) labelsOf same
      (uses ++ keys) := by
  induction keys generalizing samples uses with
  | nil => rwa [List.append_nil]
  | cons key rest ih =>
    have next := ih (tallies.bump tells key)
    rwa [List.append_assoc, List.singleton_append] at next

/-- More uses leave no number less. -/
theorem Tallies.count_le {later : Samples} {more : List κ}
    (tallies : Tallies samples labelsOf same uses)
    (talliesLater : Tallies later labelsOf same (uses ++ more)) (labels : List String) :
    samples.count labels ≤ later.count labels := by
  cases found : samples.get? labels with
  | none =>
    rw [count, found, Option.getD_none]
    exact Nat.zero_le _
  | some value =>
    obtain ⟨key, -, equal⟩ := (tallies.mem_iff _).1 ((mem_iff_get? tallies.ordered).2 found)
    have isKey : labels = labelsOf key := congrArg Prod.fst equal
    rw [isKey, tallies.count_eq tells, talliesLater.count_eq tells, List.countP_append]
    exact Nat.le_add_right _ _

end Labels

end Tallies

end PacketFilter.Samples
