import Mathlib.Data.List.Flatten
import Mathlib.Data.List.Forall2
import Mathlib.Data.List.Nodup

/-!
# Lists

A list without its repetitions, a list of results of which each may be missing or an error, lists
that are related item by item, and lists of which items are left out or counted.
-/

namespace RowLog

section

variable {α : Type} [BEq α] [LawfulBEq α]

theorem nodup_eraseDups (items : List α) : items.eraseDups.Nodup := by
  induction length : items.length using Nat.strongRecOn generalizing items with
  | ind size ih =>
      cases items with
      | nil => simp
      | cons item rest =>
          rw [List.eraseDups_cons, List.nodup_cons]
          constructor
          · simp [List.mem_eraseDups]
          · have shorter := List.length_filter_le (fun other => !other == item) rest
            rw [List.length_cons] at length
            exact ih _ (by omega) _ rfl

end

section

variable {ε α β : Type}

theorem bind_eq_ok_iff {result : Except ε α} {next : α → Except ε β} {final : β} :
    result >>= next = .ok final ↔ ∃ value, result = .ok value ∧ next value = .ok final := by
  cases result with
  | error cause => simp [bind, Except.bind]
  | ok value => simp [bind, Except.bind]

theorem map_eq_ok_iff {result : Except ε α} {change : α → β} {final : β} :
    result.map change = .ok final ↔ ∃ value, result = .ok value ∧ change value = final := by
  cases result with
  | error cause => simp [Except.map]
  | ok value => simp [Except.map]

/-- What has a result has not been refused before. -/
theorem eq_ok_of_guard {refused : Prop} [Decidable refused] {cause : ε}
    {after : PUnit → Except ε α} {rest : Except ε α} {final : α}
    (found : (if refused then throw cause >>= after else rest) = .ok final) :
    ¬refused ∧ rest = .ok final := by
  split at found
  · cases found
  · next isAllowed => exact ⟨isAllowed, found⟩

theorem mapM_eq_ok_iff {step : α → Except ε β} {items : List α} {results : List β} :
    items.mapM step = .ok results ↔
      List.Forall₂ (fun item result => step item = .ok result) items results := by
  induction items generalizing results with
  | nil => simp [pure, Except.pure, eq_comm]
  | cons item rest ih =>
      rw [List.mapM_cons, bind_eq_ok_iff, List.forall₂_cons_left_iff]
      simp only [bind_eq_ok_iff, ih, pure, Except.pure, Except.ok.injEq]
      constructor
      · rintro ⟨first, firstEq, others, othersEq, rfl⟩
        exact ⟨first, others, firstEq, othersEq, rfl⟩
      · rintro ⟨first, others, firstEq, othersEq, rfl⟩
        exact ⟨first, firstEq, others, othersEq, rfl⟩

theorem forall₂_map_map {γ : Type} {relation : α → β → Prop} {write : γ → α} {value : γ → β}
    (items : List γ) (related : ∀ item ∈ items, relation (write item) (value item)) :
    List.Forall₂ relation (items.map write) (items.map value) := by
  rw [List.forall₂_map_left_iff, List.forall₂_map_right_iff, List.forall₂_same]
  exact related

theorem forall₂_mapIdx_map {γ : Type} {relation : α → β → Prop} {write : Nat → γ → α}
    {value : γ → β} (items : List γ)
    (related : ∀ place, ∀ item ∈ items, relation (write place item) (value item)) :
    List.Forall₂ relation (items.mapIdx write) (items.map value) := by
  induction items generalizing write with
  | nil => exact .nil
  | cons item items ih =>
      rw [List.mapIdx_cons]
      refine .cons (related 0 item (by simp)) (ih fun place other otherMem => ?_)
      exact related (place + 1) other (by simp [otherMem])

theorem exists_mem_of_forall₂ {relation : α → β → Prop} {items : List α} {results : List β}
    (related : List.Forall₂ relation items results) {result : β} (resultMem : result ∈ results) :
    ∃ item ∈ items, relation item result := by
  induction related with
  | nil => simp at resultMem
  | cons first _ ih =>
      rcases List.mem_cons.mp resultMem with rfl | laterMem
      · exact ⟨_, by simp, first⟩
      · rcases ih laterMem with ⟨item, itemMem, holds⟩
        exact ⟨item, by simp [itemMem], holds⟩

theorem exists_common_of_forall₂ {relation other : α → β → Prop} {items : List α}
    {results : List β} (related : List.Forall₂ relation items results)
    (otherRelated : List.Forall₂ other items results) {item : α} (itemMem : item ∈ items) :
    ∃ result, relation item result ∧ other item result := by
  induction related with
  | nil => simp at itemMem
  | cons first _ ih =>
      cases otherRelated with
      | cons otherFirst otherLater =>
          rcases List.mem_cons.mp itemMem with rfl | laterMem
          · exact ⟨_, first, otherFirst⟩
          · exact ih otherLater laterMem

theorem exists_forall₂ {relation : α → β → Prop} {items : List α}
    (each : ∀ item ∈ items, ∃ result, relation item result) :
    ∃ results, List.Forall₂ relation items results := by
  induction items with
  | nil => exact ⟨[], .nil⟩
  | cons item rest ih =>
      rcases each item (by simp) with ⟨first, holds⟩
      rcases ih fun other otherMem => each other (by simp [otherMem]) with ⟨others, related⟩
      exact ⟨first :: others, .cons holds related⟩

theorem exists_mem_of_mapM_eq_ok {step : α → Except ε β} {items : List α} {results : List β}
    (mapped : items.mapM step = .ok results) {item : α} (itemMem : item ∈ items) :
    ∃ result ∈ results, step item = .ok result :=
  exists_mem_of_forall₂ (List.Forall₂.flip (mapM_eq_ok_iff.mp mapped)) itemMem

/-- Whether every item has a result is all that matters for whether they have results together. -/
theorem exists_mapM_eq_ok {step : α → Except ε β} {items : List α}
    (each : ∀ item ∈ items, ∃ result, step item = .ok result) :
    ∃ results, items.mapM step = .ok results := by
  induction items with
  | nil => exact ⟨[], rfl⟩
  | cons item rest ih =>
      rcases each item (by simp) with ⟨first, firstEq⟩
      rcases ih fun other otherMem => each other (by simp [otherMem]) with ⟨others, othersEq⟩
      exact ⟨first :: others, by simp [firstEq, othersEq, bind, Except.bind, pure, Except.pure]⟩

end

section

/-- What is written item by item is read back item by item. -/
theorem mapM_map_eq_some {α β : Type} {write : α → β} {read : β → Option α}
    (inverse : ∀ item, read (write item) = some item) (items : List α) :
    (items.map write).mapM read = some items := by
  induction items with
  | nil => rfl
  | cons item rest ih => simp [inverse, ih]

end

section

variable {α : Type}

/-- A second condition that is the same for all items that satisfy the first one keeps all of them
or none. -/
theorem filter_and_of_const (first second : α → Bool) (verdict : Bool)
    (same : ∀ item, first item = true → second item = verdict) (items : List α) :
    items.filter (fun item => first item && second item) =
      if verdict then items.filter first else [] := by
  cases verdict with
  | true =>
      apply List.filter_congr
      intro item _
      cases holds : first item with
      | false => rfl
      | true => simp [same item holds]
  | false =>
      apply List.filter_eq_nil_iff.mpr
      intro item _ both
      rw [Bool.and_eq_true] at both
      simp [same item both.1] at both

theorem countP_le_one_of_pairwise {condition : α → Bool} {items : List α}
    (apart : items.Pairwise fun first second =>
      ¬(condition first = true ∧ condition second = true)) :
    items.countP condition ≤ 1 := by
  induction apart with
  | nil => simp
  | @cons first rest differs _ ih =>
      cases holds : condition first with
      | false => simpa [holds] using ih
      | true =>
          have noneLater : rest.countP condition = 0 := by
            rw [List.countP_eq_zero]
            intro other otherMem otherHolds
            exact differs other otherMem ⟨holds, otherHolds⟩
          simp [holds, noneLater]

/-- Items that are left out do not matter exactly if each of them stands for nothing. -/
theorem flatMap_filter_eq_iff {β : Type} {keep : α → Bool} {expand : α → List β} {items : List α} :
    (items.filter keep).flatMap expand = items.flatMap expand ↔
      ∀ item ∈ items, keep item = false → expand item = [] := by
  induction items with
  | nil => simp
  | cons item rest ih =>
      cases kept : keep item with
      | true => simp [kept, ih]
      | false =>
          simp only [List.filter_cons, kept, Bool.false_eq_true, if_false, List.flatMap_cons,
            List.forall_mem_cons, forall_const]
          constructor
          · intro same
            have shorter := (List.filter_sublist (p := keep) (l := rest)).flatMap expand
            have lengths := congrArg List.length same
            have nothing : expand item = [] := by
              apply List.eq_nil_of_length_eq_zero
              have := shorter.length_le
              simp only [List.length_append] at lengths
              omega
            refine ⟨nothing, ih.mp ?_⟩
            simpa [nothing] using same
          · rintro ⟨nothing, others⟩
            simp [nothing, ih.mpr others]

end

end RowLog
