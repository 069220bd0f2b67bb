import Rover.Proofs.Binary64.Order
import Rover.Recording

/-!
# Extremes of a recording

The lowest and the highest temperature are found in one way through the series, by taking one of
two values again and again. What is no number gives way, so before the first number the value at
hand is none itself, and from then on it is a number that bounds all numbers so far. Which one of
several equal numbers is taken depends on their order, but its value does not.
-/

namespace Rover

namespace Binary64

/-- Numerically the same: equal numbers, whatever the signs of zeros, or both no number. -/
def Alike (left right : Binary64) : Prop :=
  left.sameNumber right = true ∨ left = .nan ∧ right = .nan

/-- The operation takes that one of two numbers which precedes the other in an order of numbers.
What is no number gives way to the other value. -/
structure Prefers (combine : Binary64 → Binary64 → Binary64)
    (precedes : Binary64 → Binary64 → Prop) : Prop where
  self : ∀ {value}, value ≠ .nan → precedes value value
  trans : ∀ {first second third},
    precedes first second → precedes second third → precedes first third
  same : ∀ {left right}, precedes left right → precedes right left → left.sameNumber right = true
  nan_left : ∀ right, combine .nan right = right
  nan_right : ∀ left, combine left .nan = left
  takes : ∀ {left right}, left ≠ .nan → right ≠ .nan →
    combine left right = left ∧ precedes left right ∨
      combine left right = right ∧ precedes right left

theorem least_of_number {left : Binary64} (notNan : left ≠ .nan) (right : Binary64) :
    left.least right = if right ≤ left then right else left := by
  obtain ⟨negative, rank, rfl⟩ := exists_number notNan
  rfl

theorem greatest_of_number {left : Binary64} (notNan : left ≠ .nan) (right : Binary64) :
    left.greatest right = if left ≤ right then right else left := by
  obtain ⟨negative, rank, rfl⟩ := exists_number notNan
  rfl

theorem prefers_least : Prefers least (· ≤ ·) where
  self := le_self
  trans := atMost_trans
  same low high := sameNumber_iff.mpr ⟨low, high⟩
  nan_left _ := rfl
  nan_right left := by
    cases left with
    | nan => rfl
    | number negative rank => rfl
  takes {left right} notNan notNan' := by
    rw [least_of_number notNan]
    split
    next lower => exact .inr ⟨rfl, lower⟩
    next above => exact .inl ⟨rfl, (le_total notNan notNan').resolve_right above⟩

theorem prefers_greatest : Prefers greatest fun left right => right ≤ left where
  self := le_self
  trans high low := atMost_trans low high
  same high low := sameNumber_iff.mpr ⟨low, high⟩
  nan_left _ := rfl
  nan_right left := by
    cases left with
    | nan => rfl
    | number negative rank => rfl
  takes {left right} notNan notNan' := by
    rw [greatest_of_number notNan]
    split
    next higher => exact .inr ⟨rfl, higher⟩
    next below => exact .inl ⟨rfl, (le_total notNan notNan').resolve_left below⟩

end Binary64

namespace Series

open Binary64 (Alike Prefers)

variable {combine : Binary64 → Binary64 → Binary64} {precedes : Binary64 → Binary64 → Prop}

/-! ## Extremes of a list -/

/-- The value is a number among the samples that precedes all numbers among them, or it is no number
and they hold none. -/
inductive Extreme (precedes : Binary64 → Binary64 → Prop) (samples : List Binary64) :
    Binary64 → Prop
  | none (allNan : ∀ sample ∈ samples, sample = .nan) : Extreme precedes samples .nan
  | number {value : Binary64} (inside : value ∈ samples) (notNan : value ≠ .nan)
      (first : ∀ sample ∈ samples, sample ≠ .nan → precedes value sample) :
      Extreme precedes samples value

namespace Extreme

variable {samples samples' : List Binary64} {value value' : Binary64}

theorem singleton (prefers : Prefers combine precedes) (sample : Binary64) :
    Extreme precedes [sample] sample := by
  rcases eq_or_ne sample .nan with rfl | notNan
  · exact .none (List.forall_mem_singleton.mpr rfl)
  · exact .number (List.mem_singleton_self sample) notNan
      (List.forall_mem_singleton.mpr fun notNan => prefers.self notNan)

/-- One more sample is put together with the extreme of those before, which may be no number yet. -/
theorem concat (prefers : Prefers combine precedes) (extreme : Extreme precedes samples value)
    (next : Binary64) : Extreme precedes (samples ++ [next]) (combine value next) := by
  have last : next ∈ samples ++ [next] := List.mem_append_right _ (List.mem_singleton_self next)
  cases extreme with
  | none allNan =>
      rw [prefers.nan_left]
      rcases eq_or_ne next .nan with rfl | notNan
      · exact .none (List.forall_mem_append.mpr ⟨allNan, List.forall_mem_singleton.mpr rfl⟩)
      · refine .number last notNan (List.forall_mem_append.mpr ⟨?_, ?_⟩)
        · exact fun sample inside notNan => absurd (allNan sample inside) notNan
        · exact List.forall_mem_singleton.mpr fun notNan => prefers.self notNan
  | number inside notNan first =>
      rcases eq_or_ne next .nan with rfl | notNan'
      · rw [prefers.nan_right]
        refine .number (List.mem_append_left _ inside) notNan ?_
        refine List.forall_mem_append.mpr ⟨first, ?_⟩
        exact List.forall_mem_singleton.mpr fun notNan => absurd rfl notNan
      · rcases prefers.takes notNan notNan' with ⟨kept, ordered⟩ | ⟨taken, ordered⟩
        · rw [kept]
          refine .number (List.mem_append_left _ inside) notNan ?_
          exact List.forall_mem_append.mpr ⟨first, List.forall_mem_singleton.mpr fun _ => ordered⟩
        · rw [taken]
          refine .number last notNan' (List.forall_mem_append.mpr ⟨?_, ?_⟩)
          · exact fun sample inside notNan => prefers.trans ordered (first sample inside notNan)
          · exact List.forall_mem_singleton.mpr fun notNan => prefers.self notNan

theorem foldl (prefers : Prefers combine precedes) (extreme : Extreme precedes samples value)
    (further : List Binary64) :
    Extreme precedes (samples ++ further) (further.foldl combine value) := by
  induction further generalizing samples value with
  | nil =>
      rw [List.append_nil]
      exact extreme
  | cons next further ih =>
      have grown := ih (extreme.concat prefers next)
      rwa [List.append_assoc] at grown

/-- Only without a number among the samples there is none. -/
theorem eq_nan_iff (extreme : Extreme precedes samples value) :
    value = .nan ↔ ∀ sample ∈ samples, sample = .nan := by
  cases extreme with
  | none allNan => exact iff_of_true rfl allNan
  | number inside notNan first =>
      exact iff_of_false notNan fun allNan => notNan (allNan value inside)

/-- Of a series that holds a number, the extreme is one, too. -/
theorem of_number (extreme : Extreme precedes samples value)
    (holds : ∃ sample ∈ samples, sample ≠ .nan) :
    (value ∈ samples ∧ value ≠ .nan) ∧
      ∀ sample ∈ samples, sample ≠ .nan → precedes value sample := by
  cases extreme with
  | none allNan =>
      obtain ⟨sample, inside, notNan⟩ := holds
      exact absurd (allNan sample inside) notNan
  | number inside notNan first => exact ⟨⟨inside, notNan⟩, first⟩

/-- The order of the samples makes no numeric difference. -/
theorem alike_of_perm (prefers : Prefers combine precedes)
    (extreme : Extreme precedes samples value) (extreme' : Extreme precedes samples' value')
    (rearranged : samples.Perm samples') : Alike value value' := by
  cases extreme with
  | none allNan =>
      refine .inr ⟨rfl, extreme'.eq_nan_iff.mpr fun sample inside => ?_⟩
      exact allNan sample (rearranged.mem_iff.mpr inside)
  | number inside notNan first =>
      obtain ⟨⟨inside', notNan'⟩, first'⟩ :=
        extreme'.of_number ⟨value, rearranged.mem_iff.mp inside, notNan⟩
      left
      apply prefers.same
      · exact first value' (rearranged.mem_iff.mpr inside') notNan'
      · exact first' value (rearranged.mem_iff.mp inside) notNan

end Extreme

/-! ## Extremes of a series -/

section Reduce

variable {samples samples' : List Binary64}

theorem reduce?_eq_none_iff : reduce? combine samples = none ↔ samples = [] := by
  cases samples with
  | nil => exact iff_of_true rfl rfl
  | cons first rest => exact iff_of_false (by rintro ⟨⟩) (List.cons_ne_nil first rest)

/-- The value at hand starts with the first sample, which is its own extreme. -/
theorem extreme_of_reduce? (prefers : Prefers combine precedes) {value : Binary64}
    (reduced : reduce? combine samples = some value) : Extreme precedes samples value := by
  cases samples with
  | nil => cases reduced
  | cons first rest =>
      cases reduced
      exact (Extreme.singleton prefers first).foldl prefers rest

theorem exists_extreme (prefers : Prefers combine precedes) (filled : samples ≠ []) :
    ∃ value, reduce? combine samples = some value ∧ Extreme precedes samples value := by
  obtain ⟨value, reduced⟩ := Option.ne_none_iff_exists'.mp (mt reduce?_eq_none_iff.mp filled)
  exact ⟨value, reduced, extreme_of_reduce? prefers reduced⟩

/-- With a number among the samples their extreme is a number of them. -/
theorem exists_number_extreme (prefers : Prefers combine precedes)
    (holds : ∃ sample ∈ samples, sample ≠ .nan) :
    ∃ value, reduce? combine samples = some value ∧ (value ∈ samples ∧ value ≠ .nan) ∧
      ∀ sample ∈ samples, sample ≠ .nan → precedes value sample := by
  have filled : samples ≠ [] := fun empty => by
    obtain ⟨sample, inside, -⟩ := holds
    exact List.ne_nil_of_mem inside empty
  obtain ⟨value, reduced, extreme⟩ := exists_extreme prefers filled
  exact ⟨value, reduced, extreme.of_number holds⟩

theorem reduce?_eq_nan_iff (prefers : Prefers combine precedes) :
    reduce? combine samples = some .nan ↔ samples ≠ [] ∧ ∀ sample ∈ samples, sample = .nan := by
  constructor
  · intro reduced
    have filled : samples ≠ [] := fun empty => by
      rw [reduce?_eq_none_iff.mpr empty] at reduced
      cases reduced
    exact ⟨filled, (extreme_of_reduce? prefers reduced).eq_nan_iff.mp rfl⟩
  · rintro ⟨filled, allNan⟩
    obtain ⟨value, reduced, extreme⟩ := exists_extreme prefers filled
    rw [reduced, extreme.eq_nan_iff.mpr allNan]

theorem reduce?_alike_of_perm (prefers : Prefers combine precedes)
    (rearranged : samples.Perm samples') :
    Option.Rel Alike (reduce? combine samples) (reduce? combine samples') := by
  rcases eq_or_ne samples [] with empty | filled
  · have empty' : samples' = [] := (empty ▸ rearranged).nil_eq.symm
    rw [empty, empty']
    exact .none
  · have filled' : samples' ≠ [] := fun empty => filled (empty ▸ rearranged).eq_nil
    obtain ⟨value, reduced, extreme⟩ := exists_extreme prefers filled
    obtain ⟨value', reduced', extreme'⟩ := exists_extreme prefers filled'
    rw [reduced, reduced']
    exact .some (extreme.alike_of_perm prefers extreme' rearranged)

end Reduce

/-- The extremes of a series are there unless it is empty, wherever samples that are no numbers
stand. With a number in the series both are numbers of it, the lowest at most and the highest at
least every number of it; without one, and only then, both are no number. The order of the samples
makes no numeric difference. -/
theorem extremes_bound_numbers (series : Series) :
    let holdsNumber := ∃ sample ∈ series.samples, sample ≠ .nan
    ((series.least? = none ↔ series.samples = #[]) ∧
      (series.greatest? = none ↔ series.samples = #[])) ∧
    (holdsNumber → ∃ low high, series.least? = some low ∧ series.greatest? = some high ∧
      ((low ∈ series.samples ∧ low ≠ .nan) ∧
        ∀ sample ∈ series.samples, sample ≠ .nan → low ≤ sample) ∧
      ((high ∈ series.samples ∧ high ≠ .nan) ∧
        ∀ sample ∈ series.samples, sample ≠ .nan → sample ≤ high) ∧
      low ≤ high) ∧
    ((series.least? = some .nan ↔ series.samples ≠ #[] ∧ ¬holdsNumber) ∧
      (series.greatest? = some .nan ↔ series.samples ≠ #[] ∧ ¬holdsNumber)) ∧
    ∀ other : Series, series.samples.Perm other.samples →
      Option.Rel Alike series.least? other.least? ∧
      Option.Rel Alike series.greatest? other.greatest? := by
  obtain ⟨samples, requested⟩ := series
  intro holdsNumber
  have empty : samples = #[] ↔ samples.toList = [] := Array.toList_eq_nil_iff.symm
  have numberless : (samples ≠ #[] ∧ ¬holdsNumber) ↔
      samples.toList ≠ [] ∧ ∀ sample ∈ samples.toList, sample = .nan := by
    simp [holdsNumber]
  refine ⟨⟨?_, ?_⟩, ?bounds, ⟨?_, ?_⟩, ?permuted⟩
  · exact reduce?_eq_none_iff.trans empty.symm
  · exact reduce?_eq_none_iff.trans empty.symm
  case bounds =>
    intro holds
    simp only [holdsNumber, ← Array.mem_toList_iff] at holds ⊢
    obtain ⟨low, reduced, lowest, below⟩ := exists_number_extreme Binary64.prefers_least holds
    obtain ⟨high, reduced', highest, above⟩ :=
      exists_number_extreme Binary64.prefers_greatest holds
    exact ⟨low, high, reduced, reduced', ⟨lowest, below⟩, ⟨highest, above⟩,
      below high highest.1 highest.2⟩
  · exact (reduce?_eq_nan_iff Binary64.prefers_least).trans numberless.symm
  · exact (reduce?_eq_nan_iff Binary64.prefers_greatest).trans numberless.symm
  case permuted =>
    intro other rearranged
    exact ⟨reduce?_alike_of_perm Binary64.prefers_least rearranged.toList,
      reduce?_alike_of_perm Binary64.prefers_greatest rearranged.toList⟩

/-- Samples that are no numbers at the start, in a run and at the end, and both zeros: the extremes
are those of the numbers, and they are numerically the same backwards. -/
theorem extremes_bound_numbers_scattered :
    let zero : Binary64 := .zero
    let other : Binary64 := .negativeZero
    let series : Series := ⟨#[.nan, zero, .nan, .nan, .ofInt (-3), other, .nan], 7⟩
    let backwards : Series := ⟨#[.nan, other, .ofInt (-3), .nan, .nan, zero, .nan], 7⟩
    (∃ low high, series.least? = some low ∧ series.greatest? = some high ∧ low ≤ high) ∧
      series.greatest? = some other ∧ backwards.greatest? = some zero ∧
      Option.Rel Alike series.greatest? backwards.greatest? := by
  intro zero other series backwards
  obtain ⟨-, bounds, -, permuted⟩ := extremes_bound_numbers series
  obtain ⟨low, high, least, greatest, -, -, ordered⟩ :=
    bounds ⟨.ofInt (-3), by decide +kernel, by decide +kernel⟩
  have rearranged : series.samples.Perm backwards.samples :=
    Array.perm_iff_toList_perm.mpr (List.reverse_perm series.samples.toList).symm
  exact ⟨⟨low, high, least, greatest, ordered⟩, by decide +kernel, by decide +kernel,
    (permuted backwards rearranged).2⟩

end Series

end Rover
