import Jaull.Lib.Dict
import Mathlib.Data.List.Induction
import Mathlib.Data.Prod.Lex

/-!
# Leaders under keys

The best item met under each key, by a running comparison: a dictionary whose entry of a key is replaced
where a later item is better. `lookup_leaders` says what it holds where the comparison is of ranks.
-/

namespace Jaull.Lib

universe u v w
variable {ι : Type u} {κ : Type v} {ρ : Type w} [LinearOrder ρ]

/-- An item of least rank among the items of a key, or that the key has no items. -/
def Leads (key : ι → Option κ) (rank : ι → ρ) (items : List ι) (k : κ) : Option ι → Prop
  | none => ∀ item ∈ items, key item ≠ some k
  | some best => best ∈ items ∧ key best = some k ∧ ∀ item ∈ items, key item = some k → rank best ≤ rank item

variable {key : ι → Option κ} {rank : ι → ρ} {items : List ι} {item : ι} {k : κ}

/-- An item of another key changes nothing. -/
lemma Leads.append_other {best : Option ι} (leads : Leads key rank items k best) (other : key item ≠ some k) :
    Leads key rank (items ++ [item]) k best := by
  cases best with
  | none => exact List.forall_mem_append.mpr ⟨leads, List.forall_mem_singleton.mpr other⟩
  | some best =>
    obtain ⟨there, own, least⟩ := leads
    have leaves : key item = some k → rank best ≤ rank item := fun own' => absurd own' other
    exact ⟨List.mem_append_left _ there, own,
      List.forall_mem_append.mpr ⟨least, List.forall_mem_singleton.mpr leaves⟩⟩

/-- The first item of a key leads. -/
lemma Leads.append_first (leads : Leads key rank items k none) (own : key item = some k) :
    Leads key rank (items ++ [item]) k (some item) := by
  have none' : ∀ item' ∈ items, key item' = some k → rank item ≤ rank item' :=
    fun item' mem own' => absurd own' (leads item' mem)
  exact ⟨List.mem_append_right _ (List.mem_singleton_self item), own,
    List.forall_mem_append.mpr ⟨none', List.forall_mem_singleton.mpr fun _ => le_rfl⟩⟩

/-- A better item takes the lead. -/
lemma Leads.append_better {best : ι} (leads : Leads key rank items k (some best)) (own : key item = some k)
    (lt : rank item < rank best) : Leads key rank (items ++ [item]) k (some item) := by
  obtain ⟨there, own', least⟩ := leads
  have beaten : ∀ item' ∈ items, key item' = some k → rank item ≤ rank item' :=
    fun item' mem own' => le_trans (le_of_lt lt) (least item' mem own')
  exact ⟨List.mem_append_right _ (List.mem_singleton_self item), own,
    List.forall_mem_append.mpr ⟨beaten, List.forall_mem_singleton.mpr fun _ => le_rfl⟩⟩

/-- Any other item leaves the lead. -/
lemma Leads.append_worse {best : ι} (leads : Leads key rank items k (some best))
    (le : rank best ≤ rank item) : Leads key rank (items ++ [item]) k (some best) := by
  obtain ⟨there, own, least⟩ := leads
  exact ⟨List.mem_append_left _ there, own,
    List.forall_mem_append.mpr ⟨least, List.forall_mem_singleton.mpr fun _ => le⟩⟩

/-- Where the ranks tell the items apart, a key has one leader. -/
lemma Leads.unique {items' : List ι} {best best' : Option ι} (leads : Leads key rank items k best)
    (leads' : Leads key rank items' k best') (same : ∀ item, item ∈ items ↔ item ∈ items')
    (apart : ∀ a ∈ items, ∀ b ∈ items, rank a = rank b → a = b) : best = best' := by
  cases best with
  | none =>
    cases best' with
    | none => rfl
    | some best' => exact absurd leads'.2.1 (leads best' ((same best').mpr leads'.1))
  | some best =>
    cases best' with
    | none => exact absurd leads.2.1 (leads' best ((same best).mp leads.1))
    | some best' =>
      obtain ⟨mem, own, least⟩ := leads
      obtain ⟨mem', own', least'⟩ := leads'
      have memL := (same best').mpr mem'
      have equal : rank best = rank best' :=
        le_antisymm (least best' memL own') (least' best ((same best).mp mem) own)
      rw [apart best mem best' memL equal]

variable [DecidableEq κ]

/-- One item of the pass. -/
def takeLead (key : ι → Option κ) (better : ι → ι → Bool) (best : List (κ × ι)) (item : ι) : List (κ × ι) :=
  match key item with
  | none => best
  | some k =>
    match best.lookup k with
    | none => dictSet best k item
    | some current => if better item current then dictSet best k item else best

/-- The best item of every key met. -/
def leaders (key : ι → Option κ) (better : ι → ι → Bool) (items : List ι) : List (κ × ι) :=
  items.foldl (takeLead key better) []

variable {better : ι → ι → Bool}

/-- The entry of every key leads its items. -/
theorem lookup_leaders (ranked : ∀ a b, better a b = true ↔ rank a < rank b) (items : List ι) (k : κ) :
    Leads key rank items k ((leaders key better items).lookup k) := by
  induction items using List.reverseRecOn with
  | nil =>
    intro item mem
    cases mem
  | append_singleton items item ih =>
    rw [leaders, List.foldl_append]
    change Leads key rank (items ++ [item]) k ((takeLead key better (leaders key better items) item).lookup k)
    rw [takeLead]
    cases own : key item with
    | none => exact ih.append_other (by rw [own]; exact (Option.some_ne_none k).symm)
    | some k' =>
      -- the last item concerns one key only
      by_cases same : k = k'
      · subst same
        dsimp only
        cases found : (leaders key better items).lookup k with
        | none =>
          rw [found] at ih
          dsimp only
          rw [lookup_dictSet_self]
          exact ih.append_first own
        | some best =>
          rw [found] at ih
          dsimp only
          split
          · rename_i better'
            rw [lookup_dictSet_self]
            exact ih.append_better own ((ranked item best).mp better')
          · rename_i worse
            rw [found]
            exact ih.append_worse (not_lt.mp fun lt => worse ((ranked item best).mpr lt))
      · have other : key item ≠ some k := by
          rw [own]
          exact fun eq => same (Option.some.inj eq).symm
        dsimp only
        cases found : (leaders key better items).lookup k' with
        | none =>
          dsimp only
          rw [lookup_dictSet_ne same]
          exact ih.append_other other
        | some best =>
          dsimp only
          split
          · rw [lookup_dictSet_ne same]
            exact ih.append_other other
          · exact ih.append_other other

end Jaull.Lib
